import Polyglot.Path
import Polyglot.Text.Percent

/-! URLs in their normal form, and the correspondence between file URLs and paths. -/

namespace Polyglot

/-- The path of a URL: a text of its own, or segments below a root. -/
inductive UrlPath where
  | plain (text : String)
  | segments (segments : List String)
deriving DecidableEq, Repr

/-- A URL, each part written as it is printed. -/
structure Url where
  scheme : String
  userinfo : Option String := none
  host : Option String := none
  port : Option Nat := none
  path : UrlPath
  query : Option String := none
  fragment : Option String := none
deriving DecidableEq, Repr

namespace Url

/-- The text of a path; `hidden` if it could be taken for a host. -/
def pathText (hidden : Bool) : UrlPath → String
  | .plain text => text
  | .segments segments => (if hidden then "/." else "") ++ String.join (segments.map ("/" ++ ·))

/-- Whether a path starts with an empty segment before others. -/
def startsEmpty : UrlPath → Bool
  | .segments ("" :: _ :: _) => true
  | _ => false

/-- The text of the part between the scheme and the path. -/
def authorityText (u : Url) : String :=
  match u.host with
  | none => ""
  | some host =>
    "//" ++ (u.userinfo.map (· ++ "@")).getD "" ++ host ++
      (u.port.map fun p => ":" ++ toString p).getD ""

/-- The text of a URL. -/
def text (u : Url) : String :=
  u.scheme ++ ":" ++ u.authorityText ++ pathText (u.host.isNone && startsEmpty u.path) u.path ++
    (u.query.map ("?" ++ ·)).getD "" ++ (u.fragment.map ("#" ++ ·)).getD ""

/-- Control characters and all that is not ASCII. -/
def isControl (c : Char) : Bool := c.toNat < 32 || 127 ≤ c.toNat

/-- What is written as a code in a fragment. -/
def escapesInFragment (c : Char) : Bool :=
  isControl c || c == ' ' || c == '"' || c == '<' || c == '>' || c == '\x60'

/-- What is written as a code in a path. -/
def escapesInPath (c : Char) : Bool :=
  escapesInFragment c || c == '#' || c == '?' || c == '\x7b' || c == '\x7d'

/-- What is written as a code when a name becomes one segment of a path. -/
def escapesInSegment (c : Char) : Bool := escapesInPath c || c == '/' || c == '%' || c == '\\'

/-- The segment that stands for a file name. -/
def encodeSegment (name : String) : String :=
  String.ofList (Text.Percent.encodeBy escapesInSegment name.toList)

/-- The file URL of a path; none if the path is not absolute. -/
def ofFilePath? (path : String) : Option String :=
  if Path.isAbsolute path then
    some ("file://" ++ Path.ofComponents ((Path.components path).map encodeSegment))
  else none

/-- A letter and a colon, or a bar in its place. -/
def isDriveLetter : List Char → Bool
  | [c, d] => c.isAlpha && (d == ':' || d == '|')
  | _ => false

/-- Whether a path ends as a drive does. -/
def endsInDrive (path : String) : Bool :=
  match path.toList.reverse with
  | d :: c :: _ => isDriveLetter [c, d]
  | _ => false

/-- A path with a slash after a drive at its end: a drive is a directory. -/
def closeDrive (path : String) : String := if endsInDrive path then path ++ "/" else path

/-- The path that a URL names: its segments decoded, each after a slash. -/
def namedPath? (u : Url) : Option String :=
  match u.path with
  | .segments segments =>
    if u.host.all fun host => host.isEmpty || host == "localhost" then
      (segments.mapM fun s => Text.Percent.decode? s.toList).map fun names =>
        String.join (names.map ("/" ++ ·))
    else none
  | .plain _ => none

/-- The path on this machine for the one that a URL names. -/
def filePath? (u : Url) : Option String := u.namedPath?.map closeDrive

end Url

end Polyglot
