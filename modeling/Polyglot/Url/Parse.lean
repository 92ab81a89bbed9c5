import Polyglot.Url.Host

/-! Reading URLs. What is read is brought into its normal form: schemes and domains in lower case,
dots in paths resolved, and codes in place of the characters that a part may not hold. -/

namespace Polyglot.Url

/-- The kinds of scheme. -/
inductive SchemeKind where
  | file
  /-- A scheme that knows domains and, if it is absent, a port. -/
  | special (port : Nat)
  | other
deriving DecidableEq, Repr

namespace SchemeKind

def ofScheme (scheme : String) : SchemeKind :=
  match scheme with
  | "file" => .file
  | "http" => .special 80
  | "https" => .special 443
  | "ws" => .special 80
  | "wss" => .special 443
  | "ftp" => .special 21
  | _ => .other

def isSpecial : SchemeKind → Bool
  | .other => false
  | _ => true

/-- What divides the segments of a path. -/
def isSlash (k : SchemeKind) (c : Char) : Bool := c == '/' || (k.isSpecial && c == '\\')

end SchemeKind

/-- Reads a scheme and its colon. -/
def scheme? (cs : List Char) : Option (String × List Char) :=
  match cs with
  | c :: _ =>
    let name := cs.takeWhile fun c => c.isAlphanum || c == '+' || c == '-' || c == '.'
    match cs.drop name.length with
    | ':' :: r => if c.isAlpha then some (String.ofList (name.map Char.toLower), r) else none
    | _ => none
  | [] => none

/-- Cuts a text at the first character of a class, which stays with the rest. -/
def cutAt (p : Char → Bool) (cs : List Char) : List Char × List Char := cs.span fun c => !p c

/-- A segment with its coded dots read. -/
def readDots : List Char → List Char
  | '%' :: '2' :: 'e' :: r => '.' :: readDots r
  | '%' :: '2' :: 'E' :: r => '.' :: readDots r
  | c :: r => c :: readDots r
  | [] => []

/-- Drops the last segment; in the path of a file a drive stays. -/
def dropSegment (k : SchemeKind) (read : List String) : List String :=
  if k == .file && read.getLast?.any fun s => isDriveLetter s.toList then read else read.dropLast

/-- Resolves dots among segments. A dot at the end of a path leaves an empty segment. -/
def resolveDots (k : SchemeKind) (read : List String) : List (List Char) → List String
  | [] => read
  | s :: ss =>
    let dots := readDots s
    if dots == ['.', '.'] then
      let read := dropSegment k read
      resolveDots k (if ss.isEmpty then read ++ [""] else read) ss
    else if dots == ['.'] then resolveDots k (if ss.isEmpty then read ++ [""] else read) ss
    else
      let s := if k == .file && read.isEmpty && isDriveLetter s then s.take 1 ++ [':'] else s
      resolveDots k (read ++ [String.ofList (Text.Percent.encodeBy escapesInPath s)]) ss

/-- Reads a path that comes after a host or a root. -/
def readPath (k : SchemeKind) (cs : List Char) : UrlPath :=
  match cs with
  | [] => if k.isSpecial then .segments [""] else .segments []
  | c :: r => .segments (resolveDots k [] ((if k.isSlash c then r else cs).splitOnP k.isSlash))

/-- What is written as a code in a query. -/
def escapesInQuery (k : SchemeKind) (c : Char) : Bool :=
  isControl c || c == ' ' || c == '"' || c == '#' || c == '<' || c == '>' ||
    (k.isSpecial && c == '\x27')

/-- What is written as a code in the name or the password of a user. -/
def escapesInUserinfo (c : Char) : Bool :=
  escapesInPath c || c == '/' || c == ':' || c == ';' || c == '=' || c == '@' || c == '[' ||
    c == '\\' || c == ']' || c == '^' || c == '|'

/-- Reads the name of a user and, after a colon, a password. -/
def readUserinfo (cs : List Char) : Option String :=
  let (name, password) := cutAt (· == ':') cs
  let code := fun cs => String.ofList (Text.Percent.encodeBy escapesInUserinfo cs)
  if name.isEmpty && password.length ≤ 1 then none
  else some (code name ++ if password.length ≤ 1 then "" else ":" ++ code (password.drop 1))

/-- Cuts a text at the last occurrence of a character. -/
def cutLast (c : Char) (cs : List Char) : Option (List Char × List Char) :=
  if cs.contains c then
    let after := (cs.reverse.takeWhile (· != c)).reverse
    some (cs.take (cs.length - after.length - 1), after)
  else none

/-- Cuts a host from its port; a colon in brackets belongs to the host. -/
def cutPort (cs : List Char) : List Char × List Char :=
  match cs with
  | '[' :: _ =>
    let (inner, r) := cutAt (· == ']') cs
    (inner ++ r.take 1, r.drop 1)
  | cs => cutAt (· == ':') cs

/-- Reads a port after its colon; that of the scheme is left out. -/
def readPort? (k : SchemeKind) (cs : List Char) : Option (Option Nat) :=
  match cs with
  | [] => some none
  | ':' :: [] => some none
  | ':' :: r =>
    if r.all Char.isDigit then
      let n := (Host.digits? 10 r).getD 0
      if 65535 < n then none else some (if k == .special n then none else some n)
    else none
  | _ => none

/-- Reads the part between the double slash and the path. -/
def readAuthority? (scheme : String) (k : SchemeKind) (cs : List Char) (path : UrlPath) :
    Option Url := do
  let (userinfo, place) := match cutLast '@' cs with
    | some (user, place) => (readUserinfo user, place)
    | none => (none, cs)
  let (host, port) := cutPort place
  let port ← readPort? k port
  let text ← if k.isSpecial then Host.domain? host
    else if host.isEmpty then (if userinfo.isSome || port.isSome then none else some "")
    else Host.plain? host
  some { scheme, userinfo, host := some text, port, path }

/-- Reads a file URL. A drive in the place of the host is part of the path. -/
def readFile? (cs : List Char) : Option Url :=
  let k := SchemeKind.file
  match cs with
  | a :: b :: r =>
    if k.isSlash a && k.isSlash b then
      let (host, path) := cutAt k.isSlash r
      if isDriveLetter host then
        some { scheme := "file", host := some "", path := readPath k r }
      else if host.isEmpty then some { scheme := "file", host := some "", path := readPath k path }
      else (Host.domain? host).map fun host =>
        let host := if host == "localhost" then "" else host
        { scheme := "file", host := some host, path := readPath k path }
    else some { scheme := "file", host := some "", path := readPath k cs }
  | cs => some { scheme := "file", host := some "", path := readPath k cs }

/-- Reads what follows the scheme, up to the query. -/
def readBody? (scheme : String) (k : SchemeKind) (cs : List Char) : Option Url :=
  match k with
  | .file => readFile? cs
  | .special _ =>
    let (authority, path) := cutAt k.isSlash (cs.dropWhile k.isSlash)
    readAuthority? scheme k authority (readPath k path)
  | .other =>
    match cs with
    | '/' :: '/' :: r =>
      let (authority, path) := cutAt k.isSlash r
      readAuthority? scheme k authority (readPath k path)
    | '/' :: _ => some { scheme, path := readPath k cs }
    | cs => some { scheme, path := .plain (String.ofList (Text.Percent.encodeBy isControl cs)) }

/-- Whether a character is cut from both ends of a URL. -/
def isEdge (c : Char) : Bool := c.toNat ≤ 32

/-- Reads a URL. Tabs and line ends in it do not count. -/
def parse? (s : String) : Option Url := do
  let trimmed := ((s.toList.dropWhile isEdge).reverse.dropWhile isEdge).reverse
  let cs := trimmed.filter fun c => c != '\t' && c != '\n' && c != '\r'
  let (scheme, r) ← scheme? cs
  let k := SchemeKind.ofScheme scheme
  let (before, fragment) := cutAt (· == '#') r
  let (body, query) := cutAt (· == '?') before
  let url ← readBody? scheme k body
  some { url with
    query := if query.isEmpty then none
      else some (String.ofList (Text.Percent.encodeBy (escapesInQuery k) query.tail))
    fragment := if fragment.isEmpty then none
      else some (String.ofList (Text.Percent.encodeBy escapesInFragment fragment.tail)) }

/-- The normal form of the text of a URL. -/
def normalize? (s : String) : Option String := (parse? s).map text

end Polyglot.Url
