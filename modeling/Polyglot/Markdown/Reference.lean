import Polyglot.Markdown.Cursor

/-! Link reference definitions at the front of a paragraph. A paragraph that holds nothing else
leaves no block behind. -/

namespace Polyglot.Markdown.Reference

/-- The ASCII punctuation characters, which a backslash escapes. -/
def isPunctuation (c : Char) : Bool :=
  let n := c.toNat
  (33 ≤ n && n ≤ 47) || (58 ≤ n && n ≤ 64) || (91 ≤ n && n ≤ 96) || (123 ≤ n && n ≤ 126)

/-- White space around labels and inside definitions. -/
def isSpace (c : Char) : Bool := c == ' ' || c == '\t' || c == '\n' || c == '\r'

/-- The longest label, in bytes. -/
def maxLabel : Nat := 1000

/-- Reads the rest of a label up to its closing bracket: whether it holds anything but white space,
and what follows. `room` is how many bytes it may still take. -/
def label? (room : Nat) (inhabited : Bool) : List Char → Option (Bool × List Char)
  | [] => none
  | '[' :: _ => none
  | ']' :: r => some (inhabited, r)
  | '\\' :: c :: r =>
    if isPunctuation c then if room < 2 then none else label? (room - 2) true r
    else if room < 1 then none
    else label? (room - 1) true (c :: r)
  | c :: r => if room < c.utf8Size then none else label? (room - c.utf8Size) (inhabited || !isSpace c) r

/-- Moves past blanks. -/
def skipBlanks (cs : List Char) : List Char := cs.dropWhile isIndent

/-- Moves past the end of a line; the end of the text is one. -/
def afterLineEnd? : List Char → Option (List Char)
  | [] => some []
  | '\r' :: '\n' :: r => some r
  | '\r' :: r => some r
  | '\n' :: r => some r
  | _ => none

/-- Moves past blanks with at most one end of a line among them. -/
def skipBreak (cs : List Char) : List Char :=
  let r := skipBlanks cs
  match afterLineEnd? r with
  | some after => skipBlanks after
  | none => r

/-- What follows a destination in angle brackets, the opening one read already. -/
def afterAngled? : List Char → Option (List Char)
  | [] => none
  | '>' :: r => some r
  | '\\' :: _ :: r => afterAngled? r
  | c :: r => if c == '\n' || c == '<' then none else afterAngled? r

/-- Whether a character cannot stand in a bare destination. -/
def endsBare (c : Char) : Bool := c.toNat ≤ 32 || c.toNat == 127

/-- What follows a bare destination: it ends at white space, a control character or a closing
parenthesis too many. At most 32 parentheses are open at a time. -/
def afterBare? (depth : Nat) : List Char → Option (List Char)
  | [] => none
  | '\\' :: c :: r => if isPunctuation c then afterBare? depth r else afterBare? depth (c :: r)
  | '(' :: r => if 32 ≤ depth then none else afterBare? (depth + 1) r
  | ')' :: r => if depth = 0 then some (')' :: r) else afterBare? (depth - 1) r
  | c :: r => if endsBare c then (if depth = 0 then some (c :: r) else none) else afterBare? depth r

/-- What follows a destination. -/
def afterDestination? (cs : List Char) : Option (List Char) :=
  match cs with
  | [] => none
  | '<' :: r => (afterAngled? r).bind fun after => if after.isEmpty then none else some after
  | c :: _ => if endsBare c then none else afterBare? 0 cs

/-- What follows a title, its opening mark read already. A mark that follows a backslash is taken as
the end only if no other is found. `escaped` says that a backslash came last, `found` is what
follows the best end so far. -/
def afterTitle? (opener closer : Char) (escaped : Bool) (found : Option (List Char)) :
    List Char → Option (List Char)
  | [] => found
  | c :: r =>
    if c == closer then
      if escaped then afterTitle? opener closer false (some r) r else some r
    else if c == '\x00' || (c == opener && !escaped) then found
    else afterTitle? opener closer (c == '\\') found r

/-- Reads a title, if one stands here. -/
def title? : List Char → Option (List Char)
  | '"' :: r => afterTitle? '"' '"' false none r
  | '\x27' :: r => afterTitle? '\x27' '\x27' false none r
  | '(' :: r => afterTitle? '(' ')' false none r
  | _ => none

/-- What follows one definition at the front of a text. A title that something else follows on its
line does not count, so the definition must then end before it. -/
def definition? : List Char → Option (List Char)
  | '[' :: r =>
    match label? maxLabel false r with
    | some (true, ':' :: after) =>
      (afterDestination? (skipBreak after)).bind fun dest =>
        let plain := afterLineEnd? (skipBlanks dest)
        let separated := skipBreak dest
        if separated.length = dest.length then plain
        else
          match title? separated with
          | some after => (afterLineEnd? (skipBlanks after)).or plain
          | none => plain
    | _ => none
  | _ => none

/-- Drops the definitions at the front of a paragraph; each takes at least one character of the
fuel. -/
def dropDefinitions : Nat → List Char → List Char
  | 0, cs => cs
  | n + 1, cs =>
    match definition? cs with
    | some r => dropDefinitions n r
    | none => cs

/-- What a paragraph holds after its definitions. -/
def afterDefinitions (cs : List Char) : List Char := dropDefinitions cs.length cs

/-- Whether the first line of a text holds anything. -/
def hasContent (cs : List Char) : Bool :=
  match cs.dropWhile isIndent with
  | [] => false
  | c :: _ => c != '\n' && c != '\r'

end Polyglot.Markdown.Reference
