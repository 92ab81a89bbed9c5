/-! A place on a line. Tab stops stand at every fourth column, and a marker may use up only some of
the columns of a tab: what is left of that tab counts as spaces. -/

namespace Polyglot.Markdown

/-- Space or tab: the only characters that indent a line or leave it blank. -/
def isIndent (c : Char) : Bool := c == ' ' || c == '\t'

/-- The distance from a column to the next tab stop. -/
def toTabStop (column : Nat) : Nat := 4 - column % 4

/-- A place on a line: what follows it, its column, and whether it stands inside a tab, which is
then the first character that follows. -/
structure Cursor where
  rest : List Char
  column : Nat := 0
  inTab : Bool := false
deriving DecidableEq, Repr

namespace Cursor

/-- How many columns of blanks lead a text that starts at a column. -/
def blankWidth (column : Nat) : List Char → Nat
  | ' ' :: r => 1 + blankWidth (column + 1) r
  | '\t' :: r => toTabStop column + blankWidth (column + toTabStop column) r
  | _ => 0

/-- The indentation at the cursor, in columns. -/
def indent (cur : Cursor) : Nat := blankWidth cur.column cur.rest

/-- Only blanks follow. -/
def isBlank (cur : Cursor) : Bool := cur.rest.all isIndent

/-- Moves past all blanks. -/
def skipBlanks (cur : Cursor) : Cursor :=
  if cur.indent = 0 then cur else ⟨cur.rest.dropWhile isIndent, cur.column + cur.indent, false⟩

/-- Moves one column on. -/
def dropColumn (cur : Cursor) : Cursor :=
  match cur.rest with
  | [] => cur
  | '\t' :: r =>
    if toTabStop cur.column = 1 then ⟨r, cur.column + 1, false⟩ else ⟨cur.rest, cur.column + 1, true⟩
  | _ :: r => ⟨r, cur.column + 1, false⟩

/-- Moves some columns on. -/
def dropColumns : Nat → Cursor → Cursor
  | 0, cur => cur
  | n + 1, cur => dropColumns n cur.dropColumn

/-- Moves past some marker characters, none of which is a tab. -/
def dropMarker (n : Nat) (cur : Cursor) : Cursor := ⟨cur.rest.drop n, cur.column + n, false⟩

/-- Moves past one column of blank, if a blank follows. -/
def dropBlank (cur : Cursor) : Cursor :=
  if cur.rest.head?.any isIndent then cur.dropColumn else cur

/-- Moves past at most so many columns of blanks. -/
def dropBlanks : Nat → Cursor → Cursor
  | 0, cur => cur
  | n + 1, cur => if cur.rest.head?.any isIndent then dropBlanks n cur.dropColumn else cur

/-- What follows, the rest of a tab written as spaces. -/
def remainder (cur : Cursor) : List Char :=
  if cur.inTab then List.replicate (toTabStop cur.column) ' ' ++ cur.rest.tail else cur.rest

end Cursor

end Polyglot.Markdown
