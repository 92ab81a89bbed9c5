import Polyglot.Markdown.Cursor
import Polyglot.Text.Lines

/-! List markers: a bullet, or up to nine digits and a delimiter. -/

namespace Polyglot.Markdown

/-- What the items of one list have in common. -/
inductive ListKind where
  | bullet (mark : Char)
  | ordered (delimiter : Char)
deriving DecidableEq, Repr

/-- A marker read at the start of an item, with its number of characters. -/
structure ListMarker where
  kind : ListKind
  length : Nat
deriving DecidableEq, Repr

namespace ListMarker

/-- The value of a run of decimal digits. -/
def number (digits : List Char) : Nat :=
  digits.foldl (fun n c => 10 * n + (c.toNat - '0'.toNat)) 0

/-- Whether what follows a bullet lets an item start. The end of a line separates a bullet from its
empty content, and so does the end of the text. An item that interrupts a paragraph needs content or
a carriage return. -/
def bulletSeparated (interrupting : Bool) (ending : Option Text.Terminator) : List Char → Bool
  | [] => !interrupting || endsInReturn
  | c :: r => isIndent c && (!interrupting || endsInReturn || !r.all isIndent)
where
  endsInReturn := ending == some .cr || ending == some .crlf

/-- Whether what follows a number lets an item start. The end of the text does not separate it from
its empty content. An item that interrupts a paragraph needs content. -/
def numberSeparated (interrupting : Bool) (ending : Option Text.Terminator) : List Char → Bool
  | [] => ending.isSome && !interrupting
  | c :: r => isIndent c && !(interrupting && r.all isIndent)

/-- Reads a marker at the front of a text. `interrupting` says that a paragraph is open here, and
`ending` is the terminator of the line. Only a list that starts at one interrupts a paragraph. -/
def read? (interrupting : Bool) (ending : Option Text.Terminator) (cs : List Char) :
    Option ListMarker :=
  match cs with
  | [] => none
  | c :: r =>
    if c == '*' || c == '-' || c == '+' then
      if bulletSeparated interrupting ending r then some ⟨.bullet c, 1⟩ else none
    else
      let digits := (cs.take 9).takeWhile Char.isDigit
      if digits.isEmpty || (interrupting && number digits != 1) then none
      else
        match cs.drop digits.length with
        | d :: after =>
          if (d == '.' || d == ')') && numberSeparated interrupting ending after then
            some ⟨.ordered d, digits.length + 1⟩
          else none
        | [] => none

end ListMarker

end Polyglot.Markdown
