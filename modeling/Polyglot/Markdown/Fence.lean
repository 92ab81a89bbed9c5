import Polyglot.Markdown.Cursor

/-! Code fences: runs of at least three backticks or tildes. -/

namespace Polyglot.Markdown

/-- The backtick, which may not appear in the info string of a backtick fence. -/
def backtick : Char := '\x60'

/-- An opening fence: its character, its length and the blanks that indent it. -/
structure Fence where
  mark : Char
  length : Nat
  indent : Nat
deriving DecidableEq, Repr

namespace Fence

/-- How many times a character leads a text. -/
def run (c : Char) (cs : List Char) : Nat := (cs.takeWhile (· == c)).length

/-- Reads an opening fence at a cursor, with the text after it. The indentation counts characters,
so a tab in it counts once. -/
def opening? (cur : Cursor) : Option (Fence × List Char) :=
  let start := cur.skipBlanks
  match start.rest with
  | [] => none
  | c :: _ =>
    let n := run c start.rest
    let after := start.rest.drop n
    if 3 ≤ n && (c == '~' || (c == backtick && !after.contains backtick)) then
      some (⟨c, n, cur.rest.length - start.rest.length⟩, after)
    else none

/-- Whether the line at a cursor closes the fence: the same character, at least as often, and
nothing but blanks after it. -/
def closes (f : Fence) (cur : Cursor) : Bool :=
  let cs := cur.skipBlanks.rest
  let n := run f.mark cs
  cur.indent ≤ 3 && 3 ≤ n && f.length ≤ n && (cs.drop n).all isIndent

end Fence

end Polyglot.Markdown
