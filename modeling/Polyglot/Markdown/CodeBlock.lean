import Polyglot.Markdown.Entity
import Polyglot.Markdown.Fence
import Polyglot.Text.Blank
import Polyglot.Text.Lines

/-! Code blocks: open ones, which gather lines, and closed ones, which carry a literal. -/

namespace Polyglot.Markdown

open Text (Line)

/-- A code block of a document. Lines are numbered from one, and `last` is where the block was
found to end. -/
structure CodeBlock where
  fenced : Bool
  first : Nat
  last : Nat
  info : String
  literal : List Char
deriving DecidableEq, Repr

/-- A code block that still gathers lines: what opened it and the lines of its content. -/
structure OpenCode where
  fence : Option Fence
  first : Nat
  info : List Char := []
  body : Array Line := #[]
deriving DecidableEq, Repr

namespace OpenCode

/-- Adds a line of content. -/
def push (code : OpenCode) (text : List Char) (line : Line) : OpenCode :=
  { code with body := code.body.push ⟨text, line.ending⟩ }

/-- A line of blanks only. -/
def isBlankLine (l : Line) : Bool := l.text.all isIndent

/-- The lines up to the last one that is not blank. -/
def dropTrailingBlank (ls : List Line) : List Line := (ls.reverse.dropWhile isBlankLine).reverse

/-- The text of the lines before the terminator of the last one. -/
def joined : List Line → List Char
  | [] => []
  | [l] => l.text
  | l :: ls => l.chars ++ joined ls

/-- The content of the block. That of indented code ends in a line feed after its last line that is
not blank. -/
def literal (code : OpenCode) : List Char :=
  match code.fence with
  | some _ => code.body.toList.flatMap Line.chars
  | none => joined (dropTrailingBlank code.body.toList) ++ ['\n']

/-- The info string that stands after a fence: character references are resolved, then blanks around
it and then escapes are dropped. -/
def infoString (cs : List Char) : String :=
  String.ofList (Entity.unescape (Text.trimBy Reference.isSpace (Entity.resolve cs)))

/-- Closes the block at a line. -/
def close (code : OpenCode) (last : Nat) : CodeBlock :=
  ⟨code.fence.isSome, code.first, last, infoString code.info, code.literal⟩

end OpenCode

end Polyglot.Markdown
