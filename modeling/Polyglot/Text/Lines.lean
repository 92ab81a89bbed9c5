/-! Cutting a text into lines at its terminators, and joining lines again. A carriage return that a
line feed follows is one terminator with it. A text has one line more than terminators, so a
terminator at its very end leaves an empty last line. -/

namespace Polyglot.Text

/-- What ends a line. -/
inductive Terminator where
  | lf
  | cr
  | crlf
deriving DecidableEq, Repr

/-- The characters of a terminator. -/
def Terminator.chars : Terminator → List Char
  | .lf => ['\n']
  | .cr => ['\r']
  | .crlf => ['\r', '\n']

/-- A line and what ends it; only the last line of a text has no terminator. -/
structure Line where
  text : List Char
  ending : Option Terminator
deriving DecidableEq, Repr

namespace Line

/-- The line as it stands in the text. -/
def chars (l : Line) : List Char := l.text ++ (l.ending.map Terminator.chars).getD []

/-- Nothing at all: what follows the terminator at the end of a text. -/
def isNothing (l : Line) : Bool := l.text.isEmpty && l.ending.isNone

end Line

/-- Puts a character in front of the first line. -/
def consFirst (c : Char) : List Line → List Line
  | [] => [⟨[c], none⟩]
  | l :: ls => ⟨c :: l.text, l.ending⟩ :: ls

/-- The lines of a text with their terminators. -/
def cut : List Char → List Line
  | [] => [⟨[], none⟩]
  | '\r' :: '\n' :: r => ⟨[], some .crlf⟩ :: cut r
  | '\r' :: r => ⟨[], some .cr⟩ :: cut r
  | '\n' :: r => ⟨[], some .lf⟩ :: cut r
  | c :: r => consFirst c (cut r)

/-- The lines of a text that hold something: all but an empty rest after the last terminator. -/
def writtenLines (cs : List Char) : List Line := (cut cs).filter fun l => !l.isNothing

/-- The lines of a text without their terminators. -/
def splitLines (s : String) : List String := (cut s.toList).map fun l => String.ofList l.text

/-- Joins lines by line feeds. -/
def joinLines (ls : List String) : String := "\n".intercalate ls

/-- Whether a text ends in a terminator. -/
def endsTerminated (cs : List Char) : Bool := cs.getLast?.any fun c => c == '\n' || c == '\r'

/-- How many lines a literal takes up: none if it is empty, and a terminator at its end does not
start another. -/
def literalLineCount (cs : List Char) : Nat :=
  if cs.isEmpty then 0
  else if endsTerminated cs then (cut cs).length - 1
  else (cut cs).length

end Polyglot.Text
