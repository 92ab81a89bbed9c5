import Polyglot.Text.Blank
import Polyglot.Text.Word
import Polyglot.Token.Basic

/-! The language that a block declares in its info string. -/

namespace Polyglot

/-- The language of display math. -/
def mathLanguage : String := "tex"

/-- Drops one character from the front of a text, if it is there. -/
def dropOptional (c : Char) : List Char → List Char
  | d :: r => if d == c then r else d :: r
  | [] => []

/-- Whether an info string starts with the name of a language, after at most a brace and an equals
sign. -/
def startsWithName (info : List Char) : Bool :=
  (dropOptional '=' (dropOptional '\x7b' (Text.trim info))).head?.any Text.isAsciiWord

/-- The first run of word characters of an info string. -/
def firstWord (info : List Char) : List Char :=
  (info.dropWhile fun c => !Text.isWord c).takeWhile Text.isWord

namespace Token

def isFenced (t : Token) : Bool := t.kind == .fencedCode

def isMath (t : Token) : Bool := t.kind == .displayMath

/-- Whether the block belongs to a language: a fenced block that names one, or display math. -/
def isExecutable (t : Token) : Bool := (t.isFenced && startsWithName t.info.toList) || t.isMath

/-- The name of the language that the block declares. -/
def languageName? (t : Token) : Option String :=
  if t.isMath then some mathLanguage
  else
    let name := firstWord t.info.toList
    if name.isEmpty then none else some (String.ofList name)

end Token

/-- The first block of a language whose body holds a line. -/
def blockAt? (tokens : List Token) (line : Nat) : Option Token :=
  tokens.find? fun t => t.isExecutable && t.body.contains line

/-- The name of the language that the block around a line declares. -/
def languageAt? (tokens : List Token) (line : Nat) : Option String :=
  (blockAt? tokens line).bind Token.languageName?

end Polyglot
