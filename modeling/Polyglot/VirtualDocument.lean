import Polyglot.Language.Registry
import Polyglot.Token.Cache
import Polyglot.Token.Declared

/-! Virtual documents: the projection of a document onto one language. Every line of the document
keeps its place; the lines outside the blocks of the language are empty. -/

namespace Polyglot

/-- The blocks whose declared name stands for the language of a canonical name. -/
def blocksOfLanguage (tokens : List Token) (registry : Registry) (name : String) : List Token :=
  tokens.filter fun t =>
    t.isExecutable && (t.languageName?.bind registry.get?).any fun l => l.name == name

/-- A document in one language. -/
structure VirtualDocument where
  language : Language
  content : String
deriving DecidableEq

namespace VirtualDocument

/-- How many lines the document has, as told by line feeds. -/
def lineCount (v : VirtualDocument) : Nat := v.content.toList.count '\n' + 1

end VirtualDocument

/-- The lines that lie in the body of some block; every other one is left empty. -/
def keepBodies (blocks : List Token) : Nat → List String → List String
  | _, [] => []
  | i, line :: lines =>
    (if blocks.any fun t => t.body.contains i then line else "") :: keepBodies blocks (i + 1) lines

/-- The projection of a document onto a language, by given tokens. -/
def project (tokens : List Token) (registry : Registry) (language : Language) (d : Document) :
    VirtualDocument where
  language := language
  content := Text.joinLines (keepBodies (blocksOfLanguage tokens registry language.name) 0 d.lines)

/-- The language that the registry has for the block around a line. -/
def resolveAt? (tokens : List Token) (registry : Registry) (line : Nat) : Option Language :=
  (languageAt? tokens line).bind registry.get?

/-- The virtual document at a position: none outside the blocks of known languages. -/
def synthesize (engine : ParseEngine) (registry : Registry) (d : Document) (pos : Position) :
    Option VirtualDocument × ParseEngine :=
  let (parsed, engine) := engine.parse d
  ((resolveAt? parsed.tokens registry pos.line.toNat).map fun l => project parsed.tokens registry l d,
    engine)

end Polyglot
