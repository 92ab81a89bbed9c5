import Polyglot.Language.Override

/-! The registry of languages: an ordered list, and an index from every name and alias to the place
of its language. Of two languages that claim one name the first has it. -/

namespace Polyglot

/-- Names and the places they stand for. -/
abbrev NameIndex := List (String × Nat)

namespace NameIndex

/-- Adds a name, unless the index has it already. -/
def add (index : NameIndex) (place : Nat) (name : String) : NameIndex :=
  match index.lookup name with
  | some _ => index
  | none => index ++ [(name, place)]

end NameIndex

/-- The languages and the index of their names. -/
structure Registry where
  languages : Array Language := #[]
  index : NameIndex := []
deriving Repr

namespace Registry

/-- Adds a language at the end. -/
def insert (r : Registry) (l : Language) : Registry where
  languages := r.languages.push l
  index := l.names.foldl (fun index name => index.add r.languages.size name) r.index

/-- A registry of languages, those of `content` delivered as content. -/
def ofLanguages (languages : List Language) (content : List String) : Registry :=
  languages.foldl
    (fun r l => r.insert { l with delivery := .forLanguage content l.name }) {}

/-- The built-in languages changed by some records. -/
def withOverrides (overrides : List LanguageOverride) (content : List String) : Registry :=
  ofLanguages (configuredLanguages overrides) content

/-- The language that has a name or an alias. -/
def get? (r : Registry) (name : String) : Option Language :=
  (r.index.lookup name).bind fun place => r.languages[place]?

/-- The languages in order. -/
def toList (r : Registry) : List Language := r.languages.toList

/-- Keeps of each run of equal strings one. -/
def dropRepeats : List String → List String
  | a :: b :: r => if a = b then dropRepeats (b :: r) else a :: dropRepeats (b :: r)
  | r => r

/-- The characters that trigger a completion in some language, each once, in order. -/
def triggerCharacters (r : Registry) : List String :=
  dropRepeats ((r.toList.flatMap Language.triggerCharacters).mergeSort (fun a b => decide (a ≤ b)))

end Registry

end Polyglot
