import Polyglot.Language.Builtin

/-! Configured changes to the list of languages. -/

namespace Polyglot

/-- A record that changes the language of its name, or adds one. A field that is absent changes
nothing. -/
structure LanguageOverride where
  name : String
  extension : Option String
  aliases : Option (List String)
  triggerCharacters : Option (List String)
  features : Option LanguageFeatures
deriving DecidableEq, Repr

namespace LanguageOverride

/-- Sets the fields of a language that the record gives. -/
def update (o : LanguageOverride) (l : Language) : Language :=
  { l with
    extension := o.extension.getD l.extension
    aliases := o.aliases.getD l.aliases
    triggerCharacters := o.triggerCharacters.getD l.triggerCharacters
    features := o.features.getD l.features }

/-- The language that the record adds; one without an extension adds none. -/
def create? (o : LanguageOverride) : Option Language :=
  o.extension.map fun ext =>
    .plain o.name ext (o.aliases.getD []) (o.triggerCharacters.getD []) (o.features.getD .all)

/-- Applies the record to the first language of its name, or adds that language at the end. -/
def apply (o : LanguageOverride) : List Language → List Language
  | [] => o.create?.toList
  | l :: ls => if l.name = o.name then o.update l :: ls else l :: o.apply ls

end LanguageOverride

/-- The built-in languages after some records. -/
def configuredLanguages (overrides : List LanguageOverride) : List Language :=
  overrides.foldl (fun ls o => o.apply ls) builtinLanguages

end Polyglot
