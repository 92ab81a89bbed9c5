import Polyglot.Error
import Polyglot.Language.Registry
import Polyglot.Provider.Wire
import Polyglot.Token.Cache

/-! Configuration: which languages there are and how they are delivered. -/

namespace Polyglot

open Decode

/-- How the files of a language are named. -/
inductive TempFileNaming where
  /-- One file per language. -/
  | shared
  /-- One file per request. -/
  | perRequest
deriving DecidableEq, Repr

namespace TempFileNaming

def name : TempFileNaming → String
  | .shared => "shared"
  | .perRequest => "perRequest"

def toJson (n : TempFileNaming) : Json := .string n.name

def decode : Decoder TempFileNaming := variant ([shared, perRequest].map fun n => (n.name, n))

end TempFileNaming

namespace LanguageOverride

def toJson (o : LanguageOverride) : Json :=
  .object [("name", .string o.name), ("extension", .ofOption .string o.extension),
    ("aliases", .ofOption .strings o.aliases),
    ("triggerCharacters", .ofOption .strings o.triggerCharacters),
    ("features", .ofOption LanguageFeatures.toJson o.features)]

def decode : Decoder LanguageOverride :=
  record "LanguageOverride"
    (fun fields => do
      let aliases ← field fields "aliases" (nullable (list string))
      let extension ← field fields "extension" (nullable string)
      let features ← field fields "features" (nullable LanguageFeatures.decode)
      let name ← field fields "name" string
      let triggers ← field fields "triggerCharacters" (nullable (list string))
      return ⟨← required "name" name, extension.join, aliases.join, triggers.join, features.join⟩)
    (fun js => do
      let name ← requiredElement "LanguageOverride" 5 js 0 string
      let extension ← element js 1 (nullable string)
      let aliases ← element js 2 (nullable (list string))
      let triggers ← element js 3 (nullable (list string))
      let features ← element js 4 (nullable LanguageFeatures.decode)
      return ⟨name, extension.join, aliases.join, triggers.join, features.join⟩)
    5

end LanguageOverride

/-- The configuration of the router. -/
structure Config where
  /-- Whether requests are routed at all. -/
  enabled : Bool := true
  /-- Where the directory for files is made; in the system's directory if absent. -/
  tempDir : Option String := none
  tempFileNaming : TempFileNaming := .shared
  /-- The languages that are delivered as content. -/
  contentProviderLanguages : List String := DeliveryStrategy.defaultContentLanguages
  languages : List LanguageOverride := []
  /-- Whether display math is a block of its language. -/
  displayMath : Bool := true
deriving DecidableEq, Repr

namespace Config

def toJson (c : Config) : Json :=
  .object [("enabled", .bool c.enabled), ("tempDir", .ofOption .string c.tempDir),
    ("tempFileNaming", c.tempFileNaming.toJson),
    ("contentProviderLanguages", .strings c.contentProviderLanguages),
    ("languages", .ofList LanguageOverride.toJson c.languages), ("displayMath", .bool c.displayMath)]

/-- Puts the default in place of every field that is absent. -/
def ofParts (enabled : Option Bool) (tempDir : Option (Option String))
    (naming : Option TempFileNaming) (content : Option (List String))
    (languages : Option (List LanguageOverride)) (displayMath : Option Bool) : Config :=
  let default : Config := {}
  ⟨enabled.getD default.enabled, tempDir.getD default.tempDir, naming.getD default.tempFileNaming,
    content.getD default.contentProviderLanguages, languages.getD default.languages,
    displayMath.getD default.displayMath⟩

def decode : Decoder Config :=
  record "VdocConfig"
    (fun fields => do
      let content ← field fields "contentProviderLanguages" (list string)
      let displayMath ← field fields "displayMath" boolean
      let enabled ← field fields "enabled" boolean
      let languages ← field fields "languages" (list LanguageOverride.decode)
      let tempDir ← field fields "tempDir" (nullable path)
      let naming ← field fields "tempFileNaming" TempFileNaming.decode
      return ofParts enabled tempDir naming content languages displayMath)
    (fun js => do
      let enabled ← element js 0 boolean
      let tempDir ← element js 1 (nullable path)
      let naming ← element js 2 TempFileNaming.decode
      let content ← element js 3 (list string)
      let languages ← element js 4 (list LanguageOverride.decode)
      let displayMath ← element js 5 boolean
      return ofParts enabled tempDir naming content languages displayMath)
    6

/-- Reads a configuration; null stands for the default one. -/
def ofJson : Json → Except Error Config
  | .null => .ok {}
  | j => (decode j).mapError fun e => .config e.message

/-- Reads the options that a client starts with; absent or invalid ones stand for the default
configuration. -/
def ofOptions (options : Option Json) : Config :=
  match options.map ofJson with
  | some (.ok config) => config
  | _ => {}

/-- The languages of the configuration. -/
def registry (c : Config) : Registry := .withOverrides c.languages c.contentProviderLanguages

/-- An engine for the configuration, with an empty cache. -/
def engine (c : Config) : ParseEngine := { displayMath := c.displayMath }

end Config

end Polyglot
