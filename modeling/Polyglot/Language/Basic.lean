import Polyglot.Provider.Request

/-! Embedded languages: their names, the files they live in and what is supported for them. -/

namespace Polyglot

/-- The kinds of request that a language supports. -/
structure LanguageFeatures where
  completion : Bool
  hover : Bool
  signatureHelp : Bool
deriving DecidableEq, Repr

namespace LanguageFeatures

/-- Every kind. -/
def all : LanguageFeatures := ⟨true, true, true⟩

/-- Completion and hover only. -/
def basic : LanguageFeatures := ⟨true, true, false⟩

/-- Whether a kind is supported. -/
def supports (f : LanguageFeatures) : RequestKind → Bool
  | .completion => f.completion
  | .hover => f.hover
  | .signatureHelp => f.signatureHelp

end LanguageFeatures

/-- How a virtual document reaches the host. -/
inductive DeliveryStrategy where
  | contentProvider
  | tempFile
deriving DecidableEq, Repr

namespace DeliveryStrategy

/-- The languages delivered as content unless configured otherwise. -/
def defaultContentLanguages : List String := ["html", "css", "javascript"]

/-- Languages of a list are delivered as content, all others as files. -/
def forLanguage (content : List String) (name : String) : DeliveryStrategy :=
  if content.contains name then .contentProvider else .tempFile

end DeliveryStrategy

/-- A change that a language makes to the content of its virtual documents. -/
inductive VdocFixup where
  /-- Puts a directive on the first line that turns type checking off. -/
  | typeIgnoreDirective
deriving DecidableEq, Repr

namespace VdocFixup

/-- The directive that turns type checking off. -/
def directive : String := "# type: ignore"

/-- Whether the first line of a text is empty, as told by line feeds. -/
def firstLineEmpty (content : String) : Bool :=
  match content.toList with
  | [] => true
  | c :: _ => c == '\n'

/-- Applies the change: only an empty first line is written to. -/
def apply (_ : VdocFixup) (content : String) : String :=
  if firstLineEmpty content then directive ++ content else content

end VdocFixup

/-- An embedded language. -/
structure Language where
  name : String
  aliases : List String
  extension : String
  triggerCharacters : List String
  features : LanguageFeatures
  delivery : DeliveryStrategy := .tempFile
  fixup : Option VdocFixup := none
deriving DecidableEq, Repr

namespace Language

/-- Whether a completion may be triggered by a character. -/
def isTrigger (l : Language) (trigger : String) : Bool := l.triggerCharacters.contains trigger

/-- Whether a kind of request is supported. -/
def supports (l : Language) (kind : RequestKind) : Bool := l.features.supports kind

/-- The names that the language answers to, its own first. -/
def names (l : Language) : List String := l.name :: l.aliases

/-- The content as the language wants it in a file. -/
def fixed (l : Language) (content : String) : String :=
  match l.fixup with
  | some fixup => fixup.apply content
  | none => content

end Language

end Polyglot
