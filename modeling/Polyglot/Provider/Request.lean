import Polyglot.Provider.Position

/-! The kinds of request that a language provider answers. -/

namespace Polyglot

/-- What is asked of a provider. -/
inductive RequestKind where
  | completion
  | hover
  | signatureHelp
deriving DecidableEq, Repr

namespace RequestKind

/-- The kinds, in order. -/
def all : List RequestKind := [.completion, .hover, .signatureHelp]

/-- The name of the kind, on the wire and in messages. -/
def name : RequestKind → String
  | .completion => "completion"
  | .hover => "hover"
  | .signatureHelp => "signatureHelp"

end RequestKind

/-- Asks a provider about a place in a document; a completion may be triggered by a character. -/
structure ProviderRequest where
  kind : RequestKind
  uri : String
  position : Position
  triggerCharacter : Option String
deriving DecidableEq, Repr

end Polyglot
