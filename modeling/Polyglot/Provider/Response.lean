import Polyglot.Provider.Request

/-! What a language provider answers. -/

namespace Polyglot

/-- A completion offered to the user. -/
structure CompletionItem where
  label : String
  kind : Option UInt32 := none
  detail : Option String := none
  documentation : Option String := none
  insertText : Option String := none
  sortText : Option String := none
  filterText : Option String := none
deriving DecidableEq, Repr

/-- Completions; incomplete if typing on may bring more. -/
structure CompletionList where
  isIncomplete : Bool := false
  items : List CompletionItem
deriving DecidableEq, Repr

def CompletionList.isEmpty (l : CompletionList) : Bool := l.items.isEmpty

/-- What is shown about a place, and the range it is about. -/
structure Hover where
  contents : String
  range : Option Range := none
deriving DecidableEq, Repr

/-- A way to call a function. -/
structure SignatureInformation where
  label : String
  documentation : Option String := none
  parameters : List String := []
deriving DecidableEq, Repr

/-- The ways to call the function at a place. -/
structure SignatureHelp where
  signatures : List SignatureInformation
  activeSignature : Option UInt32 := none
  activeParameter : Option UInt32 := none
deriving DecidableEq, Repr

/-- The answer to a request, by its kind. -/
inductive ProviderResponse where
  | completion (list : CompletionList)
  | hover (hover : Option Hover)
  | signatureHelp (help : Option SignatureHelp)
deriving DecidableEq, Repr

namespace ProviderResponse

/-- The answer that holds nothing. -/
def empty : RequestKind → ProviderResponse
  | .completion => .completion ⟨false, []⟩
  | .hover => .hover none
  | .signatureHelp => .signatureHelp none

/-- The kind of request that is answered. -/
def kind : ProviderResponse → RequestKind
  | .completion _ => .completion
  | .hover _ => .hover
  | .signatureHelp _ => .signatureHelp

/-- Whether the answer holds nothing to show. -/
def isEmpty : ProviderResponse → Bool
  | .completion list => list.isEmpty
  | .hover h => h.isNone
  | .signatureHelp help => help.all fun h => h.signatures.isEmpty

end ProviderResponse

end Polyglot
