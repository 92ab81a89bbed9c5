import Polyglot.Provider.Wire

/-! Answers as editors want them: documentation is marked as Markdown, and options that are absent are
left out. -/

namespace Polyglot

/-- Text marked as Markdown. -/
def markdown (text : String) : Json := .object [("kind", .string "markdown"), ("value", .string text)]

/-- Whether an editor takes a number for the kind of a completion: it has to fit 31 bits. -/
def isItemKind (kind : UInt32) : Bool := kind.toNat < Nat.pow 2 31

namespace CompletionItem

def forEditor (i : CompletionItem) : Json :=
  .object ([("label", .string i.label)] ++
    optionalField "kind" .ofWord (i.kind.filter isItemKind) ++
    optionalField "detail" .string i.detail ++
    optionalField "documentation" markdown i.documentation ++
    optionalField "insertText" .string i.insertText ++
    optionalField "sortText" .string i.sortText ++
    optionalField "filterText" .string i.filterText)

end CompletionItem

namespace CompletionList

def forEditor (l : CompletionList) : Json :=
  .object [("isIncomplete", .bool l.isIncomplete), ("items", .ofList CompletionItem.forEditor l.items)]

end CompletionList

namespace Hover

def forEditor (h : Hover) : Json :=
  .object ([("contents", markdown h.contents)] ++ optionalField "range" Range.toJson h.range)

end Hover

namespace SignatureInformation

def forEditor (s : SignatureInformation) : Json :=
  .object ([("label", .string s.label)] ++ optionalField "documentation" markdown s.documentation ++
    (if s.parameters.isEmpty then []
      else [("parameters", .ofList (fun p => .object [("label", .string p)]) s.parameters)]))

end SignatureInformation

namespace SignatureHelp

def forEditor (h : SignatureHelp) : Json :=
  .object ([("signatures", .ofList SignatureInformation.forEditor h.signatures)] ++
    optionalField "activeSignature" .ofWord h.activeSignature ++
    optionalField "activeParameter" .ofWord h.activeParameter)

end SignatureHelp

namespace ProviderResponse

/-- The content of an answer for an editor. -/
def forEditor : ProviderResponse → Json
  | .completion list => list.forEditor
  | .hover h => .ofOption Hover.forEditor h
  | .signatureHelp help => .ofOption SignatureHelp.forEditor help

end ProviderResponse

end Polyglot
