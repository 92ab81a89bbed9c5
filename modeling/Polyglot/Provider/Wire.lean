import Polyglot.Json.Decode
import Polyglot.Language.Basic
import Polyglot.Provider.Response

/-! The JSON form of requests, answers and language properties. Options that are absent and an empty
list of parameters are left out. -/

namespace Polyglot

open Decode

/-- A field that is left out when it is absent. -/
def optionalField {α : Type} (key : String) (encode : α → Json) : Option α → List (String × Json)
  | some a => [(key, encode a)]
  | none => []

namespace Json

def ofWord (n : UInt32) : Json := .int n.toNat

/-- A value or null. -/
def ofOption {α : Type} (encode : α → Json) : Option α → Json
  | some a => encode a
  | none => .null

def ofList {α : Type} (encode : α → Json) (as : List α) : Json := .array (as.map encode)

def strings (ss : List String) : Json := ofList .string ss

end Json

namespace Position

def toJson (p : Position) : Json :=
  .object [("line", .ofWord p.line), ("character", .ofWord p.character)]

def decode : Decoder Position :=
  record "Position"
    (fun fields => do
      let character ← field fields "character" word
      let line ← field fields "line" word
      return ⟨← required "line" line, ← required "character" character⟩)
    (fun js => do
      let line ← requiredElement "Position" 2 js 0 word
      let character ← requiredElement "Position" 2 js 1 word
      return ⟨line, character⟩)
    2

end Position

namespace Range

def toJson (r : Range) : Json := .object [("start", r.start.toJson), ("end", r.stop.toJson)]

def decode : Decoder Range :=
  record "Range"
    (fun fields => do
      let stop ← field fields "end" Position.decode
      let start ← field fields "start" Position.decode
      return ⟨← required "start" start, ← required "end" stop⟩)
    (fun js => do
      let start ← requiredElement "Range" 2 js 0 Position.decode
      let stop ← requiredElement "Range" 2 js 1 Position.decode
      return ⟨start, stop⟩)
    2

end Range

namespace RequestKind

def toJson (k : RequestKind) : Json := .string k.name

def decode : Decoder RequestKind := variant (all.map fun k => (k.name, k))

end RequestKind

namespace CompletionItem

def toJson (i : CompletionItem) : Json :=
  .object ([("label", .string i.label)] ++ optionalField "kind" .ofWord i.kind ++
    optionalField "detail" .string i.detail ++
    optionalField "documentation" .string i.documentation ++
    optionalField "insertText" .string i.insertText ++
    optionalField "sortText" .string i.sortText ++
    optionalField "filterText" .string i.filterText)

def decode : Decoder CompletionItem :=
  record "CompletionItem"
    (fun fields => do
      let detail ← field fields "detail" (nullable string)
      let documentation ← field fields "documentation" (nullable string)
      let filterText ← field fields "filterText" (nullable string)
      let insertText ← field fields "insertText" (nullable string)
      let kind ← field fields "kind" (nullable word)
      let label ← field fields "label" string
      let sortText ← field fields "sortText" (nullable string)
      return ⟨← required "label" label, kind.join, detail.join, documentation.join, insertText.join,
        sortText.join, filterText.join⟩)
    (fun js => do
      let label ← requiredElement "CompletionItem" 7 js 0 string
      let kind ← element js 1 (nullable word)
      let detail ← element js 2 (nullable string)
      let documentation ← element js 3 (nullable string)
      let insertText ← element js 4 (nullable string)
      let sortText ← element js 5 (nullable string)
      let filterText ← element js 6 (nullable string)
      return ⟨label, kind.join, detail.join, documentation.join, insertText.join, sortText.join,
        filterText.join⟩)
    7

end CompletionItem

namespace CompletionList

def toJson (l : CompletionList) : Json :=
  .object [("isIncomplete", .bool l.isIncomplete), ("items", .ofList CompletionItem.toJson l.items)]

def decode : Decoder CompletionList :=
  record "CompletionList"
    (fun fields => do
      let isIncomplete ← field fields "isIncomplete" boolean
      let items ← field fields "items" (list CompletionItem.decode)
      return ⟨isIncomplete.getD false, ← required "items" items⟩)
    (fun js => do
      let isIncomplete ← element js 0 boolean
      let items ← requiredElement "CompletionList" 2 js 1 (list CompletionItem.decode)
      return ⟨isIncomplete.getD false, items⟩)
    2

end CompletionList

namespace Hover

def toJson (h : Hover) : Json :=
  .object ([("contents", .string h.contents)] ++ optionalField "range" Range.toJson h.range)

def decode : Decoder Hover :=
  record "Hover"
    (fun fields => do
      let contents ← field fields "contents" string
      let range ← field fields "range" (nullable Range.decode)
      return ⟨← required "contents" contents, range.join⟩)
    (fun js => do
      let contents ← requiredElement "Hover" 2 js 0 string
      let range ← element js 1 (nullable Range.decode)
      return ⟨contents, range.join⟩)
    2

end Hover

namespace SignatureInformation

def toJson (s : SignatureInformation) : Json :=
  .object ([("label", .string s.label)] ++ optionalField "documentation" .string s.documentation ++
    (if s.parameters.isEmpty then [] else [("parameters", .strings s.parameters)]))

def decode : Decoder SignatureInformation :=
  record "SignatureInformation"
    (fun fields => do
      let documentation ← field fields "documentation" (nullable string)
      let label ← field fields "label" string
      let parameters ← field fields "parameters" (list string)
      return ⟨← required "label" label, documentation.join, parameters.getD []⟩)
    (fun js => do
      let label ← requiredElement "SignatureInformation" 3 js 0 string
      let documentation ← element js 1 (nullable string)
      let parameters ← element js 2 (list string)
      return ⟨label, documentation.join, parameters.getD []⟩)
    3

end SignatureInformation

namespace SignatureHelp

def toJson (h : SignatureHelp) : Json :=
  .object ([("signatures", .ofList SignatureInformation.toJson h.signatures)] ++
    optionalField "activeSignature" .ofWord h.activeSignature ++
    optionalField "activeParameter" .ofWord h.activeParameter)

def decode : Decoder SignatureHelp :=
  record "SignatureHelp"
    (fun fields => do
      let activeParameter ← field fields "activeParameter" (nullable word)
      let activeSignature ← field fields "activeSignature" (nullable word)
      let signatures ← field fields "signatures" (list SignatureInformation.decode)
      return ⟨← required "signatures" signatures, activeSignature.join, activeParameter.join⟩)
    (fun js => do
      let signatures ← requiredElement "SignatureHelp" 3 js 0 (list SignatureInformation.decode)
      let activeSignature ← element js 1 (nullable word)
      let activeParameter ← element js 2 (nullable word)
      return ⟨signatures, activeSignature.join, activeParameter.join⟩)
    3

end SignatureHelp

namespace ProviderRequest

def toJson (r : ProviderRequest) : Json :=
  .object ([("kind", r.kind.toJson), ("uri", .string r.uri), ("position", r.position.toJson)] ++
    optionalField "triggerCharacter" .string r.triggerCharacter)

def decode : Decoder ProviderRequest :=
  record "ProviderRequest"
    (fun fields => do
      let kind ← field fields "kind" RequestKind.decode
      let position ← field fields "position" Position.decode
      let triggerCharacter ← field fields "triggerCharacter" (nullable string)
      let uri ← field fields "uri" string
      return ⟨← required "kind" kind, ← required "uri" uri, ← required "position" position,
        triggerCharacter.join⟩)
    (fun js => do
      let kind ← requiredElement "ProviderRequest" 4 js 0 RequestKind.decode
      let uri ← requiredElement "ProviderRequest" 4 js 1 string
      let position ← requiredElement "ProviderRequest" 4 js 2 Position.decode
      let triggerCharacter ← element js 3 (nullable string)
      return ⟨kind, uri, position, triggerCharacter.join⟩)
    4

end ProviderRequest

namespace ProviderResponse

/-- The content of the answer. -/
def result : ProviderResponse → Json
  | .completion list => list.toJson
  | .hover h => .ofOption Hover.toJson h
  | .signatureHelp help => .ofOption SignatureHelp.toJson help

/-- The answer with its kind beside it. -/
def toJson (r : ProviderResponse) : Json := .object [("kind", r.kind.toJson), ("result", r.result)]

/-- Reads the content of an answer of a kind. -/
def decodeResult : RequestKind → Decoder ProviderResponse
  | .completion, j => (CompletionList.decode j).map .completion
  | .hover, j => (nullable Hover.decode j).map .hover
  | .signatureHelp, j => (nullable SignatureHelp.decode j).map .signatureHelp

/-- An answer without content: only a list of completions has to have one. -/
def withoutResult : RequestKind → Except DecodeError ProviderResponse
  | .completion => .error (.missingField "result")
  | .hover => .ok (.hover none)
  | .signatureHelp => .ok (.signatureHelp none)

def decode : Decoder ProviderResponse
  | .object fields => do
    let kind ← required "kind" (← field fields "kind" RequestKind.decode)
    match fields.lookup "result" with
    | some j => decodeResult kind j
    | none => withoutResult kind
  | .array js => do
    match js with
    | [] => .error (.invalidLength 0 (.tagged "ProviderResponse"))
    | [kind] => do
      let _ ← RequestKind.decode kind
      .error (.invalidLength 1 (.tagged "ProviderResponse"))
    | kind :: result :: _ => do
      let response ← decodeResult (← RequestKind.decode kind) result
      atMost 2 js
      return response
  | j => mismatch (.tagged "ProviderResponse") j

end ProviderResponse

namespace LanguageFeatures

def toJson (f : LanguageFeatures) : Json :=
  .object [("completion", .bool f.completion), ("hover", .bool f.hover),
    ("signatureHelp", .bool f.signatureHelp)]

def decode : Decoder LanguageFeatures :=
  record "LanguageFeatures"
    (fun fields => do
      let completion ← field fields "completion" boolean
      let hover ← field fields "hover" boolean
      let signatureHelp ← field fields "signatureHelp" boolean
      return ⟨← required "completion" completion, ← required "hover" hover,
        ← required "signatureHelp" signatureHelp⟩)
    (fun js => do
      let completion ← requiredElement "LanguageFeatures" 3 js 0 boolean
      let hover ← requiredElement "LanguageFeatures" 3 js 1 boolean
      let signatureHelp ← requiredElement "LanguageFeatures" 3 js 2 boolean
      return ⟨completion, hover, signatureHelp⟩)
    3

end LanguageFeatures

namespace DeliveryStrategy

def name : DeliveryStrategy → String
  | .contentProvider => "contentProvider"
  | .tempFile => "tempFile"

def toJson (d : DeliveryStrategy) : Json := .string d.name

def decode : Decoder DeliveryStrategy :=
  variant ([contentProvider, tempFile].map fun d => (d.name, d))

end DeliveryStrategy

namespace VdocFixup

def name : VdocFixup → String
  | .typeIgnoreDirective => "typeIgnoreDirective"

def toJson (f : VdocFixup) : Json := .string f.name

def decode : Decoder VdocFixup := variant ([typeIgnoreDirective].map fun f => (f.name, f))

end VdocFixup

end Polyglot
