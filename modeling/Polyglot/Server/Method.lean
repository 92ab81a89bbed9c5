import Polyglot.Server.Params

/-! The names of messages. A server knows more of them than it serves: a request under a standard name
that is not served is still read before it is declined. -/

namespace Polyglot

open Decode

/-- A part of the parameters of a request. -/
inductive Part where
  | document
  | position
  | range
  | text (key : String)
  /-- A part of any kind that has to be there. -/
  | value (key : String)
deriving DecidableEq, Repr

namespace Part

/-- Reads a part among the fields of the parameters. -/
def check (fields : List (String × Json)) : Part → Except DecodeError Unit
  | .document => discard (need fields "textDocument" decodeDocumentUri)
  | .position => discard (need fields "position" Position.decode)
  | .range => discard (need fields "range" Range.decode)
  | .text key => discard (need fields key string)
  | .value key => discard (need fields key .ok)

/-- Reads parameters of which some parts are needed. -/
def checkAll (parts : List Part) : Decoder Unit
  | .object fields => parts.forM (check fields)
  | j => mismatch (.record "Params") j

end Part

/-- The names of requests that are not served, with the parts that they need. -/
def unservedRequests : List (String × List Part) := [
  ("textDocument/declaration", [.document, .position]),
  ("textDocument/definition", [.document, .position]),
  ("textDocument/typeDefinition", [.document, .position]),
  ("textDocument/implementation", [.document, .position]),
  ("textDocument/references", [.document, .position, .value "context"]),
  ("textDocument/documentHighlight", [.document, .position]),
  ("textDocument/moniker", [.document, .position]),
  ("textDocument/linkedEditingRange", [.document, .position]),
  ("textDocument/prepareRename", [.document, .position]),
  ("textDocument/rename", [.document, .position, .text "newName"]),
  ("textDocument/prepareCallHierarchy", [.document, .position]),
  ("textDocument/prepareTypeHierarchy", [.document, .position]),
  ("textDocument/onTypeFormatting", [.document, .position, .text "ch", .value "options"]),
  ("textDocument/formatting", [.document, .value "options"]),
  ("textDocument/rangeFormatting", [.document, .range, .value "options"]),
  ("textDocument/codeAction", [.document, .range, .value "context"]),
  ("textDocument/colorPresentation", [.document, .range, .value "color"]),
  ("textDocument/inlayHint", [.document, .range]),
  ("textDocument/inlineValue", [.document, .range, .value "context"]),
  ("textDocument/selectionRange", [.document, .value "positions"]),
  ("textDocument/documentColor", [.document]),
  ("textDocument/documentLink", [.document]),
  ("textDocument/documentSymbol", [.document]),
  ("textDocument/foldingRange", [.document]),
  ("textDocument/codeLens", [.document]),
  ("textDocument/diagnostic", [.document]),
  ("textDocument/semanticTokens/full", [.document]),
  ("textDocument/semanticTokens/full/delta", [.document, .text "previousResultId"]),
  ("textDocument/semanticTokens/range", [.document, .range]),
  ("textDocument/willSaveWaitUntil", [.document, .value "reason"]),
  ("callHierarchy/incomingCalls", [.value "item"]),
  ("callHierarchy/outgoingCalls", [.value "item"]),
  ("typeHierarchy/supertypes", [.value "item"]),
  ("typeHierarchy/subtypes", [.value "item"]),
  ("codeAction/resolve", [.text "title"]),
  ("codeLens/resolve", [.range]),
  ("completionItem/resolve", [.text "label"]),
  ("documentLink/resolve", [.range]),
  ("inlayHint/resolve", [.position, .value "label"]),
  ("workspaceSymbol/resolve", [.text "name", .value "kind", .value "location"]),
  ("workspace/diagnostic", [.value "previousResultIds"]),
  ("workspace/executeCommand", [.text "command"]),
  ("workspace/symbol", [.text "query"]),
  ("workspace/willCreateFiles", [.value "files"]),
  ("workspace/willDeleteFiles", [.value "files"]),
  ("workspace/willRenameFiles", [.value "files"])]

/-- The names of notifications that are not served. -/
def unservedNotices : List String := [
  "textDocument/didSave",
  "textDocument/willSave",
  "workspace/didChangeConfiguration",
  "workspace/didChangeWatchedFiles",
  "workspace/didChangeWorkspaceFolders",
  "workspace/didCreateFiles",
  "workspace/didDeleteFiles",
  "workspace/didRenameFiles"]

/-- The methods of requests. -/
inductive Method where
  | start
  | shutdown
  | provide (kind : RequestKind)
  | content
  | unserved (parts : List Part)
deriving DecidableEq, Repr

/-- What the name of a request stands for. -/
def Method.ofName? : String → Option Method
  | "initialize" => some .start
  | "shutdown" => some .shutdown
  | "textDocument/completion" => some (.provide .completion)
  | "textDocument/hover" => some (.provide .hover)
  | "textDocument/signatureHelp" => some (.provide .signatureHelp)
  | "quarto/embeddedContent" => some .content
  | name => (unservedRequests.lookup name).map .unserved

/-- The methods of notifications. -/
inductive Notice where
  | started
  | opened
  | changed
  | closed
  | exit
  | unserved
deriving DecidableEq, Repr

/-- What the name of a notification stands for. -/
def Notice.ofName? : String → Option Notice
  | "initialized" => some .started
  | "textDocument/didOpen" => some .opened
  | "textDocument/didChange" => some .changed
  | "textDocument/didClose" => some .closed
  | "exit" => some .exit
  | name => if unservedNotices.contains name then some .unserved else none

end Polyglot
