import Polyglot.Language.Registry
import Polyglot.Provider.Wire

/-! What the server and its client tell each other about themselves. -/

namespace Polyglot

open Decode

/-- The name of the server. -/
def serverName : String := "quarto-lsp"

/-- The version of the server. -/
def serverVersion : String := "0.1.0"

/-- What the server can do, as far as it depends on the languages. -/
structure ServerCapabilities where
  completionTriggers : List String
  signatureTriggers : List String
deriving DecidableEq, Repr

namespace ServerCapabilities

/-- The characters that open a list of arguments or go on with it. -/
def argumentTriggers : List String := ["(", ","]

/-- A completion may be triggered by a character of any language. -/
def ofRegistry (r : Registry) : ServerCapabilities := ⟨r.triggerCharacters, argumentTriggers⟩

def toJson (c : ServerCapabilities) : Json :=
  .object [
    ("textDocumentSync", .object [("openClose", .bool true), ("change", .int 1)]),
    ("completionProvider", .object
      [("resolveProvider", .bool false), ("triggerCharacters", .strings c.completionTriggers)]),
    ("hoverProvider", .bool true),
    ("signatureHelpProvider", .object [("triggerCharacters", .strings c.signatureTriggers)])]

end ServerCapabilities

/-- What a client can do to files in an edit. -/
inductive ResourceOperation where
  | create
  | rename
  | delete
deriving DecidableEq, Repr

namespace ResourceOperation

def name : ResourceOperation → String
  | .create => "create"
  | .rename => "rename"
  | .delete => "delete"

def decode : Decoder ResourceOperation := variant ([create, rename, delete].map fun o => (o.name, o))

end ResourceOperation

/-- What a client can do, as far as the server asks. -/
structure ClientCapabilities where
  resourceOperations : List ResourceOperation := []

namespace ClientCapabilities

/-- A part of the capabilities: an object, null or absent. -/
def part {α : Type} (name key : String) (decode : List (String × Json) → Except DecodeError α)
    (absent : α) (fields : List (String × Json)) : Except DecodeError α :=
  match fields.lookup key with
  | none | some .null => .ok absent
  | some (.object fields) => decode fields
  | some j => mismatch (.record name) j

/-- What a client does when an edit fails. -/
def decodeFailureHandling : Decoder Unit :=
  variant (["abort", "transactional", "textOnlyTransactional", "undo"].map fun kind => (kind, ()))

/-- What is told about edits. -/
def decodeEdit (fields : List (String × Json)) : Except DecodeError (List ResourceOperation) := do
  let _ ← may fields "documentChanges" boolean
  let _ ← may fields "failureHandling" decodeFailureHandling
  let _ ← may fields "normalizesLineEndings" boolean
  return (← may fields "resourceOperations" (list ResourceOperation.decode)).getD []

/-- What is told about the workspace. -/
def decodeWorkspace (fields : List (String × Json)) : Except DecodeError (List ResourceOperation) := do
  let _ ← may fields "applyEdit" boolean
  let _ ← may fields "configuration" boolean
  let _ ← may fields "workspaceFolders" boolean
  part "WorkspaceEditClientCapabilities" "workspaceEdit" decodeEdit [] fields

/-- What is told about anything else is only known to be an object. -/
def decode : Decoder ClientCapabilities
  | .object fields => do
    ["general", "notebookDocument", "textDocument", "window"].forM fun key =>
      part "Capabilities" key (fun _ => .ok ()) () fields
    return ⟨← part "WorkspaceClientCapabilities" "workspace" decodeWorkspace [] fields⟩
  | j => mismatch (.record "ClientCapabilities") j

/-- Whether the client deletes files when an edit says so. -/
def supportsDelete (c : ClientCapabilities) : Bool := c.resourceOperations.contains .delete

end ClientCapabilities

end Polyglot
