import Polyglot.Config
import Polyglot.Server.Capabilities
import Polyglot.Url.Parse

/-! The parameters of the messages that the server understands. -/

namespace Polyglot

open Decode

/-- A URI, in its normal form. -/
def decodeUri : Decoder String
  | .string s =>
    match Url.normalize? s with
    | some uri => .ok uri
    | none => .error (.invalidValue (.string s) .string)
  | j => mismatch .string j

/-- A signed whole number of 32 bits. -/
def decodeVersion : Decoder Int32
  | .int n =>
    if Int32.minValue.toInt ≤ n && n ≤ Int32.maxValue.toInt then .ok (Int32.ofInt n)
    else .error (.invalidValue (.int n) .word)
  | j => mismatch .word j

/-- How much the client wants to be told about the server's work. -/
def decodeTrace : Decoder Unit := variant (["off", "messages", "verbose"].map fun level => (level, ()))

/-- A folder of the workspace. -/
def decodeFolder : Decoder Unit := fun j => do
  let fields ← fieldsOf "WorkspaceFolder" ["uri", "name"] j
  let _ ← need fields "uri" decodeUri
  discard (need fields "name" string)

/-- The name and the version of a client. -/
def decodeInfo : Decoder Unit := fun j => do
  let fields ← fieldsOf "ClientInfo" ["name", "version"] j
  let _ ← need fields "name" string
  discard (may fields "version" string)

/-- What a session starts with. -/
structure StartParams where
  capabilities : ClientCapabilities
  options : Option Json

namespace StartParams

def decode : Decoder StartParams := fun j => do
  let fields ← fieldsOf "InitializeParams" ["processId", "rootPath", "rootUri",
    "initializationOptions", "capabilities", "trace", "workspaceFolders", "clientInfo", "locale"] j
  let _ ← may fields "processId" word
  let _ ← may fields "rootPath" string
  let _ ← may fields "rootUri" decodeUri
  let _ ← may fields "trace" decodeTrace
  let _ ← may fields "workspaceFolders" (list decodeFolder)
  let _ ← may fields "clientInfo" decodeInfo
  let _ ← may fields "locale" string
  let capabilities ← need fields "capabilities" ClientCapabilities.decode
  return ⟨capabilities, (fields.lookup "initializationOptions").filter fun
    | .null => false
    | _ => true⟩

end StartParams

/-- The URI of the document that a message is about. -/
def decodeDocumentUri : Decoder String := fun j => do
  need (← fieldsOf "TextDocumentIdentifier" ["uri"] j) "uri" decodeUri

/-- A document that is opened. -/
structure OpenParams where
  uri : String
  text : String
  version : Int32

namespace OpenParams

def decode : Decoder OpenParams := fun j => do
  let fields ← fieldsOf "DidOpenTextDocumentParams" ["textDocument"] j
  let item ← need fields "textDocument"
    (fieldsOf "TextDocumentItem" ["uri", "languageId", "version", "text"])
  let _ ← need item "languageId" string
  return ⟨← need item "uri" decodeUri, ← need item "text" string, ← need item "version" decodeVersion⟩

end OpenParams

/-- The texts that a document takes one after the other. -/
structure ChangeParams where
  uri : String
  version : Int32
  texts : List String

namespace ChangeParams

/-- One change: its text stands for the whole document. -/
def decodeChange : Decoder String := fun j => do
  let fields ← fieldsOf "TextDocumentContentChangeEvent" ["range", "rangeLength", "text"] j
  let _ ← may fields "range" Range.decode
  let _ ← may fields "rangeLength" word
  need fields "text" string

def decode : Decoder ChangeParams := fun j => do
  let fields ← fieldsOf "DidChangeTextDocumentParams" ["textDocument", "contentChanges"] j
  let texts ← need fields "contentChanges" (list decodeChange)
  let document ← need fields "textDocument"
    (fieldsOf "VersionedTextDocumentIdentifier" ["uri", "version"])
  return ⟨← need document "uri" decodeUri, ← need document "version" decodeVersion, texts⟩

end ChangeParams

/-- The document that a message closes. -/
def decodeClose : Decoder String := fun j => do
  need (← fieldsOf "DidCloseTextDocumentParams" ["textDocument"] j) "textDocument" decodeDocumentUri

/-- The name under which a client is told how far a request is. -/
def decodeToken : Decoder Unit
  | .string _ => .ok ()
  | j => discard (decodeVersion j)

/-- A place in a document, and the character that triggered a request there. -/
structure PlaceParams where
  uri : String
  position : Position
  trigger : Option String

namespace PlaceParams

/-- The fields of what triggered a request. -/
def contextFields : RequestKind → List String
  | .signatureHelp => ["triggerKind", "triggerCharacter", "isRetrigger", "activeSignatureHelp"]
  | _ => ["triggerKind", "triggerCharacter"]

/-- What triggered a request. -/
def decodeContext (kind : RequestKind) : Decoder (Option String) := fun j => do
  let fields ← fieldsOf "Context" (contextFields kind) j
  let _ ← need fields "triggerKind" decodeVersion
  if kind == .signatureHelp then
    let _ ← need fields "isRetrigger" boolean
  may fields "triggerCharacter" string

/-- Nothing triggers a hover. -/
def decodeParts (kind : RequestKind) (fields : List (String × Json)) :
    Except DecodeError PlaceParams := do
  let _ ← may fields "workDoneToken" decodeToken
  if kind == .completion then
    let _ ← may fields "partialResultToken" decodeToken
  let trigger ← if kind == .hover then .ok none else may fields "context" (decodeContext kind)
  let position ← need fields "position" Position.decode
  let uri ← need fields "textDocument" decodeDocumentUri
  return ⟨uri, position, trigger.join⟩

/-- Parameters that belong to several records at once, so they cannot be an array. -/
def decode (kind : RequestKind) : Decoder PlaceParams
  | .object fields => decodeParts kind fields
  | j => mismatch (.record "TextDocumentPositionParams") j

end PlaceParams

/-- The URI whose content a client asks for. -/
def decodeContentUri : Decoder String := fun j => do
  need (← fieldsOf "EmbeddedContentParams" ["uri"] j) "uri" string

end Polyglot
