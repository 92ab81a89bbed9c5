import Polyglot.Delivery.Host
import Polyglot.Provider.Wire
import Polyglot.Url.Parse

/-! The client at the other end of a session, as a host: what a host does is asked of the client by
requests. -/

namespace Polyglot

open Decode

/-- The client. While it answers a request it may ask back for the content of virtual documents. -/
structure Client (m : Type → Type) where
  request : (provide : String → Option String) → (method : String) → (params : Json) →
    m (Except String Json)
  notify : (method : String) → (params : Json) → m Unit

/-- Methods that only this server and its clients know. -/
def executeMethod : String := "quarto/executeProvider"

def openMethod : String := "quarto/openVirtualDocument"

def contentMethod : String := "quarto/embeddedContent"

def applyEditMethod : String := "workspace/applyEdit"

/-- The edit that deletes a file, if it is there. -/
def deleteEdit (url : Url) : Json :=
  .object [("documentChanges", .array [.object [("kind", .string "delete"), ("uri", .string url.text),
    ("options", .object [("ignoreIfNotExists", .bool true)])]])]

namespace Client

variable {m : Type → Type} [Monad m]

/-- Removes the file that a URL names; it need not be there. -/
def deleteLocally (storage : Storage m) (url : Url) : m (Except Error Unit) :=
  match url.filePath? with
  | none => pure (.error (.invalidUri url.text))
  | some path => do
    match ← storage.removeFile path with
    | .ok () | .error .missing => return .ok ()
    | .error (.failed cause) => return .error (.io cause)

/-- Whether the answer to an edit says that it was applied. -/
def decodeApplied : Decoder Bool := fun j => do
  let fields ← fieldsOf "ApplyWorkspaceEditResponse" ["applied", "failureReason", "failedChange"] j
  let _ ← may fields "failureReason" string
  let _ ← may fields "failedChange" word
  need fields "applied" boolean

/-- Deletes a file by an edit if the client supports that, and here otherwise or if it declines. -/
def deleteFile (storage : Storage m) (client : Client m) (supportsDelete : Bool) (uri : String) :
    m (Except Error Unit) :=
  match Url.parse? uri with
  | none => pure (.error (.invalidUri uri))
  | some url =>
    if supportsDelete then do
      let reply ← client.request (fun _ => none) applyEditMethod (.object [("edit", deleteEdit url)])
      match reply.bind fun j => (decodeApplied j).mapError DecodeError.message with
      | .ok true => return .ok ()
      | .ok false => deleteLocally storage url
      | .error message => return .error (.deleteFile uri message)
    else deleteLocally storage url

/-- Opens a document without showing it; the answer has to be null. -/
def openDocument (client : Client m) (uri : String) : m (Except Error Unit) := do
  let reply ← client.request (fun _ => none) openMethod (.object [("uri", .string uri)])
  return (reply.bind fun j => (unit j).mapError DecodeError.message).mapError fun message =>
    .openDocument uri message

/-- Runs the client's provider. -/
def execute (client : Client m) (provide : String → Option String) (request : ProviderRequest) :
    m ProviderOutcome := do
  let reply ← client.request provide executeMethod request.toJson
  match reply.bind fun j => (ProviderResponse.decode j).mapError DecodeError.message with
  | .ok response => return .response response
  | .error message => return .failed (.provider message)

/-- The client as a host. -/
def host (storage : Storage m) (client : Client m) (supportsDelete : Bool) : Host m where
  openDocument := openDocument client
  execute := execute client
  deleteFile := deleteFile storage client supportsDelete

end Client

end Polyglot
