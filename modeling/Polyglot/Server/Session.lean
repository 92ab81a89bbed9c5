import Polyglot.Router
import Polyglot.Server.Client
import Polyglot.Server.Editor
import Polyglot.Server.Method

/-! A session with a client: the open documents, the router that the client's options ask for, and
the messages that change or question them. Messages are handled one at a time. -/

namespace Polyglot

/-- How far a session is. -/
inductive Phase where
  | waiting
  | running
  | shutDown
deriving DecidableEq, Repr

/-- Why a request is not answered. -/
inductive RequestError where
  | notStarted
  | invalidRequest
  | methodNotFound
  | invalidParams (error : DecodeError)
  | missingParams
  | unexpectedParams
deriving DecidableEq, Repr

namespace RequestError

def code : RequestError → Int
  | .notStarted => -32002
  | .invalidRequest => -32600
  | .methodNotFound => -32601
  | .invalidParams _ | .missingParams | .unexpectedParams => -32602

def message : RequestError → String
  | .notStarted => "Server not initialized"
  | .invalidRequest => "Invalid request"
  | .methodNotFound => "Method not found"
  | .invalidParams e => "Invalid params: " ++ e.message
  | .missingParams => "Missing params field"
  | .unexpectedParams => "Unexpected params field"

end RequestError

/-- The answer to a request. -/
abbrev Reply := Except RequestError Json

/-- The state of a session. -/
structure Session where
  phase : Phase := .waiting
  documents : DocumentStore := {}
  router : Router := .ofConfig {}
  /-- Whether the client deletes files when an edit says so. -/
  supportsDelete : Bool := false

namespace Session

/-- Reads parameters that have to be there. -/
def params {α : Type} (decode : Decoder α) : Option Json → Except RequestError α
  | some j => (decode j).mapError .invalidParams
  | none => .error .missingParams

/-- What the client is told when the session starts. -/
def startResult (r : Router) : Json :=
  .object [("capabilities", (ServerCapabilities.ofRegistry r.registry).toJson),
    ("serverInfo", .object [("name", .string serverName), ("version", .string serverVersion)])]

/-- Starts the session with the client's options. -/
def start (s : Session) (p : StartParams) : Reply × Session :=
  let router := Router.ofConfig (Config.ofOptions p.options)
  (.ok (startResult router),
    { s with phase := .running, router, supportsDelete := p.capabilities.supportsDelete })

/-- Opens a document. -/
def openDocument (s : Session) (p : OpenParams) : Session :=
  { s with documents := s.documents.opened p.uri p.text p.version }

/-- Changes a document; of several texts the last counts. -/
def changeDocument (s : Session) (p : ChangeParams) : Session :=
  match p.texts.getLast? with
  | some text => { s with documents := s.documents.change p.uri text p.version }
  | none => s

/-- Closes a document and forgets what was kept for it. -/
def closeDocument (s : Session) (uri : String) : Session :=
  { s with documents := s.documents.close uri, router := s.router.closeDocument uri }

/-- The content that the URI of a virtual document names. -/
def content (s : Session) (uri : String) : Json := .ofString? (s.router.provideContent uri)

variable {m : Type → Type} [Monad m]

/-- Asks the provider of the language at a place; null if the document is not open or no language is
responsible. -/
def provide (storage : Storage m) (client : Client m) (s : Session) (kind : RequestKind)
    (p : PlaceParams) : m (Json × Session) :=
  match s.documents.get? p.uri with
  | none => pure (.null, s)
  | some d => do
    let host := client.host storage s.supportsDelete
    let (routed, router) ← s.router.route storage host d kind p.position p.trigger
    let s := { s with router }
    match routed with
    | .fallback => return (.null, s)
    | .handled response => return (response.forEditor, s)

/-- Removes what was written. -/
def shutdown (storage : Storage m) (s : Session) : m Session := do
  return { s with router := ← s.router.shutdown storage }

/-- Answers a request of a running session. -/
def answer (storage : Storage m) (client : Client m) (s : Session) (input : Option Json) :
    Method → m (Reply × Session)
  | .start => pure (.error .invalidRequest, s)
  | .shutdown =>
    let s := { s with phase := .shutDown }
    match input with
    | some _ => pure (.error .unexpectedParams, s)
    | none => do return (.ok .null, ← s.shutdown storage)
  | .provide kind =>
    match params (PlaceParams.decode kind) input with
    | .error e => pure (.error e, s)
    | .ok p => do
      let (result, s) ← s.provide storage client kind p
      return (.ok result, s)
  | .content =>
    match params decodeContentUri input with
    | .error e => pure (.error e, s)
    | .ok uri => pure (.ok (s.content uri), s)
  | .unserved parts =>
    match params (Part.checkAll parts) input with
    | .error e => pure (.error e, s)
    | .ok () => pure (.error .methodNotFound, s)

/-- Answers a request. A name that is only for notifications is known, but no request. -/
def handleRequest (storage : Storage m) (client : Client m) (s : Session) (name : String)
    (input : Option Json) : m (Reply × Session) :=
  match Method.ofName? name, s.phase with
  | none, phase =>
    if (Notice.ofName? name).isNone then pure (.error .methodNotFound, s)
    else pure (.error (if phase = .waiting then .notStarted else .invalidRequest), s)
  | some .start, .waiting =>
    match params StartParams.decode input with
    | .error e => pure (.error e, s)
    | .ok p => pure (s.start p)
  | some _, .waiting => pure (.error .notStarted, s)
  | some _, .shutDown => pure (.error .invalidRequest, s)
  | some method, .running => s.answer storage client input method

/-- What the client is told once it has started. -/
def startedMessage : Json :=
  .object [("type", .int 3), ("message", .string "Quarto LSP server initialized")]

/-- Takes a notification; one that is unknown, invalid or out of place is ignored. -/
def handleNotice (client : Client m) (s : Session) (name : String) (input : Option Json) :
    m Session :=
  match s.phase, Notice.ofName? name with
  | .running, some .started =>
    match input with
    | some (.object _) | some (.array []) => do
      client.notify "window/logMessage" startedMessage
      return s
    | _ => pure s
  | .running, some .opened =>
    match params OpenParams.decode input with
    | .ok p => pure (s.openDocument p)
    | .error _ => pure s
  | .running, some .changed =>
    match params ChangeParams.decode input with
    | .ok p => pure (s.changeDocument p)
    | .error _ => pure s
  | .running, some .closed =>
    match params decodeClose input with
    | .ok uri => pure (s.closeDocument uri)
    | .error _ => pure s
  | _, _ => pure s

/-- Ends the session: what was written is removed, whether or not the client said so. -/
def finish (storage : Storage m) (s : Session) : m Session := s.shutdown storage

end Session

end Polyglot
