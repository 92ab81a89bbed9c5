import Polyglot.Proofs.Routing
import Polyglot.Server.Message

/-! Sessions as runs: messages are taken one after the other, and each one edits the documents, asks a
provider or changes nothing. What every message preserves holds at the end of a run. -/

namespace Polyglot

/-- What a notification does to the documents of a running session. -/
inductive Edit where
  | opened (p : OpenParams)
  | changed (p : ChangeParams)
  | closed (uri : String)

namespace Edit

/-- The edit that a notification stands for, if it can be read. -/
def ofNotice? (name : String) (input : Option Json) : Option Edit :=
  match Notice.ofName? name with
  | some .opened => (Session.params OpenParams.decode input).toOption.map opened
  | some .changed => (Session.params ChangeParams.decode input).toOption.map changed
  | some .closed => (Session.params decodeClose input).toOption.map closed
  | _ => none

end Edit

namespace Message

/-- The edit that a message stands for. -/
def edit? : Message → Option Edit
  | .notice method params => Edit.ofNotice? method params
  | .request .. | .reply .. => none

/-- Whether a message ends the session. -/
def isShutdown : Message → Bool
  | .request _ method _ => Method.ofName? method = some .shutdown
  | .notice .. | .reply .. => false

end Message

namespace Session

/-- Makes an edit. -/
def edit (s : Session) : Edit → Session
  | .opened p => s.openDocument p
  | .changed p => s.changeDocument p
  | .closed uri => s.closeDocument uri

section
variable {m : Type → Type} [Monad m]

/-- Takes a message, whatever it is answered. -/
def take (storage : Storage m) (client : Client m) (s : Session) : Message → m Session
  | .request _ method params => do
    let (_, s) ← s.handleRequest storage client method params
    return s
  | .notice method params => s.handleNotice client method params
  | .reply .. => pure s

/-- Takes messages one after the other. -/
def takeAll (storage : Storage m) (client : Client m) (s : Session) : List Message → m Session
  | [] => pure s
  | message :: rest => do
    let s ← s.take storage client message
    s.takeAll storage client rest

end

variable {σ : Type} {storage : Storage (StateM σ)} {client : Client (StateM σ)} {s : Session}

/-! ### One message -/

theorem ensures_handleNotice (client : Client (StateM σ)) (h : s.phase = .running) (name : String)
    (input : Option Json) :
    Ensures (s.handleNotice client name input) fun s' =>
      s' = (Edit.ofNotice? name input).elim s s.edit := by
  unfold handleNotice Edit.ofNotice?
  rw [h]
  cases Notice.ofName? name with
  | none => exact ensures_pure rfl
  | some notice =>
    cases notice with
    | started =>
      dsimp only
      split
      · exact ensures_after fun _ => ensures_pure rfl
      · exact ensures_after fun _ => ensures_pure rfl
      · exact ensures_pure rfl
    | opened =>
      dsimp only
      cases Session.params OpenParams.decode input <;> exact ensures_pure rfl
    | changed =>
      dsimp only
      cases Session.params ChangeParams.decode input <;> exact ensures_pure rfl
    | closed =>
      dsimp only
      cases Session.params decodeClose input <;> exact ensures_pure rfl
    | exit => exact ensures_pure rfl
    | unserved => exact ensures_pure rfl

/-- A request for a provider changes the router by routing, and nothing else. -/
theorem ensures_provide (P : Session → Prop) {kind : RequestKind} {p : PlaceParams} (hs : P s)
    (hroute : ∀ d, s.documents.get? p.uri = some d →
      Ensures (s.router.route storage (client.host storage s.supportsDelete) d kind p.position
        p.trigger) fun out => P { s with router := out.2 }) :
    Ensures (s.provide storage client kind p) fun out => P out.2 := by
  unfold provide
  cases hd : s.documents.get? p.uri with
  | none => exact ensures_pure hs
  | some d =>
    refine ensures_bind _ (hroute d hd) ?_
    rintro ⟨_ | response, router⟩ hrouter
    · exact ensures_pure hrouter
    · exact ensures_pure hrouter

/-- Requests that do not end the session change it by asking a provider, or not at all. -/
theorem ensures_handleRequest (P : Session → Prop) (h : s.phase = .running) {name : String}
    (hname : Method.ofName? name ≠ some .shutdown) (input : Option Json) (hs : P s)
    (hprovide : ∀ kind p, Ensures (s.provide storage client kind p) fun out => P out.2) :
    Ensures (s.handleRequest storage client name input) fun out => P out.2 := by
  unfold handleRequest
  rw [h]
  cases hmethod : Method.ofName? name with
  | none =>
    dsimp only
    split <;> exact ensures_pure hs
  | some method =>
    cases method with
    | start => exact ensures_pure hs
    | shutdown => exact absurd hmethod hname
    | provide kind =>
      dsimp only [answer]
      cases Session.params (PlaceParams.decode kind) input with
      | error e => exact ensures_pure hs
      | ok p => exact ensures_bind _ (hprovide kind p) fun _ hout => ensures_pure hout
    | content =>
      dsimp only [answer]
      cases Session.params decodeContentUri input <;> exact ensures_pure hs
    | unserved parts =>
      dsimp only [answer]
      cases Session.params (Part.checkAll parts) input <;> exact ensures_pure hs

theorem ensures_take (P : Session → Prop) (h : s.phase = .running) (message : Message)
    (hmessage : message.isShutdown = false) (hedit : ∀ e, message.edit? = some e → P (s.edit e))
    (hsame : message.edit? = none → P s)
    (hprovide : message.edit? = none →
      ∀ kind p, Ensures (s.provide storage client kind p) fun out => P out.2) :
    Ensures (s.take storage client message) P := by
  cases message with
  | request mark method params =>
    refine ensures_bind _ (ensures_handleRequest P h (by simpa [Message.isShutdown] using hmessage)
      params (hsame rfl) (hprovide rfl)) ?_
    exact fun _ hout => ensures_pure hout
  | notice method params =>
    intro w
    have hs' := ensures_handleNotice client h method params w
    change P ((s.handleNotice client method params).run w).1
    rw [hs']
    cases he : Edit.ofNotice? method params with
    | none => exact hsame he
    | some e => exact hedit e he
  | reply mark result => exact ensures_pure (hsame rfl)

/-! ### Runs -/

/-- What holds of a session after a run, if every message preserves it. -/
theorem ensures_takeAll (P : List Message → Session → Prop) (messages : List Message)
    (hstart : P [] s)
    (hstep : ∀ past message s, message ∈ messages → P past s →
      Ensures (s.take storage client message) (P (past ++ [message]))) :
    Ensures (s.takeAll storage client messages) (P messages) := by
  -- the induction is on the messages still to come, for any past and any session it has led to
  suffices hrun : ∀ rest past s, past ++ rest = messages → P past s →
      Ensures (s.takeAll storage client rest) (P messages) from hrun messages [] s rfl hstart
  intro rest
  induction rest with
  | nil =>
    intro past s hsplit hs
    rw [List.append_nil] at hsplit
    rw [← hsplit]
    exact ensures_pure hs
  | cons message rest ih =>
    intro past s hsplit hs
    refine ensures_bind _ (hstep past message s (by simp [← hsplit]) hs) ?_
    exact fun s' hs' => ih _ s' (by simpa using hsplit) hs'

end Session

end Polyglot
