import Polyglot.Delivery.Disk
import Polyglot.Proofs.Document
import Polyglot.Proofs.Server.Run
import Polyglot.Proofs.Token.Cache

/-! No request is answered from an old text. Texts and tokens are kept apart, and tokens are found by
URI and version alone. What ties them together is the history of a document: the tokens in the slot
were scanned from a text that their document has had, under their version, since it was last
closed. -/

namespace Polyglot

/-! ### Histories -/

/-- The versions and texts that a document has had since it was last closed, the latest first. -/
abbrev History := List (Int32 × String)

/-- Each version stands for one text. -/
def History.Consistent (h : History) : Prop := ∀ a ∈ h, ∀ b ∈ h, a.1 = b.1 → a.2 = b.2

instance (h : History) : Decidable h.Consistent :=
  inferInstanceAs (Decidable (∀ a ∈ h, ∀ b ∈ h, a.1 = b.1 → a.2 = b.2))

/-- Adds an edit to the history of a document. Only a document that is open can change, and of
several texts it takes the last. -/
def Edit.record (uri : String) (history : History) : Edit → History
  | .opened p => if uri = p.uri then (p.version, p.text) :: history else history
  | .changed p =>
    match p.texts.getLast? with
    | some text => if uri = p.uri ∧ history ≠ [] then (p.version, text) :: history else history
    | none => history
  | .closed gone => if uri = gone then [] else history

/-- The history of a document after some messages. -/
def historyOf (messages : List Message) (uri : String) : History :=
  (messages.filterMap Message.edit?).foldl (Edit.record uri) []

/-- The text of a document after some messages; none if it is not open. -/
def currentText? (messages : List Message) (uri : String) : Option String :=
  (historyOf messages uri).head?.map Prod.snd

/-- Only a close takes entries out of a history. -/
theorem Edit.mem_record_of_mem {uri : String} {past : History} {entry : Int32 × String}
    (h : entry ∈ past) {e : Edit} (he : ∀ gone, e = .closed gone → uri ≠ gone) :
    entry ∈ e.record uri past := by
  cases e with
  | opened p =>
    simp only [Edit.record]
    split
    · exact List.mem_cons_of_mem _ h
    · exact h
  | changed p =>
    simp only [Edit.record]
    split
    · split
      · exact List.mem_cons_of_mem _ h
      · exact h
    · exact h
  | closed gone =>
    rw [Edit.record, if_neg (he gone rfl)]
    exact h

section
variable {past : List Message} {message : Message}

theorem historyOf_append_edit {e : Edit} (h : message.edit? = some e) (uri : String) :
    historyOf (past ++ [message]) uri = e.record uri (historyOf past uri) := by
  simp [historyOf, h]

theorem historyOf_append_other (h : message.edit? = none) :
    historyOf (past ++ [message]) = historyOf past := by
  funext uri
  simp [historyOf, h]

end

/-- The text of a document is in its history, under its version. -/
def Document.RecordedIn (history : String → History) (d : Document) : Prop :=
  ∀ v, d.version = some v → (v, d.content) ∈ history d.uri

/-! ### Routers that are true to histories -/

namespace Router

/-- A router of a configuration whose slot, if it is filled, holds the tokens of a text from the
history of its document. -/
structure Faithful (config : Config) (history : String → History) (r : Router) : Prop where
  enabled : r.enabled = config.enabled
  registry : r.registry = config.registry
  displayMath : r.engine.displayMath = config.displayMath
  slot : ∀ slot, r.engine.slot = some slot → ∃ text,
    (slot.key.version, text) ∈ history slot.key.uri ∧
      slot.parsed.tokens = tokenize config.displayMath text

section
variable {config : Config} {history history' : String → History} {r : Router} {d : Document}

theorem faithful_ofConfig (config : Config) (history : String → History) :
    (ofConfig config).Faithful config history where
  enabled := rfl
  registry := rfl
  displayMath := rfl
  slot := by rintro slot ⟨⟩

theorem faithful_of_slot (h : r.Faithful config history)
    (hslot : ∀ slot, r.engine.slot = some slot →
      ∀ entry ∈ history slot.key.uri, entry ∈ history' slot.key.uri) :
    r.Faithful config history' where
  enabled := h.enabled
  registry := h.registry
  displayMath := h.displayMath
  slot := by
    intro slot hs
    obtain ⟨text, hmem, htokens⟩ := h.slot slot hs
    exact ⟨text, hslot slot hs _ hmem, htokens⟩

/-- A document that is parsed leaves a slot that is true to its history. -/
theorem faithful_parsed (h : r.Faithful config history) (hd : d.RecordedIn history) :
    (r.parsed d).Faithful config history where
  enabled := h.enabled
  registry := h.registry
  displayMath := (r.engine.displayMath_parse d).trans h.displayMath
  slot := by
    intro slot hs
    obtain ⟨_, _, _, _, hparse⟩ | ⟨_, _, hkept | ⟨key, hkey, hnew⟩⟩ := r.engine.parse_cases d
    · exact h.slot slot (by rwa [parsed, hparse] at hs)
    · exact h.slot slot (hkept.symm.trans hs)
    · obtain rfl := Option.some.inj (hnew.symm.trans hs)
      obtain ⟨v, hv, rfl⟩ := Option.map_eq_some_iff.mp hkey
      exact ⟨d.content, hd v hv, by rw [ParseEngine.scan, h.displayMath]⟩

theorem faithful_acquire {σ : Type} {storage : Storage (StateM σ)} {host : Host (StateM σ)}
    (h : r.Faithful config history) (uri : String) (v : VirtualDocument) :
    Ensures (r.acquire storage host uri v) fun out => out.2.Faithful config history := by
  unfold acquire
  split
  · exact ensures_pure ⟨h.enabled, h.registry, h.displayMath, h.slot⟩
  · exact ensures_after fun _ => ensures_pure ⟨h.enabled, h.registry, h.displayMath, h.slot⟩

theorem faithful_gate (h : r.Faithful config history) (hd : d.RecordedIn history)
    (kind : RequestKind) (pos : Position) (trigger : Option String) :
    (r.gate d kind pos trigger).2.Faithful config history := by
  rw [gate_snd]
  split
  · exact faithful_parsed h hd
  · exact h

/-- A document that is closed takes its tokens with it. -/
theorem faithful_closeDocument (h : r.Faithful config history) (closed : String)
    (hother : ∀ uri, uri ≠ closed → history' uri = history uri) :
    (r.closeDocument closed).Faithful config history' := by
  -- a slot that survives was there before, and is that of another document
  have hslot : ∀ slot, (r.closeDocument closed).engine.slot = some slot →
      r.engine.slot = some slot ∧ slot.key.uri ≠ closed := by
    intro slot hs
    simp only [closeDocument] at hs
    split at hs
    · cases hs
    · rename_i hkey
      refine ⟨hs, ?_⟩
      simpa [ParseEngine.key?, hs] using hkey
  refine ⟨h.enabled, h.registry, ?_, ?_⟩
  · simp only [closeDocument]
    split <;> exact h.displayMath
  · intro slot hs
    obtain ⟨hs, huri⟩ := hslot slot hs
    rw [hother _ huri]
    exact h.slot slot hs

/-- Where versions tell texts apart, the tokens of a document are those of its text. -/
theorem tokens_of_faithful (h : r.Faithful config history) (hd : d.RecordedIn history)
    (hversions : (history d.uri).Consistent) :
    (r.engine.parse d).1.tokens = tokenize config.displayMath d.content := by
  obtain ⟨key, parsed, hkey, hslot, hparse⟩ | ⟨hscan, _⟩ := r.engine.parse_cases d
  · -- the text of the slot and that of the document are both in the history, under one version
    obtain ⟨v, hv, rfl⟩ := Option.map_eq_some_iff.mp hkey
    obtain ⟨text, hmem, htokens⟩ := h.slot _ hslot
    have htext : text = d.content := hversions _ hmem _ (hd v hv) rfl
    rw [hparse, htokens, htext]
  · rw [hscan, ParseEngine.scan, h.displayMath]

end

/-! ### What a request comes to -/

section
variable {r r' : Router} {d d' : Document}

theorem synthesize_eq_of_tokens {e e' : ParseEngine} (registry : Registry) (pos : Position)
    (hcontent : d.content = d'.content) (htokens : (e.parse d).1.tokens = (e'.parse d').1.tokens) :
    (synthesize e registry d pos).1 = (synthesize e' registry d' pos).1 := by
  simp only [synthesize, project, Document.lines, hcontent, htokens]

theorem tokens_ofConfig (config : Config) (d : Document) :
    ((ofConfig config).engine.parse d).1.tokens = tokenize config.displayMath d.content := by
  obtain ⟨uri, content, _ | v⟩ := d <;> rfl

theorem gate_snd_eq (r : Router) (d : Document) (kind : RequestKind) (pos : Position)
    (trigger : Option String) :
    { r with engine := (r.gate d kind pos trigger).2.engine } = (r.gate d kind pos trigger).2 := by
  rw [gate_snd]
  split <;> rfl

/-- What a request comes to depends on the text of the document and its tokens alone. -/
theorem gate_fst_eq_of_tokens (henabled : r.enabled = r'.enabled)
    (hregistry : r.registry = r'.registry) (hcontent : d.content = d'.content)
    (htokens : (r.engine.parse d).1.tokens = (r'.engine.parse d').1.tokens) (kind : RequestKind)
    (pos : Position) (trigger : Option String) :
    (r.gate d kind pos trigger).1 = (r'.gate d' kind pos trigger).1 := by
  rw [gate_fst, gate_fst, henabled, hregistry,
    synthesize_eq_of_tokens r'.registry pos hcontent htokens]

/-- A router that is true to histories makes of a request what a new one would. -/
theorem gate_fst_of_faithful {config : Config} {history : String → History}
    (h : r.Faithful config history) (hd : d.RecordedIn history)
    (hversions : (history d.uri).Consistent) (version : Option Int32) (kind : RequestKind)
    (pos : Position) (trigger : Option String) :
    (r.gate d kind pos trigger).1 =
      ((ofConfig config).gate ⟨d.uri, d.content, version⟩ kind pos trigger).1 := by
  apply gate_fst_eq_of_tokens
  · exact h.enabled
  · exact h.registry
  · rfl
  · rw [tokens_of_faithful h hd hversions, tokens_ofConfig]

end

end Router

namespace Session

/-! ### Sessions that are true to histories -/

/-- A running session that has the latest text of every open document, and tokens that its documents
have had. -/
structure Faithful (config : Config) (history : String → History) (s : Session) : Prop where
  phase : s.phase = .running
  documents : ∀ uri, s.documents.get? uri =
    (history uri).head?.map fun entry => ⟨uri, entry.2, some entry.1⟩
  router : s.router.Faithful config history

section
variable {config : Config} {history : String → History} {s : Session}

theorem filed_of_faithful (h : s.Faithful config history) {uri : String} {d : Document}
    (hd : s.documents.get? uri = some d) : d.uri = uri ∧ d.RecordedIn history := by
  rw [h.documents] at hd
  obtain ⟨⟨v, text⟩, hhead, rfl⟩ := Option.map_eq_some_iff.mp hd
  refine ⟨rfl, ?_⟩
  rintro _ ⟨⟩
  exact List.mem_of_head? hhead

theorem faithful_start (p : StartParams) :
    (start {} p).2.Faithful (Config.ofOptions p.options) (historyOf []) where
  phase := rfl
  documents _ := rfl
  router := Router.faithful_ofConfig _ _

theorem documents_edit (h : s.Faithful config history) (e : Edit) (uri : String) :
    (s.edit e).documents.get? uri =
      (e.record uri (history uri)).head?.map fun entry => ⟨uri, entry.2, some entry.1⟩ := by
  cases e with
  | opened p =>
    simp only [edit, openDocument, Edit.record, DocumentStore.get?_opened]
    by_cases huri : uri = p.uri
    · subst huri
      simp
    · rw [if_neg huri, if_neg huri]
      exact h.documents uri
  | changed p =>
    simp only [edit, changeDocument, Edit.record]
    cases hlast : p.texts.getLast? with
    | none => exact h.documents uri
    | some text =>
      dsimp only
      rw [DocumentStore.get?_change _ _ _ _ _ fun d hd => (filed_of_faithful h hd).1, h.documents,
        h.documents]
      by_cases huri : uri = p.uri
      · subst huri
        cases history p.uri <;> simp
      · simp [huri]
  | closed gone =>
    simp only [edit, closeDocument, Edit.record, DocumentStore.get?_close]
    split
    · rfl
    · exact h.documents uri

theorem router_edit (h : s.Faithful config history) (e : Edit) :
    (s.edit e).router.Faithful config fun uri => e.record uri (history uri) := by
  cases e with
  | opened p =>
    refine Router.faithful_of_slot h.router ?_
    exact fun _ _ _ hmem => Edit.mem_record_of_mem hmem (by rintro _ ⟨⟩)
  | changed p =>
    have hrouter : (s.edit (.changed p)).router = s.router := by
      simp only [edit, changeDocument]
      split <;> rfl
    rw [hrouter]
    refine Router.faithful_of_slot h.router ?_
    exact fun _ _ _ hmem => Edit.mem_record_of_mem hmem (by rintro _ ⟨⟩)
  | closed gone =>
    refine Router.faithful_closeDocument h.router gone ?_
    exact fun uri huri => if_neg huri

theorem phase_edit (s : Session) (e : Edit) : (s.edit e).phase = s.phase := by
  cases e with
  | opened p => rfl
  | changed p =>
    simp only [edit, changeDocument]
    split <;> rfl
  | closed gone => rfl

theorem faithful_edit (h : s.Faithful config history) (e : Edit) :
    (s.edit e).Faithful config fun uri => e.record uri (history uri) where
  phase := (phase_edit s e).trans h.phase
  documents := documents_edit h e
  router := router_edit h e

variable {σ : Type} {storage : Storage (StateM σ)} {client : Client (StateM σ)}

theorem faithful_provide (h : s.Faithful config history) (kind : RequestKind) (p : PlaceParams) :
    Ensures (s.provide storage client kind p) fun out => out.2.Faithful config history := by
  refine ensures_provide (Faithful config history) h ?_
  intro d hd
  have hgate := Router.faithful_gate h.router (filed_of_faithful h hd).2 kind p.position p.trigger
  have hroute : Ensures (s.router.route storage (client.host storage s.supportsDelete) d kind
      p.position p.trigger) fun out => out.2.Faithful config history :=
    Router.ensures_route (Router.Faithful config history) hgate fun _ uri v hr =>
      Router.faithful_acquire hr uri v
  exact fun w => ⟨h.phase, h.documents, hroute w⟩

/-- Every message that does not end the session leaves it true to its histories. -/
theorem faithful_take {past : List Message} (h : s.Faithful config (historyOf past))
    {message : Message} (hmessage : message.isShutdown = false) :
    Ensures (s.take storage client message) (Faithful config (historyOf (past ++ [message]))) := by
  refine ensures_take _ h.phase message hmessage ?_ ?_ ?_
  · intro e he
    rw [funext (historyOf_append_edit he)]
    exact faithful_edit h e
  · intro he
    rwa [historyOf_append_other he]
  · intro he kind p
    rw [historyOf_append_other he]
    exact faithful_provide h kind p

theorem faithful_takeAll (start : StartParams) {messages : List Message}
    (hmessages : ∀ message ∈ messages, message.isShutdown = false) :
    Ensures ((Session.start {} start).2.takeAll storage client messages)
      (Faithful (Config.ofOptions start.options) (historyOf messages)) := by
  refine ensures_takeAll (fun past => Faithful _ (historyOf past)) messages (faithful_start start) ?_
  exact fun past message s hmem hs => faithful_take hs (hmessages message hmem)

end

/-! ### Answers -/

section
variable {m : Type → Type} [Monad m]

/-- Answers a request by what it came to; only what has passed is delivered. -/
def respond (storage : Storage m) (client : Client m) (s : Session) (kind : RequestKind)
    (p : PlaceParams) : Gate → m (Reply × Session)
  | .fallback => pure (.ok .null, s)
  | .refused => pure (.ok (ProviderResponse.empty kind).forEditor, s)
  | .passed v => do
    let host := client.host storage s.supportsDelete
    let (response, router) ← s.router.deliver storage host p.uri v kind p.position p.trigger
    return (.ok response.forEditor, { s with router })

end

section
variable {σ : Type} {storage : Storage (StateM σ)} {client : Client (StateM σ)} {s : Session}
  {name : String} {input : Option Json} {kind : RequestKind} {p : PlaceParams} {d : Document}

theorem handleRequest_of_closed (h : s.phase = .running)
    (hname : Method.ofName? name = some (.provide kind))
    (hparams : params (PlaceParams.decode kind) input = .ok p)
    (hd : s.documents.get? p.uri = none) :
    s.handleRequest storage client name input = pure (.ok .null, s) := by
  simp only [handleRequest, hname, h, answer, hparams, provide, hd]
  rfl

theorem handleRequest_of_open (h : s.phase = .running)
    (hname : Method.ofName? name = some (.provide kind))
    (hparams : params (PlaceParams.decode kind) input = .ok p)
    (hd : s.documents.get? p.uri = some d) (huri : d.uri = p.uri) :
    s.handleRequest storage client name input =
      respond storage client { s with router := (s.router.gate d kind p.position p.trigger).2 } kind p
        (s.router.gate d kind p.position p.trigger).1 := by
  simp only [handleRequest, hname, h, answer, hparams, provide, hd, Router.route, huri]
  rcases s.router.gate d kind p.position p.trigger with ⟨_ | _ | v, router⟩
  · rfl
  · rfl
  · rfl

end

/-- A request for a document that is not open is answered by null, and nothing is done for it. Where
the versions that an open document has had since it was last closed tell its texts apart, a request
comes to what it would come to in a new router, given the current text: what is delivered, if
anything is, is the virtual document of that text. -/
theorem handleRequest_current {σ : Type} (storage : Storage (StateM σ)) (client : Client (StateM σ))
    (start : StartParams) (messages : List Message)
    (hmessages : ∀ message ∈ messages, message.isShutdown = false) (w : σ) (name : String)
    (input : Option Json) (kind : RequestKind) (p : PlaceParams)
    (hname : Method.ofName? name = some (.provide kind))
    (hparams : params (PlaceParams.decode kind) input = .ok p) :
    let s := (((Session.start {} start).2.takeAll storage client messages).run w).1
    (currentText? messages p.uri = none →
      s.handleRequest storage client name input = pure (.ok .null, s)) ∧
    ∀ text, currentText? messages p.uri = some text → (historyOf messages p.uri).Consistent →
      ∀ version, ∃ engine,
        let fresh := Router.ofConfig (Config.ofOptions start.options)
        s.handleRequest storage client name input =
          respond storage client { s with router := { s.router with engine } } kind p
            (fresh.gate ⟨p.uri, text, version⟩ kind p.position p.trigger).1 := by
  intro s
  have hs : s.Faithful (Config.ofOptions start.options) (historyOf messages) :=
    faithful_takeAll start hmessages w
  constructor
  · intro hclosed
    refine handleRequest_of_closed hs.phase hname hparams ?_
    rw [currentText?, Option.map_eq_none_iff] at hclosed
    rw [hs.documents, hclosed]
    rfl
  · intro text htext hversions version
    obtain ⟨⟨v, text⟩, hhead, rfl⟩ := Option.map_eq_some_iff.mp htext
    have hd : s.documents.get? p.uri = some ⟨p.uri, text, some v⟩ := by
      rw [hs.documents, hhead]
      rfl
    have hgate := Router.gate_fst_of_faithful hs.router (filed_of_faithful hs hd).2 hversions version
      kind p.position p.trigger
    refine ⟨(s.router.gate ⟨p.uri, text, some v⟩ kind p.position p.trigger).2.engine, ?_⟩
    rw [handleRequest_of_open hs.phase hname hparams hd rfl, hgate, Router.gate_snd_eq]

end Session

namespace Reopened

def uri : String := "file:///a.qmd"

def openMessage (version : Int) (text : String) : Message :=
  .notice "textDocument/didOpen" (some (.object [("textDocument", .object [("uri", .string uri),
    ("languageId", .string "quarto"), ("version", .int version), ("text", .string text)])]))

def closeMessage : Message :=
  .notice "textDocument/didClose" (some (.object [("textDocument", .object [("uri", .string uri)])]))

def hoverParams : Json :=
  .object [("textDocument", .object [("uri", .string uri)]),
    ("position", .object [("line", .int 1), ("character", .int 0)])]

/-- A document is closed after a request and opened again, with another text under the same
version. -/
def messages : List Message :=
  [openMessage 1 "```{r}\nx\n```\n", .request (.int 1) "textDocument/hover" (some hoverParams),
    closeMessage, openMessage 1 "```{python}\ny\n```\n"]

def client : Client (StateM (World Unit)) where
  request _ _ _ := pure (.error "busy")
  notify _ _ := pure ()

def place : PlaceParams := ⟨uri, ⟨1, 0⟩, none⟩

/-- The document as it was opened last. -/
def document : Document := ⟨uri, "```{python}\ny\n```\n", none⟩

/-- What is delivered is made from the text that was opened last. -/
theorem handleRequest_current_reopened :
    let storage : Storage (StateM (World Unit)) := World.storage "/tmp"
    let s := (((Session.start {} ⟨{}, none⟩).2.takeAll storage client messages).run ⟨{}, ()⟩).1
    let fresh := Router.ofConfig {}
    (∃ engine, s.handleRequest storage client "textDocument/hover" (some hoverParams) =
      Session.respond storage client { s with router := { s.router with engine } } .hover place
        (fresh.gate document .hover ⟨1, 0⟩ none).1) ∧
      (fresh.virtualDocument document ⟨1, 0⟩).1.map VirtualDocument.content = some "\ny\n\n" := by
  have hrun : ∀ message ∈ messages, message.isShutdown = false := by decide
  have hparams : Session.params (PlaceParams.decode .hover) (some hoverParams) = .ok place := rfl
  have htext : currentText? messages place.uri = some document.content := by decide +kernel
  have hversions : (historyOf messages place.uri).Consistent := by decide +kernel
  obtain ⟨_, hopen⟩ := Session.handleRequest_current (World.storage "/tmp") client ⟨{}, none⟩ messages
    hrun ⟨{}, ()⟩ "textDocument/hover" (some hoverParams) .hover place rfl hparams
  exact ⟨hopen _ htext hversions none, by decide +kernel⟩

end Reopened

end Polyglot
