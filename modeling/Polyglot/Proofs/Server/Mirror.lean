import Mathlib.Data.List.Induction
import Polyglot.Proofs.Delivery.Provision
import Polyglot.Proofs.Server.Run
import Polyglot.Proofs.Token.Cache

/-! What a session keeps mirrors its open documents: tokens and content are kept for those alone, and
whoever asks for content gets what was last delivered for a document since it was last closed. -/

namespace Polyglot

/-! ### What happens to content -/

/-- What happens to the content that is kept for documents. -/
inductive ContentEvent where
  | delivered (uri content : String)
  | closed (uri : String)
deriving DecidableEq

namespace ContentEvent

/-- The document that an event is about. -/
def uri : ContentEvent → String
  | delivered uri _ => uri
  | closed uri => uri

/-- The content that is kept for a document after an event. -/
def keep (key : String) (kept : Option String) : ContentEvent → Option String
  | delivered uri content => if key = uri then some content else kept
  | closed uri => if key = uri then none else kept

/-- The content that is kept for a document after events. -/
def kept? (log : List ContentEvent) (key : String) : Option String := log.foldl (keep key) none

theorem kept?_concat (log : List ContentEvent) (event : ContentEvent) (key : String) :
    kept? (log ++ [event]) key = event.keep key (kept? log key) := by
  rw [kept?, List.foldl_append]
  rfl

theorem keep_of_ne {event : ContentEvent} {key : String} (h : event.uri ≠ key) (kept : Option String) :
    event.keep key kept = kept := by
  cases event <;> exact if_neg h.symm

theorem foldl_keep_of_ne {log : List ContentEvent} {key : String} (h : ∀ event ∈ log, event.uri ≠ key)
    (kept : Option String) : log.foldl (keep key) kept = kept := by
  induction log with
  | nil => rfl
  | cons event log ih =>
    rw [List.forall_mem_cons] at h
    rw [List.foldl_cons, keep_of_ne h.1, ih h.2]

/-- The content that is kept was delivered, and nothing has happened to it since. -/
theorem kept?_eq_some_iff (log : List ContentEvent) (key content : String) :
    kept? log key = some content ↔ ∃ before after,
      log = before ++ .delivered key content :: after ∧ ∀ event ∈ after, event.uri ≠ key := by
  constructor
  · intro h
    induction log using List.reverseRecOn with
    | nil => cases h
    | append_singleton log event ih =>
      rw [kept?_concat] at h
      by_cases hkey : event.uri = key
      · subst hkey
        cases event with
        | delivered uri content' =>
          obtain rfl := Option.some.inj ((if_pos rfl).symm.trans h)
          exact ⟨log, [], rfl, by rintro _ ⟨⟩⟩
        | closed uri => cases (if_pos rfl).symm.trans h
      · rw [keep_of_ne hkey] at h
        obtain ⟨before, after, rfl, hafter⟩ := ih h
        refine ⟨before, after ++ [event], by simp, ?_⟩
        intro other hother
        obtain hother | hother := List.mem_append.mp hother
        · exact hafter other hother
        · rwa [List.mem_singleton.mp hother]
  · rintro ⟨before, after, rfl, hafter⟩
    rw [kept?, List.foldl_append, List.foldl_cons, foldl_keep_of_ne hafter]
    exact if_pos rfl

end ContentEvent

/-- The delivery as content that a request for a document comes to. -/
def Gate.delivery? (uri : String) : Gate → Option ContentEvent
  | .passed v =>
    match v.language.delivery with
    | .contentProvider => some (.delivered uri v.content)
    | .tempFile => none
  | .fallback | .refused => none

/-! ### What routing keeps -/

namespace Router

variable {σ : Type} {storage : Storage (StateM σ)} {host : Host (StateM σ)} {r : Router}

/-- The content that is kept once a request has been decided. -/
def contentsAfter (r : Router) (uri : String) : Gate → ContentMap
  | .passed v =>
    match v.language.delivery with
    | .contentProvider => r.contents.put uri v.content
    | .tempFile => r.contents
  | .fallback | .refused => r.contents

theorem contents_gate (r : Router) (d : Document) (kind : RequestKind) (pos : Position)
    (trigger : Option String) : (r.gate d kind pos trigger).2.contents = r.contents := by
  rw [gate_snd]
  split <;> rfl

theorem contents_acquire (r : Router) (uri : String) (v : VirtualDocument) :
    Ensures (r.acquire storage host uri v) fun out =>
      out.2.contents = r.contentsAfter uri (.passed v) := by
  unfold acquire contentsAfter
  dsimp only
  cases v.language.delivery with
  | contentProvider => exact ensures_pure rfl
  | tempFile => exact ensures_after fun _ => ensures_pure rfl

theorem contents_deliver (r : Router) (uri : String) (v : VirtualDocument) (kind : RequestKind)
    (pos : Position) (trigger : Option String) :
    Ensures (r.deliver storage host uri v kind pos trigger) fun out =>
      out.2.contents = r.contentsAfter uri (.passed v) := by
  refine ensures_bind _ (contents_acquire r uri v) ?_
  rintro ⟨_ | handle, r'⟩ hr'
  · exact ensures_pure hr'
  · exact ensures_after fun _ => ensures_after fun _ => ensures_pure hr'

theorem contents_route (r : Router) (d : Document) (kind : RequestKind) (pos : Position)
    (trigger : Option String) :
    Ensures (r.route storage host d kind pos trigger) fun out =>
      out.2.contents = r.contentsAfter d.uri (r.gate d kind pos trigger).1 := by
  have hgate := contents_gate r d kind pos trigger
  unfold route
  revert hgate
  rcases r.gate d kind pos trigger with ⟨_ | _ | v, r'⟩ <;> intro hgate
  · exact ensures_pure hgate
  · exact ensures_pure hgate
  · have hafter : r'.contentsAfter d.uri (.passed v) = r.contentsAfter d.uri (.passed v) := by
      simp only [contentsAfter]
      rw [show r'.contents = r.contents from hgate]
    refine ensures_bind _ (contents_deliver r' d.uri v kind pos trigger) ?_
    exact fun _ hr => ensures_pure (hr.trans hafter)

/-- Tokens are kept under the key that they were kept under, or under that of the document. -/
theorem key?_route (r : Router) (d : Document) (kind : RequestKind) (pos : Position)
    (trigger : Option String) :
    Ensures (r.route storage host d kind pos trigger) fun out =>
      ∀ key, out.2.engine.key? = some key → r.engine.key? = some key ∨ d.cacheKey? = some key := by
  refine ensures_route (fun r' => ∀ key, r'.engine.key? = some key →
    r.engine.key? = some key ∨ d.cacheKey? = some key) ?_ ?_
  · intro key hkey
    rw [gate_snd] at hkey
    split at hkey
    · obtain ⟨_, _, _, _, hparse⟩ | ⟨_, _, hslot | ⟨key', hkey', hslot⟩⟩ := r.engine.parse_cases d
      · rw [parsed, hparse] at hkey
        exact .inl hkey
      · rw [parsed, ParseEngine.key?, hslot] at hkey
        exact .inl hkey
      · rw [parsed, ParseEngine.key?, hslot] at hkey
        rw [hkey', ← hkey]
        exact .inr rfl
    · exact .inl hkey
  · intro r' uri v hr'
    unfold acquire
    split
    · exact ensures_pure hr'
    · exact ensures_after fun _ => ensures_pure hr'

end Router

namespace Session

/-! ### What messages do -/

/-- The delivery as content that a request for a provider comes to. -/
def delivery? (s : Session) (kind : RequestKind) (p : PlaceParams) : Option ContentEvent :=
  (s.documents.get? p.uri).bind fun d =>
    (s.router.gate d kind p.position p.trigger).1.delivery? d.uri

/-- What a message does to the content that is kept. -/
def contentEvent? (s : Session) : Message → Option ContentEvent
  | .request _ name input =>
    match s.phase, Method.ofName? name with
    | .running, some (.provide kind) =>
      match params (PlaceParams.decode kind) input with
      | .ok p => s.delivery? kind p
      | .error _ => none
    | _, _ => none
  | .notice name input =>
    match s.phase, Edit.ofNotice? name input with
    | .running, some (.closed uri) => some (.closed uri)
    | _, _ => none
  | .reply .. => none

/-- What happens to the content that is kept while messages are taken. -/
def contentLog {σ : Type} (storage : Storage (StateM σ)) (client : Client (StateM σ)) (s : Session)
    (w : σ) : List Message → List ContentEvent
  | [] => []
  | message :: rest =>
    let out := (s.take storage client message).run w
    (s.contentEvent? message).toList ++ contentLog storage client out.1 out.2 rest

/-! ### Mirrors -/

/-- A session that has started: its documents are filed under their URIs and have versions, tokens and
content are kept for open documents alone, and the content is what the log says. -/
structure Mirrors (log : List ContentEvent) (s : Session) : Prop where
  phase : s.phase ≠ .waiting
  filed : ∀ entry ∈ s.documents.documents, entry.2.uri = entry.1 ∧ entry.2.version.isSome = true
  cached : ∀ key, s.router.engine.key? = some key → s.documents.contains key.uri = true
  kept : ∀ entry ∈ s.router.contents.contents, s.documents.contains entry.1 = true
  content : ∀ uri, s.router.contents.get? uri = ContentEvent.kept? log uri

section
variable {log : List ContentEvent} {s s' : Session}

theorem mirrors_start (p : StartParams) : (start {} p).2.Mirrors [] where
  phase := by rintro ⟨⟩
  filed := by rintro _ ⟨⟩
  cached := by rintro _ ⟨⟩
  kept := by rintro _ ⟨⟩
  content _ := rfl

/-- Nothing changes that is mirrored. -/
theorem Mirrors.of_eq (h : s.Mirrors log) (hphase : s'.phase ≠ .waiting)
    (hdocuments : s'.documents = s.documents) (hengine : s'.router.engine = s.router.engine)
    (hcontents : s'.router.contents = s.router.contents) : s'.Mirrors log := by
  refine ⟨hphase, ?_, ?_, ?_, ?_⟩
  · rw [hdocuments]
    exact h.filed
  · rw [hdocuments, hengine]
    exact h.cached
  · rw [hdocuments, hcontents]
    exact h.kept
  · rw [hcontents]
    exact h.content

theorem Mirrors.uri_of_get? (h : s.Mirrors log) {uri : String} {d : Document}
    (hd : s.documents.get? uri = some d) : d.uri = uri ∧ d.version.isSome = true := by
  obtain ⟨before, after, hdocuments, _⟩ := List.lookup_eq_some_iff.mp hd
  exact h.filed (uri, d) (by simp [hdocuments])

/-- A document with a version may be filed under its URI. -/
theorem Mirrors.put (h : s.Mirrors log) {d : Document} (hversion : d.version.isSome = true) :
    Mirrors log { s with documents := s.documents.put d } := by
  have hcontains : ∀ uri, s.documents.contains uri = true →
      (s.documents.put d).contains uri = true := by
    intro uri huri
    rw [DocumentStore.contains, DocumentStore.get?_put]
    split
    · rfl
    · exact huri
  refine ⟨h.phase, ?_, ?_, ?_, h.content⟩
  · intro entry hentry
    obtain rfl | hentry := List.mem_cons.mp hentry
    · exact ⟨rfl, hversion⟩
    · exact h.filed entry (List.mem_filter.mp hentry).1
  · exact fun key hkey => hcontains _ (h.cached key hkey)
  · exact fun entry hentry => hcontains _ (h.kept entry hentry)

theorem Mirrors.changeDocument (h : s.Mirrors log) (p : ChangeParams) :
    (s.changeDocument p).Mirrors log := by
  unfold Session.changeDocument
  split
  · unfold DocumentStore.change
    split
    · exact h.put rfl
    · exact h
  · exact h

/-- A document that is closed takes along all that is kept for it. -/
theorem Mirrors.closeDocument (h : s.Mirrors log) (uri : String) :
    (s.closeDocument uri).Mirrors (log ++ [.closed uri]) := by
  have hcontains : ∀ key, key ≠ uri → s.documents.contains key = true →
      (s.documents.close uri).contains key = true := by
    intro key hkey hopen
    rw [DocumentStore.contains, DocumentStore.get?_close, if_neg hkey]
    exact hopen
  refine ⟨h.phase, ?_, ?_, ?_, ?_⟩
  · exact fun entry hentry => h.filed entry (List.mem_filter.mp hentry).1
  · intro key hkey
    simp only [Session.closeDocument, Router.closeDocument] at hkey
    split at hkey
    · cases hkey
    · rename_i hother
      refine hcontains key.uri ?_ (h.cached key hkey)
      rintro rfl
      simp [hkey] at hother
  · intro entry hentry
    obtain ⟨hentry, hother⟩ := List.mem_filter.mp hentry
    exact hcontains entry.1 (by simpa using hother) (h.kept entry hentry)
  · intro key
    rw [ContentEvent.kept?_concat, ← h.content]
    exact lookup_filter_ne s.router.contents.contents uri key

/-- What an edit does to the content that is kept. -/
def editEvent? : Edit → Option ContentEvent
  | .closed uri => some (.closed uri)
  | .opened _ | .changed _ => none

theorem Mirrors.edit (h : s.Mirrors log) (e : Edit) :
    (s.edit e).Mirrors (log ++ (editEvent? e).toList) := by
  cases e with
  | opened p =>
    rw [editEvent?, Option.toList_none, List.append_nil]
    exact h.put rfl
  | changed p =>
    rw [editEvent?, Option.toList_none, List.append_nil]
    exact h.changeDocument p
  | closed uri => exact h.closeDocument uri

variable {σ : Type} {storage : Storage (StateM σ)} {client : Client (StateM σ)}

/-- What is delivered as content is kept for an open document. -/
theorem Mirrors.putContent (h : s.Mirrors log) {uri : String} (huri : s.documents.contains uri = true)
    (content : String) {router : Router}
    (hcached : ∀ key, router.engine.key? = some key → s.documents.contains key.uri = true)
    (hcontents : router.contents = s.router.contents.put uri content) :
    Mirrors (log ++ [.delivered uri content]) { s with router } := by
  refine ⟨h.phase, h.filed, hcached, ?_, ?_⟩
  · intro entry hentry
    rw [hcontents] at hentry
    obtain rfl | hentry := List.mem_cons.mp hentry
    · exact huri
    · exact h.kept entry (List.mem_filter.mp hentry).1
  · intro key
    rw [ContentEvent.kept?_concat, ← h.content, hcontents]
    exact ContentMap.get?_put s.router.contents uri content key

/-- Once a request has been decided, what was delivered as content is kept for its document. -/
theorem Mirrors.routed (h : s.Mirrors log) {uri : String} (huri : s.documents.contains uri = true)
    (gate : Gate) {router : Router}
    (hcached : ∀ key, router.engine.key? = some key → s.documents.contains key.uri = true)
    (hcontents : router.contents = s.router.contentsAfter uri gate) :
    Mirrors (log ++ (gate.delivery? uri).toList) { s with router } := by
  have hsame : router.contents = s.router.contents → Mirrors (log ++ []) { s with router } := by
    intro heq
    rw [List.append_nil]
    refine ⟨h.phase, h.filed, hcached, ?_, ?_⟩
    · exact fun entry hentry => h.kept entry (heq ▸ hentry)
    · intro key
      rw [← h.content, heq]
  cases gate with
  | fallback => exact hsame hcontents
  | refused => exact hsame hcontents
  | passed v =>
    cases hdelivery : v.language.delivery with
    | contentProvider =>
      simp only [Router.contentsAfter, Gate.delivery?, hdelivery] at hcontents ⊢
      exact h.putContent huri v.content hcached hcontents
    | tempFile =>
      simp only [Router.contentsAfter, Gate.delivery?, hdelivery] at hcontents ⊢
      exact hsame hcontents

theorem Mirrors.provide (h : s.Mirrors log) (kind : RequestKind) (p : PlaceParams) :
    Ensures (s.provide storage client kind p) fun out =>
      out.2.Mirrors (log ++ (s.delivery? kind p).toList) := by
  unfold Session.provide delivery?
  cases hd : s.documents.get? p.uri with
  | none =>
    rw [Option.bind_none, Option.toList_none, List.append_nil]
    exact ensures_pure h
  | some d =>
    obtain ⟨huri, _⟩ := h.uri_of_get? hd
    have hopen : s.documents.contains d.uri = true := by
      rw [DocumentStore.contains, huri, hd]
      rfl
    have hrouted : Ensures (s.router.route storage (client.host storage s.supportsDelete) d kind
        p.position p.trigger) fun out => Mirrors
          (log ++ ((s.router.gate d kind p.position p.trigger).1.delivery? d.uri).toList)
          { s with router := out.2 } := by
      intro w
      refine h.routed hopen _ ?_ (Router.contents_route s.router d kind p.position p.trigger w)
      intro key hkey
      obtain hold | hnew := Router.key?_route s.router d kind p.position p.trigger w key hkey
      · exact h.cached key hold
      · obtain ⟨version, _, rfl⟩ := Option.map_eq_some_iff.mp hnew
        exact hopen
    refine ensures_bind _ hrouted ?_
    rintro ⟨_ | response, router⟩ hrouter
    · exact ensures_pure hrouter
    · exact ensures_pure hrouter

/-- Nothing happens to the content that is kept. -/
theorem Mirrors.append_none (h : s.Mirrors log) :
    s.Mirrors (log ++ (none : Option ContentEvent).toList) := by
  rwa [Option.toList_none, List.append_nil]

theorem Mirrors.shutdown (h : s.Mirrors log) :
    Ensures (Session.shutdown storage { s with phase := .shutDown }) fun s' => s'.Mirrors log := by
  have hrouter : Ensures (s.router.shutdown storage) fun r =>
      r.engine = s.router.engine ∧ r.contents = s.router.contents :=
    ensures_after fun _ => ensures_pure ⟨rfl, rfl⟩
  refine ensures_bind _ hrouter ?_
  exact fun _ hr => ensures_pure (h.of_eq (by rintro ⟨⟩) rfl hr.1 hr.2)

theorem Mirrors.handleRequest (h : s.Mirrors log) (mark : Json) (name : String) (input : Option Json) :
    Ensures (s.handleRequest storage client name input) fun out =>
      out.2.Mirrors (log ++ (s.contentEvent? (.request mark name input)).toList) := by
  unfold Session.handleRequest contentEvent?
  dsimp only
  cases hphase : s.phase with
  | waiting => exact absurd hphase h.phase
  | shutDown =>
    cases Method.ofName? name with
    | none =>
      dsimp only
      split <;> exact ensures_pure h.append_none
    | some method => cases method <;> exact ensures_pure h.append_none
  | running =>
    cases Method.ofName? name with
    | none =>
      dsimp only
      split <;> exact ensures_pure h.append_none
    | some method =>
      cases method with
      | start => exact ensures_pure h.append_none
      | shutdown =>
        dsimp only [answer]
        cases input with
        | none => exact ensures_bind _ h.shutdown fun _ hs => ensures_pure hs.append_none
        | some j => exact ensures_pure (h.append_none.of_eq (by rintro ⟨⟩) rfl rfl rfl)
      | provide kind =>
        dsimp only [answer]
        cases params (PlaceParams.decode kind) input with
        | error e => exact ensures_pure h.append_none
        | ok p => exact ensures_bind _ (h.provide kind p) fun _ hs => ensures_pure hs
      | content =>
        dsimp only [answer]
        cases params decodeContentUri input <;> exact ensures_pure h.append_none
      | unserved parts =>
        dsimp only [answer]
        cases params (Part.checkAll parts) input <;> exact ensures_pure h.append_none

theorem Mirrors.handleNotice (h : s.Mirrors log) (name : String) (input : Option Json) :
    Ensures (s.handleNotice client name input) fun s' =>
      s'.Mirrors (log ++ (s.contentEvent? (.notice name input)).toList) := by
  unfold contentEvent?
  dsimp only
  cases hphase : s.phase with
  | waiting => exact absurd hphase h.phase
  | shutDown =>
    unfold Session.handleNotice
    rw [hphase]
    exact ensures_pure h.append_none
  | running =>
    intro w
    rw [ensures_handleNotice client hphase name input w]
    cases Edit.ofNotice? name input with
    | none => exact h.append_none
    | some e =>
      have hedit := h.edit e
      cases e <;> exact hedit

/-- Every message leaves a mirror of the open documents. -/
theorem Mirrors.take (h : s.Mirrors log) (message : Message) :
    Ensures (s.take storage client message) fun s' =>
      s'.Mirrors (log ++ (s.contentEvent? message).toList) := by
  cases message with
  | request mark name input =>
    exact ensures_bind _ (h.handleRequest mark name input) fun _ hs => ensures_pure hs
  | notice name input => exact h.handleNotice name input
  | reply mark result => exact ensures_pure h.append_none

theorem Mirrors.takeAll (h : s.Mirrors log) (messages : List Message) (w : σ) :
    ((s.takeAll storage client messages).run w).1.Mirrors
      (log ++ contentLog storage client s w messages) := by
  induction messages generalizing s log w with
  | nil =>
    rw [contentLog, List.append_nil]
    exact h
  | cons message rest ih =>
    rw [Session.takeAll, run_bind, contentLog, ← List.append_assoc]
    exact ih (h.take message w) _

end

end Session

namespace Mirrored

def uri : String := "file:///a.qmd"

def opened (text : String) : Message :=
  .notice "textDocument/didOpen" (some (.object [("textDocument", .object [("uri", .string uri),
    ("languageId", .string "quarto"), ("version", .int 1), ("text", .string text)])]))

def changed (text : String) : Message :=
  .notice "textDocument/didChange" (some (.object [("textDocument", .object [("uri", .string uri),
    ("version", .int 2)]), ("contentChanges", .array [.object [("text", .string text)]])]))

def hover : Message :=
  .request (.int 1) "textDocument/hover" (some (.object [("textDocument", .object [("uri", .string uri)]),
    ("position", .object [("line", .int 1), ("character", .int 0)])]))

/-- A request in a block of one language, and then one in a block of another. -/
def messages : List Message :=
  [opened "```{css}\na\n```\n", hover, changed "```{html}\nb\n```\n", hover]

def client : Client (StateM (World Unit)) where
  request _ _ _ := pure (.error "busy")
  notify _ _ := pure ()

end Mirrored

end Polyglot
