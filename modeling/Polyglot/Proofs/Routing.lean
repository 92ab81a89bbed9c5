import Polyglot.Delivery.Disk
import Polyglot.Proofs.Delivery.Record
import Polyglot.Router

/-! What becomes of a routed request, for every host and every storage. A request either falls back,
is refused, or is delivered; a delivery asks the host for what it needs and no more, and a file that
the host has opened is deleted however the provider ends. Every answer is of the kind that was asked
for. -/

namespace Polyglot

/-- A language does not answer a request: a completion was triggered by a character that it does not
declare, or it does not support requests of this kind. -/
def Language.Refuses (l : Language) (kind : RequestKind) (trigger : Option String) : Prop :=
  (kind = .completion ∧ ∃ t, trigger = some t ∧ t ∉ l.triggerCharacters) ∨
    l.features.supports kind = false

/-- An answer that goes by the outcome of a provider: its response if that is of the right kind, and
an empty one otherwise. -/
def Settles (kind : RequestKind) (outcome : ProviderOutcome) (answer : ProviderResponse) : Prop :=
  (outcome = .response answer ∧ answer.kind = kind) ∨
    ((∀ response, outcome = .response response → response.kind ≠ kind) ∧ answer = .empty kind)

namespace Router

variable {σ : Type}

/-! ### Gates -/

theorem foreignTrigger_or_not_supports_iff (l : Language) (kind : RequestKind)
    (trigger : Option String) :
    (foreignTrigger l kind trigger || !l.supports kind) = true ↔ l.Refuses kind trigger := by
  simp only [foreignTrigger, Language.Refuses, Language.supports, Language.isTrigger,
    Bool.or_eq_true, Bool.and_eq_true, beq_iff_eq, Option.any_eq_true, Bool.not_eq_true',
    List.contains_eq_mem, decide_eq_false_iff_not]

/-- The router once it has the tokens of a document. -/
def parsed (r : Router) (d : Document) : Router := { r with engine := (r.engine.parse d).2 }

theorem gate_of_disabled {r : Router} (h : r.enabled = false) (d : Document) (kind : RequestKind)
    (pos : Position) (trigger : Option String) : r.gate d kind pos trigger = (.fallback, r) := by
  simp [gate, h]

section
variable {r : Router} {d : Document} {kind : RequestKind} {pos : Position} {trigger : Option String}
  {v : VirtualDocument}

theorem gate_of_none (h : r.enabled = true) (hv : (synthesize r.engine r.registry d pos).1 = none) :
    r.gate d kind pos trigger = (.fallback, r.parsed d) := by
  have hpair : r.virtualDocument d pos = (none, r.parsed d) := Prod.ext hv rfl
  simp [gate, h, hpair]

theorem gate_of_refuses (h : r.enabled = true)
    (hv : (synthesize r.engine r.registry d pos).1 = some v)
    (hl : v.language.Refuses kind trigger) :
    r.gate d kind pos trigger = (.refused, r.parsed d) := by
  have hpair : r.virtualDocument d pos = (some v, r.parsed d) := Prod.ext hv rfl
  simp only [gate, h, hpair, (foreignTrigger_or_not_supports_iff ..).mpr hl, ↓reduceIte]

theorem gate_of_not_refuses (h : r.enabled = true)
    (hv : (synthesize r.engine r.registry d pos).1 = some v)
    (hl : ¬ v.language.Refuses kind trigger) :
    r.gate d kind pos trigger = (.passed v, r.parsed d) := by
  have hpair : r.virtualDocument d pos = (some v, r.parsed d) := Prod.ext hv rfl
  rw [← foreignTrigger_or_not_supports_iff, Bool.not_eq_true] at hl
  simp only [gate, h, hpair, hl, ↓reduceIte, Bool.false_eq_true]

end

theorem gate_fst (r : Router) (d : Document) (kind : RequestKind) (pos : Position)
    (trigger : Option String) :
    (r.gate d kind pos trigger).1 =
      if r.enabled then
        match (synthesize r.engine r.registry d pos).1 with
        | none => .fallback
        | some v =>
          if foreignTrigger v.language kind trigger || !v.language.supports kind then .refused
          else .passed v
      else .fallback := by
  cases h : r.enabled with
  | false => rw [gate_of_disabled h]; rfl
  | true =>
    cases hv : (synthesize r.engine r.registry d pos).1 with
    | none => rw [gate_of_none h hv]; rfl
    | some v =>
      by_cases hl : v.language.Refuses kind trigger
      · rw [gate_of_refuses h hv hl]
        simp [(foreignTrigger_or_not_supports_iff ..).mpr hl]
      · rw [gate_of_not_refuses h hv hl]
        rw [← foreignTrigger_or_not_supports_iff] at hl
        simp [hl]

theorem gate_snd (r : Router) (d : Document) (kind : RequestKind) (pos : Position)
    (trigger : Option String) :
    (r.gate d kind pos trigger).2 = if r.enabled then r.parsed d else r := by
  unfold gate
  split
  · rcases hpair : r.virtualDocument d pos with ⟨_ | v, r'⟩
    · exact (congrArg Prod.snd hpair).symm
    · dsimp only
      split <;> exact (congrArg Prod.snd hpair).symm
  · rfl

/-! ### Deliveries -/

theorem settles_settle (kind : RequestKind) (outcome : ProviderOutcome) :
    Settles kind outcome (settle kind outcome) := by
  cases outcome with
  | response response =>
    by_cases h : response.kind = kind
    · left
      simp [settle, h]
    · right
      simp [settle, h]
  | failed error => exact .inr ⟨by rintro _ ⟨⟩, rfl⟩
  | crashed => exact .inr ⟨by rintro _ ⟨⟩, rfl⟩

theorem kind_empty (kind : RequestKind) : (ProviderResponse.empty kind).kind = kind := by
  cases kind <;> rfl

theorem kind_of_settles {kind : RequestKind} {outcome : ProviderOutcome} {answer : ProviderResponse}
    (h : Settles kind outcome answer) : answer.kind = kind := by
  obtain ⟨_, h⟩ | ⟨_, rfl⟩ := h
  · exact h
  · exact kind_empty kind

section
variable {storage : Storage (StateM σ)} {host : Host (StateM σ)} {r r' : Router} {uri : String}
  {v : VirtualDocument} {kind : RequestKind} {pos : Position} {trigger : Option String} {w w' : σ}

theorem acquire_of_content (h : v.language.delivery = .contentProvider) :
    (r.acquire storage host uri v).run w =
      ((.ok ⟨virtualDocumentUri uri v, false⟩, { r with contents := r.contents.put uri v.content }),
        w) := by
  simp only [acquire, h]
  rfl

theorem acquire_of_file {out : Except Error Handle} {files : TempFiles}
    (h : v.language.delivery = .tempFile)
    (hf : (r.files.acquire storage host v).run w = ((out, files), w')) :
    (r.acquire storage host uri v).run w = ((out, { r with files }), w') := by
  simp only [acquire, h]
  rw [run_bind, hf]
  rfl

theorem deliver_of_error {e : Error}
    (h : (r.acquire storage host uri v).run w = ((.error e, r'), w')) :
    (r.deliver storage host uri v kind pos trigger).run w = ((.empty kind, r'), w') := by
  rw [deliver, run_bind, h]
  rfl

theorem deliver_of_ok {handle : Handle}
    (h : (r.acquire storage host uri v).run w = ((.ok handle, r'), w')) :
    (r.deliver storage host uri v kind pos trigger).run w =
      let ran := (host.execute r'.contents.provide? ⟨kind, handle.uri, pos, trigger⟩).run w'
      ((settle kind ran.1, r'), ((handle.dispose host).run ran.2).2) := by
  rw [deliver, run_bind, h]
  rfl

end

/-! ### What routing leaves -/

section
variable {storage : Storage (StateM σ)} {host : Host (StateM σ)} {r : Router}

/-- What acquisitions preserve lasts from the gate to the end of a request. -/
theorem ensures_route (P : Router → Prop) {d : Document} {kind : RequestKind} {pos : Position}
    {trigger : Option String} (hgate : P (r.gate d kind pos trigger).2)
    (hacquire : ∀ r uri v, P r → Ensures (r.acquire storage host uri v) fun out => P out.2) :
    Ensures (r.route storage host d kind pos trigger) fun out => P out.2 := by
  unfold route
  revert hgate
  rcases r.gate d kind pos trigger with ⟨_ | _ | v, r'⟩ <;> intro hgate
  · exact ensures_pure hgate
  · exact ensures_pure hgate
  · have hdeliver : Ensures (r'.deliver storage host d.uri v kind pos trigger) fun out => P out.2 := by
      refine ensures_bind _ (hacquire r' d.uri v hgate) ?_
      rintro ⟨_ | handle, r⟩ hr
      · exact ensures_pure hr
      · exact ensures_after fun _ => ensures_after fun _ => ensures_pure hr
    exact ensures_bind _ hdeliver fun _ h => ensures_pure h

theorem rooted_ofConfig (c : Config) : (ofConfig c).files.Rooted := by
  rintro root ⟨⟩

theorem acquire_rooted (hs : storage.Rooted) (hr : r.files.Rooted) (uri : String)
    (v : VirtualDocument) : Ensures (r.acquire storage host uri v) fun out => out.2.files.Rooted := by
  unfold acquire
  split
  · exact ensures_pure hr
  · exact ensures_bind _ (TempFiles.acquire_rooted hs hr host v) fun _ h => ensures_pure h

/-- Wherever directories are made under absolute paths, routing leaves files with such paths. -/
theorem route_rooted (hs : storage.Rooted) (hr : r.files.Rooted) (d : Document) (kind : RequestKind)
    (pos : Position) (trigger : Option String) :
    Ensures (r.route storage host d kind pos trigger) fun out => out.2.files.Rooted := by
  refine ensures_route (fun r => r.files.Rooted) ?_ fun r uri v hr => acquire_rooted hs hr uri v
  rw [gate_snd]
  split <;> exact hr

end

/-! ### Endings -/

/-- How a request ends: what is answered, what the host was asked for, and what is left of the router
and of the world. -/
structure Ending (σ : Type) where
  answer : Routed ProviderResponse
  calls : List HostCall
  router : Router
  world : σ

/-- No call was made, and nothing that was written or kept is different. -/
structure Ending.Untouched (e : Ending σ) (r : Router) (w : σ) : Prop where
  calls : e.calls = []
  world : e.world = w
  contents : e.router.contents = r.contents
  files : e.router.files = r.files

/-- Routes a request to a host with a record of its calls. -/
def ending (storage : Storage (StateM σ)) (host : Host (StateM σ)) (r : Router) (d : Document)
    (kind : RequestKind) (pos : Position) (trigger : Option String) (w : σ) : Ending σ :=
  let out := (r.route storage.unrecorded host.recorded d kind pos trigger).run (w, [])
  ⟨out.1.1, out.2.2, out.1.2, out.2.1⟩

section
variable (storage : Storage (StateM σ)) (host : Host (StateM σ)) (r : Router) (uri : String)
  (v : VirtualDocument) (d : Document) (kind : RequestKind) (pos : Position)
  (trigger : Option String)

theorem acquire_erases :
    Erases (r.acquire storage.unrecorded host.recorded uri v) (r.acquire storage host uri v) := by
  unfold acquire
  split
  · exact erases_pure _
  · exact erases_bind (TempFiles.acquire_erases storage host r.files v) fun _ => erases_pure _

theorem deliver_erases :
    Erases (r.deliver storage.unrecorded host.recorded uri v kind pos trigger)
      (r.deliver storage host uri v kind pos trigger) := by
  refine erases_bind (acquire_erases storage host r uri v) ?_
  rintro ⟨_ | handle, r⟩
  · exact erases_pure _
  · exact erases_bind (erases_noted _ _) fun _ =>
      erases_bind (handle.dispose_erases host) fun _ => erases_pure _

theorem route_erases :
    Erases (r.route storage.unrecorded host.recorded d kind pos trigger)
      (r.route storage host d kind pos trigger) := by
  unfold route
  split
  · exact erases_pure _
  · exact erases_pure _
  · exact erases_bind (deliver_erases storage host _ d.uri _ kind pos trigger) fun _ => erases_pure _

/-- A record of the calls does not change how a request ends. -/
theorem route_eq_ending (w : σ) :
    (r.route storage host d kind pos trigger).run w =
      (((r.ending storage host d kind pos trigger w).answer,
        (r.ending storage host d kind pos trigger w).router),
        (r.ending storage host d kind pos trigger w).world) := by
  obtain ⟨hvalue, hworld⟩ := route_erases storage host r d kind pos trigger w []
  exact Prod.ext hvalue.symm hworld.symm

end

section
variable {storage : Storage (StateM σ)} {host : Host (StateM σ)} {r r' r'' : Router} {d : Document}
  {kind : RequestKind} {pos : Position} {trigger : Option String} {v : VirtualDocument} {w w' : σ}

theorem ending_of_fallback (h : r.gate d kind pos trigger = (.fallback, r')) :
    r.ending storage host d kind pos trigger w = ⟨.fallback, [], r', w⟩ := by
  rw [ending, route, h]
  rfl

theorem ending_of_refused (h : r.gate d kind pos trigger = (.refused, r')) :
    r.ending storage host d kind pos trigger w = ⟨.handled (.empty kind), [], r', w⟩ := by
  rw [ending, route, h]
  rfl

theorem ending_of_passed {response : ProviderResponse} {calls : List HostCall}
    (h : r.gate d kind pos trigger = (.passed v, r'))
    (hd : (r'.deliver storage.unrecorded host.recorded d.uri v kind pos trigger).run (w, []) =
      ((response, r''), (w', calls))) :
    r.ending storage host d kind pos trigger w = ⟨.handled response, calls, r'', w'⟩ := by
  rw [ending, route, h]
  simp only
  rw [run_bind, hd]
  rfl

/-- A virtual document that is kept as content takes one call. -/
theorem ending_of_content (h : r.gate d kind pos trigger = (.passed v, r'))
    (hl : v.language.delivery = .contentProvider) :
    let request : ProviderRequest := ⟨kind, virtualDocumentUri d.uri v, pos, trigger⟩
    let contents := r'.contents.put d.uri v.content
    let ran := (host.execute contents.provide? request).run w
    r.ending storage host d kind pos trigger w =
      ⟨.handled (settle kind ran.1), [.executed request], { r' with contents }, ran.2⟩ := by
  intro request contents ran
  apply ending_of_passed h
  rw [deliver_of_ok (acquire_of_content hl)]
  rfl

end

/-- How the delivery of a file ends, with the calls that it takes and the answer that it gives. -/
inductive FileEnding (storage : Storage (StateM σ)) (host : Host (StateM σ)) (files : TempFiles)
    (provide : String → Option String) (v : VirtualDocument) (kind : RequestKind) (pos : Position)
    (trigger : Option String) (w : σ) : List HostCall → ProviderResponse → Prop
  /-- The directory or the file cannot be made. -/
  | unmade {e : Error} {t : TempFiles} {w₁ : σ}
      (hplace : (files.place storage v).run w = ((.error e, t), w₁)) :
      FileEnding storage host files provide v kind pos trigger w [] (.empty kind)
  /-- The file is made, but no URI names its path. -/
  | unnamed {path : String} {t : TempFiles} {w₁ : σ}
      (hplace : (files.place storage v).run w = ((.ok path, t), w₁))
      (huri : Url.ofFilePath? path = none) :
      FileEnding storage host files provide v kind pos trigger w [] (.empty kind)
  /-- The host does not open the file. -/
  | unopened {path uri : String} {t : TempFiles} {e : Error} {w₁ w₂ : σ}
      (hplace : (files.place storage v).run w = ((.ok path, t), w₁))
      (huri : Url.ofFilePath? path = some uri)
      (hopen : (host.openDocument uri).run w₁ = (.error e, w₂)) :
      FileEnding storage host files provide v kind pos trigger w [.opened uri] (.empty kind)
  /-- The provider is run on the file, which is deleted whatever comes of it. -/
  | ran {path uri : String} {t : TempFiles} {w₁ w₂ : σ} {answer : ProviderResponse}
      (hplace : (files.place storage v).run w = ((.ok path, t), w₁))
      (huri : Url.ofFilePath? path = some uri)
      (hopen : (host.openDocument uri).run w₁ = (.ok (), w₂))
      (hanswer : Settles kind ((host.execute provide ⟨kind, uri, pos, trigger⟩).run w₂).1 answer) :
      FileEnding storage host files provide v kind pos trigger w
        [.opened uri, .executed ⟨kind, uri, pos, trigger⟩, .deleted uri] answer

section
variable {storage : Storage (StateM σ)} {host : Host (StateM σ)} {r r' : Router} {d : Document}
  {kind : RequestKind} {pos : Position} {trigger : Option String} {v : VirtualDocument}

theorem ending_of_file (storage : Storage (StateM σ)) (host : Host (StateM σ)) (w : σ)
    (h : r.gate d kind pos trigger = (.passed v, r')) (hl : v.language.delivery = .tempFile) :
    ∃ answer, (r.ending storage host d kind pos trigger w).answer = .handled answer ∧
      FileEnding storage host r'.files r'.contents.provide? v kind pos trigger w
        (r.ending storage host d kind pos trigger w).calls answer := by
  rcases hplace : (r'.files.place storage v).run w with ⟨⟨e | path, t⟩, w₁⟩
  · have hrecord : (r'.files.place storage.unrecorded v).run (w, []) =
        ((.error e, t), (w₁, [])) := by
      rw [TempFiles.place_unrecorded, run_unnoted, hplace]
    rw [ending_of_passed h
      (deliver_of_error (acquire_of_file hl (TempFiles.acquire_of_error hrecord)))]
    exact ⟨_, rfl, .unmade hplace⟩
  have hrecord : (r'.files.place storage.unrecorded v).run (w, []) = ((.ok path, t), (w₁, [])) := by
    rw [TempFiles.place_unrecorded, run_unnoted, hplace]
  cases huri : Url.ofFilePath? path with
  | none =>
    rw [ending_of_passed h
      (deliver_of_error (acquire_of_file hl (TempFiles.acquire_of_no_uri hrecord huri)))]
    exact ⟨_, rfl, .unnamed hplace huri⟩
  | some uri =>
    rcases hopen : (host.openDocument uri).run w₁ with ⟨e | _, w₂⟩
    · have hnoted : (host.recorded.openDocument uri).run (w₁, []) =
          (.error e, (w₂, [.opened uri])) := by
        rw [Host.recorded, run_noted, hopen, List.nil_append]
      rw [ending_of_passed h (deliver_of_error
        (acquire_of_file hl (TempFiles.acquire_of_not_opened hrecord huri hnoted)))]
      exact ⟨_, rfl, .unopened hplace huri hopen⟩
    · have hnoted : (host.recorded.openDocument uri).run (w₁, []) =
          (.ok (), (w₂, [.opened uri])) := by
        rw [Host.recorded, run_noted, hopen, List.nil_append]
      rw [ending_of_passed h (deliver_of_ok
        (acquire_of_file hl (TempFiles.acquire_of_opened hrecord huri hnoted)))]
      exact ⟨_, rfl, .ran hplace huri hopen (settles_settle kind _)⟩

theorem kind_of_fileEnding {files : TempFiles} {provide : String → Option String} {w : σ}
    {calls : List HostCall} {answer : ProviderResponse}
    (h : FileEnding storage host files provide v kind pos trigger w calls answer) :
    answer.kind = kind := by
  cases h with
  | unmade | unnamed | unopened => exact kind_empty kind
  | ran _ _ _ hanswer => exact kind_of_settles hanswer

/-! ### Fallback, refusal, delivery -/

theorem ending_of_disabled_or_none (storage : Storage (StateM σ)) (host : Host (StateM σ))
    (kind : RequestKind) (trigger : Option String) (w : σ)
    (h : r.enabled = false ∨ (synthesize r.engine r.registry d pos).1 = none) :
    (r.ending storage host d kind pos trigger w).answer = .fallback ∧
      (r.ending storage host d kind pos trigger w).Untouched r w := by
  cases henabled : r.enabled with
  | false =>
    rw [ending_of_fallback (gate_of_disabled henabled d kind pos trigger)]
    exact ⟨rfl, rfl, rfl, rfl, rfl⟩
  | true =>
    have hnone := h.resolve_left (by simp [henabled])
    rw [ending_of_fallback (gate_of_none henabled hnone)]
    exact ⟨rfl, rfl, rfl, rfl, rfl⟩

theorem ending_of_refuses (storage : Storage (StateM σ)) (host : Host (StateM σ)) (w : σ)
    (h : r.enabled = true) (hv : (synthesize r.engine r.registry d pos).1 = some v)
    (hl : v.language.Refuses kind trigger) :
    (r.ending storage host d kind pos trigger w).answer = .handled (.empty kind) ∧
      (r.ending storage host d kind pos trigger w).Untouched r w := by
  rw [ending_of_refused (gate_of_refuses h hv hl)]
  exact ⟨rfl, rfl, rfl, rfl, rfl⟩

/-- Inside a language there is always an answer, and it is of the kind that was asked for. -/
theorem exists_answer (storage : Storage (StateM σ)) (host : Host (StateM σ)) (kind : RequestKind)
    (trigger : Option String) (w : σ) (h : r.enabled = true)
    (hv : (synthesize r.engine r.registry d pos).1 = some v) :
    ∃ answer, (r.ending storage host d kind pos trigger w).answer = .handled answer ∧
      answer.kind = kind := by
  by_cases hl : v.language.Refuses kind trigger
  · exact ⟨_, (ending_of_refuses storage host w h hv hl).1, kind_empty kind⟩
  have hgate := gate_of_not_refuses h hv hl
  cases hdelivery : v.language.delivery with
  | contentProvider =>
    rw [ending_of_content hgate hdelivery]
    exact ⟨_, rfl, kind_of_settles (settles_settle kind _)⟩
  | tempFile =>
    obtain ⟨answer, hanswer, hfile⟩ := ending_of_file storage host w hgate hdelivery
    exact ⟨answer, hanswer, kind_of_fileEnding hfile⟩

end

theorem falls_back_or_inside (r : Router) (d : Document) (pos : Position) :
    (r.enabled = false ∨ (synthesize r.engine r.registry d pos).1 = none) ∨
      ∃ v, r.enabled = true ∧ (synthesize r.engine r.registry d pos).1 = some v := by
  cases henabled : r.enabled with
  | false => exact .inl (.inl rfl)
  | true =>
    cases hv : (synthesize r.engine r.registry d pos).1 with
    | none => exact .inl (.inr rfl)
    | some v => exact .inr ⟨v, rfl, rfl⟩

theorem answer_eq_fallback_iff (storage : Storage (StateM σ)) (host : Host (StateM σ)) (r : Router)
    (d : Document) (kind : RequestKind) (pos : Position) (trigger : Option String) (w : σ) :
    (r.ending storage host d kind pos trigger w).answer = .fallback ↔
      r.enabled = false ∨ (synthesize r.engine r.registry d pos).1 = none := by
  constructor
  · intro he
    obtain h | ⟨v, h, hv⟩ := r.falls_back_or_inside d pos
    · exact h
    · obtain ⟨answer, hanswer, _⟩ := exists_answer storage host kind trigger w h hv
      cases hanswer.symm.trans he
  · exact fun h => (ending_of_disabled_or_none storage host kind trigger w h).1

/-- Every way a request can end, with the calls that it takes. The first part says that the record of
calls is about the router as it runs; the last two, that files have a URI wherever directories are
made under absolute paths, from the start and after every request. -/
theorem route_endings (storage : Storage (StateM σ)) (host : Host (StateM σ)) (r : Router)
    (d : Document) (kind : RequestKind) (pos : Position) (trigger : Option String) (w : σ) :
    let vdoc := (synthesize r.engine r.registry d pos).1
    let e := r.ending storage host d kind pos trigger w
    (r.route storage host d kind pos trigger).run w = ((e.answer, e.router), e.world) ∧
    (e.answer = .fallback ↔ r.enabled = false ∨ vdoc = none) ∧
    (e.answer = .fallback → e.Untouched r w) ∧
    (∀ answer, e.answer = .handled answer → answer.kind = kind) ∧
    (∀ v, r.enabled = true → vdoc = some v →
      (v.language.Refuses kind trigger → e.answer = .handled (.empty kind) ∧ e.Untouched r w) ∧
      (¬ v.language.Refuses kind trigger → v.language.delivery = .contentProvider →
        let request : ProviderRequest := ⟨kind, virtualDocumentUri d.uri v, pos, trigger⟩
        let provide := (r.contents.put d.uri v.content).provide?
        e.calls = [.executed request] ∧ ∃ answer, e.answer = .handled answer ∧
          Settles kind ((host.execute provide request).run w).1 answer) ∧
      (¬ v.language.Refuses kind trigger → v.language.delivery = .tempFile →
        ∃ answer, e.answer = .handled answer ∧
          FileEnding storage host r.files r.contents.provide? v kind pos trigger w e.calls answer)) ∧
    (∀ config, (ofConfig config).files.Rooted) ∧
    (storage.Rooted → r.files.Rooted → e.router.files.Rooted ∧
      ∀ v path t w₁, (r.files.place storage v).run w = ((.ok path, t), w₁) →
        ∃ uri, Url.ofFilePath? path = some uri) := by
  intro vdoc e
  have hfallback := answer_eq_fallback_iff storage host r d kind pos trigger w
  refine ⟨route_eq_ending .., hfallback, ?_, ?_, ?_, rooted_ofConfig, ?_⟩
  · exact fun h => (ending_of_disabled_or_none storage host kind trigger w (hfallback.mp h)).2
  · intro answer he
    obtain h | ⟨v, h, hv⟩ := r.falls_back_or_inside d pos
    · cases he.symm.trans (hfallback.mpr h)
    · obtain ⟨_, hanswer, hkind⟩ := exists_answer storage host kind trigger w h hv
      obtain rfl := Routed.handled.inj (hanswer.symm.trans he)
      exact hkind
  · intro v h hv
    refine ⟨ending_of_refuses storage host w h hv, ?_, ?_⟩
    · intro hl hdelivery request provide
      have he : e = _ := ending_of_content (gate_of_not_refuses h hv hl) hdelivery
      rw [he]
      exact ⟨rfl, _, rfl, settles_settle kind _⟩
    · intro hl hdelivery
      exact (ending_of_file storage host w (gate_of_not_refuses h hv hl) hdelivery :)
  · intro hs hr
    have hleft : ((r.route storage host d kind pos trigger).run w).1.2.files.Rooted :=
      route_rooted hs hr d kind pos trigger w
    rw [route_eq_ending] at hleft
    refine ⟨hleft, ?_⟩
    intro v path t w₁ hplace
    have hpath := (TempFiles.place_rooted hs hr v w).2 path (by rw [hplace])
    exact exists_uri_of_isAbsolute hpath

end Router

namespace Crashing

/-- A language that is delivered as a file. -/
def language : Language := .plain "r" "r" [] ["$"] .all

def router : Router where
  enabled := true
  registry := .ofLanguages [language] []
  engine := {}
  files := {}

def document : Document := ⟨"file:///a.qmd", "```{r}\nx\n```\n", some 1⟩

/-- A provider that crashes, on files that cannot be deleted. -/
def host : Host (StateM (World Unit)) where
  openDocument _ := pure (.ok ())
  execute _ _ := pure .crashed
  deleteFile uri := pure (.error (.deleteFile uri "busy"))

def world : World Unit := ⟨⟨[(["tmp"], .directory)], 0⟩, ()⟩

def file : String := "file:///tmp/quarto-vdoc-0/r/intellisense.r"

/-- A crash is an empty answer, and the file is still deleted. -/
theorem route_endings_crashing :
    let e := router.ending (World.storage "/tmp") host document .completion ⟨1, 1⟩ (some "$") world
    e.calls = [.opened file, .executed ⟨.completion, file, ⟨1, 1⟩, some "$"⟩, .deleted file] ∧
      e.answer = .handled (.empty .completion) ∧
      Router.FileEnding (World.storage "/tmp") host {} (ContentMap.provide? {})
        ⟨language, "\nx\n\n"⟩ .completion ⟨1, 1⟩ (some "$") world e.calls (.empty .completion) := by
  intro e
  have hempty : e.answer = .handled (.empty .completion) := by decide +kernel
  obtain ⟨_, _, _, _, hinside, _⟩ := Router.route_endings (World.storage "/tmp") host router document
    .completion ⟨1, 1⟩ (some "$") world
  obtain ⟨_, _, hfile⟩ := hinside ⟨language, "\nx\n\n"⟩ rfl (by decide +kernel)
  obtain ⟨answer, hanswer, hending⟩ := hfile
    (by rw [← Router.foreignTrigger_or_not_supports_iff]; decide) rfl
  obtain rfl := Routed.handled.inj (hanswer.symm.trans hempty)
  exact ⟨by decide +kernel, hempty, hending⟩

end Crashing

end Polyglot
