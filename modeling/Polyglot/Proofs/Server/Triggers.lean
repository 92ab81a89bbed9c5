import Polyglot.Proofs.Delivery.Provision
import Polyglot.Proofs.Text.ByteOrder
import Polyglot.Server.Capabilities

/-! What the server says about the characters that trigger a completion. It lists the characters of all
languages in the order of their bytes and each of them once, since equal strings stand together once
they are sorted. A completion reaches a provider only if the language around it declares the character
that triggered it, and that language is one of those listed. -/

namespace Polyglot

namespace Registry

/-! ### The listed characters -/

theorem mem_dropRepeats {t : String} (ts : List String) : t ∈ dropRepeats ts ↔ t ∈ ts := by
  fun_induction dropRepeats ts with
  | case1 a r ih => simp [ih]
  | case2 a b r h ih => simp [ih]
  | case3 => rfl

/-- What is left of sorted strings is sorted without repetition. -/
theorem pairwise_dropRepeats {ts : List String} (h : ts.Pairwise (· ≤ ·)) :
    (dropRepeats ts).Pairwise (· < ·) := by
  fun_induction dropRepeats ts with
  | case1 a r ih => exact ih h.tail
  | case2 a b r hne ih =>
    obtain ⟨ha, hrest⟩ := List.pairwise_cons.mp h
    refine List.pairwise_cons.mpr ⟨?_, ih hrest⟩
    -- the next string is greater, and no other is before it
    have hab : a < b := lt_of_le_of_ne (ha b List.mem_cons_self) hne
    intro t ht
    rcases List.mem_cons.mp ((mem_dropRepeats _).mp ht) with rfl | ht
    · exact hab
    · exact lt_of_lt_of_le hab ((List.pairwise_cons.mp hrest).1 t ht)
  | case3 r hr =>
    match r, hr with
    | [], _ => exact .nil
    | [a], _ => exact List.pairwise_singleton _ a
    | a :: b :: r, hr => exact absurd rfl (hr a b r)

theorem mem_triggerCharacters (r : Registry) (t : String) :
    t ∈ r.triggerCharacters ↔ ∃ l ∈ r.toList, t ∈ l.triggerCharacters := by
  rw [triggerCharacters, mem_dropRepeats, List.mem_mergeSort, List.mem_flatMap]

theorem pairwise_triggerCharacters (r : Registry) : r.triggerCharacters.Pairwise (· < ·) := by
  apply pairwise_dropRepeats
  have hsorted := @List.pairwise_mergeSort String (fun a b => decide (a ≤ b))
    (by simpa using fun a b c => le_trans) (by simpa using le_total)
    (r.toList.flatMap Language.triggerCharacters)
  simpa using hsorted

end Registry

/-! ### The forwarded characters -/

namespace Router

variable {σ : Type} {storage : Storage (StateM σ)} {host : Host (StateM σ)} {r : Router}
  {d : Document} {kind : RequestKind} {pos : Position} {trigger : Option String} {w : σ}

/-- A provider is run for what was asked, and only if the language around the position does not
refuse it. -/
theorem exists_language_of_executed {request : ProviderRequest}
    (h : .executed request ∈ (r.ending storage host d kind pos trigger w).calls) :
    request.kind = kind ∧ request.triggerCharacter = trigger ∧
      ∃ l ∈ r.registry.toList, ¬ l.Refuses kind trigger := by
  obtain hfallback | ⟨v, henabled, hv⟩ := r.falls_back_or_inside d pos
  · have huntouched := (ending_of_disabled_or_none storage host kind trigger w hfallback).2
    rw [huntouched.calls] at h
    cases h
  by_cases hl : v.language.Refuses kind trigger
  · have huntouched := (ending_of_refuses storage host w henabled hv hl).2
    rw [huntouched.calls] at h
    cases h
  have hlanguage : ∃ l ∈ r.registry.toList, ¬ l.Refuses kind trigger :=
    ⟨v.language, mem_registry_of_synthesize hv, hl⟩
  have hgate := gate_of_not_refuses henabled hv hl
  cases hdelivery : v.language.delivery with
  | contentProvider =>
    rw [ending_of_content hgate hdelivery] at h
    obtain rfl := HostCall.executed.inj (List.mem_singleton.mp h)
    exact ⟨rfl, rfl, hlanguage⟩
  | tempFile =>
    obtain ⟨answer, _, hfile⟩ := ending_of_file storage host w hgate hdelivery
    revert h hfile
    generalize (r.ending storage host d kind pos trigger w).calls = calls
    intro h hfile
    cases hfile with
    | unmade | unnamed => cases h
    | unopened => simp at h
    | ran =>
      simp only [List.mem_cons, reduceCtorEq, HostCall.executed.injEq, List.not_mem_nil, or_false,
        false_or] at h
      subst h
      exact ⟨rfl, rfl, hlanguage⟩

end Router

/-- The characters that a completion is said to be triggered by are sorted by their bytes, and are those
of the configured languages. Whatever happened before, a completion that reaches a provider was
triggered by one of them, if by any. -/
theorem completionTriggers_match (config : Config) :
    let advertised := (ServerCapabilities.ofRegistry config.registry).completionTriggers
    advertised.Pairwise Text.BytesBefore ∧
    (∀ t, t ∈ advertised ↔ ∃ l ∈ config.registry.toList, t ∈ l.triggerCharacters) ∧
    ∀ (σ : Type) (storage : Storage (StateM σ)) (host : Host (StateM σ)) (past : List Router.Event)
      (w₀ : σ) (d : Document) (kind : RequestKind) (pos : Position) (trigger : Option String)
      (request : ProviderRequest) (t : String),
      let ready := ((Router.ofConfig config).takeAll storage host past).run w₀
      .executed request ∈ (ready.1.ending storage host d kind pos trigger ready.2).calls →
        request.kind = .completion → request.triggerCharacter = some t → t ∈ advertised := by
  intro advertised
  refine ⟨?_, config.registry.mem_triggerCharacters, ?_⟩
  · have hsorted := config.registry.pairwise_triggerCharacters
    exact hsorted.imp fun h => (Text.bytesBefore_iff _ _).mpr h
  · intro σ storage host past w₀ d kind pos trigger request t ready hexecuted hkind htrigger
    obtain ⟨hasked, hgiven, l, hl, hrefuses⟩ := Router.exists_language_of_executed hexecuted
    have hregistry : ready.1.registry = config.registry :=
      Router.registry_takeAll (Router.ofConfig config) past w₀
    rw [hregistry] at hl
    refine (config.registry.mem_triggerCharacters t).mpr ⟨l, hl, ?_⟩
    by_contra hforeign
    exact hrefuses (.inl ⟨hasked.symm.trans hkind, t, hgiven.symm.trans htrigger, hforeign⟩)

namespace Advertised

/-- A language with triggers out of order, one of them twice and one of them not ASCII. -/
def config : Config where
  languages := [⟨"css", none, none, some ["é", "~", "é", "#"], none⟩]

def host : Host (StateM (World Unit)) where
  openDocument _ := pure (.ok ())
  execute _ _ := pure .crashed
  deleteFile _ := pure (.ok ())

def document : Document := ⟨"file:///a.qmd", "```{css}\nx\n```\n", none⟩

def request : ProviderRequest :=
  ⟨.completion, "quarto-vdoc://css/file%3A%2F%2F%2Fa.qmd.css", ⟨1, 1⟩, some "é"⟩

theorem completionTriggers_match_forwarded :
    let e := (Router.ofConfig config).ending (World.storage "/tmp") host document .completion ⟨1, 1⟩
      (some "é") ⟨{}, ()⟩
    e.calls = [.executed request] ∧
      "é" ∈ (ServerCapabilities.ofRegistry config.registry).completionTriggers := by
  intro e
  have hcalls : e.calls = [.executed request] := by decide +kernel
  have hexecuted : .executed request ∈ e.calls := by
    rw [hcalls]
    exact List.mem_singleton_self _
  obtain ⟨_, _, hforwarded⟩ := completionTriggers_match config
  exact ⟨hcalls, hforwarded _ _ _ [] _ document _ _ _ request "é" hexecuted rfl rfl⟩

end Advertised

end Polyglot
