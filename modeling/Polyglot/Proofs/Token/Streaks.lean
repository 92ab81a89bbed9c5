import Mathlib.Data.List.Induction
import Polyglot.Proofs.Token.Calls

/-! The slot against the whole history of calls. It is keyed by the latest call on a versioned document
since it was last emptied, and it holds what the first call of the streak of that key scanned: calls on
other keys and emptying the slot end a streak, calls on documents without a version do not. -/

namespace Polyglot

namespace ParseEngine

/-! ### Histories -/

namespace Call

/-- The document that a call is on. -/
def document? : Call → Option Document
  | .parse d => some d
  | .synthesize _ d _ => some d
  | .invalidate => none

/-- The key of the document that a call is on. -/
def key? (c : Call) : Option CacheKey := c.document?.bind Document.cacheKey?

/-- The call is on a document without a version. -/
def Unversioned (c : Call) : Prop := ∃ d, c.document? = some d ∧ d.cacheKey? = none

theorem key?_of_unversioned {c : Call} (h : c.Unversioned) : c.key? = none := by
  obtain ⟨d, hd, hkey⟩ := h
  rw [key?, hd]
  exact hkey

theorem key?_eq_some_iff {c : Call} {key : CacheKey} :
    c.key? = some key ↔ ∃ d, c.document? = some d ∧ d.cacheKey? = some key :=
  Option.bind_eq_some_iff

end Call

/-- The latest call on a versioned document since the slot was last emptied is on a key. -/
def LatestKey (past : List Call) (key : CacheKey) : Prop :=
  ∃ before c later, past = before ++ c :: later ∧ c.key? = some key ∧ ∀ b ∈ later, b.Unversioned

/-- The current streak of a key starts after some calls, with a call on a document: the latest call
before it was on no such key, and since then no call was on another key or emptied the slot. -/
def StreakStarts (past : List Call) (key : CacheKey) (before : List Call) (first : Document) : Prop :=
  ¬ LatestKey before key ∧ ∃ c later, past = before ++ c :: later ∧ c.document? = some first ∧
    first.cacheKey? = some key ∧ ∀ b ∈ later, b.Unversioned ∨ b.key? = some key

section
variable {past before : List Call} {c : Call} {key : CacheKey} {first : Document}

theorem not_latestKey_nil (key : CacheKey) : ¬ LatestKey [] key := by
  rintro ⟨before, c, later, hsplit, -⟩
  simp at hsplit

theorem latestKey_concat :
    LatestKey (past ++ [c]) key ↔ c.key? = some key ∨ (c.Unversioned ∧ LatestKey past key) := by
  constructor
  · rintro ⟨before, b, later, hsplit, hkey, hlater⟩
    obtain rfl | ⟨later, last, rfl⟩ := List.eq_nil_or_concat later
    · obtain ⟨-, hlast⟩ := List.append_inj' hsplit rfl
      obtain rfl := List.singleton_inj.mp hlast
      exact .inl hkey
    · rw [List.concat_eq_append] at hsplit hlater
      rw [← List.cons_append, ← List.append_assoc] at hsplit
      obtain ⟨hpast, hlast⟩ := List.append_inj' hsplit rfl
      obtain rfl := List.singleton_inj.mp hlast
      exact .inr ⟨hlater c (by simp),
        before, b, later, hpast, hkey, fun b hb => hlater b (List.mem_append_left _ hb)⟩
  · rintro (hkey | ⟨hc, before, b, later, rfl, hkey, hlater⟩)
    · exact ⟨past, c, [], rfl, hkey, by simp⟩
    · refine ⟨before, b, later ++ [c], by simp, hkey, ?_⟩
      intro a ha
      rcases List.mem_append.mp ha with ha | ha
      · exact hlater a ha
      · rwa [List.mem_singleton.mp ha]

theorem StreakStarts.concat (h : StreakStarts past key before first)
    (hc : c.Unversioned ∨ c.key? = some key) : StreakStarts (past ++ [c]) key before first := by
  obtain ⟨hbefore, b, later, rfl, hfirst, hkey, hlater⟩ := h
  refine ⟨hbefore, b, later ++ [c], by simp, hfirst, hkey, ?_⟩
  intro a ha
  rcases List.mem_append.mp ha with ha | ha
  · exact hlater a ha
  · rwa [List.mem_singleton.mp ha]

/-- The key of the latest call has a streak. -/
theorem exists_streakStarts (h : LatestKey past key) :
    ∃ before first, StreakStarts past key before first := by
  induction past using List.reverseRecOn with
  | nil => exact absurd h (not_latestKey_nil key)
  | append_singleton past c ih =>
    -- a streak goes on if the key was the latest already, and otherwise starts with this call
    by_cases hpast : LatestKey past key
    · obtain ⟨before, first, hstreak⟩ := ih hpast
      refine ⟨before, first, hstreak.concat ?_⟩
      rcases latestKey_concat.mp h with hkey | ⟨hc, -⟩
      · exact .inr hkey
      · exact .inl hc
    · rcases latestKey_concat.mp h with hkey | ⟨-, hlatest⟩
      · obtain ⟨first, hfirst, hkey⟩ := Call.key?_eq_some_iff.mp hkey
        exact ⟨past, first, hpast, c, [], rfl, hfirst, hkey, by simp⟩
      · exact absurd hlatest hpast

end

/-! ### One call -/

section
variable {e : ParseEngine} {c : Call} {d : Document} {key : CacheKey} {parsed : Parsed}

/-- A call on a document leaves the engine as a parse of it does. -/
theorem call_of_document? (h : c.document? = some d) : e.call c = (e.parse d).2 := by
  cases c with
  | parse d' | synthesize _ d' _ =>
    obtain rfl := Option.some.inj h
    rfl
  | invalidate => cases h

theorem slot_call_of_unversioned (h : c.Unversioned) : (e.call c).slot = e.slot := by
  obtain ⟨d, hd, hkey⟩ := h
  rw [call_of_document? hd, parse_of_unversioned hkey]

theorem slot_call_of_hit (hkey : c.key? = some key) (hslot : e.slot = some ⟨key, parsed⟩) :
    (e.call c).slot = some ⟨key, parsed⟩ := by
  obtain ⟨d, hd, hkey⟩ := Call.key?_eq_some_iff.mp hkey
  rw [call_of_document? hd, parse_of_hit hkey hslot, hslot]

theorem key?_eq_some_iff : e.key? = some key ↔ ∃ parsed, e.slot = some ⟨key, parsed⟩ := by
  unfold key?
  constructor
  · intro h
    obtain ⟨slot, hslot, rfl⟩ := Option.map_eq_some_iff.mp h
    exact ⟨slot.parsed, hslot⟩
  · rintro ⟨parsed, hslot⟩
    rw [hslot]
    rfl

theorem parse_of_key?_ne (hkey : d.cacheKey? = some key) (h : e.key? ≠ some key) :
    e.parse d = (e.scan d, { e with slot := some ⟨key, e.scan d⟩, passes := e.passes + 1 }) :=
  parse_of_miss hkey fun parsed hslot => h (key?_eq_some_iff.mpr ⟨parsed, hslot⟩)

/-- Whatever the slot held, it is keyed by a versioned document that was parsed. -/
theorem key?_parse (hkey : d.cacheKey? = some key) : (e.parse d).2.key? = some key := by
  by_cases h : e.key? = some key
  · obtain ⟨parsed, hslot⟩ := key?_eq_some_iff.mp h
    rw [parse_of_hit hkey hslot]
    exact h
  · rw [parse_of_key?_ne hkey h]
    rfl

/-- A call keys the slot by its own document, leaves it alone if that has no version, or empties
it. -/
theorem key?_call : (e.call c).key? = some key ↔
    c.key? = some key ∨ (c.Unversioned ∧ e.key? = some key) := by
  cases hd : c.document? with
  | none =>
    have hnot : ¬ c.Unversioned := by
      rintro ⟨d, hd', -⟩
      cases hd.symm.trans hd'
    cases c with
    | parse | synthesize => cases hd
    | invalidate => simp [call, invalidate, key?, Call.key?, hd, hnot]
  | some d =>
    rw [call_of_document? hd]
    cases hkey : d.cacheKey? with
    | none =>
      have hc : c.Unversioned := ⟨d, hd, hkey⟩
      rw [parse_of_unversioned hkey, Call.key?_of_unversioned hc]
      simp [hc, key?]
    | some own =>
      have hnot : ¬ c.Unversioned := by
        rintro ⟨d', hd', hkey'⟩
        obtain rfl := Option.some.inj (hd.symm.trans hd')
        cases hkey.symm.trans hkey'
      rw [key?_parse hkey, Call.key?, hd, Option.bind_some, hkey]
      simp [hnot]

/-- What the slot holds was scanned in an earlier pass. -/
def Counted (e : ParseEngine) : Prop := ∀ slot, e.slot = some slot → slot.parsed.pass < e.passes

theorem Counted.parse (h : e.Counted) (d : Document) :
    (e.parse d).2.Counted ∧ (e.parse d).1.pass < (e.parse d).2.passes ∧
      e.passes ≤ (e.parse d).2.passes := by
  cases hkey : d.cacheKey? with
  | none =>
    rw [parse_of_unversioned hkey]
    exact ⟨fun slot hslot => Nat.lt_succ_of_lt (h slot hslot), Nat.lt_succ_self _, Nat.le_succ _⟩
  | some key =>
    by_cases hslot : e.key? = some key
    · obtain ⟨parsed, hslot⟩ := key?_eq_some_iff.mp hslot
      rw [parse_of_hit hkey hslot]
      exact ⟨h, h _ hslot, Nat.le_refl _⟩
    · rw [parse_of_key?_ne hkey hslot]
      refine ⟨?_, Nat.lt_succ_self _, Nat.le_succ _⟩
      rintro _ ⟨⟩
      exact Nat.lt_succ_self _

theorem Counted.call (h : e.Counted) (c : Call) :
    (e.call c).Counted ∧ e.passes ≤ (e.call c).passes := by
  cases c with
  | parse d | synthesize _ d _ => exact ⟨(h.parse d).1, (h.parse d).2.2⟩
  | invalidate => exact ⟨by rintro _ ⟨⟩, Nat.le_refl _⟩

end

/-! ### Runs -/

section
variable {e : ParseEngine} {past before : List Call} {key : CacheKey} {first : Document}

theorem run_concat (e : ParseEngine) (past : List Call) (c : Call) :
    e.run (past ++ [c]) = (e.run past).call c := List.foldl_append

theorem run_append (e : ParseEngine) (before later : List Call) :
    e.run (before ++ later) = (e.run before).run later := List.foldl_append

theorem displayMath_run (e : ParseEngine) (past : List Call) :
    (e.run past).displayMath = e.displayMath := by
  induction past using List.reverseRecOn with
  | nil => rfl
  | append_singleton past c ih =>
    rw [run_concat, ← ih]
    cases c with
    | parse d | synthesize _ d _ => exact displayMath_parse _ d
    | invalidate => rfl

theorem tokens_scan_run (e : ParseEngine) (past : List Call) (d : Document) :
    ((e.run past).scan d).tokens = tokenize e.displayMath d.content := by
  rw [scan, displayMath_run]

theorem Counted.run (h : e.Counted) (past : List Call) :
    (e.run past).Counted ∧ e.passes ≤ (e.run past).passes := by
  induction past using List.reverseRecOn with
  | nil => exact ⟨h, Nat.le_refl _⟩
  | append_singleton past c ih =>
    rw [run_concat]
    obtain ⟨hcounted, hpasses⟩ := ih.1.call c
    exact ⟨hcounted, Nat.le_trans ih.2 hpasses⟩

/-- The slot is keyed by the latest call on a versioned document. -/
theorem key?_run (h : e.slot = none) : (e.run past).key? = some key ↔ LatestKey past key := by
  induction past using List.reverseRecOn with
  | nil =>
    have hempty : e.key? = none := by rw [key?, h]; rfl
    simp [run, hempty, not_latestKey_nil]
  | append_singleton past c ih => rw [run_concat, key?_call, ih, latestKey_concat]

/-- Along a streak the slot holds what its first call scanned. -/
theorem slot_run_of_streakStarts (h : e.slot = none) (hstreak : StreakStarts past key before first) :
    ((e.run before).parse first).1 = (e.run before).scan first ∧
      (e.run past).slot = some ⟨key, (e.run before).scan first⟩ := by
  obtain ⟨hbefore, c, later, rfl, hfirst, hkey, hlater⟩ := hstreak
  have hmiss := parse_of_key?_ne hkey fun hkeyed => hbefore ((key?_run h).mp hkeyed)
  refine ⟨by rw [hmiss], ?_⟩
  -- the first call fills the slot; all that follow are hits or leave it alone
  induction later using List.reverseRecOn with
  | nil => rw [run_concat, call_of_document? hfirst, hmiss]
  | append_singleton later b ih =>
    have hslot := ih fun a ha => hlater a (List.mem_append_left _ ha)
    rw [← List.cons_append, ← List.append_assoc, run_concat]
    rcases hlater b (by simp) with hb | hb
    · rw [slot_call_of_unversioned hb, hslot]
    · exact slot_call_of_hit hb hslot

end

/-! ### The tokens of a call -/

/-- The tokens at hand are not those of any call before: they are of a pass of their own. -/
def NewTo (e : ParseEngine) (past : List Call) (parsed : Parsed) : Prop :=
  ∀ before c later d, past = before ++ c :: later → c.document? = some d →
    ((e.run before).parse d).1.pass ≠ parsed.pass

theorem newTo_scan {e : ParseEngine} (h : e.Counted) (past : List Call) (d : Document) :
    e.NewTo past ((e.run past).scan d) := by
  rintro before c later d' rfl hd'
  obtain ⟨hcounted, hpass, -⟩ := (h.run before).1.parse d'
  -- the pass of the call was counted before the later ones, and the count never goes back
  have hlater := (hcounted.run later).2
  rw [← call_of_document? hd'] at hpass hlater
  have hrun : e.run (before ++ c :: later) = ((e.run before).call c).run later := by
    rw [run_append]
    rfl
  rw [hrun]
  exact Nat.ne_of_lt (Nat.lt_of_lt_of_le hpass hlater)

/-- No text is tokenized for the document. -/
def Hits (e : ParseEngine) (d : Document) : Prop := (e.parse d).2.passes = e.passes

theorem hits_iff {e : ParseEngine} {d : Document} {key : CacheKey} (hkey : d.cacheKey? = some key) :
    e.Hits d ↔ e.key? = some key := by
  constructor
  · intro hhit
    by_contra hmiss
    rw [Hits, parse_of_key?_ne hkey hmiss] at hhit
    exact absurd hhit (Nat.succ_ne_self _)
  · intro hkeyed
    obtain ⟨_, hslot⟩ := key?_eq_some_iff.mp hkeyed
    rw [Hits, parse_of_hit hkey hslot]

/-- What an engine goes by after any calls. Virtual documents go by the tokens of a parse. A document
without a version has its own tokens and leaves the slot alone, whatever that holds. One with a version
has those of the first call of the streak of its key, if the latest call was on that key, and otherwise
its own, under which the slot is then keyed. Own tokens are of a pass that no call before had. -/
theorem parse_after_calls (displayMath : Bool) (past : List Call) (d : Document) :
    let start : ParseEngine := { displayMath }
    let e := start.run past
    let parsed := (e.parse d).1
    let after := (e.parse d).2
    let own := parsed.tokens = tokenize displayMath d.content ∧ start.NewTo past parsed
    (∀ registry pos, Polyglot.synthesize e registry d pos =
      ((resolveAt? parsed.tokens registry pos.line.toNat).map fun l =>
        project parsed.tokens registry l d, after)) ∧
    (d.cacheKey? = none →
      own ∧ after.slot = e.slot ∧ ∀ slot, (ParseEngine.parse { e with slot } d).1 = parsed) ∧
    ∀ key, d.cacheKey? = some key →
      (e.Hits d ↔ LatestKey past key) ∧
      (LatestKey past key → ∃ before first, StreakStarts past key before first) ∧
      (∀ before first, StreakStarts past key before first →
        parsed = ((start.run before).parse first).1 ∧
          parsed.tokens = tokenize displayMath first.content ∧ after = e) ∧
      (¬ LatestKey past key → own ∧ after.key? = some key) := by
  intro start e parsed after own
  have hcounted : start.Counted := by rintro _ ⟨⟩
  have hkeyed : ∀ key, e.key? = some key ↔ LatestKey past key := fun key => key?_run rfl
  have hown : parsed = e.scan d → own := by
    intro hscan
    refine ⟨?_, ?_⟩
    · rw [hscan]
      exact tokens_scan_run start past d
    · rw [hscan]
      exact newTo_scan hcounted past d
  refine ⟨fun _ _ => rfl, ?_, ?_⟩
  · intro hkey
    have hparse : e.parse d = _ := parse_of_unversioned hkey
    refine ⟨hown (congrArg Prod.fst hparse), by simp only [after, hparse], fun slot => ?_⟩
    simp only [parsed, parse_of_unversioned hkey]
    rfl
  · intro key hkey
    refine ⟨(hits_iff hkey).trans (hkeyed key), exists_streakStarts, ?_, ?_⟩
    · intro before first hstreak
      obtain ⟨hfirst, hslot⟩ := slot_run_of_streakStarts (e := start) rfl hstreak
      have hparse : e.parse d = _ := parse_of_hit hkey hslot
      have hparsed : parsed = (start.run before).scan first := congrArg Prod.fst hparse
      refine ⟨hparsed.trans hfirst.symm, ?_, congrArg Prod.snd hparse⟩
      rw [hparsed]
      exact tokens_scan_run start before first
    · intro hlatest
      have hparse : e.parse d = _ := parse_of_key?_ne hkey fun h => hlatest ((hkeyed key).mp h)
      exact ⟨hown (congrArg Prod.fst hparse), key?_parse hkey⟩

end ParseEngine

end Polyglot
