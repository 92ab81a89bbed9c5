import Polyglot.Token.Cache

/-! Where the tokens of a document come from: the slot has them or a scan does. -/

namespace Polyglot

namespace ParseEngine

section
variable {e : ParseEngine} {d : Document} {key : CacheKey} {parsed : Parsed}

theorem cached?_eq_some_iff : e.cached? key = some parsed ↔ e.slot = some ⟨key, parsed⟩ := by
  simp only [cached?, Option.bind_eq_some_iff, Option.ite_none_right_eq_some, Option.some.injEq]
  constructor
  · rintro ⟨slot, hslot, rfl, rfl⟩
    exact hslot
  · intro h
    exact ⟨_, h, rfl, rfl⟩

theorem parse_of_unversioned (h : d.cacheKey? = none) :
    e.parse d = (e.scan d, { e with passes := e.passes + 1 }) := by
  simp only [parse, h]

theorem parse_of_hit (h : d.cacheKey? = some key) (hslot : e.slot = some ⟨key, parsed⟩) :
    e.parse d = (parsed, e) := by
  simp only [parse, h, cached?_eq_some_iff.mpr hslot]

theorem parse_of_miss (h : d.cacheKey? = some key) (hslot : ∀ parsed, e.slot ≠ some ⟨key, parsed⟩) :
    e.parse d = (e.scan d, { e with slot := some ⟨key, e.scan d⟩, passes := e.passes + 1 }) := by
  have hcached : e.cached? key = none := by
    cases hc : e.cached? key with
    | none => rfl
    | some parsed => exact absurd (cached?_eq_some_iff.mp hc) (hslot parsed)
  simp only [parse, h, hcached]

end

/-- A parse scans the document, unless the slot is keyed by it. -/
theorem parse_cases (e : ParseEngine) (d : Document) :
    (∃ key parsed, d.cacheKey? = some key ∧ e.slot = some ⟨key, parsed⟩ ∧
      e.parse d = (parsed, e)) ∨
    ((e.parse d).1 = e.scan d ∧ (e.parse d).2.displayMath = e.displayMath ∧
      ((e.parse d).2.slot = e.slot ∨
        ∃ key, d.cacheKey? = some key ∧ (e.parse d).2.slot = some ⟨key, e.scan d⟩)) := by
  cases hkey : d.cacheKey? with
  | none =>
    rw [parse_of_unversioned hkey]
    exact .inr ⟨rfl, rfl, .inl rfl⟩
  | some key =>
    by_cases hslot : ∃ parsed, e.slot = some ⟨key, parsed⟩
    · obtain ⟨parsed, hslot⟩ := hslot
      exact .inl ⟨key, parsed, rfl, hslot, parse_of_hit hkey hslot⟩
    · rw [parse_of_miss hkey fun parsed h => hslot ⟨parsed, h⟩]
      exact .inr ⟨rfl, rfl, .inr ⟨key, rfl, rfl⟩⟩

theorem displayMath_parse (e : ParseEngine) (d : Document) :
    (e.parse d).2.displayMath = e.displayMath := by
  obtain ⟨_, _, _, _, h⟩ | ⟨_, h, _⟩ := e.parse_cases d
  · rw [h]
  · exact h

end ParseEngine

end Polyglot
