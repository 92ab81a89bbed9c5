import Polyglot.Path
import Polyglot.Proofs.Text.Lines

/-! Where paths lead. Segments are followed one after the other, by their text alone: empty ones and
single dots stay where they are, double dots go back. A path that goes on from another one leads on
from where that one leads, unless it starts anew. -/

namespace Polyglot.Path

/-! ### Segments -/

theorem segments_append_slash (base path : String) :
    segments (base ++ "/" ++ path) = segments base ++ segments path := by
  simp [segments, List.splitOn_append_cons_self]

/-- Whether a segment counts: empty ones and single dots say nothing. -/
def counts (s : String) : Bool := !s.isEmpty && s != "."

theorem components_eq_filter (path : String) : components path = (segments path).filter counts := rfl

theorem mem_components {path s : String} (h : s ∈ components path) :
    counts s = true ∧ '/' ∉ s.toList := by
  obtain ⟨hs, hcounts⟩ := List.mem_filter.mp h
  obtain ⟨part, hpart, rfl⟩ := List.mem_map.mp hs
  rw [String.toList_ofList]
  exact ⟨hcounts, (Text.splitOn_parts hpart).1⟩

/-- One ordinary segment of a path: it names an entry of the directory before it. -/
structure IsSegment (s : String) : Prop where
  ne_empty : s ≠ ""
  ne_dot : s ≠ "."
  ne_dots : s ≠ ".."
  no_slash : '/' ∉ s.toList
  no_nul : '\x00' ∉ s.toList

instance (s : String) : Decidable (IsSegment s) :=
  decidable_of_iff (s ≠ "" ∧ s ≠ "." ∧ s ≠ ".." ∧ '/' ∉ s.toList ∧ '\x00' ∉ s.toList)
    ⟨fun ⟨h₁, h₂, h₃, h₄, h₅⟩ => ⟨h₁, h₂, h₃, h₄, h₅⟩, fun ⟨h₁, h₂, h₃, h₄, h₅⟩ => ⟨h₁, h₂, h₃, h₄, h₅⟩⟩

theorem segments_of_isSegment {s : String} (h : IsSegment s) : segments s = [s] := by
  simp [segments, List.splitOn_eq_singleton h.no_slash]

theorem components_of_isSegment {s : String} (h : IsSegment s) : components s = [s] := by
  rw [components_eq_filter, segments_of_isSegment h]
  simp [counts, h.ne_empty, h.ne_dot]

theorem isAbsolute_of_isSegment {s : String} (h : IsSegment s) : isAbsolute s = false := by
  rw [isAbsolute, beq_eq_false_iff_ne]
  intro hhead
  exact h.no_slash (List.mem_of_head? hhead)

/-! ### Joined paths -/

/-- A path that goes on from another ends in its own segments; those before them say what the other
one says. -/
theorem segments_join {path : String} (h : isAbsolute path = false) (base : String) :
    ∃ front, segments (join base path) = front ++ segments path ∧
      front.filter counts = components base := by
  have hempty : components "" = [] := by decide
  rw [join, h]
  simp only [Bool.false_eq_true, ↓reduceIte]
  split
  · rename_i hbase
    rw [Bool.or_eq_true, String.isEmpty_iff, beq_iff_eq] at hbase
    obtain rfl | hlast := hbase
    · exact ⟨[], by rw [String.empty_append, List.nil_append], hempty.symm⟩
    · -- the slash at the end of `base` leaves an empty segment there
      obtain ⟨front, hfront⟩ := List.getLast?_eq_some_iff.mp hlast
      obtain rfl : base = String.ofList front ++ "/" ++ "" := by
        rw [← String.toList_inj]
        simpa using hfront
      refine ⟨segments (String.ofList front), ?_, ?_⟩
      · rw [String.append_empty, segments_append_slash]
      · rw [components_eq_filter, segments_append_slash, List.filter_append,
          ← components_eq_filter "", hempty, List.append_nil]
  · exact ⟨segments base, segments_append_slash base path, rfl⟩

theorem components_join {path : String} (h : isAbsolute path = false) (base : String) :
    components (join base path) = components base ++ components path := by
  obtain ⟨front, hsegments, hfront⟩ := segments_join h base
  rw [components_eq_filter, hsegments, List.filter_append, hfront]
  rfl

theorem components_join_of_isSegment {s : String} (h : IsSegment s) (base : String) :
    components (join base s) = components base ++ [s] := by
  rw [components_join (isAbsolute_of_isSegment h), components_of_isSegment h]

/-- Starting at the root says nothing. -/
theorem components_join_root (path : String) : components (join "/" path) = components path := by
  cases h : isAbsolute path with
  | true => rw [join, if_pos h]
  | false =>
    rw [components_join h]
    rfl

/-! ### Places -/

/-- Goes on from a place by one segment. -/
def follow (place : List String) (s : String) : List String :=
  if s.isEmpty || s == "." then place else if s == ".." then place.dropLast else place ++ [s]

/-- The place that segments lead to. -/
def resolve (place segments : List String) : List String := segments.foldl follow place

/-- The place that a path leads to. -/
def place (path : String) : List String := resolve [] (components path)

theorem resolve_append (place front rest : List String) :
    resolve place (front ++ rest) = resolve (resolve place front) rest := List.foldl_append

theorem follow_of_not_counts {s : String} (h : counts s = false) (place : List String) :
    follow place s = place := by
  simp only [counts, Bool.and_eq_false_iff, Bool.not_eq_false', bne_eq_false_iff_eq] at h
  obtain h | rfl := h
  · simp [follow, h]
  · rfl

/-- Whether a segment names an entry, and does not go back. -/
def IsName (s : String) : Prop := counts s = true ∧ s ≠ ".."

theorem isName_of_isSegment {s : String} (h : IsSegment s) : IsName s :=
  ⟨by simp [counts, h.ne_empty, h.ne_dot], h.ne_dots⟩

theorem follow_of_isName {s : String} (h : IsName s) (place : List String) :
    follow place s = place ++ [s] := by
  obtain ⟨hcounts, hdots⟩ := h
  simp only [counts, Bool.and_eq_true, Bool.not_eq_true', bne_iff_ne] at hcounts
  simp [follow, hcounts, hdots]

theorem resolve_filter_counts (place segments : List String) :
    resolve place (segments.filter counts) = resolve place segments := by
  induction segments generalizing place with
  | nil => rfl
  | cons s segments ih =>
    cases h : counts s with
    | true =>
      rw [List.filter_cons_of_pos h]
      exact ih (follow place s)
    | false =>
      rw [List.filter_cons_of_neg (by simp [h]), ih]
      exact congrArg (resolve · segments) (follow_of_not_counts h place).symm

theorem resolve_of_forall_isName {names : List String} (h : ∀ s ∈ names, IsName s)
    (place : List String) : resolve place names = place ++ names := by
  induction names generalizing place with
  | nil => exact (List.append_nil place).symm
  | cons s names ih =>
    rw [List.forall_mem_cons] at h
    change resolve (follow place s) names = _
    rw [ih h.2, follow_of_isName h.1, List.append_assoc, List.singleton_append]

theorem mem_of_mem_resolve {place segments : List String} {s : String} (h : s ∈ resolve place segments) :
    s ∈ place ∨ s ∈ segments := by
  induction segments generalizing place with
  | nil => exact .inl h
  | cons s' segments ih =>
    obtain h | h := ih h
    · unfold follow at h
      split at h
      · exact .inl h
      · split at h
        · exact .inl (List.dropLast_subset place h)
        · obtain h | h := List.mem_append.mp h
          · exact .inl h
          · exact .inr (List.mem_singleton.mp h ▸ List.mem_cons_self)
    · exact .inr (List.mem_cons_of_mem s' h)

/-- A place holds nothing that is not in the text of its path. -/
theorem mem_toList_of_mem_place {path s : String} (h : s ∈ place path) {c : Char} (hc : c ∈ s.toList) :
    c ∈ path.toList := by
  obtain h | h := mem_of_mem_resolve h
  · cases h
  · obtain ⟨part, hpart, rfl⟩ := List.mem_map.mp (List.mem_filter.mp h).1
    rw [String.toList_ofList] at hc
    exact (Text.splitOn_parts hpart).2 hc

theorem place_join {path : String} (h : isAbsolute path = false) (base : String) :
    place (join base path) = resolve (place base) (components path) := by
  rw [place, components_join h, resolve_append]
  rfl

theorem place_join_of_isSegment {s : String} (h : IsSegment s) (base : String) :
    place (join base s) = place base ++ [s] := by
  rw [place_join (isAbsolute_of_isSegment h), components_of_isSegment h]
  exact follow_of_isName (isName_of_isSegment h) (place base)

/-- A place is on the way of a path: some of its first components lead there. -/
def OnWay (path : String) (place : List String) : Prop :=
  ∃ front, front <+: components path ∧ place = resolve [] front

theorem onWay_place (path : String) : OnWay path (place path) := ⟨_, List.prefix_rfl, rfl⟩

end Polyglot.Path
