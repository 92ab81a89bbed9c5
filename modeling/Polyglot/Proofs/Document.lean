import Polyglot.Document

/-! What the store of open documents gives for a URI after each of its operations. -/

namespace Polyglot

section
variable {κ α : Type} [BEq κ] [LawfulBEq κ]

theorem lookup_cons_eq_ite [DecidableEq κ] (k : κ) (a : α) (entries : List (κ × α)) (key : κ) :
    ((k, a) :: entries).lookup key = if key = k then some a else entries.lookup key := by
  rw [List.lookup_cons]
  by_cases h : key = k
  · simp [h]
  · rw [if_neg h, beq_eq_false_iff_ne.mpr h]

/-- Entries of some keys only. -/
theorem lookup_filter_key (keep : κ → Bool) (entries : List (κ × α)) (key : κ) :
    (entries.filter fun e => keep e.1).lookup key = if keep key then entries.lookup key else none := by
  classical
  induction entries with
  | nil => simp
  | cons e entries ih =>
    obtain ⟨k, a⟩ := e
    cases hk : keep k with
    | true =>
      rw [List.filter_cons_of_pos (by exact hk), lookup_cons_eq_ite, lookup_cons_eq_ite, ih]
      by_cases h : key = k
      · simp [h, hk]
      · simp [h]
    | false =>
      rw [List.filter_cons_of_neg (by simp [hk]), lookup_cons_eq_ite, ih]
      by_cases h : key = k
      · simp [h, hk]
      · simp [h]

/-- Entries without those of one key. -/
theorem lookup_filter_ne [DecidableEq κ] (entries : List (κ × α)) (dropped key : κ) :
    (entries.filter fun e => e.1 != dropped).lookup key =
      if key = dropped then none else entries.lookup key := by
  rw [lookup_filter_key (· != dropped)]
  by_cases h : key = dropped <;> simp [h]

end

namespace DocumentStore

theorem get?_close (s : DocumentStore) (closed uri : String) :
    (s.close closed).get? uri = if uri = closed then none else s.get? uri :=
  lookup_filter_ne s.documents closed uri

theorem get?_put (s : DocumentStore) (d : Document) (uri : String) :
    (s.put d).get? uri = if uri = d.uri then some d else s.get? uri := by
  rw [put, get?, lookup_cons_eq_ite]
  split
  · rfl
  · have hrest := get?_close s d.uri uri
    rwa [if_neg (by assumption)] at hrest

theorem get?_opened (s : DocumentStore) (opened content : String) (version : Int32) (uri : String) :
    (s.opened opened content version).get? uri =
      if uri = opened then some ⟨opened, content, some version⟩ else s.get? uri :=
  get?_put s _ uri

/-- A change counts where the document is open and filed under its own URI. -/
theorem get?_change (s : DocumentStore) (changed content : String) (version : Int32) (uri : String)
    (hfiled : ∀ d, s.get? changed = some d → d.uri = changed) :
    (s.change changed content version).get? uri =
      if uri = changed then (s.get? changed).map fun _ => ⟨changed, content, some version⟩
      else s.get? uri := by
  unfold change
  cases hd : s.get? changed with
  | none =>
    by_cases h : uri = changed
    · rw [if_pos h, h]
      exact hd
    · rw [if_neg h]
  | some d =>
    rw [get?_put, hfiled d hd]
    rfl

end DocumentStore

end Polyglot
