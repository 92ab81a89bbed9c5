/-! Half-open ranges of line numbers, counted from zero. -/

namespace Polyglot

/-- The lines from `first` up to, but not with, `stop`. -/
structure LineRange where
  first : Nat
  stop : Nat
  first_le_stop : first ≤ stop
deriving DecidableEq, Repr

namespace LineRange

/-- The lines from `first` up to `stop`; none if `stop` comes before `first`. -/
def span (first stop : Nat) : LineRange := ⟨first, max stop first, Nat.le_max_right _ _⟩

/-- Whether a line lies in the range. -/
def contains (r : LineRange) (line : Nat) : Bool := r.first ≤ line && line < r.stop

/-- How many lines the range has. -/
def size (r : LineRange) : Nat := r.stop - r.first

/-- Whether the range has no lines. -/
def isEmpty (r : LineRange) : Bool := r.size == 0

@[simp] theorem first_span (a b : Nat) : (span a b).first = a := rfl

@[simp] theorem stop_span (a b : Nat) : (span a b).stop = max b a := rfl

theorem stop_span_of_le {a b : Nat} (h : a ≤ b) : (span a b).stop = b := Nat.max_eq_left h

@[simp] theorem contains_iff (r : LineRange) (line : Nat) :
    r.contains line = true ↔ r.first ≤ line ∧ line < r.stop := by
  simp [contains]

end LineRange

end Polyglot
