import Polyglot.Token.Math

/-! Where display math lies. A region runs from one delimiter to the next without a line of code between
them, and the scan goes on below it, so regions come one after the other and clear of all code. -/

namespace Polyglot.Math

variable {isCode : Nat → Bool} {i : Nat} {opener : Option Nat}

/-- A region that is open at line `i` starts above it, and no line since then is code. -/
def Unclosed (isCode : Nat → Bool) (i : Nat) (opener : Option Nat) : Prop :=
  ∀ first, opener = some first → first < i ∧ ∀ line, first ≤ line → line < i → isCode line = false

/-- A region within some lines: its delimiters differ, and none of its lines is code. -/
structure Clear (isCode : Nat → Bool) (above below : Nat) (region : Nat × Nat) : Prop where
  above_le : above ≤ region.1
  first_lt_last : region.1 < region.2
  last_lt : region.2 < below
  no_code : ∀ line, region.1 ≤ line → line ≤ region.2 → isCode line = false

/-! ### What a line does to the open region -/

theorem unclosed_none (isCode : Nat → Bool) (i : Nat) : Unclosed isCode i none := by
  rintro _ ⟨⟩

/-- A delimiter opens a region, unless another follows it on its line. -/
theorem unclosed_opened (h : ¬ isCode i = true) (twice : Bool) :
    Unclosed isCode (i + 1) (if twice then none else some i) := by
  cases twice with
  | true => exact unclosed_none isCode (i + 1)
  | false =>
    rintro _ ⟨⟩
    refine ⟨Nat.lt_succ_self i, fun line hge hlt => ?_⟩
    obtain rfl : line = i := Nat.le_antisymm (Nat.le_of_lt_succ hlt) hge
    exact eq_false_of_ne_true h

theorem Unclosed.succ (h : Unclosed isCode i opener) (hi : ¬ isCode i = true) :
    Unclosed isCode (i + 1) opener := by
  intro first hfirst
  obtain ⟨hlt, hcode⟩ := h first hfirst
  refine ⟨Nat.lt_succ_of_lt hlt, fun line hge hle => ?_⟩
  rcases Nat.lt_succ_iff_lt_or_eq.mp hle with hline | rfl
  · exact hcode line hge hline
  · exact eq_false_of_ne_true hi

theorem Unclosed.getD_le (h : Unclosed isCode i opener) : opener.getD i ≤ i := by
  cases opener with
  | none => exact Nat.le_refl i
  | some first => exact Nat.le_of_lt (h first rfl).1

/-- What is clear among the lines that follow is clear among all. -/
theorem Clear.of_tail {above above' : Nat} {line : List Char} {lines : List (List Char)}
    {region : Nat × Nat} (h : Clear isCode above' (i + 1 + lines.length) region)
    (habove : above ≤ above') : Clear isCode above (i + (line :: lines).length) region :=
  { h with
    above_le := Nat.le_trans habove h.above_le
    last_lt := by simpa [Nat.add_assoc, Nat.add_comm 1] using h.last_lt }

/-! ### The regions of a text -/

theorem clear_of_mem_regions {lines : List (List Char)} (h : Unclosed isCode i opener) :
    ∀ region ∈ regions isCode i opener lines,
      Clear isCode (opener.getD i) (i + lines.length) region := by
  fun_induction regions isCode i opener lines with
  | case1 => simp
  | case2 i opener line lines hcode ih =>
    -- code ends the open region without a token
    intro region hregion
    exact (ih (unclosed_none isCode _) region hregion).of_tail (Nat.le_succ_of_le h.getD_le)
  | case3 i opener line lines hcode hline ih =>
    intro region hregion
    refine (ih (h.succ hcode) region hregion).of_tail ?_
    cases opener with
    | none => exact Nat.le_succ i
    | some first => exact Nat.le_refl first
  | case4 i line lines hcode after first hline ih =>
    -- the region ends here, and what it held since it was opened is the invariant
    obtain ⟨hfirst, hclear⟩ := h.succ hcode first rfl
    intro region hregion
    rcases List.mem_cons.mp hregion with rfl | hregion
    · exact ⟨Nat.le_refl first, (h first rfl).1, by simp,
        fun line hge hle => hclear line hge (Nat.lt_succ_of_le hle)⟩
    · exact (ih (unclosed_none isCode _) region hregion).of_tail (Nat.le_of_lt hfirst)
  | case5 i line lines hcode after hline ih =>
    intro region hregion
    refine (ih (unclosed_opened hcode _) region hregion).of_tail ?_
    split
    · exact Nat.le_succ i
    · exact Nat.le_refl i

theorem pairwise_regions {lines : List (List Char)} (h : Unclosed isCode i opener) :
    (regions isCode i opener lines).Pairwise fun a b => a.2 < b.1 := by
  fun_induction regions isCode i opener lines with
  | case1 => exact .nil
  | case2 i opener line lines hcode ih => exact ih (unclosed_none isCode _)
  | case3 i opener line lines hcode hline ih => exact ih (h.succ hcode)
  | case4 i line lines hcode after first hline ih =>
    have hnone := unclosed_none isCode (i + 1)
    exact .cons (fun region hregion => (clear_of_mem_regions hnone region hregion).above_le) (ih hnone)
  | case5 i line lines hcode after hline ih => exact ih (unclosed_opened hcode _)

end Polyglot.Math
