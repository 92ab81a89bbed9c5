import Polyglot.Proofs.Text.Lines

/-! How many lines a text takes up, a terminator at its end not starting another. Two texts take up no
more lines together than apart: fewer, if a carriage return at the end of one meets a line feed. -/

namespace Polyglot.Text

/-- How many lines of a text hold something. -/
abbrev written (cs : List Char) : Nat := (writtenLines cs).length

theorem written_le_length_cut (cs : List Char) : written cs ≤ (cut cs).length :=
  List.length_filter_le _ _

/-! ### Character by character -/

/-- Only the end of a text starts with nothing. -/
theorem isNothing_of_cut {cs : List Char} (h : cs ≠ []) {l : Line} {ls : List Line}
    (hcut : cut cs = l :: ls) : l.isNothing = false := by
  revert hcut
  fun_cases cut cs with
  | case1 => contradiction
  | case2 | case3 | case4 =>
    rintro ⟨⟩
    rfl
  | case5 c r _ hr hn =>
    obtain ⟨first, rest, hrest⟩ := List.exists_cons_of_ne_nil (cut_ne_nil r)
    rw [hrest]
    rintro ⟨⟩
    rfl

theorem written_pos {cs : List Char} (h : cs ≠ []) : 0 < written cs := by
  obtain ⟨l, ls, hcut⟩ := List.exists_cons_of_ne_nil (cut_ne_nil cs)
  simp [written, writtenLines, hcut, isNothing_of_cut h hcut]

theorem head?_ne_of_forall_ne {c : Char} {cs : List Char} (h : ∀ r, cs = c :: r → False) :
    cs.head? ≠ some c := by
  intro hc
  obtain ⟨r, rfl⟩ := List.head?_eq_some_iff.mp hc
  exact h r rfl

theorem written_crlf (r : List Char) : written ('\r' :: '\n' :: r) = written r + 1 := rfl

theorem written_lf (r : List Char) : written ('\n' :: r) = written r + 1 := rfl

theorem written_cr {r : List Char} (h : r.head? ≠ some '\n') :
    written ('\r' :: r) = written r + 1 := by
  rw [written, writtenLines, cut_cr h]
  rfl

theorem written_cons {c : Char} (hn : c ≠ '\n') (hr : c ≠ '\r') (r : List Char) :
    written (c :: r) = max 1 (written r) := by
  by_cases h : r = []
  · subst h
    rw [written, writtenLines, cut_cons hn hr]
    rfl
  · have hpos := written_pos h
    obtain ⟨l, ls, hcut⟩ := List.exists_cons_of_ne_nil (cut_ne_nil r)
    have hsame : written (c :: r) = written r := by
      have hl := isNothing_of_cut h hcut
      simp only [written, writtenLines, cut_cons hn hr, hcut, consFirst, List.filter_cons, hl]
      rfl
    omega

/-! ### Texts together -/

theorem written_append_le (cs ds : List Char) : written (cs ++ ds) ≤ written cs + written ds := by
  fun_induction cut cs with
  | case1 => simp
  | case2 r ih =>
    rw [written_crlf, List.cons_append, List.cons_append, written_crlf]
    omega
  | case3 r hr ih =>
    rw [written_cr (head?_ne_of_forall_ne hr), List.cons_append]
    by_cases hfeed : (r ++ ds).head? = some '\n'
    · -- nothing follows the carriage return in its own text, so it takes the line feed of the other
      obtain ⟨after, hafter⟩ := List.head?_eq_some_iff.mp hfeed
      rw [hafter, written_crlf]
      rw [hafter, written_lf] at ih
      omega
    · rw [written_cr hfeed]
      omega
  | case4 r ih =>
    rw [written_lf, List.cons_append, written_lf]
    omega
  | case5 c r _ hr hn ih =>
    rw [written_cons hn hr, List.cons_append, written_cons hn hr]
    omega

theorem written_append_of_unbroken {cs : List Char} (h : Unbroken cs) (r : List Char) :
    written (cs ++ r) ≤ max 1 (written r) := by
  induction cs with
  | nil => exact Nat.le_max_right 1 _
  | cons c cs ih =>
    obtain ⟨⟨hn, hr⟩, hcs⟩ := unbroken_cons.mp h
    have ih := ih hcs
    rw [List.cons_append, written_cons hn hr]
    omega

/-- A line takes up one line at most. -/
theorem written_chars_le {l : Line} (h : Unbroken l.text) : written l.chars ≤ 1 := by
  have hending : written ((l.ending.map Terminator.chars).getD []) ≤ 1 := by
    match l.ending with
    | none | some .lf | some .cr | some .crlf => decide
  have happend := written_append_of_unbroken h ((l.ending.map Terminator.chars).getD [])
  rw [Line.chars]
  omega

theorem written_flatMap_chars_le {ls : List Line} (h : ∀ l ∈ ls, Unbroken l.text) :
    written (ls.flatMap Line.chars) ≤ ls.length := by
  induction ls with
  | nil => exact Nat.le_refl _
  | cons l ls ih =>
    obtain ⟨hl, hls⟩ := List.forall_mem_cons.mp h
    have hfirst := written_chars_le hl
    have hrest := ih hls
    have happend := written_append_le l.chars (ls.flatMap Line.chars)
    rw [List.flatMap_cons, List.length_cons]
    omega

/-! ### Literals -/

theorem endsTerminated_cons {r : List Char} (h : r ≠ []) (c : Char) :
    endsTerminated (c :: r) = endsTerminated r := by
  obtain ⟨d, r, rfl⟩ := List.exists_cons_of_ne_nil h
  simp [endsTerminated]

theorem length_cut {cs : List Char} (h : cs ≠ []) :
    (cut cs).length = written cs + if endsTerminated cs then 1 else 0 := by
  fun_induction cut cs with
  | case1 => contradiction
  | case2 r ih =>
    by_cases hr : r = []
    · subst hr
      rfl
    · rw [endsTerminated_cons (by simp), endsTerminated_cons hr, written_crlf, List.length_cons, ih hr]
      omega
  | case3 r hfeed ih =>
    by_cases hr : r = []
    · subst hr
      rfl
    · rw [endsTerminated_cons hr, written_cr (head?_ne_of_forall_ne hfeed), List.length_cons, ih hr]
      omega
  | case4 r ih =>
    by_cases hr : r = []
    · subst hr
      rfl
    · rw [endsTerminated_cons hr, written_lf, List.length_cons, ih hr]
      omega
  | case5 c r _ hcr hlf ih =>
    rw [length_consFirst c (cut_ne_nil r), written_cons hlf hcr]
    by_cases hr : r = []
    · subst hr
      have hc : endsTerminated [c] = false := by
        simp only [endsTerminated, List.getLast?_singleton, Option.any_some, Bool.or_eq_false_iff,
          beq_eq_false_iff_ne]
        exact ⟨hlf, hcr⟩
      rw [hc]
      rfl
    · have hpos := written_pos hr
      rw [endsTerminated_cons hr, ih hr]
      omega

/-- The lines that a literal takes up are those that hold something. -/
theorem literalLineCount_eq_written (cs : List Char) : literalLineCount cs = written cs := by
  by_cases h : cs = []
  · subst h
    rfl
  · have hlength := length_cut h
    unfold literalLineCount
    rw [if_neg (by simpa using h)]
    split
    · rename_i hends
      rw [hlength, if_pos hends, Nat.add_sub_cancel]
    · rename_i hends
      rw [hlength, if_neg hends, Nat.add_zero]

end Polyglot.Text
