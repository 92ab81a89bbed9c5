import Polyglot.Text.Lines

/-! Lines cut and joined. No line of a text holds a carriage return or a line feed, so lines that are
joined by line feeds are cut into the same lines again, at line feeds alone as well as at every
terminator. -/

namespace Polyglot.Text

/-- A text in which no line ends. -/
def Unbroken (cs : List Char) : Prop := '\n' ∉ cs ∧ '\r' ∉ cs

theorem unbroken_nil : Unbroken [] := by simp [Unbroken]

theorem unbroken_cons {c : Char} {cs : List Char} :
    Unbroken (c :: cs) ↔ (c ≠ '\n' ∧ c ≠ '\r') ∧ Unbroken cs := by
  simp only [Unbroken, List.mem_cons, not_or]
  grind

/-! ### Cutting -/

theorem cut_cr {r : List Char} (h : r.head? ≠ some '\n') :
    cut ('\r' :: r) = ⟨[], some .cr⟩ :: cut r := by
  rw [cut]
  rintro r' rfl
  simp at h

theorem cut_cons {c : Char} (hn : c ≠ '\n') (hr : c ≠ '\r') (r : List Char) :
    cut (c :: r) = consFirst c (cut r) := by
  rw [cut] <;> simp_all

theorem consFirst_ne_nil (c : Char) (ls : List Line) : consFirst c ls ≠ [] := by
  cases ls <;> simp [consFirst]

theorem cut_ne_nil (cs : List Char) : cut cs ≠ [] := by
  fun_cases cut cs <;> simp [consFirst_ne_nil]

theorem length_consFirst (c : Char) {ls : List Line} (h : ls ≠ []) :
    (consFirst c ls).length = ls.length := by
  cases ls with
  | nil => contradiction
  | cons l ls => rfl

theorem unbroken_of_mem_consFirst {c : Char} {ls : List Line} (hn : c ≠ '\n') (hr : c ≠ '\r')
    (h : ∀ l ∈ ls, Unbroken l.text) : ∀ l ∈ consFirst c ls, Unbroken l.text := by
  cases ls with
  | nil => simp [consFirst, unbroken_cons, unbroken_nil, hn, hr]
  | cons l ls =>
    simp only [consFirst, List.forall_mem_cons] at h ⊢
    exact ⟨unbroken_cons.mpr ⟨⟨hn, hr⟩, h.1⟩, h.2⟩

/-- A terminator is never part of a line. -/
theorem unbroken_of_mem_cut (cs : List Char) : ∀ l ∈ cut cs, Unbroken l.text := by
  fun_induction cut cs with
  | case1 => simp [unbroken_nil]
  | case2 r ih | case3 r _ ih | case4 r ih =>
    intro l hl
    rcases List.mem_cons.mp hl with rfl | hl
    · exact unbroken_nil
    · exact ih l hl
  | case5 c r _ hr hn ih => exact unbroken_of_mem_consFirst hn hr ih

theorem cut_of_unbroken {cs : List Char} (h : Unbroken cs) : cut cs = [⟨cs, none⟩] := by
  induction cs with
  | nil => rfl
  | cons c cs ih =>
    obtain ⟨⟨hn, hr⟩, hcs⟩ := unbroken_cons.mp h
    rw [cut_cons hn hr, ih hcs]
    rfl

/-- A line before a terminator is cut off as it is. -/
theorem cut_append_chars {l : List Char} {t : Terminator} {r : List Char} (h : Unbroken l)
    (ht : t = .cr → r.head? ≠ some '\n') : cut (l ++ (t.chars ++ r)) = ⟨l, some t⟩ :: cut r := by
  induction l with
  | nil =>
    cases t with
    | lf | crlf => rfl
    | cr => exact cut_cr (ht rfl)
  | cons c l ih =>
    obtain ⟨⟨hn, hr⟩, hl⟩ := unbroken_cons.mp h
    rw [List.cons_append, cut_cons hn hr, ih hl]
    rfl

theorem cut_append_lf {l : List Char} (h : Unbroken l) (r : List Char) :
    cut (l ++ '\n' :: r) = ⟨l, some .lf⟩ :: cut r :=
  cut_append_chars (t := .lf) h (by simp)

/-! ### Joining -/

theorem splitLines_ne_nil (s : String) : splitLines s ≠ [] := by
  simp [splitLines, cut_ne_nil]

theorem unbroken_of_mem_splitLines {s l : String} (h : l ∈ splitLines s) : Unbroken l.toList := by
  obtain ⟨line, hline, rfl⟩ := List.mem_map.mp h
  simpa using unbroken_of_mem_cut s.toList line hline

theorem toList_joinLines (ls : List String) :
    (joinLines ls).toList = ['\n'].intercalate (ls.map String.toList) :=
  String.toList_intercalate

/-- Joined lines are cut apart again at the terminators. -/
theorem splitLines_joinLines {ls : List String} (hne : ls ≠ [])
    (h : ∀ l ∈ ls, Unbroken l.toList) : splitLines (joinLines ls) = ls := by
  rw [splitLines, toList_joinLines]
  induction ls with
  | nil => contradiction
  | cons l ls ih =>
    obtain ⟨hl, hls⟩ := List.forall_mem_cons.mp h
    cases ls with
    | nil => simp [cut_of_unbroken hl]
    | cons l' ls =>
      have ih := ih (by simp) hls
      simp only [List.map_cons, List.intercalate_cons_cons] at ih ⊢
      rw [List.append_assoc, List.singleton_append, cut_append_lf hl, List.map_cons, ih,
        String.ofList_toList]

/-- Joined lines are cut apart again at the line feeds. -/
theorem splitOn_joinLines {ls : List String} (hne : ls ≠ [])
    (h : ∀ l ∈ ls, Unbroken l.toList) :
    (joinLines ls).toList.splitOn '\n' = ls.map String.toList := by
  rw [toList_joinLines]
  apply List.splitOn_intercalate
  · intro l hl
    obtain ⟨s, hs, rfl⟩ := List.mem_map.mp hl
    exact (h s hs).1
  · simpa using hne

/-- In joined lines, line feeds are the only terminators. -/
theorem splitLines_joinLines_eq_splitOn {ls : List String} (hne : ls ≠ [])
    (h : ∀ l ∈ ls, Unbroken l.toList) :
    splitLines (joinLines ls) = ((joinLines ls).toList.splitOn '\n').map String.ofList := by
  rw [splitLines_joinLines hne h, splitOn_joinLines hne h]
  simp

/-- What stands before a text and is not cut joins its first part. -/
theorem splitOn_append_of_not_mem {c : Char} {front : List Char} (h : c ∉ front) (cs : List Char) :
    (front ++ cs).splitOn c = (cs.splitOn c).modifyHead (front ++ ·) := by
  induction front with
  | nil => cases hparts : cs.splitOn c <;> simp [hparts]
  | cons a front ih =>
    obtain ⟨ha, hfront⟩ := List.ne_and_not_mem_of_not_mem_cons h
    rw [List.cons_append, List.splitOn_cons_eq_if_modifyHead, if_neg (by simpa using ha.symm),
      ih hfront, List.modifyHead_modifyHead]
    rfl

/-- The parts of a text are made of its characters, and none of the character that it is cut at. -/
theorem splitOn_parts {c : Char} {cs part : List Char} (h : part ∈ cs.splitOn c) :
    c ∉ part ∧ part ⊆ cs := by
  induction cs generalizing part with
  | nil => simp_all
  | cons d cs ih =>
    rw [List.splitOn_cons_eq_if_modifyHead] at h
    split at h
    · obtain rfl | h := List.mem_cons.mp h
      · simp
      · exact ⟨(ih h).1, List.subset_cons_of_subset d (ih h).2⟩
    · rename_i hd
      -- `d` joins the first of the parts of the rest
      obtain ⟨first, parts, hparts⟩ := List.exists_cons_of_ne_nil (List.splitOn_ne_nil c cs)
      rw [hparts, List.modifyHead_cons] at h
      obtain rfl | h := List.mem_cons.mp h
      · obtain ⟨hnot, hsubset⟩ := ih (hparts ▸ List.mem_cons_self)
        have hdc : c ≠ d := fun heq => hd (beq_iff_eq.mpr heq.symm)
        exact ⟨by simp [hdc, hnot], List.cons_subset_cons d hsubset⟩
      · obtain ⟨hnot, hsubset⟩ := ih (hparts ▸ List.mem_cons_of_mem _ h)
        exact ⟨hnot, List.subset_cons_of_subset d hsubset⟩

/-- A text has one part more than it is cut. -/
theorem length_splitOn (c : Char) (cs : List Char) : (cs.splitOn c).length = cs.count c + 1 := by
  induction cs with
  | nil => simp
  | cons d cs ih =>
    rw [List.splitOn_cons_eq_if_modifyHead, List.count_cons]
    split <;> simp [ih]

end Polyglot.Text
