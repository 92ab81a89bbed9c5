import Polyglot.Document
import Polyglot.Proofs.Text.Written

/-! Texts taken apart at their terminators. There is one way to write a text as lines with terminators
between them, if a carriage return and the line feed after it are not taken apart. The lines of a
document are those lines, so it has one more of them than it has terminators, and a literal takes up a
line for each of its terminators and one for what follows the last of them. -/

namespace Polyglot.Text

/-- Lines with terminators between them make up a text. -/
inductive Lined : List (List Char) → List Terminator → List Char → Prop
  | last {l : List Char} (hl : Unbroken l) : Lined [l] [] l
  /-- A carriage return is a terminator of its own only where no line feed follows. -/
  | next {l : List Char} {t : Terminator} {ls : List (List Char)} {ts : List Terminator}
      {r : List Char} (hl : Unbroken l) (ht : t = .cr → r.head? ≠ some '\n') (hr : Lined ls ts r) :
      Lined (l :: ls) (t :: ts) (l ++ (t.chars ++ r))

/-- The terminators of a text. -/
def terminators (cs : List Char) : List Terminator := (cut cs).filterMap Line.ending

/-- How many carriage returns of a text a line feed follows. -/
def pairedEnds (cs : List Char) : Nat := (cs.zip cs.tail).count ('\r', '\n')

/-! ### The cut lines -/

section
variable {c : Char} {ls : List Line}

theorem map_text_consFirst (h : ls ≠ []) :
    (consFirst c ls).map Line.text = (ls.map Line.text).modifyHead (c :: ·) := by
  cases ls with
  | nil => contradiction
  | cons l ls => rfl

theorem filterMap_ending_consFirst :
    (consFirst c ls).filterMap Line.ending = ls.filterMap Line.ending := by
  cases ls with
  | nil => rfl
  | cons l ls => simp [consFirst, List.filterMap_cons]

end

namespace Lined

variable {ls : List (List Char)} {ts : List Terminator} {cs : List Char}

theorem cons {c : Char} (h : Lined ls ts cs) (hn : c ≠ '\n') (hr : c ≠ '\r') :
    Lined (ls.modifyHead (c :: ·)) ts (c :: cs) := by
  cases h with
  | last hl => exact .last (unbroken_cons.mpr ⟨⟨hn, hr⟩, hl⟩)
  | next hl ht hrest => exact .next (unbroken_cons.mpr ⟨⟨hn, hr⟩, hl⟩) ht hrest

theorem ne_nil (h : Lined ls ts cs) : ls ≠ [] := by
  cases h <;> simp

/-- Lines and terminators of a text are those that it is cut into. -/
theorem eq_cut (h : Lined ls ts cs) : ls = (cut cs).map Line.text ∧ ts = terminators cs := by
  unfold terminators
  induction h with
  | last hl => simp [cut_of_unbroken hl]
  | next hl ht _ ih => simp [cut_append_chars hl ht, ← ih.1, ← ih.2]

theorem length_eq (h : Lined ls ts cs) : ls.length = ts.length + 1 := by
  induction h with
  | last => rfl
  | next _ _ _ ih => simp [ih]

end Lined

theorem lined_cut (cs : List Char) : Lined ((cut cs).map Line.text) (terminators cs) cs := by
  unfold terminators
  fun_induction cut cs with
  | case1 => exact .last unbroken_nil
  | case2 r ih => exact .next unbroken_nil (by simp) ih
  | case3 r hr ih => exact .next unbroken_nil (fun _ => head?_ne_of_forall_ne hr) ih
  | case4 r ih => exact .next unbroken_nil (by simp) ih
  | case5 c r _ hr hn ih =>
    rw [map_text_consFirst (cut_ne_nil r), filterMap_ending_consFirst]
    exact ih.cons hn hr

example : terminators ['\r', '\r', '\n', '\n', 'a', '\r'] = [.cr, .crlf, .lf, .cr] := by decide

/-! ### Counting -/

theorem pairedEnds_cons (c : Char) (r : List Char) :
    pairedEnds (c :: r) = pairedEnds r + if c = '\r' ∧ r.head? = some '\n' then 1 else 0 := by
  cases r with
  | nil => simp [pairedEnds]
  | cons d r => simp [pairedEnds, List.count_cons]

/-- A text has a line more than carriage returns and line feeds, those that stand together counted
once. -/
theorem length_cut_add_pairedEnds (cs : List Char) :
    (cut cs).length + pairedEnds cs = cs.count '\r' + cs.count '\n' + 1 := by
  fun_induction cut cs with
  | case1 => rfl
  | case2 r ih =>
    simp [pairedEnds_cons]
    omega
  | case3 r hr ih =>
    simp [pairedEnds_cons, head?_ne_of_forall_ne hr]
    omega
  | case4 r ih =>
    simp [pairedEnds_cons]
    omega
  | case5 c r _ hr hn ih =>
    have hpair : pairedEnds (c :: r) = pairedEnds r := by
      rw [pairedEnds_cons, if_neg (fun h => hr h.1), Nat.add_zero]
    rw [length_consFirst c (cut_ne_nil r), hpair, ih, List.count_cons_of_ne hr,
      List.count_cons_of_ne hn]

/-- A literal takes up a line for each terminator, and one for the rest if there is any. -/
theorem literalLineCount_of_lined {ls : List (List Char)} {ts : List Terminator} {cs : List Char}
    (h : Lined ls ts cs) :
    literalLineCount cs = ts.length + if ls.getLast? = some [] then 0 else 1 := by
  rw [literalLineCount_eq_written]
  induction h with
  | @last l hl =>
    have hwritten : written l = if l = [] then 0 else 1 := by
      rw [written, writtenLines, cut_of_unbroken hl]
      cases l <;> rfl
    simp [hwritten]
  | @next l t ls ts r hl ht hrest ih =>
    have hwritten : written (l ++ (t.chars ++ r)) = written r + 1 := by
      simp [written, writtenLines, cut_append_chars hl ht, Line.isNothing]
    rw [hwritten, ih, List.getLast?_cons_of_ne_nil hrest.ne_nil, List.length_cons]
    omega

end Polyglot.Text

namespace Polyglot.Document

open Text

/-- The lines of a document are those of the one way to take its text apart; there is one more of them
than terminators, which are the carriage returns and line feeds of the text where those that stand
together count once. A literal takes up as many lines as it has terminators, and one more if something
follows the last. -/
theorem lines_decomposition (d : Document) :
    let cs := d.content.toList
    Lined (d.lines.map String.toList) (terminators cs) cs ∧
    (∀ ls ts, Lined ls ts cs → ls = d.lines.map String.toList ∧ ts = terminators cs) ∧
    d.lineCount = (terminators cs).length + 1 ∧
    d.lineCount + pairedEnds cs = cs.count '\r' + cs.count '\n' + 1 ∧
    (∀ i, (d.line? i).isSome = true ↔ i < d.lineCount) ∧
    (∀ literal, ∃ ls last ts, Lined (ls ++ [last]) ts literal ∧
      literalLineCount literal = ts.length + if last = [] then 0 else 1) ∧
    literalLineCount [] = 0 := by
  intro cs
  have htexts : d.lines.map String.toList = (cut cs).map Line.text := by
    simp [lines, splitLines, cs]
  have hlined := lined_cut cs
  rw [← htexts] at hlined
  refine ⟨hlined, ?_, ?_, ?_, ?_, ?_, rfl⟩
  · intro ls ts h
    rw [htexts]
    exact h.eq_cut
  · simpa [lineCount] using hlined.length_eq
  · simpa [lineCount, lines, splitLines] using length_cut_add_pairedEnds cs
  · intro i
    simp [line?, lineCount]
  · intro literal
    have hliteral := lined_cut literal
    obtain ⟨ls, last, hlast⟩ := (List.eq_nil_or_concat _).resolve_left hliteral.ne_nil
    rw [hlast, List.concat_eq_append] at hliteral
    exact ⟨ls, last, _, hliteral, by simpa using literalLineCount_of_lined hliteral⟩

end Polyglot.Document
