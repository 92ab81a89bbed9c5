import Polyglot.Language.Basic
import Polyglot.Proofs.Text.Lines

/-! What a language's change to its content does to lines, as told by line feeds. An empty first line
is written to and nothing else, so all lines keep their places and a second change finds nothing to
do. -/

namespace Polyglot

namespace VdocFixup

theorem firstLineEmpty_iff (content : String) :
    firstLineEmpty content = true ↔ (content.toList.splitOn '\n').head? = some [] := by
  unfold firstLineEmpty
  cases content.toList with
  | nil => simp
  | cons c cs =>
    obtain ⟨first, rest, hlines⟩ := List.exists_cons_of_ne_nil (List.splitOn_ne_nil '\n' cs)
    by_cases hc : c = '\n'
    · simp [List.splitOn_cons_eq_if_modifyHead, hc]
    · simp [List.splitOn_cons_eq_if_modifyHead, hc, hlines]

theorem firstLineEmpty_directive (content : String) :
    firstLineEmpty (directive ++ content) = false := by
  rw [firstLineEmpty, String.toList_append]
  rfl

theorem apply_of_firstLineEmpty (fixup : VdocFixup) {content : String}
    (h : firstLineEmpty content = true) : fixup.apply content = directive ++ content := if_pos h

theorem apply_of_not_firstLineEmpty (fixup : VdocFixup) {content : String}
    (h : firstLineEmpty content = false) : fixup.apply content = content :=
  if_neg (Bool.eq_false_iff.mp h)

theorem apply_apply (fixup : VdocFixup) (content : String) :
    fixup.apply (fixup.apply content) = fixup.apply content := by
  cases h : firstLineEmpty content with
  | true =>
    rw [apply_of_firstLineEmpty fixup h]
    exact apply_of_not_firstLineEmpty fixup (firstLineEmpty_directive content)
  | false =>
    rw [apply_of_not_firstLineEmpty fixup h, apply_of_not_firstLineEmpty fixup h]

/-- Line for line, a changed text is the text, but for the directive on an empty first line. -/
theorem splitOn_apply (fixup : VdocFixup) (content : String) :
    (fixup.apply content).toList.splitOn '\n' =
      (content.toList.splitOn '\n').modifyHead fun line =>
        if line = [] then directive.toList else line := by
  have hfirst := firstLineEmpty_iff content
  obtain ⟨first, rest, hlines⟩ := List.exists_cons_of_ne_nil (List.splitOn_ne_nil '\n' content.toList)
  rw [hlines, List.head?_cons, Option.some.injEq] at hfirst
  cases h : firstLineEmpty content with
  | true =>
    rw [apply_of_firstLineEmpty fixup h, String.toList_append,
      Text.splitOn_append_of_not_mem (by decide), hlines]
    obtain rfl := hfirst.mp h
    simp
  | false =>
    have hne : first ≠ [] := fun heq => Bool.false_ne_true (h.symm.trans (hfirst.mpr heq))
    rw [apply_of_not_firstLineEmpty fixup h, hlines, List.modifyHead_cons, if_neg hne]

/-- The directive is the first of the lines that are joined after an empty one. -/
theorem apply_joinLines (fixup : VdocFixup) (lines : List String) :
    fixup.apply (Text.joinLines ("" :: lines)) = Text.joinLines (directive :: lines) := by
  have hempty : firstLineEmpty (Text.joinLines ("" :: lines)) = true := by
    rw [firstLineEmpty, Text.toList_joinLines]
    cases lines <;> simp
  rw [apply_of_firstLineEmpty fixup hempty, ← String.toList_inj, String.toList_append,
    Text.toList_joinLines, Text.toList_joinLines]
  cases lines <;> simp

end VdocFixup

namespace Language

/-- What a file of the language has on its first line, if the content has nothing there. -/
def firstLine (l : Language) : String :=
  match l.fixup with
  | some _ => VdocFixup.directive
  | none => ""

theorem firstLine_of_some {l : Language} {fixup : VdocFixup} (h : l.fixup = some fixup) :
    l.firstLine = VdocFixup.directive := by
  rw [firstLine, h]

theorem fixed_of_none {l : Language} (h : l.fixup = none) (content : String) :
    l.fixed content = content := by
  rw [fixed, h]

theorem unbroken_firstLine (l : Language) : Text.Unbroken l.firstLine.toList := by
  unfold firstLine
  split
  · exact ⟨by decide, by decide⟩
  · exact Text.unbroken_nil

theorem fixed_joinLines (l : Language) (lines : List String) :
    l.fixed (Text.joinLines ("" :: lines)) = Text.joinLines (l.firstLine :: lines) := by
  unfold fixed firstLine
  cases l.fixup with
  | none => rfl
  | some fixup => exact fixup.apply_joinLines lines

end Language

end Polyglot
