import Polyglot.Markdown.Blocks
import Polyglot.Proofs.Text.Lines

/-! What a cursor leaves of its line. Cursors only move on, so whatever follows one is the end of the
line that it stands on, and no terminator comes into what is left. -/

namespace Polyglot.Markdown

open Text (Unbroken)

namespace Cursor

theorem dropColumn_suffix (cur : Cursor) : cur.dropColumn.rest <:+ cur.rest := by
  unfold dropColumn
  split
  · exact List.suffix_refl _
  · next h =>
    split
    · rw [h]
      exact List.suffix_cons _ _
    · exact List.suffix_refl _
  · next h =>
    rw [h]
    exact List.suffix_cons _ _

theorem dropColumns_suffix (n : Nat) (cur : Cursor) : (dropColumns n cur).rest <:+ cur.rest := by
  induction n generalizing cur with
  | zero => exact List.suffix_refl _
  | succ n ih => exact (ih _).trans cur.dropColumn_suffix

theorem dropBlank_suffix (cur : Cursor) : cur.dropBlank.rest <:+ cur.rest := by
  unfold dropBlank
  split
  · exact cur.dropColumn_suffix
  · exact List.suffix_refl _

theorem dropBlanks_suffix (n : Nat) (cur : Cursor) : (dropBlanks n cur).rest <:+ cur.rest := by
  induction n generalizing cur with
  | zero => exact List.suffix_refl _
  | succ n ih =>
    rw [dropBlanks]
    split
    · exact (ih _).trans cur.dropColumn_suffix
    · exact List.suffix_refl _

theorem skipBlanks_suffix (cur : Cursor) : cur.skipBlanks.rest <:+ cur.rest := by
  unfold skipBlanks
  split
  · exact List.suffix_refl _
  · exact List.dropWhile_suffix _

theorem dropMarker_suffix (n : Nat) (cur : Cursor) : (cur.dropMarker n).rest <:+ cur.rest :=
  List.drop_suffix _ _

end Cursor

/-- No line ends in what follows the end of a text in which none does. -/
theorem unbroken_of_suffix {cs ds : List Char} (h : cs <:+ ds) (hd : Unbroken ds) : Unbroken cs :=
  ⟨fun hc => hd.1 (h.subset hc), fun hc => hd.2 (h.subset hc)⟩

theorem Cursor.unbroken_remainder {cur : Cursor} (h : Unbroken cur.rest) : Unbroken cur.remainder := by
  unfold remainder
  split
  · obtain ⟨hlf, hcr⟩ := unbroken_of_suffix (List.tail_suffix _) h
    simp [Unbroken, List.mem_replicate, hlf, hcr]
  · exact h

/-! ### Containers -/

theorem Container.quoteMarker?_suffix {cur next : Cursor} (h : quoteMarker? cur = some next) :
    next.rest <:+ cur.rest := by
  unfold quoteMarker? at h
  split at h
  · obtain rfl := Option.some.inj h
    exact (Cursor.dropBlank_suffix _).trans
      ((Cursor.dropMarker_suffix _ _).trans (Cursor.skipBlanks_suffix _))
  · cases h

theorem Container.resume?_suffix {cur next : Cursor} {text : Bool} {c : Container}
    (h : c.resume? cur text = some next) : next.rest <:+ cur.rest := by
  cases c with
  | quote => exact quoteMarker?_suffix h
  | list kind =>
    obtain rfl := Option.some.inj h
    exact List.suffix_refl _
  | item width inhabited =>
    simp only [resume?] at h
    split at h
    · obtain rfl := Option.some.inj h
      exact Cursor.dropColumns_suffix _ _
    · split at h
      · obtain rfl := Option.some.inj h
        exact Cursor.skipBlanks_suffix _
      · cases h

theorem resumeAll_suffix (text : Bool) (cur : Cursor) (cs : List Container) :
    (resumeAll text cur cs).cursor.rest <:+ cur.rest := by
  fun_induction resumeAll text cur cs with
  | case1 => exact List.suffix_refl _
  | case2 cur c cs next hnext r ih => exact ih.trans (Container.resume?_suffix hnext)
  | case3 => exact List.suffix_refl _

/-! ### Starts -/

/-- Where the content of a block goes on on the line that starts it. -/
def Start.content? : Start → Option Cursor
  | .quote content | .item _ _ content | .indented content => some content
  | _ => none

theorem Start.item?_suffix {interrupting : Bool} {ending : Option Text.Terminator}
    {cur content : Cursor} {start : Start} (h : item? interrupting ending cur = some start)
    (hcontent : start.content? = some content) : content.rest <:+ cur.rest := by
  obtain ⟨marker, _, rfl⟩ := Option.map_eq_some_iff.mp h
  have hafter := (Cursor.dropMarker_suffix marker.length cur.skipBlanks).trans cur.skipBlanks_suffix
  dsimp only at hcontent
  split at hcontent
  · obtain rfl := Option.some.inj hcontent
    exact (Cursor.dropColumns_suffix _ _).trans hafter
  · obtain rfl := Option.some.inj hcontent
    exact (Cursor.dropBlank_suffix _).trans hafter

theorem Start.read?_suffix {ctx : Context} {depth : Nat} {ending : Option Text.Terminator}
    {cur content : Cursor} {start : Start} (h : read? ctx depth ending cur = some start)
    (hcontent : start.content? = some content) : content.rest <:+ cur.rest := by
  revert h
  fun_cases read? ctx depth ending cur with
  | case1 | case10 => rintro ⟨⟩
  | case2 =>
    rintro ⟨⟩
    cases hcontent
    exact Cursor.dropColumns_suffix 4 cur
  | case3 _ next hquote =>
    rintro ⟨⟩
    cases hcontent
    exact Container.quoteMarker?_suffix hquote
  | case4 | case5 | case6 | case7 | case8 =>
    rintro ⟨⟩
    cases hcontent
  | case9 => exact fun h => item?_suffix h hcontent

/-- Indented code is what is left of its line. -/
theorem openWith_suffix {fuel : Nat} {ctx : Context} {depth : Nat} {ending : Option Text.Terminator}
    {cur content : Cursor} (h : (openWith fuel ctx depth ending cur).content = .indented content) :
    content.rest <:+ cur.rest := by
  fun_induction openWith fuel ctx depth ending cur with
  | case1 | case2 | case3 | case4 | case5 | case6 | case7 => cases h
  | case8 fuel ctx depth ending cur found hread =>
    cases h
    exact Start.read?_suffix hread rfl
  | case9 fuel ctx depth ending cur next hread inner ih =>
    exact (ih h).trans (Start.read?_suffix hread rfl)
  | case10 fuel ctx depth ending cur kind width next hread inner item ih =>
    exact (ih h).trans (Start.read?_suffix hread rfl)

end Polyglot.Markdown
