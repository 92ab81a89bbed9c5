import Mathlib.Data.List.Pairwise
import Polyglot.Proofs.Markdown.Placement
import Polyglot.Proofs.Token.Math
import Polyglot.Proofs.Token.Separators
import Polyglot.Token.Declared

/-! How the tokens of a text lie. Code blocks are in order as they are read, and display math as it is
scanned; as neither takes a line of the other, sorting by first line puts all tokens one after the
other. So no two bodies share a line, and a line with a delimiter belongs to no language. -/

namespace Polyglot

open Text Markdown

namespace Token

/-- The token starts above another, and its body ends before the other starts. -/
def Ahead (a b : Token) : Prop := a.lines.first < b.lines.first ∧ a.body.stop ≤ b.lines.first

/-- One of two tokens is ahead of the other. -/
def Apart (a b : Token) : Prop := a.Ahead b ∨ b.Ahead a

instance : Std.Symm Apart := ⟨fun _ _ h => h.symm⟩

/-- The token has lines, its body lies among them, and all of them within so many. Its first line is
no part of the body, unless it is indented code. -/
structure Within (t : Token) (count : Nat) : Prop where
  first_lt_stop : t.lines.first < t.lines.stop
  first_le_first : t.lines.first ≤ t.body.first
  stop_le_stop : t.body.stop ≤ t.lines.stop
  stop_le : t.lines.stop ≤ count
  delimited : t.kind ≠ .indentedCode → t.body.first = t.lines.first + 1

/-- Tokens one after the other, within so many lines. -/
structure Arranged (tokens : List Token) (count : Nat) : Prop where
  within : ∀ t ∈ tokens, t.Within count
  ahead : tokens.Pairwise Ahead

/-- Of two tokens without a line in common, one is ahead of the other. -/
theorem apart_of_disjoint {a b : Token} {count : Nat} (ha : a.Within count) (hb : b.Within count)
    (h : ∀ line, ¬ (a.lines.contains line = true ∧ b.lines.contains line = true)) : a.Apart b := by
  have hfirst := h a.lines.first
  have hother := h b.lines.first
  simp only [LineRange.contains_iff] at hfirst hother
  obtain ⟨halines, -, habody, -, -⟩ := ha
  obtain ⟨hblines, -, hbbody, -, -⟩ := hb
  rcases Nat.lt_or_ge a.lines.first b.lines.first with hlt | hge
  · exact .inl ⟨hlt, by omega⟩
  · exact .inr ⟨by omega, by omega⟩

/-! ### Code blocks -/

theorem stop_body_ofCodeBlock {b : CodeBlock} (h : 1 ≤ b.first) :
    (ofCodeBlock b).body.stop = b.contentStop := by
  have hstart : b.first - 1 + 1 = b.first := Nat.sub_add_cancel h
  simp only [ofCodeBlock, LineRange.stop_span, CodeBlock.contentStop, CodeBlock.contentStart, hstart]
  exact Nat.max_eq_left (Nat.le_add_right _ _)

theorem within_ofCodeBlock {b : CodeBlock} {count : Nat} (h : b.Within count) :
    (ofCodeBlock b).Within count := by
  have hbody := stop_body_ofCodeBlock h.first_pos
  have hstop : (ofCodeBlock b).lines.stop = max (max b.last b.contentStop) (b.first - 1) := by
    rw [← hbody]
    rfl
  obtain ⟨hfirst, hlast, hcount, hcontent⟩ := h
  refine ⟨?_, ?_, ?_, ?_, ?_⟩
  · change b.first - 1 < _
    omega
  · change b.first - 1 ≤ if b.fenced then b.first - 1 + 1 else b.first - 1
    split <;> omega
  · omega
  · omega
  · intro hkind
    cases hfenced : b.fenced with
    | false => simp [ofCodeBlock, hfenced] at hkind
    | true => simp [ofCodeBlock, hfenced]

theorem ahead_ofCodeBlock {a b : CodeBlock} (ha : 1 ≤ a.first) (h : a.Before b.first) :
    (ofCodeBlock a).Ahead (ofCodeBlock b) := by
  obtain ⟨hfirst, hcontent⟩ := h
  refine ⟨?_, ?_⟩
  · change a.first - 1 < b.first - 1
    omega
  · rw [stop_body_ofCodeBlock ha]
    exact Nat.le_sub_one_of_lt hcontent

theorem arranged_map_ofCodeBlock {bs : List CodeBlock} {count : Nat} (h : CodeBlock.Placed bs count) :
    Arranged (bs.map ofCodeBlock) count where
  within := by
    intro t ht
    obtain ⟨b, hb, rfl⟩ := List.mem_map.mp ht
    exact within_ofCodeBlock (h.within b hb)
  ahead := by
    rw [List.pairwise_map]
    exact h.before.imp_of_mem fun ha _ hbefore =>
      ahead_ofCodeBlock (h.within _ ha).first_pos hbefore

end Token

/-! ### Display math -/

namespace Math

open Token

variable {lines : List (List Char)} {code : List Token} {t : Token}

theorem stop_lines_token (lines : List (List Char)) {region : Nat × Nat} (h : region.1 < region.2) :
    (token lines region).lines.stop = region.2 + 1 :=
  LineRange.stop_span_of_le (Nat.le_succ_of_le (Nat.le_of_lt h))

theorem stop_body_token (lines : List (List Char)) {region : Nat × Nat} (h : region.1 < region.2) :
    (token lines region).body.stop = region.2 :=
  LineRange.stop_span_of_le h

theorem exists_clear_of_mem_tokens (h : t ∈ tokens lines code) :
    ∃ region, Clear (fun i => code.any fun c => c.lines.contains i) 0 lines.length region ∧
      t = token lines region := by
  obtain ⟨region, hregion, rfl⟩ := List.mem_map.mp h
  have hclear := clear_of_mem_regions (unclosed_none _ 0) region hregion
  rw [Nat.zero_add] at hclear
  exact ⟨region, hclear, rfl⟩

theorem isMath_of_mem_tokens (h : t ∈ tokens lines code) : t.isMath = true := by
  obtain ⟨region, -, rfl⟩ := exists_clear_of_mem_tokens h
  rfl

theorem within_of_mem_tokens (h : t ∈ tokens lines code) : t.Within lines.length := by
  obtain ⟨region, ⟨-, hlt, hlast, -⟩, rfl⟩ := exists_clear_of_mem_tokens h
  have hstop := stop_lines_token lines hlt
  have hbody := stop_body_token lines hlt
  refine ⟨?_, Nat.le_succ _, by omega, by omega, fun _ => rfl⟩
  rw [hstop]
  exact Nat.lt_succ_of_lt hlt

theorem pairwise_tokens (lines : List (List Char)) (code : List Token) :
    (tokens lines code).Pairwise Ahead := by
  rw [tokens, List.pairwise_map]
  refine (pairwise_regions (unclosed_none _ 0)).imp_of_mem ?_
  intro a b ha _ hab
  have hlt := (clear_of_mem_regions (unclosed_none _ 0) a ha).first_lt_last
  refine ⟨Nat.lt_trans hlt hab, ?_⟩
  rw [stop_body_token lines hlt]
  exact Nat.le_of_lt hab

/-- A region of math is clear of code, so its token has no line of any code token. -/
theorem apart_of_mem_tokens {c : Token} (hc : c ∈ code) (hwithin : c.Within lines.length)
    (h : t ∈ tokens lines code) : c.Apart t := by
  refine apart_of_disjoint hwithin (within_of_mem_tokens h) ?_
  obtain ⟨region, ⟨-, hlt, -, hclear⟩, rfl⟩ := exists_clear_of_mem_tokens h
  rintro line ⟨hcode, hmath⟩
  rw [LineRange.contains_iff, stop_lines_token lines hlt] at hmath
  have hline := hclear line hmath.1 (Nat.le_of_lt_succ hmath.2)
  exact Bool.false_ne_true (hline.symm.trans (List.any_eq_true.mpr ⟨c, hc, hcode⟩))

end Math

/-! ### Both, by first line -/

namespace Token

theorem startsBy_iff {a b : Token} : a.startsBy b = true ↔ a.lines.first ≤ b.lines.first :=
  decide_eq_true_iff

theorem startsBy_trans (a b c : Token) (hab : a.startsBy b = true) (hbc : b.startsBy c = true) :
    a.startsBy c = true :=
  startsBy_iff.mpr (Nat.le_trans (startsBy_iff.mp hab) (startsBy_iff.mp hbc))

theorem startsBy_total (a b : Token) : (a.startsBy b || b.startsBy a) = true := by
  rw [Bool.or_eq_true, startsBy_iff, startsBy_iff]
  exact Nat.le_total _ _

theorem Ahead.startsBy {a b : Token} (h : a.Ahead b) : a.startsBy b = true :=
  startsBy_iff.mpr (Nat.le_of_lt h.1)

/-- Where one of any two tokens is ahead, the order of their first lines says which. -/
theorem arranged_mergeSort {tokens : List Token} {count : Nat} (hwithin : ∀ t ∈ tokens, t.Within count)
    (hapart : tokens.Pairwise Apart) : Arranged (tokens.mergeSort startsBy) count where
  within t ht := hwithin t ((List.mergeSort_perm tokens startsBy).mem_iff.mp ht)
  ahead := by
    have hsorted := List.pairwise_mergeSort startsBy_trans startsBy_total tokens
    have hapart := ((List.mergeSort_perm tokens startsBy).pairwise_iff Or.symm).mpr hapart
    refine (hsorted.and hapart).imp ?_
    rintro a b ⟨hle, hab | hba⟩
    · exact hab
    · exact absurd (startsBy_iff.mp hle) (Nat.not_le.mpr hba.1)

theorem arranged_withMath {cs : List Char} {code : List Token} (h : Arranged code (cut cs).length) :
    Arranged (withMath cs code) (cut cs).length := by
  have hlength : ((cut cs).map Line.text).length = (cut cs).length := List.length_map _
  refine arranged_mergeSort ?_ ?_
  · intro t ht
    rcases List.mem_append.mp ht with hcode | hmath
    · exact h.within t hcode
    · exact hlength ▸ Math.within_of_mem_tokens hmath
  · rw [List.pairwise_append]
    refine ⟨h.ahead.imp .inl, (Math.pairwise_tokens _ _).imp .inl, fun c hc t ht => ?_⟩
    exact Math.apart_of_mem_tokens hc (hlength.symm ▸ h.within c hc) ht

/-- Sorting is stable, so the code tokens stay as they are. -/
theorem filter_withMath {cs : List Char} {code : List Token} (hahead : code.Pairwise Ahead)
    (hcode : ∀ t ∈ code, t.isMath = false) :
    (withMath cs code).filter (fun t => !t.isMath) = code := by
  have hkept : code.filter (fun t => !t.isMath) = code :=
    List.filter_eq_self.mpr fun t ht => by simp [hcode t ht]
  have hmath : (Math.tokens ((cut cs).map Line.text) code).filter (fun t => !t.isMath) = [] :=
    List.filter_eq_nil_iff.mpr fun t ht => by simp [Math.isMath_of_mem_tokens ht]
  have hsublist : code.Sublist (withMath cs code) :=
    List.sublist_mergeSort startsBy_trans startsBy_total (hahead.imp Ahead.startsBy)
      (List.sublist_append_left _ _)
  have hperm := (List.mergeSort_perm (code ++ Math.tokens ((cut cs).map Line.text) code)
    startsBy).filter fun t => !t.isMath
  rw [List.filter_append, hkept, hmath, List.append_nil] at hperm
  have hfiltered := hsublist.filter fun t => !t.isMath
  rw [hkept] at hfiltered
  exact (hfiltered.eq_of_length hperm.length_eq.symm).symm

/-- Code blocks that lie one after the other within the lines of a text make tokens that do. -/
theorem arranged_tokensOf {cs : List Char} {bs : List CodeBlock}
    (h : CodeBlock.Placed bs (cut cs).length) (displayMath : Bool) :
    Arranged (tokensOf displayMath cs bs) (cut cs).length := by
  have hcode := arranged_map_ofCodeBlock h
  cases displayMath with
  | false => exact hcode
  | true => exact arranged_withMath hcode

theorem isMath_ofCodeBlock (b : CodeBlock) : (ofCodeBlock b).isMath = false := by
  cases h : b.fenced <;> simp [isMath, ofCodeBlock, h]

theorem filter_tokensOf {cs : List Char} {bs : List CodeBlock}
    (h : CodeBlock.Placed bs (cut cs).length) :
    (tokensOf true cs bs).filter (fun t => !t.isMath) = tokensOf false cs bs := by
  refine filter_withMath (arranged_tokensOf h false).ahead ?_
  intro t ht
  obtain ⟨b, -, rfl⟩ := List.mem_map.mp ht
  exact isMath_ofCodeBlock b

/-! ### Bodies that share no line -/

theorem kind_ne_indentedCode {t : Token} (h : t.isExecutable = true) : t.kind ≠ .indentedCode := by
  intro hkind
  simp [isExecutable, isFenced, isMath, hkind] at h

namespace Arranged

variable {tokens : List Token} {count : Nat} {t b : Token}

theorem apart (h : Arranged tokens count) (ht : t ∈ tokens) (hb : b ∈ tokens) (hne : t ≠ b) :
    t.Apart b := by
  have hapart : tokens.Pairwise Apart := h.ahead.imp .inl
  exact hapart.forall ht hb hne

theorem countP_contains_le_one (h : Arranged tokens count) (line : Nat) :
    tokens.countP (fun t => t.body.contains line) ≤ 1 := by
  have hahead := h.ahead.filter fun t => t.body.contains line
  have hmem : ∀ t ∈ tokens.filter fun t => t.body.contains line,
      t.Within count ∧ t.body.first ≤ line ∧ line < t.body.stop := by
    intro t ht
    obtain ⟨htoken, hline⟩ := List.mem_filter.mp ht
    exact ⟨h.within t htoken, (LineRange.contains_iff _ _).mp hline⟩
  rw [List.countP_eq_length_filter]
  generalize tokens.filter (fun t => t.body.contains line) = holding at hahead hmem ⊢
  match holding with
  | [] => exact Nat.zero_le 1
  | [_] => exact Nat.le_refl 1
  | a :: b :: _ =>
    -- the body of the first ends before the second starts, so no line is in both
    have hab : a.body.stop ≤ b.lines.first := ((List.pairwise_cons.mp hahead).1 b (by simp)).2
    obtain ⟨-, -, hstop⟩ := hmem a (by simp)
    obtain ⟨hwithin, hfirst, -⟩ := hmem b (by simp)
    have hbody := hwithin.first_le_first
    omega

/-- The lines around a body, where delimiters stand, are in the body of no block of a language. -/
theorem not_contains_delimiter (h : Arranged tokens count) (ht : t ∈ tokens) (hb : b ∈ tokens)
    (hexecutable : b.isExecutable = true) :
    b.body.contains t.lines.first = false ∧ b.body.contains t.body.stop = false := by
  have hdelimited := (h.within b hb).delimited (kind_ne_indentedCode hexecutable)
  have htfirst := (h.within t ht).first_le_first
  have htbody := t.body.first_le_stop
  simp only [LineRange.contains, Bool.and_eq_false_iff, decide_eq_false_iff_not]
  by_cases hne : t = b
  · subst hne
    omega
  · rcases h.apart ht hb hne with ⟨hfirst, hstop⟩ | ⟨hfirst, hstop⟩
    · omega
    · omega

theorem languageAt?_eq_none (h : Arranged tokens count) (ht : t ∈ tokens) {line : Nat}
    (hline : line = t.lines.first ∨ line = t.body.stop) : languageAt? tokens line = none := by
  have hblock : blockAt? tokens line = none := by
    rw [blockAt?, List.find?_eq_none]
    intro b hb hfound
    obtain ⟨hexecutable, hcontains⟩ := Bool.and_eq_true_iff.mp hfound
    obtain ⟨hfirst, hstop⟩ := h.not_contains_delimiter ht hb hexecutable
    rcases hline with rfl | rfl
    · exact Bool.false_ne_true (hfirst.symm.trans hcontains)
    · exact Bool.false_ne_true (hstop.symm.trans hcontains)
  rw [languageAt?, hblock, Option.bind_none]

end Arranged

end Token

/-! ### Texts -/

/-- Whatever reads the code blocks of a text, as long as they lie one after the other within its lines,
the tokens are arranged: each starts below the one before it and below its body, and has its body within
its own lines, after an opening delimiter if there is one. A line is then in one body at most, the lines
of delimiters belong to no language, and display math is only ever added between the other tokens. -/
theorem tokensOf_structure {cs : List Char} {bs : List CodeBlock}
    (hplaced : CodeBlock.Placed bs (cut cs).length) (displayMath : Bool) :
    let tokens := tokensOf displayMath cs bs
    (tokens.Pairwise fun a b => a.lines.first < b.lines.first ∧ a.body.stop ≤ b.lines.first) ∧
    (∀ t ∈ tokens, t.lines.first ≤ t.body.first ∧ t.body.stop ≤ t.lines.stop ∧
      t.lines.stop ≤ (cut cs).length ∧ (t.kind ≠ .indentedCode → t.body.first = t.lines.first + 1)) ∧
    (∀ line, tokens.countP (fun t => t.body.contains line) ≤ 1) ∧
    (∀ t ∈ tokens,
      (∀ b ∈ tokens, b.isExecutable = true →
        b.body.contains t.lines.first = false ∧ b.body.contains t.body.stop = false) ∧
      languageAt? tokens t.lines.first = none ∧ languageAt? tokens t.body.stop = none) ∧
    (tokensOf true cs bs).filter (fun t => !t.isMath) = tokensOf false cs bs := by
  have h := Token.arranged_tokensOf hplaced displayMath
  refine ⟨h.ahead, ?_, h.countP_contains_le_one, ?_, Token.filter_tokensOf hplaced⟩
  · intro t ht
    obtain ⟨-, hfirst, hstop, hcount, hdelimited⟩ := h.within t ht
    exact ⟨hfirst, hstop, hcount, hdelimited⟩
  · intro t ht
    refine ⟨fun b hb => h.not_contains_delimiter ht hb, ?_, ?_⟩
    · exact h.languageAt?_eq_none ht (.inl rfl)
    · exact h.languageAt?_eq_none ht (.inr rfl)

/-- The code blocks that are read from a text lie so. -/
theorem placed_cut (cs : List Char) : CodeBlock.Placed (codeBlocks cs) (cut cs).length :=
  (placed_codeBlocks cs).mono (written_le_length_cut cs)

theorem exists_placed_tokenize (displayMath : Bool) (text : String) :
    ∃ cs bs, CodeBlock.Placed bs (cut cs).length ∧
      tokenize displayMath text = tokensOf displayMath cs bs :=
  ⟨dropSeparators text.toList, _, placed_cut _, rfl⟩

/-- The tokens of a text are arranged within the lines that are left of it without separators. -/
theorem tokenize_structure (displayMath : Bool) (text : String) :
    ((tokenize displayMath text).Pairwise fun a b =>
      a.lines.first < b.lines.first ∧ a.body.stop ≤ b.lines.first) ∧
    (∀ t ∈ tokenize displayMath text,
      t.lines.first ≤ t.body.first ∧ t.body.stop ≤ t.lines.stop ∧
        t.lines.stop ≤ (splitLines (stripped text)).length ∧
        (t.kind ≠ .indentedCode → t.body.first = t.lines.first + 1)) ∧
    (∀ line, (tokenize displayMath text).countP (fun t => t.body.contains line) ≤ 1) ∧
    (∀ t ∈ tokenize displayMath text,
      (∀ b ∈ tokenize displayMath text, b.isExecutable = true →
        b.body.contains t.lines.first = false ∧ b.body.contains t.body.stop = false) ∧
      languageAt? (tokenize displayMath text) t.lines.first = none ∧
      languageAt? (tokenize displayMath text) t.body.stop = none) ∧
    (tokenize true text).filter (fun t => !t.isMath) = tokenize false text := by
  have hcount : (splitLines (stripped text)).length = (cut (dropSeparators text.toList)).length := by
    rw [splitLines, stripped, String.toList_ofList, List.length_map]
  rw [hcount]
  exact tokensOf_structure (placed_cut (dropSeparators text.toList)) displayMath

end Polyglot
