import Mathlib.Data.List.Sort
import Polyglot.Proofs.Token.Structure

/-! The display math of a text, said without the scan that finds it. A region runs from an opener to the
next delimiter with no code between them, and no opener is left alone that has such a delimiter. The
scan finds such regions, and there is only one way to choose them: what covers the first line on which
two choices differ has to be the same region in both. -/

namespace Polyglot

namespace LineRange

/-- The range starts above another. -/
def Above (a b : LineRange) : Prop := a.first < b.first

instance : Std.Irrefl Above := ⟨fun a => Nat.lt_irrefl a.first⟩

instance : Std.Antisymm Above := ⟨fun _ _ hab hba => absurd hba (Nat.lt_asymm hab)⟩

/-- The ranges have no line in common. -/
def Separate (a b : LineRange) : Prop := ∀ i, ¬ (a.contains i = true ∧ b.contains i = true)

instance : Std.Symm Separate := ⟨fun _ _ h i hi => h i hi.symm⟩

theorem eq_of_first_of_stop {a b : LineRange} (hfirst : a.first = b.first) (hstop : a.stop = b.stop) :
    a = b := by
  cases a
  cases b
  simp_all

end LineRange

namespace Math

/-! ### Delimiters and openers -/

/-- Whether a line lies in a code token. -/
def inCode (code : List Token) (i : Nat) : Bool := code.any fun t => t.lines.contains i

/-- A line outside code that starts with a double dollar sign, white space before it apart. -/
def Delimiter (lines : List (List Char)) (isCode : Nat → Bool) (i : Nat) : Prop :=
  isCode i = false ∧ ∃ line, lines[i]? = some line ∧ ['$', '$'] <+: Text.trim line

/-- A delimiter with no further double dollar sign on its line. -/
def Opener (lines : List (List Char)) (isCode : Nat → Bool) (i : Nat) : Prop :=
  isCode i = false ∧ ∃ line rest, lines[i]? = some line ∧ Text.trim line = '$' :: '$' :: rest ∧
    ¬ ['$', '$'] <:+: rest

/-- An opener and the next delimiter, with no code between them. -/
structure Region (lines : List (List Char)) (isCode : Nat → Bool) (first last : Nat) : Prop where
  first_lt_last : first < last
  last_lt : last < lines.length
  opener : Opener lines isCode first
  delimiter : Delimiter lines isCode last
  between : ∀ i, first < i → i < last → ¬ Delimiter lines isCode i
  no_code : ∀ i, first ≤ i → i ≤ last → isCode i = false

/-- Regions in order and without a common line. An opener that is in none of them has no delimiter
before the next line of code. -/
structure Scan (lines : List (List Char)) (isCode : Nat → Bool) (ranges : List LineRange) : Prop where
  increasing : ranges.Pairwise LineRange.Above
  separate : ranges.Pairwise LineRange.Separate
  region : ∀ r ∈ ranges, ∃ last, r.stop = last + 1 ∧ Region lines isCode r.first last
  maximal : ∀ first, Opener lines isCode first → (∀ r ∈ ranges, r.contains first = false) →
    ∀ next, first < next → Delimiter lines isCode next →
      ∃ i, first < i ∧ i < next ∧ isCode i = true

variable {lines : List (List Char)} {isCode : Nat → Bool} {i : Nat}

theorem Opener.delimiter (h : Opener lines isCode i) : Delimiter lines isCode i := by
  obtain ⟨hcode, line, rest, hline, htrim, -⟩ := h
  exact ⟨hcode, line, hline, rest, htrim.symm⟩

theorem Delimiter.lt_length (h : Delimiter lines isCode i) : i < lines.length := by
  obtain ⟨-, line, hline, -⟩ := h
  exact (List.getElem?_eq_some_iff.mp hline).1

theorem delimiter?_eq_some_iff {line rest : List Char} :
    delimiter? line = some rest ↔ Text.trim line = '$' :: '$' :: rest := by
  unfold delimiter?
  split
  · rename_i r htrim
    simp [htrim]
  · rename_i hnot
    simp only [reduceCtorEq, false_iff]
    exact hnot rest

theorem holdsDelimiter_iff (cs : List Char) : holdsDelimiter cs = true ↔ ['$', '$'] <:+: cs := by
  fun_induction holdsDelimiter cs with
  | case1 r => simpa using (List.prefix_append ['$', '$'] r).isInfix
  | case2 c r hnot ih =>
    rw [ih, List.infix_cons_iff]
    constructor
    · exact .inr
    · rintro (⟨rest, hrest⟩ | h)
      · obtain ⟨rfl, rfl⟩ := List.cons.inj hrest
        exact absurd rfl (hnot rest rfl)
      · exact h
  | case3 => simp

/-! ### What the scan finds -/

/-- The region that is open at line `i` has its opener above, and no delimiter since. -/
def Awaits (lines : List (List Char)) (isCode : Nat → Bool) (i : Nat) (opener : Option Nat) : Prop :=
  ∀ first, opener = some first → first < i ∧ Opener lines isCode first ∧
    ∀ k, first < k → k < i → ¬ Delimiter lines isCode k

section
variable {opener : Option Nat} {line after : List Char} {rest : List (List Char)}

theorem awaits_none (lines : List (List Char)) (isCode : Nat → Bool) (i : Nat) :
    Awaits lines isCode i none := by
  rintro _ ⟨⟩

theorem Awaits.succ (h : Awaits lines isCode i opener) (hi : ¬ Delimiter lines isCode i) :
    Awaits lines isCode (i + 1) opener := by
  intro first hfirst
  obtain ⟨hlt, hopener, hbetween⟩ := h first hfirst
  refine ⟨Nat.lt_succ_of_lt hlt, hopener, fun k hgt hle => ?_⟩
  rcases Nat.lt_succ_iff_lt_or_eq.mp hle with hk | rfl
  · exact hbetween k hgt hk
  · exact hi

theorem getElem?_of_drop (h : lines.drop i = line :: rest) : lines[i]? = some line := by
  rw [← List.head?_drop, h]
  rfl

theorem drop_succ_of_drop (h : lines.drop i = line :: rest) : lines.drop (i + 1) = rest := by
  rw [← List.tail_drop, h]
  rfl

theorem delimiter_of_drop (h : lines.drop i = line :: rest) (hcode : ¬ isCode i = true)
    (hline : delimiter? line = some after) : Delimiter lines isCode i :=
  ⟨eq_false_of_ne_true hcode, line, getElem?_of_drop h, after,
    (delimiter?_eq_some_iff.mp hline).symm⟩

theorem not_delimiter_of_drop (isCode : Nat → Bool) (h : lines.drop i = line :: rest)
    (hline : delimiter? line = none) : ¬ Delimiter lines isCode i := by
  rintro ⟨-, line', hline', after, hafter⟩
  obtain rfl := Option.some.inj ((getElem?_of_drop h).symm.trans hline')
  cases hline.symm.trans (delimiter?_eq_some_iff.mpr hafter.symm)

/-- A delimiter is an opener if none follows it on its line. -/
theorem opener_iff_of_drop (h : lines.drop i = line :: rest) (hcode : ¬ isCode i = true)
    (hline : delimiter? line = some after) :
    Opener lines isCode i ↔ holdsDelimiter after = false := by
  have htrim := delimiter?_eq_some_iff.mp hline
  rw [← Bool.not_eq_true, holdsDelimiter_iff]
  constructor
  · rintro ⟨-, line', after', hline', htrim', hnone⟩
    obtain rfl := Option.some.inj ((getElem?_of_drop h).symm.trans hline')
    obtain ⟨-, hafter⟩ := List.cons.inj (htrim.symm.trans htrim')
    rwa [(List.cons.inj hafter).2]
  · intro hnone
    exact ⟨eq_false_of_ne_true hcode, line, after, getElem?_of_drop h, htrim, hnone⟩

theorem awaits_opened (h : lines.drop i = line :: rest) (hcode : ¬ isCode i = true)
    (hline : delimiter? line = some after) :
    Awaits lines isCode (i + 1) (if holdsDelimiter after then none else some i) := by
  cases hafter : holdsDelimiter after with
  | true => exact awaits_none lines isCode (i + 1)
  | false =>
    rintro _ ⟨⟩
    refine ⟨Nat.lt_succ_self i, (opener_iff_of_drop h hcode hline).mpr hafter, ?_⟩
    intro k hgt hlt
    omega

/-- Each region that is found runs from an opener to the next delimiter. -/
theorem delimited_of_mem_regions {tail : List (List Char)} (htail : lines.drop i = tail)
    (h : Awaits lines isCode i opener) :
    ∀ region ∈ regions isCode i opener tail,
      Opener lines isCode region.1 ∧ Delimiter lines isCode region.2 ∧
        ∀ k, region.1 < k → k < region.2 → ¬ Delimiter lines isCode k := by
  fun_induction regions isCode i opener tail with
  | case1 => simp
  | case2 i opener line tail hcode ih =>
    exact ih (drop_succ_of_drop htail) (awaits_none lines isCode _)
  | case3 i opener line tail hcode hline ih =>
    exact ih (drop_succ_of_drop htail) (h.succ (not_delimiter_of_drop isCode htail hline))
  | case4 i line tail hcode after first hline ih =>
    intro region hregion
    rcases List.mem_cons.mp hregion with rfl | hregion
    · obtain ⟨-, hopener, hbetween⟩ := h first rfl
      exact ⟨hopener, delimiter_of_drop htail hcode hline, hbetween⟩
    · exact ih (drop_succ_of_drop htail) (awaits_none lines isCode _) region hregion
  | case5 i line tail hcode after hline ih =>
    exact ih (drop_succ_of_drop htail) (awaits_opened htail hcode hline)

/-- An opener that no region takes, be it still to come or the one of the open region, has no delimiter
before the next line of code. -/
theorem code_of_not_mem_regions {tail : List (List Char)} (htail : lines.drop i = tail)
    (h : Awaits lines isCode i opener) {first next : Nat} (hopener : Opener lines isCode first)
    (hfirst : i ≤ first ∨ opener = some first)
    (hfree : ∀ region ∈ regions isCode i opener tail, ¬ (region.1 ≤ first ∧ first ≤ region.2))
    (hnext : first < next) (hdelimiter : Delimiter lines isCode next) :
    ∃ k, first < k ∧ k < next ∧ isCode k = true := by
  fun_induction regions isCode i opener tail with
  | case1 i opener =>
    -- no line is left for a delimiter
    have hlength : lines.length ≤ i := List.drop_eq_nil_iff.mp htail
    have hlt := hdelimiter.lt_length
    rcases hfirst with hge | rfl
    · omega
    · exact absurd hdelimiter ((h first rfl).2.2 next hnext (by omega))
  | case2 i opener line tail hcode ih =>
    rcases hfirst with hge | rfl
    · have hne : first ≠ i := by
        rintro rfl
        exact Bool.false_ne_true (hopener.1.symm.trans hcode)
      exact ih (drop_succ_of_drop htail) (awaits_none lines isCode _) (.inl (by omega)) hfree
    · -- this line parts the open region from every delimiter that follows
      obtain ⟨hlt, -, hbetween⟩ := h first rfl
      rcases Nat.lt_trichotomy next i with hbefore | rfl | hafter
      · exact absurd hdelimiter (hbetween next hnext hbefore)
      · exact absurd (hdelimiter.1.symm.trans hcode) Bool.false_ne_true
      · exact ⟨i, hlt, hafter, hcode⟩
  | case3 i opener line tail hcode hline ih =>
    have hnot := not_delimiter_of_drop isCode htail hline
    refine ih (drop_succ_of_drop htail) (h.succ hnot) (hfirst.imp_left fun hge => ?_) hfree
    have hne : first ≠ i := by
      rintro rfl
      exact hnot hopener.delimiter
    omega
  | case4 i line tail hcode after opened hline ih =>
    -- the region that ends here takes the line that opened it and this one
    obtain ⟨hclosed, hrest⟩ := List.forall_mem_cons.mp hfree
    have hlt := (h opened rfl).1
    have hne : first ≠ i ∧ first ≠ opened := by omega
    have hge : i ≤ first := hfirst.resolve_right fun heq => hne.2 (Option.some.inj heq).symm
    exact ih (drop_succ_of_drop htail) (awaits_none lines isCode _) (.inl (by omega)) hrest
  | case5 i line tail hcode after hline ih =>
    refine ih (drop_succ_of_drop htail) (awaits_opened htail hcode hline) ?_ hfree
    have hge : i ≤ first := hfirst.resolve_right (by rintro ⟨⟩)
    rcases Nat.lt_or_eq_of_le hge with hgt | rfl
    · exact .inl hgt
    · rw [(opener_iff_of_drop htail hcode hline).mp hopener]
      exact .inr rfl

end

/-! ### One way to choose regions -/

theorem Region.last_eq {first last other : Nat} (h : Region lines isCode first last)
    (h' : Region lines isCode first other) : last = other := by
  rcases Nat.lt_trichotomy last other with hlt | heq | hgt
  · exact absurd h.delimiter (h'.between last h.first_lt_last hlt)
  · exact heq
  · exact absurd h'.delimiter (h.between other h'.first_lt_last hgt)

namespace Scan

variable {ranges others : List LineRange}

/-- Where one scan has a region, another covers its first line: the opener there has a delimiter. -/
theorem exists_contains (h' : Scan lines isCode others) {first last : Nat}
    (hregion : Region lines isCode first last) : ∃ q ∈ others, q.contains first = true := by
  by_contra hnone
  have hfree : ∀ q ∈ others, q.contains first = false := fun q hq =>
    eq_false_of_ne_true fun hcontains => hnone ⟨q, hq, hcontains⟩
  obtain ⟨k, hgt, hlt, hcode⟩ :=
    h'.maximal first hregion.opener hfree last hregion.first_lt_last hregion.delimiter
  have hclear := hregion.no_code k (Nat.le_of_lt hgt) (Nat.le_of_lt hlt)
  exact Bool.false_ne_true (hclear.symm.trans hcode)

/-- Every region of one scan is a region of any other. -/
theorem mem_of_mem (h : Scan lines isCode ranges) (h' : Scan lines isCode others) {r : LineRange}
    (hr : r ∈ ranges) : r ∈ others := by
  -- by the first line, for both scans at once: what starts above is already in both
  induction hn : r.first using Nat.strong_induction_on generalizing ranges others r with
  | _ n ih =>
    subst hn
    obtain ⟨last, hstop, hregion⟩ := h.region r hr
    obtain ⟨q, hq, hcontains⟩ := h'.exists_contains hregion
    obtain ⟨qlast, hqstop, hqregion⟩ := h'.region q hq
    have hwithin := (LineRange.contains_iff _ _).mp hcontains
    rcases Nat.lt_or_eq_of_le hwithin.1 with hlt | heq
    · -- a region that starts above ends here, and the first scan has it too
      have hends : r.first = qlast := by
        by_contra hne
        exact hqregion.between r.first hlt (by omega) hregion.opener.delimiter
      have hqr : q ∈ ranges := ih q.first hlt h' h hq rfl
      have hself : r.contains r.first = true := by
        rw [LineRange.contains_iff, hstop]
        exact ⟨Nat.le_refl _, Nat.lt_succ_of_lt hregion.first_lt_last⟩
      have hne : q ≠ r := by
        rintro rfl
        exact Nat.lt_irrefl _ hlt
      exact absurd ⟨hcontains, hself⟩ (h.separate.forall hqr hr hne r.first)
    · have hlast : last = qlast := hregion.last_eq (heq ▸ hqregion)
      obtain rfl : q = r := LineRange.eq_of_first_of_stop heq (by rw [hqstop, hstop, hlast])
      exact hq

theorem unique (h : Scan lines isCode ranges) (h' : Scan lines isCode others) : ranges = others :=
  h.increasing.eq_of_mem_iff h'.increasing fun _ => ⟨h.mem_of_mem h', h'.mem_of_mem h⟩

end Scan

/-! ### The tokens of display math -/

theorem region_of_mem_regions {region : Nat × Nat} (h : region ∈ regions isCode 0 none lines) :
    Region lines isCode region.1 region.2 := by
  obtain ⟨-, hlt, hlast, hclear⟩ := clear_of_mem_regions (unclosed_none isCode 0) region h
  obtain ⟨hopener, hdelimiter, hbetween⟩ :=
    delimited_of_mem_regions List.drop_zero (awaits_none lines isCode 0) region h
  exact ⟨hlt, by omega, hopener, hdelimiter, hbetween, hclear⟩

/-- The lines of the token of a region. -/
theorem contains_lines_token (lines : List (List Char)) {region : Nat × Nat}
    (h : region.1 < region.2) (i : Nat) :
    (token lines region).lines.contains i = true ↔ region.1 ≤ i ∧ i ≤ region.2 := by
  rw [LineRange.contains_iff, stop_lines_token lines h, Nat.lt_succ_iff]
  rfl

theorem scan_tokens (lines : List (List Char)) (code : List Token) :
    Scan lines (inCode code) ((tokens lines code).map Token.lines) := by
  have hregion : ∀ region ∈ regions (inCode code) 0 none lines,
      Region lines (inCode code) region.1 region.2 := fun _ => region_of_mem_regions
  have hpairwise : (regions (inCode code) 0 none lines).Pairwise fun a b => a.2 < b.1 :=
    pairwise_regions (unclosed_none (inCode code) 0)
  change Scan lines (inCode code) (((regions (inCode code) 0 none lines).map (token lines)).map
    Token.lines)
  refine ⟨?_, ?_, ?_, ?_⟩
  · rw [List.pairwise_map, List.pairwise_map]
    exact hpairwise.imp_of_mem fun ha _ hab => Nat.lt_trans (hregion _ ha).first_lt_last hab
  · rw [List.pairwise_map, List.pairwise_map]
    refine hpairwise.imp_of_mem ?_
    rintro a b ha hb hab i ⟨hia, hib⟩
    rw [contains_lines_token lines (hregion a ha).first_lt_last] at hia
    rw [contains_lines_token lines (hregion b hb).first_lt_last] at hib
    omega
  · intro r hr
    rw [List.map_map] at hr
    obtain ⟨region, hmem, rfl⟩ := List.mem_map.mp hr
    exact ⟨region.2, stop_lines_token lines (hregion region hmem).first_lt_last, hregion region hmem⟩
  · intro first hopener hfree next hnext hdelimiter
    refine code_of_not_mem_regions List.drop_zero (awaits_none lines (inCode code) 0) hopener
      (.inl (Nat.zero_le first)) ?_ hnext hdelimiter
    intro region hmem hcovers
    have hnot := hfree _ (List.mem_map_of_mem (List.mem_map_of_mem hmem))
    rw [← contains_lines_token lines (hregion region hmem).first_lt_last] at hcovers
    exact Bool.false_ne_true (hnot.symm.trans hcovers)

/-- The lines between two delimiters are all there. -/
theorem length_slice {first last : Nat} (h : last ≤ lines.length) :
    ((lines.drop first).take (last - first)).length = last - first := by
  rw [List.length_take, List.length_drop]
  omega

theorem body_of_mem_tokens {code : List Token} {t : Token} (h : t ∈ tokens lines code) :
    t.kind = .displayMath ∧ t.info = "" ∧ t.body.first = t.lines.first + 1 ∧
      t.body.stop + 1 = t.lines.stop ∧ t.lines.stop ≤ lines.length ∧
      ∃ body : List (List Char), t.content = Text.joinLines (body.map String.ofList) ∧
        body.length = t.body.size ∧ ∀ k < t.body.size, body[k]? = lines[t.body.first + k]? := by
  obtain ⟨region, ⟨-, hlt, hlast, -⟩, rfl⟩ := exists_clear_of_mem_tokens h
  have hlines := stop_lines_token lines hlt
  have hstop := stop_body_token lines hlt
  have hsize : (token lines region).body.size = region.2 - (region.1 + 1) := by
    rw [LineRange.size, hstop]
    rfl
  refine ⟨rfl, rfl, rfl, ?_, ?_, _, rfl, ?_, ?_⟩
  · rw [hlines, hstop]
  · omega
  · rw [hsize, length_slice (Nat.le_of_lt hlast)]
  · intro k hk
    rw [hsize] at hk
    rw [List.getElem?_take_of_lt hk, List.getElem?_drop]
    rfl

/-- The ranges of the tokens of display math are the one choice of regions that leaves no opener with a
delimiter alone, and each token holds the lines between its delimiters. -/
theorem tokens_scan (lines : List (List Char)) (code : List Token) :
    (∀ ranges, Scan lines (inCode code) ranges ↔ ranges = (tokens lines code).map Token.lines) ∧
    ∀ t ∈ tokens lines code,
      t.kind = .displayMath ∧ t.info = "" ∧ t.body.first = t.lines.first + 1 ∧
      t.body.stop + 1 = t.lines.stop ∧ t.lines.stop ≤ lines.length ∧
      ∃ body : List (List Char), t.content = Text.joinLines (body.map String.ofList) ∧
        body.length = t.body.size ∧ ∀ k < t.body.size, body[k]? = lines[t.body.first + k]? := by
  refine ⟨fun ranges => ⟨fun h => h.unique (scan_tokens lines code), ?_⟩, fun t => body_of_mem_tokens⟩
  rintro rfl
  exact scan_tokens lines code

end Math

end Polyglot
