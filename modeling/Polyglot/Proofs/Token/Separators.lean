import Polyglot.Proofs.Text.Lines
import Polyglot.Token.Tokenize

/-! Line and paragraph separators, which are dropped before a text is tokenized. Lines keep their
numbers, unless separators are all that stands between a carriage return and a line feed: without them
the two are one terminator, and all lines that follow move up by one. -/

namespace Polyglot

open Text

/-- The text that is tokenized in place of another. -/
def stripped (s : String) : String := String.ofList (dropSeparators s.toList)

/-- Separators, one at least, are all that stands between some carriage return and a line feed. -/
def Parted (cs : List Char) : Prop :=
  ∃ before seps after, seps ≠ [] ∧ (∀ c ∈ seps, isSeparator c = true) ∧
    cs = before ++ '\r' :: (seps ++ '\n' :: after)

/-- A line feed comes first once separators are dropped, and only then. -/
def LateFeed (cs : List Char) : Prop :=
  cs.head? ≠ some '\n' ∧ (dropSeparators cs).head? = some '\n'

instance (cs : List Char) : Decidable (LateFeed cs) := inferInstanceAs (Decidable (_ ∧ _))

/-- How many carriage returns are parted from a line feed by separators alone. -/
def partedEnds : List Char → Nat
  | [] => 0
  | c :: r => (if c = '\r' ∧ LateFeed r then 1 else 0) + partedEnds r

/-! ### Where separators part a terminator -/

theorem dropSeparators_cons_of_isSeparator {c : Char} (h : isSeparator c = true) (r : List Char) :
    dropSeparators (c :: r) = dropSeparators r := by
  simp [dropSeparators, h]

theorem dropSeparators_cons {c : Char} (h : isSeparator c = false) (r : List Char) :
    dropSeparators (c :: r) = c :: dropSeparators r := by
  simp [dropSeparators, h]

theorem dropSeparators_cr (r : List Char) : dropSeparators ('\r' :: r) = '\r' :: dropSeparators r :=
  dropSeparators_cons (by decide) r

theorem dropSeparators_lf (r : List Char) : dropSeparators ('\n' :: r) = '\n' :: dropSeparators r :=
  dropSeparators_cons (by decide) r

theorem dropSeparators_append_lf {seps : List Char} (h : ∀ c ∈ seps, isSeparator c = true)
    (r : List Char) : dropSeparators (seps ++ '\n' :: r) = '\n' :: dropSeparators r := by
  induction seps with
  | nil => exact dropSeparators_lf r
  | cons c seps ih =>
    obtain ⟨hc, hseps⟩ := List.forall_mem_cons.mp h
    rw [List.cons_append, dropSeparators_cons_of_isSeparator hc, ih hseps]

theorem lateFeed_iff (cs : List Char) :
    LateFeed cs ↔ ∃ seps after, seps ≠ [] ∧ (∀ c ∈ seps, isSeparator c = true) ∧
      cs = seps ++ '\n' :: after := by
  constructor
  · rintro ⟨hfirst, hfeed⟩
    induction cs with
    | nil => simp [dropSeparators] at hfeed
    | cons c r ih =>
      cases hc : isSeparator c with
      | false =>
        rw [dropSeparators_cons hc] at hfeed
        exact absurd hfeed hfirst
      | true =>
        rw [dropSeparators_cons_of_isSeparator hc] at hfeed
        by_cases hr : r.head? = some '\n'
        · obtain ⟨after, rfl⟩ := List.head?_eq_some_iff.mp hr
          exact ⟨[c], after, by simp, by simpa using hc, rfl⟩
        · obtain ⟨seps, after, _, hseps, rfl⟩ := ih hr hfeed
          exact ⟨c :: seps, after, by simp, List.forall_mem_cons.mpr ⟨hc, hseps⟩, rfl⟩
  · rintro ⟨seps, after, hne, hseps, rfl⟩
    refine ⟨?_, by rw [dropSeparators_append_lf hseps]; rfl⟩
    obtain ⟨c, seps, rfl⟩ := List.exists_cons_of_ne_nil hne
    have hc := (List.forall_mem_cons.mp hseps).1
    rintro h
    obtain rfl : c = '\n' := by simpa using h
    exact absurd hc (by decide)

theorem parted_cons_iff (c : Char) (r : List Char) :
    Parted (c :: r) ↔ (c = '\r' ∧ LateFeed r) ∨ Parted r := by
  rw [lateFeed_iff]
  constructor
  · rintro ⟨before, seps, after, hne, hseps, h⟩
    cases before with
    | nil =>
      obtain ⟨rfl, rfl⟩ := List.cons.inj h
      exact .inl ⟨rfl, seps, after, hne, hseps, rfl⟩
    | cons b before =>
      obtain ⟨_, rfl⟩ := List.cons.inj h
      exact .inr ⟨before, seps, after, hne, hseps, rfl⟩
  · rintro (⟨rfl, seps, after, hne, hseps, rfl⟩ | ⟨before, seps, after, hne, hseps, rfl⟩)
    · exact ⟨[], seps, after, hne, hseps, rfl⟩
    · exact ⟨c :: before, seps, after, hne, hseps, rfl⟩

theorem partedEnds_cons {c : Char} (h : c ≠ '\r') (r : List Char) :
    partedEnds (c :: r) = partedEnds r := by
  simp [partedEnds, h]

theorem partedEnds_cr {r : List Char} (h : ¬ LateFeed r) : partedEnds ('\r' :: r) = partedEnds r := by
  simp [partedEnds, h]

theorem partedEnds_cr_of_lateFeed {r : List Char} (h : LateFeed r) :
    partedEnds ('\r' :: r) = 1 + partedEnds r := by
  simp [partedEnds, h]

theorem partedEnds_eq_zero_iff (cs : List Char) : partedEnds cs = 0 ↔ ¬ Parted cs := by
  induction cs with
  | nil => simp [partedEnds, Parted]
  | cons c r ih =>
    rw [parted_cons_iff, not_or, ← ih, partedEnds, Nat.add_eq_zero_iff]
    split <;> simp_all

/-! ### Lines of the stripped text -/

/-- Each terminator that separators part costs the stripped text one line. -/
theorem length_cut_dropSeparators (cs : List Char) :
    (cut (dropSeparators cs)).length + partedEnds cs = (cut cs).length := by
  fun_induction cut cs with
  | case1 => rfl
  | case2 r ih =>
    have hfeed : ¬ LateFeed ('\n' :: r) := fun h => h.1 rfl
    rw [dropSeparators_cr, dropSeparators_lf, partedEnds_cr hfeed, partedEnds_cons (by decide), cut,
      List.length_cons, List.length_cons, ← ih]
    omega
  | case3 r hr ih =>
    have hr : r.head? ≠ some '\n' := fun h => by
      obtain ⟨after, rfl⟩ := List.head?_eq_some_iff.mp h
      exact hr after rfl
    rw [dropSeparators_cr, List.length_cons, ← ih]
    by_cases hfeed : (dropSeparators r).head? = some '\n'
    · -- the carriage return takes the line feed with it, which was a terminator of its own
      obtain ⟨after, hafter⟩ := List.head?_eq_some_iff.mp hfeed
      rw [partedEnds_cr_of_lateFeed ⟨hr, hfeed⟩, hafter, cut, cut, List.length_cons,
        List.length_cons]
      omega
    · rw [partedEnds_cr fun h => hfeed h.2, cut_cr hfeed, List.length_cons]
      omega
  | case4 r ih =>
    rw [dropSeparators_lf, partedEnds_cons (by decide), cut, List.length_cons, List.length_cons, ← ih]
    omega
  | case5 c r _ hr hn ih =>
    rw [partedEnds_cons hr, length_consFirst c (cut_ne_nil r), ← ih]
    cases hc : isSeparator c with
    | true => rw [dropSeparators_cons_of_isSeparator hc]
    | false => rw [dropSeparators_cons hc, cut_cons hn hr, length_consFirst c (cut_ne_nil _)]

/-- A line without its separators. -/
def strippedLine (l : Line) : Line := ⟨dropSeparators l.text, l.ending⟩

theorem map_strippedLine_consFirst (c : Char) {ls : List Line} (h : ls ≠ []) :
    (consFirst c ls).map strippedLine =
      if isSeparator c then ls.map strippedLine else consFirst c (ls.map strippedLine) := by
  obtain ⟨l, ls, rfl⟩ := List.exists_cons_of_ne_nil h
  cases hc : isSeparator c with
  | true => simp [consFirst, strippedLine, dropSeparators_cons_of_isSeparator hc]
  | false => simp [consFirst, strippedLine, dropSeparators_cons hc]

/-- Where nothing is parted, cutting and dropping separators can change places. -/
theorem cut_dropSeparators {cs : List Char} (h : ¬ Parted cs) :
    cut (dropSeparators cs) = (cut cs).map strippedLine := by
  fun_induction cut cs with
  | case1 => rfl
  | case2 r ih =>
    rw [parted_cons_iff, parted_cons_iff] at h
    rw [dropSeparators_cr, dropSeparators_lf, cut, ih (by simp_all)]
    rfl
  | case3 r hr ih =>
    rw [parted_cons_iff, not_or] at h
    have hfeed : (dropSeparators r).head? ≠ some '\n' := by
      intro hfeed
      refine h.1 ⟨rfl, ?_, hfeed⟩
      intro hfirst
      obtain ⟨after, rfl⟩ := List.head?_eq_some_iff.mp hfirst
      exact hr after rfl
    rw [dropSeparators_cr, cut_cr hfeed, ih h.2]
    rfl
  | case4 r ih =>
    rw [parted_cons_iff, not_or] at h
    rw [dropSeparators_lf, cut, ih h.2]
    rfl
  | case5 c r _ hr hn ih =>
    rw [parted_cons_iff, not_or] at h
    rw [map_strippedLine_consFirst c (cut_ne_nil r), ← ih h.2]
    cases hc : isSeparator c with
    | true => rw [dropSeparators_cons_of_isSeparator hc]; rfl
    | false => rw [dropSeparators_cons hc, cut_cons hn hr]; rfl

theorem splitLines_stripped {text : String} (h : ¬ Parted text.toList) :
    splitLines (stripped text) = (splitLines text).map stripped := by
  rw [splitLines, stripped, String.toList_ofList, cut_dropSeparators h, splitLines, List.map_map,
    List.map_map]
  apply List.map_congr_left
  intro l _
  simp [strippedLine, stripped]

theorem length_splitLines_stripped (text : String) :
    (splitLines (stripped text)).length + partedEnds text.toList = (splitLines text).length := by
  simpa [splitLines, stripped] using length_cut_dropSeparators text.toList

/-- Dropping separators keeps every line in its place exactly where none of them part a terminator;
there, the lines of a token are the same lines in the text that is tokenized and in the document. -/
theorem splitLines_stripped_iff (text : String) :
    (((splitLines (stripped text)).length = (splitLines text).length ∧
        ∀ i : Nat, (splitLines (stripped text))[i]? = (splitLines text)[i]?.map stripped) ↔
      ¬ Parted text.toList) ∧
    (¬ Parted text.toList → ∀ displayMath : Bool,
      tokenize displayMath text = tokensOf displayMath (stripped text).toList
        (Markdown.codeBlocks (stripped text).toList) ∧
      ∀ t ∈ tokenize displayMath text, ∀ line, t.lines.contains line = true →
        (splitLines (stripped text))[line]? = (splitLines text)[line]?.map stripped) := by
  have hkept : ¬ Parted text.toList → ∀ i : Nat,
      (splitLines (stripped text))[i]? = (splitLines text)[i]?.map stripped := by
    intro h i
    rw [splitLines_stripped h, List.getElem?_map]
  refine ⟨⟨?_, ?_⟩, ?_⟩
  · rintro ⟨hlength, _⟩
    rw [← partedEnds_eq_zero_iff]
    have := length_splitLines_stripped text
    omega
  · intro h
    refine ⟨?_, hkept h⟩
    rw [splitLines_stripped h, List.length_map]
  · intro h displayMath
    refine ⟨?_, fun t _ line _ => hkept h line⟩
    simp [tokenize, stripped]

/-- Separators before and after every kind of terminator, but none inside one. -/
def unpartedText : String := "\u2028\r\n\u2029\r\u2028x\u2029\n\u2028"

theorem splitLines_stripped_unparted :
    ¬ Parted unpartedText.toList ∧
      (splitLines (stripped unpartedText)).length = (splitLines unpartedText).length ∧
      (splitLines (stripped unpartedText))[2]? = some "x" := by
  have h : ¬ Parted unpartedText.toList := (partedEnds_eq_zero_iff _).mp (by decide)
  obtain ⟨hlength, hline⟩ := (splitLines_stripped_iff unpartedText).1.mpr h
  exact ⟨h, hlength, (hline 2).trans (by decide)⟩

/-- A separator between a carriage return and a line feed, above a block. -/
def partedText : String := "\r\u2028\n```{r}\nx\n```\n"

/-- The body of the block is found on the line of its opening fence. -/
theorem splitLines_stripped_parted :
    (splitLines (stripped partedText)).length ≠ (splitLines partedText).length ∧
      ∃ t ∈ tokenize true partedText, t.body.contains 2 = true ∧
        (splitLines (stripped partedText))[2]? = some "x" ∧
        (splitLines partedText)[2]? = some "```{r}" := by
  decide +kernel

end Polyglot
