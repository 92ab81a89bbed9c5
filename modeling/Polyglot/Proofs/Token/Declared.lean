import Mathlib.Data.List.TakeWhile
import Polyglot.Token.Declared

/-! The two readings of an info string. The start of the trimmed text tells whether a block is one of a
language, and the first word of the text as it stands is the language's name. They agree, since no
white space is a word character, and neither is a brace or an equals sign: what is skipped on the way
to the first word is what is trimmed and what may open the name. So a block of a language always
declares one. -/

namespace Polyglot

namespace Text

/-! ### White space and words -/

/-- Two ranges of code points have none in common. -/
def rangesApart (a b : Nat × Nat) : Bool := Nat.blt a.2 b.1 || Nat.blt b.2 a.1

/-- No white space is in the table of word characters. -/
theorem wordRanges_apart : (wordRanges.all fun r => blankRanges.all (rangesApart r)) = true := by
  decide +kernel

theorem not_isAsciiWord_of_mem_blankRanges : ∀ r ∈ blankRanges, ∀ i < r.2 + 1 - r.1,
    isAsciiWord (Char.ofNat (r.1 + i)) = false := by
  decide +kernel

theorem not_isWord_of_isBlank {c : Char} (h : isBlank c = true) : isWord c = false := by
  obtain ⟨blank, hblank, hc⟩ := List.any_eq_true.mp h
  simp only [Bool.and_eq_true, decide_eq_true_eq] at hc
  have hascii : isAsciiWord c = false := by
    have hpoint := not_isAsciiWord_of_mem_blankRanges blank hblank (c.toNat - blank.1) (by omega)
    rwa [Nat.add_sub_cancel' hc.1, Char.ofNat_toNat] at hpoint
  have hwide : (wordRanges.any fun r => r.1 ≤ c.toNat && c.toNat ≤ r.2) = false := by
    rw [List.any_eq_false]
    intro word hword
    have hapart := List.all_eq_true.mp (List.all_eq_true.mp wordRanges_apart word hword) blank hblank
    simp only [rangesApart, Bool.or_eq_true, Nat.blt_eq] at hapart
    simp only [Bool.and_eq_true, decide_eq_true_eq]
    omega
  rw [isAsciiWord, Bool.or_eq_false_iff] at hascii
  rw [isWord, isAlphanumeric, hwide, hascii.1, hascii.2, Bool.and_false]
  rfl

/-- Trimming takes white space off both ends. -/
theorem exists_trim (cs : List Char) : ∃ front back, cs = front ++ (trim cs ++ back) ∧
    (∀ c ∈ front, isBlank c = true) ∧ ∀ c ∈ back, isBlank c = true := by
  refine ⟨cs.takeWhile isBlank, ((cs.dropWhile isBlank).reverse.takeWhile isBlank).reverse, ?_, ?_, ?_⟩
  · rw [trim, trimBy, ← List.reverse_append, List.takeWhile_append_dropWhile, List.reverse_reverse,
      List.takeWhile_append_dropWhile]
  · exact fun c hc => List.mem_takeWhile_imp hc
  · exact fun c hc => List.mem_takeWhile_imp (List.mem_reverse.mp hc)

/-- The longest run of word characters at the start of a text. -/
structure LeadingWord (word text : List Char) : Prop where
  starts : word <+: text
  all : ∀ c ∈ word, isWord c = true
  longest : ∀ run, run <+: text → (∀ c ∈ run, isWord c = true) → run <+: word

theorem leadingWord_takeWhile (text : List Char) : LeadingWord (text.takeWhile isWord) text where
  starts := List.takeWhile_prefix _
  all _ hc := List.mem_takeWhile_imp hc
  longest := by
    rintro run ⟨rest, rfl⟩ hrun
    rw [List.takeWhile_append_of_pos hrun]
    exact List.prefix_append _ _

theorem takeWhile_isWord_append {back : List Char} (h : ∀ c ∈ back, isWord c = false)
    (text : List Char) : (text ++ back).takeWhile isWord = text.takeWhile isWord := by
  induction text with
  | nil =>
    cases back with
    | nil => rfl
    | cons c back => simp [h c]
  | cons c text ih => simp [List.takeWhile_cons, ih]

end Text

/-! ### What opens a name -/

/-- What may stand before the name of a language in an info string. -/
def openings : List (List Char) := [[], ['\x7b'], ['='], ['\x7b', '=']]

theorem eq_dropOptional_or (c : Char) (cs : List Char) :
    cs = dropOptional c cs ∨ cs = c :: dropOptional c cs := by
  cases cs with
  | nil => exact .inl rfl
  | cons d r =>
    rw [dropOptional]
    split
    · rename_i h
      rw [beq_iff_eq.mp h]
      exact .inr rfl
    · exact .inl rfl

theorem exists_opening (cs : List Char) :
    ∃ opening ∈ openings, cs = opening ++ dropOptional '=' (dropOptional '\x7b' cs) := by
  obtain hbrace | hbrace := eq_dropOptional_or '\x7b' cs <;>
    obtain hsign | hsign := eq_dropOptional_or '=' (dropOptional '\x7b' cs)
  · exact ⟨[], by simp [openings], by rw [List.nil_append, ← hsign, ← hbrace]⟩
  · exact ⟨['='], by simp [openings], by rw [List.singleton_append, ← hsign, ← hbrace]⟩
  · exact ⟨['\x7b'], by simp [openings], by rw [List.singleton_append, ← hsign, ← hbrace]⟩
  · exact ⟨['\x7b', '='], by simp [openings], by
      rw [List.cons_append, List.singleton_append, ← hsign, ← hbrace]⟩

section
variable {opening : List Char} {c : Char}

theorem not_isWord_of_mem_opening (h : opening ∈ openings) :
    ∀ d ∈ opening, Text.isWord d = false := by
  have hbrace : Text.isWord '\x7b' = false := by decide
  have hsign : Text.isWord '=' = false := by decide
  simp only [openings, List.mem_cons, List.not_mem_nil, or_false] at h
  rcases h with rfl | rfl | rfl | rfl <;> simp [hbrace, hsign]

theorem dropOptional_opening (h : opening ∈ openings) (hc : Text.isAsciiWord c = true)
    (rest : List Char) :
    dropOptional '=' (dropOptional '\x7b' (opening ++ c :: rest)) = c :: rest := by
  have hbrace : c ≠ '\x7b' := by
    rintro rfl
    exact absurd hc (by decide)
  have hsign : c ≠ '=' := by
    rintro rfl
    exact absurd hc (by decide)
  simp only [openings, List.mem_cons, List.not_mem_nil, or_false] at h
  rcases h with rfl | rfl | rfl | rfl <;> simp [dropOptional, hbrace, hsign]

end

/-! ### Reading info strings -/

theorem startsWithName_iff (info : List Char) : startsWithName info = true ↔
    ∃ opening ∈ openings, ∃ c rest,
      Text.trim info = opening ++ c :: rest ∧ Text.isAsciiWord c = true := by
  constructor
  · intro h
    rw [startsWithName, Option.any_eq_true] at h
    obtain ⟨c, hhead, hc⟩ := h
    obtain ⟨rest, hrest⟩ := List.head?_eq_some_iff.mp hhead
    obtain ⟨opening, hopening, heq⟩ := exists_opening (Text.trim info)
    rw [hrest] at heq
    exact ⟨opening, hopening, c, rest, heq, hc⟩
  · rintro ⟨opening, hopening, c, rest, heq, hc⟩
    rw [startsWithName, heq, dropOptional_opening hopening hc]
    exact hc

/-- The first word starts at the first word character. -/
theorem firstWord_append_cons {front : List Char} {c : Char}
    (hfront : ∀ d ∈ front, Text.isWord d = false) (hc : Text.isWord c = true) (rest : List Char) :
    firstWord (front ++ c :: rest) = c :: rest.takeWhile Text.isWord := by
  rw [firstWord, List.dropWhile_append_of_pos (by simpa using hfront),
    List.dropWhile_cons_of_neg (by simp [hc]), List.takeWhile_cons_of_pos hc]

/-- The first word of an info string is what follows the opening of its name. -/
theorem firstWord_of_trim {info opening rest : List Char} {c : Char} (hopening : opening ∈ openings)
    (htrim : Text.trim info = opening ++ c :: rest) (hc : Text.isAsciiWord c = true) :
    firstWord info = c :: rest.takeWhile Text.isWord := by
  obtain ⟨front, back, hinfo, hfront, hback⟩ := Text.exists_trim info
  have hskipped : ∀ d ∈ front ++ opening, Text.isWord d = false := by
    intro d hd
    rcases List.mem_append.mp hd with hd | hd
    · exact Text.not_isWord_of_isBlank (hfront d hd)
    · exact not_isWord_of_mem_opening hopening d hd
  have hparts : info = (front ++ opening) ++ c :: (rest ++ back) := by
    rw [hinfo, htrim]
    simp
  rw [hparts, firstWord_append_cons hskipped (Text.isWord_of_isAsciiWord hc),
    Text.takeWhile_isWord_append fun d hd => Text.not_isWord_of_isBlank (hback d hd)]

namespace Token

variable {t : Token}

theorem isMath_of_isFenced (h : t.isFenced = true) : t.isMath = false := by
  rw [isFenced, beq_iff_eq] at h
  rw [isMath, h]
  rfl

theorem isExecutable_of_isFenced (h : t.isFenced = true) :
    t.isExecutable = startsWithName t.info.toList := by
  rw [isExecutable, h, isMath_of_isFenced h, Bool.true_and, Bool.or_false]

theorem languageName?_of_trim {opening rest : List Char} {c : Char} (h : t.isFenced = true)
    (hopening : opening ∈ openings) (htrim : Text.trim t.info.toList = opening ++ c :: rest)
    (hc : Text.isAsciiWord c = true) :
    t.languageName? = some (String.ofList (c :: rest.takeWhile Text.isWord)) := by
  simp [languageName?, isMath_of_isFenced h, firstWord_of_trim hopening htrim hc]

/-- A block of a language declares one. -/
theorem isSome_languageName? (h : t.isExecutable = true) : t.languageName?.isSome = true := by
  cases hmath : t.isMath with
  | true => simp [languageName?, hmath]
  | false =>
    rw [isExecutable, hmath, Bool.or_false, Bool.and_eq_true] at h
    obtain ⟨opening, hopening, c, rest, htrim, hc⟩ := (startsWithName_iff _).mp h.2
    rw [languageName?_of_trim h.1 hopening htrim hc]
    rfl

end Token

theorem isSome_blockAt?_iff (tokens : List Token) (line : Nat) :
    (blockAt? tokens line).isSome = true ↔ (languageAt? tokens line).isSome = true := by
  rw [languageAt?]
  cases hblock : blockAt? tokens line with
  | none => rfl
  | some t =>
    have hmatch := List.find?_some hblock
    rw [Bool.and_eq_true] at hmatch
    simp [t.isSome_languageName? hmatch.1]

/-- A fenced block is one of a language exactly if its trimmed info string has an ASCII word character
after at most a brace and an equals sign, and it then declares the longest word that starts there. So
there is a block of a language around a line exactly if there is a language there. -/
theorem readings_agree :
    (∀ t : Token, t.isFenced = true →
      (t.isExecutable = true ↔ ∃ opening ∈ openings, ∃ c rest,
        Text.trim t.info.toList = opening ++ c :: rest ∧ Text.isAsciiWord c = true) ∧
      ∀ opening ∈ openings, ∀ c rest, Text.trim t.info.toList = opening ++ c :: rest →
        Text.isAsciiWord c = true → ∃ more,
          t.languageName? = some (String.ofList (c :: more)) ∧
          Text.LeadingWord (c :: more) (c :: rest)) ∧
    ∀ (tokens : List Token) (line : Nat),
      (blockAt? tokens line).isSome = true ↔ (languageAt? tokens line).isSome = true := by
  refine ⟨fun t h => ⟨?_, ?_⟩, isSome_blockAt?_iff⟩
  · rw [Token.isExecutable_of_isFenced h]
    exact startsWithName_iff _
  · intro opening hopening c rest htrim hc
    refine ⟨_, Token.languageName?_of_trim h hopening htrim hc, ?_⟩
    have hleading := Text.leadingWord_takeWhile (c :: rest)
    rwa [List.takeWhile_cons_of_pos (Text.isWord_of_isAsciiWord hc)] at hleading

namespace Spaced

/-- A block whose info string has white space of several kinds around it and a letter that is not
ASCII in its name. -/
def token : Token where
  kind := .fencedCode
  lines := .span 0 3
  body := .span 1 2
  info := "\u3000\t\x7b=rüby_2, x\x7d\u2028"
  content := "x\n"

theorem readings_agree_spaced :
    token.isExecutable = true ∧
      Text.trim token.info.toList = ['\x7b', '='] ++ 'r' :: "üby_2, x\x7d".toList ∧
      ∃ more, token.languageName? = some (String.ofList ('r' :: more)) ∧
        Text.LeadingWord ('r' :: more) ('r' :: "üby_2, x\x7d".toList) := by
  have htrim : Text.trim token.info.toList = ['\x7b', '='] ++ 'r' :: "üby_2, x\x7d".toList := by
    decide +kernel
  obtain ⟨hexecutable, hname⟩ := readings_agree.1 token rfl
  have hopening : ['\x7b', '='] ∈ openings := by simp [openings]
  exact ⟨hexecutable.mpr ⟨_, hopening, 'r', _, htrim, rfl⟩, htrim,
    hname _ hopening 'r' _ htrim rfl⟩

end Spaced

end Polyglot
