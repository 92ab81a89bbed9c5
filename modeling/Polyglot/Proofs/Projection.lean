import Polyglot.Proofs.Text.Lines
import Polyglot.VirtualDocument

/-! Projections keep lines in their places. Whatever tokens a projection goes by, a stale list or one
that reaches past the text included, its content has the lines of the document: those in bodies of the
language as they are, all others empty. -/

namespace Polyglot

/-- A line lies in the body of a block whose declared name stands for the language called `name`. -/
def LineOf (tokens : List Token) (registry : Registry) (name : String) (line : Nat) : Prop :=
  ∃ t ∈ tokens, t.isExecutable = true ∧ t.body.contains line = true ∧
    ∃ declared language, t.languageName? = some declared ∧
      registry.get? declared = some language ∧ language.name = name

theorem any_blocksOfLanguage_iff (tokens : List Token) (registry : Registry) (name : String)
    (line : Nat) :
    ((blocksOfLanguage tokens registry name).any fun t => t.body.contains line) = true ↔
      LineOf tokens registry name line := by
  simp only [LineOf, blocksOfLanguage, List.any_eq_true, List.mem_filter, Bool.and_eq_true,
    Option.any_eq_true, Option.bind_eq_some_iff, beq_iff_eq]
  constructor
  · rintro ⟨t, ⟨ht, hx, language, ⟨declared, hd, hl⟩, hname⟩, hline⟩
    exact ⟨t, ht, hx, hline, declared, language, hd, hl, hname⟩
  · rintro ⟨t, ht, hx, hline, declared, language, hd, hl, hname⟩
    exact ⟨t, ⟨ht, hx, language, ⟨declared, hd, hl⟩, hname⟩, hline⟩

/-- The line that a position was resolved by is one of its language's lines. -/
theorem lineOf_of_resolveAt? {tokens : List Token} {registry : Registry} {line : Nat}
    {language : Language} (h : resolveAt? tokens registry line = some language) :
    LineOf tokens registry language.name line := by
  obtain ⟨declared, hdeclared, hlanguage⟩ := Option.bind_eq_some_iff.mp h
  obtain ⟨t, hblock, hname⟩ := Option.bind_eq_some_iff.mp hdeclared
  have hmatch := List.find?_some hblock
  rw [Bool.and_eq_true] at hmatch
  exact ⟨t, List.mem_of_find?_eq_some hblock, hmatch.1, hmatch.2, declared, language, hname,
    hlanguage, rfl⟩

/-! ### Kept lines -/

@[simp] theorem length_keepBodies (blocks : List Token) (i : Nat) (ls : List String) :
    (keepBodies blocks i ls).length = ls.length := by
  induction ls generalizing i with
  | nil => rfl
  | cons l ls ih => simp [keepBodies, ih]

theorem getElem?_keepBodies (blocks : List Token) (i j : Nat) (ls : List String) :
    (keepBodies blocks i ls)[j]? =
      ls[j]?.map fun l => if blocks.any fun t => t.body.contains (i + j) then l else "" := by
  induction ls generalizing i j with
  | nil => rfl
  | cons l ls ih =>
    cases j with
    | zero => rfl
    | succ j =>
      rw [keepBodies, List.getElem?_cons_succ, List.getElem?_cons_succ, ih,
        show i + 1 + j = i + (j + 1) by omega]

theorem unbroken_of_mem_keepBodies {blocks : List Token} {i : Nat} {ls : List String}
    (h : ∀ l ∈ ls, Text.Unbroken l.toList) :
    ∀ l ∈ keepBodies blocks i ls, Text.Unbroken l.toList := by
  intro l hl
  obtain ⟨j, hj⟩ := List.mem_iff_getElem?.mp hl
  rw [getElem?_keepBodies] at hj
  obtain ⟨k, hk, rfl⟩ := Option.map_eq_some_iff.mp hj
  split
  · exact h k (List.mem_of_getElem? hk)
  · exact Text.unbroken_nil

/-! ### The lines of a projection -/

/-- The lines that a projection is joined from. -/
def projectedLines (tokens : List Token) (registry : Registry) (name : String) (d : Document) :
    List String :=
  keepBodies (blocksOfLanguage tokens registry name) 0 d.lines

theorem projectedLines_ne_nil (tokens : List Token) (registry : Registry) (name : String)
    (d : Document) : projectedLines tokens registry name d ≠ [] := by
  have hd := Text.splitLines_ne_nil d.content
  rw [← List.length_pos_iff] at hd ⊢
  simpa [projectedLines, Document.lines] using hd

theorem unbroken_of_mem_projectedLines (tokens : List Token) (registry : Registry) (name : String)
    (d : Document) : ∀ l ∈ projectedLines tokens registry name d, Text.Unbroken l.toList :=
  unbroken_of_mem_keepBodies fun _ => Text.unbroken_of_mem_splitLines

/-- Joining the lines and cutting them apart again changes nothing. -/
theorem splitLines_project (tokens : List Token) (registry : Registry) (language : Language)
    (d : Document) :
    Text.splitLines (project tokens registry language d).content =
      projectedLines tokens registry language.name d :=
  Text.splitLines_joinLines (projectedLines_ne_nil _ _ _ _) (unbroken_of_mem_projectedLines _ _ _ _)

theorem splitOn_project (tokens : List Token) (registry : Registry) (language : Language)
    (d : Document) :
    (project tokens registry language d).content.toList.splitOn '\n' =
      (projectedLines tokens registry language.name d).map String.toList :=
  Text.splitOn_joinLines (projectedLines_ne_nil _ _ _ _) (unbroken_of_mem_projectedLines _ _ _ _)

theorem getElem?_projectedLines_of_lineOf {tokens : List Token} {registry : Registry} {name : String}
    {i : Nat} (d : Document) (h : LineOf tokens registry name i) :
    (projectedLines tokens registry name d)[i]? = d.line? i := by
  rw [projectedLines, getElem?_keepBodies, Nat.zero_add,
    (any_blocksOfLanguage_iff tokens registry name i).mpr h]
  simp [Document.line?]

theorem getElem?_projectedLines_of_not_lineOf {tokens : List Token} {registry : Registry}
    {name : String} {i : Nat} {d : Document} (h : ¬ LineOf tokens registry name i)
    (hi : i < d.lineCount) : (projectedLines tokens registry name d)[i]? = some "" := by
  rw [← any_blocksOfLanguage_iff, Bool.not_eq_true] at h
  rw [projectedLines, getElem?_keepBodies, Nat.zero_add, h,
    List.getElem?_eq_getElem (show i < d.lines.length from hi)]
  rfl

section
variable {engine : ParseEngine} {registry : Registry} {d : Document} {pos : Position}
  {v : VirtualDocument}

/-- The language of a virtual document is the one that the engine's tokens have at the position. -/
theorem resolveAt?_of_synthesize (h : (synthesize engine registry d pos).1 = some v) :
    resolveAt? (engine.parse d).1.tokens registry pos.line.toNat = some v.language := by
  obtain ⟨language, hl, rfl⟩ := Option.map_eq_some_iff.mp h
  exact hl

theorem exists_project_of_synthesize (h : (synthesize engine registry d pos).1 = some v) :
    ∃ language, v = project (engine.parse d).1.tokens registry language d := by
  obtain ⟨language, -, rfl⟩ := Option.map_eq_some_iff.mp h
  exact ⟨language, rfl⟩

theorem splitLines_synthesize (h : (synthesize engine registry d pos).1 = some v) :
    Text.splitLines v.content =
      projectedLines (engine.parse d).1.tokens registry v.language.name d := by
  obtain ⟨language, _, rfl⟩ := Option.map_eq_some_iff.mp h
  exact splitLines_project _ registry language d

theorem splitOn_synthesize (h : (synthesize engine registry d pos).1 = some v) :
    v.content.toList.splitOn '\n' =
      (projectedLines (engine.parse d).1.tokens registry v.language.name d).map String.toList := by
  obtain ⟨language, _, rfl⟩ := Option.map_eq_some_iff.mp h
  exact splitOn_project _ registry language d

/-- Line for line, a virtual document is its document with all other languages left out. -/
theorem synthesize_lines (h : (synthesize engine registry d pos).1 = some v) :
    let tokens := (engine.parse d).1.tokens
    (languageAt? tokens pos.line.toNat).bind registry.get? = some v.language ∧
    (v.content.toList.splitOn '\n').length = d.lineCount ∧
    v.lineCount = d.lineCount ∧
    Text.splitLines v.content = (v.content.toList.splitOn '\n').map String.ofList ∧
    (∀ i < d.lineCount,
      (LineOf tokens registry v.language.name i → (Text.splitLines v.content)[i]? = d.line? i) ∧
      (¬ LineOf tokens registry v.language.name i → (Text.splitLines v.content)[i]? = some "")) ∧
    (pos.line.toNat < d.lineCount →
      (Text.splitLines v.content)[pos.line.toNat]? = d.line? pos.line.toNat) := by
  have hresolve := resolveAt?_of_synthesize h
  have hlines := splitLines_synthesize h
  have hparts := splitOn_synthesize h
  have hlength : (v.content.toList.splitOn '\n').length = d.lineCount := by
    rw [hparts]
    simp [projectedLines, Document.lineCount]
  refine ⟨hresolve, hlength, ?_, ?_, ?_, ?_⟩
  · rw [← hlength, Text.length_splitOn]
    rfl
  · rw [hlines, hparts]
    simp
  · intro i hi
    rw [hlines]
    exact ⟨getElem?_projectedLines_of_lineOf d, fun hn => getElem?_projectedLines_of_not_lineOf hn hi⟩
  · intro _
    rw [hlines]
    exact getElem?_projectedLines_of_lineOf d (lineOf_of_resolveAt? hresolve)

end

namespace Stale

/-- Two languages, one of which has an alias. -/
def registry : Registry :=
  .ofLanguages [.plain "javascript" "js" ["js"] [] .all, .plain "r" "r" [] [] .all] []

/-- An engine that holds tokens of another text; the last of them reaches past the end of this
one. -/
def engine : ParseEngine where
  slot := some ⟨⟨"file:///a.qmd", 7⟩, 0, [
    ⟨.fencedCode, .span 0 2, .span 1 2, "{javascript}", ""⟩,
    ⟨.fencedCode, .span 1 3, .span 2 3, "{r}", ""⟩,
    ⟨.fencedCode, .span 2 9, .span 3 9, "{js}", ""⟩]⟩

def document : Document := ⟨"file:///a.qmd", "a\r\nb\rc\n\rd", some 7⟩

def projection : VirtualDocument := ⟨.plain "javascript" "js" ["js"] [] .all, "\nb\n\n\nd"⟩

theorem synthesize_lines_stale :
    (synthesize engine registry document ⟨4, 2⟩).1 = some projection ∧
      projection.lineCount = document.lineCount ∧
      (Text.splitLines projection.content)[4]? = document.line? 4 := by
  have h : (synthesize engine registry document ⟨4, 2⟩).1 = some projection := by decide
  obtain ⟨_, _, hcount, _, _, hline⟩ := synthesize_lines h
  exact ⟨h, hcount, hline (by decide)⟩

end Stale

end Polyglot
