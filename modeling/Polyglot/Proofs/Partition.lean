import Mathlib.Data.List.Nodup
import Polyglot.Proofs.Language.Registry
import Polyglot.Proofs.Projection
import Polyglot.Proofs.Token.Cache
import Polyglot.Proofs.Token.Structure

/-! Projections share a document out among its languages. No two bodies have a line in common and no two
languages a name, so all positions of a language see one virtual document, no line stands in the virtual
documents of two languages, and a line stands in one exactly if the block around it names a known
language. -/

namespace Polyglot

/-! ### The block of a line -/

namespace Token.Arranged

variable {tokens : List Token} {count : Nat} {t b : Token}

theorem eq_of_contains (h : Arranged tokens count) (ht : t ∈ tokens) (hb : b ∈ tokens) {line : Nat}
    (htline : t.body.contains line = true) (hbline : b.body.contains line = true) : t = b := by
  by_contra hne
  rw [LineRange.contains_iff] at htline hbline
  have htfirst := (h.within t ht).first_le_first
  have hbfirst := (h.within b hb).first_le_first
  rcases h.apart ht hb hne with ⟨-, hstop⟩ | ⟨-, hstop⟩
  · omega
  · omega

/-- The block that is found around a line is any block of a language that has the line. -/
theorem blockAt?_eq_some (h : Arranged tokens count) (ht : t ∈ tokens)
    (hexecutable : t.isExecutable = true) {line : Nat} (hline : t.body.contains line = true) :
    blockAt? tokens line = some t := by
  have hfound : (blockAt? tokens line).isSome = true := by
    rw [blockAt?, List.find?_isSome]
    exact ⟨t, ht, by rw [hexecutable, hline]; rfl⟩
  obtain ⟨b, hb⟩ := Option.isSome_iff_exists.mp hfound
  have hmatch := List.find?_some hb
  rw [Bool.and_eq_true] at hmatch
  rw [hb, h.eq_of_contains ht (List.mem_of_find?_eq_some hb) hline hmatch.2]

end Token.Arranged

/-- A line lies in the body of a block whose declared name stands for some language. -/
def InKnownBlock (tokens : List Token) (registry : Registry) (line : Nat) : Prop :=
  ∃ t ∈ tokens, t.isExecutable = true ∧ t.body.contains line = true ∧
    ∃ declared language, t.languageName? = some declared ∧ registry.get? declared = some language

section
variable {tokens : List Token} {registry : Registry} {line : Nat}

theorem resolveAt?_of_inKnownBlock {count : Nat} (hblocks : Token.Arranged tokens count)
    (h : InKnownBlock tokens registry line) :
    ∃ language, resolveAt? tokens registry line = some language := by
  obtain ⟨t, ht, hexecutable, hline, declared, language, hdeclared, hlanguage⟩ := h
  refine ⟨language, ?_⟩
  rw [resolveAt?, languageAt?, hblocks.blockAt?_eq_some ht hexecutable hline, Option.bind_some,
    hdeclared, Option.bind_some, hlanguage]

theorem inKnownBlock_of_lineOf {name : String} (h : LineOf tokens registry name line) :
    InKnownBlock tokens registry line := by
  obtain ⟨t, ht, hexecutable, hline, declared, language, hdeclared, hlanguage, -⟩ := h
  exact ⟨t, ht, hexecutable, hline, declared, language, hdeclared, hlanguage⟩

/-- A line belongs to one language at most. -/
theorem LineOf.name_eq {count : Nat} (hblocks : Token.Arranged tokens count) {name other : String}
    (h : LineOf tokens registry name line) (h' : LineOf tokens registry other line) : name = other := by
  obtain ⟨t, ht, -, hline, declared, language, hdeclared, hlanguage, rfl⟩ := h
  obtain ⟨b, hb, -, hline', declared', language', hdeclared', hlanguage', rfl⟩ := h'
  obtain rfl := hblocks.eq_of_contains ht hb hline hline'
  obtain rfl := Option.some.inj (hdeclared.symm.trans hdeclared')
  obtain rfl := Option.some.inj (hlanguage.symm.trans hlanguage')
  rfl

end

/-! ### Copied lines -/

/-- By given tokens, the projection onto a language has a line of every document as it is, whatever it
says. -/
def Copied (tokens : List Token) (registry : Registry) (language : Language) (line : Nat) : Prop :=
  ∀ d : Document, line < d.lineCount →
    (Text.splitLines (project tokens registry language d).content)[line]? = d.line? line

/-- A document with something on one line and nothing above it. -/
def markedDocument (line : Nat) : Document :=
  ⟨"", Text.joinLines (List.replicate line "" ++ ["x"]), none⟩

theorem lines_markedDocument (line : Nat) :
    (markedDocument line).lines = List.replicate line "" ++ ["x"] := by
  refine Text.splitLines_joinLines (by simp) ?_
  intro l hl
  rcases List.mem_append.mp hl with hl | hl
  · rw [List.eq_of_mem_replicate hl]
    exact Text.unbroken_nil
  · rw [List.mem_singleton.mp hl]
    exact ⟨by decide, by decide⟩

theorem copied_iff (tokens : List Token) (registry : Registry) (language : Language) (line : Nat) :
    Copied tokens registry language line ↔ LineOf tokens registry language.name line := by
  constructor
  · intro h
    by_contra hnot
    have hlines := lines_markedDocument line
    have hcount : line < (markedDocument line).lineCount := by
      rw [Document.lineCount, hlines]
      simp
    have hcopied := h (markedDocument line) hcount
    rw [splitLines_project, getElem?_projectedLines_of_not_lineOf hnot hcount, Document.line?,
      hlines] at hcopied
    simp at hcopied
  · intro h d _
    rw [splitLines_project, getElem?_projectedLines_of_lineOf d h]

/-! ### Names -/

namespace Registry

/-- Two languages of one name are one. -/
theorem eq_of_name_eq {overrides : List LanguageOverride} {content : List String} {l l' : Language}
    (hl : l ∈ (withOverrides overrides content).toList)
    (hl' : l' ∈ (withOverrides overrides content).toList) (h : l.name = l'.name) : l = l' :=
  List.inj_on_of_nodup_map (nodup_withOverrides overrides content) hl hl' h

end Registry

/-! ### Engines -/

namespace ParseEngine

/-- The engine goes by the document's own text. -/
def Current (e : ParseEngine) (d : Document) : Prop :=
  (e.parse d).1.tokens = tokenize e.displayMath d.content

theorem current_of_empty {e : ParseEngine} (h : e.slot = none) (d : Document) : e.Current d := by
  rcases e.parse_cases d with ⟨key, parsed, -, hslot, -⟩ | ⟨hscan, -⟩
  · cases h.symm.trans hslot
  · rw [Current, hscan]
    rfl

theorem Current.exists_placed {e : ParseEngine} {d : Document} (h : e.Current d) :
    ∃ cs bs, Markdown.CodeBlock.Placed bs (Text.cut cs).length ∧
      (e.parse d).1.tokens = tokensOf e.displayMath cs bs := by
  rw [h]
  exact exists_placed_tokenize e.displayMath d.content

/-- An engine that goes by the document's own text does so when it is asked again. -/
theorem Current.parse {e : ParseEngine} {d : Document} (h : e.Current d) : (e.parse d).2.Current d := by
  rcases e.parse_cases d with ⟨_, _, _, _, hhit⟩ | ⟨-, hmath, hafter⟩
  · rw [hhit]
    exact h
  · rcases (e.parse d).2.parse_cases d with ⟨key, parsed, hkey, hslot, hhit⟩ | ⟨hscan, -⟩
    · rw [Current, hhit, hmath]
      rcases hafter with hsame | ⟨key', -, hfilled⟩
      · rw [Current, parse_of_hit hkey (hsame.symm.trans hslot)] at h
        exact h
      · cases hfilled.symm.trans hslot
        rfl
    · rw [Current, hscan]
      rfl

end ParseEngine

/-! ### Several projections of one document -/

section
variable {tokens : List Token} {registry : Registry}

theorem mem_toList_of_resolveAt? {line : Nat} {language : Language}
    (h : resolveAt? tokens registry line = some language) : language ∈ registry.toList := by
  obtain ⟨declared, -, hlanguage⟩ := Option.bind_eq_some_iff.mp h
  exact Registry.mem_of_get? hlanguage

/-- A line of a projection that is not empty is one of its language's lines. -/
theorem lineOf_of_getElem? {language : Language} {d : Document} {i : Nat} {line : String}
    (hline : (Text.splitLines (project tokens registry language d).content)[i]? = some line)
    (hne : line ≠ "") : LineOf tokens registry language.name i := by
  by_contra hnot
  rw [splitLines_project] at hline
  have hcount : i < d.lineCount := by
    have hlt := (List.getElem?_eq_some_iff.mp hline).1
    simpa [projectedLines, Document.lineCount] using hlt
  rw [getElem?_projectedLines_of_not_lineOf hnot hcount] at hline
  exact hne (Option.some.inj hline).symm

/-- A line in a block of a known language is copied by the projection onto the language that a position
on it has. -/
theorem copied_of_inKnownBlock {count : Nat} (hblocks : Token.Arranged tokens count) {line : Nat}
    (h : InKnownBlock tokens registry line) :
    ∃ language, resolveAt? tokens registry line = some language ∧
      Copied tokens registry language line := by
  obtain ⟨language, hlanguage⟩ := resolveAt?_of_inKnownBlock hblocks h
  exact ⟨language, hlanguage, (copied_iff _ _ _ _).mpr (lineOf_of_resolveAt? hlanguage)⟩

end

/-- Whatever reads the code blocks of a text, as long as they lie one after the other within its lines,
a document is shared out by them among its languages: lines of one language have the same projection,
projections onto two languages have no line in common, and what is copied are the lines in blocks of
known languages. -/
theorem tokensOf_partition {cs : List Char} {bs : List Markdown.CodeBlock}
    (hplaced : Markdown.CodeBlock.Placed bs (Text.cut cs).length) (displayMath : Bool)
    (overrides : List LanguageOverride) (content : List String) (d : Document) :
    let registry := Registry.withOverrides overrides content
    let tokens := tokensOf displayMath cs bs
    (∀ (line other : Nat) (l l' : Language), resolveAt? tokens registry line = some l →
      resolveAt? tokens registry other = some l' → l.name = l'.name →
      project tokens registry l' d = project tokens registry l d) ∧
    (∀ l l' : Language, l.name ≠ l'.name → ∀ (i : Nat) (line line' : String),
      (Text.splitLines (project tokens registry l d).content)[i]? = some line →
      (Text.splitLines (project tokens registry l' d).content)[i]? = some line' →
        line = "" ∨ line' = "") ∧
    (∀ line, (∃ language ∈ registry.toList, Copied tokens registry language line) ↔
      InKnownBlock tokens registry line) ∧
    (∀ line, (∃ language, resolveAt? tokens registry line = some language ∧
      Copied tokens registry language line) ↔ InKnownBlock tokens registry line) := by
  intro registry tokens
  have hblocks : Token.Arranged tokens (Text.cut cs).length :=
    Token.arranged_tokensOf hplaced displayMath
  have hknown : ∀ {language line}, Copied tokens registry language line →
      InKnownBlock tokens registry line := fun hcopied =>
    inKnownBlock_of_lineOf ((copied_iff _ _ _ _).mp hcopied)
  refine ⟨?_, ?_, ?_, ?_⟩
  · intro line other l l' hl hl' hname
    obtain rfl : l = l' :=
      Registry.eq_of_name_eq (mem_toList_of_resolveAt? hl) (mem_toList_of_resolveAt? hl') hname
    rfl
  · intro l l' hne i line line' hline hline'
    by_contra hboth
    obtain ⟨hfirst, hsecond⟩ := not_or.mp hboth
    exact hne ((lineOf_of_getElem? hline hfirst).name_eq hblocks (lineOf_of_getElem? hline' hsecond))
  · intro line
    constructor
    · rintro ⟨language, -, hcopied⟩
      exact hknown hcopied
    · intro h
      obtain ⟨language, hlanguage, hcopied⟩ := copied_of_inKnownBlock hblocks h
      exact ⟨language, mem_toList_of_resolveAt? hlanguage, hcopied⟩
  · intro line
    constructor
    · rintro ⟨language, -, hcopied⟩
      exact hknown hcopied
    · exact copied_of_inKnownBlock hblocks

/-! ### Several virtual documents of one document -/

section
variable {overrides : List LanguageOverride} {content : List String} {d : Document}
  {e e' : ParseEngine}

theorem synthesize_of_resolveAt? {registry : Registry} {language : Language} {pos : Position}
    (h : resolveAt? (e.parse d).1.tokens registry pos.line.toNat = some language) :
    (synthesize e registry d pos).1 = some (project (e.parse d).1.tokens registry language d) :=
  Option.map_eq_some_iff.mpr ⟨language, h, rfl⟩

/-- Over the tokens of its own text, a document is shared out among its languages: positions of one
language have the same virtual document, virtual documents of two languages have no line in common, and
what is copied are the lines in blocks of known languages. -/
theorem projections_partition (h : e.Current d) (h' : e'.Current d)
    (hmath : e'.displayMath = e.displayMath) :
    let registry := Registry.withOverrides overrides content
    let tokens := (e.parse d).1.tokens
    (∀ (p q : Position) (l l' : Language), resolveAt? tokens registry p.line.toNat = some l →
      resolveAt? tokens registry q.line.toNat = some l' → l.name = l'.name →
      ∃ v, (synthesize e registry d p).1 = some v ∧ (synthesize e' registry d q).1 = some v ∧
        v.language = l) ∧
    (∀ (p q : Position) (v v' : VirtualDocument), (synthesize e registry d p).1 = some v →
      (synthesize e' registry d q).1 = some v' → v.language.name ≠ v'.language.name →
      ∀ (i : Nat) (line line' : String), (Text.splitLines v.content)[i]? = some line →
        (Text.splitLines v'.content)[i]? = some line' → line = "" ∨ line' = "") ∧
    (∀ line, (∃ language ∈ registry.toList, Copied tokens registry language line) ↔
      InKnownBlock tokens registry line) ∧
    (∀ line < UInt32.size, (∃ pos v, (synthesize e registry d pos).1 = some v ∧
      Copied tokens registry v.language line) ↔ InKnownBlock tokens registry line) := by
  intro registry tokens
  have htokens : (e'.parse d).1.tokens = tokens := by
    rw [h', hmath, ← h]
  obtain ⟨cs, bs, hplaced, hread⟩ := h.exists_placed
  obtain ⟨hsame, hapart, hcopied, hown⟩ :=
    tokensOf_partition hplaced e.displayMath overrides content d
  rw [← hread] at hsame hapart hcopied hown
  refine ⟨?_, ?_, hcopied, ?_⟩
  · intro p q l l' hp hq hname
    refine ⟨_, synthesize_of_resolveAt? hp, ?_, rfl⟩
    rw [synthesize_of_resolveAt? (by rwa [htokens]), htokens]
    exact congrArg some (hsame _ _ _ _ hp hq hname)
  · intro p q v v' hv hv'
    obtain ⟨l, rfl⟩ := exists_project_of_synthesize hv
    obtain ⟨l', rfl⟩ := exists_project_of_synthesize hv'
    rw [htokens]
    exact hapart l l'
  · intro line hline
    constructor
    · rintro ⟨pos, v, hv, hline⟩
      exact (hcopied line).mp
        ⟨v.language, mem_toList_of_resolveAt? (resolveAt?_of_synthesize hv), hline⟩
    · intro hknown
      obtain ⟨language, hlanguage, hline'⟩ := (hown line).mpr hknown
      have hpos : (UInt32.ofNat line).toNat = line := UInt32.toNat_ofNat_of_lt hline
      exact ⟨⟨UInt32.ofNat line, 0⟩, _, synthesize_of_resolveAt? (by rwa [hpos]), hline'⟩

end

namespace Aliases

/-- Two blocks of one language under two names, and one of another between them. -/
def document : Document where
  uri := "file:///a.qmd"
  content := "```{js}\nf()\n```\n```{python}\ng()\n```\n```{javascript}\nh()\n```\n"
  version := some 1

def engine : ParseEngine := { displayMath := false }

def registry : Registry := .withOverrides [] []

def javascript : Language := .plain "javascript" "js" ["js"] ["."] .all

def projection : VirtualDocument := ⟨javascript, "\nf()\n\n\n\n\n\nh()\n\n"⟩

/-- The first engine has not seen the document, the second has it in its slot. -/
theorem projections_partition_aliases :
    (synthesize engine registry document ⟨1, 0⟩).1 = some projection ∧
      (synthesize (engine.parse document).2 registry document ⟨7, 0⟩).1 = some projection ∧
      (∃ python, (synthesize (engine.parse document).2 registry document ⟨4, 0⟩).1 = some python ∧
        python.language.name = "python" ∧
        ∀ (i : Nat) (line line' : String), (Text.splitLines projection.content)[i]? = some line →
          (Text.splitLines python.content)[i]? = some line' → line = "" ∨ line' = "") ∧
      ∃ pos v, (synthesize engine registry document pos).1 = some v ∧
        Copied (engine.parse document).1.tokens registry v.language 7 := by
  have h : engine.Current document := ParseEngine.current_of_empty rfl document
  obtain ⟨hsame, hapart, -, hcopied⟩ := @projections_partition [] [] document engine
    (engine.parse document).2 h h.parse (ParseEngine.displayMath_parse engine document)
  have hprojection : (synthesize engine registry document ⟨1, 0⟩).1 = some projection := by
    decide +kernel
  have hresolved : resolveAt? (engine.parse document).1.tokens registry 7 = some javascript := by
    decide +kernel
  obtain ⟨v, hv, hv', -⟩ := hsame ⟨1, 0⟩ ⟨7, 0⟩ javascript javascript (by decide +kernel) hresolved rfl
  obtain rfl : projection = v := Option.some.inj (hprojection.symm.trans hv)
  have hpython : ∃ python,
      (synthesize (engine.parse document).2 registry document ⟨4, 0⟩).1 = some python ∧
        python.language.name = "python" := by decide +kernel
  obtain ⟨python, hsynthesized, hname⟩ := hpython
  refine ⟨hprojection, hv', ⟨python, hsynthesized, hname, ?_⟩, ?_⟩
  · refine hapart ⟨1, 0⟩ ⟨4, 0⟩ projection python hprojection hsynthesized ?_
    rw [hname]
    decide
  · exact (hcopied 7 (by decide)).mpr (inKnownBlock_of_lineOf (lineOf_of_resolveAt? hresolved))

end Aliases

end Polyglot
