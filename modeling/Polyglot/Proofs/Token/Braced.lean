import Mathlib.Data.List.TakeWhile
import Polyglot.Proofs.Partition
import Polyglot.Proofs.Token.Calls
import Polyglot.Proofs.Token.Declared

/-! Blocks with a name in braces. Any text can be the name of a language, but a block declares no more
than the first word of what is in its braces, so it declares a name as it stands exactly if that is one
word. A name with other characters leads to its language only if its first word does. -/

namespace Polyglot

/-- The info string with a text in braces. -/
def braced (name : String) : String := "\x7b" ++ name ++ "\x7d"

/-- Whether a block starts with a language when this is in its braces. -/
def opensName (name : List Char) : Bool := (dropOptional '=' name).head?.any Text.isAsciiWord

/-- Whether a text is one word that a block can name: it starts with an ASCII character. -/
def isBlockName (name : String) : Bool :=
  name.toList.head?.any Text.isAsciiWord && name.toList.all Text.isWord

theorem toList_braced (name : String) : (braced name).toList = '\x7b' :: (name.toList ++ ['\x7d']) := by
  simp [braced]

/-! ### Reading info strings -/

section
variable (cs : List Char)

theorem trim_braced : Text.trim ('\x7b' :: (cs ++ ['\x7d'])) = '\x7b' :: (cs ++ ['\x7d']) := by
  have hfront : Text.isBlank '\x7b' = false := by decide
  have hback : Text.isBlank '\x7d' = false := by decide
  rw [Text.trim, Text.trimBy, List.dropWhile_cons_of_neg (by simp [hfront]), ← List.cons_append,
    List.reverse_concat, List.dropWhile_cons_of_neg (by simp [hback]), ← List.reverse_concat,
    List.reverse_reverse]

theorem startsWithName_braced : startsWithName ('\x7b' :: (cs ++ ['\x7d'])) = opensName cs := by
  have hdrop : dropOptional '\x7b' ('\x7b' :: (cs ++ ['\x7d'])) = cs ++ ['\x7d'] := rfl
  have hclose : Text.isAsciiWord '\x7d' = false := by decide
  rw [startsWithName, trim_braced, hdrop, opensName]
  cases cs with
  | nil => decide
  | cons c rest =>
    rw [List.cons_append, dropOptional, dropOptional]
    split
    · cases rest <;> simp [hclose]
    · rfl

theorem firstWord_braced : firstWord ('\x7b' :: (cs ++ ['\x7d'])) = firstWord cs := by
  have hopen : Text.isWord '\x7b' = false := by decide
  have hclose : Text.isWord '\x7d' = false := by decide
  rw [firstWord, firstWord, List.dropWhile_cons_of_pos (by simp [hopen]), List.dropWhile_append]
  -- no word is in the braces, or the first one ends at the closing brace at the latest
  split
  · rename_i hempty
    rw [List.isEmpty_iff.mp hempty]
    simp [hclose]
  · rw [List.takeWhile_append]
    split
    · rename_i hall
      rw [List.takeWhile_cons_of_neg (by simp [hclose]), List.append_nil]
      exact ((List.takeWhile_prefix _).eq_of_length hall).symm
    · rfl

theorem firstWord_eq_self_iff : firstWord cs = cs ↔ ∀ c ∈ cs, Text.isWord c = true := by
  constructor
  · intro h c hc
    rw [← h] at hc
    exact List.mem_takeWhile_imp hc
  · intro h
    cases cs with
    | nil => rfl
    | cons c rest =>
      rw [firstWord, List.dropWhile_cons_of_neg (by simp [h c]), List.takeWhile_eq_self_iff]
      exact h

end

theorem dropOptional_of_forall_isWord {cs : List Char} (h : ∀ c ∈ cs, Text.isWord c = true) :
    dropOptional '=' cs = cs := by
  cases cs with
  | nil => rfl
  | cons c rest =>
    rw [dropOptional, if_neg]
    intro hc
    have hword := h c List.mem_cons_self
    rw [beq_iff_eq.mp hc] at hword
    exact absurd hword (by decide)

theorem isBlockName_iff {name : String} : isBlockName name = true ↔
    opensName name.toList = true ∧ String.ofList (firstWord name.toList) = name := by
  have hself : String.ofList (firstWord name.toList) = name ↔
      ∀ c ∈ name.toList, Text.isWord c = true := by
    rw [← firstWord_eq_self_iff, ← String.toList_inj, String.toList_ofList]
  rw [hself, isBlockName, Bool.and_eq_true, List.all_eq_true, opensName]
  refine and_congr_left fun hwords => ?_
  rw [dropOptional_of_forall_isWord hwords]

theorem firstWord_ne_nil {cs : List Char} (h : opensName cs = true) : firstWord cs ≠ [] := by
  rw [opensName, Option.any_eq_true] at h
  obtain ⟨c, hhead, hascii⟩ := h
  obtain ⟨rest, hrest⟩ := List.head?_eq_some_iff.mp hhead
  have hword := Text.isWord_of_isAsciiWord hascii
  have hsign : Text.isWord '=' = false := by decide
  obtain hcs | hcs := eq_dropOptional_or '=' cs
  · rw [hcs, hrest, ← List.nil_append (c :: rest), firstWord_append_cons (by simp) hword]
    exact List.cons_ne_nil _ _
  · rw [hcs, hrest, ← List.singleton_append, firstWord_append_cons (by simp [hsign]) hword]
    exact List.cons_ne_nil _ _

/-! ### Blocks -/

namespace Token

/-- The block is one of a language: it declares a name that the registry has for it. -/
def IsOf (registry : Registry) (t : Token) (l : Language) : Prop :=
  t.isExecutable = true ∧ t.languageName?.bind registry.get? = some l

section
variable {t : Token} {name : String}

theorem isExecutable_of_braced (hfenced : t.isFenced = true) (hinfo : t.info = braced name) :
    t.isExecutable = opensName name.toList := by
  rw [isExecutable, hfenced, isMath_of_isFenced hfenced, hinfo, toList_braced, startsWithName_braced,
    Bool.true_and, Bool.or_false]

/-- A block of a language declares the first word of what is in its braces. -/
theorem languageName?_of_braced (hfenced : t.isFenced = true) (hinfo : t.info = braced name)
    (hopens : opensName name.toList = true) :
    t.languageName? = some (String.ofList (firstWord name.toList)) := by
  have hne : (firstWord name.toList).isEmpty = false := by
    rw [List.isEmpty_eq_false_iff]
    exact firstWord_ne_nil hopens
  simp [languageName?, isMath_of_isFenced hfenced, hinfo, toList_braced, firstWord_braced, hne]

theorem declares_iff (hfenced : t.isFenced = true) (hinfo : t.info = braced name) :
    t.isExecutable = true ∧ t.languageName? = some name ↔ isBlockName name = true := by
  rw [isExecutable_of_braced hfenced hinfo, isBlockName_iff]
  refine and_congr_right fun hopens => ?_
  rw [languageName?_of_braced hfenced hinfo hopens, Option.some.injEq]

theorem isOf_iff (hfenced : t.isFenced = true) (hinfo : t.info = braced name) (registry : Registry)
    (l : Language) : t.IsOf registry l ↔
      opensName name.toList = true ∧
        registry.get? (String.ofList (firstWord name.toList)) = some l := by
  rw [IsOf, isExecutable_of_braced hfenced hinfo]
  refine and_congr_right fun hopens => ?_
  rw [languageName?_of_braced hfenced hinfo hopens, Option.bind_some]

end

/-- A line in a body is of the language that its block is of. -/
theorem Arranged.resolveAt?_eq_some_iff {tokens : List Token} {count : Nat} {t : Token} {line : Nat}
    (h : Arranged tokens count) (ht : t ∈ tokens) (hline : t.body.contains line = true)
    (registry : Registry) (l : Language) :
    resolveAt? tokens registry line = some l ↔ t.IsOf registry l := by
  constructor
  · intro hresolved
    rw [resolveAt?, languageAt?, Option.bind_assoc] at hresolved
    obtain ⟨b, hb, hlanguage⟩ := Option.bind_eq_some_iff.mp hresolved
    have hmatch := List.find?_some hb
    rw [Bool.and_eq_true] at hmatch
    obtain rfl := h.eq_of_contains (List.mem_of_find?_eq_some hb) ht hmatch.2 hline
    exact ⟨hmatch.1, hlanguage⟩
  · rintro ⟨hexecutable, hlanguage⟩
    rw [resolveAt?, languageAt?, h.blockAt?_eq_some ht hexecutable hline]
    exact hlanguage

end Token

/-- Whatever reads the code blocks of a text, as long as they lie one after the other within its lines,
the lines in the body of a block with a name in its braces have the language of the first word of the
name, if it starts with one. -/
theorem tokensOf_braced {cs : List Char} {bs : List Markdown.CodeBlock}
    (hplaced : Markdown.CodeBlock.Placed bs (Text.cut cs).length) {displayMath : Bool} {t : Token}
    (ht : t ∈ tokensOf displayMath cs bs) (hfenced : t.isFenced = true) {name : String}
    (hinfo : t.info = braced name) {line : Nat} (hline : t.body.contains line = true)
    (registry : Registry) (l : Language) :
    resolveAt? (tokensOf displayMath cs bs) registry line = some l ↔
      opensName name.toList = true ∧
        registry.get? (String.ofList (firstWord name.toList)) = some l := by
  rw [(Token.arranged_tokensOf hplaced displayMath).resolveAt?_eq_some_iff ht hline,
    Token.isOf_iff hfenced hinfo]

/-- A block with a name of a language in its braces is one of that language if the name is a word, and
declares it as it stands only then; in general, it has to start with a word that leads to the language.
Positions in its body are projected onto the language exactly if the block is one of it. -/
theorem braced_name_resolves {overrides : List LanguageOverride} {content : List String}
    {name : String} {l : Language} {t : Token}
    (hname : (Registry.withOverrides overrides content).get? name = some l)
    (hfenced : t.isFenced = true) (hinfo : t.info = braced name) :
    let registry := Registry.withOverrides overrides content
    (t.isExecutable = true ∧ t.languageName? = some name ↔ isBlockName name = true) ∧
    (isBlockName name = true → t.IsOf registry l) ∧
    (t.IsOf registry l ↔ opensName name.toList = true ∧
      registry.get? (String.ofList (firstWord name.toList)) = some l) ∧
    ∀ (displayMath : Bool) (calls : List ParseEngine.Call) (d : Document) (pos : Position),
      let e := ParseEngine.run { displayMath } calls
      t ∈ (e.parse d).1.tokens → t.body.contains pos.line.toNat = true →
        ((∃ v, (synthesize e registry d pos).1 = some v ∧ v.language = l) ↔ t.IsOf registry l) := by
  intro registry
  have hdeclares := Token.declares_iff hfenced hinfo
  refine ⟨hdeclares, ?_, Token.isOf_iff hfenced hinfo registry l, ?_⟩
  · intro hblock
    obtain ⟨hexecutable, hdeclared⟩ := hdeclares.mpr hblock
    refine ⟨hexecutable, ?_⟩
    rw [hdeclared]
    exact hname
  · intro displayMath calls d pos e ht hline
    have hgenuine : e.Genuine := ParseEngine.Genuine.run (ParseEngine.genuine_of_empty rfl) calls
    obtain ⟨cs, bs, hplaced, htokens⟩ := hgenuine.exists_placed d
    have hresolves := tokensOf_braced hplaced (htokens ▸ ht) hfenced hinfo hline registry l
    rw [Token.isOf_iff hfenced hinfo, ← hresolves, ← htokens]
    constructor
    · rintro ⟨v, hv, rfl⟩
      exact resolveAt?_of_synthesize hv
    · intro hresolved
      exact ⟨_, synthesize_of_resolveAt? hresolved, rfl⟩

namespace Braces

/-- A language under a name of two words, and with an alias of one. -/
def added : LanguageOverride := ⟨"zig test", some "zig", some ["zig_test"], none, none⟩

def language : Language := .plain "zig test" "zig" ["zig_test"] [] .all

def registry : Registry := .withOverrides [added] []

/-- The token of the block that starts a document. -/
def token (name : String) : Token where
  kind := .fencedCode
  lines := .span 0 3
  body := .span 1 2
  info := braced name
  content := "x\n"

def document (name : String) : Document := ⟨"file:///a.qmd", "```" ++ braced name ++ "\nx\n```\n", none⟩

theorem braced_name_resolves_alias :
    registry.get? "zig_test" = some language ∧ isBlockName "zig_test" = true ∧
      ∃ v, (synthesize {} registry (document "zig_test") ⟨1, 0⟩).1 = some v ∧
        v.language = language := by
  have hname : registry.get? "zig_test" = some language := by decide +kernel
  have hblock : isBlockName "zig_test" = true := by decide +kernel
  have htoken : token "zig_test" ∈ (ParseEngine.parse {} (document "zig_test")).1.tokens := by
    decide +kernel
  obtain ⟨-, hisOf, -, hprojected⟩ := braced_name_resolves (t := token "zig_test") hname rfl rfl
  exact ⟨hname, hblock, (hprojected true [] _ ⟨1, 0⟩ htoken rfl).mpr (hisOf hblock)⟩

/-- Without configuration, `c++` is an alias, and a block with it in its braces declares a name that no
language has. -/
theorem braced_name_of_symbols :
    (Registry.withOverrides [] []).get? "c++" =
        some (.plain "cpp" "cpp" ["c++"] [".", ":", ">"] .all) ∧
      token "c++" ∈ (ParseEngine.parse {} (document "c++")).1.tokens ∧
      (token "c++").isExecutable = true ∧ (token "c++").languageName? = some "c" ∧
      (Registry.withOverrides [] []).get? "c" = none ∧
      (synthesize {} (.withOverrides [] []) (document "c++") ⟨1, 0⟩).1 = none := by
  decide +kernel

end Braces

end Polyglot
