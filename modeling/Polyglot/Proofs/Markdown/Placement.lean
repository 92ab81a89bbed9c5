import Polyglot.Proofs.Markdown.Cursor
import Polyglot.Proofs.Text.Written

/-! Where the code blocks of a document lie. A line is content of the open code block, closes it, or
leaves it behind; only in the last case may it open another. So blocks come one after the other, each
within the lines that were read, and the content of one ends before the next begins. -/

namespace Polyglot.Markdown

open Text

/-! ### The lines of a literal -/

namespace CodeBlock

/-- Where the content starts, for lines counted from zero: after the opening fence, or at once if
there is none. -/
def contentStart (b : CodeBlock) : Nat := if b.fenced then b.first else b.first - 1

/-- Where the content stops: it has as many lines as the literal. -/
def contentStop (b : CodeBlock) : Nat := b.contentStart + literalLineCount b.literal

/-- The block and its content lie within so many lines. -/
structure Within (b : CodeBlock) (count : Nat) : Prop where
  first_pos : 1 ≤ b.first
  first_le_last : b.first ≤ b.last
  last_le : b.last ≤ count
  contentStop_le : b.contentStop ≤ count

/-- The block starts, and its content ends, before a line counted from one. -/
def Before (b : CodeBlock) (line : Nat) : Prop := b.first < line ∧ b.contentStop < line

theorem Within.mono {b : CodeBlock} {count more : Nat} (h : b.Within count) (hle : count ≤ more) :
    b.Within more where
  first_pos := h.first_pos
  first_le_last := h.first_le_last
  last_le := Nat.le_trans h.last_le hle
  contentStop_le := Nat.le_trans h.contentStop_le hle

theorem Within.before {b : CodeBlock} {count : Nat} (h : b.Within count) : b.Before (count + 1) :=
  ⟨Nat.lt_succ_of_le (Nat.le_trans h.first_le_last h.last_le), Nat.lt_succ_of_le h.contentStop_le⟩

/-- Blocks one after the other, within so many lines. -/
structure Placed (bs : List CodeBlock) (count : Nat) : Prop where
  within : ∀ b ∈ bs, b.Within count
  before : bs.Pairwise fun a b => a.Before b.first

theorem placed_nil (count : Nat) : Placed [] count := ⟨by simp, .nil⟩

theorem Placed.mono {bs : List CodeBlock} {count more : Nat} (h : Placed bs count)
    (hle : count ≤ more) : Placed bs more :=
  ⟨fun b hb => (h.within b hb).mono hle, h.before⟩

theorem Placed.concat {bs : List CodeBlock} {b : CodeBlock} {count : Nat} (h : Placed bs count)
    (hbefore : ∀ a ∈ bs, a.Before b.first) (hb : b.Within count) : Placed (bs ++ [b]) count where
  within := by
    intro a ha
    rcases List.mem_append.mp ha with ha | ha
    · exact h.within a ha
    · rwa [List.mem_singleton.mp ha]
  before := by
    rw [List.pairwise_append]
    refine ⟨h.before, List.pairwise_singleton _ _, ?_⟩
    intro a ha a' ha'
    rw [List.mem_singleton.mp ha']
    exact hbefore a ha

end CodeBlock

namespace OpenCode

/-- Where the content starts, for lines counted from zero. -/
def contentStart (code : OpenCode) : Nat := if code.fence.isSome then code.first else code.first - 1

/-- The block was opened, and its content gathered, within so many lines. -/
structure Gathered (code : OpenCode) (count : Nat) : Prop where
  first_pos : 1 ≤ code.first
  first_le : code.first ≤ count
  content_le : code.contentStart + code.body.toList.length ≤ count
  unbroken : ∀ l ∈ code.body.toList, Unbroken l.text
  inhabited : code.fence = none → 1 ≤ code.body.toList.length

theorem Gathered.mono {code : OpenCode} {count more : Nat} (h : code.Gathered count)
    (hle : count ≤ more) : code.Gathered more :=
  { h with
    first_le := Nat.le_trans h.first_le hle
    content_le := Nat.le_trans h.content_le hle }

/-- One more line gathers one more line of content. -/
theorem Gathered.push {code : OpenCode} {count : Nat} (h : code.Gathered count) {text : List Char}
    (htext : Unbroken text) (line : Line) : (code.push text line).Gathered (count + 1) where
  first_pos := h.first_pos
  first_le := Nat.le_succ_of_le h.first_le
  content_le := by
    have hcontent := h.content_le
    change code.contentStart + (code.body.push _).toList.length ≤ count + 1
    simp only [Array.toList_push, List.length_append, List.length_singleton]
    omega
  unbroken := by
    intro l hl
    simp only [OpenCode.push, Array.toList_push, List.mem_append, List.mem_singleton] at hl
    rcases hl with hl | rfl
    · exact h.unbroken l hl
    · exact htext
  inhabited _ := by simp [OpenCode.push]

theorem written_joined_le {ls : List Line} (h : ∀ l ∈ ls, Unbroken l.text) :
    written (joined ls ++ ['\n']) ≤ max 1 ls.length := by
  fun_induction joined ls with
  | case1 => decide
  | case2 l => exact written_append_of_unbroken (h l (by simp)) ['\n']
  | case3 l ls hne ih =>
    obtain ⟨hl, hls⟩ := List.forall_mem_cons.mp h
    have hpos : 1 ≤ ls.length := List.length_pos_iff.mpr hne
    have hfirst := written_chars_le hl
    have hrest := ih hls
    have happend := written_append_le l.chars (joined ls ++ ['\n'])
    rw [List.append_assoc, List.length_cons]
    omega

theorem dropTrailingBlank_prefix (ls : List Line) : dropTrailingBlank ls <+: ls := by
  rw [← List.reverse_suffix, dropTrailingBlank, List.reverse_reverse]
  exact List.dropWhile_suffix _

/-- The literal has no more lines than were gathered for it. -/
theorem literalLineCount_le {code : OpenCode} {count : Nat} (h : code.Gathered count) :
    literalLineCount code.literal ≤ code.body.toList.length := by
  rw [literalLineCount_eq_written, literal]
  split
  · exact written_flatMap_chars_le h.unbroken
  · rename_i hfence
    have hkept := dropTrailingBlank_prefix code.body.toList
    have hjoined := written_joined_le fun l hl => h.unbroken l (hkept.subset hl)
    have hlength := hkept.length_le
    have hpos := h.inhabited hfence
    omega

theorem contentStop_close_le {code : OpenCode} {count : Nat} (h : code.Gathered count) (last : Nat) :
    (code.close last).contentStop ≤ count := by
  have hliteral := literalLineCount_le h
  have hcontent := h.content_le
  change code.contentStart + literalLineCount code.literal ≤ count
  omega

theorem within_close {code : OpenCode} {count last : Nat} (h : code.Gathered count)
    (hfirst : code.first ≤ last) (hlast : last ≤ count) : (code.close last).Within count where
  first_pos := h.first_pos
  first_le_last := hfirst
  last_le := hlast
  contentStop_le := contentStop_close_le h last

end OpenCode

namespace State

/-! ### What a line does -/

/-- Code that a line opens: a fence without content, or a first line of indented code. -/
def Opens (s : State) (line : Line) (code : OpenCode) : Prop :=
  code.first = s.count + 1 ∧
    ((code.fence.isSome = true ∧ code.body.toList = []) ∨
      (code.fence = none ∧ ∃ text, Unbroken text ∧ code.body.toList = [⟨text, line.ending⟩]))

/-- What a line does to the code of a document: the leaf and the closed blocks that it leaves. -/
inductive Moves (s : State) (line : Line) : Leaf → Array CodeBlock → Prop where
  /-- It is content of the open block. -/
  | gathers {code : OpenCode} {text : List Char} (hleaf : s.leaf = .code code)
      (htext : Unbroken text) : Moves s line (.code (code.push text line)) s.blocks
  /-- It is the closing fence of the open block. -/
  | closes {code : OpenCode} (hleaf : s.leaf = .code code) :
      Moves s line .nothing (s.blocks.push (code.close (s.count + 1)))
  /-- It lies outside, and closes what is open. -/
  | leaves {leaf : Leaf} (enclosing : List Container)
      (hopens : ∀ code, leaf = .code code → s.Opens line code) :
      Moves s line leaf (s.blocksAfter enclosing)

/-- What a line makes of a state. -/
structure Reads (s : State) (line : Line) (next : State) : Prop where
  count : next.count = s.count + 1
  moves : s.Moves line next.leaf next.blocks

theorem blocksAfter_of_not_code {s : State} (h : ∀ code, s.leaf ≠ .code code)
    (enclosing : List Container) : s.blocksAfter enclosing = s.blocks := by
  unfold blocksAfter
  split
  · rename_i code hleaf
    exact absurd hleaf (h code)
  · rfl

/-- A line that leaves blocks alone where no code is open. -/
theorem moves_of_not_code {s : State} {leaf : Leaf} (line : Line)
    (h : ∀ code, s.leaf ≠ .code code) (hleaf : ∀ code, leaf ≠ .code code) :
    s.Moves line leaf s.blocks := by
  rw [← blocksAfter_of_not_code h []]
  exact .leaves [] fun code hcode => absurd hcode (hleaf code)

/-- The leaf that a line leaves by what it holds. -/
def leafOf (s : State) (line : Line) : Content → Leaf
  | .text cur => if cur.isBlank then .nothing else .paragraph #[lineText cur.skipBlanks line]
  | .fence fence info => .code { fence := some fence, first := s.count + 1, info }
  | .indented cur => .code (OpenCode.push { fence := none, first := s.count + 1 } cur.remainder line)
  | .html block cur => if block.endsWith cur.skipBlanks.rest then .nothing else .html block
  | .heading | .rule | .underline _ => .nothing

theorem opens_of_leafOf {s : State} {line : Line} {content : Content} {code : OpenCode}
    (h : ∀ cur, content = .indented cur → Unbroken cur.rest)
    (hcode : s.leafOf line content = .code code) : s.Opens line code := by
  cases content with
  | fence fence info =>
    cases hcode
    exact ⟨rfl, .inl ⟨rfl, rfl⟩⟩
  | indented cur =>
    cases hcode
    exact ⟨rfl, .inr ⟨rfl, cur.remainder, Cursor.unbroken_remainder (h cur rfl), rfl⟩⟩
  | text cur | html block cur =>
    simp only [leafOf] at hcode
    split at hcode <;> cases hcode
  | heading | rule | underline cur => cases hcode

theorem reads_place {s : State} {line : Line} {r : Resumed} (h : Unbroken r.cursor.rest)
    (inParagraph : Bool) : s.Reads line (s.place line r inParagraph) := by
  unfold place
  extract_lets base ctx opened next
  have hindented : ∀ cur, opened.content = .indented cur → Unbroken cur.rest :=
    fun cur hcur => unbroken_of_suffix (openWith_suffix hcur) h
  clear_value opened
  split
  · rename_i hleaf
    have hs : ∀ code, s.leaf ≠ .code code := by simp [hleaf]
    split
    · exact ⟨rfl, moves_of_not_code line hs (by simp)⟩
    · split
      · exact ⟨rfl, moves_of_not_code line hs (by simp)⟩
      · exact ⟨rfl, moves_of_not_code line hs (by simp)⟩
  · rename_i hleaf
    have hs : ∀ code, s.leaf ≠ .code code := by simp [hleaf]
    dsimp only
    split
    · exact ⟨rfl, moves_of_not_code line hs (by simp)⟩
    · exact ⟨rfl, moves_of_not_code line hs (by simp)⟩
  · exact ⟨rfl, .leaves _ fun code => opens_of_leafOf hindented⟩

theorem unbroken_feed {s : State} {line : Line} (h : Unbroken line.text) :
    Unbroken (if s.count = 0 && line.text.head? == some byteOrderMark then line.text.tail
      else line.text) := by
  split
  · exact unbroken_of_suffix (List.tail_suffix _) h
  · exact h

theorem reads_feed {s : State} {line : Line} (h : Unbroken line.text) : s.Reads line (s.feed line) := by
  unfold feed
  extract_lets text r next
  have hr : Unbroken r.cursor.rest :=
    unbroken_of_suffix (resumeAll_suffix ..) (unbroken_feed h)
  clear_value r
  split
  · split
    · exact reads_place hr false
    · exact reads_place hr _
    · rename_i hleaf
      have hs : ∀ code, s.leaf ≠ .code code := by simp [hleaf]
      split
      · exact reads_place hr false
      · refine ⟨rfl, moves_of_not_code line hs ?_⟩
        intro code
        dsimp only
        split <;> simp
    · rename_i code hleaf
      split
      · split
        · exact ⟨rfl, .closes hleaf⟩
        · exact ⟨rfl, .gathers hleaf (Cursor.unbroken_remainder
            (unbroken_of_suffix (Cursor.dropBlanks_suffix _ _) hr))⟩
      · split
        · exact ⟨rfl, .gathers hleaf (Cursor.unbroken_remainder
            (unbroken_of_suffix (Cursor.dropColumns_suffix _ _) hr))⟩
        · split
          · exact ⟨rfl, .gathers hleaf (Cursor.unbroken_remainder
              (unbroken_of_suffix (Cursor.skipBlanks_suffix _) hr))⟩
          · exact reads_place hr false
  · exact reads_place hr false

/-! ### What lines preserve -/

/-- The closed blocks lie one after the other within the lines that were read, and before the open
one. -/
structure Ordered (s : State) : Prop where
  placed : CodeBlock.Placed s.blocks.toList s.count
  gathered : ∀ code, s.leaf = .code code → code.Gathered s.count
  before : ∀ code, s.leaf = .code code → ∀ b ∈ s.blocks.toList, b.Before code.first

theorem ordered_empty : ({} : State).Ordered where
  placed := CodeBlock.placed_nil 0
  gathered := by rintro _ ⟨⟩
  before := by rintro _ ⟨⟩

theorem placed_push {s : State} (h : s.Ordered) {code : OpenCode} (hleaf : s.leaf = .code code)
    {last count : Nat} (hfirst : code.first ≤ last) (hlast : last ≤ count) (hcount : s.count ≤ count) :
    CodeBlock.Placed (s.blocks.push (code.close last)).toList count := by
  have hgathered := (h.gathered code hleaf).mono hcount
  rw [Array.toList_push]
  exact (h.placed.mono hcount).concat (h.before code hleaf)
    (OpenCode.within_close hgathered hfirst hlast)

theorem placed_blocksAfter {s : State} (h : s.Ordered) (enclosing : List Container) :
    CodeBlock.Placed (s.blocksAfter enclosing).toList s.count := by
  unfold blocksAfter
  split
  · rename_i code hleaf
    have hfirst := (h.gathered code hleaf).first_le
    dsimp only [lastLine]
    split
    · exact placed_push h hleaf (Nat.le_refl _) hfirst (Nat.le_refl _)
    · exact placed_push h hleaf hfirst (Nat.le_refl _) (Nat.le_refl _)
  · exact h.placed

theorem gathered_of_opens {s : State} {line : Line} {code : OpenCode} (h : s.Opens line code) :
    code.Gathered (s.count + 1) := by
  obtain ⟨hfirst, ⟨hfence, hbody⟩ | ⟨hfence, text, htext, hbody⟩⟩ := h
  · refine ⟨by omega, by omega, ?_, by simp [hbody], ?_⟩
    · rw [OpenCode.contentStart, if_pos hfence, hbody, hfirst]
      exact Nat.le_refl _
    · intro hnone
      simp [hnone] at hfence
  · refine ⟨by omega, by omega, ?_, by simpa [hbody] using htext, by simp [hbody]⟩
    rw [OpenCode.contentStart, hfence, hbody, hfirst]
    exact Nat.le_refl _

/-- Whatever a line does, the blocks stay in order. -/
theorem ordered_of_reads {s next : State} {line : Line} (h : s.Ordered) (hreads : s.Reads line next) :
    next.Ordered := by
  obtain ⟨count, lastEmpty, spine, leaf, blocks⟩ := next
  obtain ⟨hcount, hmoves⟩ := hreads
  obtain rfl : count = s.count + 1 := hcount
  have hle := Nat.le_succ s.count
  cases hmoves with
  | @gathers code text hleaf htext =>
    refine ⟨h.placed.mono hle, ?_, ?_⟩
    · rintro _ ⟨⟩
      exact (h.gathered code hleaf).push htext line
    · rintro _ ⟨⟩
      exact h.before code hleaf
  | closes hleaf =>
    have hfirst := (h.gathered _ hleaf).first_le
    refine ⟨placed_push h hleaf (Nat.le_trans hfirst hle) (Nat.le_refl _) hle, ?_, ?_⟩
    · rintro _ ⟨⟩
    · rintro _ ⟨⟩
  | leaves enclosing hopens =>
    have hplaced := placed_blocksAfter h enclosing
    refine ⟨hplaced.mono hle, fun code hcode => gathered_of_opens (hopens code hcode), ?_⟩
    intro code hcode b hb
    rw [(hopens code hcode).1]
    exact (hplaced.within b hb).before

/-- Lines that are read one after the other keep the blocks in order. -/
theorem ordered_foldl {s : State} (h : s.Ordered) {lines : List Line}
    (hlines : ∀ l ∈ lines, Unbroken l.text) :
    (lines.foldl feed s).Ordered ∧ (lines.foldl feed s).count = s.count + lines.length := by
  induction lines generalizing s with
  | nil => exact ⟨h, rfl⟩
  | cons line lines ih =>
    obtain ⟨hline, hrest⟩ := List.forall_mem_cons.mp hlines
    have hreads := reads_feed (s := s) hline
    obtain ⟨hordered, hcount⟩ := ih (ordered_of_reads h hreads) hrest
    refine ⟨hordered, ?_⟩
    rw [List.foldl_cons, hcount, hreads.count, List.length_cons]
    omega

end State

/-- The code blocks of a document lie one after the other within its lines. -/
theorem placed_codeBlocks (cs : List Char) : CodeBlock.Placed (codeBlocks cs) (written cs) := by
  have hlines : ∀ l ∈ writtenLines cs, Unbroken l.text :=
    fun l hl => unbroken_of_mem_cut cs l ((List.mem_filter.mp hl).1)
  obtain ⟨hordered, hcount⟩ := State.ordered_foldl State.ordered_empty hlines
  have hplaced := State.placed_blocksAfter hordered
    ((writtenLines cs).foldl State.feed {}).spine
  rw [hcount, Nat.zero_add] at hplaced
  exact hplaced

end Polyglot.Markdown
