import Polyglot.Proofs.Delivery.Placing
import Polyglot.Proofs.Language.Fixup
import Polyglot.Proofs.Projection
import Polyglot.Proofs.Token.Calls
import Polyglot.Proofs.Token.Structure

/-! What the file of a virtual document holds. The first line of a document is in no body, whatever
text the tokens are of, so every virtual document starts with an empty line; a language that wants a
directive has it there, and all other lines stand in the file where they stand in the document. -/

namespace Polyglot

/-! ### The file of an acquisition -/

/-- The storage, writing one text whatever it is given. -/
def Storage.writing {m : Type → Type} (storage : Storage m) (text : String) : Storage m :=
  { storage with write := fun path _ => storage.write path text }

namespace TempFiles

/-- A text is what a virtual document is acquired as. -/
structure Acquires (v : VirtualDocument) (text : String) : Prop where
  /-- Nothing else is written, whatever it is written to. -/
  writes : ∀ {m : Type → Type} [Monad m] (storage : Storage m) (host : Host m) (t : TempFiles),
    t.acquire storage host v = t.acquire (storage.writing text) host v
  /-- On a disk that the host leaves alone when it opens a file, the text is read under the path that
  the host was given the URI of. -/
  reads : ∀ {η : Type} {tempDir : String} {host : Host (StateM (World η))} {t t' : TempFiles}
    {w w' : World η} {handle : Handle},
    (∀ uri w, ((host.openDocument uri).run w).2.disk = w.disk) →
    (t.acquire (World.storage tempDir) host v).run w = ((.ok handle, t'), w') →
      ∃ path, Url.ofFilePath? path = some handle.uri ∧ w'.disk.read? path = some text

theorem read?_of_place {η : Type} {tempDir path : String} {t t' : TempFiles} {w w' : World η}
    {v : VirtualDocument}
    (h : (t.place (World.storage tempDir) v).run w = ((.ok path, t'), w')) :
    w'.disk.read? path = some (v.language.fixed v.content) := by
  rw [place, run_bind] at h
  rcases hpath : (t.filePath (World.storage tempDir) v.language.extension).run w with
    ⟨⟨e | path, t₁⟩, w₁⟩
  · rw [hpath] at h
    cases (Prod.mk.inj (Prod.mk.inj h).1).1
  · rw [hpath] at h
    dsimp only at h
    rw [run_bind] at h
    cases hwrite : w₁.disk.write path (v.language.fixed v.content) with
    | error e =>
      rw [World.run_write_error hwrite] at h
      cases (Prod.mk.inj (Prod.mk.inj h).1).1
    | ok d =>
      rw [World.run_write_ok hwrite] at h
      obtain ⟨hout, rfl⟩ := Prod.mk.inj h
      obtain ⟨hok, -⟩ := Prod.mk.inj hout
      obtain rfl := Except.ok.inj hok
      exact (Disk.write_eq_ok hwrite).1.read?

theorem acquires_fixed (v : VirtualDocument) : Acquires v (v.language.fixed v.content) where
  writes _ _ _ := rfl
  reads := by
    intro η tempDir host t t' w w' handle hopens h
    rcases hplace : (t.place (World.storage tempDir) v).run w with ⟨⟨e | path, t₁⟩, w₁⟩
    · rw [acquire_of_error hplace] at h
      cases (Prod.mk.inj (Prod.mk.inj h).1).1
    · cases huri : Url.ofFilePath? path with
      | none =>
        rw [acquire_of_no_uri hplace huri] at h
        cases (Prod.mk.inj (Prod.mk.inj h).1).1
      | some uri =>
        have hdisk := hopens uri w₁
        rcases hopen : (host.openDocument uri).run w₁ with ⟨e | _, w₂⟩
        · rw [acquire_of_not_opened hplace huri hopen] at h
          cases (Prod.mk.inj (Prod.mk.inj h).1).1
        · rw [acquire_of_opened hplace huri hopen] at h
          rw [hopen] at hdisk
          obtain ⟨hout, rfl⟩ := Prod.mk.inj h
          obtain ⟨hok, -⟩ := Prod.mk.inj hout
          obtain rfl := Except.ok.inj hok
          refine ⟨path, huri, ?_⟩
          rw [show w₂.disk = w₁.disk from hdisk]
          exact read?_of_place hplace

/-! There is one text that a virtual document is acquired as: storage that refuses nothing and keeps
what was written to it last tells which. -/

namespace Last

def storage : Storage (StateM String) where
  tempDir := "/"
  createDirs _ := pure (.ok ())
  createFresh _ _ := pure (.ok "/")
  write _ content := do
    set content
    return .ok ()
  removeFile _ := pure (.ok ())
  removeTree _ := pure ()

def host : Host (StateM String) where
  openDocument _ := pure (.ok ())
  execute _ _ := pure .crashed
  deleteFile _ := pure (.ok ())

theorem run_acquire (v : VirtualDocument) (text : String) :
    ((acquire (storage.writing text) host {} v).run "").2 = text := by
  have hplace : (place (storage.writing text) {} v).run "" =
      ((.ok (pathIn "/" v.language.extension (fileName {} v.language.extension)),
        { root := some "/" }), text) := rfl
  cases huri : Url.ofFilePath?
      (pathIn "/" v.language.extension (fileName {} v.language.extension)) with
  | none => rw [acquire_of_no_uri hplace huri]
  | some uri => rw [acquire_of_opened hplace huri rfl]

end Last

theorem acquires_iff (v : VirtualDocument) (text : String) :
    Acquires v text ↔ text = v.language.fixed v.content := by
  constructor
  · intro h
    calc
      text = ((acquire (Last.storage.writing text) Last.host {} v).run "").2 :=
        (Last.run_acquire v text).symm
      _ = ((acquire Last.storage Last.host {} v).run "").2 := by rw [h.writes Last.storage]
      _ = v.language.fixed v.content := by
        rw [(acquires_fixed v).writes Last.storage, Last.run_acquire]
  · rintro rfl
    exact acquires_fixed v

end TempFiles

/-! ### The first line -/

/-- Every body of a language has a delimiter above it, so the first line is in none. -/
theorem not_lineOf_zero {tokens : List Token} {count : Nat} (h : Token.Arranged tokens count)
    (registry : Registry) (name : String) : ¬ LineOf tokens registry name 0 := by
  rintro ⟨t, ht, hexecutable, hline, -⟩
  have hdelimited := (h.within t ht).delimited (Token.kind_ne_indentedCode hexecutable)
  rw [LineRange.contains_iff] at hline
  omega

/-- A projection is joined from an empty line and the lines below the first of its document. -/
theorem content_of_project {tokens : List Token} {count : Nat} (h : Token.Arranged tokens count)
    (registry : Registry) (language : Language) (d : Document) :
    ∃ lines, (project tokens registry language d).content = Text.joinLines ("" :: lines) ∧
      (∀ l ∈ lines, Text.Unbroken l.toList) ∧ lines.length + 1 = d.lineCount := by
  have hcount : 0 < d.lineCount := List.length_pos_iff.mpr (Text.splitLines_ne_nil d.content)
  have hempty := getElem?_projectedLines_of_not_lineOf (not_lineOf_zero h registry language.name) hcount
  have hunbroken := unbroken_of_mem_projectedLines tokens registry language.name d
  have hlength : (projectedLines tokens registry language.name d).length = d.lineCount :=
    length_keepBodies ..
  change ∃ lines, Text.joinLines (projectedLines tokens registry language.name d) = _ ∧ _
  cases hlines : projectedLines tokens registry language.name d with
  | nil => exact absurd hlines (projectedLines_ne_nil _ registry language.name d)
  | cons first lines =>
    rw [hlines] at hempty hunbroken hlength
    obtain rfl : first = "" := Option.some.inj hempty
    exact ⟨lines, rfl, fun l hl => hunbroken l (List.mem_cons_of_mem _ hl), hlength⟩

/-- Whatever reads the code blocks of a text, as long as they lie one after the other within its lines,
a document that is projected by them starts with an empty line. The file of the projection has the lines
of the document, with the directive on the first if the language wants one. -/
theorem tokensOf_file {cs : List Char} {bs : List Markdown.CodeBlock}
    (hplaced : Markdown.CodeBlock.Placed bs (Text.cut cs).length) (displayMath : Bool)
    (registry : Registry) (language : Language) (d : Document) :
    let v := project (tokensOf displayMath cs bs) registry language d
    (Text.splitLines v.content)[0]? = some "" ∧
    ∃ file, (∀ text, TempFiles.Acquires v text ↔ text = file) ∧
      (v.language.fixup = some .typeIgnoreDirective →
        (Text.splitLines file)[0]? = some "# type: ignore" ∧
          ∀ i, 1 ≤ i → (Text.splitLines file)[i]? = (Text.splitLines v.content)[i]?) ∧
      (v.language.fixup = none → file = v.content) ∧
      (Text.splitLines file).length = d.lineCount ∧
      ∀ text ∈ [v.content, file],
        Text.splitLines text = (text.toList.splitOn '\n').map String.ofList := by
  intro v
  obtain ⟨lines, hcontent, hunbroken, hcount⟩ :=
    content_of_project (Token.arranged_tokensOf hplaced displayMath) registry language d
  have hfile : v.language.fixed v.content = Text.joinLines (v.language.firstLine :: lines) := by
    rw [hcontent, v.language.fixed_joinLines]
  have hbefore : ∀ l ∈ "" :: lines, Text.Unbroken l.toList :=
    List.forall_mem_cons.mpr ⟨Text.unbroken_nil, hunbroken⟩
  have hafter : ∀ l ∈ v.language.firstLine :: lines, Text.Unbroken l.toList :=
    List.forall_mem_cons.mpr ⟨v.language.unbroken_firstLine, hunbroken⟩
  have hlines : Text.splitLines v.content = "" :: lines := by
    rw [hcontent, Text.splitLines_joinLines (List.cons_ne_nil _ _) hbefore]
  have hfileLines : Text.splitLines (v.language.fixed v.content) = v.language.firstLine :: lines := by
    rw [hfile, Text.splitLines_joinLines (List.cons_ne_nil _ _) hafter]
  refine ⟨?_, v.language.fixed v.content, TempFiles.acquires_iff v, ?_, ?_, ?_, ?_⟩
  · rw [hlines]
    rfl
  · intro hfixup
    rw [hlines, hfileLines, Language.firstLine_of_some hfixup]
    refine ⟨rfl, ?_⟩
    intro i hi
    obtain ⟨j, rfl⟩ := Nat.exists_eq_add_of_le' hi
    rfl
  · intro hfixup
    exact Language.fixed_of_none hfixup v.content
  · rw [hfileLines]
    exact hcount
  · simp only [List.forall_mem_cons, List.not_mem_nil, false_imp_iff, implies_true, and_true]
    rw [hfile, hcontent]
    exact ⟨Text.splitLines_joinLines_eq_splitOn (List.cons_ne_nil _ _) hbefore,
      Text.splitLines_joinLines_eq_splitOn (List.cons_ne_nil _ _) hafter⟩

/-- Whatever an engine was asked before, a virtual document starts with an empty line. Its file has the
lines of the document, with the directive on the first if the language wants one; a change to any other
text leaves all lines in their places, too, and is made once. -/
theorem file_of_synthesize (displayMath : Bool) (calls : List ParseEngine.Call) (registry : Registry)
    (d : Document) (pos : Position) {v : VirtualDocument}
    (h : (synthesize (ParseEngine.run { displayMath } calls) registry d pos).1 = some v) :
    (Text.splitLines v.content)[0]? = some "" ∧
    (∃ file, (∀ text, TempFiles.Acquires v text ↔ text = file) ∧
      (v.language.fixup = some .typeIgnoreDirective →
        (Text.splitLines file)[0]? = some "# type: ignore" ∧
          ∀ i, 1 ≤ i → (Text.splitLines file)[i]? = (Text.splitLines v.content)[i]?) ∧
      (v.language.fixup = none → file = v.content) ∧
      (Text.splitLines file).length = d.lineCount ∧
      ∀ text ∈ [v.content, file],
        Text.splitLines text = (text.toList.splitOn '\n').map String.ofList) ∧
    ∀ (fixup : VdocFixup) (content : String),
      ((fixup.apply content).toList.splitOn '\n').length = (content.toList.splitOn '\n').length ∧
      (∀ i, 1 ≤ i →
        ((fixup.apply content).toList.splitOn '\n')[i]? = (content.toList.splitOn '\n')[i]?) ∧
      fixup.apply (fixup.apply content) = fixup.apply content := by
  have hgenuine := (ParseEngine.genuine_of_empty (e := { displayMath }) rfl).run calls
  obtain ⟨cs, bs, hplaced, htokens⟩ := hgenuine.exists_placed d
  obtain ⟨language, rfl⟩ := exists_project_of_synthesize h
  rw [htokens]
  obtain ⟨hfirst, hfile⟩ := tokensOf_file hplaced _ registry language d
  refine ⟨hfirst, hfile, ?_⟩
  intro fixup content
  refine ⟨?_, ?_, fixup.apply_apply content⟩
  · rw [fixup.splitOn_apply, List.length_modifyHead]
  · intro i hi
    rw [fixup.splitOn_apply, List.getElem?_modifyHead, if_neg (Nat.ne_of_gt hi)]

namespace Retyped

def registry : Registry := .withOverrides [] []

def typed : Document := ⟨"file:///a.qmd", "```{python}\nf()\n```\n", some 1⟩

/-- Another text of the same version: the engine goes on by the block that was there. -/
def document : Document := ⟨"file:///a.qmd", "f()\r\ng()\n", some 1⟩

def calls : List ParseEngine.Call :=
  [.parse document, .invalidate, .synthesize registry typed ⟨1, 0⟩, .parse document]

def projection : VirtualDocument where
  language := { Language.plain "python" "py" ["ipython", "python3"] ["."] .all with
    fixup := some .typeIgnoreDirective }
  content := "\ng()\n"

def host : Host (StateM (World Unit)) where
  openDocument _ := pure (.ok ())
  execute _ _ := pure .crashed
  deleteFile _ := pure (.ok ())

def world : World Unit := ⟨Disk.put {} ["tmp"] .directory, ()⟩

theorem file_of_synthesize_retyped :
    (synthesize (ParseEngine.run { displayMath := false } calls) registry document ⟨1, 0⟩).1 =
        some projection ∧
      projection.language.delivery = .tempFile ∧
      (∃ file, TempFiles.Acquires projection file ∧
        (Text.splitLines file)[0]? = some "# type: ignore" ∧
        (Text.splitLines file)[1]? = some "g()" ∧
        (Text.splitLines file).length = document.lineCount) ∧
      ((TempFiles.acquire (World.storage "/tmp") host {} projection).run world).2.disk.read?
        "/tmp/quarto-vdoc-0/py/intellisense.py" = some "# type: ignore\ng()\n" := by
  have h : (synthesize (ParseEngine.run { displayMath := false } calls) registry document ⟨1, 0⟩).1 =
      some projection := by decide +kernel
  obtain ⟨-, ⟨file, hfile, hdirective, -, hlength, -⟩, -⟩ := file_of_synthesize false calls _ _ _ h
  obtain ⟨hfirst, hrest⟩ := hdirective rfl
  refine ⟨h, rfl, ⟨file, (hfile file).mpr rfl, hfirst, ?_, hlength⟩, by decide +kernel⟩
  rw [hrest 1 (Nat.le_refl 1)]
  decide +kernel

end Retyped

end Polyglot
