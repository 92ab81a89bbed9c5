import Polyglot.Proofs.Delivery.Disk
import Polyglot.Proofs.Delivery.TempFiles

/-! Files placed on a disk. Whatever comes of it, placing a file makes directories on the way to where
it is to be, and if it succeeds it writes that one file; the directory of all files stands in a
place where nothing was before. -/

namespace Polyglot

open Polyglot.Path (OnWay components)

/-! ### A disk as storage -/

namespace World

variable {η : Type} {w : World η} {tempDir : String} {d : Disk}

theorem run_createDirs {path : String} {made : Except DiskError Unit}
    (h : w.disk.createDirs path = (made, d)) :
    ((storage tempDir).createDirs path).run w =
      (made.mapError DiskError.message, ⟨d, w.host⟩) := by
  simp only [storage, onDisk, StateT.run, h]

theorem run_createFresh {parent front : String} {made : Except DiskError String}
    (h : w.disk.createFresh parent front = (made, d)) :
    ((storage tempDir).createFresh parent front).run w =
      (made.mapError DiskError.message, ⟨d, w.host⟩) := by
  simp only [storage, onDisk, StateT.run, h]

theorem run_write_ok {path content : String} (h : w.disk.write path content = .ok d) :
    ((storage tempDir).write path content).run w = (.ok (), ⟨d, w.host⟩) := by
  simp only [storage, tryOnDisk, StateT.run, h]

theorem run_write_error {path content : String} {e : DiskError}
    (h : w.disk.write path content = .error e) :
    ((storage tempDir).write path content).run w = (.error e.message, w) := by
  simp only [storage, tryOnDisk, StateT.run, h]

theorem run_removeFile_ok {path : String} (h : w.disk.removeFile path = .ok d) :
    ((storage tempDir).removeFile path).run w = (.ok (), ⟨d, w.host⟩) := by
  simp only [storage, tryOnDisk, StateT.run, h]

theorem run_removeFile_error {path : String} {e : DiskError} (h : w.disk.removeFile path = .error e) :
    ((storage tempDir).removeFile path).run w = (.error (removeError e), w) := by
  simp only [storage, tryOnDisk, StateT.run, h]

end World

namespace TempFiles

/-! ### The directory of all files -/

/-- A directory of its own inside another, which can be walked to. -/
structure RootIn (base root : String) (d : Disk) : Prop where
  isAbsolute : Path.isAbsolute root = true
  components : ∃ n : Nat, components root = components base ++ [rootFront ++ toString n]
  walk : d.walk [] (Path.components root) = .ok (Path.place root)

/-- The directory, if it is made, stands inside another. -/
def Settled (base : String) (t : TempFiles) (d : Disk) : Prop :=
  ∀ root, t.root = some root → RootIn base root d

theorem Settled.of_keepsDirectories {base : String} {t : TempFiles} {d d' : Disk}
    (h : t.Settled base d) (hkeeps : d.KeepsDirectories d') : t.Settled base d' := by
  intro root hroot
  obtain ⟨habsolute, hcomponents, hwalk⟩ := h root hroot
  exact ⟨habsolute, hcomponents, Disk.walk_of_keepsDirectories hkeeps hwalk⟩

/-! ### Names -/

/-- A text that can stand in a segment. -/
def Fits (s : String) : Prop := '/' ∉ s.toList ∧ '\x00' ∉ s.toList

theorem fits_append {front back : String} (hfront : Fits front) (hback : Fits back) :
    Fits (front ++ back) := by
  simp only [Fits, String.toList_append, List.mem_append, not_or]
  exact ⟨⟨hfront.1, hback.1⟩, hfront.2, hback.2⟩

theorem fits_toString (n : Nat) : Fits (toString n) := by
  have hdigit : ∀ c ∈ (toString n).toList, c.isDigit = true := by
    intro c hc
    rw [show (toString n).toList = Nat.toDigits 10 n from String.toList_ofList] at hc
    exact Nat.isDigit_of_mem_toDigits (by decide) (by decide) hc
  exact ⟨fun hmem => absurd (hdigit _ hmem) (by decide), fun hmem => absurd (hdigit _ hmem) (by decide)⟩

/-- A text that starts with more than two characters is no dots. -/
theorem isSegment_append {front back : String} (hfront : Fits front) (hlength : 2 < front.length)
    (hback : Fits back) : Path.IsSegment (front ++ back) := by
  have hne : ∀ s : String, s.length ≤ 2 → front ++ back ≠ s := by
    rintro s hs rfl
    rw [String.length_append] at hs
    omega
  obtain ⟨hslash, hnul⟩ := fits_append hfront hback
  exact ⟨hne _ (by decide), hne _ (by decide), hne _ (by decide), hslash, hnul⟩

theorem isSegment_rootFront (n : Nat) : Path.IsSegment (rootFront ++ toString n) :=
  isSegment_append ⟨by decide, by decide⟩ (by decide) (fits_toString n)

theorem fits_dot {extension : String} (h : Path.IsSegment extension) : Fits ("." ++ extension) :=
  fits_append ⟨by decide, by decide⟩ ⟨h.no_slash, h.no_nul⟩

/-- The name of a file with a number. -/
def numberedName (k : Nat) (extension : String) : String :=
  fileStem ++ "-" ++ toString k ++ "." ++ extension

theorem fileName_of_perRequest {t : TempFiles} (h : t.naming = .perRequest) (extension : String) :
    t.fileName extension = numberedName t.nextRequest.toNat extension := by
  rw [fileName, h]
  rfl

theorem isSegment_numberedName (k : Nat) {extension : String} (h : Path.IsSegment extension) :
    Path.IsSegment (numberedName k extension) := by
  simp only [numberedName, String.append_assoc]
  refine isSegment_append ⟨by decide, by decide⟩ (by decide) ?_
  exact fits_append ⟨by decide, by decide⟩ (fits_append (fits_toString _) (fits_dot h))

theorem isSegment_fileName (t : TempFiles) {extension : String} (h : Path.IsSegment extension) :
    Path.IsSegment (t.fileName extension) := by
  cases hnaming : t.naming with
  | shared =>
    rw [fileName, hnaming]
    dsimp only
    rw [String.append_assoc]
    exact isSegment_append ⟨by decide, by decide⟩ (by decide) (fits_dot h)
  | perRequest =>
    rw [fileName_of_perRequest hnaming]
    exact isSegment_numberedName _ h

/-- The path of a file in the directory of an extension. -/
def pathIn (root extension name : String) : String := Path.join (Path.join root extension) name

section
variable {extension name : String} (root : String)

theorem components_pathIn (hextension : Path.IsSegment extension) (hname : Path.IsSegment name) :
    components (pathIn root extension name) = components root ++ [extension, name] := by
  rw [pathIn, Path.components_join_of_isSegment hname, Path.components_join_of_isSegment hextension,
    List.append_assoc, List.singleton_append]

theorem place_pathIn (hextension : Path.IsSegment extension) (hname : Path.IsSegment name) :
    Path.place (pathIn root extension name) = Path.place root ++ [extension, name] := by
  rw [pathIn, Path.place_join_of_isSegment hname, Path.place_join_of_isSegment hextension,
    List.append_assoc, List.singleton_append]

end

/-! ### Preparing -/

/-- A place is on the way of the directory that was asked for. -/
def Asked (t : TempFiles) (place : List String) : Prop :=
  ∃ parent, t.parent = some parent ∧ OnWay parent place

/-- A place is on the way to the files with an extension. -/
def Reaches (extension : String) (t : TempFiles) (place : List String) : Prop :=
  t.Asked place ∨
    ∃ root, t.root = some root ∧ (place = Path.place root ∨
      (OnWay (Path.join root extension) place ∧ ¬ OnWay root place))

/-- The directory stays if it is there, and is new otherwise; directories are made on the way. -/
structure Prepared (base extension : String) (t t' : TempFiles) (d d' : Disk) : Prop where
  parent : t'.parent = t.parent
  settled : t'.Settled base d'
  kept : ∀ root, t.root = some root → t'.root = some root
  fresh : ∀ root, t'.root = some root → t.root = some root ∨ d.entry? (Path.place root) = none
  grows : d.Grows (t'.Reaches extension) d'

section
variable {η : Type} {tempDir base extension : String} {t t' : TempFiles} {w w' : World η}

theorem prepared_of_root {d d' : Disk} (ht : t.Settled base d)
    (hgrows : d.Grows (t.Reaches extension) d') : Prepared base extension t t d d' where
  parent := rfl
  settled := ht.of_keepsDirectories hgrows.keepsDirectories
  kept _ h := h
  fresh _ h := .inl h
  grows := hgrows

theorem run_makeRoot (extension : String) {out : Except Error String} (hroot : t.root = none)
    {d : Disk} (hgrows : d.Grows t.Asked w.disk)
    (h : (t.makeRoot (World.storage tempDir) base).run w = ((out, t'), w')) :
    w'.host = w.host ∧ t' = { t with root := t'.root } ∧
      Prepared base extension t t' d w'.disk ∧ ∀ root, out = .ok root → t'.root = some root := by
  rcases hfresh : w.disk.createFresh base rootFront with ⟨e | root, d'⟩
  · obtain rfl := Disk.createFresh_eq_error hfresh
    rw [makeRoot, run_bind, World.run_createFresh hfresh] at h
    obtain ⟨hout, rfl⟩ := Prod.mk.inj h
    obtain ⟨rfl, rfl⟩ := Prod.mk.inj hout
    refine ⟨rfl, rfl, prepared_of_root ?_ (hgrows.mono fun _ hway => .inl hway), by rintro _ ⟨⟩⟩
    intro root hsome
    cases hroot.symm.trans hsome
  · rw [makeRoot, run_bind, World.run_createFresh hfresh] at h
    obtain ⟨hout, rfl⟩ := Prod.mk.inj h
    obtain ⟨rfl, rfl⟩ := Prod.mk.inj hout
    obtain ⟨⟨n, hpath⟩, hnone, hmade, hwalk⟩ := Disk.createFresh_eq_ok hfresh
    have hcomponents : components root = components base ++ [rootFront ++ toString n] := by
      rw [hpath, Path.components_join_of_isSegment (isSegment_rootFront n), Path.components_join_root]
    refine ⟨rfl, rfl, ⟨rfl, ?_, ?_, ?_, ?_⟩, fun _ hok => congrArg some (Except.ok.inj hok)⟩
    · rintro _ ⟨⟩
      refine ⟨?_, ⟨n, hcomponents⟩, hwalk⟩
      rw [hpath]
      exact isAbsolute_join (isAbsolute_join rfl base) _
    · intro root hsome
      cases hroot.symm.trans hsome
    · rintro _ ⟨⟩
      right
      obtain hsame | ⟨hold, _⟩ := hgrows.entry? (Path.place root)
      · rwa [← hsame]
      · exact hold
    · refine (hgrows.mono fun _ hway => .inl hway).trans (hmade.mono ?_)
      rintro _ rfl
      exact .inr ⟨root, rfl, .inl rfl⟩

theorem run_ensureRoot (extension : String) {out : Except Error String} (ht : t.Settled base w.disk)
    (hbase : t.parent.getD tempDir = base)
    (h : (t.ensureRoot (World.storage tempDir)).run w = ((out, t'), w')) :
    w'.host = w.host ∧ t' = { t with root := t'.root } ∧
      Prepared base extension t t' w.disk w'.disk ∧ ∀ root, out = .ok root → t'.root = some root := by
  cases hroot : t.root with
  | some root =>
    rw [ensureRoot_of_root _ hroot] at h
    obtain ⟨hout, rfl⟩ := Prod.mk.inj h
    obtain ⟨rfl, rfl⟩ := Prod.mk.inj hout
    refine ⟨rfl, rfl, prepared_of_root ht (Disk.grows_refl _), ?_⟩
    rintro _ ⟨⟩
    exact hroot
  | none =>
    obtain hparent | ⟨parent, hparent⟩ := Option.eq_none_or_eq_some t.parent
    · rw [ensureRoot_of_no_parent _ hroot hparent] at h
      rw [hparent] at hbase
      subst hbase
      exact run_makeRoot extension hroot (Disk.grows_refl _) h
    · rw [ensureRoot_of_parent _ hroot hparent, run_bind] at h
      rw [hparent] at hbase
      subst hbase
      have hgrows := (w.disk.grows_createDirs parent).mono (Q := t.Asked)
        fun _ hway => ⟨parent, hparent, hway⟩
      rcases hmade : w.disk.createDirs parent with ⟨e | _, d⟩
      · rw [World.run_createDirs hmade] at h
        rw [hmade] at hgrows
        obtain ⟨hout, rfl⟩ := Prod.mk.inj h
        obtain ⟨rfl, rfl⟩ := Prod.mk.inj hout
        refine ⟨rfl, rfl, prepared_of_root ht (hgrows.mono fun _ hway => .inl hway), ?_⟩
        rintro _ ⟨⟩
      · rw [World.run_createDirs hmade] at h
        rw [hmade] at hgrows
        exact run_makeRoot extension (w := ⟨d, w.host⟩) hroot hgrows h

theorem root_count (t : TempFiles) : t.count.root = t.root := by
  unfold count
  split <;> rfl

theorem count_withRoot (t : TempFiles) (root : Option String) :
    { t with root }.count = { t.count with root } := by
  unfold count
  cases h : t.naming <;> simp [h]

theorem Prepared.count {d d' : Disk} (h : Prepared base extension t t' d d') :
    Prepared base extension t t'.count d d' := by
  unfold TempFiles.count
  split <;> exact ⟨h.parent, h.settled, h.kept, h.fresh, h.grows⟩

/-- Whatever comes of it, the path of a file is prepared for. -/
theorem run_filePath {out : Except Error String} (ht : t.Settled base w.disk)
    (hbase : t.parent.getD tempDir = base)
    (h : (t.filePath (World.storage tempDir) extension).run w = ((out, t'), w')) :
    w'.host = w.host ∧ Prepared base extension t t' w.disk w'.disk ∧
      ((∃ e, out = .error e ∧ t' = { t with root := t'.root }) ∨
        ∃ root, t'.root = some root ∧
          out = .ok (pathIn root extension (t.fileName extension)) ∧
          t' = { t.count with root := t'.root }) := by
  rcases hensured : (t.ensureRoot (World.storage tempDir)).run w with ⟨⟨e | root, t₁⟩, w₁⟩
  · obtain ⟨hhost, hfiles, hprepared, _⟩ := run_ensureRoot extension ht hbase hensured
    rw [filePath, run_bind, hensured] at h
    obtain ⟨hout, rfl⟩ := Prod.mk.inj h
    obtain ⟨rfl, rfl⟩ := Prod.mk.inj hout
    exact ⟨hhost, hprepared, .inl ⟨e, rfl, hfiles⟩⟩
  · obtain ⟨hhost, hfiles, hprepared, hroot⟩ :=
      run_ensureRoot extension ht hbase hensured
    have hroot := hroot root rfl
    rw [filePath, run_bind, hensured] at h
    dsimp only at h
    rw [run_bind] at h
    have hway := w₁.disk.grows_createDirs (Path.join root extension)
    have hgrows : ∀ d, w₁.disk.Grows (OnWay (Path.join root extension)) d →
        w.disk.Grows (t₁.Reaches extension) d := by
      intro d hd
      refine hprepared.grows.trans (hd.mono_of_none fun place hnone hplace => ?_)
      refine .inr ⟨root, hroot, .inr ⟨hplace, fun hway => ?_⟩⟩
      cases hnone.symm.trans (Disk.entry?_of_onWay (hprepared.settled root hroot).walk hway)
    rcases hmade : w₁.disk.createDirs (Path.join root extension) with ⟨e | _, d⟩
    · rw [World.run_createDirs hmade] at h
      rw [hmade] at hway
      obtain ⟨hout, rfl⟩ := Prod.mk.inj h
      obtain ⟨rfl, rfl⟩ := Prod.mk.inj hout
      refine ⟨hhost, ⟨hprepared.parent, ?_, hprepared.kept, hprepared.fresh, hgrows d hway⟩,
        .inl ⟨_, rfl, hfiles⟩⟩
      exact hprepared.settled.of_keepsDirectories hway.keepsDirectories
    · rw [World.run_createDirs hmade] at h
      rw [hmade] at hway
      obtain ⟨hout, rfl⟩ := Prod.mk.inj h
      obtain ⟨rfl, rfl⟩ := Prod.mk.inj hout
      have hname : t₁.fileName extension = t.fileName extension := by rw [hfiles]; rfl
      have hprepared' : Prepared base extension t t₁ w.disk d :=
        ⟨hprepared.parent, hprepared.settled.of_keepsDirectories hway.keepsDirectories, hprepared.kept,
          hprepared.fresh, hgrows d hway⟩
      refine ⟨hhost, hprepared'.count, .inr ⟨root, (root_count t₁).trans hroot, by rw [pathIn, hname], ?_⟩⟩
      rw [root_count]
      exact (congrArg TempFiles.count hfiles).trans (count_withRoot t t₁.root)

/-- What comes of placing a file: it was prepared for, and if there is a path, the file was written
there. -/
theorem run_place {out : Except Error String} {v : VirtualDocument} (ht : t.Settled base w.disk)
    (hbase : t.parent.getD tempDir = base)
    (h : (t.place (World.storage tempDir) v).run w = ((out, t'), w')) :
    w'.host = w.host ∧ ∃ d, Prepared base v.language.extension t t' w.disk d ∧
      ((∃ e, out = .error e ∧ w'.disk = d ∧
          (t' = { t with root := t'.root } ∨ t' = { t.count with root := t'.root })) ∨
        ∃ root path, t'.root = some root ∧ out = .ok path ∧
          path = pathIn root v.language.extension (t.fileName v.language.extension) ∧
          t' = { t.count with root := t'.root } ∧
          d.write path (v.language.fixed v.content) = .ok w'.disk) := by
  rcases hpath : (t.filePath (World.storage tempDir) v.language.extension).run w with
    ⟨⟨e | path, t₁⟩, w₁⟩
  · obtain ⟨hhost, hprepared, ⟨_, _, hfiles⟩ | ⟨_, _, ⟨⟩, _⟩⟩ := run_filePath ht hbase hpath
    rw [place, run_bind, hpath] at h
    obtain ⟨hout, rfl⟩ := Prod.mk.inj h
    obtain ⟨rfl, rfl⟩ := Prod.mk.inj hout
    exact ⟨hhost, w₁.disk, hprepared, .inl ⟨e, rfl, rfl, .inl hfiles⟩⟩
  · obtain ⟨hhost, hprepared, ⟨_, ⟨⟩, _⟩ | ⟨root, hroot, hok, hfiles⟩⟩ :=
      run_filePath ht hbase hpath
    obtain rfl := Except.ok.inj hok
    rw [place, run_bind, hpath] at h
    dsimp only at h
    rw [run_bind] at h
    cases hwrite : w₁.disk.write (pathIn root v.language.extension (t.fileName v.language.extension))
        (v.language.fixed v.content) with
    | error e =>
      rw [World.run_write_error hwrite] at h
      obtain ⟨hout, rfl⟩ := Prod.mk.inj h
      obtain ⟨rfl, rfl⟩ := Prod.mk.inj hout
      exact ⟨hhost, w₁.disk, hprepared, .inl ⟨_, rfl, rfl, .inr hfiles⟩⟩
    | ok d =>
      rw [World.run_write_ok hwrite] at h
      obtain ⟨hout, rfl⟩ := Prod.mk.inj h
      obtain ⟨rfl, rfl⟩ := Prod.mk.inj hout
      exact ⟨hhost, w₁.disk, hprepared, .inr ⟨root, _, hroot, rfl, rfl, hfiles, hwrite⟩⟩

/-- What comes of acquiring a file from a host that leaves the disk alone when it opens one: there is
no file, the file is gone again, or it is there and has a URI. -/
theorem run_acquire {host : Host (StateM (World η))} {out : Except Error Handle}
    {v : VirtualDocument} (hopens : ∀ uri w, ((host.openDocument uri).run w).2.disk = w.disk)
    (ht : t.Settled base w.disk) (hbase : t.parent.getD tempDir = base)
    (h : (t.acquire (World.storage tempDir) host v).run w = ((out, t'), w')) :
    ∃ d, Prepared base v.language.extension t t' w.disk d ∧
      ((∃ e, out = .error e ∧ w'.disk = d ∧
          (t' = { t with root := t'.root } ∨ t' = { t.count with root := t'.root })) ∨
        ∃ root path written, t'.root = some root ∧
          path = pathIn root v.language.extension (t.fileName v.language.extension) ∧
          t' = { t.count with root := t'.root } ∧
          d.write path (v.language.fixed v.content) = .ok written ∧
          ((∃ e, out = .error e ∧ w'.disk = written.erase (Path.place path)) ∨
            ∃ uri, Url.ofFilePath? path = some uri ∧ out = .ok ⟨uri, true⟩ ∧ w'.disk = written)) := by
  rcases hplace : (t.place (World.storage tempDir) v).run w with ⟨⟨e | path, t₁⟩, w₁⟩
  · rw [acquire_of_error hplace] at h
    obtain ⟨hout, rfl⟩ := Prod.mk.inj h
    obtain ⟨rfl, rfl⟩ := Prod.mk.inj hout
    obtain ⟨_, d, hprepared, ⟨_, _, hdisk, hfiles⟩ | ⟨_, _, _, ⟨⟩, _⟩⟩ := run_place ht hbase hplace
    exact ⟨d, hprepared, .inl ⟨e, rfl, hdisk, hfiles⟩⟩
  · obtain ⟨_, d, hprepared, ⟨_, ⟨⟩, _⟩ | ⟨root, _, hroot, hok, hpath, hfiles, hwrite⟩⟩ :=
      run_place ht hbase hplace
    obtain rfl := Except.ok.inj hok
    have habsolute : Path.isAbsolute path = true := by
      rw [hpath]
      exact isAbsolute_join (isAbsolute_join (hprepared.settled root hroot).isAbsolute _) _
    obtain ⟨uri, huri⟩ := exists_uri_of_isAbsolute habsolute
    have hdisk := hopens uri w₁
    rcases hopen : (host.openDocument uri).run w₁ with ⟨e | _, w₂⟩
    · rw [acquire_of_not_opened hplace huri hopen] at h
      rw [hopen] at hdisk
      have hremove := (Disk.write_eq_ok hwrite).1.removeFile
      rw [← hdisk] at hremove
      rw [World.run_removeFile_ok hremove] at h
      obtain ⟨hout, rfl⟩ := Prod.mk.inj h
      obtain ⟨rfl, rfl⟩ := Prod.mk.inj hout
      refine ⟨d, hprepared, .inr ⟨root, path, w₁.disk, hroot, hpath, hfiles, hwrite, .inl ⟨e, rfl, ?_⟩⟩⟩
      exact congrArg (·.erase (Path.place path)) hdisk
    · rw [acquire_of_opened hplace huri hopen] at h
      rw [hopen] at hdisk
      obtain ⟨hout, rfl⟩ := Prod.mk.inj h
      obtain ⟨rfl, rfl⟩ := Prod.mk.inj hout
      exact ⟨d, hprepared, .inr ⟨root, path, w₁.disk, hroot, hpath, hfiles, hwrite,
        .inr ⟨uri, huri, rfl, hdisk⟩⟩⟩

end

end TempFiles

end Polyglot
