import Polyglot.Proofs.Delivery.Placing
import Polyglot.Proofs.Delivery.Record

/-! What a failed acquisition leaves. Whatever the disk and wherever the directory of all files is now,
each stage that fails leaves directories at most: before the file is written there is nothing else to
leave, a failed write changes nothing, and a file that the host does not open is removed again. -/

namespace Polyglot

open Polyglot.Path (OnWay components)

/-! ### Directories that are there -/

namespace Disk

variable {d d' : Disk} {segments : List String}

/-- A path names a directory. -/
def HasDirectory (d : Disk) (path : String) : Prop :=
  isValid path = true ∧ d.isDirectory (Path.segments path) = true

theorem isDirectory_iff : d.isDirectory segments = true ↔ ∃ place, d.walk [] segments = .ok place := by
  rw [isDirectory]
  cases d.walk [] segments <;> simp [Except.isOk, Except.toBool]

/-- Directories stand in directories. -/
theorem isDirectory_front {front : List String} (h : d.isDirectory segments = true)
    (hfront : front <+: segments.filter Path.counts) : d.isDirectory front = true := by
  rw [isDirectory_iff] at h ⊢
  obtain ⟨place, hplace⟩ := h
  obtain ⟨rest, hrest⟩ := hfront
  rw [← walk_filter_counts_eq_ok_iff, ← hrest, walk_append_eq_ok_iff] at hplace
  obtain ⟨reached, hreached, -⟩ := hplace
  exact ⟨reached, hreached⟩

theorem ensureDirectory_eq_ok_iff (d : Disk) (segments : List String) :
    (d.ensureDirectory segments).1 = .ok () ↔
      (d.ensureDirectory segments).2.isDirectory segments = true := by
  unfold ensureDirectory
  split
  · rename_i hmade
    simp only [true_iff]
    exact isDirectory_iff.mpr ⟨_, walk_of_makeDirectory hmade⟩
  · split <;> simp_all

/-- A directory and those above it are made exactly if the directory is there afterwards. -/
theorem makeAll_eq_ok_iff (d : Disk) (segments outer : List String)
    (houter : outer.reverse <+: segments.filter Path.counts) :
    (d.makeAll segments outer).1 = .ok () ↔
      (d.makeAll segments outer).2.isDirectory segments = true := by
  induction outer generalizing d segments with
  | nil => exact ensureDirectory_eq_ok_iff d segments
  | cons s outer ih =>
    unfold makeAll
    split
    · -- the parent is made first; its components count, so they are all its segments
      have hcounts : (s :: outer).reverse.filter Path.counts = (s :: outer).reverse := by
        rw [List.filter_eq_self]
        intro name hname
        exact (List.mem_filter.mp (houter.subset hname)).2
      have hparent := ih d (s :: outer).reverse (by
        rw [hcounts, List.reverse_cons]
        exact List.prefix_append _ _)
      split
      · exact ensureDirectory_eq_ok_iff _ segments
      · rename_i heq
        rw [heq] at hparent
        simp only [reduceCtorEq, false_iff] at hparent ⊢
        exact fun hdirectory => hparent (isDirectory_front hdirectory houter)
    · exact ensureDirectory_eq_ok_iff d segments

theorem createDirs_eq_ok_iff (d : Disk) (path : String) :
    (d.createDirs path).1 = .ok () ↔ (d.createDirs path).2.HasDirectory path := by
  unfold createDirs HasDirectory
  split
  · rename_i hvalid
    rw [makeAll_eq_ok_iff]
    · simp [hvalid]
    · rw [List.reverse_reverse]
      exact List.dropLast_prefix _
  · simp_all

theorem hasDirectory_of_join {root extension : String} (hextension : Path.IsSegment extension)
    (h : d.HasDirectory (Path.join root extension)) : d.HasDirectory root := by
  obtain ⟨hvalid, hdirectory⟩ := h
  have habsolute := Path.isAbsolute_of_isSegment hextension
  constructor
  · simp only [isValid, Bool.not_eq_true', List.contains_eq_mem, decide_eq_false_iff_not] at hvalid ⊢
    intro hnul
    refine hvalid ?_
    rw [Path.join, habsolute]
    split
    · contradiction
    · split <;> simp [hnul]
  · rw [isDirectory_iff]
    have hcomponents : d.isDirectory (components root) = true := by
      refine isDirectory_front hdirectory ?_
      rw [← Path.components_eq_filter, Path.components_join_of_isSegment hextension]
      exact List.prefix_append _ _
    obtain ⟨place, hplace⟩ := isDirectory_iff.mp hcomponents
    exact ⟨place, walk_filter_counts_eq_ok_iff.mp hplace⟩

end Disk

namespace TempFiles

/-- The directory of all files and that of an extension are there. -/
def Housed (extension : String) (t : TempFiles) (d : Disk) : Prop :=
  ∃ root, t.root = some root ∧ d.HasDirectory root ∧ d.HasDirectory (Path.join root extension)

/-- A place is on the way to the directory that was asked for, or to that of an extension. -/
def Approaches (extension : String) (t : TempFiles) (place : List String) : Prop :=
  t.Asked place ∨ ∃ root, t.root = some root ∧ OnWay (Path.join root extension) place

/-- Directories are added on the way to files with an extension, and the host is left alone. -/
structure Adds {η : Type} (extension : String) (t : TempFiles) (w w' : World η) : Prop where
  host : w'.host = w.host
  grows : w.disk.Grows (t.Approaches extension) w'.disk

section
variable {η : Type} {tempDir base extension : String} {t t' : TempFiles} {w w' w'' : World η}

theorem adds_refl (extension : String) (t : TempFiles) (w : World η) : Adds extension t w w :=
  ⟨rfl, Disk.grows_refl _⟩

theorem Adds.trans (h : Adds extension t w w') (h' : Adds extension t w' w'') :
    Adds extension t w w'' :=
  ⟨h'.host.trans h.host, h.grows.trans h'.grows⟩

theorem Adds.count (h : Adds extension t w w') : Adds extension t.count w w' := by
  unfold TempFiles.count
  split <;> exact ⟨h.host, h.grows⟩

/-! ### Stage by stage -/

theorem makeRoot_adds {out : Except Error String} (hextension : Path.IsSegment extension)
    (h : (t.makeRoot (World.storage tempDir) base).run w = ((out, t'), w')) :
    Adds extension t' w w' ∧
      ((∃ cause, out = .error (.createTempDir base cause) ∧ t' = t) ∨
        ∃ root, out = .ok root ∧ t' = { t with root := some root }) := by
  rcases hfresh : w.disk.createFresh base rootFront with ⟨e | root, d⟩
  · obtain rfl := Disk.createFresh_eq_error hfresh
    rw [makeRoot, run_bind, World.run_createFresh hfresh] at h
    obtain ⟨hout, rfl⟩ := Prod.mk.inj h
    obtain ⟨rfl, rfl⟩ := Prod.mk.inj hout
    exact ⟨adds_refl extension _ w, .inl ⟨_, rfl, rfl⟩⟩
  · rw [makeRoot, run_bind, World.run_createFresh hfresh] at h
    obtain ⟨hout, rfl⟩ := Prod.mk.inj h
    obtain ⟨rfl, rfl⟩ := Prod.mk.inj hout
    obtain ⟨-, -, hgrows, -⟩ := Disk.createFresh_eq_ok hfresh
    refine ⟨⟨rfl, hgrows.mono ?_⟩, .inr ⟨root, rfl, rfl⟩⟩
    rintro _ rfl
    refine .inr ⟨root, rfl, components root, ?_, rfl⟩
    rw [Path.components_join_of_isSegment hextension]
    exact List.prefix_append _ _

/-- The directory of all files is there, is made, or cannot be made. -/
theorem ensureRoot_adds {out : Except Error String} (hextension : Path.IsSegment extension)
    (h : (t.ensureRoot (World.storage tempDir)).run w = ((out, t'), w')) :
    Adds extension t' w w' ∧
      ((∃ path cause, out = .error (.createTempDir path cause) ∧ t' = t ∧ t.root = none) ∨
        ∃ root, out = .ok root ∧ t' = { t with root := some root }) := by
  cases hroot : t.root with
  | some root =>
    rw [ensureRoot_of_root _ hroot] at h
    obtain ⟨hout, rfl⟩ := Prod.mk.inj h
    obtain ⟨rfl, rfl⟩ := Prod.mk.inj hout
    refine ⟨adds_refl extension _ w, .inr ⟨root, rfl, ?_⟩⟩
    rw [← hroot]
  | none =>
    obtain hparent | ⟨parent, hparent⟩ := Option.eq_none_or_eq_some t.parent
    · rw [ensureRoot_of_no_parent _ hroot hparent] at h
      obtain ⟨hadds, ⟨cause, hout, hfiles⟩ | hmade⟩ := makeRoot_adds hextension h
      · exact ⟨hadds, .inl ⟨_, cause, hout, hfiles, rfl⟩⟩
      · exact ⟨hadds, .inr hmade⟩
    · rw [ensureRoot_of_parent _ hroot hparent, run_bind] at h
      have hgrows := w.disk.grows_createDirs parent
      rcases hdirs : w.disk.createDirs parent with ⟨e | _, d⟩
      · rw [World.run_createDirs hdirs] at h
        rw [hdirs] at hgrows
        obtain ⟨hout, rfl⟩ := Prod.mk.inj h
        obtain ⟨rfl, rfl⟩ := Prod.mk.inj hout
        exact ⟨⟨rfl, hgrows.mono fun _ hway => .inl ⟨parent, hparent, hway⟩⟩,
          .inl ⟨_, _, rfl, rfl, rfl⟩⟩
      · rw [World.run_createDirs hdirs] at h
        rw [hdirs] at hgrows
        obtain ⟨hadds, hmade⟩ := makeRoot_adds hextension h
        have hparent' : t'.parent = some parent := by
          obtain ⟨_, _, rfl⟩ | ⟨_, _, rfl⟩ := hmade <;> exact hparent
        have hfirst : Adds extension t' w ⟨d, w.host⟩ :=
          ⟨rfl, hgrows.mono fun _ hway => .inl ⟨parent, hparent', hway⟩⟩
        refine ⟨hfirst.trans hadds, ?_⟩
        obtain ⟨cause, hout, hfiles⟩ | hmade := hmade
        · exact .inl ⟨_, cause, hout, hfiles, rfl⟩
        · exact .inr hmade

/-- The path of a file is given, and its number used up, exactly if its directories are there. -/
theorem filePath_adds {out : Except Error String} (hextension : Path.IsSegment extension)
    (h : (t.filePath (World.storage tempDir) extension).run w = ((out, t'), w')) :
    Adds extension t' w w' ∧
      ((∃ path cause, out = .error (.createTempDir path cause) ∧ t' = { t with root := t'.root } ∧
          ¬ t'.Housed extension w'.disk) ∨
        ∃ root, out = .ok (pathIn root extension (t.fileName extension)) ∧
          t' = { t.count with root := some root } ∧ t'.Housed extension w'.disk) := by
  rcases hensured : (t.ensureRoot (World.storage tempDir)).run w with ⟨⟨out₁, t₁⟩, w₁⟩
  rw [filePath, run_bind, hensured] at h
  obtain ⟨hadds, ⟨path, cause, rfl, rfl, hnone⟩ | ⟨root, rfl, hfiles⟩⟩ :=
    ensureRoot_adds hextension hensured
  · obtain ⟨hout, rfl⟩ := Prod.mk.inj h
    obtain ⟨rfl, rfl⟩ := Prod.mk.inj hout
    refine ⟨hadds, .inl ⟨path, cause, rfl, rfl, ?_⟩⟩
    rintro ⟨root, hroot, -⟩
    cases hnone.symm.trans hroot
  · have hroot : t₁.root = some root := by rw [hfiles]
    have hname : t₁.fileName extension = t.fileName extension := by rw [hfiles]; rfl
    have hgrows := w₁.disk.grows_createDirs (Path.join root extension)
    have hmade := w₁.disk.createDirs_eq_ok_iff (Path.join root extension)
    dsimp only at h
    rw [run_bind] at h
    rcases hdirs : w₁.disk.createDirs (Path.join root extension) with ⟨e | _, d⟩
    all_goals
      rw [World.run_createDirs hdirs] at h
      rw [hdirs] at hgrows hmade
      obtain ⟨hout, rfl⟩ := Prod.mk.inj h
      obtain ⟨rfl, rfl⟩ := Prod.mk.inj hout
      have hsecond : Adds extension t₁ w₁ ⟨d, w₁.host⟩ :=
        ⟨rfl, hgrows.mono fun _ hway => .inr ⟨root, hroot, hway⟩⟩
    · refine ⟨hadds.trans hsecond, .inl ⟨_, _, rfl, ?_, ?_⟩⟩
      · rw [hfiles]
      · rintro ⟨root', hroot', -, hdirectory⟩
        obtain rfl := Option.some.inj (hroot.symm.trans hroot')
        cases hmade.mpr hdirectory
    · refine ⟨(hadds.trans hsecond).count, .inr ⟨root, ?_, ?_, root, ?_, ?_, hmade.mp rfl⟩⟩
      · rw [pathIn, hname]
      · rw [hfiles]
        exact count_withRoot t (some root)
      · exact (root_count t₁).trans hroot
      · exact Disk.hasDirectory_of_join hextension (hmade.mp rfl)

/-- A file is placed in directories that are there, or not at all. -/
theorem place_adds {out : Except Error String} {v : VirtualDocument}
    (hextension : Path.IsSegment v.language.extension)
    (h : (t.place (World.storage tempDir) v).run w = ((out, t'), w')) :
    ∃ d, Adds v.language.extension t' w ⟨d, w.host⟩ ∧ w'.host = w.host ∧
      ((∃ path cause, out = .error (.createTempDir path cause) ∧ w'.disk = d ∧
          t' = { t with root := t'.root } ∧ ¬ t'.Housed v.language.extension d) ∨
        ∃ root, t' = { t.count with root := some root } ∧ t'.Housed v.language.extension d ∧
          let path := pathIn root v.language.extension (t.fileName v.language.extension)
          ((∃ cause, out = .error (.writeVirtualDocument path cause) ∧ w'.disk = d) ∨
            (out = .ok path ∧ d.write path (v.language.fixed v.content) = .ok w'.disk))) := by
  rcases hpath : (t.filePath (World.storage tempDir) v.language.extension).run w with ⟨⟨out₁, t₁⟩, w₁⟩
  rw [place, run_bind, hpath] at h
  obtain ⟨⟨hhost, hgrows⟩, ⟨path, cause, rfl, hfiles, hhoused⟩ | ⟨root, rfl, hfiles, hhoused⟩⟩ :=
    filePath_adds hextension hpath
  · obtain ⟨hout, rfl⟩ := Prod.mk.inj h
    obtain ⟨rfl, rfl⟩ := Prod.mk.inj hout
    exact ⟨w₁.disk, ⟨rfl, hgrows⟩, hhost, .inl ⟨path, cause, rfl, rfl, hfiles, hhoused⟩⟩
  · dsimp only at h
    rw [run_bind] at h
    cases hwrite : w₁.disk.write (pathIn root v.language.extension (t.fileName v.language.extension))
        (v.language.fixed v.content) with
    | error e =>
      rw [World.run_write_error hwrite] at h
      obtain ⟨hout, rfl⟩ := Prod.mk.inj h
      obtain ⟨rfl, rfl⟩ := Prod.mk.inj hout
      exact ⟨w₁.disk, ⟨rfl, hgrows⟩, hhost, .inr ⟨root, hfiles, hhoused, .inl ⟨_, rfl, rfl⟩⟩⟩
    | ok d =>
      rw [World.run_write_ok hwrite] at h
      obtain ⟨hout, rfl⟩ := Prod.mk.inj h
      obtain ⟨rfl, rfl⟩ := Prod.mk.inj hout
      exact ⟨w₁.disk, ⟨rfl, hgrows⟩, hhost, .inr ⟨root, hfiles, hhoused, .inr ⟨rfl, hwrite⟩⟩⟩

/-! ### Numbers -/

/-- Nothing changes but the directory and the number, and that goes up by one exactly if files have
numbers and the directories of the next one are there. -/
structure Counts (extension : String) (t t' : TempFiles) (d : Disk) : Prop where
  files : t' = { t with root := t'.root, nextRequest := t'.nextRequest }
  iff : t'.nextRequest = t.nextRequest + 1 ↔ t.naming = .perRequest ∧ t'.Housed extension d
  otherwise : t'.nextRequest ≠ t.nextRequest + 1 → t'.nextRequest = t.nextRequest

theorem ne_add_one (n : UInt64) : n ≠ n + 1 := by
  intro h
  have hlt := n.toNat_lt
  have hnat := congrArg UInt64.toNat h
  simp only [UInt64.toNat_add, UInt64.toNat_one] at hnat
  omega

theorem counts_of_not_housed {d : Disk} (hfiles : t' = { t with root := t'.root })
    (h : ¬ t'.Housed extension d) : Counts extension t t' d := by
  have hnext : t'.nextRequest = t.nextRequest := by rw [hfiles]
  refine ⟨by rw [hnext]; exact hfiles, ?_, fun _ => hnext⟩
  rw [hnext]
  exact ⟨fun heq => absurd heq (ne_add_one _), fun hboth => absurd hboth.2 h⟩

theorem counts_of_housed {d : Disk} {root : String} (hfiles : t' = { t.count with root := some root })
    (h : t'.Housed extension d) : Counts extension t t' d := by
  unfold count at hfiles
  split at hfiles
  · rename_i hnaming
    subst hfiles
    refine ⟨rfl, ⟨fun heq => absurd heq (ne_add_one _), fun hboth => ?_⟩, fun _ => rfl⟩
    cases hnaming.symm.trans hboth.1
  · rename_i hnaming
    subst hfiles
    exact ⟨rfl, ⟨fun _ => ⟨hnaming, h⟩, fun _ => rfl⟩, fun hne => absurd rfl hne⟩

/-! ### Files that are not opened -/

/-- A world is as a host left it, but for the file at a path: that is gone, unless the host did away
with directories after the file was written. -/
structure TakenBack (path : String) (written : Disk) (left w : World η) : Prop where
  host : w.host = left.host
  elsewhere : ∀ place, place ≠ Path.place path → w.disk.entry? place = left.disk.entry? place
  gone : written.KeepsDirectories left.disk → w.disk.file? (Path.place path) = none

theorem takenBack_removeFile (tempDir : String) {path content : String} {written : Disk}
    (h : written.Holds path content) (left : World η) :
    TakenBack path written left (((World.storage tempDir).removeFile path).run left).2 := by
  cases hremove : left.disk.removeFile path with
  | ok d =>
    rw [World.run_removeFile_ok hremove]
    obtain ⟨_, hholds, rfl⟩ := Disk.removeFile_eq_ok hremove
    refine ⟨rfl, ?_, ?_⟩
    · intro place hplace
      rw [Disk.entry?_erase _ hholds.ne_nil, if_neg hplace]
    · intro _
      rw [Disk.file?_erase _ hholds.ne_nil, if_pos rfl]
  | error e =>
    rw [World.run_removeFile_error hremove]
    refine ⟨rfl, fun _ _ => rfl, ?_⟩
    intro hkeeps
    cases hfile : left.disk.file? (Path.place path) with
    | none => rfl
    | some found =>
      -- the way to a file that is still there was kept, so it would have been removed
      have hholds : left.disk.Holds path found :=
        ⟨h.isValid, Disk.locate_of_keepsDirectories hkeeps h.locate,
          (Disk.file?_eq_some_iff ..).mp hfile⟩
      cases hholds.removeFile.symm.trans hremove

/-- A file that is written and taken back leaves the other entries as they were. -/
theorem TakenBack.entry? {path content : String} {d written : Disk} {left : World η}
    (h : TakenBack path written left w) (hwrite : d.write path content = .ok written)
    (hleft : left.disk = written) {place : List String} (hplace : place ≠ Path.place path) :
    w.disk.entry? place = d.entry? place := by
  rw [h.elsewhere place hplace, hleft, Disk.entry?_write_of_ne hwrite hplace]

theorem TakenBack.file? {path content : String} {d written : Disk} {left : World η}
    (h : TakenBack path written left w) (hwrite : d.write path content = .ok written)
    (hleft : left.disk = written) (place : List String) :
    w.disk.file? place = if place = Path.place path then none else d.file? place := by
  split
  · rename_i hplace
    rw [hplace]
    exact h.gone fun _ hentry => hleft ▸ hentry
  · rename_i hplace
    exact Disk.file?_congr (h.entry? hwrite hleft hplace)

end

end TempFiles

theorem World.rooted_storage {η : Type} (tempDir : String) :
    (World.storage tempDir : Storage (StateM (World η))).Rooted := by
  intro parent front w root hroot
  rcases hfresh : w.disk.createFresh parent front with ⟨e | made, d⟩
  · rw [World.run_createFresh hfresh] at hroot
    cases hroot
  · rw [World.run_createFresh hfresh] at hroot
    obtain rfl := Except.ok.inj hroot
    obtain ⟨⟨n, rfl⟩, -⟩ := Disk.createFresh_eq_ok hfresh
    exact isAbsolute_join (isAbsolute_join rfl parent) _

namespace TempFiles

/-! ### Failures -/

/-- An acquisition fails because its file is not placed, or because the host does not open it. -/
theorem acquire_error_cases {σ : Type} {storage : Storage (StateM σ)} {host : Host (StateM σ)}
    {t t' : TempFiles} {v : VirtualDocument} {w w' : σ} {e : Error} (hstorage : storage.Rooted)
    (hroot : t.Rooted) (h : (t.acquire storage host v).run w = ((.error e, t'), w')) :
    ((t.place storage v).run w = ((.error e, t'), w') ∧
      (t.acquire storage.unrecorded host.recorded v).run (w, []) = ((.error e, t'), (w', []))) ∨
    ∃ path uri w₁ left, (t.place storage v).run w = ((.ok path, t'), w₁) ∧
      Url.ofFilePath? path = some uri ∧ (host.openDocument uri).run w₁ = (.error e, left) ∧
      w' = ((storage.removeFile path).run left).2 ∧
      (t.acquire storage.unrecorded host.recorded v).run (w, []) =
        ((.error e, t'), (w', [.opened uri])) := by
  rcases hplace : (t.place storage v).run w with ⟨⟨e₁ | path, t₁⟩, w₁⟩
  · have hrecord : (t.place storage.unrecorded v).run (w, []) = ((.error e₁, t₁), (w₁, [])) := by
      rw [place_unrecorded, run_unnoted, hplace]
    rw [acquire_of_error hplace] at h
    obtain ⟨hout, rfl⟩ := Prod.mk.inj h
    obtain ⟨⟨⟩, rfl⟩ := Prod.mk.inj hout
    exact .inl ⟨rfl, acquire_of_error hrecord⟩
  · have hrecord : (t.place storage.unrecorded v).run (w, []) = ((.ok path, t₁), (w₁, [])) := by
      rw [place_unrecorded, run_unnoted, hplace]
    obtain ⟨uri, huri⟩ := exists_uri_of_isAbsolute
      ((place_rooted hstorage hroot v w).2 path (by rw [hplace]))
    rcases hopen : (host.openDocument uri).run w₁ with ⟨e₂ | _, left⟩
    · have hnoted : (host.recorded.openDocument uri).run (w₁, []) =
          (.error e₂, (left, [.opened uri])) := by
        rw [Host.recorded, run_noted, hopen, List.nil_append]
      rw [acquire_of_not_opened hplace huri hopen] at h
      obtain ⟨hout, rfl⟩ := Prod.mk.inj h
      obtain ⟨⟨⟩, rfl⟩ := Prod.mk.inj hout
      refine .inr ⟨path, uri, w₁, left, rfl, huri, hopen, rfl, ?_⟩
      rw [acquire_of_not_opened hrecord huri hnoted, Storage.unrecorded, run_unnoted]
    · rw [acquire_of_opened hplace huri hopen] at h
      cases (Prod.mk.inj (Prod.mk.inj h).1).1

/-- A failed acquisition leaves directories at most. If the directories or the file cannot be made, the
host is not asked and all files are as before; if the host does not open the file, it was asked once,
and what it left is left, less that file. A number is used up exactly if there are numbers and the
directories are there. -/
theorem failed_acquire_leaves_directories {η : Type} {tempDir : String}
    {host : Host (StateM (World η))} {t t' : TempFiles} {v : VirtualDocument} {w w' : World η}
    {e : Error} (hroot : t.Rooted) (hextension : Path.IsSegment v.language.extension)
    (h : (t.acquire (World.storage tempDir) host v).run w = ((.error e, t'), w')) :
    ∃ calls d,
      (t.acquire (World.storage tempDir).unrecorded host.recorded v).run (w, []) =
        ((.error e, t'), (w', calls)) ∧
      w.disk.Grows (t'.Approaches v.language.extension) d ∧
      Counts v.language.extension t t' d ∧
      ((calls = [] ∧ w' = ⟨d, w.host⟩ ∧ (∀ place, w'.disk.file? place = w.disk.file? place) ∧
          ((∃ path cause, e = .createTempDir path cause) ∨
            ∃ path cause, e = .writeVirtualDocument path cause)) ∨
        ∃ root uri written left,
          let path := pathIn root v.language.extension (t.fileName v.language.extension)
          t'.root = some root ∧ Url.ofFilePath? path = some uri ∧ calls = [.opened uri] ∧
          d.write path (v.language.fixed v.content) = .ok written ∧
          (host.openDocument uri).run ⟨written, w.host⟩ = (.error e, left) ∧
          TakenBack path written left w' ∧
          (left.disk = written → ∀ place,
            (place ≠ Path.place path → w'.disk.entry? place = d.entry? place) ∧
            w'.disk.file? place =
              if place = Path.place path then none else w.disk.file? place)) := by
  obtain ⟨hplace, hrecord⟩ | ⟨path, uri, w₁, left, hplace, huri, hopen, rfl, hrecord⟩ :=
    acquire_error_cases (World.rooted_storage tempDir) hroot h
  · obtain ⟨d, hadds, hhost, hcases⟩ := place_adds hextension hplace
    have hsame : w'.disk = d → w' = ⟨d, w.host⟩ ∧
        ∀ place, w'.disk.file? place = w.disk.file? place := by
      rintro rfl
      exact ⟨by rw [← hhost], hadds.grows.file?⟩
    obtain ⟨path, cause, hout, hdisk, hfiles, hhoused⟩ |
      ⟨root, hfiles, hhoused, ⟨cause, hout, hdisk⟩ | ⟨⟨⟩, _⟩⟩ := hcases
    · obtain ⟨hw, hunchanged⟩ := hsame hdisk
      exact ⟨[], d, hrecord, hadds.grows, counts_of_not_housed hfiles hhoused,
        .inl ⟨rfl, hw, hunchanged, .inl ⟨path, cause, Except.error.inj hout⟩⟩⟩
    · obtain ⟨hw, hunchanged⟩ := hsame hdisk
      exact ⟨[], d, hrecord, hadds.grows, counts_of_housed hfiles hhoused,
        .inl ⟨rfl, hw, hunchanged, .inr ⟨_, cause, Except.error.inj hout⟩⟩⟩
  · obtain ⟨d, hadds, hhost, ⟨_, _, ⟨⟩, _⟩ |
      ⟨root, hfiles, hhoused, ⟨_, ⟨⟩, _⟩ | ⟨hout, hwrite⟩⟩⟩ := place_adds hextension hplace
    obtain rfl := Except.ok.inj hout
    have htaken := takenBack_removeFile tempDir (Disk.write_eq_ok hwrite).1 left
    refine ⟨_, d, hrecord, hadds.grows, counts_of_housed hfiles hhoused,
      .inr ⟨root, uri, w₁.disk, left, ?_, huri, rfl, hwrite, ?_, htaken, ?_⟩⟩
    · rw [hfiles]
    · rw [← hhost]
      exact hopen
    · intro hleft place
      refine ⟨htaken.entry? hwrite hleft, ?_⟩
      rw [htaken.file? hwrite hleft, hadds.grows.file?]

end TempFiles

namespace Refusing

def files : TempFiles where
  naming := .perRequest
  root := some "/tmp/quarto-vdoc-0"
  nextRequest := 7

def document : VirtualDocument := ⟨.plain "r" "r" [] [] .all, "\nx\n"⟩

def file : String := "file:///tmp/quarto-vdoc-0/r/intellisense-7.r"

/-- The place of the next file, where there is one already. -/
def place : List String := ["tmp", "quarto-vdoc-0", "r", "intellisense-7.r"]

def world : World Unit where
  disk := { entries := [
    (["tmp"], .directory), (["tmp", "kept"], .file "k"), (["tmp", "quarto-vdoc-0"], .directory),
    (["tmp", "quarto-vdoc-0", "r"], .directory), (place, .file "old")] }
  host := ()

def host : Host (StateM (World Unit)) where
  openDocument uri := pure (.error (.openDocument uri "no service"))
  execute _ _ := pure .crashed
  deleteFile _ := pure (.ok ())

theorem failed_acquire_leaves_directories_refused :
    files.Rooted ∧ Path.IsSegment document.language.extension ∧
      ∃ files' world', (files.acquire (World.storage "/tmp") host document).run world =
          ((.error (.openDocument file "no service"), files'), world') ∧
        files'.nextRequest = 8 ∧
        (files.acquire (World.storage "/tmp").unrecorded host.recorded document).run (world, []) =
          ((.error (.openDocument file "no service"), files'), (world', [.opened file])) ∧
        ∀ q, world'.disk.file? q = if q = place then none else world.disk.file? q := by
  have hroot : files.Rooted := by
    rintro _ ⟨⟩
    rfl
  have hextension : Path.IsSegment document.language.extension := by decide
  obtain ⟨files', world', h, hfiles, hnext⟩ : ∃ files' world',
      (files.acquire (World.storage "/tmp") host document).run world =
        ((.error (.openDocument file "no service"), files'), world') ∧
      files'.root = some "/tmp/quarto-vdoc-0" ∧ files'.nextRequest = 8 := by
    refine ⟨_, _, Prod.ext (Prod.ext ?_ rfl) rfl, ?_, ?_⟩ <;> decide +kernel
  obtain ⟨calls, d, hrecord, -, -, ⟨-, -, -, ⟨_, _, ⟨⟩⟩ | ⟨_, _, ⟨⟩⟩⟩ |
    ⟨root, uri, written, left, hroot', huri, rfl, -, hopen, -, hback⟩⟩ :=
    TempFiles.failed_acquire_leaves_directories hroot hextension h
  obtain rfl := Option.some.inj (hfiles.symm.trans hroot')
  obtain ⟨huri', rfl⟩ := Prod.mk.inj hopen
  obtain rfl : uri = file := (Error.openDocument.inj (Except.error.inj huri')).1
  exact ⟨hroot, hextension, files', world', h, hnext, hrecord, fun q => (hback rfl q).2⟩

end Refusing

end Polyglot
