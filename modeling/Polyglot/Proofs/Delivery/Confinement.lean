import Mathlib.Data.List.Infix
import Polyglot.Proofs.Delivery.Ledger
import Polyglot.Router

/-! Files stay inside a directory of their own as long as no extension leads out of it. An extension is
part of a path as it is: one that goes back, or starts at the root, makes directories and files
anywhere, and they stay there when all is removed. -/

namespace Polyglot

namespace Path

/-! ### Paths that do not climb -/

/-- A path that goes on from where it starts, and back no further. -/
def Confined (path : String) : Prop :=
  isAbsolute path = false ∧
    ∀ front ∈ (components path).inits, 2 * front.count ".." ≤ front.length

instance (path : String) : Decidable (Confined path) := inferInstanceAs (Decidable (_ ∧ _))

/-- Names and steps back that are in balance lead back to where they start, or below. -/
theorem prefix_resolve {base extra names : List String} (hcounts : ∀ s ∈ names, counts s = true)
    (h : ∀ front, front <+: names → 2 * front.count ".." ≤ front.length + extra.length) :
    base <+: resolve (base ++ extra) names := by
  induction names generalizing extra with
  | nil => exact List.prefix_append base extra
  | cons s names ih =>
    rw [List.forall_mem_cons] at hcounts
    change base <+: resolve (follow (base ++ extra) s) names
    have hcons : ∀ front, front <+: names →
        2 * (s :: front).count ".." ≤ front.length + 1 + extra.length :=
      fun front hfront => h (s :: front) (List.cons_prefix_cons.mpr ⟨rfl, hfront⟩)
    by_cases hdots : s = ".."
    · subst hdots
      have hextra : 0 < extra.length := by
        have hfirst := hcons [] List.nil_prefix
        simp only [List.count_cons_self, List.count_nil, List.length_nil] at hfirst
        omega
      have hne : extra ≠ [] := List.ne_nil_of_length_pos hextra
      have hfollow : follow (base ++ extra) ".." = base ++ extra.dropLast :=
        List.dropLast_append_of_ne_nil hne
      rw [hfollow]
      refine ih hcounts.2 fun front hfront => ?_
      have hbalance := hcons front hfront
      rw [List.count_cons_self] at hbalance
      rw [List.length_dropLast]
      omega
    · rw [follow_of_isName ⟨hcounts.1, hdots⟩, List.append_assoc]
      refine ih hcounts.2 fun front hfront => ?_
      have hbalance := hcons front hfront
      rw [List.count_cons_of_ne hdots] at hbalance
      rw [List.length_append, List.length_singleton]
      omega

/-- A path that does not climb stays below its base all along. -/
theorem Confined.prefix_resolve {path : String} (h : Confined path) (base : List String)
    {front : List String} (hfront : front <+: components path) : base <+: resolve base front := by
  have hresolve : base <+: resolve (base ++ []) front := by
    refine Path.prefix_resolve (fun s hs => (mem_components (hfront.subset hs)).1) ?_
    exact fun front' hfront' => h.2 front' ((List.mem_inits _ _).mpr (hfront'.trans hfront))
  rwa [List.append_nil] at hresolve

/-- A path that starts with a name of its own climbs no further than the rest of it. -/
theorem confined_append {stem path : String} (hstem : '/' ∉ stem.toList) (hlength : 2 < stem.length)
    (h : Confined path) : Confined (stem ++ path) := by
  have hne : ∀ s : String, s.length ≤ 2 → ∀ back, stem ++ back ≠ s := by
    rintro s hs back rfl
    rw [String.length_append] at hs
    omega
  obtain ⟨first, rest, hpath⟩ := List.exists_cons_of_ne_nil (List.splitOn_ne_nil '/' path.toList)
  have hjoined := Text.splitOn_append_of_not_mem hstem path.toList
  rw [hpath, List.modifyHead_cons] at hjoined
  have hcomponents : components (stem ++ path) =
      (stem ++ String.ofList first) :: (rest.map String.ofList).filter counts := by
    have hcounts : counts (stem ++ String.ofList first) = true := by
      rw [counts, Bool.and_eq_true, Bool.not_eq_true', String.isEmpty_eq_false_iff, bne_iff_ne]
      exact ⟨hne _ (by decide) _, hne _ (by decide) _⟩
    have hofList : String.ofList (stem.toList ++ first) = stem ++ String.ofList first := by
      rw [String.ofList_append, String.ofList_toList]
    rw [components_eq_filter, segments, String.toList_append, hjoined, List.map_cons, hofList,
      List.filter_cons_of_pos hcounts]
  have hback : components path =
      [String.ofList first].filter counts ++ (rest.map String.ofList).filter counts := by
    rw [components_eq_filter, segments, hpath, ← List.filter_append]
    rfl
  refine ⟨?_, ?_⟩
  · obtain ⟨c, cs, hcs⟩ := List.exists_cons_of_length_pos (show 0 < stem.toList.length by
      rw [String.length_toList]
      omega)
    rw [isAbsolute, String.toList_append, hcs, List.cons_append, List.head?_cons,
      beq_eq_false_iff_ne]
    rintro ⟨⟩
    exact hstem (hcs ▸ List.mem_cons_self)
  · intro front hfront
    rw [List.mem_inits, hcomponents, List.prefix_cons_iff] at hfront
    obtain rfl | ⟨front', rfl, hfront'⟩ := hfront
    · exact Nat.le_refl 0
    · have hbalance := h.2 ([String.ofList first].filter counts ++ front') (by
        rw [List.mem_inits, hback]
        exact (List.prefix_append_right_inj _).mpr hfront')
      have hlength : ([String.ofList first].filter counts).length ≤ 1 := List.length_filter_le _ _
      rw [List.count_append, List.length_append] at hbalance
      rw [List.count_cons_of_ne (hne ".." (by decide) _), List.length_cons]
      omega

end Path

namespace TempFiles

theorem confined_fileName (t : TempFiles) {extension : String} (h : Path.Confined extension) :
    Path.Confined (t.fileName extension) := by
  unfold fileName
  cases t.naming with
  | shared =>
    exact Path.confined_append (by decide) (by decide) h
  | perRequest =>
    refine Path.confined_append ?_ ?_ h
    · exact (fits_append (fits_append (fits_append ⟨by decide, by decide⟩ ⟨by decide, by decide⟩)
        (fits_toString _)) ⟨by decide, by decide⟩).1
    · have hstem : fileStem.length = 12 := by decide
      simp only [String.length_append]
      omega

variable {root extension : String}

/-- What is made on the way to the files with an extension is at the directory of all files or
below. -/
theorem place_of_reaches (h : Path.Confined extension) {place : List String}
    (hway : Path.OnWay (Path.join root extension) place) (hroot : ¬ Path.OnWay root place) :
    Path.place root <+: place := by
  obtain ⟨front, hfront, rfl⟩ := hway
  rw [Path.components_join h.1] at hfront
  obtain hshort | ⟨front', rfl⟩ :=
    List.prefix_or_prefix_of_prefix hfront (List.prefix_append _ (Path.components extension))
  · exact absurd ⟨front, hshort, rfl⟩ hroot
  · rw [List.prefix_append_right_inj] at hfront
    rw [Path.resolve_append]
    exact h.prefix_resolve _ hfront

theorem place_pathIn_of_confined (t : TempFiles) (h : Path.Confined extension) :
    Path.place root <+: Path.place (pathIn root extension (t.fileName extension)) := by
  have hname := t.confined_fileName h
  rw [pathIn, Path.place_join hname.1, Path.place_join h.1]
  exact (h.prefix_resolve _ List.prefix_rfl).trans (hname.prefix_resolve _ List.prefix_rfl)

/-! ### What is made -/

/-- At the directory of all files, or below. -/
def Inside (t : TempFiles) (place : List String) : Prop :=
  ∃ root, t.root = some root ∧ Path.place root <+: place

/-- A file is written in the directory of all files, also one that is removed again at once. -/
theorem inside_of_place {η : Type} {tempDir base path : String} {t t' : TempFiles} {w w' : World η}
    (ht : t.Settled base w.disk) (hbase : t.parent.getD tempDir = base) {v : VirtualDocument}
    (hv : Path.Confined v.language.extension)
    (h : (t.place (World.storage tempDir) v).run w = ((.ok path, t'), w')) :
    t'.Inside (Path.place path) := by
  obtain ⟨_, _, _, ⟨_, ⟨⟩, _⟩ | ⟨root, _, hroot, hok, hpath, _⟩⟩ := run_place ht hbase h
  obtain rfl := Except.ok.inj hok
  rw [hpath]
  exact ⟨root, hroot, place_pathIn_of_confined t hv⟩

theorem entry?_of_prepared {base : String} {t t' : TempFiles} {d d' : Disk}
    (h : Path.Confined extension) (hprepared : Prepared base extension t t' d d') (place : List String) :
    d'.entry? place = d.entry? place ∨ (t'.Asked place ∧ d'.entry? place = some .directory) ∨
      t'.Inside place := by
  obtain hsame | ⟨_, hmade, hasked | ⟨root, hroot, rfl | ⟨hway, hnot⟩⟩⟩ := hprepared.grows.entry? place
  · exact .inl hsame
  · exact .inr (.inl ⟨hasked, hmade⟩)
  · exact .inr (.inr ⟨root, hroot, List.prefix_rfl⟩)
  · exact .inr (.inr ⟨root, hroot, place_of_reaches h hway hnot⟩)

/-- Whatever comes of acquiring a file, the disk changes in the directory of all files alone, but for
the directories that lead to it. -/
theorem entry?_of_acquire {η : Type} {tempDir base : String} {host : Host (StateM (World η))}
    (hopens : ∀ uri w, ((host.openDocument uri).run w).2.disk = w.disk) {t t' : TempFiles}
    {w w' : World η} (ht : t.Settled base w.disk) (hbase : t.parent.getD tempDir = base)
    {v : VirtualDocument} (hv : Path.Confined v.language.extension) {out : Except Error Handle}
    (h : (t.acquire (World.storage tempDir) host v).run w = ((out, t'), w')) :
    t'.parent = t.parent ∧ t'.Settled base w'.disk ∧
      (∀ root, t.root = some root → t'.root = some root) ∧
      ∀ place, w'.disk.entry? place = w.disk.entry? place ∨
        (t'.Asked place ∧ w'.disk.entry? place = some .directory) ∨ t'.Inside place := by
  obtain ⟨d, hprepared, hout⟩ := run_acquire hopens ht hbase h
  have hentry := entry?_of_prepared hv hprepared
  obtain ⟨e, rfl, rfl, _⟩ | ⟨root, path, written, hroot, hpath, _, hwrite, hout⟩ := hout
  · exact ⟨hprepared.parent, hprepared.settled, hprepared.kept, hentry⟩
  · have hkeeps : d.KeepsDirectories w'.disk := by
      obtain ⟨_, _, hdisk⟩ | ⟨_, _, _, hdisk⟩ := hout
      · rw [hdisk]
        exact Disk.keepsDirectories_erase_write hwrite
      · rw [hdisk]
        exact Disk.keepsDirectories_write hwrite
    have hother : ∀ place, place ≠ Path.place path → w'.disk.entry? place = d.entry? place := by
      intro place hplace
      have hwritten := Disk.entry?_write_of_ne hwrite hplace
      obtain ⟨_, _, hdisk⟩ | ⟨_, _, _, hdisk⟩ := hout
      · rw [hdisk, Disk.entry?_erase _ (Disk.write_eq_ok hwrite).1.ne_nil, if_neg hplace, hwritten]
      · rw [hdisk, hwritten]
    refine ⟨hprepared.parent, hprepared.settled.of_keepsDirectories hkeeps, hprepared.kept, ?_⟩
    intro place
    by_cases hplace : place = Path.place path
    · right; right
      rw [hplace, hpath]
      exact ⟨root, hroot, place_pathIn_of_confined t hv⟩
    · rw [hother place hplace]
      exact hentry place

end TempFiles

/-! ### Runs -/

/-- A host that leaves the disk alone when it opens a file, and at most deletes files otherwise. -/
structure Host.Spares {η : Type} (host : Host (StateM (World η))) : Prop where
  openDocument : ∀ uri w, ((host.openDocument uri).run w).2.disk = w.disk
  deleteFile : ∀ uri (w : World η), w.disk.Loses ((host.deleteFile uri).run w).2.disk

theorem Handle.loses_dispose {η : Type} {host : Host (StateM (World η))} (hhost : host.Spares)
    (h : Handle) (w : World η) : w.disk.Loses ((h.dispose host).run w).2.disk := by
  unfold dispose
  split
  · exact hhost.deleteFile h.uri w
  · exact fun _ => .inl rfl

namespace Ledger

/-- What stands on the disk was there at the start, leads to the directory of all files, or is in
it. -/
structure Contained (tempDir : String) (files : TempFiles) (d₀ : Disk) (l : Ledger) (d : Disk) : Prop where
  parent : l.files.parent = files.parent
  settled : l.files.Settled (files.parent.getD tempDir) d
  entry? : ∀ place entry, d.entry? place = some entry → d₀.entry? place = some entry ∨
    (files.Asked place ∧ entry = .directory) ∨ l.files.Inside place

section
variable {η : Type} {host : Host (StateM (World η))} {tempDir : String} {files : TempFiles}
  {d₀ : Disk} {l : Ledger} {w : World η}

theorem asked_congr {t t' : TempFiles} (h : t.parent = t'.parent) (place : List String) :
    t.Asked place ↔ t'.Asked place := by
  rw [TempFiles.Asked, TempFiles.Asked, h]

theorem contained_acquire (hhost : host.Spares) (h : Contained tempDir files d₀ l w.disk)
    {v : VirtualDocument} (hv : Path.Confined v.language.extension) :
    let out := (l.take (World.storage tempDir) host (.acquired v)).run w
    Contained tempDir files d₀ out.1 out.2.disk := by
  intro out
  rcases hrun : (l.files.acquire (World.storage tempDir) host v).run w with ⟨⟨result, t'⟩, w'⟩
  have hfiles : (l.enter v (result, t')).files = t' := by cases result <;> rfl
  obtain ⟨hparent, hsettled, hkept, hentry⟩ := TempFiles.entry?_of_acquire hhost.openDocument h.settled
    (by rw [h.parent]) hv hrun
  rw [show out = _ from run_take_acquired hrun]
  refine ⟨?_, ?_, ?_⟩
  · rw [hfiles, hparent, h.parent]
  · rwa [hfiles]
  · intro place entry hplace
    rw [hfiles]
    obtain hsame | ⟨hasked, hmade⟩ | hinside := hentry place
    · rw [hsame] at hplace
      refine (h.entry? place entry hplace).imp_right (Or.imp_right ?_)
      rintro ⟨root, hroot, hbelow⟩
      exact ⟨root, hkept root hroot, hbelow⟩
    · refine .inr (.inl ⟨(asked_congr (hparent.trans h.parent) place).mp hasked, ?_⟩)
      exact Option.some.inj (hplace.symm.trans hmade)
    · exact .inr (.inr hinside)

theorem contained_dispose (hhost : host.Spares) (h : Contained tempDir files d₀ l w.disk) (i : Nat) :
    let out := (l.take (World.storage tempDir) host (.disposed i)).run w
    Contained tempDir files d₀ out.1 out.2.disk := by
  intro out
  cases hlease : l.held[i]? with
  | none =>
    rw [show out = (l, w) from run_take_not_held hlease]
    exact h
  | some lease =>
    rw [show out = _ from run_take_disposed hlease]
    have hloses := lease.handle.loses_dispose hhost w
    refine ⟨h.parent, h.settled.of_keepsDirectories hloses.keepsDirectories, ?_⟩
    intro place entry hplace
    obtain hsame | ⟨_, hnone⟩ := hloses place
    · exact h.entry? place entry (hsame ▸ hplace)
    · cases hnone.symm.trans hplace

/-- When all is removed, nothing is left of what was inside. -/
theorem contained_shutDown (h : Contained tempDir files d₀ l w.disk) :
    let out := (l.files.shutdown (World.storage tempDir)).run w
    out.1.root = none ∧ Contained tempDir files d₀ { l with files := out.1 } out.2.disk := by
  intro out
  cases hroot : l.files.root with
  | none =>
    have hout : out = (l.files, w) := by
      change (l.files.shutdown (World.storage tempDir)).run w = _
      rw [TempFiles.shutdown, hroot]
      rfl
    rw [hout]
    exact ⟨hroot, h⟩
  | some root =>
    have hout : out = ({ l.files with root := none }, ⟨w.disk.removeTree root, w.host⟩) := by
      change (l.files.shutdown (World.storage tempDir)).run w = _
      rw [TempFiles.shutdown, hroot]
      rfl
    rw [hout]
    refine ⟨rfl, h.parent, by rintro _ ⟨⟩, ?_⟩
    intro place entry hplace
    by_cases hnil : place = []
    · subst hnil
      exact .inl hplace
    · rw [Disk.entry?_removeTree (h.settled root hroot).walk hnil] at hplace
      split at hplace
      · cases hplace
      · rename_i hbelow
        refine (h.entry? place entry hplace).imp_right (Or.imp_right ?_)
        rintro ⟨root', hroot', hbelow'⟩
        obtain rfl := Option.some.inj (hroot.symm.trans hroot')
        exact absurd hbelow' hbelow

theorem contained_take (hhost : host.Spares) (h : Contained tempDir files d₀ l w.disk)
    {event : Event} (hevent : ∀ v, event = .acquired v → Path.Confined v.language.extension) :
    let out := (l.take (World.storage tempDir) host event).run w
    Contained tempDir files d₀ out.1 out.2.disk := by
  cases event with
  | acquired v => exact contained_acquire hhost h (hevent v rfl)
  | disposed i => exact contained_dispose hhost h i
  | shutDown => exact (contained_shutDown h).2

end

section
variable {η : Type} {host : Host (StateM (World η))}

/-- Files of languages whose extensions do not climb stay inside a directory of their own: they are
written there, an acquisition changes the disk there alone, but for the directories that were asked
for, and once all is removed only those are new. -/
theorem confined_runs {config : Config}
    (hconfig : ∀ language ∈ config.registry.toList, Path.Confined language.extension)
    (hhost : host.Spares) (tempDir : String) (w : World η) {events : List Event}
    (hevents : ∀ v, .acquired v ∈ events → v.language ∈ config.registry.toList) :
    let start : Ledger := { files := (Router.ofConfig config).files }
    let Asked := fun place => ∃ parent, config.tempDir = some parent ∧ Path.OnWay parent place
    let out := (start.takeAll (World.storage tempDir) host events).run w
    (∀ v : VirtualDocument, v.language ∈ config.registry.toList →
      let placed := (out.1.files.place (World.storage tempDir) v).run out.2
      ∀ path, placed.1.1 = .ok path → ∃ root, placed.1.2.root = some root ∧
        Path.place root <+: Path.place path) ∧
    (∀ v : VirtualDocument, v.language ∈ config.registry.toList →
      let acquired := (out.1.files.acquire (World.storage tempDir) host v).run out.2
      ∀ place, acquired.2.disk.entry? place ≠ out.2.disk.entry? place →
        (Asked place ∧ acquired.2.disk.entry? place = some .directory) ∨
          ∃ (root : String) (n : Nat), acquired.1.2.root = some root ∧
            Path.place root =
              Path.place (config.tempDir.getD tempDir) ++ [TempFiles.rootFront ++ toString n] ∧
            Path.place root <+: place) ∧
    ∀ place entry,
      Disk.entry? ((out.1.files.shutdown (World.storage tempDir)).run out.2).2.disk place = some entry →
        w.disk.entry? place = some entry ∨ (Asked place ∧ entry = .directory) := by
  intro start Asked out
  have hstart : Contained tempDir start.files w.disk start w.disk :=
    ⟨rfl, by rintro _ ⟨⟩, fun _ _ hplace => .inl hplace⟩
  have hstep : ∀ n l (w' : World η), ∀ event ∈ events, n < events.length →
      Contained tempDir start.files w.disk l w'.disk →
      let out := (l.take (World.storage tempDir) host event).run w'
      Contained tempDir start.files w.disk out.1 out.2.disk := by
    intro n l w' event hevent _ hl
    refine contained_take hhost hl ?_
    rintro v rfl
    exact hconfig _ (hevents v hevent)
  have h : Contained tempDir start.files w.disk out.1 out.2.disk :=
    run_takeAll (fun _ l (w' : World η) => Contained tempDir start.files w.disk l w'.disk) hstart hstep
  refine ⟨?_, ?_, ?_⟩
  · intro v hv placed path hpath
    exact TempFiles.inside_of_place h.settled (by rw [h.parent]) (hconfig _ hv)
      (Prod.ext (Prod.ext hpath rfl) rfl)
  · intro v hv acquired place hplace
    obtain ⟨hparent, hsettled, _, hentry⟩ := TempFiles.entry?_of_acquire hhost.openDocument h.settled
      (by rw [h.parent]) (hconfig _ hv) (show acquired = _ from rfl)
    obtain hsame | ⟨hasked, hmade⟩ | ⟨root, hroot, hbelow⟩ := hentry place
    · exact absurd hsame hplace
    · exact .inl ⟨(asked_congr (hparent.trans h.parent) place).mp hasked, hmade⟩
    · obtain ⟨n, hcomponents⟩ := (hsettled root hroot).components
      refine .inr ⟨root, n, hroot, ?_, hbelow⟩
      rw [Path.place, hcomponents, Path.resolve_append]
      exact Path.follow_of_isName (Path.isName_of_isSegment (TempFiles.isSegment_rootFront n)) _
  · intro place entry hplace
    obtain ⟨hroot, hended⟩ := contained_shutDown h
    obtain hold | hasked | ⟨root, hroot', _⟩ := hended.entry? place entry hplace
    · exact .inl hold
    · exact .inr hasked
    · cases hroot.symm.trans hroot'

end

end Ledger

namespace Climbing

/-- A host that opens every file and deletes none. -/
def host : Host (StateM (World Unit)) where
  openDocument _ := pure (.ok ())
  execute _ _ := pure .crashed
  deleteFile _ := pure (.ok ())

def asked : Config := { tempDir := some "/a/b" }

def script : VirtualDocument := ⟨.plain "r" "r" [] ["$", "@", ":", "."] .all, "x"⟩

theorem confined_runs_asked :
    let start : Ledger := { files := (Router.ofConfig asked).files }
    let out := (start.takeAll (World.storage "/tmp") host [.acquired script]).run ⟨{}, ()⟩
    out.2.disk.file? ["a", "b", "quarto-vdoc-0", "r", "intellisense.r"] = some "x" ∧
    ∀ place entry,
      Disk.entry? ((out.1.files.shutdown (World.storage "/tmp")).run out.2).2.disk place = some entry →
        Disk.entry? {} place = some entry ∨
          ((∃ parent, asked.tempDir = some parent ∧ Path.OnWay parent place) ∧ entry = .directory) := by
  have hconfig : ∀ language ∈ asked.registry.toList, Path.Confined language.extension := by
    decide +kernel
  have hhost : host.Spares := ⟨fun _ _ => rfl, fun _ _ _ => .inl rfl⟩
  have hevents : ∀ v, Ledger.Event.acquired v ∈ [Ledger.Event.acquired script] →
      v.language ∈ asked.registry.toList := by
    intro v hv
    obtain rfl := Ledger.Event.acquired.inj (List.mem_singleton.mp hv)
    decide +kernel
  have h := Ledger.confined_runs hconfig hhost "/tmp" ⟨{}, ()⟩ hevents
  exact ⟨by decide +kernel, h.2.2⟩

/-- Options that add two languages with extensions that go back. -/
def options : Json := .object [("languages", .array [
  .object [("name", .string "up"), ("extension", .string "..")],
  .object [("name", .string "side"), ("extension", .string "../x")]])]

def config : Config :=
  { languages := [⟨"up", some "..", none, none, none⟩, ⟨"side", some "../x", none, none, none⟩] }

def world : World Unit := ⟨Disk.put {} ["tmp"] .directory, ()⟩

def up : VirtualDocument := ⟨.plain "up" ".." [] [] .all, "a"⟩

def side : VirtualDocument := ⟨.plain "side" "../x" [] [] .all, "b"⟩

/-- The disk after a file was acquired and all was removed. -/
def left (v : VirtualDocument) : Disk :=
  let start : Ledger := { files := (Router.ofConfig config).files }
  ((start.takeAll (World.storage "/tmp") host [.acquired v, .shutDown]).run world).2.disk

/-- The options are accepted. One language has a file written beside the directory of all files, the
other a directory made there, and they are there when all is removed. -/
theorem left_of_climbing_extensions :
    Config.ofJson options = .ok config ∧
      up.language ∈ config.registry.toList ∧ side.language ∈ config.registry.toList ∧
      (left up).entries = [(["tmp", "intellisense..."], .file "a"), (["tmp"], .directory)] ∧
      (left side).entries = [(["tmp", "x"], .directory), (["tmp"], .directory)] := by
  refine ⟨rfl, ?_, ?_, ?_, ?_⟩ <;> decide +kernel

end Climbing

end Polyglot
