import Mathlib.Algebra.Group.Nat.Defs
import Polyglot.Proofs.Delivery.Named

/-! Files that have a number each. Whatever is acquired and given up, and in whatever order, no two files
ever lent out have one URI, those still lent out hold what was written to them, and one that is given
up or not opened takes no other with it. -/

namespace Polyglot

open Polyglot.Path (IsSegment)

namespace TempFiles

theorem eq_of_toString_eq {k k' : Nat} (h : toString k = toString k') : k = k' := by
  have hdigits : ∀ n : Nat, (toString n).toList = Nat.toDigits 10 n := fun _ => String.toList_ofList
  have hk := Nat.ofDigitChars_toDigits (b := 10) (n := k) (by decide) (by decide)
  rw [← hdigits, h, hdigits, Nat.ofDigitChars_toDigits (by decide) (by decide)] at hk
  exact hk.symm

/-- A file is told by its number and its extension from any other. -/
theorem eq_of_numberedName {k k' : Nat} {extension extension' : String}
    (h : [extension, numberedName k extension] = [extension', numberedName k' extension']) :
    k = k' ∧ extension = extension' := by
  obtain ⟨rfl, h⟩ := List.cons.inj h
  have hname := (List.cons.inj h).1
  simp only [numberedName, String.append_assoc, String.append_right_inj] at hname
  rw [String.append_left_inj] at hname
  exact ⟨eq_of_toString_eq hname, rfl⟩

/-- A path is that of a file with a number. -/
def Numbered (t : TempFiles) (k : Nat) (path : String) : Prop :=
  ∃ root extension, t.root = some root ∧ IsSegment extension ∧
    path = pathIn root extension (numberedName k extension)

section
variable {t : TempFiles} {k k' : Nat} {path path' : String}

theorem Numbered.placedIn {base : String} {d : Disk} (h : t.Numbered k path) (ht : t.Settled base d) :
    PlacedIn base path := by
  obtain ⟨root, extension, hroot, hextension, rfl⟩ := h
  exact placedIn_pathIn (ht root hroot) hextension (isSegment_numberedName k hextension)

theorem Numbered.eq_of_place (h : t.Numbered k path) (h' : t.Numbered k' path')
    (hplace : Path.place path = Path.place path') : k = k' ∧ path = path' := by
  obtain ⟨root, extension, hroot, hextension, rfl⟩ := h
  obtain ⟨root', extension', hroot', hextension', rfl⟩ := h'
  obtain rfl := Option.some.inj (hroot.symm.trans hroot')
  rw [place_pathIn _ hextension (isSegment_numberedName k hextension),
    place_pathIn _ hextension' (isSegment_numberedName k' hextension'),
    List.append_cancel_left_eq] at hplace
  obtain ⟨rfl, rfl⟩ := eq_of_numberedName hplace
  exact ⟨rfl, rfl⟩

theorem Numbered.eq_of_uri (h : t.Numbered k path) (h' : t.Numbered k' path') {uri : String}
    (huri : Url.ofFilePath? path = some uri) (huri' : Url.ofFilePath? path' = some uri) : k = k' := by
  obtain ⟨root, extension, hroot, hextension, rfl⟩ := h
  obtain ⟨root', extension', hroot', hextension', rfl⟩ := h'
  obtain rfl := Option.some.inj (hroot.symm.trans hroot')
  have hcomponents := components_pathIn root hextension (isSegment_numberedName k hextension)
  have hcomponents' := components_pathIn root hextension' (isSegment_numberedName k' hextension')
  have heq := Url.components_eq_of_ofFilePath? (by simp [hcomponents]) (by simp [hcomponents']) huri huri'
  rw [hcomponents, hcomponents', List.append_cancel_left_eq] at heq
  exact (eq_of_numberedName heq).1

end

end TempFiles

namespace Ledger

/-- After some steps: the numbers given out so far are below the next one, every URI and every file
has one of them, and what is lent out is there. -/
structure Isolated (base : String) (steps : Nat) (l : Ledger) (d : Disk) : Prop where
  isTree : d.IsTree
  naming : l.files.naming = .perRequest
  settled : l.files.Settled base d
  next_le : l.files.nextRequest.toNat ≤ steps
  nodup : l.issued.Nodup
  issued : ∀ uri ∈ l.issued, ∃ k < l.files.nextRequest.toNat, ∃ path,
    l.files.Numbered k path ∧ Url.ofFilePath? path = some uri
  sublist : (l.held.map fun lease => lease.handle.uri).Sublist l.issued
  holds : ∀ lease ∈ l.held, lease.handle.releases = true ∧ ∃ k < l.files.nextRequest.toNat, ∃ path,
    l.files.Numbered k path ∧ Url.ofFilePath? path = some lease.handle.uri ∧
      d.Holds path lease.content
  fresh : ∀ k path, l.files.nextRequest.toNat ≤ k → l.files.Numbered k path →
    d.file? (Path.place path) = none

section
variable {base : String} {n : Nat} {l : Ledger} {d d' : Disk}

theorem isolated_empty (htree : d.IsTree) (parent : Option String) :
    Isolated base 0 { files := { parent, naming := .perRequest } } d where
  isTree := htree
  naming := rfl
  settled := by rintro _ ⟨⟩
  next_le := Nat.le_refl 0
  nodup := .nil
  issued := by rintro _ ⟨⟩
  sublist := .slnil
  holds := by rintro _ ⟨⟩
  fresh := by rintro _ _ _ ⟨_, _, ⟨⟩, _⟩

theorem Isolated.mono (h : Isolated base n l d) {n' : Nat} (hn : n ≤ n') : Isolated base n' l d :=
  { h with next_le := h.next_le.trans hn }

/-- Only directories may be added. -/
theorem Isolated.of_file? (h : Isolated base n l d) (htree : d'.IsTree)
    (hkeeps : d.KeepsDirectories d') (hfile : ∀ place, d'.file? place = d.file? place) :
    Isolated base n l d' :=
  { h with
    isTree := htree
    settled := h.settled.of_keepsDirectories hkeeps
    holds := by
      intro lease hlease
      obtain ⟨hreleases, k, hk, path, hnumbered, huri, hholds⟩ := h.holds lease hlease
      refine ⟨hreleases, k, hk, path, hnumbered, huri, hholds.of_keepsDirectories hkeeps ?_⟩
      rw [hholds.entry?, ← Disk.file?_eq_some_iff, hfile, Disk.file?_eq_some_iff, hholds.entry?]
    fresh := fun k path hk hnumbered => (hfile _).trans (h.fresh k path hk hnumbered) }

/-- Preparing for a file may make the directory of all files, which is new then. -/
theorem Isolated.prepared (h : Isolated base n l d) {extension : String} {t' : TempFiles}
    (hprepared : TempFiles.Prepared base extension l.files t' d d') :
    Isolated base n { l with files := { l.files with root := t'.root } } d' := by
  have hkeeps := hprepared.grows.keepsDirectories
  have hfile := hprepared.grows.file?
  have hnumbered : ∀ k path, l.files.Numbered k path →
      { l.files with root := t'.root }.Numbered k path := by
    rintro k path ⟨root, extension, hroot, hpath⟩
    exact ⟨root, extension, hprepared.kept root hroot, hpath⟩
  have h' := h.of_file? (hprepared.grows.isTree h.isTree) hkeeps hfile
  exact {
    isTree := h'.isTree
    naming := h.naming
    settled := fun root hroot => hprepared.settled root hroot
    next_le := h.next_le
    nodup := h.nodup
    issued := by
      intro uri huri
      obtain ⟨k, hk, path, hpath, huri⟩ := h.issued uri huri
      exact ⟨k, hk, path, hnumbered k path hpath, huri⟩
    sublist := h.sublist
    holds := by
      intro lease hlease
      obtain ⟨hreleases, k, hk, path, hpath, hrest⟩ := h'.holds lease hlease
      exact ⟨hreleases, k, hk, path, hnumbered k path hpath, hrest⟩
    fresh := by
      rintro k _ hk ⟨root, extension, hroot, hextension, rfl⟩
      obtain hold | hnone := hprepared.fresh root hroot
      · exact h'.fresh k _ hk ⟨root, extension, hold, hextension, rfl⟩
      · have hbelow := Disk.entry?_eq_none_of_prefix h.isTree hnone
          (List.prefix_append _ [extension, TempFiles.numberedName k extension])
        rw [hfile, TempFiles.place_pathIn _ hextension (TempFiles.isSegment_numberedName k hextension),
          Disk.file?, hbelow] }

theorem count_of_perRequest {t : TempFiles} (h : t.naming = .perRequest) :
    t.count = { t with nextRequest := t.nextRequest + 1 } := by
  rw [TempFiles.count, h]

theorem toNat_count {t : TempFiles} (h : t.naming = .perRequest)
    (hnext : t.nextRequest.toNat + 1 < 2 ^ 64) :
    t.count.nextRequest.toNat = t.nextRequest.toNat + 1 := by
  rw [count_of_perRequest h]
  simp only [UInt64.toNat_add, UInt64.toNat_one]
  omega

theorem numbered_count {t : TempFiles} {k : Nat} {path : String} :
    t.count.Numbered k path ↔ t.Numbered k path := by
  rw [TempFiles.Numbered, TempFiles.Numbered, TempFiles.root_count]

/-- A number is used up. -/
theorem Isolated.count (h : Isolated base n l d) (hn : n + 1 < 2 ^ 64) :
    Isolated base (n + 1) { l with files := l.files.count } d := by
  have hnext := toNat_count h.naming (Nat.lt_of_le_of_lt (Nat.succ_le_succ h.next_le) hn)
  have hle := h.next_le
  exact {
    isTree := h.isTree
    naming := by rw [count_of_perRequest h.naming]; exact h.naming
    settled := by
      intro root hroot
      rw [TempFiles.root_count] at hroot
      exact h.settled root hroot
    next_le := by
      change l.files.count.nextRequest.toNat ≤ n + 1
      omega
    nodup := h.nodup
    issued := by
      intro uri huri
      obtain ⟨k, hk, path, hpath, huri⟩ := h.issued uri huri
      exact ⟨k, by rw [hnext]; omega, path, numbered_count.mpr hpath, huri⟩
    sublist := h.sublist
    holds := by
      intro lease hlease
      obtain ⟨hreleases, k, hk, path, hpath, hrest⟩ := h.holds lease hlease
      exact ⟨hreleases, k, by rw [hnext]; omega, path, numbered_count.mpr hpath, hrest⟩
    fresh := by
      intro k path hk hpath
      rw [hnext] at hk
      exact h.fresh k path (by omega) (numbered_count.mp hpath) }

section
variable {path uri content : String}

/-- A file with the next number stands in nobody's place. -/
theorem Isolated.write (h : Isolated base n l d) (hn : n + 1 < 2 ^ 64)
    (hpath : l.files.Numbered l.files.nextRequest.toNat path)
    (huri : Url.ofFilePath? path = some uri) (hwrite : d.write path content = .ok d') :
    Isolated base (n + 1)
      { files := l.files.count
        held := l.held ++ [⟨⟨uri, true⟩, content⟩]
        issued := l.issued ++ [uri] } d' := by
  obtain ⟨hholds, _, _, htree⟩ := Disk.write_eq_ok hwrite
  have hnext := toNat_count h.naming (Nat.lt_of_le_of_lt (Nat.succ_le_succ h.next_le) hn)
  have hcount := h.count hn
  have hkeeps := Disk.keepsDirectories_write hwrite
  have hother : ∀ k path', k ≠ l.files.nextRequest.toNat → l.files.Numbered k path' →
      d'.entry? (Path.place path') = d.entry? (Path.place path') := by
    intro k path' hk hpath'
    apply Disk.entry?_write_of_ne hwrite
    exact fun hplace => hk (hpath'.eq_of_place hpath hplace).1
  exact { hcount with
    isTree := htree h.isTree
    settled := hcount.settled.of_keepsDirectories hkeeps
    nodup := by
      rw [List.nodup_append]
      refine ⟨h.nodup, by simp, ?_⟩
      intro uri' hissued other hother heq
      obtain rfl := List.mem_singleton.mp hother
      obtain ⟨k, hk, path', hpath', huri'⟩ := h.issued uri' hissued
      rw [heq] at huri'
      exact absurd (hpath'.eq_of_uri hpath huri' huri) (Nat.ne_of_lt hk)
    issued := by
      intro uri' hissued
      obtain hissued | hissued := List.mem_append.mp hissued
      · exact hcount.issued uri' hissued
      · obtain rfl := List.mem_singleton.mp hissued
        exact ⟨_, by rw [hnext]; omega, path, numbered_count.mpr hpath, huri⟩
    sublist := by
      rw [List.map_append]
      exact h.sublist.append (List.Sublist.refl _)
    holds := by
      intro lease hlease
      obtain hlease | hlease := List.mem_append.mp hlease
      · obtain ⟨hreleases, k, hk, path', hpath', huri', hholds'⟩ := h.holds lease hlease
        refine ⟨hreleases, k, by rw [hnext]; omega, path', numbered_count.mpr hpath', huri', ?_⟩
        exact hholds'.of_keepsDirectories hkeeps (hother k path' (Nat.ne_of_lt hk) hpath')
      · obtain rfl := List.mem_singleton.mp hlease
        exact ⟨rfl, _, by rw [hnext]; omega, path, numbered_count.mpr hpath, huri, hholds⟩
    fresh := by
      intro k path' hk hpath'
      rw [hnext] at hk
      have hpath' := numbered_count.mp hpath'
      rw [Disk.file?_congr (hother k path' (by omega) hpath')]
      exact h.fresh k path' (by omega) hpath' }

/-- A file with the next number that is written and removed again leaves the files as they were. -/
theorem Isolated.file?_erase (h : Isolated base n l d)
    (hpath : l.files.Numbered l.files.nextRequest.toNat path)
    (hwrite : d.write path content = .ok d') (place : List String) :
    (d'.erase (Path.place path)).file? place = d.file? place := by
  rw [Disk.file?_erase _ (Disk.write_eq_ok hwrite).1.ne_nil]
  split
  · rename_i hplace
    rw [hplace, h.fresh _ path (Nat.le_refl _) hpath]
  · rename_i hplace
    exact Disk.file?_congr (Disk.entry?_write_of_ne hwrite hplace)

end

/-- A file that is given up is in nobody else's place. -/
theorem Isolated.dispose (h : Isolated base n l d) {i : Nat} {lease : Lease}
    (hlease : l.held[i]? = some lease) {path : String} {k : Nat} (hpath : l.files.Numbered k path)
    (huri : Url.ofFilePath? path = some lease.handle.uri) (hholds : d.Holds path lease.content) :
    Isolated base n { l with held := l.held.eraseIdx i } (d.erase (Path.place path)) := by
  have hkeeps := hholds.keepsDirectories_erase
  have hnodup := h.sublist.nodup h.nodup
  have hother : ∀ lease' ∈ l.held.eraseIdx i, lease'.handle.uri ≠ lease.handle.uri := by
    intro lease' hlease' heq
    obtain ⟨j, hj, hlease'⟩ := List.mem_eraseIdx_iff_getElem?.mp hlease'
    refine hj ((List.getElem?_inj ?_ hnodup).mp ?_)
    · rw [List.length_map]
      exact (List.getElem?_eq_some_iff.mp hlease').1
    · rw [List.getElem?_map, List.getElem?_map, hlease, hlease', Option.map_some, Option.map_some, heq]
  exact { h with
    isTree := hholds.isTree_erase h.isTree
    settled := h.settled.of_keepsDirectories hkeeps
    sublist := (List.Sublist.map _ (List.eraseIdx_sublist l.held i)).trans h.sublist
    holds := by
      intro lease' hlease'
      obtain ⟨hreleases, k', hk', path', hpath', huri', hholds'⟩ :=
        h.holds lease' (List.mem_of_mem_eraseIdx hlease')
      refine ⟨hreleases, k', hk', path', hpath', huri', hholds'.of_keepsDirectories hkeeps ?_⟩
      rw [Disk.entry?_erase d hholds.ne_nil, if_neg]
      intro hplace
      rw [(hpath'.eq_of_place hpath hplace).2, huri] at huri'
      exact hother lease' hlease' (Option.some.inj huri').symm
    fresh := by
      intro k' path' hk' hpath'
      rw [Disk.file?_erase d hholds.ne_nil]
      split
      · rfl
      · exact h.fresh k' path' hk' hpath' }

end

/-! ### Steps and runs -/

section
variable {η : Type} {host : Host (StateM (World η))} {tempDir base : String} {n : Nat} {l : Ledger}
  {w : World η}

/-- How acquiring a file with a number ends: it is prepared for, and then there is no file, the file
is gone again, or it is there and has a URI. -/
theorem Isolated.run_acquire (h : Isolated base n l w.disk) (hhost : host.Tends base)
    (hbase : l.files.parent.getD tempDir = base) {v : VirtualDocument}
    (hv : IsSegment v.language.extension) {out : Except Error Handle} {files : TempFiles}
    {w' : World η}
    (hrun : (l.files.acquire (World.storage tempDir) host v).run w = ((out, files), w')) :
    ∃ ready d, ready = { l.files with root := files.root } ∧
      Isolated base n { l with files := ready } d ∧ (∀ place, d.file? place = w.disk.file? place) ∧
      ((∃ e, out = .error e ∧ w'.disk = d ∧ (files = ready ∨ files = ready.count)) ∨
        ∃ path written, ready.Numbered ready.nextRequest.toNat path ∧ files = ready.count ∧
          d.write path (v.language.fixed v.content) = .ok written ∧
          ((∃ e, out = .error e ∧ w'.disk = written.erase (Path.place path)) ∨
            ∃ uri, Url.ofFilePath? path = some uri ∧ out = .ok ⟨uri, true⟩ ∧ w'.disk = written)) := by
  obtain ⟨d, hprepared, hout⟩ := TempFiles.run_acquire hhost.openDocument h.settled hbase hrun
  refine ⟨_, d, rfl, h.prepared hprepared, hprepared.grows.file?, ?_⟩
  rw [TempFiles.count_withRoot]
  obtain hout | ⟨root, path, written, hroot, hpath, hfiles, hwrite, hout⟩ := hout
  · exact .inl hout
  · refine .inr ⟨path, written, ⟨root, v.language.extension, hroot, hv, ?_⟩, hfiles, hwrite, hout⟩
    rw [hpath, TempFiles.fileName_of_perRequest h.naming]

theorem file?_of_acquire_error (h : Isolated base n l w.disk) (hhost : host.Tends base)
    (hbase : l.files.parent.getD tempDir = base) {v : VirtualDocument}
    (hv : IsSegment v.language.extension) {e : Error} {files : TempFiles} {w' : World η}
    (hrun : (l.files.acquire (World.storage tempDir) host v).run w = ((.error e, files), w'))
    (place : List String) : w'.disk.file? place = w.disk.file? place := by
  obtain ⟨ready, d, _, hready, hfile, hout⟩ := h.run_acquire hhost hbase hv hrun
  rw [← hfile]
  obtain ⟨_, _, rfl, _⟩ | ⟨path, written, hpath, _, hwrite, ⟨_, _, hdisk⟩ | ⟨_, _, ⟨⟩, _⟩⟩ := hout
  · rfl
  · rw [hdisk]
    exact hready.file?_erase hpath hwrite place

theorem isolated_acquire (h : Isolated base n l w.disk) (hhost : host.Tends base)
    (hn : n + 1 < 2 ^ 64) (hbase : l.files.parent.getD tempDir = base) {v : VirtualDocument}
    (hv : IsSegment v.language.extension) {out : Except Error Handle} {files : TempFiles}
    {w' : World η}
    (hrun : (l.files.acquire (World.storage tempDir) host v).run w = ((out, files), w')) :
    Isolated base (n + 1) (l.enter v (out, files)) w'.disk ∧ files.parent = l.files.parent := by
  obtain ⟨ready, d, hroot, hready, _, hout⟩ := h.run_acquire hhost hbase hv hrun
  have hcount : ready.count.parent = l.files.parent := by
    rw [count_of_perRequest hready.naming, hroot]
  obtain ⟨e, rfl, rfl, rfl | rfl⟩ | ⟨path, written, hpath, rfl, hwrite, hout⟩ := hout
  · exact ⟨hready.mono (Nat.le_succ n), by rw [hroot]⟩
  · exact ⟨hready.count hn, hcount⟩
  · refine ⟨?_, hcount⟩
    obtain ⟨e, rfl, hdisk⟩ | ⟨uri, huri, rfl, rfl⟩ := hout
    · rw [hdisk]
      exact (hready.count hn).of_file? (Disk.isTree_erase_write hwrite hready.isTree)
        (Disk.keepsDirectories_erase_write hwrite) (hready.file?_erase hpath hwrite)
    · exact hready.write hn hpath huri hwrite

/-- Giving up a file that is lent out removes that file alone. -/
theorem isolated_dispose (hhost : host.Tends base) (h : Isolated base n l w.disk) {i : Nat}
    {lease : Lease} (hlease : l.held[i]? = some lease) :
    Isolated base n { l with held := l.held.eraseIdx i } ((lease.handle.dispose host).run w).2.disk ∧
      ∃ path, Url.ofFilePath? path = some lease.handle.uri ∧
        w.disk.read? path = some lease.content ∧
        ∀ place, ((lease.handle.dispose host).run w).2.disk.file? place =
          if place = Path.place path then none else w.disk.file? place := by
  obtain ⟨hreleases, k, _, path, hpath, huri, hholds⟩ := h.holds lease (List.mem_of_getElem? hlease)
  have hdisk := Handle.disk_dispose hhost (hpath.placedIn h.settled) huri hholds
  rw [← hreleases] at hdisk
  change ((lease.handle.dispose host).run w).2.disk = _ at hdisk
  rw [hdisk]
  refine ⟨h.dispose hlease hpath huri hholds, path, huri, hholds.read?, fun place => ?_⟩
  exact Disk.file?_erase _ hholds.ne_nil place

/-- An event that can happen to numbered files, but for the end of all of them. -/
def Event.IsOrdinary : Event → Prop
  | .acquired v => IsSegment v.language.extension
  | .disposed _ => True
  | .shutDown => False

instance : DecidablePred Event.IsOrdinary
  | .acquired v => inferInstanceAs (Decidable (IsSegment v.language.extension))
  | .disposed _ => inferInstanceAs (Decidable True)
  | .shutDown => inferInstanceAs (Decidable False)

theorem isolated_take (hhost : host.Tends base) (h : Isolated base n l w.disk) (hn : n + 1 < 2 ^ 64)
    (hbase : l.files.parent.getD tempDir = base) {event : Event} (hevent : event.IsOrdinary) :
    let out := (l.take (World.storage tempDir) host event).run w
    Isolated base (n + 1) out.1 out.2.disk ∧ out.1.files.parent = l.files.parent := by
  intro out
  cases event with
  | acquired v =>
    rcases hrun : (l.files.acquire (World.storage tempDir) host v).run w with ⟨⟨result, files⟩, w'⟩
    obtain ⟨hisolated, hparent⟩ := isolated_acquire h hhost hn hbase hevent hrun
    rw [show out = _ from run_take_acquired hrun]
    refine ⟨hisolated, ?_⟩
    cases result <;> exact hparent
  | disposed i =>
    cases hlease : l.held[i]? with
    | none =>
      rw [show out = (l, w) from run_take_not_held hlease]
      exact ⟨h.mono (Nat.le_succ n), rfl⟩
    | some lease =>
      rw [show out = _ from run_take_disposed hlease]
      exact ⟨(isolated_dispose hhost h hlease).1.mono (Nat.le_succ n), rfl⟩
  | shutDown => exact hevent.elim

/-- Files with numbers are isolated: whatever was acquired and given up before, all URIs ever lent out
are different, what is lent out holds its content, and giving a file up or failing to acquire one
removes no other. -/
theorem perRequest_isolated (parent : Option String) (hhost : host.Tends (parent.getD tempDir))
    (htree : w.disk.IsTree) {events : List Event} (hlength : events.length < 2 ^ 64)
    (hevents : ∀ event ∈ events, event.IsOrdinary) :
    let start : Ledger := { files := { parent, naming := .perRequest } }
    let out := (start.takeAll (World.storage tempDir) host events).run w
    out.1.issued.Nodup ∧
    (∀ lease ∈ out.1.held, ∃ path, Url.ofFilePath? path = some lease.handle.uri ∧
      out.2.disk.read? path = some lease.content ∧
      ∀ place, ((lease.handle.dispose host).run out.2).2.disk.file? place =
        if place = Path.place path then none else out.2.disk.file? place) ∧
    ∀ v : VirtualDocument, IsSegment v.language.extension →
      let acquired := (out.1.files.acquire (World.storage tempDir) host v).run out.2
      (∃ e, acquired.1.1 = .error e) →
        ∀ place, acquired.2.disk.file? place = out.2.disk.file? place := by
  intro start out
  have hstart : Isolated (parent.getD tempDir) 0 start w.disk := isolated_empty htree parent
  have hstep : ∀ n l (w : World η), ∀ event ∈ events, n < events.length →
      (Isolated (parent.getD tempDir) n l w.disk ∧ l.files.parent = parent) →
      let out := (l.take (World.storage tempDir) host event).run w
      Isolated (parent.getD tempDir) (n + 1) out.1 out.2.disk ∧ out.1.files.parent = parent := by
    rintro n l w event hevent hn ⟨hl, hparent⟩
    obtain ⟨hl', hparent'⟩ := isolated_take hhost hl (Nat.lt_of_le_of_lt hn hlength)
      (by rw [hparent]) (hevents event hevent)
    exact ⟨hl', hparent'.trans hparent⟩
  obtain ⟨h, hparent⟩ : Isolated (parent.getD tempDir) events.length out.1 out.2.disk ∧
      out.1.files.parent = parent :=
    run_takeAll (fun n l (w : World η) => Isolated (parent.getD tempDir) n l w.disk ∧
      l.files.parent = parent) ⟨hstart, rfl⟩ hstep
  refine ⟨h.nodup, ?_, ?_⟩
  · intro lease hlease
    obtain ⟨i, hi⟩ := List.getElem?_of_mem hlease
    exact (isolated_dispose hhost h hi).2
  · rintro v hv acquired ⟨e, he⟩
    have hbase : out.1.files.parent.getD tempDir = parent.getD tempDir := by rw [hparent]
    exact file?_of_acquire_error h hhost hbase hv (Prod.ext (Prod.ext he rfl) rfl)

end

end Ledger

namespace Interleaved

/-- A host that fails to open the third file that it is asked to open, and deletes the file that a URI
names. -/
def host : Host (StateM (World Nat)) where
  openDocument uri := fun w =>
    (if w.host = 2 then .error (.openDocument uri "no") else .ok (), { w with host := w.host + 1 })
  execute _ _ := pure .crashed
  deleteFile uri := fun w =>
    (.ok (), { w with disk := ((Url.parse? uri).bind Url.namedPath?).elim w.disk w.disk.without })

theorem tends_host : host.Tends "/tmp" where
  openDocument _ _ := rfl
  deleteFile := by
    rintro path uri ⟨n, extension, name, hextension, hname, hcomponents⟩ huri w d hremove
    obtain ⟨url, names, hreads, hnames, _⟩ :=
      TempFiles.exists_reads hextension hname hcomponents huri
    obtain rfl := hnames.mpr Url.legible_tmp
    obtain ⟨content, hholds, rfl⟩ := Disk.removeFile_eq_ok hremove
    have hnamed : (Url.parse? uri).bind Url.namedPath? = some (Url.slashed (Path.place path)) := by
      rw [hreads.parsed, Option.bind_some, hreads.named]
    change ((Url.parse? uri).bind Url.namedPath?).elim w.disk w.disk.without = _
    rw [hnamed, Option.elim_some, (hholds.slashed hreads.tidy).without,
      Url.place_of_tidy hreads.tidy (Url.components_slashed_of_tidy hreads.tidy)]

def world : World Nat := ⟨Disk.put {} ["tmp"] .directory, 0⟩

def document (extension content : String) : VirtualDocument :=
  ⟨.plain extension extension [] [] .all, content⟩

/-- The first file is given up while the second is lent out; the third is not opened. -/
def events : List Ledger.Event :=
  [.acquired (document "r" "x"), .acquired (document "r" "y"), .disposed 0,
    .acquired (document "py" "z")]

theorem perRequest_isolated_interleaved :
    let start : Ledger := { files := { naming := .perRequest } }
    let out := (start.takeAll (World.storage "/tmp") host events).run world
    (out.1.held.map Lease.content, out.1.issued.length) = (["y"], 2) ∧ out.1.issued.Nodup ∧
    ∀ lease ∈ out.1.held, ∃ path, Url.ofFilePath? path = some lease.handle.uri ∧
      out.2.disk.read? path = some lease.content ∧
      ∀ place, ((lease.handle.dispose host).run out.2).2.disk.file? place =
        if place = Path.place path then none else out.2.disk.file? place := by
  have hhost : host.Tends ((none : Option String).getD "/tmp") := tends_host
  have hevents : ∀ event ∈ events, event.IsOrdinary := by decide
  have htree : world.disk.IsTree := Disk.isTree_put_empty "tmp"
  have h := Ledger.perRequest_isolated none hhost htree
    (show events.length < 2 ^ 64 by decide) hevents
  exact ⟨by decide +kernel, h.1, h.2.1⟩

end Interleaved

end Polyglot
