import Mathlib.Data.List.Induction
import Mathlib.Data.List.TakeWhile
import Polyglot.Delivery.Disk
import Polyglot.Proofs.Document
import Polyglot.Proofs.Path

/-! What the operations of a disk do to it. A path leads to one place whatever the disk, as long as it
can be walked; making directories adds entries where there were none, writing and removing a file
change one place. A disk that is a tree stays one. -/

namespace Polyglot.Disk

open Polyglot.Path

variable {d d' d'' : Disk} {place : List String} {segments : List String}

/-! ### Entries -/

theorem entry?_of_ne_nil (d : Disk) (h : place ≠ []) : d.entry? place = d.entries.lookup place := by
  simp [ entry?, h]

theorem entry?_put (d : Disk) (h : place ≠ []) (entry : DiskEntry) (q : List String) :
    Disk.entry? (d.put place entry) q = if q = place then some entry else d.entry? q := by
  by_cases hq : q = []
  · subst hq
    rw [if_neg (Ne.symm h)]
    rfl
  · rw [entry?_of_ne_nil _ hq, entry?_of_ne_nil _ hq, put, lookup_cons_eq_ite]
    split
    · rfl
    · rw [erase, lookup_filter_ne, if_neg (by assumption)]

theorem entry?_erase (d : Disk) (h : place ≠ []) (q : List String) :
    Disk.entry? (d.erase place) q = if q = place then none else d.entry? q := by
  by_cases hq : q = []
  · subst hq
    rw [if_neg (Ne.symm h)]
    rfl
  · rw [entry?_of_ne_nil _ hq, entry?_of_ne_nil _ hq, erase, lookup_filter_ne]

theorem file?_eq_some_iff (d : Disk) (place : List String) (content : String) :
    d.file? place = some content ↔ d.entry? place = some (.file content) := by
  unfold file?
  split <;> simp_all

theorem file?_congr (h : d'.entry? place = d.entry? place) : d'.file? place = d.file? place := by
  rw [file?, file?, h]

theorem file?_erase (d : Disk) (h : place ≠ []) (q : List String) :
    (d.erase place).file? q = if q = place then none else d.file? q := by
  by_cases hq : q = place
  · rw [if_pos hq, file?, entry?_erase d h, if_pos hq]
  · rw [if_neg hq]
    exact file?_congr (by rw [entry?_erase d h, if_neg hq])

/-! ### Trees -/

/-- Whatever has a place stands in a directory. -/
def IsTree (d : Disk) : Prop :=
  ∀ place entry, d.entry? place = some entry → d.entry? place.dropLast = some .directory

theorem isTree_empty : IsTree {} := by
  intro place entry h
  by_cases hplace : place = []
  · rw [hplace]
    rfl
  · rw [entry?_of_ne_nil _ hplace] at h
    cases h

/-- Nothing stands below a place where nothing is. -/
theorem entry?_eq_none_of_prefix (h : d.IsTree) (hplace : d.entry? place = none) {q : List String}
    (hq : place <+: q) : d.entry? q = none := by
  obtain ⟨rest, rfl⟩ := hq
  induction rest using List.reverseRecOn with
  | nil => rwa [List.append_nil]
  | append_singleton rest s ih =>
    cases hentry : d.entry? (place ++ (rest ++ [s])) with
    | none => rfl
    | some entry =>
      have hparent := h _ _ hentry
      rw [← List.append_assoc, List.dropLast_concat, ih] at hparent
      cases hparent

theorem isTree_put (h : d.IsTree) {dir : List String} {name : String} {entry : DiskEntry}
    (hdir : d.entry? dir = some .directory)
    (hplace : d.entry? (dir ++ [name]) = some .directory → entry = .directory) :
    (d.put (dir ++ [name]) entry).IsTree := by
  have hput := d.entry?_put (show dir ++ [name] ≠ [] by simp) entry
  intro q e hq
  by_cases hqd : q.dropLast = dir ++ [name]
  · -- what stands below the place is there only if the place is a directory
    rw [hput] at hq
    split at hq
    · rename_i heq
      subst heq
      rw [hput, if_neg (by simp)]
      rwa [List.dropLast_concat]
    · have hparent := h q e hq
      rw [hqd] at hparent
      rw [hput, hqd, if_pos rfl, hplace hparent]
  · rw [hput, if_neg hqd]
    rw [hput] at hq
    split at hq
    · rename_i heq
      rw [heq, List.dropLast_concat]
      exact hdir
    · exact h q e hq

/-- A disk with one directory. -/
theorem isTree_put_empty (name : String) : (put {} [name] .directory).IsTree :=
  isTree_put isTree_empty (show Disk.entry? {} [] = some .directory from rfl) fun _ => rfl

theorem isTree_erase (h : d.IsTree) (hne : place ≠ []) {content : String}
    (hplace : d.entry? place = some (.file content)) : (d.erase place).IsTree := by
  have herase := d.entry?_erase hne
  intro q e hq
  rw [herase] at hq
  split at hq
  · cases hq
  · have hparent := h q e hq
    rw [herase, if_neg]
    · exact hparent
    · intro heq
      rw [heq, hplace] at hparent
      cases hparent

/-! ### Walking -/

/-- A walk gets past a segment: it says nothing, goes back, or names a directory. -/
def Passes (d : Disk) (place : List String) (s : String) : Prop :=
  counts s = false ∨ s = ".." ∨ (tooLong s = false ∧ d.entry? (place ++ [s]) = some .directory)

theorem walk_cons_eq_ok_iff {s : String} {q : List String} :
    d.walk place (s :: segments) = .ok q ↔
      d.Passes place s ∧ d.walk (follow place s) segments = .ok q := by
  have hcounts : (s.isEmpty || s == ".") = !counts s := by simp [counts, bne]
  unfold Passes
  rw [walk, follow, hcounts]
  cases counts s with
  | false => simp
  | true =>
    simp only [Bool.not_true, Bool.false_eq_true, ↓reduceIte, beq_iff_eq, Bool.true_eq_false, false_or]
    by_cases hdots : s = ".."
    · simp [hdots]
    · simp only [hdots, ↓reduceIte, false_or]
      cases tooLong s with
      | true => simp
      | false =>
        simp only [Bool.false_eq_true, ↓reduceIte, true_and]
        split <;> simp_all

theorem walk_append_eq_ok_iff {front rest q : List String} :
    d.walk place (front ++ rest) = .ok q ↔
      ∃ p, d.walk place front = .ok p ∧ d.walk p rest = .ok q := by
  induction front generalizing place with
  | nil => simp [walk]
  | cons s front ih =>
    simp only [List.cons_append, walk_cons_eq_ok_iff, ih, and_assoc, exists_and_left]

theorem walk_filter_counts_eq_ok_iff {q : List String} :
    d.walk place (segments.filter counts) = .ok q ↔ d.walk place segments = .ok q := by
  induction segments generalizing place with
  | nil => rfl
  | cons s segments ih =>
    cases h : counts s with
    | true => rw [List.filter_cons_of_pos h, walk_cons_eq_ok_iff, walk_cons_eq_ok_iff, ih]
    | false =>
      rw [List.filter_cons_of_neg (by simp [h]), ih, walk_cons_eq_ok_iff, follow_of_not_counts h]
      simp [Passes, h]

/-- Wherever a walk arrives, it is where the segments lead. -/
theorem resolve_of_walk {q : List String} (h : d.walk place segments = .ok q) :
    q = resolve place segments := by
  induction segments generalizing place with
  | nil => exact (Except.ok.inj h).symm
  | cons s segments ih => exact ih (walk_cons_eq_ok_iff.mp h).2

/-- A place that can be walked to by its own names. -/
structure Straight (d : Disk) (place : List String) : Prop where
  isName : ∀ s ∈ place, IsName s
  walk : d.walk [] place = .ok place

theorem straight_nil (d : Disk) : d.Straight [] := ⟨by rintro _ ⟨⟩, rfl⟩

theorem Straight.concat (h : d.Straight place) {s : String} (hname : IsName s)
    (hpasses : d.Passes place s) : d.Straight (place ++ [s]) where
  isName := by
    intro s' hs'
    obtain hs' | hs' := List.mem_append.mp hs'
    · exact h.isName s' hs'
    · rwa [List.mem_singleton.mp hs']
  walk := by
    rw [walk_append_eq_ok_iff]
    refine ⟨place, h.walk, walk_cons_eq_ok_iff.mpr ⟨hpasses, ?_⟩⟩
    rw [follow_of_isName hname]
    rfl

theorem Straight.dropLast (h : d.Straight place) : d.Straight place.dropLast := by
  obtain rfl | ⟨front, s, rfl⟩ := List.eq_nil_or_concat place
  · exact h
  · rw [List.concat_eq_append] at h ⊢
    rw [List.dropLast_concat]
    have hfront : ∀ s ∈ front, IsName s := fun s hs => h.isName s (List.mem_append_left _ hs)
    obtain ⟨q, hwalk, _⟩ := walk_append_eq_ok_iff.mp h.walk
    have hq := resolve_of_walk hwalk
    rw [resolve_of_forall_isName hfront, List.nil_append] at hq
    exact ⟨hfront, hq ▸ hwalk⟩

/-- Wherever a walk arrives can be walked to by its own names. -/
theorem straight_of_walk (hplace : d.Straight place) {q : List String}
    (h : d.walk place segments = .ok q) : d.Straight q := by
  induction segments generalizing place with
  | nil => rwa [← Except.ok.inj h]
  | cons s segments ih =>
    obtain ⟨hpasses, hrest⟩ := walk_cons_eq_ok_iff.mp h
    refine ih ?_ hrest
    by_cases hcounts : counts s = false
    · rwa [follow_of_not_counts hcounts]
    · by_cases hdots : s = ".."
      · rw [hdots]
        exact hplace.dropLast
      · have hname : IsName s := ⟨by simpa using hcounts, hdots⟩
        rw [follow_of_isName hname]
        exact hplace.concat hname hpasses

theorem Straight.entry? (h : d.Straight place) : d.entry? place = some .directory := by
  obtain rfl | ⟨front, s, rfl⟩ := List.eq_nil_or_concat place
  · rfl
  · rw [List.concat_eq_append] at h ⊢
    obtain ⟨hcounts, hdots⟩ := h.isName s (by simp)
    obtain ⟨q, hfront, hs⟩ := walk_append_eq_ok_iff.mp h.walk
    have hq := resolve_of_walk hfront
    rw [resolve_of_forall_isName fun s hs => h.isName s (List.mem_append_left _ hs)] at hq
    obtain ⟨hnot | rfl | ⟨_, hentry⟩, _⟩ := walk_cons_eq_ok_iff.mp hs
    · rw [hcounts] at hnot
      cases hnot
    · exact absurd rfl hdots
    · rwa [hq] at hentry

/-- A walk arrives at a directory. -/
theorem entry?_of_walk {q : List String} (h : d.walk [] segments = .ok q) :
    d.entry? q = some .directory := Straight.entry? (straight_of_walk (straight_nil d) h)

/-- All places on a way that can be walked are directories. -/
theorem entry?_of_onWay {path : String} {q : List String}
    (h : d.walk [] (components path) = .ok q) (hplace : OnWay path place) :
    d.entry? place = some .directory := by
  obtain ⟨front, ⟨rest, hrest⟩, rfl⟩ := hplace
  rw [← hrest] at h
  obtain ⟨p, hfront, _⟩ := walk_append_eq_ok_iff.mp h
  rw [← resolve_of_walk hfront]
  exact entry?_of_walk hfront

/-- Every directory is still there. -/
def KeepsDirectories (d d' : Disk) : Prop :=
  ∀ place, d.entry? place = some .directory → d'.entry? place = some .directory

theorem KeepsDirectories.trans (h : d.KeepsDirectories d') (h' : d'.KeepsDirectories d'') :
    d.KeepsDirectories d'' := fun place hplace => h' place (h place hplace)

theorem walk_of_keepsDirectories (hkeeps : d.KeepsDirectories d') {q : List String}
    (h : d.walk place segments = .ok q) : d'.walk place segments = .ok q := by
  induction segments generalizing place with
  | nil => exact h
  | cons s segments ih =>
    rw [walk_cons_eq_ok_iff] at h ⊢
    refine ⟨?_, ih h.2⟩
    obtain hnot | hdots | ⟨hlong, hentry⟩ := h.1
    · exact .inl hnot
    · exact .inr (.inl hdots)
    · exact .inr (.inr ⟨hlong, hkeeps _ hentry⟩)

/-! ### Locating -/

theorem isName_iff {name : String} : isName name = true ↔ IsName name := by
  simp [isName, IsName, counts, and_assoc]

theorem locate_of_isName {name : String} (h : isName name = true) (front : List String) :
    d.locate (front ++ [name]) = (d.walk [] front).bind fun dir =>
      if tooLong name then .error .nameTooLong else .ok (dir ++ [name]) := by
  simp only [locate, List.getLast?_concat, List.dropLast_concat, h, ↓reduceIte]
  rfl

/-- The place of an entry is that of its name in a directory that can be walked to. -/
theorem locate_concat_eq_ok_iff {front : List String} {name : String} :
    d.locate (front ++ [name]) = .ok place ↔ isName name = true ∧ tooLong name = false ∧
      ∃ dir, d.walk [] front = .ok dir ∧ place = dir ++ [name] := by
  cases hname : isName name with
  | false =>
    simp only [locate, List.getLast?_concat, hname, Bool.false_eq_true, ↓reduceIte, false_and,
      iff_false]
    cases d.walk [] (front ++ [name]) <;> rintro ⟨⟩
  | true =>
    rw [locate_of_isName hname]
    cases d.walk [] front with
    | error e => simp [Except.bind]
    | ok dir =>
      cases tooLong name with
      | true => simp [Except.bind]
      | false => simp [Except.bind, eq_comm]

theorem exists_concat_of_locate (h : d.locate segments = .ok place) :
    ∃ front name, segments = front ++ [name] := by
  cases hlast : segments.getLast? with
  | none =>
    rw [locate, hlast] at h
    cases h
  | some name =>
    obtain ⟨front, hfront⟩ := List.getLast?_eq_some_iff.mp hlast
    exact ⟨front, name, hfront⟩

theorem ne_nil_of_locate (h : d.locate segments = .ok place) : place ≠ [] := by
  obtain ⟨front, name, rfl⟩ := exists_concat_of_locate h
  obtain ⟨_, _, dir, _, rfl⟩ := locate_concat_eq_ok_iff.mp h
  simp

theorem resolve_of_locate (h : d.locate segments = .ok place) : place = resolve [] segments := by
  obtain ⟨front, name, rfl⟩ := exists_concat_of_locate h
  obtain ⟨hname, _, dir, hwalk, rfl⟩ := locate_concat_eq_ok_iff.mp h
  have hfollow := follow_of_isName (isName_iff.mp hname) dir
  rw [resolve_append, ← resolve_of_walk hwalk]
  exact hfollow.symm

theorem place_of_locate {path : String} (h : d.locate (Path.segments path) = .ok place) :
    place = Path.place path := by
  rw [Path.place, components_eq_filter, resolve_filter_counts]
  exact resolve_of_locate h

/-- What can be located stands in a directory. -/
theorem parent_of_locate (h : d.locate segments = .ok place) :
    ∃ dir name, place = dir ++ [name] ∧ d.entry? dir = some .directory := by
  obtain ⟨front, name, rfl⟩ := exists_concat_of_locate h
  obtain ⟨_, _, dir, hwalk, rfl⟩ := locate_concat_eq_ok_iff.mp h
  exact ⟨dir, name, rfl, entry?_of_walk hwalk⟩

theorem locate_of_keepsDirectories (hkeeps : d.KeepsDirectories d')
    (h : d.locate segments = .ok place) : d'.locate segments = .ok place := by
  obtain ⟨front, name, rfl⟩ := exists_concat_of_locate h
  rw [locate_concat_eq_ok_iff] at h ⊢
  obtain ⟨hname, hlong, dir, hwalk, rfl⟩ := h
  exact ⟨hname, hlong, dir, walk_of_keepsDirectories hkeeps hwalk, rfl⟩

/-! ### Making directories -/

/-- Directories are made at some places where nothing was. -/
structure Grows (P : List String → Prop) (d d' : Disk) : Prop where
  entry? : ∀ place, d'.entry? place = d.entry? place ∨
    (d.entry? place = none ∧ d'.entry? place = some .directory ∧ P place)
  isTree : d.IsTree → d'.IsTree

section
variable {P Q : List String → Prop}

theorem grows_refl (d : Disk) : d.Grows P d := ⟨fun _ => .inl rfl, id⟩

theorem Grows.trans (h : d.Grows P d') (h' : d'.Grows P d'') : d.Grows P d'' where
  entry? := by
    intro place
    obtain hsame | ⟨hnone, hmade, hP⟩ := h.entry? place
    · rw [← hsame]
      exact h'.entry? place
    · obtain hsame' | ⟨hnone', _, _⟩ := h'.entry? place
      · exact .inr ⟨hnone, hsame'.trans hmade, hP⟩
      · cases hmade.symm.trans hnone'
  isTree htree := h'.isTree (h.isTree htree)

theorem Grows.mono_of_none (h : d.Grows P d')
    (hPQ : ∀ place, d.entry? place = none → P place → Q place) : d.Grows Q d' where
  entry? place := (h.entry? place).imp_right fun ⟨hnone, hmade, hP⟩ =>
    ⟨hnone, hmade, hPQ place hnone hP⟩
  isTree := h.isTree

theorem Grows.mono (h : d.Grows P d') (hPQ : ∀ place, P place → Q place) : d.Grows Q d' :=
  h.mono_of_none fun place _ => hPQ place

/-- What stands on a disk stands there when it has grown. -/
theorem Grows.entry?_of_some (h : d.Grows P d') {entry : DiskEntry}
    (hentry : d.entry? place = some entry) : d'.entry? place = some entry := by
  obtain hsame | ⟨hnone, _, _⟩ := h.entry? place
  · rw [hsame, hentry]
  · cases hnone.symm.trans hentry

theorem Grows.keepsDirectories (h : d.Grows P d') : d.KeepsDirectories d' :=
  fun _ hentry => h.entry?_of_some hentry

theorem Grows.file? (h : d.Grows P d') (place : List String) : d'.file? place = d.file? place := by
  obtain hsame | ⟨hnone, hmade, _⟩ := h.entry? place
  · exact file?_congr hsame
  · simp [Disk.file?, hnone, hmade]

end

theorem filter_counts_dropSlashes (segments : List String) :
    (dropSlashes segments).filter counts = segments.filter counts := by
  have hsplit : segments = dropSlashes segments ++ (segments.reverse.takeWhile String.isEmpty).reverse := by
    rw [dropSlashes, ← List.reverse_append, List.takeWhile_append_dropWhile, List.reverse_reverse]
  have hempty : (segments.reverse.takeWhile String.isEmpty).reverse.filter counts = [] := by
    rw [List.filter_eq_nil_iff]
    intro s hs
    have hs := List.mem_takeWhile_imp (List.mem_reverse.mp hs)
    simp [counts, hs]
  conv => rhs; rw [hsplit]
  rw [List.filter_append, hempty, List.append_nil]

theorem resolve_dropSlashes (place segments : List String) :
    resolve place (dropSlashes segments) = resolve place segments := by
  rw [← resolve_filter_counts, filter_counts_dropSlashes, resolve_filter_counts]

theorem makeDirectory_eq_ok (h : d.makeDirectory segments = .ok d') :
    ∃ place, d.locate (dropSlashes segments) = .ok place ∧ d.entry? place = none ∧
      d' = d.put place .directory := by
  unfold makeDirectory at h
  split at h
  · rename_i place hlocate
    split at h
    · cases h
    · rename_i hnone
      exact ⟨place, hlocate, hnone, (Except.ok.inj h).symm⟩
  · cases h
  · cases h

theorem grows_makeDirectory (h : d.makeDirectory segments = .ok d') :
    d.Grows (· = resolve [] segments) d' := by
  obtain ⟨place, hlocate, hnone, rfl⟩ := makeDirectory_eq_ok h
  have hput := d.entry?_put (ne_nil_of_locate hlocate) .directory
  constructor
  · intro q
    rw [hput]
    split
    · rename_i hq
      rw [hq, ← resolve_dropSlashes]
      exact .inr ⟨hnone, rfl, resolve_of_locate hlocate⟩
    · exact .inl rfl
  · intro htree
    obtain ⟨dir, name, rfl, hdir⟩ := parent_of_locate hlocate
    exact isTree_put htree hdir fun _ => rfl

/-- A directory that was made can be walked to. -/
theorem walk_of_makeDirectory (h : d.makeDirectory segments = .ok d') :
    d'.walk [] segments = .ok (resolve [] segments) := by
  have hkeeps := (grows_makeDirectory h).keepsDirectories
  obtain ⟨place, hlocate, hnone, rfl⟩ := makeDirectory_eq_ok h
  have hput := d.entry?_put (ne_nil_of_locate hlocate) .directory place
  rw [if_pos rfl] at hput
  have hplace := resolve_of_locate hlocate
  rw [← walk_filter_counts_eq_ok_iff, ← filter_counts_dropSlashes, walk_filter_counts_eq_ok_iff,
    ← resolve_dropSlashes, ← hplace]
  obtain ⟨front, name, hconcat⟩ := exists_concat_of_locate hlocate
  rw [hconcat] at hlocate ⊢
  obtain ⟨hname, hlong, dir, hwalk, rfl⟩ := locate_concat_eq_ok_iff.mp hlocate
  have hfollow := follow_of_isName (isName_iff.mp hname) dir
  rw [walk_append_eq_ok_iff]
  refine ⟨dir, walk_of_keepsDirectories hkeeps hwalk, ?_⟩
  rw [walk_cons_eq_ok_iff, hfollow]
  exact ⟨.inr (.inr ⟨hlong, hput⟩), rfl⟩

theorem grows_ensureDirectory (d : Disk) (segments : List String) :
    d.Grows (· = resolve [] segments) (d.ensureDirectory segments).2 := by
  unfold ensureDirectory
  split
  · rename_i hmade
    exact grows_makeDirectory hmade
  · exact grows_refl d

theorem grows_makeAll (d : Disk) (segments outer : List String) :
    d.Grows (fun place => place = resolve [] segments ∨
      ∃ front, front <+: outer.reverse ∧ place = resolve [] front) (d.makeAll segments outer).2 := by
  induction outer generalizing d segments with
  | nil => exact (grows_ensureDirectory d segments).mono fun _ h => .inl h
  | cons s outer ih =>
    unfold makeAll
    split
    · have hinner := (ih d (s :: outer).reverse).mono (Q := fun place => place = resolve [] segments ∨
          ∃ front, front <+: (s :: outer).reverse ∧ place = resolve [] front) (by
        rintro place (rfl | ⟨front, hfront, rfl⟩)
        · exact .inr ⟨_, List.prefix_rfl, rfl⟩
        · rw [List.reverse_cons]
          exact .inr ⟨front, hfront.trans (List.prefix_append _ _), rfl⟩)
      split
      · rename_i heq
        rw [heq] at hinner
        exact hinner.trans ((grows_ensureDirectory _ segments).mono fun _ h => .inl h)
      · rename_i heq
        rwa [heq] at hinner
    · exact (grows_ensureDirectory d segments).mono fun _ h => .inl h

/-- Directories are made on the way of the path alone. -/
theorem grows_createDirs (d : Disk) (path : String) :
    d.Grows (OnWay path) (d.createDirs path).2 := by
  unfold createDirs
  split
  · refine (grows_makeAll d _ _).mono ?_
    rintro place (rfl | ⟨front, hfront, rfl⟩)
    · rw [← resolve_filter_counts]
      exact onWay_place path
    · rw [List.reverse_reverse] at hfront
      exact ⟨front, hfront.trans (List.dropLast_prefix _), rfl⟩
  · exact grows_refl d

theorem grows_of_entries {P : List String → Prop} (h : d'.entries = d.entries) : d.Grows P d' where
  entry? place := .inl (by rw [Disk.entry?, Disk.entry?, h])
  isTree htree := by
    intro place entry hentry
    have hparent := htree place entry (by rwa [Disk.entry?, h] at hentry)
    rwa [Disk.entry?, h]

/-- A new directory is made in a place where nothing was. -/
theorem createFresh_eq_ok {parent front root : String}
    (h : d.createFresh parent front = (.ok root, d')) :
    (∃ n : Nat, root = join (join "/" parent) (front ++ toString n)) ∧
      d.entry? (Path.place root) = none ∧ d.Grows (· = Path.place root) d' ∧
      d'.walk [] (components root) = .ok (Path.place root) := by
  simp only [createFresh] at h
  split at h
  · split at h
    · rename_i made hmade
      obtain ⟨hroot, rfl⟩ := Prod.mk.inj h
      obtain rfl := Except.ok.inj hroot
      have hgrows := grows_makeDirectory hmade
      have hwalk := walk_of_makeDirectory hmade
      have hstamp : made.Grows (fun _ => False) { made with stamp := made.stamp + 1 } :=
        grows_of_entries rfl
      rw [← walk_filter_counts_eq_ok_iff, ← resolve_filter_counts] at hwalk
      rw [← resolve_filter_counts] at hgrows
      refine ⟨⟨d.stamp, rfl⟩, ?_, hgrows.trans (hstamp.mono fun _ => False.elim),
        walk_of_keepsDirectories hstamp.keepsDirectories hwalk⟩
      obtain ⟨place, hlocate, hnone, _⟩ := makeDirectory_eq_ok hmade
      have hplace := resolve_of_locate hlocate
      rw [resolve_dropSlashes, ← resolve_filter_counts] at hplace
      rwa [hplace] at hnone
    · cases (Prod.mk.inj h).1
  · cases (Prod.mk.inj h).1

theorem createFresh_eq_error {parent front : String} {e : DiskError}
    (h : d.createFresh parent front = (.error e, d')) : d' = d := by
  simp only [createFresh] at h
  split at h
  · split at h
    · cases (Prod.mk.inj h).1
    · exact (Prod.mk.inj h).2.symm
  · exact (Prod.mk.inj h).2.symm

/-! ### Files -/

/-- A path names a file with some content. -/
structure Holds (d : Disk) (path content : String) : Prop where
  isValid : isValid path = true
  locate : d.locate (Path.segments path) = .ok (Path.place path)
  entry? : d.entry? (Path.place path) = some (.file content)

section
variable {path content : String}

theorem Holds.ne_nil (h : d.Holds path content) : Path.place path ≠ [] := ne_nil_of_locate h.locate

theorem Holds.read? (h : d.Holds path content) : d.read? path = some content := by
  rw [Disk.read?, h.locate]
  exact (file?_eq_some_iff ..).mpr h.entry?

theorem Holds.removeFile (h : d.Holds path content) :
    d.removeFile path = .ok (d.erase (Path.place path)) := by
  rw [Disk.removeFile, if_pos h.isValid, h.locate]
  simp only [bind, Except.bind, h.entry?]

theorem removeFile_eq_ok (h : d.removeFile path = .ok d') :
    ∃ content, d.Holds path content ∧ d' = d.erase (Path.place path) := by
  unfold Disk.removeFile at h
  split at h
  · rename_i hvalid
    cases hlocate : d.locate (Path.segments path) with
    | error e =>
      rw [hlocate] at h
      cases h
    | ok place =>
      simp only [hlocate, bind, Except.bind] at h
      split at h
      · rename_i content hentry
        obtain rfl := place_of_locate hlocate
        exact ⟨content, ⟨hvalid, hlocate, hentry⟩, (Except.ok.inj h).symm⟩
      · cases h
      · cases h
  · cases h

theorem Holds.isTree_erase (h : d.Holds path content) (htree : d.IsTree) :
    (d.erase (Path.place path)).IsTree := Disk.isTree_erase htree h.ne_nil h.entry?

/-- A file stays while the directories and its own entry do. -/
theorem Holds.of_keepsDirectories (h : d.Holds path content) (hkeeps : d.KeepsDirectories d')
    (hentry : d'.entry? (Path.place path) = d.entry? (Path.place path)) : d'.Holds path content where
  isValid := h.isValid
  locate := locate_of_keepsDirectories hkeeps h.locate
  entry? := hentry.trans h.entry?

theorem keepsDirectories_erase (hne : place ≠ []) (hentry : d.entry? place ≠ some .directory) :
    d.KeepsDirectories (d.erase place) := by
  intro q hq
  rw [entry?_erase d hne, if_neg]
  · exact hq
  · rintro rfl
    exact hentry hq

theorem Holds.keepsDirectories_erase (h : d.Holds path content) :
    d.KeepsDirectories (d.erase (Path.place path)) :=
  Disk.keepsDirectories_erase h.ne_nil (by rw [h.entry?]; simp)

theorem keepsDirectories_put (hne : place ≠ []) (hentry : d.entry? place ≠ some .directory)
    (entry : DiskEntry) : d.KeepsDirectories (d.put place entry) := by
  intro q hq
  rw [entry?_put d hne, if_neg]
  · exact hq
  · rintro rfl
    exact hentry hq

/-- Writing puts a file where no directory is. -/
theorem write_eq_ok (h : d.write path content = .ok d') :
    d'.Holds path content ∧ d' = d.put (Path.place path) (.file content) ∧
      d.entry? (Path.place path) ≠ some .directory ∧ (d.IsTree → d'.IsTree) := by
  unfold write at h
  split at h
  · rename_i hvalid
    cases hlocate : d.locate (Path.segments path) with
    | error e =>
      rw [hlocate] at h
      cases h
    | ok place =>
      simp only [hlocate, bind, Except.bind] at h
      split at h
      · cases h
      · rename_i hentry
        obtain rfl := Except.ok.inj h
        have hne := ne_nil_of_locate hlocate
        have hnot : d.entry? place ≠ some .directory := fun heq => hentry heq
        have hkeeps := keepsDirectories_put hne hnot (.file content)
        obtain rfl := place_of_locate hlocate
        refine ⟨⟨hvalid, locate_of_keepsDirectories hkeeps hlocate, ?_⟩, rfl, hnot, ?_⟩
        · rw [entry?_put d hne, if_pos rfl]
        · intro htree
          obtain ⟨dir, name, hplace, hdir⟩ := parent_of_locate hlocate
          rw [hplace] at hnot ⊢
          exact isTree_put htree hdir fun heq => absurd heq hnot
  · cases h

theorem keepsDirectories_write (h : d.write path content = .ok d') : d.KeepsDirectories d' := by
  obtain ⟨hholds, rfl, hentry, _⟩ := write_eq_ok h
  exact keepsDirectories_put hholds.ne_nil hentry (.file content)

theorem entry?_write_of_ne (h : d.write path content = .ok d') (hplace : place ≠ Path.place path) :
    d'.entry? place = d.entry? place := by
  obtain ⟨hholds, rfl, _⟩ := write_eq_ok h
  rw [entry?_put d hholds.ne_nil, if_neg hplace]

/-- A file that is written and removed again leaves the directories as they are. -/
theorem keepsDirectories_erase_write (h : d.write path content = .ok d') :
    d.KeepsDirectories (d'.erase (Path.place path)) :=
  (keepsDirectories_write h).trans (write_eq_ok h).1.keepsDirectories_erase

theorem isTree_erase_write (h : d.write path content = .ok d') (htree : d.IsTree) :
    (d'.erase (Path.place path)).IsTree := by
  obtain ⟨hholds, _, _, hwritten⟩ := write_eq_ok h
  exact hholds.isTree_erase (hwritten htree)

end

/-! ### Lost files -/

/-- Files may be lost, and nothing is new. -/
def Loses (d d' : Disk) : Prop :=
  ∀ place, d'.entry? place = d.entry? place ∨
    ((∃ content, d.entry? place = some (.file content)) ∧ d'.entry? place = none)

theorem Loses.keepsDirectories (h : d.Loses d') : d.KeepsDirectories d' := by
  intro place hplace
  obtain hsame | ⟨⟨content, hfile⟩, _⟩ := h place
  · rw [hsame, hplace]
  · cases hplace.symm.trans hfile

theorem Loses.isTree (h : d.Loses d') (htree : d.IsTree) : d'.IsTree := by
  intro place entry hentry
  obtain hsame | ⟨_, hnone⟩ := h place
  · exact h.keepsDirectories _ (htree place entry (hsame ▸ hentry))
  · cases hnone.symm.trans hentry

theorem Loses.file? (h : d.Loses d') {content : String} (hfile : d'.file? place = some content) :
    d.file? place = some content := by
  rw [file?_eq_some_iff] at hfile ⊢
  obtain hsame | ⟨_, hnone⟩ := h place
  · rw [← hsame, hfile]
  · cases hnone.symm.trans hfile

/-- The disk once a file is removed, if it could be. -/
def without (d : Disk) (path : String) : Disk :=
  match d.removeFile path with
  | .ok d' => d'
  | .error _ => d

theorem without_cases (d : Disk) (path : String) :
    d.without path = d ∨
      ∃ content, d.Holds path content ∧ d.without path = d.erase (Path.place path) := by
  unfold without
  split
  · rename_i hremove
    exact .inr (removeFile_eq_ok hremove)
  · exact .inl rfl

theorem Holds.without {path content : String} (h : d.Holds path content) :
    d.without path = d.erase (Path.place path) := by
  rw [Disk.without, h.removeFile]

theorem loses_without (d : Disk) (path : String) : d.Loses (d.without path) := by
  intro place
  obtain hsame | ⟨content, hholds, herased⟩ := d.without_cases path
  · rw [hsame]
    exact .inl rfl
  · rw [herased, entry?_erase d hholds.ne_nil]
    split
    · rename_i hplace
      exact .inr ⟨⟨content, hplace ▸ hholds.entry?⟩, rfl⟩
    · exact .inl rfl

/-! ### Slashes -/

/-- No entry is named with a slash behind it. -/
theorem locate_slash (d : Disk) (path : String) :
    d.locate (Path.segments (path ++ "/")) ≠ .ok place := by
  intro h
  have hsegments : Path.segments (path ++ "/") = Path.segments path ++ [""] := by
    rw [← String.append_empty (s := path ++ "/"), segments_append_slash]
    rfl
  rw [hsegments, locate_concat_eq_ok_iff] at h
  exact absurd h.1 (by decide)

theorem read?_slash (d : Disk) (path : String) : d.read? (path ++ "/") = none := by
  unfold read?
  split
  · rename_i hlocate
    exact absurd hlocate (d.locate_slash path)
  · rfl

theorem without_slash (d : Disk) (path : String) : d.without (path ++ "/") = d := by
  obtain hsame | ⟨_, hholds, _⟩ := d.without_cases (path ++ "/")
  · exact hsame
  · exact absurd hholds.locate (d.locate_slash path)

/-! ### Removing directories -/

/-- Removing a directory takes all that is at its place or below. -/
theorem entry?_removeTree {path : String}
    (h : d.walk [] (components path) = .ok (Path.place path)) {q : List String} (hq : q ≠ []) :
    Disk.entry? (d.removeTree path) q = if Path.place path <+: q then none else d.entry? q := by
  rw [components_eq_filter, walk_filter_counts_eq_ok_iff] at h
  rw [removeTree, h, entry?_of_ne_nil _ hq, entry?_of_ne_nil _ hq,
    lookup_filter_key (fun key => !(Path.place path).isPrefixOf key)]
  by_cases hbelow : Path.place path <+: q
  · simp [hbelow, List.isPrefixOf_iff_prefix.mpr hbelow]
  · have hnot : (Path.place path).isPrefixOf q = false := by
      rwa [← Bool.not_eq_true, List.isPrefixOf_iff_prefix]
    simp [hbelow, hnot]

end Polyglot.Disk
