import Polyglot.Proofs.Delivery.Ledger
import Polyglot.Proofs.Url.ReadBack

/-! What the URIs of placed files name. The directory of all files has a name of its own that is never
that of a drive, so the URI of a file leads to where the file is exactly if that of the directory around
leads there; and it ends as a drive does exactly if the extension of the file does. -/

namespace Polyglot

open Polyglot.Path (IsSegment components)

/-- A file can be named by its place. -/
theorem Disk.Holds.slashed {d : Disk} {path content : String} (h : d.Holds path content)
    (htidy : Url.Tidy (Path.place path)) : d.Holds (Url.slashed (Path.place path)) content := by
  have hplace : Path.place (Url.slashed (Path.place path)) = Path.place path :=
    Url.place_of_tidy htidy (Url.components_slashed_of_tidy htidy)
  refine ⟨?_, ?_, by rw [hplace]; exact h.entry?⟩
  · have hvalid := h.isValid
    simp only [Disk.isValid, List.contains_eq_mem, Bool.not_eq_true',
      decide_eq_false_iff_not] at hvalid ⊢
    intro hc
    obtain hc | ⟨name, hname, hc⟩ := Url.mem_slashed hc
    · cases hc
    · exact hvalid (Path.mem_toList_of_mem_place hname hc)
  · have hlocate := h.locate
    obtain ⟨front, name, hsegments⟩ := Disk.exists_concat_of_locate hlocate
    rw [hsegments] at hlocate
    obtain ⟨hname, hlong, dir, hwalk, hdir⟩ := Disk.locate_concat_eq_ok_iff.mp hlocate
    have hstraight := Disk.straight_of_walk (Disk.straight_nil d) hwalk
    rw [hplace, Url.segments_slashed fun name hname => (htidy.isName name hname).2, hdir,
      ← List.cons_append, Disk.locate_concat_eq_ok_iff]
    exact ⟨hname, hlong, dir, hstraight.walk, rfl⟩

namespace TempFiles

/-- The name of a file ends as its extension does. -/
theorem endsInDrive_fileName (t : TempFiles) {extension : String} (hne : extension ≠ "") :
    Url.endsInDrive (t.fileName extension) = Url.endsInDrive extension := by
  have hfront : ∃ front : String, t.fileName extension = front ++ "." ++ extension := by
    unfold fileName
    split
    · exact ⟨fileStem, rfl⟩
    · exact ⟨_, rfl⟩
  obtain ⟨front, hname⟩ := hfront
  have hlist : (t.fileName extension).toList = front.toList ++ '.' :: extension.toList := by
    simp [hname]
  exact Url.endsInDrive_of_toList _ hlist (by decide) hne

/-- A path leads to a file with an extension, through the directory of all files inside another. -/
def PlacedAs (base extension path : String) : Prop :=
  ∃ (n : Nat) (name : String), IsSegment extension ∧ IsSegment name ∧
    Url.endsInDrive name = Url.endsInDrive extension ∧
    components path = components base ++ [rootFront ++ toString n, extension, name]

theorem placedAs_pathIn {base root extension : String} {d : Disk} (h : RootIn base root d)
    (hextension : IsSegment extension) (t : TempFiles) :
    PlacedAs base extension (pathIn root extension (t.fileName extension)) := by
  obtain ⟨n, hroot⟩ := h.components
  have hname := t.isSegment_fileName hextension
  refine ⟨n, t.fileName extension, hextension, hname, t.endsInDrive_fileName hextension.ne_empty, ?_⟩
  rw [components_pathIn _ hextension hname, hroot, List.append_assoc, List.singleton_append]

/-- A placed path without a way back is its place. -/
theorem PlacedAs.place_eq {base extension path : String} (h : PlacedAs base extension path)
    (hbase : ".." ∉ components base) : Path.place path = components path := by
  obtain ⟨n, name, hextension, hname, _, hcomponents⟩ := h
  rw [Path.place, Path.resolve_of_forall_isName, List.nil_append]
  intro s hs
  rw [hcomponents] at hs
  obtain hs | hs := List.mem_append.mp hs
  · refine ⟨(Path.mem_components hs).1, ?_⟩
    rintro rfl
    exact hbase hs
  · simp only [List.mem_cons, List.not_mem_nil, or_false] at hs
    obtain rfl | rfl | rfl := hs
    · exact Path.isName_of_isSegment (isSegment_rootFront n)
    · exact Path.isName_of_isSegment hextension
    · exact Path.isName_of_isSegment hname

/-- The names that the URI of a placed file is read as, beside those of its path. -/
theorem exists_reads {base path uri extension name : String} {n : Nat}
    (hextension : IsSegment extension) (hname : IsSegment name)
    (hcomponents : components path = components base ++ [rootFront ++ toString n, extension, name])
    (huri : Url.ofFilePath? path = some uri) :
    ∃ url names, Url.Reads uri url names ∧ (names = Path.place path ↔ Url.Legible base) ∧
      Url.endsInDrive (Url.slashed names) = Url.endsInDrive name := by
  have hsegments : ∀ s ∈ [rootFront ++ toString n, extension, name], IsSegment s := by
    simp only [List.forall_mem_cons]
    exact ⟨isSegment_rootFront n, hextension, hname, by rintro _ ⟨⟩⟩
  have hplace : Path.place path =
      Path.place base ++ [rootFront ++ toString n, extension, name] := by
    rw [Path.place, hcomponents, Path.resolve_append,
      Path.resolve_of_forall_isName fun s hs => Path.isName_of_isSegment (hsegments s hs)]
    rfl
  have hroot : 2 < (rootFront ++ toString n).length := by
    have hfront : rootFront.length = 12 := by decide
    rw [String.length_append]
    omega
  have hdrive : ∀ s ∈ [rootFront ++ toString n, extension, name].head?, Url.isDrive s = false := by
    rintro _ ⟨⟩
    exact Url.isDrive_of_length hroot
  obtain ⟨url, hreads⟩ := Url.exists_reads hcomponents (by simp) hsegments hdrive huri
  refine ⟨url, _, hreads, ?_, ?_⟩
  · rw [hplace, List.append_left_inj, Url.legible_iff]
  · have hconcat : Url.readPlace base ++ [rootFront ++ toString n, extension, name] =
        (Url.readPlace base ++ [rootFront ++ toString n, extension]) ++ [name] := by
      simp
    rw [hconcat, Url.endsInDrive_slashed _ hname.ne_empty]

/-- The path that is read from the URI of a placed file is that of the file exactly if URIs are read
back. -/
theorem exists_filePath? {base path uri extension content : String} {d : Disk}
    (hplaced : PlacedAs base extension path) (huri : Url.ofFilePath? path = some uri)
    (hholds : d.Holds path content) :
    ∃ url read, Url.parse? uri = some url ∧ url.filePath? = some read ∧
      (Path.place read = Path.place path ∧ d.read? read = some content ↔
        Url.ReadBack base extension) ∧
      (Url.Legible base → Path.components read = Path.place path) := by
  obtain ⟨n, name, hextension, hname, hends, hcomponents⟩ := hplaced
  obtain ⟨url, names, hreads, hnames, hlast⟩ :=
    exists_reads hextension hname hcomponents huri
  have hread := Url.components_slashed_of_tidy hreads.tidy
  have hplace := Url.place_of_tidy hreads.tidy hread
  refine ⟨url, _, hreads.parsed, hreads.filePath?, ?_, ?_⟩
  · rw [Url.place_closeDrive, hplace]
    constructor
    · rintro ⟨heq, hcontent⟩
      refine ⟨hnames.mp heq, ?_⟩
      rw [← hends, ← hlast, ← Bool.not_eq_true]
      intro hdrive
      rw [Url.closeDrive_of_endsInDrive hdrive, Disk.read?_slash] at hcontent
      cases hcontent
    · rintro ⟨hlegible, hdrive⟩
      obtain rfl := hnames.mpr hlegible
      rw [Url.closeDrive_of_not_endsInDrive (hlast.trans (hends.trans hdrive))]
      exact ⟨rfl, (hholds.slashed hreads.tidy).read?⟩
  · intro hlegible
    rw [Url.components_closeDrive, hread, hnames.mpr hlegible]

end TempFiles

end Polyglot
