import Polyglot.Proofs.Url.FilePath

/-! Which file URLs are read back as the paths that they were made of. Where the URL of a directory
leads back to it, so do the URLs of what is below it, with one exception: a path that ends as a drive
does, in a letter and a colon or a bar, comes back with a slash behind it, and names no file any more. -/

namespace Polyglot.Url

open Text

/-! ### Tidy names -/

/-- Names that are read as they are: each names an entry, and the first is no drive with a bar. -/
structure Tidy (names : List String) : Prop where
  isName : ∀ name ∈ names, Path.IsName name ∧ '/' ∉ name.toList
  drive : ∀ name ∈ names.head?, isDrive name = true → drive name = name

theorem tidy_nil : Tidy [] := ⟨by simp, by simp⟩

theorem Tidy.dropLast {names : List String} (h : Tidy names) : Tidy names.dropLast where
  isName name hname := h.isName name (List.dropLast_subset _ hname)
  drive := by
    intro name hname
    apply h.drive
    match names, hname with
    | first :: _ :: _, hname => exact hname

theorem isName_drive {name : String} (h : isDrive name = true) :
    Path.IsName (drive name) ∧ '/' ∉ (drive name).toList := by
  obtain ⟨c, _, hname, hc, _⟩ := toList_of_isDrive h
  rw [drive_of_toList hname]
  have hne : ∀ s : String, s.toList ≠ [c, ':'] → String.ofList [c, ':'] ≠ s := by
    rintro s hs rfl
    exact hs String.toList_ofList
  refine ⟨⟨?_, hne _ (by simp)⟩, ?_⟩
  · rw [Path.counts, Bool.and_eq_true, Bool.not_eq_true', String.isEmpty_eq_false_iff, bne_iff_ne]
    exact ⟨hne _ (by simp), hne _ (by simp)⟩
  · have hslash : c ≠ '/' := by
      rintro rfl
      cases hc
    simp [hslash.symm]

theorem drive_drive {name : String} (h : isDrive name = true) : drive (drive name) = drive name := by
  obtain ⟨c, _, hname, _, _⟩ := toList_of_isDrive h
  rw [drive_of_toList hname, drive_of_toList String.toList_ofList]

theorem tidy_readName {names : List String} (h : Tidy names) {name : String}
    (hcounts : Path.counts name = true) (hslash : '/' ∉ name.toList) : Tidy (readName names name) := by
  unfold readName
  split
  · split
    · exact h
    · exact h.dropLast
  · rename_i hdots
    split
    · rename_i hdrive
      rw [Bool.and_eq_true] at hdrive
      exact ⟨by simpa using isName_drive hdrive.2, by simpa using fun _ => drive_drive hdrive.2⟩
    · rename_i hdrive
      refine ⟨fun other hother => ?_, ?_⟩
      · obtain hother | hother := List.mem_append.mp hother
        · exact h.isName other hother
        · obtain rfl := List.mem_singleton.mp hother
          exact ⟨⟨hcounts, hdots⟩, hslash⟩
      · cases names with
        | nil =>
          simp only [List.isEmpty_nil, Bool.true_and, Bool.not_eq_true] at hdrive
          simp [hdrive]
        | cons first names => exact h.drive

theorem tidy_foldl_readName {names : List String}
    (h : ∀ name ∈ names, Path.counts name = true ∧ '/' ∉ name.toList) {front : List String}
    (hfront : Tidy front) : Tidy (names.foldl readName front) := by
  induction names generalizing front with
  | nil => exact hfront
  | cons name names ih =>
    rw [List.forall_mem_cons] at h
    exact ih h.2 (tidy_readName hfront h.1.1 h.1.2)

/-- A name that is not taken for another drive is read as it is. -/
theorem readName_of_isName {name : String} (h : Path.IsName name) {front : List String}
    (hdrive : front = [] → isDrive name = true → drive name = name) :
    readName front name = front ++ [name] := by
  unfold readName
  rw [if_neg h.2]
  split
  · rename_i hfirst
    rw [Bool.and_eq_true, List.isEmpty_iff] at hfirst
    obtain ⟨rfl, hname⟩ := hfirst
    rw [hdrive rfl hname, List.nil_append]
  · rfl

theorem foldl_readName {names : List String} (h : ∀ name ∈ names, Path.IsName name)
    {front : List String}
    (hdrive : front = [] → ∀ name ∈ names.head?, isDrive name = true → drive name = name) :
    names.foldl readName front = front ++ names := by
  induction names generalizing front with
  | nil => exact (List.append_nil front).symm
  | cons name names ih =>
    rw [List.forall_mem_cons] at h
    rw [List.foldl_cons, readName_of_isName h.1 fun hnil => hdrive hnil name rfl, ih h.2 (by simp),
      List.append_assoc, List.singleton_append]

theorem foldl_readName_of_tidy {names : List String} (h : Tidy names) :
    names.foldl readName [] = names :=
  foldl_readName (fun name hname => (h.isName name hname).1) fun _ => h.drive

theorem components_slashed_of_tidy {names : List String} (h : Tidy names) :
    Path.components (slashed names) = names := by
  rw [components_slashed fun name hname => (h.isName name hname).2, List.filter_eq_self]
  exact fun name hname => (h.isName name hname).1.1

theorem place_of_tidy {names : List String} (h : Tidy names) {path : String}
    (hpath : Path.components path = names) : Path.place path = names := by
  rw [Path.place, hpath, Path.resolve_of_forall_isName fun name hname => (h.isName name hname).1,
    List.nil_append]

/-! ### Drives -/

/-- What stands before the last name of a path does not count, nor what stands before its extension. -/
theorem endsInDrive_of_toList {path name : String} (front : List Char) {c : Char}
    (h : path.toList = front ++ c :: name.toList) (hc : c.isAlpha = false) (hne : name ≠ "") :
    endsInDrive path = endsInDrive name := by
  have hreverse : path.toList.reverse = name.toList.reverse ++ c :: front.reverse := by
    rw [h, List.reverse_append, List.reverse_cons, List.append_assoc, List.singleton_append]
  have hname : name.toList.reverse ≠ [] := by simpa using hne
  rw [endsInDrive, endsInDrive, hreverse]
  match name.toList.reverse, hname with
  | [d], _ => simp [isDriveLetter, hc]
  | d :: e :: r, _ => rfl

theorem slashed_concat (names : List String) (name : String) :
    slashed (names ++ [name]) = slashed names ++ "/" ++ name := by
  induction names with
  | nil => simp [slashed_cons]
  | cons first names ih =>
    rw [List.cons_append, slashed_cons, ih, slashed_cons]
    simp [String.append_assoc]

/-- A path ends as a drive does if its last name does. -/
theorem endsInDrive_slashed (names : List String) {name : String} (hne : name ≠ "") :
    endsInDrive (slashed (names ++ [name])) = endsInDrive name := by
  have hlist : (slashed (names ++ [name])).toList = (slashed names).toList ++ '/' :: name.toList := by
    simp [slashed_concat]
  exact endsInDrive_of_toList _ hlist (by decide) hne

theorem closeDrive_of_not_endsInDrive {path : String} (h : endsInDrive path = false) :
    closeDrive path = path := if_neg (by simp [h])

theorem closeDrive_of_endsInDrive {path : String} (h : endsInDrive path = true) :
    closeDrive path = path ++ "/" := if_pos h

@[simp] theorem components_closeDrive (path : String) :
    Path.components (closeDrive path) = Path.components path := by
  have hempty : Path.components "" = [] := by decide
  unfold closeDrive
  split
  · rw [← String.append_empty (s := path ++ "/"), Path.components_eq_filter,
      Path.segments_append_slash, List.filter_append, ← Path.components_eq_filter "", hempty,
      List.append_nil]
    rfl
  · rfl

@[simp] theorem place_closeDrive (path : String) : Path.place (closeDrive path) = Path.place path := by
  rw [Path.place, components_closeDrive]
  rfl

/-! ### Reading paths back -/

theorem ne_dot_of_mem_components {path name : String} (h : name ∈ Path.components path) :
    name ≠ "." := by
  rintro rfl
  exact absurd (Path.mem_components h).1 (by decide)

theorem parse?_fileText {names : List String} (hne : names ≠ []) (h : ∀ name ∈ names, name ≠ ".") :
    parse? (fileText names) = some (ofSegments ((names.foldl readName [] ++
      if names.getLast? = some ".." then [""] else []).map encodeSegment)) := by
  obtain ⟨first, rest, rfl⟩ := List.exists_cons_of_ne_nil hne
  have hfront : "file:///".toList = "file://".toList ++ ['/'] := by decide
  have htext : fileText (first :: rest) = String.ofList ("file:///".toList ++
      ((encodeSegment first).toList ++ (slashed (rest.map encodeSegment)).toList)) := by
    rw [← String.toList_inj, fileText, List.map_cons, String.toList_append, toList_slashed_cons,
      hfront, List.append_assoc, List.singleton_append]
    exact String.toList_ofList.symm
  have hno : ∀ name ∈ rest.map encodeSegment, '/' ∉ name.toList := by
    intro name hname
    obtain ⟨_, _, rfl⟩ := List.mem_map.mp hname
    exact not_mem_encodeSegment _
  have hsegments := resolveDots_map_encodeSegment h []
  rw [htext, parse?_of_forall_isPlain, splitOn_append_slashed hno _ (not_mem_encodeSegment first),
    ← hsegments, List.map_cons, List.map_map]
  · rfl
  · intro c hc
    obtain hc | hc := List.mem_append.mp hc
    · exact .inr (isPlain_of_mem_encodeSegment hc)
    · exact eq_slash_or_isPlain_of_mem_slashed hc

/-- The path that a file URL names is that of its names. -/
theorem namedPath?_ofSegments (names : List String) :
    (ofSegments (names.map encodeSegment)).namedPath? = some (slashed names) := by
  have hdecode : (names.map encodeSegment).mapM (fun s => Percent.decode? s.toList) = some names := by
    induction names with
    | nil => rfl
    | cons name names ih => simp [List.mapM_cons, decode?_encodeSegment, ih]
  simp only [namedPath?, ofSegments, hdecode]
  rfl

theorem text_ofSegments (names : List String) :
    (ofSegments (names.map encodeSegment)).text = fileText names := by
  have hfront : "file" ++ ":" ++ "//" = "file://" := by decide
  simp only [text, authorityText, pathText, ofSegments, Option.map_none, Option.getD_none,
    String.append_empty, Option.isNone_some, Bool.false_and, Bool.false_eq_true, ↓reduceIte,
    String.empty_append, hfront]
  rfl

/-- The place where a reader of URLs finds what a path names. -/
def readPlace (path : String) : List String := (Path.components path).foldl readName []

theorem tidy_readPlace (path : String) : Tidy (readPlace path) :=
  tidy_foldl_readName (fun _ => Path.mem_components) tidy_nil

/-- The URL of a directory leads to where it is read. -/
theorem exists_filePath? (base : String) :
    ∃ uri url path, ofFilePath? (Path.join "/" base) = some uri ∧ parse? uri = some url ∧
      url.filePath? = some path ∧ Path.place path = readPlace base := by
  have habsolute : Path.isAbsolute (Path.join "/" base) = true := by
    cases h : Path.isAbsolute base with
    | true => rwa [Path.join, if_pos h]
    | false =>
      rw [Path.join, if_neg (by simp [h])]
      simp [Path.isAbsolute]
  have huri : ofFilePath? (Path.join "/" base) =
      some ("file://" ++ Path.ofComponents ((Path.components base).map encodeSegment)) := by
    rw [ofFilePath?, if_pos habsolute, Path.components_join_root]
  by_cases hne : Path.components base = []
  · rw [hne] at huri
    refine ⟨_, ofSegments ([""].map encodeSegment), _, huri, by decide +kernel,
      congrArg (Option.map closeDrive) (namedPath?_ofSegments [""]), ?_⟩
    rw [readPlace, hne, place_closeDrive]
    decide
  · have htidy := tidy_readPlace base
    rw [ofComponents_eq_slashed (by simpa using hne)] at huri
    refine ⟨_, _, _, huri, parse?_fileText hne fun _ => ne_dot_of_mem_components,
      congrArg (Option.map closeDrive) (namedPath?_ofSegments _), ?_⟩
    rw [place_closeDrive]
    refine place_of_tidy htidy ?_
    rw [components_slashed, List.filter_append, List.filter_eq_self.mpr]
    · split <;> simp [Path.counts, readPlace]
    · exact fun name hname => (htidy.isName name hname).1.1
    · intro name hname
      obtain hname | hname := List.mem_append.mp hname
      · exact (htidy.isName name hname).2
      · split at hname <;> simp_all

/-- The URL of a directory is read back as that directory. -/
def Legible (base : String) : Prop :=
  ∃ uri url path, ofFilePath? (Path.join "/" base) = some uri ∧ parse? uri = some url ∧
    url.filePath? = some path ∧ Path.place path = Path.place base

theorem legible_iff {base : String} : Legible base ↔ readPlace base = Path.place base := by
  obtain ⟨uri, url, path, huri, hurl, hpath, hplace⟩ := exists_filePath? base
  constructor
  · rintro ⟨uri', url', path', huri', hurl', hpath', hplace'⟩
    obtain rfl := Option.some.inj (huri.symm.trans huri')
    obtain rfl := Option.some.inj (hurl.symm.trans hurl')
    obtain rfl := Option.some.inj (hpath.symm.trans hpath')
    rw [← hplace, hplace']
  · exact fun h => ⟨uri, url, path, huri, hurl, hpath, hplace.trans h⟩

/-- Names of which none is taken for a drive are read as a path is. -/
theorem foldl_readName_eq_resolve {names front : List String}
    (hfront : ∀ name ∈ front, isDrive name = false)
    (h : ∀ name ∈ names, Path.counts name = true ∧ isDrive name = false) :
    names.foldl readName front = Path.resolve front names := by
  induction names generalizing front with
  | nil => rfl
  | cons name names ih =>
    rw [List.forall_mem_cons] at h
    have hstep : readName front name = Path.follow front name := by
      by_cases hdots : name = ".."
      · have hlast : front.getLast?.any isDrive = false := by
          cases hget : front.getLast? with
          | none => rfl
          | some last => exact hfront last (List.mem_of_getLast? hget)
        rw [readName, if_pos hdots, if_neg (by simp [hlast]), hdots]
        rfl
      · rw [Path.follow_of_isName ⟨h.1.1, hdots⟩, readName, if_neg hdots, if_neg (by simp [h.1.2])]
    rw [List.foldl_cons, hstep, ih _ h.2]
    · rfl
    · intro other hother
      have hfollow : Path.follow front name = Path.resolve front [name] := rfl
      rw [hfollow] at hother
      obtain hother | hother := Path.mem_of_mem_resolve hother
      · exact hfront other hother
      · exact List.mem_singleton.mp hother ▸ h.1.2

/-- A directory none of whose names is that of a drive is read back. -/
theorem legible_of_forall {base : String} (h : ∀ name ∈ Path.components base, isDrive name = false) :
    Legible base :=
  legible_iff.mpr (foldl_readName_eq_resolve (by rintro _ ⟨⟩) fun name hname =>
    ⟨(Path.mem_components hname).1, h name hname⟩)

theorem legible_tmp : Legible "/tmp" := legible_of_forall (by decide +kernel)

/-- The URLs of files with an extension, below a directory, are read back as their paths. -/
structure ReadBack (base extension : String) : Prop where
  legible : Legible base
  extension : endsInDrive extension = false

/-- A URL names some names, as does the URL that is made of its own text. -/
structure Reads (uri : String) (url : Url) (names : List String) : Prop where
  parsed : parse? uri = some url
  again : parse? url.text = some url
  named : url.namedPath? = some (slashed names)
  tidy : Tidy names

theorem Reads.filePath? {uri : String} {url : Url} {names : List String} (h : Reads uri url names) :
    url.filePath? = some (closeDrive (slashed names)) := by
  rw [Url.filePath?, h.named]
  rfl

/-- The URLs of what is below a directory name what is below the place where it is read: reading their
names changes nothing more. -/
theorem exists_reads {base path uri : String} {rest : List String}
    (hcomponents : Path.components path = Path.components base ++ rest) (hne : rest ≠ [])
    (hsegments : ∀ s ∈ rest, Path.IsSegment s) (hdrive : ∀ s ∈ rest.head?, isDrive s = false)
    (huri : ofFilePath? path = some uri) : ∃ url, Reads uri url (readPlace base ++ rest) := by
  have hnames : ∀ s ∈ rest, Path.IsName s := fun s hs => Path.isName_of_isSegment (hsegments s hs)
  have hread : readPlace path = readPlace base ++ rest := by
    rw [readPlace, hcomponents, List.foldl_append, foldl_readName hnames]
    · rfl
    · intro _ s hs hletter
      rw [hdrive s hs] at hletter
      cases hletter
  have htidy : Tidy (readPlace base ++ rest) := hread ▸ tidy_readPlace path
  have hcomponentsNe : Path.components path ≠ [] := by simp [hcomponents, hne]
  have hlast : ∀ front : List String, (front ++ rest).getLast? ≠ some ".." := by
    intro front hlast
    rw [List.getLast?_append, List.getLast?_eq_some_getLast hne, Option.some_or] at hlast
    exact (hnames _ (List.getLast_mem hne)).2 (Option.some.inj hlast)
  refine ⟨ofSegments ((readPlace base ++ rest).map encodeSegment), ?_, ?_,
    namedPath?_ofSegments _, htidy⟩
  · rw [ofFilePath?_eq_some hcomponentsNe huri,
      parse?_fileText hcomponentsNe fun _ => ne_dot_of_mem_components, ← hread, readPlace,
      if_neg (hcomponents ▸ hlast _), List.append_nil]
  · rw [text_ofSegments, parse?_fileText, foldl_readName_of_tidy htidy, if_neg (hlast _),
      List.append_nil]
    · simp [hne]
    · rintro _ hname rfl
      exact absurd (htidy.isName _ hname).1.1 (by decide)

end Polyglot.Url
