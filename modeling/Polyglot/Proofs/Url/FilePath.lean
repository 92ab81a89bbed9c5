import Mathlib.Data.List.TakeDrop
import Polyglot.Proofs.Path
import Polyglot.Proofs.Text.Percent
import Polyglot.Url.Parse

/-! File URLs of paths, parsed again. The URL of a path codes each of its components, so the components
can be told from it. A reader of URLs resolves dots and knows drives, which paths do not: a first
segment that is a letter and a bar is taken for a drive. What it reads are the names of the path, gone
through one by one. -/

namespace Polyglot.Url

open Text

/-! ### Coded names -/

/-- A character that stands for itself in a segment that is read, or starts a code. -/
def isPlain (c : Char) : Bool := !escapesInPath c && c != '/' && c != '\\'

theorem isPlain_digit : ∀ n < 16, isPlain (Percent.digit n) = true := by decide

theorem isPlain_of_mem_code {b : UInt8} {c : Char} (h : c ∈ Percent.code b) : isPlain c = true := by
  have hb : b.toNat < 256 := b.toNat_lt
  simp only [Percent.code, List.mem_cons, List.not_mem_nil, or_false] at h
  obtain rfl | rfl | rfl := h
  · decide
  · exact isPlain_digit _ (by omega)
  · exact isPlain_digit _ (by omega)

theorem isPlain_of_mem_encodeSegment {name : String} {c : Char}
    (h : c ∈ (encodeSegment name).toList) : isPlain c = true := by
  rw [encodeSegment, String.toList_ofList, Percent.encodeBy, List.mem_flatMap] at h
  obtain ⟨a, _, hc⟩ := h
  split at hc
  · obtain ⟨b, _, hc⟩ := List.mem_flatMap.mp hc
    exact isPlain_of_mem_code hc
  · rename_i hescapes
    obtain rfl := List.mem_singleton.mp hc
    simp only [escapesInSegment, Bool.or_eq_true, not_or, Bool.not_eq_true,
      beq_eq_false_iff_ne] at hescapes
    simp [isPlain, hescapes]

theorem decodeBytes_encodeSegment (name : String) :
    Percent.decodeBytes (encodeSegment name).toList = Percent.bytes name.toList := by
  have h : Percent.decodeBytes (Percent.encodeBy escapesInSegment name.toList ++ []) = _ :=
    Percent.decodeBytes_encodeBy (by decide) name.toList []
  rw [encodeSegment, String.toList_ofList, ← List.append_nil (Percent.encodeBy _ _), h]
  exact List.append_nil _

theorem decode?_encodeSegment (name : String) :
    Percent.decode? (encodeSegment name).toList = some name := by
  rw [Percent.decode?, decodeBytes_encodeSegment, Percent.ofBytes?_bytes, String.ofList_toList]

theorem encodeSegment_injective {name name' : String} (h : encodeSegment name = encodeSegment name') :
    name = name' := by
  have hdecode := decode?_encodeSegment name
  rw [h, decode?_encodeSegment] at hdecode
  exact (Option.some.inj hdecode).symm

theorem encodeBy_of_forall {escapes : Char → Bool} {cs : List Char} (h : ∀ c ∈ cs, escapes c = false) :
    Percent.encodeBy escapes cs = cs := by
  induction cs with
  | nil => rfl
  | cons c cs ih =>
    rw [List.forall_mem_cons] at h
    have htail := ih h.2
    simp only [Percent.encodeBy, List.flatMap_cons, h.1] at htail ⊢
    simpa using htail

/-! ### Texts -/

/-- Names below the root, each after a slash. -/
def slashed (names : List String) : String := String.join (names.map ("/" ++ ·))

/-- The text of a file URL. -/
def fileText (names : List String) : String := "file://" ++ slashed (names.map encodeSegment)

@[simp] theorem slashed_nil : slashed [] = "" := rfl

theorem slashed_cons (name : String) (names : List String) :
    slashed (name :: names) = "/" ++ name ++ slashed names := by
  simp [slashed, String.join_cons]

theorem ofComponents_eq_slashed {names : List String} (h : names ≠ []) :
    Path.ofComponents names = slashed names := by
  obtain ⟨first, rest, rfl⟩ := List.exists_cons_of_ne_nil h
  rw [Path.ofComponents, slashed_cons, String.append_assoc, String.append_right_inj]
  induction rest generalizing first with
  | nil => simp
  | cons second rest ih =>
    rw [String.intercalate_cons_cons, ih second (List.cons_ne_nil _ _), slashed_cons]
    simp only [String.append_assoc]

theorem ofFilePath?_eq_some {path uri : String} (hne : Path.components path ≠ [])
    (h : ofFilePath? path = some uri) : uri = fileText (Path.components path) := by
  unfold ofFilePath? at h
  split at h
  · rw [ofComponents_eq_slashed (by simpa using hne)] at h
    exact (Option.some.inj h).symm
  · cases h

theorem toList_slashed_cons (name : String) (names : List String) :
    (slashed (name :: names)).toList = '/' :: (name.toList ++ (slashed names).toList) := by
  simp [slashed_cons]

theorem mem_slashed {names : List String} {c : Char} (h : c ∈ (slashed names).toList) :
    c = '/' ∨ ∃ name ∈ names, c ∈ name.toList := by
  induction names with
  | nil => simp at h
  | cons name names ih =>
    rw [toList_slashed_cons, List.mem_cons, List.mem_append] at h
    obtain rfl | h | h := h
    · exact .inl rfl
    · exact .inr ⟨name, List.mem_cons_self, h⟩
    · obtain rfl | ⟨name', hname', hc⟩ := ih h
      · exact .inl rfl
      · exact .inr ⟨name', List.mem_cons_of_mem _ hname', hc⟩

/-- Names that hold no slash can be told from their text. -/
theorem splitOn_append_slashed {names : List String} (h : ∀ name ∈ names, '/' ∉ name.toList)
    (cs : List Char) (hcs : '/' ∉ cs) :
    (cs ++ (slashed names).toList).splitOn '/' = cs :: names.map String.toList := by
  induction names generalizing cs with
  | nil => simpa using List.splitOn_eq_singleton hcs
  | cons name names ih =>
    rw [List.forall_mem_cons] at h
    rw [toList_slashed_cons, List.splitOn_append_cons_self_of_not_mem hcs, ih h.2 _ h.1]
    rfl

theorem segments_slashed {names : List String} (h : ∀ name ∈ names, '/' ∉ name.toList) :
    Path.segments (slashed names) = "" :: names := by
  have hsplit := splitOn_append_slashed h [] List.not_mem_nil
  rw [List.nil_append] at hsplit
  simp [Path.segments, hsplit, Function.comp_def]

theorem components_slashed {names : List String} (h : ∀ name ∈ names, '/' ∉ name.toList) :
    Path.components (slashed names) = names.filter Path.counts := by
  rw [Path.components_eq_filter, segments_slashed h, List.filter_cons_of_neg (by decide)]

theorem not_mem_encodeSegment (name : String) : '/' ∉ (encodeSegment name).toList := by
  intro h
  exact absurd (isPlain_of_mem_encodeSegment h) (by decide)

theorem slashed_injective {names names' : List String} (h : ∀ name ∈ names, '/' ∉ name.toList)
    (h' : ∀ name ∈ names', '/' ∉ name.toList) (heq : slashed names = slashed names') :
    names = names' := by
  have hsplit := splitOn_append_slashed h [] List.not_mem_nil
  rw [heq, splitOn_append_slashed h' [] List.not_mem_nil] at hsplit
  have hlists := (List.cons.inj hsplit).2
  exact (List.map_inj_right fun _ _ => String.toList_inj.mp).mp hlists.symm

/-- Paths with one URL have the same components. -/
theorem components_eq_of_ofFilePath? {path path' uri : String} (hne : Path.components path ≠ [])
    (hne' : Path.components path' ≠ []) (h : ofFilePath? path = some uri)
    (h' : ofFilePath? path' = some uri) : Path.components path = Path.components path' := by
  have htext := ofFilePath?_eq_some hne h
  rw [ofFilePath?_eq_some hne' h', fileText, fileText, String.append_right_inj] at htext
  have hno : ∀ names : List String, ∀ name ∈ names.map encodeSegment, '/' ∉ name.toList := by
    intro names name hname
    obtain ⟨_, _, rfl⟩ := List.mem_map.mp hname
    exact not_mem_encodeSegment _
  have hcoded := slashed_injective (hno _) (hno _) htext
  exact (List.map_inj_right fun _ _ => encodeSegment_injective).mp hcoded.symm

/-! ### Reading -/

theorem not_isEdge_of_isPlain {c : Char} (h : isPlain c = true) : isEdge c = false := by
  simp only [isPlain, escapesInPath, escapesInFragment, isControl, Bool.and_eq_true,
    Bool.not_eq_true', Bool.or_eq_false_iff, decide_eq_false_iff_not, beq_eq_false_iff_ne] at h
  have hspace : c.toNat ≠ 32 := by
    intro hnat
    have hc : c = ' ' := by rw [← Char.ofNat_toNat c, hnat]
    simp [hc] at h
  simp only [isEdge, decide_eq_false_iff_not]
  omega

theorem cutAt_of_forall {p : Char → Bool} {cs : List Char} (h : ∀ c ∈ cs, p c = false) :
    cutAt p cs = (cs, []) := by
  induction cs with
  | nil => rfl
  | cons c cs ih =>
    rw [List.forall_mem_cons] at h
    have htail := ih h.2
    rw [cutAt, List.span_eq_takeWhile_dropWhile] at htail ⊢
    simp_all

theorem dropWhile_of_forall {p : Char → Bool} {cs : List Char} (h : ∀ c ∈ cs, p c = false) :
    cs.dropWhile p = cs := by
  cases cs with
  | nil => rfl
  | cons c cs => rw [List.dropWhile_cons_of_neg (by simp [h c List.mem_cons_self])]

theorem eq_slash_or_isPlain_of_mem_slashed {names : List String} {c : Char}
    (h : c ∈ (slashed (names.map encodeSegment)).toList) : c = '/' ∨ isPlain c = true := by
  obtain rfl | ⟨name, hname, hc⟩ := mem_slashed h
  · exact .inl rfl
  · obtain ⟨_, _, rfl⟩ := List.mem_map.mp hname
    exact .inr (isPlain_of_mem_encodeSegment hc)

theorem splitOnP_isSlash_of_forall {cs : List Char} (h : ∀ c ∈ cs, c ≠ '\\') :
    cs.splitOnP (SchemeKind.isSlash .file) = cs.splitOn '/' := by
  induction cs with
  | nil => rfl
  | cons c cs ih =>
    rw [List.forall_mem_cons] at h
    have hslash : SchemeKind.isSlash .file c = (c == '/') := by
      simp [SchemeKind.isSlash, SchemeKind.isSpecial, h.1]
    rw [List.splitOnP_cons_eq_if_modifyHead, List.splitOn_cons_eq_if_modifyHead, hslash, ih h.2]

/-- The file URL with some segments. -/
def ofSegments (segments : List String) : Url :=
  { scheme := "file", host := some "", path := .segments segments }

/-- A file URL of plain characters is read by its slashes and dots alone. -/
theorem parse?_of_forall_isPlain {body : List Char} (h : ∀ c ∈ body, c = '/' ∨ isPlain c = true) :
    parse? (String.ofList ("file:///".toList ++ body)) =
      some (ofSegments (resolveDots .file [] (body.splitOn '/'))) := by
  have hall : ∀ c ∈ "file:///".toList ++ body, c = '/' ∨ isPlain c = true := by
    intro c hc
    obtain hc | hc := List.mem_append.mp hc
    · have hfront : ("file:///".toList.all fun c => c == '/' || isPlain c) = true := by decide
      simpa using List.all_eq_true.mp hfront c hc
    · exact h c hc
  have hkept : ∀ p : Char → Bool, p '/' = false → (∀ c, isPlain c = true → p c = false) →
      ∀ c ∈ "file:///".toList ++ body, p c = false := by
    intro p hslash hplain c hc
    obtain rfl | hc := hall c hc
    · exact hslash
    · exact hplain c hc
  have hedge := hkept isEdge (by decide) fun _ => not_isEdge_of_isPlain
  have htrimmed : ((("file:///".toList ++ body).dropWhile isEdge).reverse.dropWhile isEdge).reverse =
      "file:///".toList ++ body := by
    rw [dropWhile_of_forall hedge, dropWhile_of_forall fun c hc => hedge c (List.mem_reverse.mp hc),
      List.reverse_reverse]
  have hfiltered : ("file:///".toList ++ body).filter (fun c => c != '\t' && c != '\n' && c != '\r') =
      "file:///".toList ++ body := by
    rw [List.filter_eq_self]
    intro c hc
    have hc := hedge c hc
    simp only [isEdge, decide_eq_false_iff_not] at hc
    simp only [Bool.and_eq_true, bne_iff_ne]
    refine ⟨⟨?_, ?_⟩, ?_⟩ <;> rintro rfl <;> exact hc (by decide)
  have hscheme : scheme? ("file:///".toList ++ body) = some ("file", "///".toList ++ body) := rfl
  have hrest : ∀ c ∈ "///".toList ++ body, c ∈ "file:///".toList ++ body :=
    fun c hc => List.mem_append_right "file:".toList hc
  have hhash := hkept (· == '#') (by decide) (by
    intro c hc
    simp only [isPlain, escapesInPath, Bool.and_eq_true, Bool.not_eq_true', Bool.or_eq_false_iff] at hc
    exact hc.1.1.1.1.1.2)
  have hquery := hkept (· == '?') (by decide) (by
    intro c hc
    simp only [isPlain, escapesInPath, Bool.and_eq_true, Bool.not_eq_true', Bool.or_eq_false_iff] at hc
    exact hc.1.1.1.1.2)
  have hbackslash : ∀ c ∈ body, c ≠ '\\' := by
    rintro c hc rfl
    exact absurd (h _ hc) (by decide)
  simp only [parse?, String.toList_ofList, htrimmed, hfiltered, hscheme, Option.bind_eq_bind,
    Option.bind_some, cutAt_of_forall fun c hc => hhash c (hrest c hc),
    cutAt_of_forall fun c hc => hquery c (hrest c hc)]
  have hkind : SchemeKind.ofScheme "file" = .file := rfl
  have hfile : readFile? ("///".toList ++ body) =
      some (ofSegments (resolveDots .file [] (body.splitOnP (SchemeKind.isSlash .file)))) := rfl
  rw [hkind, readBody?, hfile, splitOnP_isSlash_of_forall hbackslash]
  rfl

/-! ### Where URLs lead -/

/-- Coded dots stand for dots. -/
theorem decodeBytes_of_readDots {cs dots : List Char} (h : readDots cs = dots)
    (hdots : ∀ c ∈ dots, c = '.') : Percent.decodeBytes cs = Percent.bytes dots := by
  subst h
  fun_induction readDots cs with
  | case1 r ih =>
    rw [List.forall_mem_cons] at hdots
    exact congrArg (0x2E :: ·) (ih hdots.2)
  | case2 r ih =>
    rw [List.forall_mem_cons] at hdots
    exact congrArg (0x2E :: ·) (ih hdots.2)
  | case3 c r _ _ ih =>
    rw [List.forall_mem_cons] at hdots
    obtain ⟨rfl, hdots⟩ := hdots
    exact congrArg (0x2E :: ·) (ih hdots)
  | case4 => rfl

/-- A coded name reads as dots only if it is dots. -/
theorem readDots_encodeSegment {name : String} (dots : String) (hdots : ∀ c ∈ dots.toList, c = '.')
    (h : readDots (encodeSegment name).toList = dots.toList) : name = dots := by
  have hdecoded := decodeBytes_of_readDots h hdots
  rw [decodeBytes_encodeSegment] at hdecoded
  have hname := Percent.ofBytes?_bytes name.toList
  rw [hdecoded, Percent.ofBytes?_bytes, String.ofList_toList, String.ofList_toList] at hname
  exact (Option.some.inj hname).symm

/-- Whether a name is taken for a drive when it comes first. -/
def isDrive (name : String) : Bool := isDriveLetter (encodeSegment name).toList

/-- The drive that a name is taken for. -/
def drive (name : String) : String := String.ofList (name.toList.take 1 ++ [':'])

/-- Goes on by one name as a reader of URLs does: there is no way back from a drive. -/
def readName (names : List String) (name : String) : List String :=
  if name = ".." then if names.getLast?.any isDrive then names else names.dropLast
  else if names.isEmpty && isDrive name then [drive name]
  else names ++ [name]

theorem isAlpha_lt {c : Char} (h : c.isAlpha = true) : c.toNat < 128 := by
  unfold Char.isAlpha Char.isUpper Char.isLower at h
  simp only [Bool.or_eq_true, Bool.and_eq_true, decide_eq_true_eq, ge_iff_le,
    UInt32.le_iff_toNat_le] at h
  change c.val.toNat < 128
  have hz : 'z'.val.toNat < 128 := by decide
  have hZ : 'Z'.val.toNat < 128 := by decide
  omega

theorem not_escapesInSegment_of_isAlpha {c : Char} (h : c.isAlpha = true) :
    escapesInSegment c = false := by
  have hall : ∀ n < 128, (Char.ofNat n).isAlpha = true → escapesInSegment (Char.ofNat n) = false := by
    decide
  have hc := hall c.toNat (isAlpha_lt h)
  rw [Char.ofNat_toNat] at hc
  exact hc h

theorem isDriveLetter_eq_true_iff {cs : List Char} :
    isDriveLetter cs = true ↔ ∃ c d, cs = [c, d] ∧ c.isAlpha = true ∧ (d = ':' ∨ d = '|') := by
  unfold isDriveLetter
  split
  · simp
  · rename_i hcs
    simp only [Bool.false_eq_true, false_iff, not_exists, not_and]
    intro c d heq
    exact absurd heq (hcs c d)

/-- The characters of a drive stand for themselves. -/
theorem not_escapesInSegment_of_drive {c d : Char} (hc : c.isAlpha = true) (hd : d = ':' ∨ d = '|') :
    ∀ a ∈ [c, d], escapesInSegment a = false := by
  simp only [List.mem_cons, List.not_mem_nil, or_false, forall_eq_or_imp, forall_eq]
  refine ⟨not_escapesInSegment_of_isAlpha hc, ?_⟩
  obtain rfl | rfl := hd <;> decide

theorem encodeSegment_of_forall {name : String} (h : ∀ c ∈ name.toList, escapesInSegment c = false) :
    encodeSegment name = name := by
  rw [encodeSegment, encodeBy_of_forall h, String.ofList_toList]

theorem toList_of_isDrive {name : String} (h : isDrive name = true) :
    ∃ c d, name.toList = [c, d] ∧ c.isAlpha = true ∧ (d = ':' ∨ d = '|') := by
  obtain ⟨c, d, hcoded, hc, hd⟩ := isDriveLetter_eq_true_iff.mp h
  have hplain := not_escapesInSegment_of_drive hc hd
  have hsame : encodeSegment (String.ofList [c, d]) = encodeSegment name := by
    rw [encodeSegment_of_forall (by rwa [String.toList_ofList]), ← hcoded, String.ofList_toList]
  exact ⟨c, d, by rw [← encodeSegment_injective hsame, String.toList_ofList], hc, hd⟩

theorem isDrive_of_length {name : String} (h : 2 < name.length) : isDrive name = false := by
  rw [Bool.eq_false_iff]
  intro hdrive
  obtain ⟨c, d, hname, _⟩ := toList_of_isDrive hdrive
  rw [← String.length_toList, hname] at h
  simp at h

theorem encodeSegment_of_isDrive {name : String} (h : isDrive name = true) :
    encodeSegment name = name := by
  obtain ⟨c, d, hname, hc, hd⟩ := toList_of_isDrive h
  apply encodeSegment_of_forall
  rw [hname]
  exact not_escapesInSegment_of_drive hc hd

theorem drive_of_toList {name : String} {c d : Char} (h : name.toList = [c, d]) :
    drive name = String.ofList [c, ':'] := by
  rw [drive, h]
  rfl

theorem isDrive_drive {name : String} (h : isDrive name = true) : isDrive (drive name) = true := by
  obtain ⟨c, d, hname, hc, _⟩ := toList_of_isDrive h
  have hplain := not_escapesInSegment_of_drive hc (.inl rfl)
  rw [drive_of_toList hname, isDrive, encodeSegment_of_forall (by rwa [String.toList_ofList]),
    String.toList_ofList]
  exact isDriveLetter_eq_true_iff.mpr ⟨c, ':', rfl, hc, .inl rfl⟩

theorem encodeBy_escapesInPath {cs : List Char} (h : ∀ c ∈ cs, isPlain c = true) :
    Percent.encodeBy escapesInPath cs = cs := by
  apply encodeBy_of_forall
  intro c hc
  have hplain := h c hc
  simp only [isPlain, Bool.and_eq_true, Bool.not_eq_true'] at hplain
  exact hplain.1.1

theorem dropSegment_map_encodeSegment (names : List String) :
    dropSegment .file (names.map encodeSegment) = (readName names "..").map encodeSegment := by
  have hdrive : (names.map encodeSegment).getLast?.any (fun s => isDriveLetter s.toList) =
      names.getLast?.any isDrive := by
    rw [List.getLast?_map, Option.any_map]
    rfl
  rw [dropSegment, readName, if_pos rfl, hdrive, beq_self_eq_true, Bool.true_and]
  split
  · rfl
  · exact List.map_dropLast.symm

theorem map_readName {name : String} (h : name ≠ "..") (front : List String) :
    (readName front name).map encodeSegment = front.map encodeSegment ++
      [String.ofList (Percent.encodeBy escapesInPath
        (if SchemeKind.file == .file && (front.map encodeSegment).isEmpty &&
            isDriveLetter (encodeSegment name).toList
          then (encodeSegment name).toList.take 1 ++ [':'] else (encodeSegment name).toList))] := by
  have hcond : (SchemeKind.file == .file && (front.map encodeSegment).isEmpty &&
      isDriveLetter (encodeSegment name).toList) = (front.isEmpty && isDrive name) := by
    simp [isDrive]
  rw [hcond]
  unfold readName
  rw [if_neg h]
  split
  · rename_i hfirst
    rw [Bool.and_eq_true, List.isEmpty_iff] at hfirst
    obtain ⟨rfl, hdrive⟩ := hfirst
    have hplain : ∀ c ∈ (drive name).toList, isPlain c = true := by
      rw [← encodeSegment_of_isDrive (isDrive_drive hdrive)]
      exact fun c hc => isPlain_of_mem_encodeSegment hc
    have hdriven : (encodeSegment name).toList.take 1 ++ [':'] = (drive name).toList := by
      rw [encodeSegment_of_isDrive hdrive, drive, String.toList_ofList]
    rw [hdriven, encodeBy_escapesInPath hplain, String.ofList_toList, List.map_nil, List.nil_append,
      List.map_singleton, encodeSegment_of_isDrive (isDrive_drive hdrive)]
  · rw [encodeBy_escapesInPath fun c hc => isPlain_of_mem_encodeSegment hc, String.ofList_toList,
      List.map_append, List.map_singleton]

/-- The segments of coded names are those of the names that are read. -/
theorem resolveDots_map_encodeSegment {names : List String} (h : ∀ name ∈ names, name ≠ ".")
    (front : List String) :
    resolveDots .file (front.map encodeSegment) (names.map fun name => (encodeSegment name).toList) =
      (names.foldl readName front ++ if names.getLast? = some ".." then [""] else []).map
        encodeSegment := by
  induction names generalizing front with
  | nil => simp [resolveDots]
  | cons name names ih =>
    rw [List.forall_mem_cons] at h
    have ih := ih h.2
    rw [List.map_cons, resolveDots, List.foldl_cons]
    by_cases hdots : name = ".."
    · subst hdots
      have hread : (readDots (encodeSegment "..").toList == ['.', '.']) = true := by decide
      rw [if_pos hread, dropSegment_map_encodeSegment]
      cases names with
      | nil => simp [resolveDots, encodeSegment, Percent.encodeBy]
      | cons next names => exact ih _
    · have hread : (readDots (encodeSegment name).toList == ['.', '.']) = false := by
        rw [beq_eq_false_iff_ne]
        exact fun heq => hdots (readDots_encodeSegment ".." (by simp) heq)
      have hread' : (readDots (encodeSegment name).toList == ['.']) = false := by
        rw [beq_eq_false_iff_ne]
        exact fun heq => h.1 (readDots_encodeSegment "." (by simp) heq)
      have hlast : ((name :: names).getLast? = some "..") = (names.getLast? = some "..") := by
        cases names <;> simp [hdots]
      simp only [hread, hread', Bool.false_eq_true, ↓reduceIte, hlast]
      rw [← ih, map_readName hdots]

end Polyglot.Url
