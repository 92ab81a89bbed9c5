import Mathlib.Data.List.Induction
import Mathlib.Data.List.TakeWhile
import Polyglot.Proofs.Language.Registry

/-! What a list of records makes of the built-in languages, said without going through it record by
record: the built-in languages come first, then every added name at its first record with an extension,
and a field of a language is as the last record of its name that sets it has it. -/

namespace Polyglot

/-! ### The languages of some records -/

/-- What the last record of a name that sets a field sets it to. -/
def lastSet? {α : Type} (field : LanguageOverride → Option α) (name : String)
    (records : List LanguageOverride) : Option α :=
  records.reverse.findSome? fun o => if o.name = name then field o else none

/-- The language with its fields as some records of its name set them last. -/
def Language.overridden (records : List LanguageOverride) (l : Language) : Language :=
  { l with
    extension := (lastSet? (·.extension) l.name records).getD l.extension
    aliases := (lastSet? (·.aliases) l.name records).getD l.aliases
    triggerCharacters := (lastSet? (·.triggerCharacters) l.name records).getD l.triggerCharacters
    features := (lastSet? (·.features) l.name records).getD l.features }

def builtinNames : List String := builtinLanguages.map Language.name

/-- Whether the record has what it takes to add a language. -/
def LanguageOverride.adds (o : LanguageOverride) : Bool :=
  o.extension.isSome && !builtinNames.contains o.name

/-- The names that some records add, each once, in the order of the first records that do. -/
def addedNames (records : List LanguageOverride) : List String :=
  ((records.filter LanguageOverride.adds).map LanguageOverride.name).eraseDups

/-- The records from the first on that adds a name. -/
def sinceAdded (name : String) (records : List LanguageOverride) : List LanguageOverride :=
  records.dropWhile fun o => !(o.name == name && o.adds)

/-- The language that some records add under a name. The record that adds it has an extension, so
the empty one stands for nothing. -/
def addedLanguage (records : List LanguageOverride) (name : String) : Language :=
  (Language.plain name "" [] [] .all).overridden (sinceAdded name records)

/-! ### One more record -/

theorem eraseDups_concat (names : List String) (name : String) :
    (names ++ [name]).eraseDups =
      if name ∈ names.eraseDups then names.eraseDups else names.eraseDups ++ [name] := by
  rw [List.eraseDups_append, List.removeAll]
  by_cases h : name ∈ names <;> simp [h, List.eraseDups_cons]

section
variable {records : List LanguageOverride} {o : LanguageOverride} {name : String}

theorem lastSet?_concat {α : Type} (field : LanguageOverride → Option α) :
    lastSet? field name (records ++ [o]) =
      (if o.name = name then field o else none).or (lastSet? field name records) := by
  rw [lastSet?, List.reverse_concat, List.findSome?_cons]
  cases (if o.name = name then field o else none) <;> rfl

theorem Language.overridden_concat (l : Language) : l.overridden (records ++ [o]) =
    if o.name = l.name then o.update (l.overridden records) else l.overridden records := by
  simp only [overridden, lastSet?_concat, LanguageOverride.update]
  split <;> simp only [Option.getD_or, Option.none_or]

theorem LanguageOverride.adds_iff :
    o.adds = true ↔ o.extension.isSome = true ∧ o.name ∉ builtinNames := by
  simp [adds]

theorem mem_addedNames : name ∈ addedNames records ↔ ∃ o ∈ records, o.adds = true ∧ o.name = name := by
  simp [addedNames, and_assoc]

theorem not_mem_builtinNames (h : name ∈ addedNames records) : name ∉ builtinNames := by
  obtain ⟨o, -, hadds, rfl⟩ := mem_addedNames.mp h
  exact (LanguageOverride.adds_iff.mp hadds).2

theorem addedNames_concat (hadds : o.adds = true) : addedNames (records ++ [o]) =
    if o.name ∈ addedNames records then addedNames records else addedNames records ++ [o.name] := by
  rw [addedNames, List.filter_append, List.filter_cons_of_pos hadds, List.filter_nil, List.map_append,
    List.map_singleton, eraseDups_concat]
  rfl

theorem addedNames_concat_of_not_adds (hadds : o.adds = false) :
    addedNames (records ++ [o]) = addedNames records := by
  rw [addedNames, List.filter_append, List.filter_cons_of_neg (by simp [hadds]), List.filter_nil,
    List.append_nil]
  rfl

/-- A language that was added takes in every record that follows. -/
theorem addedLanguage_concat (h : name ∈ addedNames records) : addedLanguage (records ++ [o]) name =
    if o.name = name then o.update (addedLanguage records name) else addedLanguage records name := by
  have hsince : sinceAdded name (records ++ [o]) = sinceAdded name records ++ [o] := by
    obtain ⟨first, hfirst, hadds, hname⟩ := mem_addedNames.mp h
    rw [sinceAdded, List.dropWhile_append, if_neg, sinceAdded]
    rw [List.isEmpty_iff, List.dropWhile_eq_nil_iff]
    intro hnone
    simpa [hadds, hname] using hnone first hfirst
  rw [addedLanguage, hsince, Language.overridden_concat]
  rfl

theorem addedLanguage_concat_new (hadds : o.adds = true) (h : o.name ∉ addedNames records) :
    some (addedLanguage (records ++ [o]) o.name) = o.create? := by
  have hsince : sinceAdded o.name (records ++ [o]) = [o] := by
    rw [sinceAdded, List.dropWhile_append_of_pos]
    · simp [hadds]
    · intro other hother
      cases hboth : other.name == o.name && other.adds with
      | false => rfl
      | true =>
        rw [Bool.and_eq_true, beq_iff_eq] at hboth
        exact absurd (mem_addedNames.mpr ⟨other, hother, hboth.2, hboth.1⟩) h
  obtain ⟨ext, hext⟩ := Option.isSome_iff_exists.mp (LanguageOverride.adds_iff.mp hadds).1
  rw [addedLanguage, hsince, LanguageOverride.create?, hext, Option.map_some, Option.some.injEq]
  simp [Language.overridden, lastSet?, Language.plain, hext]

end

namespace LanguageOverride

variable {o : LanguageOverride} {ls : List Language}

theorem apply_of_mem (hnodup : (ls.map Language.name).Nodup) (h : o.name ∈ ls.map Language.name) :
    o.apply ls = ls.map fun l => if o.name = l.name then o.update l else l := by
  induction ls with
  | nil => cases h
  | cons l ls ih =>
    rw [List.map_cons, List.nodup_cons] at hnodup
    rw [List.map_cons, List.mem_cons] at h
    by_cases hl : l.name = o.name
    · -- the names differ, so the record changes nothing after the language that it finds
      have hrest : ls.map (fun l => if o.name = l.name then o.update l else l) = ls := by
        rw [List.map_congr_left (g := id), List.map_id]
        intro other hother
        rw [if_neg]
        · rfl
        · intro heq
          exact hnodup.1 (List.mem_map.mpr ⟨other, hother, heq.symm.trans hl.symm⟩)
      rw [apply, if_pos hl, List.map_cons, if_pos hl.symm, hrest]
    · rw [apply, if_neg hl, List.map_cons, if_neg (Ne.symm hl),
        ih hnodup.2 (h.resolve_left (Ne.symm hl))]

theorem apply_of_not_mem (h : o.name ∉ ls.map Language.name) : o.apply ls = ls ++ o.create?.toList := by
  induction ls with
  | nil => rfl
  | cons l ls ih =>
    rw [List.map_cons, List.mem_cons, not_or] at h
    rw [apply, if_neg (Ne.symm h.1), ih h.2, List.cons_append]

end LanguageOverride

/-! ### All records -/

theorem configuredLanguages_concat (records : List LanguageOverride) (o : LanguageOverride) :
    configuredLanguages (records ++ [o]) = o.apply (configuredLanguages records) := List.foldl_append

/-- The built-in languages as the records change them, and the languages that they add. -/
def describedLanguages (records : List LanguageOverride) : List Language :=
  builtinLanguages.map (Language.overridden records) ++
    (addedNames records).map (addedLanguage records)

theorem names_describedLanguages (records : List LanguageOverride) :
    (describedLanguages records).map Language.name = builtinNames ++ addedNames records := by
  rw [describedLanguages, List.map_append, List.map_map, List.map_map]
  congr 1
  exact List.map_id _

theorem describedLanguages_concat_known {records : List LanguageOverride} {o : LanguageOverride}
    (h : o.name ∈ builtinNames ++ addedNames records) :
    describedLanguages (records ++ [o]) =
      (describedLanguages records).map fun l => if o.name = l.name then o.update l else l := by
  have hnames : addedNames (records ++ [o]) = addedNames records := by
    cases hadds : o.adds with
    | false => exact addedNames_concat_of_not_adds hadds
    | true =>
      have hnew := (LanguageOverride.adds_iff.mp hadds).2
      rw [addedNames_concat hadds, if_pos ((List.mem_append.mp h).resolve_left hnew)]
  rw [describedLanguages, describedLanguages, List.map_append, List.map_map, List.map_map, hnames]
  congr 1
  · exact List.map_congr_left fun l _ => l.overridden_concat
  · exact List.map_congr_left fun name hname => addedLanguage_concat hname

theorem describedLanguages_concat_unknown {records : List LanguageOverride} {o : LanguageOverride}
    (h : o.name ∉ builtinNames ++ addedNames records) :
    describedLanguages (records ++ [o]) = describedLanguages records ++ o.create?.toList := by
  rw [List.mem_append, not_or] at h
  have hbuiltin : builtinLanguages.map (Language.overridden (records ++ [o])) =
      builtinLanguages.map (Language.overridden records) := by
    refine List.map_congr_left fun l hl => ?_
    rw [l.overridden_concat, if_neg]
    intro hname
    exact h.1 (hname ▸ List.mem_map_of_mem hl)
  have hadded : (addedNames records).map (addedLanguage (records ++ [o])) =
      (addedNames records).map (addedLanguage records) := by
    refine List.map_congr_left fun name hname => ?_
    rw [addedLanguage_concat hname, if_neg]
    rintro rfl
    exact h.2 hname
  rw [describedLanguages, describedLanguages, hbuiltin]
  cases hadds : o.adds with
  | false =>
    have hnone : o.create? = none := by
      cases hext : o.extension with
      | none => rw [LanguageOverride.create?, hext]; rfl
      | some ext => simp [LanguageOverride.adds, hext, h.1] at hadds
    rw [addedNames_concat_of_not_adds hadds, hadded, hnone, Option.toList_none, List.append_nil]
  | true =>
    rw [addedNames_concat hadds, if_neg h.2, List.map_append, hadded, List.map_singleton,
      ← List.append_assoc, ← addedLanguage_concat_new hadds h.2, Option.toList_some]

/-- Going through the records one by one comes to their description. -/
theorem configuredLanguages_eq (records : List LanguageOverride) :
    configuredLanguages records = describedLanguages records := by
  induction records using List.reverseRecOn with
  | nil => exact ((List.append_nil _).trans (List.map_id _)).symm
  | append_singleton records o ih =>
    have hnodup := nodup_configuredLanguages records
    rw [ih] at hnodup
    have hnames := names_describedLanguages records
    rw [configuredLanguages_concat, ih]
    by_cases h : o.name ∈ builtinNames ++ addedNames records
    · rw [describedLanguages_concat_known h, LanguageOverride.apply_of_mem hnodup (hnames ▸ h)]
    · rw [describedLanguages_concat_unknown h, LanguageOverride.apply_of_not_mem (hnames ▸ h)]

/-- The empty extension that an added language starts from is never kept. -/
theorem isSome_lastSet?_extension {records : List LanguageOverride} {name : String}
    (h : name ∈ addedNames records) :
    (lastSet? (·.extension) name (sinceAdded name records)).isSome = true := by
  obtain ⟨first, hfirst, hadds, rfl⟩ := mem_addedNames.mp h
  have hkept : first ∈ sinceAdded first.name records := by
    have hsplit := List.takeWhile_append_dropWhile
      (p := fun o : LanguageOverride => !(o.name == first.name && o.adds)) (l := records)
    rw [← hsplit, List.mem_append] at hfirst
    refine hfirst.resolve_left fun hdropped => ?_
    simpa [hadds] using List.mem_takeWhile_imp hdropped
  rw [lastSet?, List.findSome?_isSome_iff]
  refine ⟨first, List.mem_reverse.mpr hkept, ?_⟩
  rw [if_pos rfl]
  exact (LanguageOverride.adds_iff.mp hadds).1

theorem configuredLanguages_of_idle {before after : List LanguageOverride} {o : LanguageOverride}
    (hext : o.extension = none) (hname : o.name ∉ builtinNames ++ addedNames before) :
    configuredLanguages (before ++ o :: after) = configuredLanguages (before ++ after) := by
  have hidle : o.apply (configuredLanguages before) = configuredLanguages before := by
    rw [← names_describedLanguages, ← configuredLanguages_eq] at hname
    rw [LanguageOverride.apply_of_not_mem hname, LanguageOverride.create?, hext]
    exact List.append_nil _
  simp only [configuredLanguages, List.foldl_append, List.foldl_cons] at hidle ⊢
  rw [hidle]

theorem find?_builtinLanguages :
    ∀ b ∈ builtinLanguages, (builtinLanguages.find? fun other => other.name == b.name) = some b := by
  decide

theorem fixup_of_mem_describedLanguages {records : List LanguageOverride} {l : Language}
    (h : l ∈ describedLanguages records) :
    l.fixup = (builtinLanguages.find? fun b => b.name == l.name).bind Language.fixup := by
  rcases List.mem_append.mp h with hbuiltin | hadded
  · obtain ⟨b, hb, rfl⟩ := List.mem_map.mp hbuiltin
    exact (congrArg (Option.bind · Language.fixup) (find?_builtinLanguages b hb)).symm
  · obtain ⟨name, hname, rfl⟩ := List.mem_map.mp hadded
    have hnone : (builtinLanguages.find? fun b => b.name == name) = none := by
      rw [List.find?_eq_none]
      intro b hb heq
      exact not_mem_builtinNames hname (List.mem_map.mpr ⟨b, hb, beq_iff_eq.mp heq⟩)
    exact (congrArg (Option.bind · Language.fixup) hnone).symm

namespace Registry

theorem toList_withOverrides (records : List LanguageOverride) (content : List String) :
    (withOverrides records content).toList = (describedLanguages records).map (delivered content) := by
  rw [withOverrides, toList_ofLanguages, configuredLanguages_eq]

/-- What a registry lists: the built-in languages in their order and then the added names in theirs,
no name twice, every field as it was set last, a change to virtual documents only where it is built in,
and content for the languages of the list. A record without an extension for a name that is not known
yet might as well not be there. -/
theorem languages_of_overrides (records : List LanguageOverride) (content : List String) :
    let r := withOverrides records content
    r.toList = (builtinLanguages.map (Language.overridden records) ++
      (addedNames records).map (addedLanguage records)).map (delivered content) ∧
    (∀ name ∈ addedNames records,
      (lastSet? (·.extension) name (sinceAdded name records)).isSome = true) ∧
    r.toList.map Language.name = builtinNames ++ addedNames records ∧
    (r.toList.map Language.name).Nodup ∧
    (∀ l ∈ r.toList,
      l.fixup = (builtinLanguages.find? fun b => b.name == l.name).bind Language.fixup) ∧
    (∀ l ∈ r.toList, (l.delivery = .contentProvider ↔ l.name ∈ content)) ∧
    ∀ before o after, records = before ++ o :: after → o.extension = none →
      o.name ∉ builtinNames ++ addedNames before → r = withOverrides (before ++ after) content := by
  intro r
  have hlist : r.toList = (describedLanguages records).map (delivered content) :=
    toList_withOverrides records content
  refine ⟨hlist, fun name => isSome_lastSet?_extension, ?_, nodup_withOverrides records content, ?_, ?_,
    ?_⟩
  · rw [hlist, List.map_map]
    exact names_describedLanguages records
  · intro l hl
    obtain ⟨described, hdescribed, rfl⟩ := List.mem_map.mp (hlist ▸ hl)
    exact (fixup_of_mem_describedLanguages hdescribed :)
  · intro l hl
    obtain ⟨l, -, rfl⟩ := List.mem_map.mp (hlist ▸ hl)
    simp [delivered, DeliveryStrategy.forLanguage]
  · rintro before o after rfl hext hname
    simp only [r, withOverrides, configuredLanguages_of_idle hext hname]

-- the first record comes too early, the last sets what the second leaves open
example : (withOverrides [⟨"zig", none, some ["z"], none, none⟩, ⟨"zig", some "zig", none, none, none⟩,
    ⟨"zig", none, none, some ["."], none⟩] ["zig"]).toList.getLast? =
      some { Language.plain "zig" "zig" [] ["."] .all with delivery := .contentProvider } := by
  decide +kernel

end Registry

end Polyglot
