import Mathlib.Data.List.Find
import Polyglot.Language.Registry

/-! Looking languages up by name. The index of a registry leads every name to the first language that
answers to it, so a language is found by its own name exactly where no language before it has that
name as an alias. -/

namespace Polyglot

/-! ### The index -/

namespace NameIndex

theorem lookup_add (index : NameIndex) (place : Nat) (added name : String) :
    (index.add place added).lookup name =
      (index.lookup name).or (if name = added then some place else none) := by
  unfold add
  split
  · rename_i known hknown
    by_cases h : name = added
    · rw [h, hknown]
      rfl
    · rw [if_neg h, Option.or_none]
  · rw [List.lookup_append, List.lookup_cons, List.lookup_nil]
    by_cases h : name = added
    · simp [h]
    · simp [h, beq_eq_false_iff_ne.mpr h]

/-- Names added at one place lead there, unless they led somewhere before. -/
theorem lookup_foldl_add (names : List String) (index : NameIndex) (place : Nat) (name : String) :
    (names.foldl (fun index added => index.add place added) index).lookup name =
      (index.lookup name).or (if name ∈ names then some place else none) := by
  induction names generalizing index with
  | nil => simp
  | cons added names ih =>
    rw [List.foldl_cons, ih, lookup_add, Option.or_assoc]
    by_cases h : name = added <;> simp [h]

theorem mem_add {index : NameIndex} {place : Nat} {added : String} {e : String × Nat}
    (h : e ∈ index.add place added) : e ∈ index ∨ e.2 = place := by
  unfold add at h
  split at h
  · exact .inl h
  · rcases List.mem_append.mp h with hold | hnew
    · exact .inl hold
    · rw [List.mem_singleton.mp hnew]
      exact .inr rfl

/-- Adding names makes no place known but the one that they are added at. -/
theorem mem_foldl_add {names : List String} {index : NameIndex} {place : Nat} {e : String × Nat}
    (h : e ∈ names.foldl (fun index added => index.add place added) index) :
    e ∈ index ∨ e.2 = place := by
  induction names generalizing index with
  | nil => exact .inl h
  | cons added names ih =>
    obtain hfirst | hplace := ih h
    · exact mem_add hfirst
    · exact .inr hplace

end NameIndex

namespace Registry

/-- Every name leads to the first language that answers to it. -/
def Indexed (r : Registry) : Prop :=
  ∀ name, r.index.lookup name = r.toList.findIdx? fun l => l.names.contains name

theorem indexed_empty : ({} : Registry).Indexed := fun _ => rfl

theorem indexed_insert {r : Registry} (h : r.Indexed) (l : Language) : (r.insert l).Indexed := by
  intro name
  have hlast : [l].findIdx? (fun l => l.names.contains name) =
      if name ∈ l.names then some 0 else none := by
    simp [List.findIdx?_cons]
  rw [insert, NameIndex.lookup_foldl_add, h name, toList, toList, Array.toList_push,
    List.findIdx?_append, hlast]
  by_cases hname : name ∈ l.names <;> simp [hname]

theorem toList_insert (r : Registry) (l : Language) : (r.insert l).toList = r.toList ++ [l] :=
  Array.toList_push

theorem get?_of_indexed {r : Registry} (h : r.Indexed) (name : String) :
    r.get? name = r.toList.find? fun l => l.names.contains name := by
  simp only [List.find?_eq_bind_findIdx?_getElem?, get?, h name, toList, Array.getElem?_toList]

theorem mem_of_get? {r : Registry} {name : String} {l : Language} (h : r.get? name = some l) :
    l ∈ r.toList := by
  obtain ⟨place, _, hl⟩ := Option.bind_eq_some_iff.mp h
  exact Array.mem_toList_iff.mpr (Array.mem_of_getElem? hl)

/-! ### Registries of a list -/

/-- The language as it is delivered where those of `content` are delivered as content. -/
def delivered (content : List String) (l : Language) : Language :=
  { l with delivery := .forLanguage content l.name }

theorem toList_ofLanguages (languages : List Language) (content : List String) :
    (ofLanguages languages content).toList = languages.map (delivered content) := by
  suffices h : ∀ r : Registry, (languages.foldl (fun r l => r.insert (delivered content l)) r).toList =
      r.toList ++ languages.map (delivered content) from (h {}).trans (List.nil_append _)
  induction languages with
  | nil => simp
  | cons l languages ih =>
    intro r
    rw [List.foldl_cons, ih, toList_insert, List.map_cons, List.append_assoc, List.singleton_append]

theorem indexed_ofLanguages (languages : List Language) (content : List String) :
    (ofLanguages languages content).Indexed := by
  apply List.foldlRecOn
  · exact indexed_empty
  · exact fun r h l _ => indexed_insert h _

end Registry

/-! ### First come, first served -/

namespace Language

/-- A name is the language's own or one of its aliases. -/
def Answers (l : Language) (name : String) : Prop := name = l.name ∨ name ∈ l.aliases

theorem mem_names_iff (l : Language) (name : String) : name ∈ l.names ↔ l.Answers name := by
  simp [names, Answers]

end Language

namespace Registry

/-- Every name leads to a place where there is a language. -/
def InBounds (r : Registry) : Prop := ∀ e ∈ r.index, e.2 < r.languages.size

theorem inBounds_insert {r : Registry} (h : r.InBounds) (l : Language) : (r.insert l).InBounds := by
  intro e he
  have hsize : (r.insert l).languages.size = r.languages.size + 1 := Array.size_push l
  rw [hsize]
  obtain hmem | hplace := NameIndex.mem_foldl_add he
  · have := h e hmem
    omega
  · omega

theorem inBounds_ofLanguages (languages : List Language) (content : List String) :
    (ofLanguages languages content).InBounds := by
  apply List.foldlRecOn
  · exact fun e he => absurd he List.not_mem_nil
  · exact fun r h l _ => inBounds_insert h _

theorem get?_ofLanguages (languages : List Language) (content : List String) (name : String) :
    (ofLanguages languages content).get? name =
      (languages.find? fun l => l.names.contains name).map (delivered content) := by
  rw [get?_of_indexed (indexed_ofLanguages languages content), toList_ofLanguages, List.find?_map]
  rfl

/-- A name leads to the first language of the list that answers to it, with its delivery assigned, and
nowhere only if none does. What the index holds are always places of languages. -/
theorem get?_first_match (languages : List Language) (content : List String) (name : String) :
    let r := ofLanguages languages content
    (∀ l, r.get? name = some l ↔ ∃ before listed after, languages = before ++ listed :: after ∧
      listed.Answers name ∧ (∀ b ∈ before, ¬ b.Answers name) ∧ l = delivered content listed) ∧
    (r.get? name = none ↔ ∀ l ∈ languages, ¬ l.Answers name) ∧
    (∀ e ∈ r.index, e.2 < r.languages.size) ∧
    (∀ place, r.index.lookup name = some place →
      ∃ h : place < r.languages.size, r.get? name = some r.languages[place]) := by
  intro r
  have hfind : r.get? name = _ := get?_ofLanguages languages content name
  have hbounds : r.InBounds := inBounds_ofLanguages languages content
  refine ⟨?_, ?_, hbounds, ?_⟩
  · intro l
    simp only [hfind, Option.map_eq_some_iff, List.find?_eq_some_iff_append, List.contains_eq_mem,
      decide_eq_true_eq, Bool.not_eq_true', decide_eq_false_iff_not, Language.mem_names_iff]
    constructor
    · rintro ⟨listed, ⟨hname, before, after, hsplit, hbefore⟩, rfl⟩
      exact ⟨before, listed, after, hsplit, hname, hbefore, rfl⟩
    · rintro ⟨before, listed, after, hsplit, hname, hbefore, rfl⟩
      exact ⟨listed, ⟨hname, before, after, hsplit, hbefore⟩, rfl⟩
  · simp only [hfind, Option.map_eq_none_iff, List.find?_eq_none, List.contains_eq_mem,
      decide_eq_true_eq, Language.mem_names_iff]
  · intro place hplace
    obtain ⟨before, after, hindex, _⟩ := List.lookup_eq_some_iff.mp hplace
    have hlt : place < r.languages.size := hbounds (name, place) (by simp [hindex])
    refine ⟨hlt, ?_⟩
    rw [get?, hplace, Option.bind_some, Array.getElem?_eq_getElem hlt]

end Registry

/-! ### Configured names -/

namespace LanguageOverride

theorem name_update (o : LanguageOverride) (l : Language) : (o.update l).name = l.name := rfl

/-- A record changes no name, and adds its own only if that is new. -/
theorem map_name_apply (o : LanguageOverride) (ls : List Language) :
    (o.apply ls).map Language.name = ls.map Language.name ∨
      (o.name ∉ ls.map Language.name ∧
        (o.apply ls).map Language.name = ls.map Language.name ++ [o.name]) := by
  induction ls with
  | nil =>
    cases hext : o.extension with
    | none => simp [apply, create?, hext]
    | some ext => simp [apply, create?, hext, Language.plain]
  | cons l ls ih =>
    by_cases h : l.name = o.name
    · simp [apply, h, name_update]
    · rcases ih with ih | ⟨hnew, ih⟩
      · simp [apply, h, ih]
      · right
        simp only [apply, h, ↓reduceIte, List.map_cons, ih, List.cons_append, List.mem_cons, not_or,
          and_true]
        exact ⟨Ne.symm h, hnew⟩

theorem nodup_apply (o : LanguageOverride) {ls : List Language} (h : (ls.map Language.name).Nodup) :
    ((o.apply ls).map Language.name).Nodup := by
  rcases o.map_name_apply ls with heq | ⟨hnew, heq⟩
  · rwa [heq]
  · rw [heq]
    exact List.nodup_append.mpr ⟨h, by simp, by
      intro name hname added hadded
      rw [List.mem_singleton.mp hadded]
      rintro rfl
      exact hnew hname⟩

end LanguageOverride

theorem nodup_builtinLanguages : (builtinLanguages.map Language.name).Nodup := by decide

/-- No two configured languages have one name. -/
theorem nodup_configuredLanguages (overrides : List LanguageOverride) :
    ((configuredLanguages overrides).map Language.name).Nodup := by
  unfold configuredLanguages
  suffices h : ∀ ls : List Language, (ls.map Language.name).Nodup →
      ((overrides.foldl (fun ls o => o.apply ls) ls).map Language.name).Nodup from
    h _ nodup_builtinLanguages
  induction overrides with
  | nil => exact fun _ h => h
  | cons o overrides ih => exact fun ls h => ih _ (o.nodup_apply h)

namespace Registry

theorem nodup_withOverrides (overrides : List LanguageOverride) (content : List String) :
    ((withOverrides overrides content).toList.map Language.name).Nodup := by
  rw [withOverrides, toList_ofLanguages, List.map_map]
  exact nodup_configuredLanguages overrides

theorem get?_withOverrides (overrides : List LanguageOverride) (content : List String)
    (name : String) :
    (withOverrides overrides content).get? name =
      (withOverrides overrides content).toList.find? fun l => l.names.contains name :=
  get?_of_indexed (indexed_ofLanguages _ _) name

/-! ### Languages under their own names -/

/-- A language is found by its own name exactly where no language listed before it has that name as
an alias; where one has, the first such is found in its place. -/
theorem get?_name_iff {overrides : List LanguageOverride} {content : List String}
    {before after : List Language} {l : Language}
    (h : (withOverrides overrides content).toList = before ++ l :: after) :
    ((withOverrides overrides content).get? l.name = some l ↔ ∀ b ∈ before, l.name ∉ b.aliases) ∧
      ((withOverrides overrides content).get? l.name =
        (before.find? fun b => b.aliases.contains l.name).or (some l)) := by
  have hnames := nodup_withOverrides overrides content
  rw [h, List.map_append, List.map_cons] at hnames
  have hother : ∀ b ∈ before, b.name ≠ l.name := by
    intro b hb
    exact (List.nodup_append.mp hnames).2.2 _ (List.mem_map_of_mem hb) _ (by simp)
  have hfind : (withOverrides overrides content).get? l.name =
      (before.find? fun b => b.aliases.contains l.name).or (some l) := by
    have hcongr : (before.find? fun b => b.names.contains l.name) =
        before.find? fun b => b.aliases.contains l.name := by
      apply List.find?_congr
      intro b hb
      simp [Language.names, (hother b hb).symm]
    rw [get?_withOverrides, h, List.find?_append, hcongr,
      List.find?_cons_of_pos (by simp [Language.names])]
  refine ⟨?_, hfind⟩
  rw [hfind]
  cases hfound : before.find? fun b => b.aliases.contains l.name with
  | none => simpa using hfound
  | some b =>
    have hb := List.mem_of_find?_eq_some hfound
    have halias := List.find?_some hfound
    simp only [Option.some_or, Option.some.injEq]
    constructor
    · rintro rfl
      exact absurd rfl (hother b hb)
    · intro hnone
      exact absurd (by simpa using halias) (hnone b hb)

end Registry

namespace Aliased

/-- A language whose name the shell has as an alias. -/
def added : LanguageOverride := ⟨"sh", some "sh", some ["python3"], none, none⟩

/-- The shell without its aliases. -/
def freed : LanguageOverride := ⟨"bash", none, some [], none, none⟩

def language : Language := .plain "sh" "sh" ["python3"] [] .all

theorem get?_name_freed :
    (∀ b ∈ (Registry.withOverrides [freed, added] []).toList.take 18, "sh" ∉ b.aliases) ∧
      (Registry.withOverrides [freed, added] []).get? "sh" = some language := by
  have hlist : (Registry.withOverrides [freed, added] []).toList =
      (Registry.withOverrides [freed, added] []).toList.take 18 ++ language :: [] := by decide +kernel
  have hbefore : ∀ b ∈ (Registry.withOverrides [freed, added] []).toList.take 18,
      "sh" ∉ b.aliases := by decide +kernel
  exact ⟨hbefore, (Registry.get?_name_iff hlist).1.mpr hbefore⟩

/-- The added language is listed, and its name leads to the shell. -/
theorem get?_name_aliased :
    language ∈ (Registry.withOverrides [added] []).toList ∧
      (Registry.withOverrides [added] []).get? language.name =
        some (.plain "bash" "sh" ["sh", "shell"] [] .basic) ∧
      (Registry.withOverrides [added] []).get? language.name ≠ some language := by
  decide +kernel

end Aliased

end Polyglot
