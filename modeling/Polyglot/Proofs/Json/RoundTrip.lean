import Mathlib.Data.List.Forall2
import Polyglot.Proofs.Document
import Polyglot.Provider.Wire

/-! Values that are decoded as what they were encoded from. The fields of an object have no order, so a
decoder has to read every rearrangement of an encoded value; it does if it looks fields up by their
keys. Options and lists are read back if what they hold is, and a record if each of its fields is. -/

namespace Polyglot

namespace Json

/-- Two values that differ at most in how their fields are listed: under every key they have the same
value or none. -/
inductive Same : Json → Json → Prop
  | refl (j : Json) : Same j j
  | array {as bs : List Json} : List.Forall₂ Same as bs → Same (.array as) (.array bs)
  | object {fs gs : List (String × Json)} :
    (∀ key, Option.Rel Same (fs.lookup key) (gs.lookup key)) → Same (.object fs) (.object gs)

/-- Fields that are the same under every key. -/
def SameFields (fs gs : List (String × Json)) : Prop :=
  ∀ key, Option.Rel Same (fs.lookup key) (gs.lookup key)

theorem sameFields_refl (fs : List (String × Json)) : SameFields fs fs := by
  intro key
  cases fs.lookup key with
  | none => exact .none
  | some j => exact .some (.refl j)

section
variable {fs gs : List (String × Json)}

theorem SameFields.lookup_of_some (h : SameFields fs gs) (key : String) {i : Json}
    (hkey : fs.lookup key = some i) : ∃ j, gs.lookup key = some j ∧ i.Same j := by
  have hsame := h key
  rw [hkey] at hsame
  generalize gs.lookup key = found at hsame ⊢
  cases hsame with
  | some hj => exact ⟨_, rfl, hj⟩

theorem SameFields.lookup_of_none (h : SameFields fs gs) (key : String)
    (hkey : fs.lookup key = none) : gs.lookup key = none := by
  have hsame := h key
  rw [hkey] at hsame
  generalize gs.lookup key = found at hsame ⊢
  cases hsame with
  | none => rfl

end

theorem forall₂_same_refl (js : List Json) : List.Forall₂ Same js js := by
  induction js with
  | nil => exact .nil
  | cons j js ih => exact .cons (.refl j) ih

theorem Same.exists_of_object {fs : List (String × Json)} {j : Json} (h : Same (.object fs) j) :
    ∃ gs, j = .object gs ∧ SameFields fs gs := by
  cases h with
  | refl => exact ⟨fs, rfl, sameFields_refl fs⟩
  | object hfields => exact ⟨_, rfl, hfields⟩

theorem Same.exists_of_array {as : List Json} {j : Json} (h : Same (.array as) j) :
    ∃ bs, j = .array bs ∧ List.Forall₂ Same as bs := by
  cases h with
  | refl => exact ⟨as, rfl, forall₂_same_refl as⟩
  | array helements => exact ⟨_, rfl, helements⟩

theorem Same.ne_null {i j : Json} (h : Same i j) (hi : i ≠ .null) : j ≠ .null := by
  cases h with
  | refl => exact hi
  | array => rintro ⟨⟩
  | object => rintro ⟨⟩

end Json

open Json Decode

/-- Every value is decoded from what it is encoded as, in whatever order the fields of objects come. -/
def RoundTrips {α : Type} (encode : α → Json) (decode : Decoder α) : Prop :=
  ∀ a, decode (encode a) = .ok a ∧ ∀ j, (encode a).Same j → decode j = .ok a

section
variable {α : Type} {encode : α → Json} {decode : Decoder α}

theorem roundTrips_of_same (h : ∀ a j, (encode a).Same j → decode j = .ok a) :
    RoundTrips encode decode :=
  fun a => ⟨h a _ (.refl _), h a⟩

theorem RoundTrips.decode_of_same (h : RoundTrips encode decode) {a : α} {j : Json}
    (hj : (encode a).Same j) : decode j = .ok a := (h a).2 j hj

/-! ### Values without fields -/

theorem roundTrips_boolean : RoundTrips Json.bool boolean := by
  refine roundTrips_of_same ?_
  rintro b _ ⟨⟩
  rfl

theorem roundTrips_string : RoundTrips Json.string Decode.string := by
  refine roundTrips_of_same ?_
  rintro s _ ⟨⟩
  rfl

theorem roundTrips_path : RoundTrips Json.string path := by
  refine roundTrips_of_same ?_
  rintro s _ ⟨⟩
  rfl

/-- Every word fits, and is the one that its number stands for. -/
theorem roundTrips_word : RoundTrips Json.ofWord word := by
  refine roundTrips_of_same ?_
  rintro n _ ⟨⟩
  have hfits : n.toNat < UInt32.size := n.toNat_lt
  simp [Json.ofWord, word, hfits]

theorem roundTrips_variant {known : List (String × α)} {name : α → String}
    (h : ∀ a, known.lookup (name a) = some a) :
    RoundTrips (fun a => .string (name a)) (variant known) := by
  refine roundTrips_of_same ?_
  rintro a _ ⟨⟩
  simp only [variant, variant.find, h a]

/-! ### Options and lists -/

theorem roundTrips_nullable (h : RoundTrips encode decode) (hne : ∀ a, encode a ≠ .null) :
    RoundTrips (Json.ofOption encode) (nullable decode) := by
  refine roundTrips_of_same ?_
  rintro (_ | a) j hj
  · cases hj
    rfl
  · have hj' : j ≠ .null := hj.ne_null (hne a)
    have hdecode : decode j = .ok a := h.decode_of_same hj
    rw [nullable, hdecode]
    · rfl
    · exact hj'

theorem elements_of_forall₂ (h : RoundTrips encode decode) {as : List α} {js : List Json}
    (hjs : List.Forall₂ Same (as.map encode) js) : elements decode js = .ok as := by
  induction as generalizing js with
  | nil =>
    cases hjs
    rfl
  | cons a as ih =>
    obtain ⟨j, rest, hj, hrest, rfl⟩ := List.forall₂_cons_left_iff.mp hjs
    rw [elements, h.decode_of_same hj, ih hrest]
    rfl

theorem roundTrips_list (h : RoundTrips encode decode) :
    RoundTrips (Json.ofList encode) (Decode.list decode) := by
  refine roundTrips_of_same ?_
  intro as j hj
  obtain ⟨js, rfl, hjs⟩ := Same.exists_of_array hj
  exact elements_of_forall₂ h hjs

/-! ### Records -/

theorem roundTrips_record {fieldsOf : α → List (String × Json)} {name : String}
    {ofFields : List (String × Json) → Except DecodeError α}
    {ofElements : List Json → Except DecodeError α} {count : Nat}
    (h : ∀ a fields, SameFields (fieldsOf a) fields → ofFields fields = .ok a) :
    RoundTrips (fun a => .object (fieldsOf a)) (record name ofFields ofElements count) := by
  refine roundTrips_of_same ?_
  intro a j hj
  obtain ⟨fields, rfl, hfields⟩ := Same.exists_of_object hj
  exact h a fields hfields

theorem lookup_optionalField (written : String) (encode : α → Json) (o : Option α) (key : String) :
    (optionalField written encode o).lookup key = if key = written then o.map encode else none := by
  cases o with
  | none => simp [optionalField]
  | some a =>
    rw [optionalField, lookup_cons_eq_ite]
    rfl

/-- A field is read as what it was written from, or as absent. -/
theorem field_of_sameFields (h : RoundTrips encode decode) {fs gs : List (String × Json)}
    (hfields : SameFields fs gs) (key : String) (o : Option α)
    (hkey : fs.lookup key = o.map encode) : field gs key decode = .ok o := by
  cases o with
  | none => rw [field, hfields.lookup_of_none key hkey]
  | some a =>
    obtain ⟨j, hfound, hj⟩ := hfields.lookup_of_some key hkey
    simp only [field, hfound, h.decode_of_same hj, Except.map]

/-- An option that is left out when it is absent is read as absent. -/
theorem nullable_field_of_sameFields (h : RoundTrips encode decode) (hne : ∀ a, encode a ≠ .null)
    {fs gs : List (String × Json)} (hfields : SameFields fs gs) (key : String) (o : Option α)
    (hkey : fs.lookup key = o.map encode) : field gs key (nullable decode) = .ok (o.map some) := by
  refine field_of_sameFields (roundTrips_nullable h hne) hfields key _ ?_
  rw [hkey, Option.map_map]
  rfl

theorem join_map_some (o : Option α) : (o.map some).join = o := by
  cases o <;> rfl

/-- What was decoded is passed on. -/
theorem ok_bind {β : Type} (a : α) (f : α → Except DecodeError β) : (Except.ok a >>= f) = f a := rfl

end

end Polyglot
