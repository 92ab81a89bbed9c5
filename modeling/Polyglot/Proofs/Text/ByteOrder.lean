import Mathlib.Data.String.Basic
import Polyglot.Text.Percent

/-! Texts ordered by their bytes. The first byte of a character grows with the number of bytes that
follow it and with the leading digits of its code point to the base 64, and the bytes that follow are
the other digits, so the order by bytes is the order by code points. -/

namespace Polyglot.Text

/-- One text comes before another by its bytes. -/
def BytesBefore (a b : String) : Prop := a.toUTF8.data.toList < b.toUTF8.data.toList

/-! ### The bytes of a character -/

/-- The first byte of a code point. -/
def leadByte (v : Nat) : Nat :=
  if v ≤ 0x7f then v
  else if v ≤ 0x7ff then v / 64 + 0xc0
  else if v ≤ 0xffff then v / 64 ^ 2 + 0xe0
  else v / 64 ^ 3 + 0xf0

/-- How many bytes of a code point follow the first. -/
def trailSize (v : Nat) : Nat :=
  if v ≤ 0x7f then 0 else if v ≤ 0x7ff then 1 else if v ≤ 0xffff then 2 else 3

/-- The last digits of a number to the base 64, as the bytes that follow a first one. -/
def trail : Nat → Nat → List UInt8
  | 0, _ => []
  | k + 1, v => UInt8.ofNat (v / 64 ^ k % 64 + 0x80) :: trail k v

theorem toNat_lt (c : Char) : c.toNat < 0x110000 := by
  obtain h | ⟨_, h⟩ := c.valid
  · exact Nat.lt_trans h (by decide)
  · exact h

theorem utf8EncodeChar_eq (c : Char) :
    String.utf8EncodeChar c = UInt8.ofNat (leadByte c.toNat) :: trail (trailSize c.toNat) c.toNat := by
  have hc := toNat_lt c
  simp only [String.utf8EncodeChar, Char.toNat_val, leadByte, trailSize]
  split_ifs
  · rfl
  · rw [Nat.mod_eq_of_lt (by omega)]
    simp [trail]
  · rw [Nat.mod_eq_of_lt (by omega)]
    simp [trail]
  · rw [Nat.mod_eq_of_lt (by omega)]
    simp [trail]

theorem leadByte_lt (c : Char) : leadByte c.toNat < 256 := by
  have hc := toNat_lt c
  unfold leadByte
  split_ifs <;> omega

/-- The first byte tells two code points apart, or else they have as many bytes and differ in the digits
that follow. -/
theorem leadByte_lt_or {v w : Nat} (h : v < w) : leadByte v < leadByte w ∨
    leadByte v = leadByte w ∧ trailSize v = trailSize w ∧
      v % 64 ^ trailSize v < w % 64 ^ trailSize w := by
  unfold leadByte trailSize
  split_ifs <;> omega

/-! ### Comparing -/

theorem trail_lt {v w k : Nat} (h : v % 64 ^ k < w % 64 ^ k) (r s : List UInt8) :
    trail k v ++ r < trail k w ++ s := by
  induction k with
  | zero => simp [Nat.mod_one] at h
  | succ k ih =>
    rw [Nat.mod_pow_succ, Nat.mod_pow_succ] at h
    rw [trail, trail, List.cons_append, List.cons_append, List.cons_lt_cons_iff]
    rcases Nat.lt_trichotomy (v / 64 ^ k % 64) (w / 64 ^ k % 64) with hlt | heq | hgt
    · left
      have hv : v / 64 ^ k % 64 + 0x80 < 256 := by omega
      have hw : w / 64 ^ k % 64 + 0x80 < 256 := by omega
      exact (UInt8.ofNat_lt_iff_lt hv hw).mpr (by omega)
    · right
      rw [heq] at h ⊢
      exact ⟨rfl, ih (by omega)⟩
    · -- a greater digit outweighs whatever follows it
      have hdigit := Nat.mul_le_mul_left (64 ^ k) (Nat.succ_le_of_lt hgt)
      have hrest : w % 64 ^ k < 64 ^ k := Nat.mod_lt _ (Nat.pow_pos (by decide))
      rw [Nat.mul_succ] at hdigit
      omega

/-- A greater character has greater bytes, whatever follows it. -/
theorem utf8EncodeChar_lt {c d : Char} (h : c < d) (r s : List UInt8) :
    String.utf8EncodeChar c ++ r < String.utf8EncodeChar d ++ s := by
  have hlt : c.toNat < d.toNat := UInt32.lt_iff_toNat_lt.mp (Char.lt_def.mp h)
  rw [utf8EncodeChar_eq, utf8EncodeChar_eq, List.cons_append, List.cons_append,
    List.cons_lt_cons_iff]
  obtain hlead | ⟨hlead, hsize, hrest⟩ := leadByte_lt_or hlt
  · left
    exact (UInt8.ofNat_lt_iff_lt (leadByte_lt c) (leadByte_lt d)).mpr hlead
  · right
    rw [hsize] at hrest
    rw [hlead, hsize]
    exact ⟨rfl, trail_lt hrest r s⟩

theorem bytes_lt {cs ds : List Char} (h : cs < ds) : Percent.bytes cs < Percent.bytes ds := by
  induction cs generalizing ds with
  | nil =>
    cases ds with
    | nil => exact absurd h (List.lt_irrefl _)
    | cons d ds =>
      rw [Percent.bytes, Percent.bytes, List.flatMap_cons, utf8EncodeChar_eq]
      exact List.nil_lt_cons _ _
  | cons c cs ih =>
    cases ds with
    | nil => exact absurd h (List.not_lt_nil _)
    | cons d ds =>
      rw [Percent.bytes, Percent.bytes, List.flatMap_cons, List.flatMap_cons]
      obtain hlt | ⟨rfl, hlt⟩ := List.cons_lt_cons_iff.mp h
      · exact utf8EncodeChar_lt hlt _ _
      · exact List.append_left_lt (ih hlt)

theorem toUTF8_eq (s : String) : s.toUTF8.data.toList = Percent.bytes s.toList := by
  obtain ⟨cs, rfl⟩ : ∃ cs, s = String.ofList cs := ⟨s.toList, String.ofList_toList.symm⟩
  rw [String.toList_ofList]
  exact List.toList_data_toByteArray

/-- Texts are ordered as their bytes are. -/
theorem bytesBefore_iff (a b : String) : BytesBefore a b ↔ a < b := by
  have hbytes : ∀ a b : String, a < b → BytesBefore a b := by
    intro a b h
    rw [BytesBefore, toUTF8_eq, toUTF8_eq]
    exact bytes_lt (String.lt_iff.mp h)
  constructor
  · intro h
    rcases lt_trichotomy a b with hlt | rfl | hgt
    · exact hlt
    · exact absurd h (List.lt_irrefl _)
    · exact absurd h (List.lt_asymm (hbytes b a hgt))
  · exact hbytes a b

end Polyglot.Text
