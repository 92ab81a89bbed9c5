import Polyglot.Text.Percent

/-! Percent codes read back. A text that was written in codes stands for its own bytes whatever
follows it, and a character that is no digit keeps the codes before it apart from what follows. -/

namespace Polyglot.Text.Percent

theorem value?_digit : ∀ n < 16, value? (digit n) = some n := by decide

theorem ofBytes?_eq_some_iff (bs : List UInt8) (s : String) :
    ofBytes? bs = some s ↔ bs = bytes s.toList := by
  constructor
  · intro h
    simp only [ofBytes?, String.fromUTF8?] at h
    split at h
    · have hbs : bs.toByteArray = s.toByteArray := congrArg String.toByteArray (Option.some.inj h)
      rw [← String.ofList_toList (s := s)] at hbs
      exact List.toByteArray_inj.mp hbs
    · cases h
  · rintro rfl
    rw [ofBytes?_bytes, String.ofList_toList]

/-! ### Reading -/

theorem decodeBytes_cons {c : Char} (h : c ≠ '%') (r : List Char) :
    decodeBytes (c :: r) = String.utf8EncodeChar c ++ decodeBytes r := by
  rw [decodeBytes]
  rintro a b r' ⟨⟩
  contradiction

/-- A percent sign that two digits do not follow stands for itself. -/
theorem decodeBytes_percent {r : List Char}
    (h : ∀ a b r', r = a :: b :: r' → value? a = none ∨ value? b = none) :
    decodeBytes ('%' :: r) = String.utf8EncodeChar '%' ++ decodeBytes r := by
  match r with
  | [] => rfl
  | [_] => rfl
  | a :: b :: r' =>
    rw [decodeBytes]
    split
    · rename_i hx hy
      rcases h a b r' rfl with ha | hb
      · cases ha.symm.trans hx
      · cases hb.symm.trans hy
    · rfl

theorem decodeBytes_code (b : UInt8) (r : List Char) :
    decodeBytes (code b ++ r) = b :: decodeBytes r := by
  have hb : b.toNat < 256 := b.toNat_lt
  have hvalue : (16 * (b.toNat / 16) + b.toNat % 16).toUInt8 = b := by
    rw [Nat.div_add_mod]
    simp
  simp only [code, List.cons_append, List.nil_append, decodeBytes,
    value?_digit _ (show b.toNat / 16 < 16 by omega), value?_digit _ (show b.toNat % 16 < 16 by omega),
    hvalue]

theorem decodeBytes_flatMap_code (bs : List UInt8) (r : List Char) :
    decodeBytes (bs.flatMap code ++ r) = bs ++ decodeBytes r := by
  induction bs with
  | nil => rfl
  | cons b bs ih => rw [List.flatMap_cons, List.append_assoc, decodeBytes_code, ih, List.cons_append]

/-- What is written in codes is read back as it was, whatever follows it. -/
theorem decodeBytes_encodeBy {escapes : Char → Bool} (h : escapes '%' = true) (cs r : List Char) :
    decodeBytes (encodeBy escapes cs ++ r) = bytes cs ++ decodeBytes r := by
  induction cs with
  | nil => rfl
  | cons c cs ih =>
    simp only [encodeBy, bytes, List.flatMap_cons, List.append_assoc] at ih ⊢
    by_cases hc : escapes c = true
    · rw [if_pos hc, decodeBytes_flatMap_code, ih]
    · have hne : c ≠ '%' := by
        rintro rfl
        exact hc h
      rw [if_neg hc, List.singleton_append, decodeBytes_cons hne, ih]

/-- No code reaches past a character that is no digit. -/
theorem decodeBytes_append {c : Char} (hvalue : value? c = none) (cs r : List Char) :
    decodeBytes (cs ++ c :: r) = decodeBytes cs ++ decodeBytes (c :: r) := by
  fun_induction decodeBytes cs with
  | case1 a b cs x y hx hy ih => simp only [List.cons_append, decodeBytes, hx, hy, ih]
  | case2 a b cs hdigits ih =>
    have hnone : value? a = none ∨ value? b = none := by
      cases ha : value? a with
      | none => exact .inl rfl
      | some x =>
        cases hb : value? b with
        | none => exact .inr rfl
        | some y => exact (hdigits x y ha hb).elim
    rw [List.append_assoc, ← ih]
    apply decodeBytes_percent
    rintro a b r' ⟨⟩
    exact hnone
  | case3 d cs hd ih =>
    rw [List.append_assoc, ← ih]
    by_cases hpercent : d = '%'
    · subst hpercent
      -- what follows is too short for a code, and `c` does not complete it
      apply decodeBytes_percent
      intro a b r' hr
      match cs with
      | [] =>
        obtain ⟨rfl, _⟩ := List.cons.inj hr
        exact .inl hvalue
      | [_] =>
        obtain ⟨_, hr⟩ := List.cons.inj hr
        obtain ⟨rfl, _⟩ := List.cons.inj hr
        exact .inr hvalue
      | a :: b :: cs => exact (hd a b cs rfl rfl).elim
    · exact decodeBytes_cons hpercent _
  | case4 => rfl

theorem decodeBytes_eq_nil_iff (cs : List Char) : decodeBytes cs = [] ↔ cs = [] := by
  fun_cases decodeBytes cs <;> simp

end Polyglot.Text.Percent
