/-! Binary floating point numbers of 64 bits, as exact values: reading the nearest one to a decimal,
and writing the fewest digits that read back. -/

namespace Polyglot

/-- The value `± significand · 2 ^ exponent`. -/
structure Binary64 where
  negative : Bool
  significand : Nat
  exponent : Int
deriving DecidableEq, Repr

namespace Binary64

/-- The least exponent. -/
def minExponent : Int := -1074

/-- The greatest exponent. -/
def maxExponent : Int := 971

/-- The quotient of two numbers, to the nearest whole one; a half goes to the even neighbour. -/
def roundDiv (num den : Nat) : Nat :=
  let q := num / den
  let r := num % den
  if 2 * r < den then q else if den < 2 * r then q + 1 else if q % 2 = 0 then q else q + 1

/-- A power of a base as a fraction. -/
def power (base : Nat) (e : Int) : Nat × Nat :=
  if 0 ≤ e then (base.pow e.toNat, 1) else (1, base.pow (-e).toNat)

/-- The quotient of a fraction by a power of two, to the nearest whole number. -/
def scaled (num den : Nat) (e : Int) : Nat :=
  let p := power 2 e
  roundDiv (num * p.2) (den * p.1)

/-- The least significand of a value that is not close to zero. -/
def leastSignificand : Nat := Nat.pow 2 52

/-- The value nearest to a fraction; none if it is too large. -/
def ofFraction? (negative : Bool) (num den : Nat) : Option Binary64 :=
  if num = 0 then some ⟨negative, 0, 0⟩
  else
    let guess : Int := (num.log2 : Int) - (den.log2 : Int) - 52
    let e := max guess minExponent
    let e := if scaled num den e < leastSignificand then max (e - 1) minExponent else e
    let m := scaled num den e
    let (m, e) := if m = 2 * leastSignificand then (leastSignificand, e + 1) else (m, e)
    if maxExponent < e then none else some ⟨negative, m, e⟩

/-- The value nearest to `digits · 10 ^ exponent`. Decimals far out of range are not written out. -/
def ofDecimal? (negative : Bool) (digits : Nat) (exponent : Int) : Option Binary64 :=
  let size := ((Nat.toDigits 10 digits).length : Int) + exponent
  if digits = 0 || size < -330 then some ⟨negative, 0, 0⟩
  else if 330 < size then none
  else
    let p := power 10 exponent
    ofFraction? negative (digits * p.1) p.2

/-- The value as a fraction, its sign apart. -/
def fraction (x : Binary64) : Nat × Nat :=
  let p := power 2 x.exponent
  (x.significand * p.1, p.2)

/-- Whether a decimal fraction reads back as the value. -/
def readsBack (x : Binary64) (num den : Nat) : Bool := ofFraction? x.negative num den == some x

/-- The number of digits before the point of a fraction; zero or less if it is below one tenth. -/
def magnitude (num den : Nat) : Int :=
  if den ≤ num then (Nat.toDigits 10 (num / den)).length
  else
    let leading := (Nat.toDigits 10 (den / num)).length
    -- the first power of ten that lifts the fraction to at least one tenth
    if num * Nat.pow 10 (leading - 1) * 10 < den then -(leading : Int)
    else if num * Nat.pow 10 (leading - 1) < den then -((leading - 1 : Nat) : Int)
    else -((leading - 1 : Nat) : Int) + 1

/-- Tries the two neighbours of the value on the grid of so many digits. -/
def onGrid? (x : Binary64) (k : Int) (n : Nat) : Option Nat :=
  let (num, den) := x.fraction
  let p := power 10 (k - n)
  let low := num * p.2 / (den * p.1)
  let reads := fun (d : Nat) => x.readsBack (d * p.1) p.2
  -- twice the distance of the value from the lower neighbour, against the whole step
  let twice := 2 * (num * p.2 % (den * p.1))
  let near := twice < den * p.1 || (twice = den * p.1 && low % 2 = 0)
  match reads low, reads (low + 1) with
  | true, true => some (if near then low else low + 1)
  | true, false => some low
  | false, true => some (low + 1)
  | false, false => none

/-- The fewest digits that read back, from `n` on, with the place of the point. -/
def shortestFrom (x : Binary64) (k : Int) (n : Nat) : Nat → Nat × Int
  | 0 => ((x.onGrid? k n).getD 0, k - n)
  | fuel + 1 =>
    match x.onGrid? k n with
    | some d => (d, k - n)
    | none => shortestFrom x k (n + 1) fuel

/-- The shortest decimal `digits · 10 ^ exponent` that reads back as the value. -/
def shortest (x : Binary64) : Nat × Int :=
  if x.significand = 0 then (0, 0)
  else
    let (num, den) := x.fraction
    shortestFrom x (magnitude num den) 1 17

/-- Drops the zeros at the end of a decimal. -/
def dropZeros : Nat → Nat × Int → Nat × Int
  | 0, d => d
  | fuel + 1, (d, e) => if d % 10 = 0 && d != 0 then dropZeros fuel (d / 10, e + 1) else (d, e)

/-- The exponents that are written with a point and no exponent. -/
def positional (e : Int) : Bool := -5 ≤ e && e < 16

/-- An exponent, with its sign and at least two digits. -/
def exponentText (e : Int) : String :=
  let digits := toString e.natAbs
  (if e < 0 then "e-" else "e+") ++ (if digits.length < 2 then "0" else "") ++ digits

/-- The text of the value: always with a point or an exponent. -/
def text (x : Binary64) : String :=
  let (d, e) := dropZeros 20 x.shortest
  let digits := Nat.toDigits 10 d
  let n := digits.length
  let point : Int := n + e
  let unsigned : String :=
    if d = 0 then "0.0"
    else if positional (point - 1) then
      if 0 ≤ e then String.ofList (digits ++ List.replicate e.toNat '0') ++ ".0"
      else if 0 < point then
        String.ofList (digits.take point.toNat) ++ "." ++ String.ofList (digits.drop point.toNat)
      else "0." ++ String.ofList (List.replicate (-point).toNat '0' ++ digits)
    else
      let tail := digits.drop 1
      String.ofList (digits.take 1) ++
        (if tail.isEmpty then "" else "." ++ String.ofList tail) ++ exponentText (point - 1)
  if x.negative then "-" ++ unsigned else unsigned

end Binary64

end Polyglot
