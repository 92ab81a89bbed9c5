import Polyglot.Json.Basic

/-! Reading JSON text. A number without point and exponent is a whole one as long as it fits 64 bits,
with or without sign; any other becomes a floating point number. Of two fields with one key the later
counts, and the fields of an object are kept in the order of their keys. -/

namespace Polyglot.Json

/-- White space between the parts of a value. -/
def isSpace (c : Char) : Bool := c == ' ' || c == '\t' || c == '\n' || c == '\r'

/-- Moves past white space. -/
def skipSpace (cs : List Char) : List Char := cs.dropWhile isSpace

/-- The value of a hexadecimal digit. -/
def hexValue? (c : Char) : Option Nat :=
  if c.isDigit then some (c.toNat - '0'.toNat)
  else if 'a' ≤ c && c ≤ 'f' then some (c.toNat - 'a'.toNat + 10)
  else if 'A' ≤ c && c ≤ 'F' then some (c.toNat - 'A'.toNat + 10)
  else none

/-- Reads four hexadecimal digits. -/
def readUnit? : List Char → Option (Nat × List Char)
  | a :: b :: c :: d :: r => do
    let a ← hexValue? a
    let b ← hexValue? b
    let c ← hexValue? c
    let d ← hexValue? d
    some (((a * 16 + b) * 16 + c) * 16 + d, r)
  | _ => none

/-- Reads the code of an escaped character; a pair of surrogates is one character. -/
def readCode? (cs : List Char) : Option (Char × List Char) := do
  let (high, r) ← readUnit? cs
  if 0xd800 ≤ high && high < 0xdc00 then
    match r with
    | '\\' :: 'u' :: r =>
      let (low, r) ← readUnit? r
      if 0xdc00 ≤ low && low < 0xe000 then
        some (Char.ofNat (0x10000 + (high - 0xd800) * 0x400 + (low - 0xdc00)), r)
      else none
    | _ => none
  else if 0xdc00 ≤ high && high < 0xe000 then none
  else some (Char.ofNat high, r)

/-- The character that a letter after a backslash stands for. -/
def unescape? : Char → Option Char
  | '"' => some '"'
  | '\\' => some '\\'
  | '/' => some '/'
  | 'b' => some '\x08'
  | 'f' => some '\x0c'
  | 'n' => some '\n'
  | 'r' => some '\r'
  | 't' => some '\t'
  | _ => none

/-- Reads a string after its opening quote; `read` are the characters read so far, last first. -/
def readString? : Nat → List Char → List Char → Option (String × List Char)
  | 0, _, _ => none
  | _ + 1, _, [] => none
  | _ + 1, read, '"' :: r => some (String.ofList read.reverse, r)
  | fuel + 1, read, '\\' :: 'u' :: r =>
    match readCode? r with
    | some (c, r) => readString? fuel (c :: read) r
    | none => none
  | fuel + 1, read, '\\' :: c :: r =>
    match unescape? c with
    | some d => readString? fuel (d :: read) r
    | none => none
  | fuel + 1, read, c :: r => if c.toNat < 32 then none else readString? fuel (c :: read) r

/-- The value of a run of decimal digits. -/
def decimal (digits : List Char) : Nat :=
  digits.foldl (fun n c => 10 * n + (c.toNat - '0'.toNat)) 0

/-- Reads an exponent after its mark. -/
def readExponent? (cs : List Char) : Option (Int × List Char) :=
  let (negative, r) := match cs with
    | '-' :: r => (true, r)
    | '+' :: r => (false, r)
    | r => (false, r)
  let digits := r.takeWhile Char.isDigit
  if digits.isEmpty then none
  else
    let e : Int := decimal digits
    some (if negative then -e else e, r.drop digits.length)

/-- The number of some digits before and after the point. -/
def number? (negative : Bool) (whole fraction : List Char) (exponent : Option Int) : Option Json :=
  let n := decimal whole
  let signed : Int := if negative then -(n : Int) else n
  if fraction.isEmpty && exponent.isNone && Int64.minValue.toInt ≤ signed &&
      signed.toNat < UInt64.size && !(negative && n = 0) then
    some (.int signed)
  else
    (Binary64.ofDecimal? negative (decimal (whole ++ fraction))
      (exponent.getD 0 - fraction.length)).map .float

/-- Reads a number. -/
def readNumber? (cs : List Char) : Option (Json × List Char) := do
  let (negative, r) := match cs with
    | '-' :: r => (true, r)
    | r => (false, r)
  let whole := r.takeWhile Char.isDigit
  if whole.isEmpty || (whole.head? == some '0' && 1 < whole.length) then none
  else
    let r := r.drop whole.length
    let (fraction, r) ← match r with
      | '.' :: r =>
        let digits := r.takeWhile Char.isDigit
        if digits.isEmpty then none else some (digits, r.drop digits.length)
      | r => some ([], r)
    match r with
    | 'e' :: r => do
      let (e, r) ← readExponent? r
      return (← number? negative whole fraction (some e), r)
    | 'E' :: r => do
      let (e, r) ← readExponent? r
      return (← number? negative whole fraction (some e), r)
    | r => return (← number? negative whole fraction none, r)

mutual

/-- Reads a value. -/
def readValue? : Nat → List Char → Option (Json × List Char)
  | 0, _ => none
  | fuel + 1, cs =>
    match skipSpace cs with
    | 'n' :: 'u' :: 'l' :: 'l' :: r => some (.null, r)
    | 't' :: 'r' :: 'u' :: 'e' :: r => some (.bool true, r)
    | 'f' :: 'a' :: 'l' :: 's' :: 'e' :: r => some (.bool false, r)
    | '"' :: r => (readString? fuel [] r).map fun (s, r) => (.string s, r)
    | '[' :: r =>
      match skipSpace r with
      | ']' :: r => some (.array [], r)
      | r => (readElements? fuel [] r).map fun (js, r) => (.array js, r)
    | '\x7b' :: r =>
      match skipSpace r with
      | '\x7d' :: r => some (.object [], r)
      | r => (readFields? fuel [] r).map fun (fs, r) => (.object fs, r)
    | r => readNumber? r

/-- Reads the elements of an array up to its closing bracket; `read` come before them, last
first. -/
def readElements? : Nat → List Json → List Char → Option (List Json × List Char)
  | 0, _, _ => none
  | fuel + 1, read, cs =>
    match readValue? fuel cs with
    | some (j, r) =>
      match skipSpace r with
      | ',' :: r => readElements? fuel (j :: read) r
      | ']' :: r => some ((j :: read).reverse, r)
      | _ => none
    | none => none

/-- Reads the fields of an object up to its closing brace; `read` come before them. -/
def readFields? : Nat → List (String × Json) → List Char → Option (List (String × Json) × List Char)
  | 0, _, _ => none
  | fuel + 1, read, cs =>
    match skipSpace cs with
    | '"' :: r =>
      match readString? fuel [] r with
      | some (key, r) =>
        match skipSpace r with
        | ':' :: r =>
          match readValue? fuel r with
          | some (j, r) =>
            match skipSpace r with
            | ',' :: r => readFields? fuel (insertField key j read) r
            | '\x7d' :: r => some (insertField key j read, r)
            | _ => none
          | none => none
        | _ => none
      | none => none
    | _ => none

end

/-- Reads a text that is one value. Every two steps of the reading take a character. -/
def parse? (s : String) : Option Json :=
  let cs := s.toList
  match readValue? (2 * cs.length + 1) cs with
  | some (j, r) => if (skipSpace r).isEmpty then some j else none
  | none => none

end Polyglot.Json
