/-! Percent codes: bytes written as a percent sign and two hexadecimal digits. -/

namespace Polyglot.Text.Percent

/-- The hexadecimal digit of a number below sixteen, in upper case. -/
def digit (n : Nat) : Char := Char.ofNat (if n < 10 then '0'.toNat + n else 'A'.toNat + (n - 10))

/-- The value of a hexadecimal digit. -/
def value? (c : Char) : Option Nat :=
  if '0' ≤ c && c ≤ '9' then some (c.toNat - '0'.toNat)
  else if 'A' ≤ c && c ≤ 'F' then some (c.toNat - 'A'.toNat + 10)
  else if 'a' ≤ c && c ≤ 'f' then some (c.toNat - 'a'.toNat + 10)
  else none

/-- The code of a byte. -/
def code (b : UInt8) : List Char := ['%', digit (b.toNat / 16), digit (b.toNat % 16)]

/-- The bytes of a text. -/
def bytes (cs : List Char) : List UInt8 := cs.flatMap String.utf8EncodeChar

/-- The text of some bytes, if they are valid. -/
def ofBytes? (bs : List UInt8) : Option String := String.fromUTF8? bs.toByteArray

theorem ofBytes?_bytes (cs : List Char) : ofBytes? (bytes cs) = some (String.ofList cs) := by
  have h : (bytes cs).toByteArray = (String.ofList cs).toByteArray := rfl
  simp only [ofBytes?, String.fromUTF8?, h, (String.ofList cs).isValidUTF8, ↓reduceDIte]
  rfl

/-- Writes the characters of a class as codes. -/
def encodeBy (escapes : Char → Bool) (cs : List Char) : List Char :=
  cs.flatMap fun c => if escapes c then (String.utf8EncodeChar c).flatMap code else [c]

/-- The characters that need no code anywhere in a URI. -/
def isUnreserved (c : Char) : Bool := c.isAlphanum || c == '-' || c == '_' || c == '.' || c == '~'

/-- Writes all characters but the unreserved ones as codes. -/
def encode (s : String) : String := String.ofList (encodeBy (fun c => !isUnreserved c) s.toList)

/-- The bytes that a text stands for; a percent sign that two digits do not follow stands for
itself. -/
def decodeBytes : List Char → List UInt8
  | '%' :: a :: b :: r =>
    match value? a, value? b with
    | some x, some y => (16 * x + y).toUInt8 :: decodeBytes r
    | _, _ => String.utf8EncodeChar '%' ++ decodeBytes (a :: b :: r)
  | c :: r => String.utf8EncodeChar c ++ decodeBytes r
  | [] => []

/-- Reads the codes of a text; none if the bytes are not valid. -/
def decode? (cs : List Char) : Option String := ofBytes? (decodeBytes cs)

end Polyglot.Text.Percent
