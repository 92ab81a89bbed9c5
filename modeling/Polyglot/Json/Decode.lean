import Polyglot.Json.Basic
import Polyglot.Text.Quoted

/-! Decoding JSON values into the types of the project. A record is read from an object or from an
array of its fields in order. The fields of an object are looked at in the order of their names, and
the first that cannot be decoded is the one reported; fields that are missing come after that. -/

namespace Polyglot

/-- What was found where something else was expected. -/
inductive Found where
  | bool (b : Bool)
  | int (n : Int)
  | float (x : Binary64)
  | string (s : String)
  | null
  | sequence
  | map
deriving DecidableEq, Repr

/-- What was expected. -/
inductive Expected where
  | boolean
  | string
  | sequence
  | word
  | path
  | unit
  | record (name : String)
  | elements (name : String) (count : Nat)
  | fewerElements
  | stringOrMap
  | singleKey
  | tagged (name : String)
deriving DecidableEq, Repr

/-- Why a value cannot be decoded. -/
inductive DecodeError where
  | invalidType (found : Found) (expected : Expected)
  | invalidValue (found : Found) (expected : Expected)
  | invalidLength (length : Nat) (expected : Expected)
  | missingField (name : String)
  | unknownVariant (name : String) (known : List String)
deriving DecidableEq, Repr

namespace Found

def text : Found → String
  | .bool b => "boolean \x60" ++ (if b then "true" else "false") ++ "\x60"
  | .int n => "integer \x60" ++ toString n ++ "\x60"
  | .float x => "floating point \x60" ++ x.text ++ "\x60"
  | .string s => "string " ++ Text.Quoted.quote s
  | .null => "null"
  | .sequence => "sequence"
  | .map => "map"

/-- What a value is found to be. -/
def ofJson : Json → Found
  | .null => .null
  | .bool b => .bool b
  | .int n => .int n
  | .float x => .float x
  | .string s => .string s
  | .array _ => .sequence
  | .object _ => .map

end Found

namespace Expected

def text : Expected → String
  | .boolean => "a boolean"
  | .string => "a string"
  | .sequence => "a sequence"
  | .word => "u32"
  | .path => "path string"
  | .unit => "unit"
  | .record name => "struct " ++ name
  | .elements name count =>
    "struct " ++ name ++ " with " ++ toString count ++ (if count = 1 then " element" else " elements")
  | .fewerElements => "fewer elements in array"
  | .stringOrMap => "string or map"
  | .singleKey => "map with a single key"
  | .tagged name => "adjacently tagged enum " ++ name

end Expected

namespace DecodeError

/-- A name between backticks. -/
def code (s : String) : String := "\x60" ++ s ++ "\x60"

/-- The known names of a variant. -/
def choices : List String → String
  | [] => "there are no variants"
  | [a] => "expected " ++ code a
  | [a, b] => "expected " ++ code a ++ " or " ++ code b
  | names => "expected one of " ++ ", ".intercalate (names.map code)

/-- The text of the error. -/
def message : DecodeError → String
  | .invalidType found expected => "invalid type: " ++ found.text ++ ", expected " ++ expected.text
  | .invalidValue found expected => "invalid value: " ++ found.text ++ ", expected " ++ expected.text
  | .invalidLength length expected =>
    "invalid length " ++ toString length ++ ", expected " ++ expected.text
  | .missingField name => "missing field " ++ code name
  | .unknownVariant name known => "unknown variant " ++ code name ++ ", " ++ choices known

end DecodeError

/-- A reader of values of a type. -/
abbrev Decoder (α : Type) := Json → Except DecodeError α

namespace Decode

variable {α : Type}

/-- The error for a value of the wrong type. -/
def mismatch (expected : Expected) (j : Json) : Except DecodeError α :=
  .error (.invalidType (.ofJson j) expected)

def boolean : Decoder Bool
  | .bool b => .ok b
  | j => mismatch .boolean j

def string : Decoder String
  | .string s => .ok s
  | j => mismatch .string j

def path : Decoder String
  | .string s => .ok s
  | j => mismatch .path j

/-- A whole number of 32 bits. -/
def word : Decoder UInt32
  | .int n =>
    if 0 ≤ n && n.toNat < UInt32.size then .ok n.toNat.toUInt32
    else .error (.invalidValue (.int n) .word)
  | j => mismatch .word j

def unit : Decoder Unit
  | .null => .ok ()
  | j => mismatch .unit j

/-- A value that may be null. -/
def nullable (decode : Decoder α) : Decoder (Option α)
  | .null => .ok none
  | j => (decode j).map some

/-- Decodes the elements of an array one after the other. -/
def elements (decode : Decoder α) : List Json → Except DecodeError (List α)
  | [] => .ok []
  | j :: js => do
    let a ← decode j
    let as ← elements decode js
    return a :: as

def list (decode : Decoder α) : Decoder (List α)
  | .array js => elements decode js
  | j => mismatch .sequence j

/-- One of some named constants: its name, or an object that holds null under its name. -/
def variant (known : List (String × α)) : Decoder α
  | .string s => find s
  | .object [(s, content)] => do
    let a ← find s
    unit content
    return a
  | .object _ => .error (.invalidValue .map .singleKey)
  | j => mismatch .stringOrMap j
where
  find (s : String) : Except DecodeError α :=
    match known.lookup s with
    | some a => .ok a
    | none => .error (.unknownVariant s (known.map Prod.fst))

/-- A field of an object, if it is there. -/
def field (fields : List (String × Json)) (key : String) (decode : Decoder α) :
    Except DecodeError (Option α) :=
  match fields.lookup key with
  | some j => (decode j).map some
  | none => .ok none

/-- A field that has to be there. -/
def required (key : String) : Option α → Except DecodeError α
  | some a => .ok a
  | none => .error (.missingField key)

/-- An element of an array, if it is there. -/
def element (js : List Json) (i : Nat) (decode : Decoder α) : Except DecodeError (Option α) :=
  match js[i]? with
  | some j => (decode j).map some
  | none => .ok none

/-- An element that has to be there, of an array that stands for a record. -/
def requiredElement (name : String) (count : Nat) (js : List Json) (i : Nat) (decode : Decoder α) :
    Except DecodeError α :=
  match js[i]? with
  | some j => decode j
  | none => .error (.invalidLength i (.elements name count))

/-- Refuses an array with more elements than a record has fields. -/
def atMost (count : Nat) (js : List Json) : Except DecodeError Unit :=
  if js.length ≤ count then .ok () else .error (.invalidLength js.length .fewerElements)

/-- A record: read from an object by one reader and from an array by another. -/
def record (name : String) (ofFields : List (String × Json) → Except DecodeError α)
    (ofElements : List Json → Except DecodeError α) (count : Nat) : Decoder α
  | .object fields => ofFields fields
  | .array js => do
    let a ← ofElements js
    atMost count js
    return a
  | j => mismatch (.record name) j

/-- The fields of a record: an object, or an array of all its fields in order. -/
def fieldsOf (name : String) (order : List String) : Decoder (List (String × Json))
  | .object fields => .ok fields
  | .array js =>
    if js.length = order.length then .ok (order.zip js)
    else .error (.invalidLength js.length (.elements name order.length))
  | j => mismatch (.record name) j

/-- Decodes a field that has to be there. -/
def need (fields : List (String × Json)) (key : String) (decode : Decoder α) :
    Except DecodeError α := do
  required key (← field fields key decode)

/-- Decodes a field that may be null or absent. -/
def may (fields : List (String × Json)) (key : String) (decode : Decoder α) :
    Except DecodeError (Option α) := do
  return (← field fields key (nullable decode)).join

end Decode

end Polyglot
