import Polyglot.Url.Basic

/-! The hosts of URLs: domains, addresses of the fourth and the sixth version, and plain names. -/

namespace Polyglot.Url.Host

/-- Characters that no host may hold. -/
def isForbidden (c : Char) : Bool :=
  c == '\x00' || c == '\t' || c == '\n' || c == '\r' || c == ' ' || c == '#' || c == '/' || c == ':' ||
    c == '<' || c == '>' || c == '?' || c == '@' || c == '[' || c == '\\' || c == ']' || c == '^' ||
    c == '|'

/-- Characters that no domain may hold. -/
def isForbiddenInDomain (c : Char) : Bool :=
  isForbidden c || c.toNat < 32 || c == '%' || c.toNat == 127

/-! ### Labels beyond ASCII -/

/-- The digit of a number below 36 in a label. -/
def labelDigit (n : Nat) : Char := Char.ofNat (if n < 26 then 'a'.toNat + n else '0'.toNat + (n - 26))

/-- Divides a delta until it is small; gives the number of rounds and what is left. -/
def shrink : Nat → Nat → Nat → Nat × Nat
  | 0, k, delta => (k, delta)
  | fuel + 1, k, delta => if 455 < delta then shrink fuel (k + 36) (delta / 35) else (k, delta)

/-- The bias after a delta. -/
def adapt (delta count : Nat) (first : Bool) : Nat :=
  let delta := if first then delta / 700 else delta / 2
  let (k, delta) := shrink delta 0 (delta + delta / count)
  k + 36 * delta / (delta + 38)

/-- The digits of a delta under a bias. -/
def deltaDigits (bias : Nat) : Nat → Nat → Nat → List Char
  | 0, _, _ => []
  | fuel + 1, k, q =>
    let t := if k ≤ bias then 1 else if bias + 26 ≤ k then 26 else k - bias
    if q < t then [labelDigit q]
    else labelDigit (t + (q - t) % (36 - t)) :: deltaDigits bias fuel (k + 36) ((q - t) / (36 - t))

/-- What has been written of a label: its text, the next delta, the bias and how many characters it
covers. -/
structure Progress where
  text : List Char
  delta : Nat
  bias : Nat
  done : Nat

/-- Writes the characters of one code point wherever they stand. -/
def writePoint (point basics : Nat) (p : Progress) (c : Char) : Progress :=
  if c.toNat < point then { p with delta := p.delta + 1 }
  else if c.toNat = point then
    { text := p.text ++ deltaDigits p.bias (p.delta + 1) 36 p.delta
      delta := 0
      bias := adapt p.delta (p.done + 1) (p.done == basics)
      done := p.done + 1 }
  else p

/-- Writes the code points of a label in ascending order, `n` being the next that may come. -/
def writePoints (label : List Char) (basics : Nat) : Nat → Nat → Progress → List Char
  | 0, _, p => p.text
  | fuel + 1, n, p =>
    match (label.filter fun c => n ≤ c.toNat).map Char.toNat with
    | [] => p.text
    | a :: as =>
      let point := as.foldl min a
      let p := { p with delta := p.delta + (point - n) * (p.done + 1) }
      let p := label.foldl (writePoint point basics) p
      writePoints label basics fuel (point + 1) { p with delta := p.delta + 1 }

/-- A label in ASCII. -/
def encodeLabel (label : List Char) : List Char :=
  let basic := label.filter fun c => c.toNat < 128
  if basic.length = label.length then label
  else
    let text := if basic.isEmpty then [] else basic ++ ['-']
    "xn--".toList ++ writePoints label basic.length label.length 128 ⟨text, 0, 72, basic.length⟩

/-! ### Addresses -/

/-- Reads the digits of a number in a base. -/
def digits? (base : Nat) (cs : List Char) : Option Nat :=
  let push (n : Nat) (c : Char) : Option Nat := do
    let d ← Text.Percent.value? c
    if d < base then some (base * n + d) else none
  cs.foldlM push 0

/-- Reads a part of an address of the fourth version: decimal, octal or hexadecimal. -/
def part? (cs : List Char) : Option Nat :=
  match cs with
  | [] => none
  | '0' :: 'x' :: r => digits? 16 r
  | '0' :: 'X' :: r => digits? 16 r
  | '0' :: r => digits? 8 r
  | cs => digits? 10 cs

/-- The parts of a host between its points, an empty last one apart. -/
def parts (cs : List Char) : List (List Char) :=
  let ps := cs.splitOn '.'
  if ps.getLast? == some [] && 1 < ps.length then ps.dropLast else ps

/-- Whether the last part of a host is a number. -/
def endsInNumber (cs : List Char) : Bool :=
  match (parts cs).getLast? with
  | some last => (!last.isEmpty && last.all Char.isDigit) ||
    (last.take 2 == ['0', 'x'] && (digits? 16 (last.drop 2)).isSome) ||
    (last.take 2 == ['0', 'X'] && (digits? 16 (last.drop 2)).isSome)
  | none => false

/-- The text of an address of the fourth version. -/
def addressText (n : Nat) : String :=
  ".".intercalate ([n >>> 24, (n >>> 16) % 256, (n >>> 8) % 256, n % 256].map toString)

/-- Reads an address of the fourth version; the last part fills the bytes that the others leave. -/
def address? (cs : List Char) : Option Nat := do
  let ps ← (parts cs).mapM part?
  if 4 < ps.length then none
  else
    let last ← ps.getLast?
    let front := ps.dropLast
    if front.any (255 < ·) || Nat.pow 256 (5 - ps.length) ≤ last then none
    else some ((front.zipIdx.map fun (p, i) => p * Nat.pow 256 (3 - i)).foldl (· + ·) last)

/-- Reads a group of an address of the sixth version: up to four hexadecimal digits. -/
def group? (cs : List Char) : Option Nat :=
  if cs.isEmpty || 4 < cs.length then none else digits? 16 cs

/-- Reads groups divided by colons; the last may be an address of the fourth version. -/
def groups? (cs : List Char) : Option (List Nat) :=
  if cs.isEmpty then some []
  else
    let ps := cs.splitOn ':'
    match ps.getLast? with
    | some last =>
      if last.contains '.' then do
        let front ← ps.dropLast.mapM group?
        let quads ← (last.splitOn '.').mapM fun q =>
          if q.isEmpty || 3 < q.length || (1 < q.length && q.head? == some '0') then none
          else (digits? 10 q).bind fun n => if n ≤ 255 then some n else none
        match quads with
        | [a, b, c, d] => some (front ++ [a * 256 + b, c * 256 + d])
        | _ => none
      else ps.mapM group?
    | none => none

/-- Cuts a text at the first double colon. -/
def splitDouble : List Char → Option (List Char × List Char)
  | ':' :: ':' :: r => some ([], r)
  | c :: r => (splitDouble r).map fun (a, b) => (c :: a, b)
  | [] => none

/-- Reads the eight groups of an address of the sixth version. -/
def longAddress? (cs : List Char) : Option (List Nat) :=
  match splitDouble cs with
  | some (a, b) => do
    let front ← groups? a
    let back ← groups? b
    if front.length + back.length < 8 then
      some (front ++ List.replicate (8 - front.length - back.length) 0 ++ back)
    else none
  | none => (groups? cs).bind fun gs => if gs.length = 8 then some gs else none

/-- The length of the run of zeros at the front of a list. -/
def zeroRun (gs : List Nat) : Nat := (gs.takeWhile (· == 0)).length

/-- The place and the length of the first longest run of zeros. -/
def longestRun (gs : List Nat) : Nat × Nat :=
  (List.range gs.length).foldl
    (fun best i => if best.2 < zeroRun (gs.drop i) then (i, zeroRun (gs.drop i)) else best) (0, 0)

/-- The text of an address of the sixth version: its longest run of zeros is left out. -/
def longAddressText (gs : List Nat) : String :=
  let hex := fun gs : List Nat => ":".intercalate (gs.map fun g => String.ofList (Nat.toDigits 16 g))
  let (place, length) := longestRun gs
  if length < 2 then "[" ++ hex gs ++ "]"
  else "[" ++ hex (gs.take place) ++ "::" ++ hex (gs.drop (place + length)) ++ "]"

/-- Reads an address in brackets. -/
def bracketed? (cs : List Char) : Option String :=
  if cs.getLast? == some ']' then (longAddress? cs.dropLast).map longAddressText else none

/-- Reads the host of a scheme that knows domains. -/
def domain? (cs : List Char) : Option String :=
  match cs with
  | '[' :: r => bracketed? r
  | cs => do
    let decoded ← Text.Percent.decode? cs
    let labels := (decoded.toList.map Char.toLower).splitOn '.'
    let host := (labels.map encodeLabel).intersperse ['.'] |>.flatten
    if host.isEmpty || host.any isForbiddenInDomain then none
    else if endsInNumber host then (address? host).map addressText
    else some (String.ofList host)

/-- Reads the host of a scheme that does not. -/
def plain? (cs : List Char) : Option String :=
  match cs with
  | '[' :: r => bracketed? r
  | cs =>
    if cs.any isForbidden then none else some (String.ofList (Text.Percent.encodeBy isControl cs))

end Polyglot.Url.Host
