import Polyglot.Markdown.EntityNames
import Polyglot.Markdown.Reference

/-! Character references, and the info string of a fence in which they are resolved. -/

namespace Polyglot.Markdown.Entity

/-- What stands for a code point that is no character of a document. -/
def replacement : Char := '\ufffd'

/-- The value of a digit in bases up to sixteen. -/
def digitValue (c : Char) : Nat :=
  if c.isDigit then c.toNat - '0'.toNat else c.toLower.toNat - 'a'.toNat + 10

/-- The hexadecimal digits. -/
def isHexDigit (c : Char) : Bool :=
  c.isDigit || ('a' ≤ c && c ≤ 'f') || ('A' ≤ c && c ≤ 'F')

/-- The character of a numeric reference. -/
def ofCode (n : Nat) : Char :=
  if n = 0 || (0xd800 ≤ n && n ≤ 0xe000) || 0x10ffff < n then replacement else Char.ofNat n

/-- Reads digits and a semicolon: the character they stand for, and what follows. -/
def numeric? (base most : Nat) (isDigit : Char → Bool) (cs : List Char) :
    Option (List Char × List Char) :=
  let digits := cs.takeWhile isDigit
  match cs.drop digits.length with
  | ';' :: r =>
    if 1 ≤ digits.length && digits.length ≤ most then
      some ([ofCode (digits.foldl (fun n c => base * n + digitValue c) 0)], r)
    else none
  | _ => none

/-- The characters a name stands for. -/
def named? (name : List Char) : Option (List Char) :=
  name.head?.bind fun c => ((names c).lookup (String.ofList name)).map String.toList

/-- The longest name. -/
def maxName : Nat := 31

/-- Reads a reference after its ampersand: what it stands for, and what follows. -/
def read? (cs : List Char) : Option (List Char × List Char) :=
  match cs with
  | '#' :: 'x' :: r => numeric? 16 6 isHexDigit r
  | '#' :: 'X' :: r => numeric? 16 6 isHexDigit r
  | '#' :: r => numeric? 10 7 Char.isDigit r
  | _ =>
    let name := (cs.take maxName).takeWhile (· != ';')
    match cs.drop name.length with
    | ';' :: r => (named? name).map fun chars => (chars, r)
    | _ => none

/-- Resolves the references of a text; each takes at least one character of the fuel. -/
def resolveWith : Nat → List Char → List Char
  | 0, cs => cs
  | _ + 1, [] => []
  | n + 1, c :: r =>
    if c == '&' then
      match read? r with
      | some (chars, after) => chars ++ resolveWith n after
      | none => c :: resolveWith n r
    else c :: resolveWith n r

/-- Resolves the character references of a text. -/
def resolve (cs : List Char) : List Char := resolveWith cs.length cs

/-- Drops the backslashes that escape punctuation. -/
def unescape : List Char → List Char
  | '\\' :: c :: r => if Reference.isPunctuation c then c :: unescape r else '\\' :: unescape (c :: r)
  | c :: r => c :: unescape r
  | [] => []

end Polyglot.Markdown.Entity
