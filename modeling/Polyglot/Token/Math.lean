import Polyglot.Text.Blank
import Polyglot.Text.Lines
import Polyglot.Token.Basic

/-! Display math: regions between two lines that start with a double dollar sign. A line inside a
code block is no delimiter and ends an open region without a token. -/

namespace Polyglot.Math

/-- What follows the double dollar sign that starts a line, white space before it apart. -/
def delimiter? (line : List Char) : Option (List Char) :=
  match Text.trim line with
  | '$' :: '$' :: r => some r
  | _ => none

/-- Whether a text holds a double dollar sign. -/
def holdsDelimiter : List Char → Bool
  | '$' :: '$' :: _ => true
  | _ :: r => holdsDelimiter r
  | [] => false

/-- The first and the last line of each region, for lines numbered from `i`; `opener` is the line
that opened a region still open. A line with a second double dollar sign opens nothing. -/
def regions (isCode : Nat → Bool) : Nat → Option Nat → List (List Char) → List (Nat × Nat)
  | _, _, [] => []
  | i, opener, line :: lines =>
    if isCode i then regions isCode (i + 1) none lines
    else
      match delimiter? line, opener with
      | none, _ => regions isCode (i + 1) opener lines
      | some _, some first => (first, i) :: regions isCode (i + 1) none lines
      | some r, none => regions isCode (i + 1) (if holdsDelimiter r then none else some i) lines

/-- The token of a region: its body are the lines between its delimiters. -/
def token (lines : List (List Char)) (region : Nat × Nat) : Token where
  kind := .displayMath
  lines := .span region.1 (region.2 + 1)
  body := .span (region.1 + 1) region.2
  info := ""
  content := Text.joinLines
    (((lines.drop (region.1 + 1)).take (region.2 - (region.1 + 1))).map String.ofList)

/-- The display math outside some code tokens. -/
def tokens (lines : List (List Char)) (code : List Token) : List Token :=
  (regions (fun i => code.any fun t => t.lines.contains i) 0 none lines).map (token lines)

end Polyglot.Math
