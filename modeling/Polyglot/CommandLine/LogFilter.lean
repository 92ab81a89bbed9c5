import Polyglot.Text.Blank
import Polyglot.Text.Word

/-! Log filters: directives divided by commas, each a level, a target, a span with fields, or a
target or span with a level. -/

namespace Polyglot.LogFilter

/-- The names of the levels. -/
def levels : List String := ["error", "warn", "info", "debug", "trace", "off"]

/-- A number from zero to five, maybe with a plus sign and zeros before it. -/
def isLevelNumber (cs : List Char) : Bool :=
  let digits := match cs with
    | '+' :: r => r
    | cs => cs
  !digits.isEmpty && digits.all Char.isDigit &&
    (digits.foldl (fun n c => 10 * n + (c.toNat - '0'.toNat)) 0) ≤ 5

/-- A level, by name in any mix of cases or by number; nothing stands for one too. -/
def isLevel (cs : List Char) : Bool :=
  cs.isEmpty || isLevelNumber cs || levels.contains (String.ofList (cs.map Char.toLower))

/-- How far a directive has been read; `start` is where the part being read began. -/
inductive State where
  | start
  | levelOrTarget
  | span
  | field (start : Nat)
  | fields
  | target
  | level (start : Nat)

/-- What may start a directive. -/
def isFront (c : Char) : Bool := c == '-' || c == ':' || c == '_' || Text.isAlphanumeric c

/-- Reads a character of a directive at a place. -/
def step (place : Nat) (c : Char) : State → Option State
  | .start => if c == '[' then some .span else if isFront c then some .levelOrTarget else none
  | .levelOrTarget =>
    if c == '=' then some (.level (place + 1)) else if c == '[' then some .span else some .levelOrTarget
  | .span =>
    if c == ']' then some .target else if c == '\x7b' then some (.field (place + 1)) else some .span
  | .field start =>
    if c == '\x7d' then if start = place then none else some .fields
    else some (.field start)
  | .fields => if c == ']' then some .target else none
  | .target => if c == '=' then some (.level (place + 1)) else none
  | .level start => some (.level start)

/-- Reads the characters of a directive from a place on. -/
def run : Nat → State → List Char → Option State
  | _, state, [] => some state
  | place, state, c :: r => (step place c state).bind fun state => run (place + 1) state r

/-- Whether a text is a directive. White space around it is skipped in reading but counts for the
level. -/
def isDirective (cs : List Char) : Bool :=
  match run 0 .start (Text.trim cs) with
  | some .levelOrTarget => true
  | some .target => true
  | some (.level start) => isLevel (cs.drop start)
  | _ => false

/-- Cuts a text at commas. -/
def splitCommas : List Char → List (List Char)
  | [] => [[]]
  | c :: r =>
    if c == ',' then [] :: splitCommas r
    else
      match splitCommas r with
      | [] => [[c]]
      | part :: parts => (c :: part) :: parts

/-- Whether a text is a filter: directives divided by commas, with nothing between some of them. -/
def isValid (s : String) : Bool :=
  (splitCommas s.toList).all fun part => part.isEmpty || isDirective part

end Polyglot.LogFilter
