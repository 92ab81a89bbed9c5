import Polyglot.Document
import Polyglot.Token.Tokenize

/-! Parsing documents with a cache of one slot. The slot is keyed by URI and version alone, so
whoever changes a text has to count its version up. -/

namespace Polyglot

/-- What the slot is keyed by. -/
structure CacheKey where
  uri : String
  version : Int32
deriving DecidableEq

/-- The key of a document; one without a version has none. -/
def Document.cacheKey? (d : Document) : Option CacheKey := d.version.map fun v => ⟨d.uri, v⟩

/-- The tokens of one pass over a text. Passes are numbered, so that tokens used twice can be told
from equal ones. -/
structure Parsed where
  pass : Nat
  tokens : List Token

/-- The slot: a key and what was parsed under it. -/
structure CacheSlot where
  key : CacheKey
  parsed : Parsed

/-- Parses documents; `slot` holds the last versioned one, `passes` counts the texts tokenized. -/
structure ParseEngine where
  displayMath : Bool := true
  slot : Option CacheSlot := none
  passes : Nat := 0

namespace ParseEngine

/-- The key of the slot. -/
def key? (e : ParseEngine) : Option CacheKey := e.slot.map CacheSlot.key

/-- What the slot holds under a key. -/
def cached? (e : ParseEngine) (key : CacheKey) : Option Parsed :=
  e.slot.bind fun s => if s.key = key then some s.parsed else none

/-- Empties the slot. -/
def invalidate (e : ParseEngine) : ParseEngine := { e with slot := none }

/-- Tokenizes a document. -/
def scan (e : ParseEngine) (d : Document) : Parsed := ⟨e.passes, tokenize e.displayMath d.content⟩

/-- The tokens of a document. A versioned one is looked up in the slot and, if it is not there,
replaces what is; one without a version neither reads nor changes the slot. -/
def parse (e : ParseEngine) (d : Document) : Parsed × ParseEngine :=
  match d.cacheKey? with
  | none => (e.scan d, { e with passes := e.passes + 1 })
  | some key =>
    match e.cached? key with
    | some parsed => (parsed, e)
    | none => (e.scan d, { e with slot := some ⟨key, e.scan d⟩, passes := e.passes + 1 })

end ParseEngine

end Polyglot
