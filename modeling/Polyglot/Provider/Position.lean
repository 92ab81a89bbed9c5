/-! Places in a document and ranges between them. -/

namespace Polyglot

/-- A line and a character on it, both counted from zero. -/
structure Position where
  line : UInt32
  character : UInt32
deriving DecidableEq, Repr

namespace Position

/-- Positions are ordered by line, then by character. -/
def cmp (p q : Position) : Ordering := (compare p.line q.line).then (compare p.character q.character)

end Position

/-- The places from `start` up to, but not with, `stop`. -/
structure Range where
  start : Position
  stop : Position
deriving DecidableEq, Repr

namespace Range

/-- Whether a position lies in the range. -/
def contains (r : Range) (p : Position) : Bool := p.cmp r.start != .lt && p.cmp r.stop == .lt

end Range

end Polyglot
