import Polyglot.LineRange

/-! Tokens: the blocks of a document that may hold code. -/

namespace Polyglot

/-- What kind of block a token is. -/
inductive TokenKind where
  | fencedCode
  | indentedCode
  | displayMath
deriving DecidableEq, Repr

/-- A block of a document: all its lines, the lines of its content, its info string and its
content. -/
structure Token where
  kind : TokenKind
  lines : LineRange
  body : LineRange
  info : String
  content : String
deriving DecidableEq, Repr

end Polyglot
