import Polyglot.Markdown.Blocks
import Polyglot.Token.Math

/-! The tokens of a text: its code blocks and, if wanted, its display math, by first line. -/

namespace Polyglot

/-- Line and paragraph separators, which end no line. -/
def isSeparator (c : Char) : Bool := c == '\u2028' || c == '\u2029'

/-- The text without line and paragraph separators. -/
def dropSeparators (cs : List Char) : List Char := cs.filter fun c => !isSeparator c

namespace Token

/-- The token of a code block. Its body starts after the opening fence, or at once if there is
none, and has as many lines as the literal. -/
def ofCodeBlock (b : Markdown.CodeBlock) : Token :=
  let start := b.first - 1
  let first := if b.fenced then start + 1 else start
  let body := LineRange.span first (first + Text.literalLineCount b.literal)
  { kind := if b.fenced then .fencedCode else .indentedCode
    lines := .span start (max b.last body.stop)
    body
    info := b.info
    content := String.ofList b.literal }

/-- Whether a token starts no later than another. -/
def startsBy (a b : Token) : Bool := a.lines.first ≤ b.lines.first

end Token

/-- Adds the display math of a text to its code tokens. -/
def withMath (cs : List Char) (code : List Token) : List Token :=
  (code ++ Math.tokens ((Text.cut cs).map Text.Line.text) code).mergeSort Token.startsBy

/-- The tokens of a text whose code blocks are known. -/
def tokensOf (displayMath : Bool) (cs : List Char) (blocks : List Markdown.CodeBlock) : List Token :=
  let code := blocks.map Token.ofCodeBlock
  if displayMath then withMath cs code else code

/-- The tokens of a text. -/
def tokenize (displayMath : Bool) (text : String) : List Token :=
  let cs := dropSeparators text.toList
  tokensOf displayMath cs (Markdown.codeBlocks cs)

end Polyglot
