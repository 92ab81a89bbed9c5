import Polyglot.Markdown.Cursor

/-! HTML blocks: how they start, and what ends them. -/

namespace Polyglot.Markdown

/-- The kinds of HTML block, by what ends them. -/
inductive HtmlBlock where
  /-- A raw text element; any raw text closing tag ends it. -/
  | raw
  /-- A comment. -/
  | comment
  /-- A processing instruction. -/
  | instruction
  /-- A declaration. -/
  | declaration
  /-- A character data section. -/
  | characterData
  /-- A block level tag; a blank line ends it. -/
  | element
  /-- Any other tag alone on its line; a blank line ends it. -/
  | tag
deriving DecidableEq, Repr

namespace HtmlBlock

/-- Elements whose content is raw text. -/
def rawNames : List String := ["script", "pre", "textarea", "style"]

/-- Elements that start a block. -/
def blockNames : List String :=
  ["address", "article", "aside", "base", "basefont", "blockquote", "body", "caption", "center",
   "col", "colgroup", "dd", "details", "dialog", "dir", "div", "dl", "dt", "fieldset", "figcaption",
   "figure", "footer", "form", "frame", "frameset", "h1", "h2", "h3", "h4", "h5", "h6", "head",
   "header", "hr", "html", "iframe", "legend", "li", "link", "main", "menu", "menuitem", "nav",
   "noframes", "ol", "optgroup", "option", "p", "param", "search", "section", "title", "summary",
   "table", "tbody", "td", "tfoot", "th", "thead", "tr", "track", "ul"]

/-- White space inside a tag. -/
def isTagSpace (c : Char) : Bool :=
  c == ' ' || c == '\t' || c == '\n' || c == '\r' || c == '\x0b' || c == '\x0c'

/-- Whether a text starts with another, in any mix of cases. -/
def startsWith (cs : List Char) (s : String) : Bool :=
  (cs.take s.length).map Char.toLower == s.toList.map Char.toLower

/-- Whether a text holds another somewhere, in any mix of cases. -/
def holds (s : String) : List Char → Bool
  | [] => s.isEmpty
  | c :: r => startsWith (c :: r) s || holds s r

/-- The run of letters and digits at the front of a text, in lower case. -/
def word (cs : List Char) : String := String.ofList ((cs.takeWhile Char.isAlphanum).map Char.toLower)

/-- Whether white space comes first. The end of a line is white space; the end of the text is
not. -/
def spaced (terminated : Bool) : List Char → Bool
  | [] => terminated
  | c :: _ => isTagSpace c

/-- Whether a text starts a raw text element. -/
def startsRaw (terminated : Bool) : List Char → Bool
  | '<' :: r =>
    let name := word r
    let after := r.drop name.length
    rawNames.contains name && (spaced terminated after || after.head? == some '>')
  | _ => false

/-- Whether a text starts or ends a block level element. -/
def startsElement (terminated : Bool) : List Char → Bool
  | '<' :: r =>
    let r := if r.head? == some '/' then r.tail else r
    let name := word r
    let after := r.drop name.length
    blockNames.contains name &&
      (spaced terminated after || after.head? == some '>' || after.take 2 == ['/', '>'])
  | _ => false

/-- The characters that go on with the name of a tag. -/
def isTagName (c : Char) : Bool := c.isAlphanum || c == '-'

/-- The characters that start the name of an attribute. -/
def isAttributeStart (c : Char) : Bool := c.isAlpha || c == '_' || c == ':'

/-- The characters that go on with the name of an attribute. -/
def isAttributeName (c : Char) : Bool := c.isAlphanum || c == ':' || c == '.' || c == '_' || c == '-'

/-- The characters of an attribute value without quotes. -/
def isBareValue (c : Char) : Bool :=
  !(isTagSpace c || c == '"' || c == '\x27' || c == '=' || c == '<' || c == '>' || c == '\x60' ||
    c == '\x00')

/-- What follows an attribute value. -/
def afterValue? (cs : List Char) : Option (List Char) :=
  match cs with
  | [] => none
  | q :: r =>
    if q == '"' || q == '\x27' then
      let after := r.dropWhile fun c => c != q && c != '\x00'
      if after.head? == some q then some after.tail else none
    else if isBareValue q then some (r.dropWhile isBareValue)
    else none

/-- What follows an attribute: a name after white space, and maybe a value. -/
def afterAttribute? (cs : List Char) : Option (List Char) :=
  match cs.dropWhile isTagSpace with
  | c :: r =>
    if cs.head?.any isTagSpace && isAttributeStart c then
      let after := r.dropWhile isAttributeName
      match after.dropWhile isTagSpace with
      | '=' :: v => afterValue? (v.dropWhile isTagSpace)
      | _ => some after
    else none
  | [] => none

/-- What follows the attributes of a tag; each takes at least one character of the fuel. -/
def afterAttributes : Nat → List Char → List Char
  | 0, cs => cs
  | n + 1, cs =>
    match afterAttribute? cs with
    | some r => afterAttributes n r
    | none => cs

/-- What follows a complete opening or closing tag. -/
def afterTag? : List Char → Option (List Char)
  | '<' :: '/' :: c :: r =>
    if c.isAlpha then
      match (r.dropWhile isTagName).dropWhile isTagSpace with
      | '>' :: after => some after
      | _ => none
    else none
  | '<' :: c :: r =>
    if c.isAlpha then
      match (afterAttributes r.length (r.dropWhile isTagName)).dropWhile isTagSpace with
      | '/' :: '>' :: after => some after
      | '>' :: after => some after
      | _ => none
    else none
  | _ => none

/-- Whether a text is one complete tag alone on its line. -/
def isLoneTag (terminated : Bool) (cs : List Char) : Bool :=
  terminated && (afterTag? cs).any fun r => r.all fun c => c == ' ' || c == '\t' || c == '\x0c'

/-- Reads the start of an HTML block at the front of a text. A lone tag does not interrupt a
paragraph. -/
def start? (interrupting terminated : Bool) (cs : List Char) : Option HtmlBlock :=
  if startsRaw terminated cs then some .raw
  else if startsWith cs "<!--" then some .comment
  else if startsWith cs "<?" then some .instruction
  else if startsWith cs "<!" && (cs.drop 2).head?.any Char.isAlpha then some .declaration
  else if startsWith cs "<![CDATA[" then some .characterData
  else if startsElement terminated cs then some .element
  else if !interrupting && isLoneTag terminated cs then some .tag
  else none

/-- Whether the block goes on after a blank line. -/
def spansBlanks : HtmlBlock → Bool
  | .element | .tag => false
  | _ => true

/-- The texts of which one ends the block. -/
def closers : HtmlBlock → List String
  | .raw => rawNames.map fun name => "</" ++ name ++ ">"
  | .comment => ["-->"]
  | .instruction => ["?>"]
  | .declaration => [">"]
  | .characterData => ["]]>"]
  | .element | .tag => []

/-- Whether a line of the block is its last. Nothing is found after a null character. -/
def endsWith (b : HtmlBlock) (cs : List Char) : Bool :=
  let seen := cs.takeWhile (· != '\x00')
  b.closers.any fun closer => holds closer seen

end HtmlBlock

end Polyglot.Markdown
