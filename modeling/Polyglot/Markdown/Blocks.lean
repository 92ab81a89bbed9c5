import Polyglot.Markdown.CodeBlock
import Polyglot.Markdown.HtmlBlock
import Polyglot.Markdown.ListMarker

/-! The block structure of a document, read line by line, as far as it decides which lines are code.
A state holds the containers that are open, outermost first, and the leaf inside the innermost one;
each line first finds the containers that it goes on with, then opens new ones. -/

namespace Polyglot.Markdown

open Text (Line)

/-- A block that holds other blocks. -/
inductive Container where
  | quote
  | list (kind : ListKind)
  /-- An item whose content is indented by `width` columns; `inhabited` once it holds a block. -/
  | item (width : Nat) (inhabited : Bool)
deriving DecidableEq, Repr

/-- The open block that takes text, if any. -/
inductive Leaf where
  | nothing
  | paragraph (text : Array (List Char))
  | code (code : OpenCode)
  | html (block : HtmlBlock)
deriving DecidableEq, Repr

namespace Leaf

def isParagraph : Leaf → Bool
  | .paragraph _ => true
  | _ => false

end Leaf

namespace Container

def isList : Container → Bool
  | .list _ => true
  | _ => false

def isItem : Container → Bool
  | .item _ _ => true
  | _ => false

/-- Records that a block stands in the container. -/
def inhabit : Container → Container
  | .item width _ => .item width true
  | c => c

/-- Moves past a quote marker and the blank after it. -/
def quoteMarker? (cur : Cursor) : Option Cursor :=
  if cur.indent ≤ 3 && cur.skipBlanks.rest.head? == some '>' then
    some (cur.skipBlanks.dropMarker 1).dropBlank
  else none

/-- Moves to the content of a container that a line goes on with. An item goes on through a blank
line only if it holds a block already. -/
def resume? (cur : Cursor) (inhabitedByText : Bool) : Container → Option Cursor
  | .quote => quoteMarker? cur
  | .list _ => some cur
  | .item width inhabited =>
    if width ≤ cur.indent then some (cur.dropColumns width)
    else if cur.isBlank && (inhabited || inhabitedByText) then some cur.skipBlanks
    else none

end Container

/-- How far a line goes on with the open containers. -/
structure Resumed where
  kept : List Container
  lost : List Container
  cursor : Cursor

/-- Goes on with the open containers from the outside in. A paragraph, `text`, inhabits the
innermost container. -/
def resumeAll (text : Bool) (cur : Cursor) : List Container → Resumed
  | [] => ⟨[], [], cur⟩
  | c :: cs =>
    match c.resume? cur (text && cs.isEmpty) with
    | some cur' =>
      let r := resumeAll text cur' cs
      ⟨c :: r.kept, r.lost, r.cursor⟩
    | none => ⟨[], c :: cs, cur⟩

/-- What a line starts after the markers of its containers. -/
inductive Start where
  | quote (content : Cursor)
  | heading
  | fence (fence : Fence) (info : List Char)
  | html (block : HtmlBlock)
  | underline
  | rule
  | item (kind : ListKind) (width : Nat) (content : Cursor)
  | indented (content : Cursor)

/-- Where a line stands when it may start a block: inside an open paragraph, directly inside an open
list, or while a paragraph is open that the line may continue lazily. -/
structure Context where
  paragraph : Bool := false
  list : Option ListKind := none
  lazy : Bool := false

namespace Start

/-- A heading marker: one to six number signs before a blank or the end of the line. -/
def isHeading (terminated : Bool) (cs : List Char) : Bool :=
  let n := Fence.run '#' cs
  1 ≤ n && n ≤ 6 && (match cs.drop n with
    | [] => terminated
    | c :: _ => isIndent c)

/-- The line under the text of a heading: equals signs or hyphens only. -/
def isUnderline (cs : List Char) : Bool :=
  match cs with
  | [] => false
  | c :: _ => (c == '=' || c == '-') && (cs.dropWhile (· == c)).all isIndent

/-- A thematic break: at least three of one mark, with blanks anywhere. -/
def isRule (cs : List Char) : Bool :=
  match cs with
  | [] => false
  | c :: _ =>
    (c == '*' || c == '_' || c == '-') && cs.all (fun d => d == c || isIndent d) && 3 ≤ cs.count c

/-- Reads an item at a cursor. Its content starts after one to four columns of blanks; otherwise,
or if it is empty, one column after the marker. -/
def item? (interrupting : Bool) (ending : Option Text.Terminator) (cur : Cursor) : Option Start :=
  (ListMarker.read? interrupting ending cur.skipBlanks.rest).map fun marker =>
    let after := cur.skipBlanks.dropMarker marker.length
    let gap := after.indent
    if 1 ≤ gap && gap < 5 && !after.isBlank then
      .item marker.kind (cur.indent + marker.length + gap) (after.dropColumns gap)
    else
      .item marker.kind (cur.indent + marker.length + 1) after.dropBlank

/-- How many block starts on one line may be list items. -/
def maxDepth : Nat := 100

/-- The block that starts at a cursor, the `depth`-th to be looked for on its line. -/
def read? (ctx : Context) (depth : Nat) (ending : Option Text.Terminator) (cur : Cursor) :
    Option Start :=
  let cs := cur.skipBlanks.rest
  if 4 ≤ cur.indent then
    if ctx.lazy || cur.isBlank then none else some (.indented (cur.dropColumns 4))
  else
    match Container.quoteMarker? cur with
    | some content => some (.quote content)
    | none =>
      if isHeading ending.isSome cs then some .heading
      else
        match Fence.opening? cur with
        | some (mark, info) => some (.fence mark info)
        | none =>
          match HtmlBlock.start? ctx.paragraph ending.isSome cs with
          | some block => some (.html block)
          | none =>
            if ctx.paragraph && isUnderline cs then some .underline
            else if isRule cs then some .rule
            else if depth < maxDepth then item? ctx.paragraph ending cur
            else none

end Start

/-- What a line holds once no further container starts on it. -/
inductive Content where
  | text (cur : Cursor)
  | heading
  | rule
  | underline (cur : Cursor)
  | fence (fence : Fence) (info : List Char)
  | html (block : HtmlBlock) (cur : Cursor)
  | indented (cur : Cursor)

namespace Content

/-- Whether a block starts here; text only goes on with a paragraph or starts one. -/
def isStart : Content → Bool
  | .text _ => false
  | _ => true

end Content

/-- The containers that a line opens, and what it holds inside them. -/
structure Opened where
  containers : List Container
  content : Content

/-- Opens containers as long as their markers follow each other. Every marker takes a character, so
the length of the line bounds the fuel. -/
def openWith : Nat → Context → Nat → Option Text.Terminator → Cursor → Opened
  | 0, _, _, _, cur => ⟨[], .text cur⟩
  | fuel + 1, ctx, depth, ending, cur =>
    match Start.read? ctx depth ending cur with
    | none => ⟨[], .text cur⟩
    | some .heading => ⟨[], .heading⟩
    | some .rule => ⟨[], .rule⟩
    | some .underline => ⟨[], .underline cur⟩
    | some (.fence fence info) => ⟨[], .fence fence info⟩
    | some (.html block) => ⟨[], .html block cur⟩
    | some (.indented content) => ⟨[], .indented content⟩
    | some (.quote content) =>
      let inner := openWith fuel {} (depth + 1) ending content
      ⟨.quote :: inner.containers, inner.content⟩
    | some (.item kind width content) =>
      let inner := openWith fuel {} (depth + 1) ending content
      let item := .item width false :: inner.containers
      ⟨if ctx.list = some kind then item else .list kind :: item, inner.content⟩

/-- Opens the containers that start at a cursor. -/
def openAll (ctx : Context) (ending : Option Text.Terminator) (cur : Cursor) : Opened :=
  openWith (cur.rest.length + 1) ctx 1 ending cur

/-- The open blocks after some lines, and the code blocks that were closed. -/
structure State where
  /-- Lines read so far. -/
  count : Nat := 0
  /-- The last line read had no characters. -/
  lastEmpty : Bool := false
  spine : List Container := []
  leaf : Leaf := .nothing
  blocks : Array CodeBlock := #[]
deriving Repr

namespace State

/-- Applies a function to the last element of a list. -/
def mapLast (f : Container → Container) : List Container → List Container
  | [] => []
  | [c] => [f c]
  | c :: cs => c :: mapLast f cs

/-- Where a code block ends that the line after `last` closes. If a list around it stays open for
longer and the block ends on an empty line, it is cut down to its first line. -/
def lastLine (first last : Nat) (emptyLast inList : Bool) : Nat :=
  if inList && emptyLast then first else last

/-- The code blocks after the leaf is closed; `enclosing` are the containers around it that are
closed later. -/
def blocksAfter (s : State) (enclosing : List Container) : Array CodeBlock :=
  match s.leaf with
  | .code code =>
    let inList := enclosing.any Container.isList
    s.blocks.push (code.close (lastLine code.first s.count s.lastEmpty inList))
  | _ => s.blocks

/-- Whether a paragraph leaves a block behind: definitions alone do not. -/
def paragraphRemains (text : Array (List Char)) : Bool :=
  Reference.hasContent (Reference.afterDefinitions text.toList.flatten)

/-- Whether closing the leaf leaves a block behind. -/
def leafRemains : Leaf → Bool
  | .paragraph text => paragraphRemains text
  | .nothing => false
  | _ => true

/-- The text of a paragraph's line: its remainder and terminator. -/
def lineText (cur : Cursor) (line : Line) : List Char :=
  cur.remainder ++ (line.ending.map Text.Terminator.chars).getD []

/-- Finds what a line holds, given the containers it goes on with and whether it goes on with the
leaf too, which is then a paragraph. -/
def place (s : State) (line : Line) (r : Resumed) (inParagraph : Bool) : State :=
  let base := r.kept
  let ctx : Context := {
    paragraph := inParagraph
    list := if inParagraph then none else
      match base.getLast? with
      | some (.list kind) => some kind
      | _ => none
    lazy := s.leaf.isParagraph }
  let opened := openAll ctx line.ending r.cursor
  let next := { s with count := s.count + 1, lastEmpty := line.text.isEmpty }
  match opened.containers, opened.content, s.leaf with
  | [], .text cur, .paragraph text =>
    if inParagraph then
      { next with leaf := .paragraph (text.push (lineText cur.skipBlanks line)) }
    else if !cur.isBlank then
      { next with leaf := .paragraph (text.push (lineText cur line)) }
    else
      { next with
        spine := if r.lost.isEmpty && leafRemains s.leaf then mapLast Container.inhabit base else base
        leaf := .nothing }
  | [], .underline cur, .paragraph text =>
    let left := Reference.afterDefinitions text.toList.flatten
    if Reference.hasContent left then
      { next with spine := mapLast Container.inhabit base, leaf := .nothing }
    else
      { next with leaf := .paragraph #[left, lineText cur.skipBlanks line] }
  | containers, content, leaf =>
    -- a list that the line leaves by starting a block is closed before the blocks inside it
    let joins := containers.head?.any Container.isItem
    let leaves := ctx.list.isSome && !joins
    let starts := !containers.isEmpty || content.isStart
    let outer := if leaves && starts then base.dropLast else base
    let blocks := s.blocksAfter (outer ++ r.lost)
    let blank := match content with
      | .text cur => cur.isBlank
      | _ => false
    let parent := if leaves && !(blank && !starts) then base.dropLast else base
    let gains := starts || (r.lost.isEmpty && leafRemains leaf)
    let parent := if gains then mapLast Container.inhabit parent else parent
    let spine := parent ++ containers.dropLast.map Container.inhabit ++
      containers.getLast?.toList.map fun c => if content.isStart then c.inhabit else c
    let leaf := match content with
      | .text cur => if cur.isBlank then .nothing else .paragraph #[lineText cur.skipBlanks line]
      | .fence fence info => .code { fence := some fence, first := s.count + 1, info }
      | .indented cur =>
        .code (OpenCode.push { fence := none, first := s.count + 1 } cur.remainder line)
      | .html block cur => if block.endsWith cur.skipBlanks.rest then .nothing else .html block
      | .heading | .rule | .underline _ => .nothing
    { next with spine, leaf, blocks }

/-- The byte order mark, which is skipped at the start of a document. -/
def byteOrderMark : Char := '\ufeff'

/-- Reads one line. -/
def feed (s : State) (line : Line) : State :=
  let text := if s.count = 0 && line.text.head? == some byteOrderMark then line.text.tail else line.text
  let r := resumeAll s.leaf.isParagraph { rest := text } s.spine
  let next := { s with count := s.count + 1, lastEmpty := line.text.isEmpty }
  if r.lost.isEmpty then
    match s.leaf with
    | .nothing => s.place line r false
    | .paragraph _ => s.place line r (!r.cursor.isBlank)
    | .html block =>
      if !block.spansBlanks && r.cursor.isBlank then s.place line r false
      else { next with
        leaf := if block.endsWith r.cursor.skipBlanks.rest then .nothing else .html block }
    | .code code =>
      match code.fence with
      | some fence =>
        if fence.closes r.cursor then
          { next with leaf := .nothing, blocks := s.blocks.push (code.close (s.count + 1)) }
        else
          { next with leaf := .code (code.push (r.cursor.dropBlanks fence.indent).remainder line) }
      | none =>
        if 4 ≤ r.cursor.indent then
          { next with leaf := .code (code.push (r.cursor.dropColumns 4).remainder line) }
        else if r.cursor.isBlank then
          { next with leaf := .code (code.push r.cursor.skipBlanks.remainder line) }
        else s.place line r false
  else s.place line r false

/-- Closes what is open at the end of the document. -/
def finish (s : State) : Array CodeBlock := s.blocksAfter s.spine

end State

/-- The code blocks of a document, in the order in which they start. -/
def codeBlocks (cs : List Char) : List CodeBlock :=
  (((Text.writtenLines cs).foldl State.feed {}).finish).toList

end Polyglot.Markdown
