import LiveText.Markup.Token
import LiveText.Markup.Tree

/-!
# Building trees from tokens

The state of the builder: the nodes made so far, the stack of open elements, the formatting
elements that are opened again when they were closed by accident, and the mode that decides what a
token does. Nodes are kept in an arena, since a node may be moved after it was made.

## Main definitions

- `Builder`, `Builder.start`: the state, and the state for content inside a `body`.
- `Builder.insertElement`, `Builder.insertText`, `Builder.insertComment`.
- `Builder.forest`: the trees built.
-/

namespace LiveText.Markup

/-- The vocabulary that an element belongs to. -/
inductive Vocabulary where
  | html
  | svg
  | math
deriving DecidableEq, Repr

/-- An element's vocabulary and name. -/
structure Label where
  vocabulary : Vocabulary
  name : String
deriving DecidableEq, Repr

/-- Whether a label is that of an HTML element with one of some names. -/
def Label.isHtmlIn (names : List String) (l : Label) : Bool :=
  l.vocabulary == .html && names.contains l.name

/-- What a node of the builder is. -/
inductive PartData where
  /-- An element. The content of a template goes into a node of its own. -/
  | element (label : Label) (attributes : List (String × String)) (content : Option Nat)
  | text (text : String)
  | comment
  /-- The content of a template. -/
  | content
deriving DecidableEq, Repr

/-- A node of the builder. -/
structure Part where
  data : PartData
  parent : Option Nat := none
  children : List Nat := []
deriving DecidableEq, Repr

/-- An entry among the formatting elements: an element with the tag that made it, or a boundary
that formatting does not cross. -/
inductive FormattingEntry where
  | boundary
  | element (node : Nat) (tag : Tag)
deriving DecidableEq, Repr

/-- What decides the meaning of a token. -/
inductive Mode where
  | body
  | text
  | table
  | tableText
  | caption
  | columnGroup
  | tableBody
  | row
  | cell
  | select
  | selectInTable
  | template
deriving DecidableEq, Repr

/-- The state of the builder. -/
structure Builder where
  parts : Array Part
  /-- The open elements, innermost first. -/
  stack : List Nat
  /-- The formatting elements, latest first. -/
  formatting : List FormattingEntry
  mode : Mode
  /-- The mode to go back to after a stretch of text. -/
  modeAfterText : Mode
  /-- The modes of the open templates, innermost first. -/
  templateModes : List Mode
  /-- Whether what does not belong into a table is put in front of it. -/
  fostering : Bool
  /-- The form that is open. -/
  form : Option Nat
  /-- Whether a line feed at the start of the next text is left out. -/
  dropsNewline : Bool
  /-- The text met inside a table that waits for its place. -/
  tableText : List (Bool × List Char)
  /-- How the next text is read. -/
  lexing : Lexing

namespace Builder

/-- The state at the start of content of a `body`: one element around everything is open. -/
def start : Builder where
  parts := #[{ data := .element ⟨.html, "html"⟩ [] none }]
  stack := [0]
  formatting := []
  mode := .body
  modeAfterText := .body
  templateModes := []
  fostering := false
  form := none
  dropsNewline := false
  tableText := []
  lexing := .data

/-! ## Reading -/

/-- What a node is. -/
def dataOf (b : Builder) (i : Nat) : PartData :=
  match b.parts[i]? with
  | some p => p.data
  | none => .comment

/-- The children of a node. -/
def childrenOf (b : Builder) (i : Nat) : List Nat :=
  match b.parts[i]? with
  | some p => p.children
  | none => []

/-- The parent of a node. -/
def parentOf (b : Builder) (i : Nat) : Option Nat :=
  b.parts[i]?.bind Part.parent

/-- The label of an element. -/
def labelOf (b : Builder) (i : Nat) : Label :=
  match b.dataOf i with
  | .element label _ _ => label
  | _ => ⟨.html, ""⟩

/-- The attributes of an element. -/
def attributesOf (b : Builder) (i : Nat) : List (String × String) :=
  match b.dataOf i with
  | .element _ attributes _ => attributes
  | _ => []

/-- Whether a node is an HTML element with one of some names. -/
def isHtmlIn (b : Builder) (names : List String) (i : Nat) : Bool :=
  (b.labelOf i).isHtmlIn names

/-- The innermost open element. -/
def current (b : Builder) : Nat :=
  b.stack.headD 0

/-- Whether the innermost open element is an HTML element with one of some names. -/
def currentIn (b : Builder) (names : List String) : Bool :=
  b.isHtmlIn names b.current

/-- Whether an HTML element with a name is open. -/
def hasOpen (b : Builder) (name : String) : Bool :=
  b.stack.any (b.isHtmlIn [name])

/-! ## Links -/

/-- Changes a node. -/
def update (b : Builder) (i : Nat) (f : Part → Part) : Builder :=
  { b with parts := b.parts.modify i f }

/-- A new node without a parent. -/
def create (b : Builder) (data : PartData) : Nat × Builder :=
  (b.parts.size, { b with parts := b.parts.push { data } })

/-- A new element without a parent; a template gets a node for its content. -/
def createElement (b : Builder) (label : Label) (attributes : List (String × String)) :
    Nat × Builder :=
  if label = ⟨.html, "template"⟩ then
    let (content, b) := b.create .content
    b.create (.element label attributes (some content))
  else b.create (.element label attributes none)

/-- Takes a node from its parent. -/
def removeFromParent (b : Builder) (i : Nat) : Builder :=
  match b.parentOf i with
  | some p =>
    (b.update i fun n => { n with parent := none }).update p fun n =>
      { n with children := n.children.filter (· ≠ i) }
  | none => b

/-- Where a node is put. -/
inductive Place where
  | lastIn (parent : Nat)
  | before (sibling : Nat)

/-- An element of a list goes in front of another. -/
def insertBefore (sibling new : Nat) (nodes : List Nat) : List Nat :=
  nodes.takeWhile (· ≠ sibling) ++ new :: nodes.dropWhile (· ≠ sibling)

/-- Puts a node without a parent somewhere. -/
def attach (b : Builder) (place : Place) (i : Nat) : Builder :=
  match place with
  | .lastIn p =>
    (b.update i fun n => { n with parent := some p }).update p fun n =>
      { n with children := n.children ++ [i] }
  | .before sibling =>
    match b.parentOf sibling with
    | some p =>
      (b.update i fun n => { n with parent := some p }).update p fun n =>
        { n with children := insertBefore sibling i n.children }
    | none => b

/-- The node after which something put somewhere comes. -/
def nodeBefore? (b : Builder) : Place → Option Nat
  | .lastIn p => (b.childrenOf p).getLast?
  | .before sibling =>
    match b.parentOf sibling with
    | some p => ((b.childrenOf p).takeWhile (· ≠ sibling)).getLast?
    | none => none

/-- Puts text somewhere. It is joined to a text before it. -/
def attachText (b : Builder) (place : Place) (chars : List Char) : Builder :=
  let text := String.ofList chars
  let makeNew : Builder :=
    let (i, b) := b.create (.text text)
    b.attach place i
  match b.nodeBefore? place with
  | some i =>
    match b.dataOf i with
    | .text old => b.update i fun n => { n with data := .text (old ++ text) }
    | _ => makeNew
  | none => makeNew

/-! ## Insertion -/

/-- The elements of a table into which other things must not be put. -/
def tableParts : List String :=
  ["table", "tbody", "tfoot", "thead", "tr"]

/-- The end of an element, or of its content if it is a template. -/
def lastInside (b : Builder) (i : Nat) : Place :=
  match b.dataOf i with
  | .element _ _ (some content) => .lastIn content
  | _ => .lastIn i

/-- Where things go that do not belong into the innermost table: in front of it, or at the end of
the element around it when the table has no parent. -/
def fosterPlace (b : Builder) : List Nat → Place
  | [] => .lastIn 0
  | i :: outer =>
    if b.isHtmlIn ["template"] i then b.lastInside i
    else if b.isHtmlIn ["table"] i then
      match b.parentOf i with
      | some _ => .before i
      | none => .lastIn (outer.headD 0)
    else b.fosterPlace outer

/-- The place for something new that would go into an element. -/
def placeIn (b : Builder) (target : Nat) : Place :=
  if b.fostering && b.isHtmlIn tableParts target then b.fosterPlace b.stack
  else b.lastInside target

/-- Puts a text into the innermost open element. -/
def insertText (b : Builder) (chars : List Char) : Builder :=
  b.attachText (b.placeIn b.current) chars

/-- Puts a comment into the innermost open element. -/
def insertComment (b : Builder) : Builder :=
  let (i, b) := b.create .comment
  b.attach (b.placeIn b.current) i

/-- Puts a new element into the innermost open element without opening it. -/
def insertClosed (b : Builder) (label : Label) (attributes : List (String × String)) :
    Nat × Builder :=
  let place := b.placeIn b.current
  let (i, b) := b.createElement label attributes
  (i, b.attach place i)

/-- Puts a new element into the innermost open element and opens it. -/
def insertElement (b : Builder) (label : Label) (attributes : List (String × String)) :
    Nat × Builder :=
  let (i, b) := b.insertClosed label attributes
  (i, { b with stack := i :: b.stack })

/-- Opens the HTML element of a tag. -/
def openTag (b : Builder) (tag : Tag) : Builder :=
  (b.insertElement ⟨.html, tag.name⟩ tag.attributes).2

/-- Puts the HTML element of a tag where it belongs; it has no content. -/
def emptyTag (b : Builder) (tag : Tag) : Builder :=
  (b.insertClosed ⟨.html, tag.name⟩ tag.attributes).2

/-- Opens an HTML element that no tag stands for. -/
def openImplied (b : Builder) (name : String) : Builder :=
  (b.insertElement ⟨.html, name⟩ []).2

/-- Opens the HTML element of a tag whose text is read in a way of its own. -/
def openText (b : Builder) (tag : Tag) (lexing : Lexing) : Builder :=
  { b.openTag tag with modeAfterText := b.mode, mode := .text, lexing }

/-! ## Result -/

/-- The tree of a node down to a depth. -/
def treeTo (b : Builder) : Nat → Nat → Tree
  | 0, _ => .other
  | depth + 1, i =>
    match b.dataOf i with
    | .element label attributes _ =>
      .element label.name attributes ((b.childrenOf i).map (b.treeTo depth))
    | .text s => .text s
    | _ => .other

/-- The trees inside the element around everything. No way down is longer than the number of
nodes. -/
def forest (b : Builder) : List Tree :=
  (b.childrenOf 0).map (b.treeTo b.parts.size)

end Builder

end LiveText.Markup
