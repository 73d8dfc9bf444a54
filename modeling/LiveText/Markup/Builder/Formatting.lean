import LiveText.Markup.Builder.Scope

/-!
# Formatting elements

Elements such as `b` and `i` that were left open by a block's end are opened again in what follows,
and an end tag that crosses blocks cuts its element into pieces.

## Main definitions

- `Builder.reopenFormatting`: opens again what was left open.
- `Builder.openFormatting`: opens a formatting element.
- `Builder.closeFormatting`: an end tag of a formatting element.
-/

namespace LiveText.Markup.Builder

/-! ## The list of formatting elements -/

/-- Whether an entry is a boundary. -/
def isBoundary : FormattingEntry → Bool
  | .boundary => true
  | .element _ _ => false

/-- Whether an entry is that of a node. -/
def isEntryOf (i : Nat) : FormattingEntry → Bool
  | .boundary => false
  | .element j _ => i == j

/-- The tag under which a node is listed. -/
def tagOfEntry? (b : Builder) (i : Nat) : Option Tag :=
  b.formatting.findSome? fun
    | .boundary => none
    | .element j tag => if i = j then some tag else none

/-- Takes a node off the list. -/
def unlist (b : Builder) (i : Nat) : Builder :=
  { b with formatting := b.formatting.filter (!isEntryOf i ·) }

/-- The entries since the last boundary, latest first. -/
def recentFormatting (b : Builder) : List FormattingEntry :=
  b.formatting.takeWhile (!isBoundary ·)

/-- Starts a stretch that formatting from outside does not reach. -/
def pushBoundary (b : Builder) : Builder :=
  { b with formatting := .boundary :: b.formatting }

/-- Forgets the entries since the last boundary, and the boundary. -/
def clearToBoundary (b : Builder) : Builder :=
  { b with formatting := (b.formatting.dropWhile (!isBoundary ·)).drop 1 }

/-- Whether two tags make the same element: the order of attributes does not count. -/
def makesSame (a c : Tag) : Bool :=
  a.name == c.name && a.attributes.length == c.attributes.length &&
    a.attributes.all fun (name, value) => c.attributes.lookup name == some value

/-! ## Opening -/

/-- Whether an entry needs no opening again. -/
def isSettled (b : Builder) : FormattingEntry → Bool
  | .boundary => true
  | .element i _ => b.stack.contains i

/-- Opens the element of an entry again, with the entries already opened, latest first. -/
def reopen : Builder × List FormattingEntry → FormattingEntry → Builder × List FormattingEntry
  | (b, done), .element _ tag =>
    let (i, b) := b.insertElement ⟨.html, tag.name⟩ tag.attributes
    (b, .element i tag :: done)
  | state, .boundary => state

/-- Opens again the formatting elements that were closed by accident. -/
def reopenFormatting (b : Builder) : Builder :=
  let closed := b.formatting.takeWhile (!b.isSettled ·)
  let rest := b.formatting.drop closed.length
  let (b, reopened) := closed.reverse.foldl reopen (b, [])
  { b with formatting := reopened ++ rest }

/-- Takes the earliest of three equal entries off a list. -/
def withoutFourth (tag : Tag) (entries : List FormattingEntry) : Option Nat :=
  let equal := entries.filterMap fun
    | .boundary => none
    | .element i t => if makesSame tag t then some i else none
  if 3 ≤ equal.length then equal.getLast? else none

/-- Opens a formatting element. Of equal ones no more than three are remembered. -/
def openFormatting (b : Builder) (tag : Tag) : Builder :=
  let b := match withoutFourth tag b.recentFormatting with
    | some i => b.unlist i
    | none => b
  let (i, b) := b.insertElement ⟨.html, tag.name⟩ tag.attributes
  { b with formatting := .element i tag :: b.formatting }

/-! ## Closing -/

/-- An end tag without a rule of its own: it closes the element of its name unless a special element
stands between. -/
def closeNamed (b : Builder) (name : String) : Builder :=
  match b.stack.find? fun i => b.isHtmlIn [name] i || b.isHtmlIn specialNames i with
  | some i =>
    if b.isHtmlIn [name] i then
      let b := b.closeImpliedBut name
      { b with stack := (b.stack.dropWhile (· ≠ i)).drop 1 }
    else b
  | none => b

/-- Where the piece cut off last is listed. -/
inductive Bookmark where
  /-- In place of the element that is cut. -/
  | inPlace
  /-- After the entry of a node. -/
  | after (node : Nat)

/-- The state while the elements between a block and a formatting element around it are cut. -/
structure Cut where
  builder : Builder
  /-- The outermost node that has been cut off. -/
  last : Nat
  bookmark : Bookmark
  count : Nat

/-- Cuts one element between the block and the formatting element. Elements that are not listed are
closed; so are those beyond the third, which are forgotten as well. -/
def cutOne (block : Nat) (cut : Cut) (node : Nat) : Cut :=
  let b := cut.builder
  let count := cut.count + 1
  let closed (b : Builder) : Cut :=
    { cut with builder := { b with stack := b.stack.filter (· ≠ node) }, count }
  match b.tagOfEntry? node with
  | none => closed b
  | some tag =>
    if 3 < count then closed (b.unlist node)
    else
      let (copy, b) := b.createElement ⟨.html, tag.name⟩ tag.attributes
      let b := { b with
        stack := b.stack.map fun i => if i = node then copy else i
        formatting := b.formatting.map fun e => if isEntryOf node e then .element copy tag else e }
      let b := (b.removeFromParent cut.last).attach (.lastIn copy) cut.last
      { builder := b
        last := copy
        bookmark := if cut.last = block then .after copy else cut.bookmark
        count }

/-- Lists a piece: in place of the element that was cut, or after another entry. -/
def listPiece (b : Builder) (bookmark : Bookmark) (element piece : Nat) (tag : Tag) : Builder :=
  match bookmark with
  | .inPlace =>
    { b with
      formatting := b.formatting.map fun e =>
        if isEntryOf element e then .element piece tag else e }
  | .after node =>
    let listed := b.formatting.flatMap fun e =>
      if isEntryOf node e then [.element piece tag, e] else [e]
    { b with formatting := listed.filter (!isEntryOf element ·) }

/-- Gives the children of a node to another. -/
def giveChildren (b : Builder) (giver taker : Nat) : Builder :=
  (b.childrenOf giver).foldl
    (fun b i => (b.removeFromParent i).attach (.lastIn taker) i) b

/-- Cuts a formatting element around a block: the block comes out of it, and a copy goes into the
block around its content. -/
def cutAround (b : Builder) (element : Nat) (tag : Tag) (block : Nat) : Builder :=
  let inner := b.stack.takeWhile (· ≠ element)
  let ancestor := ((b.stack.dropWhile (· ≠ element)).drop 1).headD 0
  let between := (inner.dropWhile (· ≠ block)).drop 1
  let whole : Cut := { builder := b, last := block, bookmark := .inPlace, count := 0 }
  let cut := between.foldl (cutOne block) whole
  let b := cut.builder.removeFromParent cut.last
  let b := b.attach (b.placeIn ancestor) cut.last
  let (piece, b) := b.createElement ⟨.html, tag.name⟩ tag.attributes
  let b := (b.giveChildren block piece).attach (.lastIn block) piece
  let b := b.listPiece cut.bookmark element piece tag
  { b with stack := insertBefore block piece (b.stack.filter (· ≠ element)) }

/-- One round of an end tag of a formatting element; the answer tells whether there is another. -/
def closeFormattingOnce (b : Builder) (name : String) : Bool × Builder :=
  let found := b.recentFormatting.findSome? fun
    | .boundary => none
    | .element i tag => if tag.name = name then some (i, tag) else none
  match found with
  | none => (false, b.closeNamed name)
  | some (i, tag) =>
    if !b.stack.contains i then (false, b.unlist i)
    else if !b.inScope Label.boundsScope (· == i) then (false, b)
    else
      match ((b.stack.takeWhile (· ≠ i)).filter (b.isHtmlIn specialNames)).getLast? with
      | none =>
        let b := b.unlist i
        (false, { b with stack := (b.stack.dropWhile (· ≠ i)).drop 1 })
      | some block => (true, b.cutAround i tag block)

/-- Rounds of an end tag of a formatting element. -/
def closeFormattingRounds : Nat → Builder → String → Builder
  | 0, b, _ => b
  | rounds + 1, b, name =>
    match b.closeFormattingOnce name with
    | (true, b) => closeFormattingRounds rounds b name
    | (false, b) => b

/-- An end tag of a formatting element, in eight rounds at most. An innermost element of that name
that is not listed is just closed. -/
def closeFormatting (b : Builder) (name : String) : Builder :=
  if b.currentIn [name] && (b.tagOfEntry? b.current).isNone then b.pop
  else closeFormattingRounds 8 b name

/-- A link inside a link closes the one around it. -/
def closeOuterLink (b : Builder) : Builder :=
  let found := b.recentFormatting.findSome? fun
    | .boundary => none
    | .element i _ => if b.isHtmlIn ["a"] i then some i else none
  match found with
  | some i =>
    let b := (b.closeFormatting "a").unlist i
    { b with stack := b.stack.filter (· ≠ i) }
  | none => b

end LiveText.Markup.Builder
