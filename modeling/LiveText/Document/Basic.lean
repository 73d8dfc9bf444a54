import LiveText.Text.Blank
import LiveText.Value.Basic

/-!
# Documents

A document is an arena of nodes: elements, texts and fragments, each with links to its parent and
its children. Nodes are numbered in the order in which they were made and are never taken away; a
node without a parent is detached. The first node is the root, a fragment.

## Main definitions

- `Node`, `Document`, `Document.empty`.
- `Document.createElement`, `createText`, `createFragment`, `setAttribute`, `setText`.
- `Document.detach`, `append`, `moveFirstChild?`, `moveChildren`: the moves.
- `Document.IsChildOf`, `Document.Linked`, `Document.Acyclic`: what the moves keep.
-/

namespace LiveText

/-- A node's number in its document. -/
abbrev NodeId := Nat

/-- What a node is. -/
inductive NodeData where
  /-- An element; its tag is in small letters, and its attributes have distinct names. -/
  | element (tag : String) (attributes : Entries String)
  | text (text : String)
  | fragment
deriving DecidableEq, Repr

/-- A node with its links. -/
structure Node where
  data : NodeData
  parent : Option NodeId := none
  children : List NodeId := []
deriving DecidableEq, Repr

/-- The kinds of nodes. -/
inductive NodeKind where
  | element
  | text
  | fragment
deriving DecidableEq, Repr

/-- Whether nodes of this kind are looked into for texts to bind. -/
def NodeKind.isContainer : NodeKind → Bool
  | .element | .fragment => true
  | .text => false

/-- The kind of a node. -/
def NodeData.kind : NodeData → NodeKind
  | .element _ _ => .element
  | .text _ => .text
  | .fragment => .fragment

/-- The nodes of a document, in the order in which they were made. -/
structure Document where
  nodes : Array Node
deriving DecidableEq, Repr

namespace Document

/-- A document that holds its root alone. -/
def empty : Document :=
  ⟨#[{ data := .fragment }]⟩

instance : Inhabited Document := ⟨empty⟩

/-- The root. -/
def root : NodeId := 0

/-- The number of nodes ever made. -/
def size (d : Document) : Nat :=
  d.nodes.size

/-! ## Reading -/

/-- The node with a number. -/
def node? (d : Document) (i : NodeId) : Option Node :=
  d.nodes[i]?

/-- The children of a node, in order. -/
def children (d : Document) (i : NodeId) : List NodeId :=
  match d.node? i with
  | some n => n.children
  | none => []

/-- The parent of a node. -/
def parent? (d : Document) (i : NodeId) : Option NodeId :=
  (d.node? i).bind Node.parent

/-- What a node is; a number that no node has stands for an empty fragment. -/
def data (d : Document) (i : NodeId) : NodeData :=
  match d.node? i with
  | some n => n.data
  | none => .fragment

/-- The tag of an element. -/
def tag? (d : Document) (i : NodeId) : Option String :=
  match d.data i with
  | .element tag _ => some tag
  | _ => none

/-- The value of an attribute of an element. -/
def attribute? (d : Document) (i : NodeId) (name : String) : Option String :=
  match d.data i with
  | .element _ attributes => attributes.lookup name
  | _ => none

/-- The text of a text node; any other node has the empty one. -/
def text (d : Document) (i : NodeId) : String :=
  match d.data i with
  | .text s => s
  | _ => ""

/-! ## Making nodes -/

/-- A new detached node, with its number. -/
def create (d : Document) (data : NodeData) : NodeId × Document :=
  (d.size, ⟨d.nodes.push { data }⟩)

/-- A new detached element; capital ASCII letters of the tag become small. -/
def createElement (d : Document) (tag : String) : NodeId × Document :=
  d.create (.element (Text.lowerAscii tag) [])

/-- A new detached text node. -/
def createText (d : Document) (text : String) : NodeId × Document :=
  d.create (.text text)

/-- A new detached fragment. -/
def createFragment (d : Document) : NodeId × Document :=
  d.create .fragment

/-! ## Changing nodes -/

/-- Changes one node. -/
def update (d : Document) (i : NodeId) (f : Node → Node) : Document :=
  ⟨d.nodes.modify i f⟩

/-- Sets an attribute of an element, in its place when it is there already. Other nodes stay. -/
def setAttribute (d : Document) (i : NodeId) (name value : String) : Document :=
  d.update i fun n =>
    match n.data with
    | .element tag attributes => { n with data := .element tag (attributes.insert name value) }
    | _ => n

/-- Sets the text of a text node. Other nodes stay. -/
def setText (d : Document) (i : NodeId) (text : String) : Document :=
  d.update i fun n =>
    match n.data with
    | .text _ => { n with data := .text text }
    | _ => n

/-! ## Moves -/

/-- Takes a node from its parent; what is below it stays with it. -/
def detach (d : Document) (i : NodeId) : Document :=
  match d.parent? i with
  | some p =>
    (d.update i fun n => { n with parent := none }).update p fun n =>
      { n with children := n.children.filter (· ≠ i) }
  | none => d

/-- Moves a node to the end of another's children. -/
def append (d : Document) (parent child : NodeId) : Document :=
  ((d.detach child).update child fun n => { n with parent := some parent }).update parent fun n =>
    { n with children := n.children ++ [child] }

/-- Takes the first child of a node away, if there is one. -/
def moveFirstChild? (d : Document) (i : NodeId) : Option (NodeId × Document) :=
  match d.children i with
  | [] => none
  | c :: _ => some (c, d.detach c)

/-- Moves all children of a node to the end of another's, one after the other. -/
def moveChildren (d : Document) (source target : NodeId) : Document :=
  (d.children source).foldl (fun d c => d.append target c) d

/-- Whether a node is another one or lies above it. The walk upwards takes at most as many steps as
there are nodes. -/
def isAboveOrEqual (d : Document) (above i : NodeId) : Bool :=
  go d.size i
where
  /-- The same with a bound on the steps. -/
  go : Nat → NodeId → Bool
    | 0, i => above == i
    | steps + 1, i =>
      above == i || match d.parent? i with
        | some p => go steps p
        | none => false

/-! ## Invariants -/

/-- `c` is listed among the children of `p`. -/
def IsChildOf (d : Document) (c p : NodeId) : Prop :=
  c ∈ d.children p

/-- Both links of every node agree, no child is listed twice, tags are in small letters and
attribute names are distinct. -/
structure Linked (d : Document) : Prop where
  child_iff : ∀ c p, d.IsChildOf c p ↔ d.parent? c = some p
  nodup : ∀ p, (d.children p).Nodup
  tag_lower : ∀ i tag attributes, d.data i = .element tag attributes → Text.lowerAscii tag = tag
  attributes_nodup : ∀ i tag attributes, d.data i = .element tag attributes →
    (Entries.keys attributes).Nodup

/-- `a` lies strictly above `i`. -/
inductive Above (d : Document) : NodeId → NodeId → Prop where
  | parent {a i : NodeId} : d.parent? i = some a → Above d a i
  | step {a p i : NodeId} : d.parent? i = some p → Above d a p → Above d a i

/-- No node lies above itself. -/
def Acyclic (d : Document) : Prop :=
  ∀ i, ¬ d.Above i i

end Document

end LiveText
