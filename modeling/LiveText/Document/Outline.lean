import LiveText.Document.Markup
import LiveText.Document.Writer

/-!
# Outlines of documents

## Main definitions

- `Document.outline`: the nodes below the root with their depths.
- `Document.isStable`: whether the markup of a document reads back as itself.
-/

namespace LiveText.Document

/-- A node of an outline: how deep it lies, what it is, and how many children it has. -/
structure OutlineRow where
  depth : Nat
  data : NodeData
  children : Nat
deriving DecidableEq, Repr

variable (d : Document)

/-- The rows of a node and of all below it, `levels` down. -/
def outlineTo : Nat → Nat → NodeId → List OutlineRow
  | 0, _, _ => []
  | levels + 1, depth, i =>
    let children := d.children i
    ⟨depth, d.data i, children.length⟩ :: children.flatMap (outlineTo levels (depth + 1))

/-- The nodes below the root, in document order. -/
def outline : List OutlineRow :=
  (d.children root).flatMap (outlineTo d d.size 0)

/-- Whether markup reads back as a document that is written the same. -/
def isStable (source : String) : Bool :=
  (parse source).markup root == source

end LiveText.Document
