import LiveText.Document.Basic

/-!
# Traversals

The nodes below a node in document order, and the texts among them. Two kinds of traversal stand
side by side: one goes down recursively, the other keeps a stack of nodes still to be visited. In a
document without cycles a way down is no longer than the number of nodes, and the stack is empty
after as many steps; these are the bounds that make both end.

## Main definitions

- `Document.preorder`: the recursive traversal.
- `Document.outerTexts`: the texts that a recursive traversal meets first.
- `Document.unstack`: the traversal with a stack.
- `Document.textNodes`, `Document.textContent`.
-/

namespace LiveText.Document

variable (d : Document)

/-! ## Recursive -/

/-- A node and all nodes below it down to a depth, in document order. -/
def preorderTo : Nat → NodeId → List NodeId
  | 0, i => [i]
  | depth + 1, i => i :: (d.children i).flatMap (preorderTo depth)

/-- A node and all nodes below it, in document order. -/
def preorder (i : NodeId) : List NodeId :=
  preorderTo d d.size i

/-- The texts at or below a node down to a depth. What is below a text node does not count. -/
def textContentTo : Nat → NodeId → String
  | 0, i => d.text i
  | depth + 1, i =>
    match d.data i with
    | .text s => s
    | _ => String.join ((d.children i).map (textContentTo depth))

/-- The texts at or below a node, one after the other. -/
def textContent (i : NodeId) : String :=
  textContentTo d d.size i

/-- The text nodes strictly below a node, at most `levels` down, without those below other text
nodes. -/
def outerTextsTo : Nat → NodeId → List NodeId
  | 0, _ => []
  | levels + 1, i => (d.children i).flatMap fun c =>
      if (d.data c).kind.isContainer then outerTextsTo levels c else [c]

/-- The text nodes strictly below a node in document order, without those below other text nodes. -/
def outerTexts (i : NodeId) : List NodeId :=
  outerTextsTo d d.size i

/-! ## With a stack -/

/-- Visits the nodes of a stack, first to last, and with each the nodes below it; the answer is in
the order of visits. -/
def unstack : Nat → List NodeId → List NodeId
  | 0, _ => []
  | _ + 1, [] => []
  | steps + 1, i :: stack => i :: unstack steps (d.children i ++ stack)

/-- The nodes below the ones given, these included, in document order. -/
def visit (stack : List NodeId) : List NodeId :=
  unstack d d.size stack

/-- The text nodes at or below a node, in document order. -/
def textNodes (i : NodeId) : List NodeId :=
  (d.visit [i]).filter fun j => (d.data j).kind == .text

end LiveText.Document
