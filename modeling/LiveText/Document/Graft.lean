import LiveText.Document.Basic
import LiveText.Markup.Tree

/-!
# Grafting read markup into a document

Trees are copied below a node of a document. The trees still to be copied wait in a list, each with
the node below which it goes; an element puts its children in front. New nodes are therefore
numbered in document order.

## Main definitions

- `Document.graft`: copies waiting trees.
- `Document.appendForest`: copies trees below one node.
-/

namespace LiveText.Document

open Markup (Tree)

/-- The number of nodes that wait. -/
def pendingSize : List (NodeId × Tree) → Nat
  | [] => 0
  | (_, t) :: rest => t.size + pendingSize rest

theorem pendingSize_append (xs ys : List (NodeId × Tree)) :
    pendingSize (xs ++ ys) = pendingSize xs + pendingSize ys := by
  induction xs with
  | nil => simp [pendingSize]
  | cons x xs ih => simp [pendingSize, ih, Nat.add_assoc]

/-- Trees that all go below one node. -/
def below (i : NodeId) (ts : List Tree) : List (NodeId × Tree) :=
  ts.map (i, ·)

theorem pendingSize_below (i : NodeId) (ts : List Tree) :
    pendingSize (below i ts) = Markup.forestSize ts := by
  unfold below
  induction ts with
  | nil => rfl
  | cons t ts ih => simp [pendingSize, Markup.forestSize, ih]

/-- Copies the trees that wait. Texts are never joined, and a node that stands for nothing leaves
nothing behind. -/
def graft (d : Document) (pending : List (NodeId × Tree)) : Document :=
  match pending with
  | [] => d
  | (_, .other) :: rest => graft d rest
  | (into, .text text) :: rest =>
    let (i, d) := d.createText text
    graft (d.append into i) rest
  | (into, .element name attributes children) :: rest =>
    let (i, d) := d.createElement name
    let d := attributes.foldl (fun d (name, value) => d.setAttribute i name value) d
    graft (d.append into i) (below i children ++ rest)
termination_by pendingSize pending
decreasing_by
  · simp [pendingSize, Tree.size]
  · simp [pendingSize, Tree.size]
  · simp only [pendingSize_append, pendingSize_below, pendingSize, Tree.size]
    omega

/-- Copies trees below a node, after the children that it has; the answer tells the new ones among
its children. -/
def appendForest (d : Document) (parent : NodeId) (forest : List Tree) : List NodeId × Document :=
  let before := (d.children parent).length
  let d := d.graft (below parent forest)
  ((d.children parent).drop before, d)

end LiveText.Document
