import LiveText.Document.Basic
import LiveText.State.Handle
import LiveText.Template.Basic

/-!
# Bindings

A binding keeps one text node equal to a template rendered from a state. Each rendering is counted,
and the latest fault is kept until a rendering succeeds.

## Main definitions

- `Binding`, `Binding.succeed`, `Binding.fail`.
- `BindingStatus`: what there is to see of a binding.
-/

namespace LiveText

/-- The identity of a collector: the order in which collectors were made. -/
abbrev CollectorId := Nat

/-- The identity of a document: the order in which documents were made. -/
abbrev DocumentId := Nat

/-- A text node, its template, and what the template is rendered with. -/
structure Binding where
  document : DocumentId
  node : NodeId
  template : Template
  state : StateId
  collector : CollectorId
  subscriber : SubscriberId
  renders : Nat := 0
  failures : Nat := 0
  lastFault : Option Fault := none
deriving DecidableEq, Repr

namespace Binding

/-- The binding after a rendering that has succeeded. -/
def succeed (b : Binding) : Binding :=
  { b with renders := b.renders + 1, lastFault := none }

/-- The binding after a rendering that has failed. -/
def fail (b : Binding) (fault : Fault) : Binding :=
  { b with failures := b.failures + 1, lastFault := some fault }

end Binding

/-- The bindings that one compilation has made, in document order. They live and die together. -/
abbrev BindingSet := List Binding

/-- What there is to see of a binding: the node, the template, the counts and the latest fault,
and the text that the node shows. -/
structure BindingStatus where
  node : NodeId
  source : String
  paths : List Path
  renders : Nat
  failures : Nat
  lastFault : Option Fault
  shown : String
deriving DecidableEq, Repr

/-- The status of a binding whose node is in a document. -/
def Binding.status (d : Document) (b : Binding) : BindingStatus :=
  { node := b.node
    source := b.template.source
    paths := b.template.paths
    renders := b.renders
    failures := b.failures
    lastFault := b.lastFault
    shown := d.text b.node }

end LiveText
