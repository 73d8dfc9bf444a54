import Mathlib
import LiveText.Document.Selector
import LiveText.Proofs.Document.Order

/-!
# Visits with a stack

A traversal with a stack takes a node away, visits it, and puts its children on the stack instead,
until nothing is left. Below a node that does not lie above itself it comes to an end, and it has
visited what the recursive traversal meets, in the same order. So the two kinds of traversal tell
the same texts and find the same elements.

## Main definitions

- `Document.Visits`: the visits of a traversal that comes to an end, with no bound on their number.
- `Document.Unbounded`: what recursive traversals come to without a bound on their depth.

## Main statements

- `visits_preorder`: a traversal with a stack comes to an end, in document order.
- `visit_eq`, `visit_children`: the bound on the number of visits is no restriction.
- `queryAll_eq_filter`: the elements that a query finds, in document order.
- `textNodes_eq`, `textContent_eq`, `outerTexts_eq`: the texts in document order, three times over.
- `unbounded`: the bound on the depth is no restriction either.
-/

namespace LiveText.Document

variable {d : Document}

/-! ## Traversals that come to an end -/

/-- A traversal of a stack comes to an end: the first node is visited and its children take its
place, and so on until the stack is empty. -/
inductive Visits (d : Document) : List NodeId → List NodeId → Prop where
  | done : Visits d [] []
  | step {i : NodeId} {stack visited : List NodeId} (h : Visits d (d.children i ++ stack) visited) :
      Visits d (i :: stack) (i :: visited)

namespace Visits

variable {stack rest visited others : List NodeId}

/-- What waits further down in the stack is visited afterwards. -/
theorem append (h : d.Visits stack visited) (hrest : d.Visits rest others) :
    d.Visits (stack ++ rest) (visited ++ others) := by
  induction h with
  | done => exact hrest
  | step _ ih =>
    rw [List.append_assoc] at ih
    exact .step ih

theorem flatMap {f : NodeId → List NodeId} {is : List NodeId} (h : ∀ i ∈ is, d.Visits [i] (f i)) :
    d.Visits is (is.flatMap f) := by
  induction is with
  | nil => exact .done
  | cons i is ih =>
    rw [List.flatMap_cons]
    exact (h i (List.mem_cons_self ..)).append (ih fun j hj => h j (List.mem_cons_of_mem i hj))

/-- A traversal that may make as many visits as it takes comes to its end. -/
theorem unstack_eq (h : d.Visits stack visited) {steps : Nat} (hsteps : visited.length ≤ steps) :
    d.unstack steps stack = visited := by
  induction h generalizing steps with
  | done => cases steps <;> rfl
  | step _ ih =>
    rw [List.length_cons] at hsteps
    obtain ⟨steps, rfl⟩ := Nat.exists_eq_add_of_le' (Nat.one_le_of_lt hsteps)
    rw [unstack, ih (Nat.le_of_succ_le_succ hsteps)]

end Visits

theorem visits_preorderTo (hlinked : d.Linked) {depth : Nat} {i : NodeId} (hi : ¬ d.Above i i)
    (hdepth : d.size ≤ d.rank i + depth) : d.Visits [i] (d.preorderTo depth i) := by
  -- A child has a greater rank than its parent, so a depth that is enough for all ranks above that
  -- of a node is used up only where no node is left.
  induction depth generalizing i with
  | zero =>
    refine .step ?_
    rw [(empty_of_size_le_rank hi hdepth).2]
    exact .done
  | succ depth ih =>
    rw [preorderTo]
    refine .step ?_
    rw [List.append_nil]
    refine .flatMap fun c hc => ih (not_above_child hlinked hi hc) ?_
    have hrank := rank_lt_rank_of_not_above hlinked hi hc
    omega

/-- A traversal with a stack visits a node and what is below it in document order, and then ends. -/
theorem visits_preorder (hlinked : d.Linked) {i : NodeId} (hi : ¬ d.Above i i) :
    d.Visits [i] (d.preorder i) :=
  visits_preorderTo hlinked hi (Nat.le_add_left ..)

theorem visits_nodesBelow (hlinked : d.Linked) {i : NodeId} (hi : ¬ d.Above i i) :
    d.Visits (d.children i) (d.nodesBelow i) := by
  have h := visits_preorder hlinked hi
  rw [preorder_eq_cons] at h
  cases h with
  | step h => rwa [List.append_nil] at h

/-- As many visits as there are nodes are enough. -/
theorem visit_eq (hlinked : d.Linked) {i : NodeId} (hself : ¬ d.Above i i) (hi : i < d.size) :
    d.visit [i] = d.preorder i :=
  (visits_preorder hlinked hself).unstack_eq (length_preorderTo_le hlinked d.size hself hi)

theorem visit_children (hlinked : d.Linked) {i : NodeId} (hself : ¬ d.Above i i) :
    d.visit (d.children i) = d.nodesBelow i := by
  refine (visits_nodesBelow hlinked hself).unstack_eq ?_
  rw [nodesBelow, List.length_tail]
  by_cases hi : i < d.size
  · exact (Nat.sub_le ..).trans (length_preorderTo_le hlinked d.size hself hi)
  · -- Nothing is below a node that there is not.
    rw [preorder_eq hlinked hself, children_of_le (Nat.le_of_not_lt hi)]
    exact Nat.zero_le _

/-- A query picks among the nodes at and below the root, in document order. -/
theorem queryAll_eq_filter (hlinked : d.Linked) (hself : ¬ d.Above root root)
    (hroot : d.data root = .fragment) (selector : String) :
    d.queryAll selector =
      (d.preorder root).filter fun i => (Selector.parse selector).any (·.accepts (d.data i)) := by
  rw [queryAll, visit_children hlinked hself, preorder_eq_cons]
  cases Selector.parse selector with
  | none => exact (List.filter_eq_nil_iff.mpr fun _ _ => Bool.false_ne_true).symm
  | some s => rw [List.filter_cons_of_neg (by simp [hroot, Selector.accepts])]; rfl

/-! ## Texts -/

/-- What is no text node has no text of its own. -/
theorem text_of_kind_ne {i : NodeId} (h : (d.data i).kind ≠ .text) : d.text i = "" := by
  rw [text]
  cases hdata : d.data i with
  | text s => exact absurd (congrArg NodeData.kind hdata) h
  | _ => rfl

/-- Only text nodes count for what nodes tell together. -/
theorem join_map_text (is : List NodeId) :
    String.join (is.map d.text) =
      String.join ((is.filter fun i => (d.data i).kind == .text).map d.text) := by
  induction is with
  | nil => rfl
  | cons i is ih =>
    rw [List.map_cons, String.join_cons, ih, List.filter_cons]
    split
    · rw [List.map_cons, String.join_cons]
    · next h => rw [text_of_kind_ne (by simpa using h), String.empty_append]

/-- What a node tells, given what its children tell: a text tells no more than itself. -/
theorem join_node (hleaves : d.TextsAreLeaves) {g : NodeId → String} {f : NodeId → List NodeId}
    (h : ∀ c, g c = String.join ((f c).map d.text)) (i : NodeId) :
    (match d.data i with
      | .text s => s
      | _ => String.join ((d.children i).map g)) =
      String.join ((i :: (d.children i).flatMap f).map d.text) := by
  have hinside : ∀ cs : List NodeId,
      String.join (cs.map g) = String.join ((cs.flatMap f).map d.text) := by
    intro cs
    induction cs with
    | nil => rfl
    | cons c cs ih =>
      rw [List.map_cons, String.join_cons, List.flatMap_cons, List.map_append, String.join_append,
        h, ih]
  rw [List.map_cons, String.join_cons, text]
  cases hdata : d.data i with
  | text s =>
    rw [hleaves i s hdata, List.flatMap_nil, List.map_nil, String.join_nil]
    exact String.append_empty.symm
  | _ => exact (hinside _).trans String.empty_append.symm

theorem textContentTo_eq (hleaves : d.TextsAreLeaves) (depth : Nat) (i : NodeId) :
    d.textContentTo depth i = String.join ((d.preorderTo depth i).map d.text) := by
  induction depth generalizing i with
  | zero =>
    rw [textContentTo, preorderTo, List.map_singleton, String.join_cons, String.join_nil,
      String.append_empty]
  | succ depth ih =>
    rw [textContentTo, preorderTo]
    exact join_node hleaves ih i

section Acyclic

variable (hlinked : d.Linked) (hacyclic : d.Acyclic)

include hlinked hacyclic

/-- The text nodes that a traversal with a stack finds, in document order. -/
theorem textNodes_eq {i : NodeId} (hi : i < d.size) :
    d.textNodes i = (d.preorder i).filter fun j => (d.data j).kind == .text := by
  rw [textNodes, visit_eq hlinked (hacyclic i) hi]

/-- The nodes that a traversal meets are the one at which it begins and those below it. -/
theorem mem_preorder {i j : NodeId} : j ∈ d.preorder i ↔ j = i ∨ d.Above i j := by
  rw [preorder_eq_cons, List.mem_cons, mem_nodesBelow hlinked hacyclic]

variable (hleaves : d.TextsAreLeaves)

include hleaves

/-- The text at a node is what the text nodes there tell one after the other. -/
theorem textContent_eq {i : NodeId} (hi : i < d.size) :
    d.textContent i = String.join ((d.textNodes i).map d.text) := by
  rw [textContent, textContentTo_eq hleaves, textNodes_eq hlinked hacyclic hi, ← join_map_text]
  rfl

omit hlinked hacyclic in
/-- The texts that are met first are all texts below. -/
theorem outerTexts_eq (i : NodeId) :
    d.outerTexts i = (d.nodesBelow i).filter fun j => (d.data j).kind == .text :=
  outerTextsTo_eq hleaves d.size i

/-- At a node that is looked into, the texts are those that are met first; a text is all by
itself. -/
theorem textNodes_eq_outerTexts {i : NodeId} (hi : i < d.size) :
    d.textNodes i = if (d.data i).kind.isContainer then d.outerTexts i else [i] := by
  rw [textNodes_eq hlinked hacyclic hi, outerTexts_eq hleaves, preorder_eq_cons]
  cases hdata : d.data i with
  | text s =>
    rw [nodesBelow_eq hlinked hacyclic, hleaves i s hdata]
    simp [NodeData.kind, NodeKind.isContainer, hdata]
  | _ => simp [NodeData.kind, NodeKind.isContainer, hdata]

end Acyclic

/-! ## Recursion without a bound -/

/-- The recursive traversals go down to the end: what comes of one at a node comes of the same
traversal at the children. -/
structure Unbounded (d : Document) : Prop where
  preorder : ∀ i, d.preorder i = i :: (d.children i).flatMap d.preorder
  textContent : ∀ i, d.textContent i =
    match d.data i with
    | .text s => s
    | _ => String.join ((d.children i).map d.textContent)
  outerTexts : ∀ i, d.outerTexts i = (d.children i).flatMap fun c =>
    if (d.data c).kind.isContainer then d.outerTexts c else [c]

theorem unbounded (hlinked : d.Linked) (hacyclic : d.Acyclic) (hleaves : d.TextsAreLeaves) :
    d.Unbounded where
  preorder i := preorder_eq hlinked (hacyclic i)
  textContent i := by
    have hjoin : ∀ c, d.textContent c = String.join ((d.preorder c).map d.text) :=
      textContentTo_eq hleaves d.size
    rw [hjoin, preorder_eq hlinked (hacyclic i)]
    exact (join_node hleaves hjoin i).symm
  outerTexts i := by
    rw [outerTexts_eq hleaves, nodesBelow_eq hlinked hacyclic, List.filter_flatMap]
    refine List.flatMap_congr fun c hc => ?_
    have hsize := (above_of_mem_children hlinked hc).lt_size
    rw [← preorder_eq_cons, ← textNodes_eq hlinked hacyclic hsize]
    exact textNodes_eq_outerTexts hlinked hacyclic hleaves hsize

end LiveText.Document
