import Mathlib
import LiveText.Document.Markup
import LiveText.Proofs.Document.Edits
import LiveText.Proofs.Markup.Growth

/-!
# Trees copied into a document

Trees that a reader of markup hands over are copied below a node. The copies become the last
children of the node, they and what is below them get the next numbers in document order, and no
other node changes but the one below which they go. A document that already holds something gets the
same nodes as an empty one, with other numbers.

## Main definitions

- `Markup.kept`: what of a forest is copied.
- `Document.nodesOf`: the nodes of a forest in document order.
- `Document.withForest`: a document with a forest as the last children of a node.
- `Node.relocate`: a node whose links lead to other numbers.
- `Document.HasNodes`: nodes with successive numbers.
- `Markup.Builder.withoutContents`: a builder whose templates have lost what is in them.
- `Document.CopiesBelow`, `Document.CopiesMarkup`: what copying a forest and markup comes to.

## Main statements

- `graft_below_append`: the list of waiting trees does what a recursive copy does.
- `relocate_nodesOf`: copies with other numbers.
- `copies_are_exact`: forests and markup are copied as they are.
-/

namespace LiveText

namespace Markup

/-- What of a forest is copied. What stands for nothing is left out, without joining the texts
around it. Tags are in small letters; an attribute that is given more than once has its first place
and its last value. -/
def kept : List Tree → List Tree
  | [] => []
  | .text s :: ts => .text s :: kept ts
  | .element name attributes children :: ts =>
    .element (Text.lowerAscii name) (Entries.lastOfEach attributes) (kept children) :: kept ts
  | .other :: ts => kept ts

/-- What a node of a builder is, but that a template has lost what is in it. -/
def PartData.withoutContent : PartData → PartData
  | .element label attributes _ => .element label attributes none
  | data => data

namespace Builder

/-- The builder with templates that have lost what is in them. -/
def withoutContents (b : Builder) : Builder :=
  { b with parts := b.parts.map fun n => { n with data := n.data.withoutContent } }

theorem dataOf_withoutContents (b : Builder) (i : Nat) :
    b.withoutContents.dataOf i = (b.dataOf i).withoutContent := by
  rw [dataOf, dataOf, withoutContents, Array.getElem?_map]
  cases b.parts[i]? <;> rfl

theorem childrenOf_withoutContents (b : Builder) (i : Nat) :
    b.withoutContents.childrenOf i = b.childrenOf i := by
  rw [childrenOf, childrenOf, withoutContents, Array.getElem?_map]
  cases b.parts[i]? <;> rfl

theorem treeTo_withoutContents (b : Builder) (depth i : Nat) :
    b.withoutContents.treeTo depth i = b.treeTo depth i := by
  induction depth generalizing i with
  | zero => rfl
  | succ depth ih =>
    rw [treeTo, treeTo, dataOf_withoutContents, childrenOf_withoutContents]
    cases b.dataOf i with
    | element label attributes content =>
      exact congrArg (Tree.element label.name attributes) (List.map_congr_left fun c _ => ih c)
    | _ => rfl

/-- No tree has anything of what is in a template. -/
theorem forest_withoutContents (b : Builder) : b.withoutContents.forest = b.forest := by
  have hsize : b.withoutContents.parts.size = b.parts.size := Array.size_map ..
  rw [forest, forest, childrenOf_withoutContents, hsize]
  exact List.map_congr_left fun c _ => b.treeTo_withoutContents b.parts.size c

end Builder

end Markup

namespace Document

open Markup

variable {d : Document} {p : NodeId}

/-! ## Nodes of a forest -/

/-- The nodes of a forest in document order. They have the numbers from `n` on, and the outermost
ones are below `p`. -/
def nodesOf (p n : NodeId) : List Tree → List Node
  | [] => []
  | .text s :: ts => { data := .text s, parent := some p } :: nodesOf p (n + 1) ts
  | .element name attributes children :: ts =>
    { data := .element name attributes, parent := some p, children := roots (n + 1) children } ::
      (nodesOf n (n + 1) children ++ nodesOf p (n + (forestSize children + 1)) ts)
  | .other :: ts => { data := .fragment, parent := some p } :: nodesOf p (n + 1) ts

/-- A document with a forest at the end of the children of a node. -/
def withForest (d : Document) (p : NodeId) (ts : List Tree) : Document :=
  ⟨(d.update p fun n => { n with children := n.children ++ roots d.size ts }).nodes ++
    (nodesOf p d.size ts).toArray⟩

theorem length_nodesOf (p n : NodeId) (ts : List Tree) :
    (nodesOf p n ts).length = forestSize ts := by
  induction ts using forest_induction generalizing p n with
  | nil => rw [nodesOf, forestSize, List.length_nil]
  | text s ts ih => rw [nodesOf, List.length_cons, ih, forestSize, Tree.size_text, Nat.add_comm]
  | element name attributes children ts inside ih =>
    rw [nodesOf, List.length_cons, List.length_append, inside, ih, forestSize, Tree.size_element]
    omega
  | other ts ih => rw [nodesOf, List.length_cons, ih, forestSize, Tree.size_other, Nat.add_comm]

theorem nodesOf_append (p n : NodeId) (ts us : List Tree) :
    nodesOf p n (ts ++ us) = nodesOf p n ts ++ nodesOf p (n + forestSize ts) us := by
  induction ts using forest_induction generalizing n with
  | nil => rw [nodesOf, List.nil_append, List.nil_append, forestSize, Nat.add_zero]
  | text s ts ih =>
    rw [List.cons_append, nodesOf, nodesOf, ih, forestSize, Tree.size_text, List.cons_append,
      Nat.add_assoc]
  | element name attributes children ts inside ih =>
    rw [List.cons_append, nodesOf, nodesOf, ih, forestSize, Tree.size_element, List.cons_append,
      List.append_assoc, Nat.add_assoc]
  | other ts ih =>
    rw [List.cons_append, nodesOf, nodesOf, ih, forestSize, Tree.size_other, List.cons_append,
      Nat.add_assoc]

theorem size_withForest (d : Document) (p : NodeId) (ts : List Tree) :
    (d.withForest p ts).size = d.size + forestSize ts := by
  rw [withForest, size, Array.size_append, ← length_nodesOf p d.size ts]
  exact congrArg (· + _) (size_update ..)

/-- The nodes that there are stay, but for the children of one, and the new ones are behind. -/
theorem node?_withForest (d : Document) (p : NodeId) (ts : List Tree) (j : NodeId) :
    (d.withForest p ts).node? j =
      if j < d.size then
        (d.node? j).map fun n =>
          if j = p then { n with children := n.children ++ roots d.size ts } else n
      else (nodesOf p d.size ts)[j - d.size]? := by
  have hsize : (d.update p fun n =>
      { n with children := n.children ++ roots d.size ts }).nodes.size = d.size := size_update ..
  rw [node?, withForest, Array.getElem?_append, hsize]
  split
  · have hnode := d.node?_update p (fun n => { n with children := n.children ++ roots d.size ts }) j
    rw [node?] at hnode
    rw [hnode]
    by_cases hj : j = p
    · simp [hj]
    · simp [hj, Ne.symm hj]
  · simp

/-! ## One forest after the other -/

/-- Nothing is put there. -/
theorem withForest_nil (d : Document) (p : NodeId) : d.withForest p [] = d := by
  apply ext_node?
  intro j
  rw [node?_withForest]
  split
  · cases d.node? j with
    | none => rfl
    | some n => simp [roots]
  · next hj => rw [node?_eq_none_of_le (Nat.le_of_not_lt hj), nodesOf, List.getElem?_nil]

/-- One forest after the other, below a node that there has been before. -/
theorem withForest_withForest (hp : p < d.size) (ts us : List Tree) :
    (d.withForest p ts).withForest p us = d.withForest p (ts ++ us) := by
  apply ext_node?
  intro j
  rw [node?_withForest, size_withForest, node?_withForest, node?_withForest]
  by_cases hold : j < d.size
  · rw [if_pos (Nat.lt_add_right _ hold), if_pos hold, if_pos hold, Option.map_map]
    refine congrArg (Option.map · _) (funext fun n => ?_)
    by_cases hj : j = p
    · simp [hj, roots_append]
    · simp [hj]
  · rw [if_neg hold, if_neg hold, nodesOf_append]
    by_cases hfirst : j < d.size + forestSize ts
    · -- A node of the first forest is not the one below which the second one goes.
      have hj : j ≠ p := fun hj => hold (hj ▸ hp)
      have hlength : j - d.size < (nodesOf p d.size ts).length := by
        rw [length_nodesOf]
        exact Nat.sub_lt_left_of_lt_add (Nat.le_of_not_lt hold) hfirst
      simp only [if_pos hfirst, if_neg hj, Option.map_id', List.getElem?_append_left hlength]
    · have hlength : (nodesOf p d.size ts).length ≤ j - d.size := by
        rw [length_nodesOf]
        exact Nat.le_sub_of_add_le' (Nat.le_of_not_lt hfirst)
      rw [if_neg hfirst, List.getElem?_append_right hlength, length_nodesOf, Nat.sub_sub]

/-- A forest inside an element that has just been made. -/
theorem withForest_inside (d : Document) (p : NodeId) (name : String) (attributes : Entries String)
    (children : List Tree) :
    (d.withForest p [.element name attributes []]).withForest d.size children =
      d.withForest p [.element name attributes children] := by
  have hsize : (d.withForest p [.element name attributes []]).size = d.size + 1 := by
    rw [size_withForest, forestSize, Tree.size_element, forestSize]
  apply ext_node?
  intro j
  rw [node?_withForest, hsize, node?_withForest, node?_withForest]
  by_cases hold : j < d.size
  · rw [if_pos (Nat.lt_succ_of_lt hold), if_pos hold, if_pos hold, Option.map_map]
    refine congrArg (Option.map · _) (funext fun n => ?_)
    simp [hold.ne, roots]
  · rw [if_neg hold, if_neg hold]
    simp only [nodesOf, List.append_nil]
    by_cases hj : j = d.size
    · simp [hj, roots]
    · -- Both lists go on with the nodes inside the element.
      have hlt : d.size < j := Nat.lt_of_le_of_ne (Nat.le_of_not_lt hold) (Ne.symm hj)
      obtain ⟨k, rfl⟩ := Nat.exists_eq_add_of_lt hlt
      have hk : d.size + k + 1 - d.size = k + 1 := by omega
      rw [if_neg (Nat.not_lt_of_le hlt), hk, List.getElem?_cons_succ, Nat.add_right_comm,
        Nat.add_sub_cancel_left]

/-! ## Copying -/

/-- A new node that is given a place. -/
theorem append_create (hp : p < d.size) {data : NodeData} {t : Tree}
    (ht : ∀ n, nodesOf p n [t] = [{ data, parent := some p }]) (hroots : ∀ n, roots n [t] = [n]) :
    (d.create data).2.append p d.size = d.withForest p [t] := by
  -- The new node has no parent that it could be taken from.
  have hdetach : (d.create data).2.detach d.size = (d.create data).2 := by
    apply detach_of_parentless
    rw [(d.links_create data _).2, parent?_eq, node?_eq_none_of_le (Nat.le_refl _)]
    rfl
  apply ext_node?
  intro j
  rw [node?_append, hdetach, node?_create, node?_withForest, ht, hroots]
  by_cases hj : j = d.size
  · simp [hj, hp.ne']
  · rw [if_neg hj]
    by_cases hold : j < d.size
    · rw [if_pos hold]
      refine congrArg (Option.map · _) (funext fun n => ?_)
      by_cases hjp : j = p
      · simp [hjp, hp.ne]
      · simp [hjp, hj]
    · rw [if_neg hold, node?_eq_none_of_le (Nat.le_of_not_lt hold), Option.map_none]
      have hlt : d.size < j := Nat.lt_of_le_of_ne (Nat.le_of_not_lt hold) (Ne.symm hj)
      exact (List.getElem?_eq_none (Nat.sub_pos_of_lt hlt)).symm

/-- Attributes that a new element is given one after the other. -/
theorem foldl_setAttribute_create (d : Document) (tag : String)
    (done attributes : Entries String) :
    attributes.foldl (fun d' (name, value) => d'.setAttribute d.size name value)
        (d.create (.element tag done)).2 =
      (d.create (.element tag
        (attributes.foldl (fun done (name, value) => done.insert name value) done))).2 := by
  induction attributes generalizing done with
  | nil => rfl
  | cons a rest ih =>
    have hset : (d.create (.element tag done)).2.setAttribute d.size a.1 a.2 =
        (d.create (.element tag (done.insert a.1 a.2))).2 := by
      apply ext_node?
      intro j
      rw [setAttribute, node?_update, node?_create, node?_create]
      by_cases hj : j = d.size
      · simp [hj]
      · simp [hj, Ne.symm hj]
    rw [List.foldl_cons, List.foldl_cons, ← ih]
    exact congrArg (rest.foldl _) hset

/-- The list of waiting trees copies a forest as a recursive copy does: all of it, before what waits
behind it. -/
theorem graft_below_append (hp : p < d.size) (ts : List Tree) (rest : List (NodeId × Tree)) :
    d.graft (below p ts ++ rest) = (d.withForest p (kept ts)).graft rest := by
  -- On the forest. What waits behind it is first what comes after an element, when the element is
  -- entered, and so the document and the node may be any.
  induction ts using forest_induction generalizing d p rest with
  | nil => rw [kept, withForest_nil, below, List.map_nil, List.nil_append]
  | text s ts ih =>
    have hnew : (d.createText s).2.append p d.size = d.withForest p [.text s] := by
      apply append_create hp
      · intro n
        rw [nodesOf, nodesOf]
      · intro n
        rw [roots, roots]
    have hp' : p < (d.withForest p [.text s]).size := by
      rw [size_withForest]
      exact Nat.lt_add_right _ hp
    have hstep : d.graft (below p (.text s :: ts) ++ rest) =
        (d.withForest p [.text s]).graft (below p ts ++ rest) := by
      rw [below, List.map_cons, List.cons_append, graft, ← hnew]
      rfl
    rw [hstep, ih hp', withForest_withForest hp, kept, List.singleton_append]
  | element name attributes children ts inside ih =>
    let element := Tree.element (Text.lowerAscii name) (Entries.lastOfEach attributes)
    have hnew : (attributes.foldl (fun d' (name, value) => d'.setAttribute d.size name value)
        (d.createElement name).2).append p d.size = d.withForest p [element []] := by
      have hattributes := Entries.ofList_eq_lastOfEach attributes
      rw [Entries.ofList] at hattributes
      rw [createElement, foldl_setAttribute_create, hattributes]
      apply append_create hp
      · intro n
        rw [nodesOf, nodesOf, nodesOf, roots, List.append_nil]
      · intro n
        rw [roots, roots]
    have hsize : (d.withForest p [element []]).size = d.size + 1 := by
      rw [size_withForest, forestSize, Tree.size_element, forestSize]
    have hstep : d.graft (below p (.element name attributes children :: ts) ++ rest) =
        (d.withForest p [element []]).graft (below d.size children ++ (below p ts ++ rest)) := by
      rw [below, List.map_cons, List.cons_append, graft, ← hnew]
      rfl
    -- What is inside the element is copied before what comes after it.
    have hinside := inside (d := d.withForest p [element []]) (p := d.size)
      (by rw [hsize]; exact Nat.lt_succ_self _) (below p ts ++ rest)
    have hp' : p < (d.withForest p [element (kept children)]).size := by
      rw [size_withForest]
      exact Nat.lt_add_right _ hp
    rw [hstep, hinside, withForest_inside, ih hp', withForest_withForest hp, kept,
      List.singleton_append]
  | other ts ih =>
    rw [below, List.map_cons, List.cons_append, graft, kept]
    exact ih hp rest

/-! ## Other numbers -/

end Document

/-- A node whose links lead to other numbers. -/
def Node.relocate (f : NodeId → NodeId) (n : Node) : Node :=
  { n with parent := n.parent.map f, children := n.children.map f }

namespace Document

open Markup

variable {d : Document} {p : NodeId}

theorem map_roots {f : NodeId → NodeId} {n k : NodeId} (hf : ∀ i, n ≤ i → f i = i + k)
    (ts : List Tree) : (roots n ts).map f = roots (n + k) ts := by
  induction ts generalizing n with
  | nil => rfl
  | cons t ts ih =>
    rw [roots, roots, List.map_cons, hf n le_rfl,
      ih fun i hi => hf i ((Nat.le_add_right ..).trans hi), Nat.add_right_comm]

/-- A forest gives the same nodes wherever it goes, with all numbers moved by the same amount. -/
theorem relocate_nodesOf {f : NodeId → NodeId} {p n k : NodeId} (hf : ∀ i, n ≤ i → f i = i + k)
    (ts : List Tree) : (nodesOf p n ts).map (Node.relocate f) = nodesOf (f p) (n + k) ts := by
  induction ts using forest_induction generalizing p n with
  | nil => rw [nodesOf, nodesOf, List.map_nil]
  | text s ts ih =>
    rw [nodesOf, nodesOf, List.map_cons, ih fun i hi => hf i ((Nat.le_succ n).trans hi),
      Nat.add_right_comm]
    rfl
  | element name attributes children ts inside ih =>
    have hsucc : ∀ i, n + 1 ≤ i → f i = i + k := fun i hi => hf i ((Nat.le_succ n).trans hi)
    have hothers := ih (p := p) (n := n + (forestSize children + 1))
      fun i hi => hf i ((Nat.le_add_right ..).trans hi)
    rw [nodesOf, nodesOf, List.map_cons, List.map_append, inside hsucc, hothers, hf n le_rfl,
      Nat.add_right_comm n 1, Nat.add_right_comm n (forestSize children + 1), Node.relocate,
      map_roots hsucc, Nat.add_right_comm n 1]
    rfl
  | other ts ih =>
    rw [nodesOf, nodesOf, List.map_cons, ih fun i hi => hf i ((Nat.le_succ n).trans hi),
      Nat.add_right_comm]
    rfl

/-! ## Document order -/

/-- Nodes have the numbers from `n` on. -/
def HasNodes (d : Document) (n : NodeId) (ns : List Node) : Prop :=
  ∀ k, k < ns.length → d.node? (n + k) = ns[k]?

theorem HasNodes.of_cons {n : NodeId} {x : Node} {ns : List Node} (h : d.HasNodes n (x :: ns)) :
    d.node? n = some x ∧ d.HasNodes (n + 1) ns := by
  refine ⟨h 0 (Nat.succ_pos _), fun k hk => ?_⟩
  rw [Nat.add_right_comm]
  exact h (k + 1) (Nat.succ_lt_succ hk)

theorem HasNodes.of_append {n : NodeId} {ns ms : List Node} (h : d.HasNodes n (ns ++ ms)) :
    d.HasNodes n ns ∧ d.HasNodes (n + ns.length) ms := by
  rw [HasNodes, List.length_append] at h
  refine ⟨fun k hk => ?_, fun k hk => ?_⟩
  · rw [h k (Nat.lt_add_right _ hk), List.getElem?_append_left hk]
  · rw [Nat.add_assoc, h _ (Nat.add_lt_add_left hk _),
      List.getElem?_append_right (Nat.le_add_right ..), Nat.add_sub_cancel_left]

/-- Nodes of a forest that have the numbers from `n` on are met in the order of these. -/
theorem flatMap_preorderTo_roots {n : NodeId} {ts : List Tree} (h : d.HasNodes n (nodesOf p n ts))
    {depth : Nat} (hdepth : forestSize ts ≤ depth) :
    (roots n ts).flatMap (d.preorderTo depth) = List.range' n (forestSize ts) := by
  -- A node without children, in front of others.
  have hleaf : ∀ {t : Tree} {n levels : Nat} {ts : List Tree} {x : Node}, t.size = 1 →
      d.node? n = some x → x.children = [] →
      (roots (n + 1) ts).flatMap (d.preorderTo (levels + 1)) =
        List.range' (n + 1) (forestSize ts) →
      (roots n (t :: ts)).flatMap (d.preorderTo (levels + 1)) =
        List.range' n (forestSize (t :: ts)) := by
    intro t n levels ts x ht hnode hchildren hothers
    have hnone : d.children n = [] := by
      rw [children_eq, hnode]
      exact hchildren
    rw [roots, List.flatMap_cons, ht, hothers, forestSize, ht, Nat.add_comm 1, List.range'_succ,
      preorderTo, hnone]
    rfl
  induction ts using forest_induction generalizing n p depth with
  | nil => rw [roots, forestSize, List.flatMap_nil, List.range'_zero]
  | text s ts ih =>
    obtain ⟨levels, rfl, hothers⟩ := exists_levels_of_text hdepth
    rw [nodesOf] at h
    obtain ⟨hnode, hafter⟩ := h.of_cons
    exact hleaf rfl hnode rfl (ih hafter (Nat.le_succ_of_le hothers))
  | element name attributes children ts inside ih =>
    obtain ⟨levels, rfl, hcontent, hothers⟩ := exists_levels_of_element hdepth
    rw [nodesOf] at h
    obtain ⟨hnode, hrest⟩ := h.of_cons
    obtain ⟨hinside, hafter⟩ := hrest.of_append
    have hchildren : d.children n = roots (n + 1) children := by
      rw [children_eq, hnode]
      rfl
    have hsize : n + 1 + (nodesOf n (n + 1) children).length = n + (forestSize children + 1) := by
      rw [length_nodesOf, Nat.add_assoc, Nat.add_comm 1]
    rw [hsize] at hafter
    rw [roots, List.flatMap_cons, Tree.size_element, preorderTo, hchildren,
      inside hinside hcontent, ih hafter (by omega), forestSize, Tree.size_element,
      Nat.add_right_comm, List.range'_succ, ← List.range'_append_1, List.cons_append,
      Nat.add_right_comm n 1, Nat.add_assoc n]
  | other ts ih =>
    rw [nodesOf] at h
    obtain ⟨hnode, hafter⟩ := h.of_cons
    rw [forestSize, Tree.size_other] at hdepth
    obtain ⟨levels, rfl⟩ := Nat.exists_eq_add_of_le' (Nat.le_of_add_right_le hdepth)
    exact hleaf rfl hnode rfl (ih hafter (by omega))

/-- Texts of a forest have nothing below them. -/
theorem children_of_mem_nodesOf {n : NodeId} {ts : List Tree} {x : Node} (hx : x ∈ nodesOf p n ts)
    {s : String} (hdata : x.data = .text s) : x.children = [] := by
  induction ts using forest_induction generalizing n p with
  | nil =>
    rw [nodesOf] at hx
    cases hx
  | text s ts ih =>
    rw [nodesOf, List.mem_cons] at hx
    obtain rfl | hx := hx
    · rfl
    · exact ih hx
  | element name attributes children ts inside ih =>
    rw [nodesOf, List.mem_cons, List.mem_append] at hx
    obtain rfl | hx | hx := hx
    · cases hdata
    · exact inside hx
    · exact ih hx
  | other ts ih =>
    rw [nodesOf, List.mem_cons] at hx
    obtain rfl | hx := hx
    · rfl
    · exact ih hx

/-! ## What copying comes to -/

theorem children_withForest (d : Document) (p : NodeId) (ts : List Tree) {j : NodeId}
    (hj : j < d.size) :
    (d.withForest p ts).children j =
      d.children j ++ if j = p then roots d.size ts else [] := by
  rw [children_eq, node?_withForest, if_pos hj, children_eq]
  obtain ⟨n, hn⟩ := node?_isSome_of_lt hj
  rw [hn]
  by_cases hjp : j = p
  · simp [hjp]
  · simp [hjp]

theorem parent?_withForest (d : Document) (p : NodeId) (ts : List Tree) {j : NodeId}
    (hj : j < d.size) : (d.withForest p ts).parent? j = d.parent? j := by
  rw [parent?_eq, node?_withForest, if_pos hj, parent?_eq]
  cases d.node? j with
  | none => rfl
  | some n =>
    by_cases hjp : j = p
    · simp [hjp]
    · simp [hjp]

theorem data_withForest (d : Document) (p : NodeId) (ts : List Tree) {j : NodeId}
    (hj : j < d.size) : (d.withForest p ts).data j = d.data j := by
  rw [data_eq, node?_withForest, if_pos hj, data_eq]
  cases d.node? j with
  | none => rfl
  | some n =>
    by_cases hjp : j = p
    · simp [hjp]
    · simp [hjp]

theorem hasNodes_withForest (d : Document) (p : NodeId) (ts : List Tree) :
    (d.withForest p ts).HasNodes d.size (nodesOf p d.size ts) := by
  intro k _
  rw [node?_withForest, if_neg (Nat.not_lt_of_le (Nat.le_add_right ..)), Nat.add_sub_cancel_left]

/-- Copying answers with the new outermost nodes. -/
theorem appendForest_eq (hp : p < d.size) (ts : List Tree) :
    d.appendForest p ts = (roots d.size (kept ts), d.withForest p (kept ts)) := by
  have hgraft := graft_below_append hp ts []
  rw [List.append_nil, graft] at hgraft
  rw [appendForest, hgraft, children_withForest d p _ hp, if_pos rfl, List.drop_left]

/-- A document that is read holds the copy of a forest, and nothing else. -/
theorem parse_eq (source : String) :
    parse source = empty.withForest root (kept (Markup.parse source)) := by
  rw [parse, appendMarkup, appendForest_eq (by decide)]

/-- Texts stay without children if nothing is copied below a text. -/
theorem TextsAreLeaves.withForest (h : d.TextsAreLeaves) (hp : (d.data p).kind ≠ .text)
    (ts : List Tree) : (d.withForest p ts).TextsAreLeaves := by
  intro j s hdata
  by_cases hj : j < d.size
  · rw [data_withForest d p ts hj] at hdata
    have hjp : j ≠ p := by
      rintro rfl
      exact hp (congrArg NodeData.kind hdata)
    rw [children_withForest d p ts hj, h j s hdata, if_neg hjp, List.append_nil]
  · rw [data_eq, node?_withForest, if_neg hj] at hdata
    rw [children_eq, node?_withForest, if_neg hj]
    cases hnode : (nodesOf p d.size ts)[j - d.size]? with
    | none => rfl
    | some x =>
      rw [hnode] at hdata
      exact children_of_mem_nodesOf (List.mem_of_getElem? hnode) hdata

theorem textsAreLeaves_parse (source : String) : (parse source).TextsAreLeaves := by
  have hempty : empty.TextsAreLeaves := by
    intro j s hdata
    cases j with
    | zero => cases hdata
    | succ j => cases hdata
  rw [parse_eq]
  exact hempty.withForest (by decide) _

/-- Trees have been copied as the last children of a node: in new nodes with the next numbers in
document order, to the last detail those of what is kept of the forest. The answer tells the
outermost of them in order. All other nodes stay as they are. -/
structure CopiesBelow (d : Document) (p : NodeId) (ts : List Tree) : Prop where
  answer : d.appendForest p ts = (roots d.size (kept ts), d.withForest p (kept ts))
  data : ∀ j, j < d.size → (d.withForest p (kept ts)).data j = d.data j
  parent : ∀ j, j < d.size → (d.withForest p (kept ts)).parent? j = d.parent? j
  children : ∀ j, j < d.size → (d.withForest p (kept ts)).children j =
    d.children j ++ if j = p then roots d.size (kept ts) else []
  size : (d.withForest p (kept ts)).size = d.size + forestSize (kept ts)
  nodes : (d.withForest p (kept ts)).HasNodes d.size (nodesOf p d.size (kept ts))
  order : (roots d.size (kept ts)).flatMap (d.withForest p (kept ts)).preorder =
    List.range' d.size (forestSize (kept ts))

/-- The number that a node of a page has when the page is copied into a document below a node. The
root of the page is that node. -/
def renumber (d : Document) (p j : NodeId) : NodeId :=
  if j = root then p else j + (d.size - 1)

/-- Markup has been copied like the forest that is read from it, and has given the nodes that it
gives to a page of its own, but that their numbers are moved by the same amount. -/
structure CopiesMarkup (d : Document) (p : NodeId) (source : String) : Prop where
  forest : d.appendMarkup p source = d.appendForest p (Markup.parse source)
  answer : (d.appendMarkup p source).1 = ((parse source).children root).map (d.renumber p)
  size : (d.appendMarkup p source).2.size = (parse source).size + (d.size - 1)
  nodes : ∀ j, j ≠ root → (d.appendMarkup p source).2.node? (d.renumber p j) =
    ((parse source).node? j).map (Node.relocate (d.renumber p))

theorem copiesBelow (hp : p < d.size) (ts : List Tree) : d.CopiesBelow p ts where
  answer := appendForest_eq hp ts
  data _ hj := data_withForest d p _ hj
  parent _ hj := parent?_withForest d p _ hj
  children _ hj := children_withForest d p _ hj
  size := size_withForest d p _
  nodes := d.hasNodes_withForest p (kept ts)
  order := by
    apply flatMap_preorderTo_roots (d.hasNodes_withForest p (kept ts))
    rw [size_withForest]
    exact Nat.le_add_left ..

theorem copiesMarkup (hp : p < d.size) (source : String) : d.CopiesMarkup p source := by
  have hpage : parse source = empty.withForest root (kept (Markup.parse source)) := parse_eq source
  -- A page begins with the root alone, so its first copy has number one.
  have hone : empty.size = 1 := rfl
  have hd : 1 + (d.size - 1) = d.size := Nat.add_sub_cancel' (Nat.one_le_of_lt hp)
  have hrenumber : ∀ i, 1 ≤ i → d.renumber p i = i + (d.size - 1) := fun i hi =>
    if_neg (Nat.ne_of_gt hi)
  have hroots := map_roots hrenumber (kept (Markup.parse source))
  have hnodes := relocate_nodesOf (p := root) hrenumber (kept (Markup.parse source))
  rw [hd] at hroots hnodes
  refine ⟨rfl, ?answer, ?size, fun j hj => ?nodes⟩
  all_goals rw [appendMarkup, appendForest_eq hp, hpage]
  case answer =>
    rw [children_withForest empty root _ (by decide), if_pos rfl]
    exact hroots.symm
  case size => rw [size_withForest, size_withForest, hone, Nat.add_right_comm, hd]
  case nodes =>
    obtain ⟨k, rfl⟩ := Nat.exists_eq_add_of_le (Nat.one_le_iff_ne_zero.mpr hj)
    have hk : 1 + k + (d.size - 1) = d.size + k := by rw [Nat.add_right_comm, hd]
    rw [hrenumber _ (Nat.le_add_right ..), hk, node?_withForest, node?_withForest, hone,
      if_neg (Nat.not_lt_of_le (Nat.le_add_right ..)),
      if_neg (Nat.not_lt_of_le (Nat.le_add_right ..)), Nat.add_sub_cancel_left,
      Nat.add_sub_cancel_left, ← List.getElem?_map, hnodes]
    rfl

/-- Trees are copied as they are below a node of any document. What stands for nothing and what is
in templates has no part in it. The same markup gives the same nodes in every document and below
every node. -/
theorem copies_are_exact (hp : p < d.size) (ts : List Tree) :
    d.CopiesBelow p ts ∧ (∀ b : Builder, b.withoutContents.forest = b.forest) ∧
      ∀ source, d.CopiesMarkup p source :=
  ⟨copiesBelow hp ts, Builder.forest_withoutContents, copiesMarkup hp⟩

/-- Two texts around a comment, and an element that has an attribute twice. -/
def mixedForest : List Tree :=
  [ .text "a", .other, .text "b",
    .element "P" [("id", "x"), ("title", "t"), ("id", "y")] [.text "c"] ]

/-- The texts stay apart, and the second value of the attribute has the place of the first one. -/
theorem mixed_forest_is_copied :
    let page := (empty.createElement "div").2.append 0 1
    1 < page.size ∧ (page.appendForest 1 mixedForest).1 = [2, 3, 4] ∧
      (page.appendForest 1 mixedForest).2.HasNodes 2
        [ { data := .text "a", parent := some 1 }, { data := .text "b", parent := some 1 },
          { data := .element "p" [("id", "y"), ("title", "t")], parent := some 1,
            children := [5] },
          { data := .text "c", parent := some 4 } ] := by
  intro page
  have hp : 1 < page.size := by decide
  have hattributes : Entries.lastOfEach [("id", "x"), ("title", "t"), ("id", "y")] =
      [("id", "y"), ("title", "t")] := by decide
  have hname : Text.lowerAscii "P" = "p" := by decide
  have hsize : page.size = 2 := by decide
  have hcopies := (copies_are_exact hp mixedForest).1
  have hanswer := hcopies.answer
  have hnodes := hcopies.nodes
  rw [hsize] at hanswer hnodes
  refine ⟨hp, ?_, ?_⟩
  · rw [hanswer]
    simp [mixedForest, kept, roots, Tree.size_text]
  · rw [hanswer]
    simpa [mixedForest, kept, nodesOf, roots, forestSize, Tree.size_text, hattributes, hname]
      using hnodes

end Document

end LiveText
