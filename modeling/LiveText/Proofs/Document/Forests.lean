import Mathlib
import LiveText.Document.Writer
import LiveText.Proofs.Document.Edits
import LiveText.Proofs.Document.Visits
import LiveText.Proofs.Markup.Growth

/-!
# Forests in documents

A document whose links agree shows a forest under its root in one way only, whatever the numbers of
its nodes are and whatever else there is: its markup and its text are those of the forest, and its
elements in document order are those of the forest in order. A query picks among these by what they
are, so that two documents with the same elements answer every query with corresponding ones. Links
that agree can form a cycle, but not around a forest, so that a forest has no more nodes than the
document and every traversal gets to its end.

## Main definitions

- `Document.Holds`: nodes and what is below them make up a forest.
- `Document.Shows`: a document shows a forest under its root.
- `Document.elements`: the elements of a document in document order.

## Main statements

- `markup_of_shows`, `textContent_of_shows`, `elements_of_shows`: what a document tells of the
  forest that it shows.
- `visit_children_root`: a query looks at the nodes in document order.
- `exists_correspondence`: corresponding elements are found by every query.
-/

namespace LiveText.Document

open Markup

variable {d d' : Document}

/-! ## Forests below nodes -/

/-- Nodes make up a forest, each with what is below it. Below a text there is nothing. -/
inductive Holds (d : Document) : List NodeId → List Tree → Prop where
  | nil : Holds d [] []
  | text {i : NodeId} {is : List NodeId} {s : String} {ts : List Tree}
      (hdata : d.data i = .text s) (hleaf : d.children i = []) (h : Holds d is ts) :
      Holds d (i :: is) (.text s :: ts)
  | element {i : NodeId} {is : List NodeId} {name : String} {attributes : Entries String}
      {children ts : List Tree} (hdata : d.data i = .element name attributes)
      (hinside : Holds d (d.children i) children) (h : Holds d is ts) :
      Holds d (i :: is) (.element name attributes children :: ts)

/-- A document shows a forest under its root. -/
structure Shows (d : Document) (ts : List Tree) : Prop where
  root : d.data root = .fragment
  holds : d.Holds (d.children Document.root) ts

/-- Without nodes there is no forest. -/
theorem Shows.eq_nil {ts : List Tree} (h : d.Shows ts) (hsize : d.size = 0) : ts = [] := by
  have hholds := h.holds
  rw [children_of_le (by rw [hsize]; exact Nat.zero_le _)] at hholds
  cases hholds
  rfl

/-! ## Numbers of nodes -/

/-- As many nodes are met as the forest has. -/
theorem length_of_holds {is : List NodeId} {ts : List Tree} (h : d.Holds is ts) {depth : Nat}
    (hdepth : forestSize ts ≤ depth) :
    (is.flatMap (d.preorderTo depth)).length = forestSize ts := by
  induction h generalizing depth with
  | nil => rfl
  | @text i is s ts hdata hleaf h ih =>
    obtain ⟨levels, rfl, hothers⟩ := exists_levels_of_text hdepth
    rw [List.flatMap_cons, List.length_append, ih (Nat.le_succ_of_le hothers), preorderTo, hleaf]
    rfl
  | @element i is name attributes children ts hdata hinside h ihinside ih =>
    obtain ⟨levels, rfl, hcontent, hothers⟩ := exists_levels_of_element hdepth
    rw [List.flatMap_cons, List.length_append, ih (by omega : forestSize ts ≤ levels + 1),
      preorderTo, List.length_cons, ihinside hcontent]
    rfl

/-- Nothing in a forest is a fragment. -/
theorem data_ne_fragment_of_holds (hlinked : d.Linked) {is : List NodeId} {ts : List Tree}
    (h : d.Holds is ts) {i : NodeId} (hi : i ∈ is) {j : NodeId} (hj : j = i ∨ d.Above i j) :
    d.data j ≠ .fragment := by
  induction h generalizing i with
  | nil => cases hi
  | text hdata hleaf h ih =>
    obtain rfl | hi := List.mem_cons.mp hi
    · obtain rfl | hj := hj
      · rw [hdata]
        exact NodeData.noConfusion
      · exact absurd hj (hlinked.not_above_of_leaf hleaf j)
    · exact ih hi hj
  | element hdata hinside h ihinside ih =>
    obtain rfl | hi := List.mem_cons.mp hi
    · obtain rfl | hj := hj
      · rw [hdata]
        exact NodeData.noConfusion
      · obtain ⟨c, hc, hj⟩ := (above_iff_exists_child hlinked).mp hj
        exact ihinside hc hj
    · exact ih hi hj

namespace Shows

variable {ts : List Tree} (hlinked : d.Linked) (h : d.Shows ts)

include hlinked h

/-- Around a forest there is no cycle, for it would lead through the root. -/
theorem not_above_root : ¬ d.Above Document.root Document.root := by
  intro hroot
  obtain ⟨c, hc, hbelow⟩ := (above_iff_exists_child hlinked).mp hroot
  exact data_ne_fragment_of_holds hlinked h.holds hc hbelow h.root

/-- A forest has fewer nodes than the document, which has its root besides. -/
theorem forestSize_lt_size (hsize : d.size ≠ 0) : forestSize ts < d.size := by
  -- A traversal that goes down far enough meets the root and the whole forest, nothing twice.
  have hle := length_preorderTo_le hlinked (forestSize ts + 1) (h.not_above_root hlinked)
    (Nat.pos_of_ne_zero hsize)
  rw [preorderTo, List.length_cons, length_of_holds h.holds (Nat.le_refl _)] at hle
  exact hle

end Shows

/-! ## Markup and text -/

/-- Plain elements are written with an end tag, and their texts with references. -/
theorem writeTo_of_holds {is : List NodeId} {ts : List Tree} (h : d.Holds is ts) (hplain : Plain ts)
    {depth : Nat} (hdepth : forestSize ts ≤ depth) {enclosing : Option String}
    (henclosing : ∀ tag ∈ enclosing, tag ∈ plainTags) :
    is.flatMap (d.writeTo depth enclosing false) = writeForest ts := by
  have htags : ∀ tag ∈ plainTags, voidTags.contains tag = false ∧
      rawTextTags.contains tag = false := by
    decide
  induction h generalizing depth enclosing with
  | nil => rw [List.flatMap_nil, writeForest]
  | @text i is s ts hdata hleaf h ih =>
    obtain ⟨levels, rfl, hlevels⟩ := exists_levels_of_text hdepth
    rw [Plain] at hplain
    have hothers := ih hplain.2 (Nat.le_succ_of_le hlevels) henclosing
    have hwrite : writeText enclosing s = s.toList.flatMap escapeText := by
      cases enclosing with
      | none => rfl
      | some tag => rw [writeText, (htags tag (henclosing tag rfl)).2, if_neg Bool.false_ne_true]
    rw [List.flatMap_cons, hothers, writeTo, hdata, writeForest]
    exact congrArg (· ++ writeForest ts) hwrite
  | @element i is name attributes children ts hdata hinside h ihinside ih =>
    obtain ⟨levels, rfl, hinner, houter⟩ := exists_levels_of_element hdepth
    rw [Plain] at hplain
    obtain ⟨⟨hname, -, hchildren⟩, hts⟩ := hplain
    have hothers := ih hts (by omega : forestSize ts ≤ levels + 1) henclosing
    have hcontent : (d.children i).flatMap (d.writeTo levels (some name) false) =
        writeForest children :=
      ihinside hchildren hinner (by rintro tag ⟨⟩; exact hname)
    rw [List.flatMap_cons, hothers, writeTo, hdata]
    simp only [if_neg Bool.false_ne_true, (htags name hname).1, hcontent]
    rw [writeForest, List.append_assoc, List.append_assoc]

/-- The markup of a document is that of the forest that it shows. -/
theorem markup_of_shows {ts : List Tree} (hlinked : d.Linked) (h : d.Shows ts)
    (hplain : Plain ts) : d.markup root = String.ofList (writeForest ts) := by
  rw [markup]
  congr 1
  cases hsize : d.size with
  | zero => rw [h.eq_nil hsize, writeTo, writeForest]
  | succ levels =>
    have hlevels : forestSize ts ≤ levels := by
      have hlt := h.forestSize_lt_size hlinked (by omega)
      omega
    rw [writeTo, h.root]
    exact writeTo_of_holds h.holds hplain hlevels (by simp)

theorem textContentTo_of_holds {is : List NodeId} {ts : List Tree} (h : d.Holds is ts) {depth : Nat}
    (hdepth : forestSize ts ≤ depth) :
    String.join (is.map (d.textContentTo depth)) = textOf ts := by
  induction h generalizing depth with
  | nil => rw [textOf]; rfl
  | text hdata hleaf h ih =>
    obtain ⟨levels, rfl, hothers⟩ := exists_levels_of_text hdepth
    rw [List.map_cons, String.join_cons, ih (Nat.le_succ_of_le hothers), textContentTo, hdata,
      textOf]
  | element hdata hinside h ihinside ih =>
    obtain ⟨levels, rfl, hcontent, hothers⟩ := exists_levels_of_element hdepth
    rw [List.map_cons, String.join_cons, ih (by omega), textContentTo, hdata, textOf]
    simp only
    rw [ihinside hcontent]

/-- The text of a document is that of the forest that it shows. -/
theorem textContent_of_shows {ts : List Tree} (hlinked : d.Linked) (h : d.Shows ts) :
    d.textContent root = textOf ts := by
  rw [textContent]
  cases hsize : d.size with
  | zero => rw [h.eq_nil hsize, textContentTo, text, h.root, textOf]
  | succ levels =>
    have hlevels : forestSize ts ≤ levels := by
      have hlt := h.forestSize_lt_size hlinked (by omega)
      omega
    rw [textContentTo, h.root]
    exact textContentTo_of_holds h.holds hlevels

/-! ## Elements -/

/-- The elements of a document in document order. -/
def elements (d : Document) : List NodeId :=
  (d.nodesBelow root).filter fun i => (d.data i).kind == .element

theorem elements_of_holds {is : List NodeId} {ts : List Tree} (h : d.Holds is ts) {depth : Nat}
    (hdepth : forestSize ts ≤ depth) :
    ((is.flatMap (d.preorderTo depth)).filter fun i => (d.data i).kind == .element).map d.data =
      elementsOf ts := by
  induction h generalizing depth with
  | nil => rw [elementsOf]; rfl
  | text hdata hleaf h ih =>
    obtain ⟨levels, rfl, hothers⟩ := exists_levels_of_text hdepth
    rw [List.flatMap_cons, List.filter_append, List.map_append, ih (Nat.le_succ_of_le hothers),
      preorderTo, hleaf, elementsOf]
    simp [hdata, NodeData.kind]
  | element hdata hinside h ihinside ih =>
    obtain ⟨levels, rfl, hcontent, hothers⟩ := exists_levels_of_element hdepth
    rw [List.flatMap_cons, List.filter_append, List.map_append, ih (by omega), preorderTo,
      List.filter_cons_of_pos (by simp [hdata, NodeData.kind]), List.map_cons,
      ihinside hcontent, hdata, elementsOf, List.cons_append]

/-- The nodes of the forest that a document shows are met in document order, one level below the
root, by a traversal that goes down far enough. -/
theorem exists_nodesBelow_eq {ts : List Tree} (hlinked : d.Linked) (h : d.Shows ts) :
    ∃ depth, forestSize ts ≤ depth ∧
      d.nodesBelow root = (d.children root).flatMap (d.preorderTo depth) := by
  rw [nodesBelow, preorder]
  cases hsize : d.size with
  | zero =>
    refine ⟨0, by rw [h.eq_nil hsize]; exact Nat.le_refl _, ?_⟩
    rw [children_of_le (by rw [hsize]; exact Nat.zero_le _)]
    rfl
  | succ levels =>
    have hlt := h.forestSize_lt_size hlinked (by omega)
    exact ⟨levels, by omega, rfl⟩

/-- The elements of a document are those of the forest that it shows. -/
theorem elements_of_shows {ts : List Tree} (hlinked : d.Linked) (h : d.Shows ts) :
    d.elements.map d.data = elementsOf ts := by
  obtain ⟨depth, hdepth, hbelow⟩ := exists_nodesBelow_eq hlinked h
  rw [elements, hbelow]
  exact elements_of_holds h.holds hdepth

/-! ## Queries -/

/-- The nodes that a query looks at are those below the root, in document order. -/
theorem visit_children_root {ts : List Tree} (hlinked : d.Linked) (h : d.Shows ts) :
    d.visit (d.children root) = d.nodesBelow root :=
  visit_children hlinked (h.not_above_root hlinked)

/-- A query picks among the elements by what they are. -/
theorem queryAll_eq {ts : List Tree} (hlinked : d.Linked) (h : d.Shows ts) (selector : String) :
    d.queryAll selector =
      match Selector.parse selector with
      | some s => d.elements.filter fun i => s.accepts (d.data i)
      | none => [] := by
  rw [queryAll]
  cases Selector.parse selector with
  | none => rfl
  | some s =>
    simp only
    rw [visit_children_root hlinked h, elements, List.filter_filter]
    refine List.filter_congr fun i _ => ?_
    -- Nothing but elements is accepted.
    cases hdata : d.data i with
    | element tag attributes => simp [NodeData.kind]
    | text s => rfl
    | fragment => rfl

/-- Of two lists of the same length, the first without repetitions, the second comes of the first by
one function. -/
theorem exists_map_eq {α β : Type} [DecidableEq α] [Inhabited β] {xs : List α} {ys : List β}
    (hnodup : xs.Nodup) (hlength : ys.length = xs.length) : ∃ f : α → β, ys = xs.map f := by
  refine ⟨fun x => ys.getD (xs.idxOf x) default, List.ext_getElem (by simp [hlength]) ?_⟩
  intro k hk hk'
  have hkx : k < xs.length := hlength ▸ hk
  rw [List.getElem_map, hnodup.idxOf_getElem k hkx]
  simp [hk]

/-- Two documents that show forests with the same elements in the same order: corresponding elements
are found by every query, in the same order. -/
theorem exists_correspondence {ts ts' : List Tree} (hlinked : d.Linked) (h : d.Shows ts)
    (hlinked' : d'.Linked) (h' : d'.Shows ts') (hsame : elementsOf ts' = elementsOf ts) :
    ∃ f : NodeId → NodeId, d'.elements = d.elements.map f ∧
      (∀ i ∈ d.elements, d'.data (f i) = d.data i) ∧
      ∀ selector, d'.queryAll selector = (d.queryAll selector).map f := by
  have hmap : d'.elements.map d'.data = d.elements.map d.data := by
    rw [elements_of_shows hlinked' h', elements_of_shows hlinked h, hsame]
  have hnodup : d.elements.Nodup :=
    (nodup_preorderTo hlinked d.size (h.not_above_root hlinked)).tail.filter _
  obtain ⟨f, hf⟩ := exists_map_eq hnodup (by simpa using congrArg List.length hmap)
  -- Since the lists agree element by element, so do the elements that correspond.
  have hdata : ∀ i ∈ d.elements, d'.data (f i) = d.data i := by
    rw [hf, List.map_map] at hmap
    exact List.map_inj_left.mp hmap
  refine ⟨f, hf, hdata, fun selector => ?_⟩
  rw [queryAll_eq hlinked' h', queryAll_eq hlinked h]
  cases Selector.parse selector with
  | none => rfl
  | some s =>
    simp only
    rw [hf, List.filter_map]
    congr 1
    refine List.filter_congr fun i hi => ?_
    rw [Function.comp_apply, hdata i hi]

end LiveText.Document
