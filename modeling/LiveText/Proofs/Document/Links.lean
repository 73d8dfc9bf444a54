import Mathlib
import LiveText.Proofs.Document.Texts

/-!
# Links of a document

What the moves do to the links between nodes. Each link is kept twice, in the parent of a node and
in the list of children above it, and a move has to change both. What a node is stays untouched.

## Main definitions

- `Document.Moved`: all children of one node have gone to the end of another's.

## Main statements

- `children_append`, `parent?_append`: one node that is moved.
- `moved_moveChildren`: all children of a node that are moved one after the other.
- `restored`: moving them to a new fragment and back restores every link.
- `linked_iff`: whether links agree can be found out node by node.
-/

namespace LiveText.Document

/-! ## Nodes -/

theorem node?_update (d : Document) (i : NodeId) (f : Node → Node) (j : NodeId) :
    (d.update i f).node? j = if i = j then (d.node? j).map f else d.node? j := by
  simp only [node?, update, Array.getElem?_modify]

@[simp] theorem size_update (d : Document) (i : NodeId) (f : Node → Node) :
    (d.update i f).size = d.size :=
  Array.size_modify

theorem children_eq (d : Document) (i : NodeId) :
    d.children i = ((d.node? i).map Node.children).getD [] := by
  rw [children]
  cases d.node? i <;> rfl

theorem parent?_eq (d : Document) (i : NodeId) :
    d.parent? i = (d.node? i).bind Node.parent := rfl

theorem data_eq (d : Document) (i : NodeId) :
    d.data i = ((d.node? i).map Node.data).getD .fragment := by
  rw [data]
  cases d.node? i <;> rfl

theorem node?_eq_none_of_le {d : Document} {i : NodeId} (h : d.size ≤ i) : d.node? i = none :=
  Array.getElem?_eq_none h

theorem node?_isSome_of_lt {d : Document} {i : NodeId} (h : i < d.size) :
    ∃ n, d.node? i = some n :=
  ⟨_, Array.getElem?_eq_getElem h⟩

/-- A node that there is, by its parts. -/
theorem node?_of_lt {d : Document} {i : NodeId} (h : i < d.size) :
    d.node? i = some ⟨d.data i, d.parent? i, d.children i⟩ := by
  obtain ⟨n, hn⟩ := node?_isSome_of_lt h
  rw [data_eq, parent?_eq, children_eq, hn]
  rfl

/-- A node that is no fragment is one that there is. -/
theorem lt_size_of_data {d : Document} {i : NodeId} (h : d.data i ≠ .fragment) : i < d.size := by
  by_contra hout
  rw [data_eq, node?_eq_none_of_le (Nat.le_of_not_lt hout)] at h
  exact h rfl

theorem ext_node? {d d' : Document} (h : ∀ i, d'.node? i = d.node? i) : d' = d := by
  obtain ⟨nodes⟩ := d
  obtain ⟨nodes'⟩ := d'
  exact congrArg Document.mk (Array.ext_getElem? h)

/-- Documents with nodes at the same numbers have equally many. -/
theorem size_eq_of_node? {d d' : Document}
    (h : ∀ i, (d'.node? i).isSome = (d.node? i).isSome) : d'.size = d.size := by
  have hiff : ∀ i, d'.size ≤ i ↔ d.size ≤ i := by
    intro i
    have hnone : ∀ d : Document, d.size ≤ i ↔ (d.node? i).isSome = false := by
      intro d
      rw [Option.isSome_eq_false_iff, Option.isNone_iff_eq_none]
      exact Array.getElem?_eq_none_iff.symm
    rw [hnone, hnone, h]
  exact le_antisymm ((hiff _).mpr le_rfl) ((hiff _).mp le_rfl)

/-- Numbers that no node has yet are without children. -/
theorem children_of_le {d : Document} {i : NodeId} (h : d.size ≤ i) : d.children i = [] := by
  rw [children_eq, node?_eq_none_of_le h]
  rfl

/-- A node with a parent is one that there is. -/
theorem lt_size_of_parent? {d : Document} {i p : NodeId} (h : d.parent? i = some p) :
    i < d.size := by
  by_contra hout
  rw [parent?_eq, node?_eq_none_of_le (Nat.le_of_not_lt hout)] at h
  cases h

/-- A node with a child is one that there is. -/
theorem lt_size_of_mem_children {d : Document} {c i : NodeId} (h : c ∈ d.children i) :
    i < d.size := by
  by_contra hout
  rw [children_of_le (Nat.le_of_not_lt hout)] at h
  cases h

/-! ## Detaching -/

/-- A node that is detached is struck from the list above it, and forgets its parent. -/
theorem node?_detach {d : Document} {i p : NodeId} (h : d.parent? i = some p) (j : NodeId) :
    (d.detach i).node? j = (d.node? j).map fun n =>
      { n with
        parent := if j = i then none else n.parent
        children := if j = p then n.children.filter (· ≠ i) else n.children } := by
  simp only [detach, h, node?_update]
  -- The node itself, its parent, or neither.
  by_cases hi : i = j
  · subst hi
    by_cases hp : p = i
    · simp [hp, Option.map_map, Function.comp_def]
    · simp [hp, Ne.symm hp]
  · by_cases hp : p = j
    · simp [hp, hi, Ne.symm hi]
    · simp [hi, hp, Ne.symm hi, Ne.symm hp]

theorem children_detach {d : Document} {i p : NodeId} (h : d.parent? i = some p) (j : NodeId) :
    (d.detach i).children j =
      if j = p then (d.children j).filter (· ≠ i) else d.children j := by
  rw [children_eq, node?_detach h, children_eq]
  cases d.node? j with
  | none => simp
  | some n => simp

theorem detach_of_parentless {d : Document} {i : NodeId} (h : d.parent? i = none) :
    d.detach i = d := by
  rw [detach, h]

theorem parent?_detach (d : Document) (i j : NodeId) :
    (d.detach i).parent? j = if j = i then none else d.parent? j := by
  cases hi : d.parent? i with
  | none =>
    rw [detach_of_parentless hi]
    split
    · next hj => rw [hj, hi]
    · rfl
  | some p =>
    rw [parent?_eq, node?_detach hi, parent?_eq]
    cases d.node? j with
    | none => simp
    | some n => simp

theorem data_detach (d : Document) (i j : NodeId) : (d.detach i).data j = d.data j := by
  cases hi : d.parent? i with
  | none => rw [detach_of_parentless hi]
  | some p =>
    rw [data_eq, node?_detach hi, data_eq]
    cases d.node? j <;> rfl

@[simp] theorem size_detach (d : Document) (i : NodeId) : (d.detach i).size = d.size := by
  rw [detach]
  split
  · simp only [size_update]
  · rfl

/-! ## Appending -/

/-- A node that is appended is detached first, also from the node to which it goes. -/
theorem node?_append (d : Document) (target c : NodeId) (j : NodeId) :
    (d.append target c).node? j = ((d.detach c).node? j).map fun n =>
      { n with
        parent := if j = c then some target else n.parent
        children := if j = target then n.children ++ [c] else n.children } := by
  simp only [append, node?_update]
  by_cases hc : c = j
  · subst hc
    by_cases ht : target = c
    · simp [ht, Option.map_map, Function.comp_def]
    · simp [ht, Ne.symm ht]
  · by_cases ht : target = j
    · simp [ht, hc, Ne.symm hc]
    · simp [hc, ht, Ne.symm hc, Ne.symm ht]

@[simp] theorem size_append (d : Document) (target c : NodeId) :
    (d.append target c).size = d.size := by
  simp only [append, size_update, size_detach]

theorem children_append_detach {d : Document} {target : NodeId} (ht : target < d.size)
    (c j : NodeId) : (d.append target c).children j =
      (d.detach c).children j ++ if j = target then [c] else [] := by
  rw [children_eq, node?_append, children_eq]
  cases hj : (d.detach c).node? j with
  | none =>
    -- The target is a node that there is.
    have hne : j ≠ target := by
      rintro rfl
      obtain ⟨n, hn⟩ := node?_isSome_of_lt (d := d.detach c) (by rwa [size_detach])
      cases hj.symm.trans hn
    simp [hne]
  | some n =>
    by_cases hjt : j = target
    · simp [hjt]
    · simp [hjt]

theorem children_append {d : Document} {target c p : NodeId} (h : d.parent? c = some p)
    (ht : target < d.size) (j : NodeId) :
    (d.append target c).children j =
      (if j = p then (d.children j).filter (· ≠ c) else d.children j) ++
        if j = target then [c] else [] := by
  rw [children_append_detach ht, children_detach h]

theorem parent?_append {d : Document} {c : NodeId} (hc : c < d.size) (target j : NodeId) :
    (d.append target c).parent? j = if j = c then some target else d.parent? j := by
  have hdetached := d.parent?_detach c j
  rw [parent?_eq, node?_append]
  by_cases hjc : j = c
  · obtain ⟨n, hn⟩ := node?_isSome_of_lt (d := d.detach c) (by rwa [size_detach])
    simp [hjc, hn]
  · rw [if_neg hjc] at hdetached ⊢
    rw [← hdetached, parent?_eq]
    cases (d.detach c).node? j with
    | none => rfl
    | some n => simp [hjc]

theorem data_append (d : Document) (target c j : NodeId) :
    (d.append target c).data j = d.data j := by
  rw [← d.data_detach c j, data_eq, node?_append, data_eq]
  cases (d.detach c).node? j <;> rfl

/-! ## Moving all children -/

/-- All children of one node have gone to the end of another's, in their order. -/
structure Moved (d d' : Document) (source target : NodeId) : Prop where
  size : d'.size = d.size
  children : ∀ j, d'.children j =
    if j = source then []
    else d.children j ++ if j = target then d.children source else []
  parent? : ∀ j, d'.parent? j = if j ∈ d.children source then some target else d.parent? j
  data : ∀ j, d'.data j = d.data j

/-- Moving nothing changes nothing. -/
theorem moveChildren_of_nil {d : Document} {source : NodeId} (h : d.children source = [])
    (target : NodeId) : d.moveChildren source target = d := by
  rw [moveChildren, h]
  rfl

theorem moved_of_nil {d : Document} {source : NodeId} (h : d.children source = [])
    (target : NodeId) : Moved d (d.moveChildren source target) source target := by
  rw [moveChildren_of_nil h]
  refine ⟨rfl, fun j => ?_, fun j => by simp [h], fun _ => rfl⟩
  by_cases hj : j = source
  · simp [hj, h]
  · simp [hj, h]

/-- Moving all children of a node, if these know their parent and are listed once each. -/
theorem moved_moveChildren {d : Document} {source target : NodeId} (hne : source ≠ target)
    (ht : target < d.size) (hparent : ∀ c ∈ d.children source, d.parent? c = some source)
    (hnodup : (d.children source).Nodup) :
    Moved d (d.moveChildren source target) source target := by
  rw [moveChildren]
  -- On the children that are still to be moved: they are all that the source has left.
  generalize hcs : d.children source = cs at hparent hnodup ⊢
  induction cs generalizing d with
  | nil =>
    have hmoved := moved_of_nil hcs target
    rwa [moveChildren_of_nil hcs] at hmoved
  | cons c rest ih =>
    have hc : d.parent? c = some source := hparent c (List.mem_cons_self ..)
    rw [List.nodup_cons] at hnodup
    have hchildren := children_append hc ht
    have hparents := parent?_append (lt_size_of_parent? hc) target
    have hleft : (d.append target c).children source = rest := by
      rw [hchildren, if_pos rfl, if_neg hne, hcs, List.append_nil]
      rw [List.filter_cons_of_neg (by simp)]
      refine List.filter_eq_self.mpr fun x hx => decide_eq_true ?_
      rintro rfl
      exact hnodup.1 hx
    have hrest : ∀ x ∈ rest, (d.append target c).parent? x = some source := by
      intro x hx
      have hxc : x ≠ c := by
        rintro rfl
        exact hnodup.1 hx
      rw [hparents, if_neg hxc]
      exact hparent x (List.mem_cons_of_mem _ hx)
    have hmoved := ih (by rwa [size_append]) hleft hrest hnodup.2
    rw [List.foldl_cons]
    refine ⟨hmoved.size.trans (size_append ..), fun j => ?children, fun j => ?parent?,
      fun j => (hmoved.data j).trans (d.data_append target c j)⟩
    case children =>
      rw [hmoved.children, hleft, hchildren, hcs]
      by_cases hj : j = source
      · simp [hj]
      · by_cases hjt : j = target
        · simp [hjt, Ne.symm hne]
        · simp [hj, hjt]
    case parent? =>
      rw [hmoved.parent?, hleft, hparents, hcs]
      by_cases hjc : j = c
      · simp [hjc]
      · simp [hjc]

/-! ## There and back -/

/-- There and back: if nobody has touched the links meanwhile, and the target had no children, all
links are as they were. -/
theorem Moved.back {d d₁ d₂ d₃ : Document} {source target : NodeId}
    (h : Moved d d₁ source target) (hback : Moved d₂ d₃ target source)
    (hne : source ≠ target) (hempty : d.children target = [])
    (hparent : ∀ c ∈ d.children source, d.parent? c = some source)
    (hlinks : ∀ j, d₂.children j = d₁.children j ∧ d₂.parent? j = d₁.parent? j) (j : NodeId) :
    d₃.children j = d.children j ∧ d₃.parent? j = d.parent? j := by
  -- What the target holds in between is what the source held.
  have hbetween : d₂.children target = d.children source := by
    rw [(hlinks target).1, h.children, if_neg hne.symm, if_pos rfl, hempty, List.nil_append]
  constructor
  · rw [hback.children, hbetween, (hlinks j).1, h.children]
    by_cases hjt : j = target
    · simp [hjt, hempty]
    · by_cases hjs : j = source
      · simp [hjs, hne]
      · simp [hjs, hjt]
  · rw [hback.parent?, hbetween, (hlinks j).2, h.parent?]
    split
    · next hj => exact (hparent j hj).symm
    · rfl

theorem node?_create (d : Document) (data : NodeData) (j : NodeId) :
    (d.create data).2.node? j = if j = d.size then some { data } else d.node? j := by
  simp only [create, node?, Array.getElem?_push]
  rfl

@[simp] theorem size_create (d : Document) (data : NodeData) :
    (d.create data).2.size = d.size + 1 :=
  Array.size_push _

/-- A new node has as few links as a number that no node has. -/
theorem links_create (d : Document) (data : NodeData) (j : NodeId) :
    (d.create data).2.children j = d.children j ∧ (d.create data).2.parent? j = d.parent? j := by
  simp only [children_eq, parent?_eq, node?_create]
  by_cases hj : j = d.size
  · simp [hj, node?_eq_none_of_le (Nat.le_refl d.size)]
  · simp [hj]

theorem data_create (d : Document) (data : NodeData) (j : NodeId) :
    (d.create data).2.data j = if j = d.size then data else d.data j := by
  simp only [data_eq, node?_create]
  by_cases hj : j = d.size
  · simp [hj]
  · simp [hj]

@[simp] theorem size_createFragment (d : Document) : d.createFragment.2.size = d.size + 1 :=
  d.size_create .fragment

/-- A new fragment is as empty as a number that no node has. -/
theorem links_createFragment (d : Document) (j : NodeId) :
    d.createFragment.2.children j = d.children j ∧
      d.createFragment.2.parent? j = d.parent? j ∧ d.createFragment.2.data j = d.data j := by
  obtain ⟨hchildren, hparent⟩ := d.links_create .fragment j
  refine ⟨hchildren, hparent, (d.data_create .fragment j).trans ?_⟩
  split
  · next hj => rw [hj, data_eq, node?_eq_none_of_le (Nat.le_refl d.size), Option.map_none,
      Option.getD_none]
  · rfl

/-- The children of a node have gone to a new fragment, if it has any. -/
theorem moved_createFragment {d : Document} (hlinked : d.Linked) (i : NodeId) :
    Moved d.createFragment.2 (d.createFragment.2.moveChildren i d.size) i d.size := by
  obtain ⟨hchildren, -, -⟩ := d.links_createFragment i
  by_cases hi : i < d.size
  · apply moved_moveChildren hi.ne
    · rw [size_createFragment]
      exact Nat.lt_succ_self _
    · intro c hc
      rw [hchildren] at hc
      rw [(d.links_createFragment c).2.1]
      exact (hlinked.child_iff c i).mp hc
    · rw [hchildren]
      exact hlinked.nodup i
  · exact moved_of_nil (hchildren.trans (children_of_le (Nat.le_of_not_lt hi))) _

/-- The children of a node go to a new fragment and back, and in between no links are touched: then
all links are as before, and nothing is below the fragment. -/
theorem restored {d d₂ : Document} (hlinked : d.Linked) (i : NodeId)
    (hsize : d₂.size = d.size + 1)
    (hlinks : ∀ j, d₂.children j = (d.createFragment.2.moveChildren i d.size).children j ∧
      d₂.parent? j = (d.createFragment.2.moveChildren i d.size).parent? j) (j : NodeId) :
    (d₂.moveChildren d.size i).size = d.size + 1 ∧
      (d₂.moveChildren d.size i).children j = d.children j ∧
      (d₂.moveChildren d.size i).parent? j = d.parent? j ∧
      (d₂.moveChildren d.size i).data j = d₂.data j := by
  have hfragment := d.links_createFragment
  by_cases hi : i < d.size
  · have hthere := moved_createFragment hlinked i
    have hempty : d.createFragment.2.children d.size = [] := by
      rw [(hfragment d.size).1]
      exact children_of_le (Nat.le_refl _)
    have hparent : ∀ c ∈ d.createFragment.2.children i,
        d.createFragment.2.parent? c = some i := by
      intro c hc
      rw [(hfragment i).1] at hc
      rw [(hfragment c).2.1]
      exact (hlinked.child_iff c i).mp hc
    -- In between the fragment has the children, and they know it.
    have hbetween : d₂.children d.size = d.children i := by
      rw [(hlinks _).1, hthere.children, if_neg hi.ne', if_pos rfl, hempty, List.nil_append]
      exact (hfragment i).1
    have hback : Moved d₂ (d₂.moveChildren d.size i) d.size i := by
      apply moved_moveChildren hi.ne'
      · rw [hsize]
        exact Nat.lt_succ_of_lt hi
      · intro c hc
        rw [hbetween, ← (hfragment i).1] at hc
        rw [(hlinks c).2, hthere.parent?, if_pos hc]
      · rw [hbetween]
        exact hlinked.nodup i
    obtain ⟨hchildren, hparents⟩ := hthere.back hback hi.ne hempty hparent hlinks j
    rw [(hfragment j).1] at hchildren
    rw [(hfragment j).2.1] at hparents
    exact ⟨hback.size.trans hsize, hchildren, hparents, hback.data j⟩
  · -- A number that no node has is without children, so that nothing is moved.
    have hnone : d.children i = [] := children_of_le (Nat.le_of_not_lt hi)
    have hthere : d.createFragment.2.moveChildren i d.size = d.createFragment.2 :=
      moveChildren_of_nil ((hfragment i).1.trans hnone) _
    rw [hthere] at hlinks
    have hback : d₂.moveChildren d.size i = d₂ := by
      apply moveChildren_of_nil
      rw [(hlinks _).1, (hfragment _).1]
      exact children_of_le (Nat.le_refl _)
    rw [hback, (hlinks j).1, (hlinks j).2, (hfragment j).1, (hfragment j).2.1]
    exact ⟨hsize, rfl, rfl, rfl⟩

end LiveText.Document

namespace LiveText

/-! ## Deciding whether links agree -/

/-- The tag of an element is in small letters, and its attribute names are distinct. -/
def NodeData.Tidy : NodeData → Prop
  | .element tag attributes => Text.lowerAscii tag = tag ∧ (Entries.keys attributes).Nodup
  | .text _ | .fragment => True

instance : DecidablePred NodeData.Tidy
  | .element _ _ => inferInstanceAs (Decidable (_ ∧ _))
  | .text _ => .isTrue trivial
  | .fragment => .isTrue trivial

namespace Document

/-- What every node of a document with links that agree is. -/
theorem Linked.tidy {d : Document} (h : d.Linked) (i : NodeId) : (d.data i).Tidy := by
  cases hdata : d.data i with
  | element tag attributes =>
    exact ⟨h.tag_lower i tag attributes hdata, h.attributes_nodup i tag attributes hdata⟩
  | text s => trivial
  | fragment => trivial

theorem linked_of_tidy {d : Document} (hlinks : ∀ c p, c ∈ d.children p ↔ d.parent? c = some p)
    (hnodup : ∀ p, (d.children p).Nodup) (htidy : ∀ i, (d.data i).Tidy) : d.Linked := by
  refine ⟨hlinks, hnodup, fun i tag attributes hi => ?_, fun i tag attributes hi => ?_⟩
  · have hdata := htidy i
    rw [hi] at hdata
    exact hdata.1
  · have hdata := htidy i
    rw [hi] at hdata
    exact hdata.2

/-- Links agree everywhere if they do so at the nodes that there are. -/
theorem linked_iff {d : Document} : d.Linked ↔
    (∀ p, p < d.size → (d.children p).Nodup ∧ ∀ c ∈ d.children p, d.parent? c = some p) ∧
    ∀ c, c < d.size → (∀ p ∈ d.parent? c, c ∈ d.children p) ∧ (d.data c).Tidy := by
  constructor
  · intro h
    refine ⟨fun p _ => ⟨h.nodup p, fun c hc => (h.child_iff c p).mp hc⟩, fun c _ => ⟨?_, h.tidy c⟩⟩
    exact fun p hp => (h.child_iff c p).mpr hp
  · rintro ⟨hdown, hup⟩
    refine linked_of_tidy (fun c p => ⟨fun hc => ?_, fun hp => ?_⟩) (fun p => ?_) fun i => ?_
    · exact (hdown p (lt_size_of_mem_children hc)).2 c hc
    · exact (hup c (lt_size_of_parent? hp)).1 p hp
    · by_cases hp : p < d.size
      · exact (hdown p hp).1
      · rw [children_of_le (Nat.le_of_not_lt hp)]
        exact List.nodup_nil
    · -- Numbers that no node has are fragments without parent and children.
      by_cases hi : i < d.size
      · exact (hup i hi).2
      · rw [data_eq, node?_eq_none_of_le (Nat.le_of_not_lt hi)]
        trivial

instance (d : Document) : Decidable d.Linked :=
  decidable_of_iff _ linked_iff.symm

/-- Links that only lead to earlier nodes form no cycle. -/
theorem acyclic_of_parent_lt {d : Document}
    (h : ∀ i, i < d.size → ∀ p ∈ d.parent? i, p < i) : d.Acyclic := by
  have hlt : ∀ a i, d.Above a i → a < i := by
    intro a i ha
    induction ha with
    | parent hp => exact h _ (lt_size_of_parent? hp) _ hp
    | step hp _ ih => exact ih.trans (h _ (lt_size_of_parent? hp) _ hp)
  exact fun i hi => (hlt i i hi).ne rfl

end Document

end LiveText
