import Mathlib
import LiveText.Document.Traversal
import LiveText.Proofs.Document.Links

/-!
# Document order

In a document whose links agree and form no cycle, the recursive traversal from a node meets the
node and all those below it, each of them once. The bound on its depth is no restriction: a node
has fewer nodes above it than there are nodes, and each level down adds one.

## Main definitions

- `Document.nodesBelow`: the nodes strictly below a node, in document order.
- `Document.rank`: how many nodes lie above a node.
- `Document.TextsAreLeaves`: only elements and fragments have children.
- `Document.WalksTo`: the texts that a walk from a node comes to.

## Main statements

- `nodesBelow_eq`: the order in which nodes are met.
- `mem_nodesBelow`, `nodup_nodesBelow`: the traversal meets the nodes below once each.
- `outerTextsTo_eq`: the texts that are met first are all texts, if texts have no children.
- `mem_outerTextsTo`: the texts that are met first are those that a walk comes to.
- `outerTextsTo_congr`: a traversal depends on what is below only.
-/

namespace LiveText.Document

variable {d : Document}

/-- The nodes strictly below a node, in document order. -/
def nodesBelow (d : Document) (i : NodeId) : List NodeId :=
  (d.preorder i).tail

/-! ## Above and below -/

namespace Above

variable {a b i j : NodeId}

theorem trans (hab : d.Above a b) (hbi : d.Above b i) : d.Above a i := by
  induction hbi with
  | parent hi => exact .step hi hab
  | step hi _ ih => exact .step hi ih

/-- A node with others above it is one that there is. -/
theorem lt_size (h : d.Above a i) : i < d.size := by
  cases h with
  | parent hi => exact lt_size_of_parent? hi
  | step hi _ => exact lt_size_of_parent? hi

/-- A node with others below it is one that there is. -/
theorem above_lt_size (hlinked : d.Linked) (h : d.Above a i) : a < d.size := by
  induction h with
  | parent hi => exact lt_size_of_mem_children ((hlinked.child_iff _ _).mpr hi)
  | step _ _ ih => exact ih

/-- From a node that lies above itself no way leads up and out. -/
theorem above_of_cycle (h : d.Above a i) (hcycle : d.Above i i) : d.Above i a := by
  induction h with
  | parent hi =>
    cases hcycle with
    | parent hi' =>
      obtain rfl := Option.some.inj (hi.symm.trans hi')
      exact .parent hi
    | step hi' hcycle =>
      obtain rfl := Option.some.inj (hi.symm.trans hi')
      exact hcycle
  | @step p i hi _ ih =>
    have hip : i = p ∨ d.Above i p := by
      cases hcycle with
      | parent hi' => exact .inl (Option.some.inj (hi'.symm.trans hi))
      | step hi' hcycle =>
        obtain rfl := Option.some.inj (hi.symm.trans hi')
        exact .inr hcycle
    obtain rfl | hip := hip
    · exact ih hcycle
    · exact hip.trans (ih (Above.trans (.parent hi) hip))

/-- What lies above one node lies on one way up. -/
theorem total (ha : d.Above a i) (hb : d.Above b i) : a = b ∨ d.Above a b ∨ d.Above b a := by
  induction ha with
  | parent hi =>
    cases hb with
    | parent hi' => exact .inl (Option.some.inj (hi.symm.trans hi'))
    | step hi' hb =>
      obtain rfl := Option.some.inj (hi.symm.trans hi')
      exact .inr (.inr hb)
  | step hi ha ih =>
    cases hb with
    | parent hi' =>
      obtain rfl := Option.some.inj (hi.symm.trans hi')
      exact .inr (.inl ha)
    | step hi' hb =>
      obtain rfl := Option.some.inj (hi.symm.trans hi')
      exact ih hb

end Above

/-- A child lies below its parent. -/
theorem above_of_mem_children (hlinked : d.Linked) {c i : NodeId} (h : c ∈ d.children i) :
    d.Above i c :=
  .parent ((hlinked.child_iff c i).mp h)

/-- The way up from below a node leads through one of its children. -/
theorem above_iff_exists_child (hlinked : d.Linked) {i j : NodeId} :
    d.Above i j ↔ ∃ c ∈ d.children i, j = c ∨ d.Above c j := by
  constructor
  · intro h
    induction h with
    | parent hj => exact ⟨_, (hlinked.child_iff _ _).mpr hj, .inl rfl⟩
    | step hj _ ih =>
      obtain ⟨c, hc, rfl | hbelow⟩ := ih
      · exact ⟨_, hc, .inr (.parent hj)⟩
      · exact ⟨c, hc, .inr (.step hj hbelow)⟩
  · rintro ⟨c, hc, rfl | hbelow⟩
    · exact above_of_mem_children hlinked hc
    · exact (above_of_mem_children hlinked hc).trans hbelow

/-! ## How deep a node is -/

open Classical in
/-- The number of nodes above a node. -/
noncomputable def rank (d : Document) (i : NodeId) : Nat :=
  ((Finset.range d.size).filter fun a => d.Above a i).card

/-- A child is deeper than its parent, by the parent itself, unless that lies above itself. -/
theorem rank_lt_rank_of_not_above (hlinked : d.Linked) {c i : NodeId} (hi : ¬ d.Above i i)
    (h : c ∈ d.children i) : d.rank i < d.rank c := by
  have hchild := above_of_mem_children hlinked h
  apply Finset.card_lt_card
  rw [Finset.ssubset_iff_of_subset]
  · refine ⟨i, ?_, ?_⟩
    · simp only [Finset.mem_filter, Finset.mem_range]
      exact ⟨lt_size_of_mem_children h, hchild⟩
    · simp only [Finset.mem_filter, not_and]
      exact fun _ => hi
  · intro a
    simp only [Finset.mem_filter]
    exact fun ha => ⟨ha.1, ha.2.trans hchild⟩

theorem rank_lt_rank (hlinked : d.Linked) (hacyclic : d.Acyclic) {c i : NodeId}
    (h : c ∈ d.children i) : d.rank i < d.rank c :=
  rank_lt_rank_of_not_above hlinked (hacyclic i) h

/-- Not all nodes lie above a node that does not lie above itself. -/
theorem rank_lt_size_of_not_above {i : NodeId} (hself : ¬ d.Above i i) (hi : i < d.size) :
    d.rank i < d.size := by
  classical
  have hcard : (Finset.range d.size).card = d.size := Finset.card_range _
  refine lt_of_lt_of_eq (Finset.card_lt_card ?_) hcard
  refine (Finset.ssubset_iff_of_subset fun a ha => ?_).mpr ⟨i, Finset.mem_range.mpr hi, ?_⟩
  · exact (Finset.mem_filter.mp ha).1
  · simp only [Finset.mem_filter, not_and]
    exact fun _ => hself

theorem rank_lt_size (hacyclic : d.Acyclic) {i : NodeId} (hi : i < d.size) : d.rank i < d.size :=
  rank_lt_size_of_not_above (hacyclic i) hi

/-- What is below a node that does not lie above itself does not lie above itself either. -/
theorem not_above_child (hlinked : d.Linked) {c i : NodeId} (hi : ¬ d.Above i i)
    (hc : c ∈ d.children i) : ¬ d.Above c c := by
  intro hcycle
  have hic := above_of_mem_children hlinked hc
  exact hi (hic.trans (hic.above_of_cycle hcycle))

/-- There is no node as deep as the document is large. -/
theorem empty_of_size_le_rank {i : NodeId} (hi : ¬ d.Above i i) (h : d.size ≤ d.rank i) :
    d.data i = .fragment ∧ d.children i = [] := by
  have hle : d.size ≤ i := by
    by_contra hlt
    have hrank := rank_lt_size_of_not_above hi (Nat.lt_of_not_le hlt)
    omega
  exact ⟨by rw [data, node?_eq_none_of_le hle], children_of_le hle⟩

/-! ## The recursive traversal -/

/-- A traversal meets nothing that is not below. -/
theorem above_of_mem_preorderTo (hlinked : d.Linked) {depth : Nat} {i j : NodeId}
    (h : j ∈ d.preorderTo depth i) : j = i ∨ d.Above i j := by
  induction depth generalizing i with
  | zero =>
    rw [preorderTo, List.mem_singleton] at h
    exact .inl h
  | succ depth ih =>
    rw [preorderTo, List.mem_cons, List.mem_flatMap] at h
    rcases h with h | ⟨c, hc, hj⟩
    · exact .inl h
    · exact .inr ((above_iff_exists_child hlinked).mpr ⟨c, hc, ih hj⟩)

/-- A traversal that may go down far enough meets everything below. -/
theorem mem_preorderTo (hlinked : d.Linked) (hacyclic : d.Acyclic) {depth : Nat} {i : NodeId}
    (hdepth : d.size ≤ d.rank i + depth) (j : NodeId) :
    j ∈ d.preorderTo depth i ↔ j = i ∨ d.Above i j := by
  refine ⟨above_of_mem_preorderTo hlinked, fun h => ?_⟩
  induction depth generalizing i with
  | zero =>
    -- A node as deep as this has nothing below it.
    rcases h with rfl | h
    · exact List.mem_singleton_self _
    · have hrank := rank_lt_size hacyclic (h.above_lt_size hlinked)
      omega
  | succ depth ih =>
    rw [preorderTo, List.mem_cons, List.mem_flatMap]
    rcases h with rfl | h
    · exact .inl rfl
    · obtain ⟨c, hc, hj⟩ := (above_iff_exists_child hlinked).mp h
      have hrank := rank_lt_rank hlinked hacyclic hc
      exact .inr ⟨c, hc, ih (by omega) hj⟩

/-- A traversal that may go down far enough gains nothing from one level more. -/
theorem preorderTo_succ (hlinked : d.Linked) {depth : Nat} {i : NodeId} (hi : ¬ d.Above i i)
    (hdepth : d.size ≤ d.rank i + depth) : d.preorderTo (depth + 1) i = d.preorderTo depth i := by
  induction depth generalizing i with
  | zero => rw [preorderTo, preorderTo, (empty_of_size_le_rank hi hdepth).2, List.flatMap_nil]
  | succ depth ih =>
    rw [preorderTo, preorderTo]
    refine congrArg (i :: ·) (List.flatMap_congr fun c hc => ih (not_above_child hlinked hi hc) ?_)
    have hrank := rank_lt_rank_of_not_above hlinked hi hc
    omega

/-- A traversal meets no node twice, if it begins at none that lies above itself: what is below one
child is not below another. -/
theorem nodup_preorderTo (hlinked : d.Linked) (depth : Nat) {i : NodeId} (hself : ¬ d.Above i i) :
    (d.preorderTo depth i).Nodup := by
  induction depth generalizing i with
  | zero => exact List.nodup_singleton i
  | succ depth ih =>
    rw [preorderTo, List.nodup_cons, List.nodup_flatMap]
    refine ⟨fun hi => ?_, fun c hc => ih (not_above_child hlinked hself hc), ?_⟩
    · obtain ⟨c, hc, hj⟩ := List.mem_flatMap.mp hi
      apply hself
      exact (above_iff_exists_child hlinked).mpr ⟨c, hc, above_of_mem_preorderTo hlinked hj⟩
    · refine (hlinked.nodup i).imp_of_mem fun {b c} hb hc hne => ?_
      intro j hjb hjc
      -- Two children above one node are the same, or the parent is above itself.
      have hparent : ∀ x y, x ∈ d.children i → y ∈ d.children i → ¬ d.Above x y := by
        intro x y hx hy hxy
        have hix := above_of_mem_children hlinked hx
        cases hxy with
        | parent hp =>
          obtain rfl := Option.some.inj (hp.symm.trans ((hlinked.child_iff _ _).mp hy))
          exact hself hix
        | step hp hxp =>
          obtain rfl := Option.some.inj (hp.symm.trans ((hlinked.child_iff _ _).mp hy))
          exact hself (hix.trans hxp)
      rcases above_of_mem_preorderTo hlinked hjb with rfl | hb' <;>
        rcases above_of_mem_preorderTo hlinked hjc with hjc' | hc'
      · exact hne hjc'
      · exact hparent c _ hc hb hc'
      · exact hparent b c hb hc (hjc' ▸ hb')
      · rcases hb'.total hc' with h | h | h
        · exact hne h
        · exact hparent b c hb hc h
        · exact hparent c b hc hb h

theorem preorder_eq_cons (d : Document) (i : NodeId) : d.preorder i = i :: d.nodesBelow i := by
  rw [nodesBelow, preorder]
  cases d.size <;> rfl

/-- A node is met first, and then its children with what is below each. -/
theorem preorder_eq (hlinked : d.Linked) {i : NodeId} (hi : ¬ d.Above i i) :
    d.preorder i = i :: (d.children i).flatMap d.preorder := by
  rw [preorder, ← preorderTo_succ hlinked hi (Nat.le_add_left ..)]
  rfl

/-- Below a node are its children in order, each followed by what is below it. -/
theorem nodesBelow_eq (hlinked : d.Linked) (hacyclic : d.Acyclic) (i : NodeId) :
    d.nodesBelow i = (d.children i).flatMap fun c => c :: d.nodesBelow c := by
  rw [nodesBelow, preorder_eq hlinked (hacyclic i)]
  exact List.flatMap_congr fun c _ => d.preorder_eq_cons c

/-- A traversal meets no more nodes than there are. -/
theorem length_preorderTo_le (hlinked : d.Linked) (depth : Nat) {i : NodeId}
    (hself : ¬ d.Above i i) (hi : i < d.size) : (d.preorderTo depth i).length ≤ d.size := by
  have hsubset : d.preorderTo depth i ⊆ List.range d.size := by
    intro j hj
    rw [List.mem_range]
    obtain rfl | hj := above_of_mem_preorderTo hlinked hj
    · exact hi
    · exact hj.lt_size
  have hle := ((nodup_preorderTo hlinked depth hself).subperm hsubset).length_le
  rwa [List.length_range] at hle

/-- The nodes strictly below a node are those that it lies above. -/
theorem mem_nodesBelow (hlinked : d.Linked) (hacyclic : d.Acyclic) {i j : NodeId} :
    j ∈ d.nodesBelow i ↔ d.Above i j := by
  have hmem : j ∈ d.preorder i ↔ j = i ∨ d.Above i j :=
    mem_preorderTo hlinked hacyclic (Nat.le_add_left ..) j
  have hnodup : (d.preorder i).Nodup := nodup_preorderTo hlinked d.size (hacyclic i)
  rw [preorder_eq_cons, List.nodup_cons] at hnodup
  rw [preorder_eq_cons, List.mem_cons] at hmem
  constructor
  · intro hj
    rcases hmem.mp (.inr hj) with rfl | h
    · exact absurd hj hnodup.1
    · exact h
  · intro h
    rcases hmem.mpr (.inr h) with rfl | hj
    · exact absurd h (hacyclic j)
    · exact hj

/-- No node is met twice. -/
theorem nodup_nodesBelow (hlinked : d.Linked) (hacyclic : d.Acyclic) (i : NodeId) :
    (d.nodesBelow i).Nodup :=
  (nodup_preorderTo hlinked d.size (hacyclic i)).tail

/-! ## Texts -/

/-- Only elements and fragments have children. -/
def TextsAreLeaves (d : Document) : Prop :=
  ∀ i s, d.data i = .text s → d.children i = []

/-- A walk from a node comes to a text: it is a child, or the walk comes to it from a child that is
looked into. -/
inductive WalksTo (d : Document) : NodeId → NodeId → Prop where
  | child {i c : NodeId} (hc : c ∈ d.children i)
      (htext : (d.data c).kind.isContainer = false) : WalksTo d i c
  | inside {i c k : NodeId} (hc : c ∈ d.children i)
      (hcontainer : (d.data c).kind.isContainer = true) (h : WalksTo d c k) : WalksTo d i k

/-- A traversal for texts meets those that a walk comes to. -/
theorem walksTo_of_mem_outerTextsTo {levels : Nat} {i k : NodeId}
    (h : k ∈ d.outerTextsTo levels i) : d.WalksTo i k := by
  induction levels generalizing i with
  | zero => cases h
  | succ levels ih =>
    rw [outerTextsTo, List.mem_flatMap] at h
    obtain ⟨c, hc, hk⟩ := h
    split at hk
    · next hcontainer => exact .inside hc hcontainer (ih hk)
    · next htext =>
      obtain rfl := List.mem_singleton.mp hk
      exact .child hc (Bool.eq_false_iff.mpr htext)

/-- A traversal that may go down far enough meets all of them. -/
theorem mem_outerTextsTo (hlinked : d.Linked) (hacyclic : d.Acyclic) {levels : Nat} {i : NodeId}
    (hlevels : d.size ≤ d.rank i + levels) {k : NodeId} :
    k ∈ d.outerTextsTo levels i ↔ d.WalksTo i k := by
  refine ⟨walksTo_of_mem_outerTextsTo, fun h => ?_⟩
  induction h generalizing levels with
  | @child i c hc htext =>
    have hrank := rank_lt_rank hlinked hacyclic hc
    have hsize := rank_lt_size hacyclic (above_of_mem_children hlinked hc).lt_size
    obtain ⟨levels, rfl⟩ := Nat.exists_eq_add_one_of_ne_zero (by omega : levels ≠ 0)
    rw [outerTextsTo, List.mem_flatMap]
    exact ⟨c, hc, by simp [htext]⟩
  | @inside i c k hc hcontainer h ih =>
    have hrank := rank_lt_rank hlinked hacyclic hc
    have hsize := rank_lt_size hacyclic (above_of_mem_children hlinked hc).lt_size
    obtain ⟨levels, rfl⟩ := Nat.exists_eq_add_one_of_ne_zero (by omega : levels ≠ 0)
    rw [outerTextsTo, List.mem_flatMap]
    refine ⟨c, hc, ?_⟩
    rw [if_pos hcontainer]
    exact ih (by omega)

/-- If texts have no children, the texts that are met first are all texts. -/
theorem outerTextsTo_eq (hleaves : d.TextsAreLeaves) (levels : Nat) (i : NodeId) :
    d.outerTextsTo levels i =
      (d.preorderTo levels i).tail.filter fun k => (d.data k).kind == .text := by
  induction levels generalizing i with
  | zero => rfl
  | succ levels ih =>
    rw [outerTextsTo, preorderTo, List.tail_cons, List.filter_flatMap]
    refine List.flatMap_congr fun c _ => ?_
    have hcons : d.preorderTo levels c = c :: (d.preorderTo levels c).tail := by
      cases levels <;> rfl
    rw [hcons, List.filter_cons]
    -- A container is no text itself, and a text is all that there is at it.
    cases hdata : d.data c with
    | text s =>
      have hleaf : (d.preorderTo levels c).tail = [] := by
        cases levels with
        | zero => rfl
        | succ levels => simp only [preorderTo, hleaves c s hdata, List.flatMap_nil, List.tail_cons]
      simp [NodeData.kind, NodeKind.isContainer, hleaf]
    | element tag attributes =>
      simpa [NodeData.kind, NodeKind.isContainer] using ih c
    | fragment => simpa [NodeData.kind, NodeKind.isContainer] using ih c

/-- A traversal for texts depends on what is at the node and below it only. -/
theorem outerTextsTo_congr (hlinked : d.Linked) {d' : Document} {i : NodeId}
    (hsame : ∀ j, j = i ∨ d.Above i j → d'.children j = d.children j ∧ d'.data j = d.data j)
    (levels : Nat) : d'.outerTextsTo levels i = d.outerTextsTo levels i := by
  induction levels generalizing i with
  | zero => rfl
  | succ levels ih =>
    rw [outerTextsTo, outerTextsTo, (hsame i (.inl rfl)).1]
    refine List.flatMap_congr fun c hc => ?_
    have hbelow := above_of_mem_children hlinked hc
    rw [(hsame c (.inr hbelow)).2]
    split
    · apply ih
      rintro j (rfl | hj)
      · exact hsame j (.inr hbelow)
      · exact hsame j (.inr (hbelow.trans hj))
    · rfl

end LiveText.Document
