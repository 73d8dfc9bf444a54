import Mathlib
import LiveText.Document.Markup
import LiveText.Proofs.Document.Order
import LiveText.Proofs.Value.Entries

/-!
# Edits of a document

A document comes about by edits, and each of them writes to one or two nodes. The links of a node
are written in two places, and still agree after every edit, whatever its arguments are. Without
cycles the links stay only if no node is appended to itself or to a node below it; markup that is
copied into a document takes care of this by itself, since it appends new nodes only.

## Main definitions

- `Document.Edited`: one edit, which may have to be careful.
- `Document.Edits`: edits one after the other.

## Main statements

- `Linked.edited`, `Acyclic.edited`: what one edit keeps.
- `Edits.linked`, `Edits.acyclic`: what any number of edits keep.
- `kind_data_of_edits`: edits do not change what kind of node there is.
- `edits_appendMarkup`, `edits_moveChildren`: markup and moves of all children, edit by edit.
-/

namespace LiveText

/-- What is in small letters stays. -/
theorem Text.lowerAscii_lowerAscii (s : String) :
    Text.lowerAscii (Text.lowerAscii s) = Text.lowerAscii s := by
  rw [Text.lowerAscii, Text.lowerAscii, String.toList_ofList, List.map_map]
  congr 1
  exact List.map_congr_left fun c _ => Char.toLower_toLower_eq_toLower c

namespace Document

variable {d d' : Document} {careful : Prop}

/-- One edit of a document. Nodes are appended to nodes that there are. A `careful` edit appends no
node to itself and none to a node below it. -/
inductive Edited (careful : Prop) (d : Document) : Document → Prop where
  | createElement (tag : String) : Edited careful d (d.createElement tag).2
  | createText (text : String) : Edited careful d (d.createText text).2
  | createFragment : Edited careful d d.createFragment.2
  | setAttribute (i : NodeId) (name value : String) : Edited careful d (d.setAttribute i name value)
  | setText (i : NodeId) (text : String) : Edited careful d (d.setText i text)
  | detach (i : NodeId) : Edited careful d (d.detach i)
  | append {parent child : NodeId} (hparent : parent < d.size) (hchild : child < d.size)
      (hcareful : careful → parent ≠ child ∧ ¬ d.Above child parent) :
      Edited careful d (d.append parent child)
  | moveFirstChild {i child : NodeId} {d' : Document} (h : d.moveFirstChild? i = some (child, d')) :
      Edited careful d d'

/-- Edits one after the other. -/
def Edits (careful : Prop) : Document → Document → Prop :=
  Relation.ReflTransGen (Edited careful)

/-! ## Changes of what a node is -/

/-- A change that leaves the links of nodes alone leaves those of the document alone. -/
theorem links_update (d : Document) (i : NodeId) {f : Node → Node}
    (hf : ∀ n, (f n).children = n.children ∧ (f n).parent = n.parent) (j : NodeId) :
    (d.update i f).children j = d.children j ∧ (d.update i f).parent? j = d.parent? j := by
  rw [children_eq, parent?_eq, node?_update, children_eq, parent?_eq]
  split
  · cases d.node? j with
    | none => exact ⟨rfl, rfl⟩
    | some n => simp [hf]
  · exact ⟨rfl, rfl⟩

theorem links_setText (d : Document) (i : NodeId) (text : String) (j : NodeId) :
    (d.setText i text).children j = d.children j ∧ (d.setText i text).parent? j = d.parent? j := by
  apply links_update
  intro n
  split <;> exact ⟨rfl, rfl⟩

theorem links_setAttribute (d : Document) (i : NodeId) (name value : String) (j : NodeId) :
    (d.setAttribute i name value).children j = d.children j ∧
      (d.setAttribute i name value).parent? j = d.parent? j := by
  apply links_update
  intro n
  split <;> exact ⟨rfl, rfl⟩

theorem tidy_update {i : NodeId} {f : Node → Node} (hf : ∀ n, n.data.Tidy → (f n).data.Tidy)
    (h : ∀ j, (d.data j).Tidy) (j : NodeId) : ((d.update i f).data j).Tidy := by
  rw [data_update]
  split
  · have hj := h j
    rw [data_eq] at hj
    cases hn : d.node? j with
    | none => trivial
    | some n =>
      rw [hn] at hj
      exact hf n hj
  · exact h j

/-! ## Moves in documents with links that agree -/

theorem Linked.children_detach (h : d.Linked) (i j : NodeId) :
    (d.detach i).children j = (d.children j).filter (· ≠ i) := by
  -- The node is in no list but the one of its parent.
  have hother : d.parent? i ≠ some j → (d.children j).filter (· ≠ i) = d.children j := by
    intro hne
    refine List.filter_eq_self.mpr fun c hc => decide_eq_true ?_
    rintro rfl
    exact hne ((h.child_iff _ j).mp hc)
  cases hi : d.parent? i with
  | none => rw [detach_of_parentless hi, hother (by simp [hi])]
  | some p =>
    rw [Document.children_detach hi]
    split
    · rfl
    · next hne => exact (hother fun hj => hne (Option.some.inj (hi ▸ hj)).symm).symm

theorem Linked.children_append (h : d.Linked) {target : NodeId} (ht : target < d.size)
    (c j : NodeId) :
    (d.append target c).children j =
      (d.children j).filter (· ≠ c) ++ if j = target then [c] else [] := by
  rw [children_append_detach ht, h.children_detach]

/-- Taking the first child of a node away is detaching it. -/
theorem eq_detach_of_moveFirstChild {i c : NodeId} (h : d.moveFirstChild? i = some (c, d')) :
    d' = d.detach c := by
  rw [moveFirstChild?] at h
  split at h
  · cases h
  · obtain ⟨rfl, rfl⟩ := Prod.mk.inj (Option.some.inj h)
    rfl

/-! ## Links that agree -/

theorem Linked.mem_children_iff (h : d.Linked) {c p : NodeId} :
    c ∈ d.children p ↔ d.parent? c = some p :=
  h.child_iff c p

theorem Linked.create (h : d.Linked) {data : NodeData} (hdata : data.Tidy) :
    (d.create data).2.Linked := by
  have hlinks := d.links_create data
  refine linked_of_tidy (fun c p => ?_) (fun p => ?_) fun i => ?_
  · rw [(hlinks p).1, (hlinks c).2]
    exact h.child_iff c p
  · rw [(hlinks p).1]
    exact h.nodup p
  · rw [data_create]
    split
    · exact hdata
    · exact h.tidy i

/-- A change to what nodes are that keeps them tidy. -/
theorem Linked.update (h : d.Linked) {i : NodeId} {f : Node → Node}
    (hlinks : ∀ n, (f n).children = n.children ∧ (f n).parent = n.parent)
    (htidy : ∀ n, n.data.Tidy → (f n).data.Tidy) : (d.update i f).Linked := by
  have hlinks := d.links_update i hlinks
  refine linked_of_tidy (fun c p => ?_) (fun p => ?_) (tidy_update htidy h.tidy)
  · rw [(hlinks p).1, (hlinks c).2]
    exact h.child_iff c p
  · rw [(hlinks p).1]
    exact h.nodup p

theorem Linked.setAttribute (h : d.Linked) (i : NodeId) (name value : String) :
    (d.setAttribute i name value).Linked := by
  refine h.update (fun n => ?_) fun n hn => ?_
  · split <;> exact ⟨rfl, rfl⟩
  · split
    · next tag attributes hdata =>
      rw [hdata] at hn
      exact ⟨hn.1, Entries.nodup_keys_insert hn.2⟩
    · exact hn

theorem Linked.setText (h : d.Linked) (i : NodeId) (text : String) : (d.setText i text).Linked := by
  refine h.update (fun n => ?_) fun n hn => ?_
  · split <;> exact ⟨rfl, rfl⟩
  · split
    · trivial
    · exact hn

theorem Linked.detach (h : d.Linked) (i : NodeId) : (d.detach i).Linked := by
  refine linked_of_tidy (fun c p => ?_) (fun p => ?_) fun j => ?_
  · rw [h.children_detach, parent?_detach]
    by_cases hc : c = i
    · simp [hc]
    · simpa [hc] using h.mem_children_iff
  · rw [h.children_detach]
    exact (h.nodup p).filter _
  · rw [data_detach]
    exact h.tidy j

/-- A node that is appended is struck from one list and added to one other. -/
theorem Linked.append (h : d.Linked) {target c : NodeId} (ht : target < d.size) (hc : c < d.size) :
    (d.append target c).Linked := by
  refine linked_of_tidy (fun x p => ?_) (fun p => ?_) fun j => ?_
  · rw [h.children_append ht, parent?_append hc, List.mem_append]
    by_cases hx : x = c
    · by_cases hp : p = target
      · simp [hx, hp]
      · simp [hx, hp, Ne.symm hp]
    · have hnew : x ∉ if p = target then [c] else [] := by
        split <;> simp [hx]
      simpa [hx, hnew] using h.mem_children_iff
  · rw [h.children_append ht, List.nodup_append]
    refine ⟨(h.nodup p).filter _, by split <;> simp, fun x hx y hy => ?_⟩
    have hxc : x ≠ c := by simpa using (List.mem_filter.mp hx).2
    have hyc : y = c := by
      split at hy
      · simpa using hy
      · cases hy
    exact hyc ▸ hxc
  · rw [data_append]
    exact h.tidy j

/-- Links agree after every edit, careful or not. -/
theorem Linked.edited (h : d.Linked) (hedit : Edited careful d d') : d'.Linked := by
  cases hedit with
  | createElement tag => exact h.create ⟨Text.lowerAscii_lowerAscii tag, List.nodup_nil⟩
  | createText text => exact h.create trivial
  | createFragment => exact h.create trivial
  | setAttribute i name value => exact h.setAttribute i name value
  | setText i text => exact h.setText i text
  | detach i => exact h.detach i
  | append hparent hchild _ => exact h.append hparent hchild
  | moveFirstChild hmove =>
    rw [eq_detach_of_moveFirstChild hmove]
    exact h.detach _

/-! ## Cycles -/

/-- Fewer links make fewer ways up. -/
theorem Above.of_parent? {a i : NodeId} (h : d'.Above a i)
    (hparents : ∀ j p, d'.parent? j = some p → d.parent? j = some p) : d.Above a i := by
  induction h with
  | parent hi => exact .parent (hparents _ _ hi)
  | step hi _ ih => exact .step (hparents _ _ hi) ih

theorem Acyclic.of_parent? (h : d.Acyclic)
    (hparents : ∀ j p, d'.parent? j = some p → d.parent? j = some p) : d'.Acyclic :=
  fun i hi => h i (hi.of_parent? hparents)

theorem Acyclic.detach (h : d.Acyclic) (i : NodeId) : (d.detach i).Acyclic := by
  apply h.of_parent?
  intro j p hj
  rw [parent?_detach] at hj
  split at hj
  · cases hj
  · exact hj

/-- A way up that is new leads from below the node that has been appended to above its target. -/
theorem above_append {target c a i : NodeId} (hc : c < d.size)
    (hcareful : target ≠ c ∧ ¬ d.Above c target) (h : (d.append target c).Above a i) :
    d.Above a i ∨ (i = c ∨ d.Above c i) ∧ (a = target ∨ d.Above a target) := by
  obtain ⟨hne, hbelow⟩ := hcareful
  induction h with
  | parent hi =>
    rw [parent?_append hc] at hi
    split at hi
    · next hic => exact .inr ⟨.inl hic, .inl (Option.some.inj hi).symm⟩
    · exact .inl (.parent hi)
  | step hi _ ih =>
    rw [parent?_append hc] at hi
    split at hi
    · next hic =>
      obtain rfl := Option.some.inj hi
      rcases ih with ih | ⟨hloop | hloop, -⟩
      · exact .inr ⟨.inl hic, .inr ih⟩
      · exact absurd hloop hne
      · exact absurd hloop hbelow
    · rcases ih with ih | ⟨hcp, hap⟩
      · exact .inl (.step hi ih)
      · refine .inr ⟨.inr ?_, hap⟩
        rcases hcp with rfl | hcp
        · exact .parent hi
        · exact .step hi hcp

/-- What lies above the target is what has lain above it. -/
theorem above_target_append {target c a : NodeId} (hc : c < d.size)
    (hcareful : target ≠ c ∧ ¬ d.Above c target) (h : (d.append target c).Above a target) :
    d.Above a target := by
  rcases above_append hc hcareful h with h | ⟨hloop | hloop, -⟩
  · exact h
  · exact absurd hloop hcareful.1
  · exact absurd hloop hcareful.2

theorem Acyclic.append (h : d.Acyclic) {target c : NodeId} (hc : c < d.size)
    (hcareful : target ≠ c ∧ ¬ d.Above c target) : (d.append target c).Acyclic := by
  intro i hi
  obtain ⟨hne, hbelow⟩ := hcareful
  rcases above_append hc ⟨hne, hbelow⟩ hi with hi | ⟨rfl | hci, rfl | hit⟩
  · exact h i hi
  · exact hne rfl
  · exact hbelow hit
  · exact hbelow hci
  · exact hbelow (hci.trans hit)

/-- Careful edits close no cycle. -/
theorem Acyclic.edited (h : d.Acyclic) (hcareful : careful) (hedit : Edited careful d d') :
    d'.Acyclic := by
  have hcreate : ∀ data, (d.create data).2.Acyclic := fun data =>
    h.of_parent? fun j _ hj => (d.links_create data j).2 ▸ hj
  cases hedit with
  | createElement tag => exact hcreate _
  | createText text => exact hcreate _
  | createFragment => exact hcreate _
  | setAttribute i name value =>
    exact h.of_parent? fun j _ hj => (d.links_setAttribute i name value j).2 ▸ hj
  | setText i text => exact h.of_parent? fun j _ hj => (d.links_setText i text j).2 ▸ hj
  | detach i => exact h.detach i
  | append hparent hchild happend => exact h.append hchild (happend hcareful)
  | moveFirstChild hmove =>
    rw [eq_detach_of_moveFirstChild hmove]
    exact h.detach _

/-! ## Edits one after the other -/

/-- No edit takes nodes away. -/
theorem size_le_of_edited (hedit : Edited careful d d') : d.size ≤ d'.size := by
  have hcreate : ∀ data, d.size ≤ (d.create data).2.size := fun data => by
    rw [size_create]
    exact Nat.le_succ _
  cases hedit with
  | createElement tag => exact hcreate _
  | createText text => exact hcreate _
  | createFragment => exact hcreate _
  | setAttribute i name value => exact (size_update ..).ge
  | setText i text => exact (size_update ..).ge
  | detach i => exact (size_detach ..).ge
  | append _ _ _ => exact (size_append ..).ge
  | moveFirstChild hmove =>
    rw [eq_detach_of_moveFirstChild hmove]
    exact (size_detach ..).ge

namespace Edits

theorem refl (careful : Prop) (d : Document) : Edits careful d d :=
  Relation.ReflTransGen.refl

theorem single (h : Edited careful d d') : Edits careful d d' :=
  Relation.ReflTransGen.single h

theorem trans {d'' : Document} (h : Edits careful d d') (h' : Edits careful d' d'') :
    Edits careful d d'' :=
  Relation.ReflTransGen.trans h h'

theorem linked (h : Edits careful d d') (hlinked : d.Linked) : d'.Linked := by
  induction h with
  | refl => exact hlinked
  | tail _ hedit ih => exact ih.edited hedit

theorem acyclic (h : Edits careful d d') (hcareful : careful) (hacyclic : d.Acyclic) :
    d'.Acyclic := by
  induction h with
  | refl => exact hacyclic
  | tail _ hedit ih => exact ih.edited hcareful hedit

theorem size_le (h : Edits careful d d') : d.size ≤ d'.size := by
  induction h with
  | refl => exact Nat.le_refl _
  | tail _ hedit ih => exact ih.trans (size_le_of_edited hedit)

end Edits

/-! ## Kinds of nodes -/

theorem kind_data_update {f : Node → Node} (hf : ∀ n, (f n).data.kind = n.data.kind)
    (i j : NodeId) : ((d.update i f).data j).kind = (d.data j).kind := by
  rw [data_update]
  split
  · rw [data]
    cases d.node? j with
    | none => rfl
    | some n => exact hf n
  · rfl

theorem kind_data_create {data : NodeData} {j : NodeId} (hj : j < d.size) :
    ((d.create data).2.data j).kind = (d.data j).kind := by
  rw [data_create, if_neg hj.ne]

/-- An edit does not change what kind of node there is. -/
theorem kind_data_of_edited (h : Edited careful d d') {j : NodeId} (hj : j < d.size) :
    (d'.data j).kind = (d.data j).kind := by
  cases h with
  | createElement | createText | createFragment => exact kind_data_create hj
  | setAttribute i name value =>
    refine kind_data_update (fun n => ?_) i j
    split
    · next hn => rw [hn]; rfl
    · rfl
  | setText i text =>
    refine kind_data_update (fun n => ?_) i j
    split
    · next hn => rw [hn]; rfl
    · rfl
  | detach i => rw [data_detach]
  | append => rw [data_append]
  | moveFirstChild h => rw [eq_detach_of_moveFirstChild h, data_detach]

theorem kind_data_of_edits (h : Edits careful d d') {j : NodeId} (hj : j < d.size) :
    (d'.data j).kind = (d.data j).kind := by
  induction h with
  | refl => rfl
  | tail hedits hedited ih =>
    exact (kind_data_of_edited hedited (hj.trans_le (Edits.size_le hedits))).trans ih

/-! ## Markup -/

theorem edits_setAttributes (careful : Prop) (attributes : List (String × String)) (i : NodeId)
    (d : Document) :
    let dressed := attributes.foldl (fun d (name, value) => d.setAttribute i name value) d
    Edits careful d dressed ∧ dressed.size = d.size ∧ ∀ j, dressed.children j = d.children j := by
  induction attributes generalizing d with
  | nil => exact ⟨.refl _ d, rfl, fun _ => rfl⟩
  | cons a rest ih =>
    obtain ⟨hedits, hsize, hchildren⟩ := ih (d.setAttribute i a.1 a.2)
    refine ⟨.trans (.single (.setAttribute i a.1 a.2)) hedits, hsize.trans (size_update ..),
      fun j => (hchildren j).trans ?_⟩
    exact (d.links_setAttribute i a.1 a.2 j).1

/-- A node without children lies above no other. -/
theorem Linked.not_above_of_leaf (h : d.Linked) {a : NodeId} (hleaf : d.children a = [])
    (i : NodeId) : ¬ d.Above a i := by
  rw [above_iff_exists_child h, hleaf]
  simp

/-- A new node in a document to which nothing has been added since. -/
theorem edits_append_new {data : NodeData} {made : Document} (hlinked : d.Linked)
    (hmade : Edited careful d (d.create data).2) (hdressed : Edits careful (d.create data).2 made)
    (hsize : made.size = d.size + 1) (hlinks : ∀ j, made.children j = d.children j)
    {into : NodeId} (hinto : into < d.size) : Edits careful d (made.append into d.size) := by
  have hedits := (Edits.single hmade).trans hdressed
  have hnew : d.size < made.size := hsize ▸ Nat.lt_succ_self _
  have hleaf : made.children d.size = [] := (hlinks _).trans (children_of_le (Nat.le_refl _))
  refine hedits.trans (.single (.append (hinto.trans hnew) hnew fun _ => ⟨hinto.ne, ?_⟩))
  exact (hedits.linked hlinked).not_above_of_leaf hleaf into

/-- Trees are copied edit by edit, and each new node is appended before anything goes below it. -/
theorem edits_graft (careful : Prop) {pending : List (NodeId × Markup.Tree)} (hlinked : d.Linked)
    (hpending : ∀ e ∈ pending, e.1 < d.size) : Edits careful d (d.graft pending) := by
  -- On what waits. Each tree goes below a node that is there, also when new nodes have been made.
  induction pending using pending_induction generalizing d with
  | nil =>
    rw [graft]
    exact .refl careful d
  | other into rest ih =>
    rw [graft]
    exact ih hlinked fun e he => hpending e (List.mem_cons_of_mem _ he)
  | text into text rest ih =>
    have hinto : into < d.size := hpending (into, .text text) (List.mem_cons_self ..)
    have hnew : Edits careful d ((d.createText text).2.append into d.size) :=
      edits_append_new hlinked (.createText text) (.refl _ _) (d.size_create _)
        (fun j => (d.links_create _ j).1) hinto
    rw [graft]
    refine hnew.trans (ih (hnew.linked hlinked) fun e he => ?_)
    exact (hpending e (List.mem_cons_of_mem _ he)).trans_le hnew.size_le
  | element into name attributes children rest ih =>
    -- An element is made, dressed and appended, and then its children wait in front.
    have hinto : into < d.size := hpending (into, _) (List.mem_cons_self ..)
    obtain ⟨hdress, hdressed, hchildren⟩ :=
      edits_setAttributes careful attributes d.size (d.createElement name).2
    have hnew := edits_append_new hlinked (.createElement name) hdress
      (hdressed.trans (d.size_create _))
      (fun j => (hchildren j).trans (d.links_create _ j).1) hinto
    rw [graft]
    refine hnew.trans (ih _ (hnew.linked hlinked) fun e he => ?_)
    rcases List.mem_append.mp he with he | he
    · obtain ⟨t, -, rfl⟩ := List.mem_map.mp he
      rw [size_append, hdressed]
      exact Nat.lt_of_lt_of_eq (Nat.lt_succ_self _) (d.size_create _).symm
    · exact (hpending e (List.mem_cons_of_mem _ he)).trans_le hnew.size_le

/-- Markup goes into a document by careful edits. -/
theorem edits_appendMarkup (careful : Prop) (hlinked : d.Linked) {parent : NodeId}
    (hparent : parent < d.size) (source : String) :
    Edits careful d (d.appendMarkup parent source).2 := by
  apply edits_graft careful hlinked
  intro e he
  obtain ⟨t, -, rfl⟩ := List.mem_map.mp he
  exact hparent

theorem linked_empty : empty.Linked := by
  decide

theorem acyclic_empty : empty.Acyclic :=
  acyclic_of_parent_lt (by decide)

/-- A document that is read is the empty one after careful edits. -/
theorem edits_parse (careful : Prop) (source : String) : Edits careful empty (parse source) :=
  edits_appendMarkup careful linked_empty (by decide) source

/-! ## Moving all children -/

/-- Nodes are appended one after the other. This is careful if it is so for each of them in the
beginning: what lies above the target stays the same. -/
theorem edits_foldl_append {target : NodeId} (htarget : target < d.size) {cs : List NodeId}
    (hcs : ∀ c ∈ cs, c < d.size)
    (hcareful : careful → ∀ c ∈ cs, target ≠ c ∧ ¬ d.Above c target) :
    Edits careful d (cs.foldl (fun d c => d.append target c) d) := by
  induction cs generalizing d with
  | nil => exact .refl careful d
  | cons c rest ih =>
    have hc : c < d.size := hcs c (List.mem_cons_self ..)
    have hfirst : careful → target ≠ c ∧ ¬ d.Above c target := fun h =>
      hcareful h c (List.mem_cons_self ..)
    refine Edits.trans (.single (.append htarget hc hfirst)) (ih ?_ ?_ ?_)
    · rwa [size_append]
    · intro c' hc'
      rw [size_append]
      exact hcs c' (List.mem_cons_of_mem _ hc')
    · intro h c' hc'
      obtain ⟨hne, hbelow⟩ := hcareful h c' (List.mem_cons_of_mem _ hc')
      exact ⟨hne, fun habove => hbelow (above_target_append hc (hfirst h) habove)⟩

/-- All children of a node are moved edit by edit. -/
theorem edits_moveChildren {source target : NodeId} (htarget : target < d.size)
    (hchildren : ∀ c ∈ d.children source, c < d.size)
    (hcareful : careful → ∀ c ∈ d.children source, target ≠ c ∧ ¬ d.Above c target) :
    Edits careful d (d.moveChildren source target) :=
  edits_foldl_append htarget hchildren hcareful

end Document

end LiveText
