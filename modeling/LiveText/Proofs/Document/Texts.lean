import Mathlib
import LiveText.Document.Markup

/-!
# Texts of a document

Nodes are made and moved without a change to the texts that there are; only setting a text changes
one.

## Main definitions

- `Document.KeepsTexts`: every text node is one afterwards, with the same text.

## Main statements

- `keepsTexts_append`, `keepsTexts_moveChildren`, `keepsTexts_graft`: the moves keep texts.
- `pending_induction`: the cases of copying trees into a document.
- `data_setText_self`, `data_setText_of_ne`: setting a text.
-/

namespace LiveText.Document

/-- Every text node of the first document is one of the second, with the same text. -/
def KeepsTexts (d d' : Document) : Prop :=
  ∀ i s, d.data i = .text s → d'.data i = .text s

theorem KeepsTexts.refl (d : Document) : d.KeepsTexts d :=
  fun _ _ h => h

theorem KeepsTexts.trans {d d' d'' : Document} (h : d.KeepsTexts d') (h' : d'.KeepsTexts d'') :
    d.KeepsTexts d'' :=
  fun i s hs => h' i s (h i s hs)

theorem text_of_data {d : Document} {i : NodeId} {s : String} (h : d.data i = .text s) :
    d.text i = s := by
  rw [text, h]

/-- A node with a text of its own is a text node. -/
theorem data_of_text_ne {d : Document} {i : NodeId} (h : d.text i ≠ "") :
    d.data i = .text (d.text i) := by
  rw [text] at h ⊢
  cases hd : d.data i with
  | text s => rfl
  | element tag attributes => simp [hd] at h
  | fragment => simp [hd] at h

/-- One folded step after the other. -/
theorem keepsTexts_foldl {α : Type} {f : Document → α → Document}
    (hf : ∀ (d : Document) (a : α), d.KeepsTexts (f d a)) (xs : List α) (d : Document) :
    d.KeepsTexts (xs.foldl f d) := by
  induction xs generalizing d with
  | nil => exact .refl d
  | cons x xs ih => exact (hf d x).trans (ih (f d x))

/-! ## Changing nodes -/

theorem data_update (d : Document) (i : NodeId) (f : Node → Node) (j : NodeId) :
    (d.update i f).data j =
      if i = j ∧ j < d.size then ((d.node? j).map fun n => (f n).data).getD .fragment
      else d.data j := by
  rw [data, node?, update, Array.getElem?_modify, data, node?]
  by_cases hij : i = j
  · subst hij
    by_cases hi : i < d.nodes.size
    · simp [hi, size]
    · simp [hi, size]
  · simp [hij]

/-- A change that keeps every text keeps the texts of the document. -/
theorem keepsTexts_update (d : Document) (i : NodeId) {f : Node → Node}
    (hf : ∀ n s, n.data = .text s → (f n).data = .text s) : d.KeepsTexts (d.update i f) := by
  intro j s hs
  rw [data_update]
  split
  · rw [data] at hs
    cases hn : d.node? j with
    | none => simp [hn] at hs
    | some n =>
      rw [hn] at hs
      exact hf n s hs
  · exact hs

theorem keepsTexts_create (d : Document) (data : NodeData) : d.KeepsTexts (d.create data).2 := by
  intro i s hs
  -- The new node is behind all those that have a text.
  have hne : i ≠ d.nodes.size := by
    intro heq
    rw [Document.data, node?, heq, Array.getElem?_eq_none (Nat.le_refl _)] at hs
    cases hs
  have hnode : (d.create data).2.node? i = d.node? i := by
    rw [node?, create, Array.getElem?_push, if_neg hne, node?]
  rw [Document.data, hnode]
  exact hs

theorem keepsTexts_setAttribute (d : Document) (i : NodeId) (name value : String) :
    d.KeepsTexts (d.setAttribute i name value) := by
  apply keepsTexts_update d i
  intro n s hs
  rw [hs]
  exact hs

theorem data_setText_self {d : Document} {i : NodeId} {s : String} (h : d.data i = .text s)
    (t : String) : (d.setText i t).data i = .text t := by
  have hi : i < d.size := by
    by_contra hout
    rw [data, node?, Array.getElem?_eq_none (Nat.le_of_not_lt hout)] at h
    cases h
  -- The new node is a text node because the old one is.
  rw [setText, data_update, if_pos ⟨rfl, hi⟩]
  rw [data] at h
  cases hn : d.node? i with
  | none => simp [hn] at h
  | some n =>
    rw [hn] at h
    simp [show n.data = .text s from h]

theorem data_setText_of_ne (d : Document) {i j : NodeId} (h : i ≠ j) (t : String) :
    (d.setText i t).data j = d.data j := by
  rw [setText, data_update, if_neg fun hij => h hij.1]

/-- Whatever a text is set to, the text nodes stay text nodes. -/
theorem exists_data_setText {d : Document} {j : NodeId} {s : String} (h : d.data j = .text s)
    (i : NodeId) (t : String) : ∃ s', (d.setText i t).data j = .text s' := by
  by_cases hij : i = j
  · exact ⟨t, hij ▸ data_setText_self (hij ▸ h) t⟩
  · exact ⟨s, (data_setText_of_ne d hij t).trans h⟩

/-! ## Moves -/

/-- Links are not part of the data. -/
theorem keepsTexts_relink (d : Document) (i : NodeId) (f : Node → Node)
    (hf : ∀ n, (f n).data = n.data) : d.KeepsTexts (d.update i f) :=
  keepsTexts_update d i fun n _ hs => (hf n).trans hs

theorem keepsTexts_detach (d : Document) (i : NodeId) : d.KeepsTexts (d.detach i) := by
  rw [detach]
  split
  · next p _ =>
    exact (keepsTexts_relink d i (fun n => { n with parent := none }) fun _ => rfl).trans
      (keepsTexts_relink _ p (fun n => { n with children := n.children.filter (· ≠ i) })
        fun _ => rfl)
  · exact .refl d

theorem keepsTexts_append (d : Document) (parent child : NodeId) :
    d.KeepsTexts (d.append parent child) := by
  have hup := keepsTexts_relink (d.detach child) child
    (fun n => { n with parent := some parent }) fun _ => rfl
  have hdown := keepsTexts_relink
    ((d.detach child).update child fun n => { n with parent := some parent }) parent
    (fun n => { n with children := n.children ++ [child] }) fun _ => rfl
  exact ((keepsTexts_detach d child).trans hup).trans hdown

theorem keepsTexts_moveFirstChild {d d' : Document} {i c : NodeId}
    (h : d.moveFirstChild? i = some (c, d')) : d.KeepsTexts d' := by
  rw [moveFirstChild?] at h
  cases hchildren : d.children i with
  | nil => simp [hchildren] at h
  | cons first rest =>
    simp only [hchildren, Option.some.injEq, Prod.mk.injEq] at h
    obtain ⟨-, rfl⟩ := h
    exact keepsTexts_detach d first

theorem keepsTexts_moveChildren (d : Document) (source target : NodeId) :
    d.KeepsTexts (d.moveChildren source target) :=
  keepsTexts_foldl (fun d c => keepsTexts_append d target c) _ d

/-! ## Markup -/

/-- Induction along the copying of trees: what is inside an element waits in front of what comes
after it, below whichever node the element becomes. -/
theorem pending_induction {motive : List (NodeId × Markup.Tree) → Prop} (nil : motive [])
    (other : ∀ into rest, motive rest → motive ((into, .other) :: rest))
    (text : ∀ into s rest, motive rest → motive ((into, .text s) :: rest))
    (element : ∀ into name attributes children rest, (∀ i, motive (below i children ++ rest)) →
      motive ((into, .element name attributes children) :: rest))
    (pending : List (NodeId × Markup.Tree)) : motive pending := by
  -- On the size of what waits, as in the definition.
  induction hsize : pendingSize pending using Nat.strong_induction_on generalizing pending with
  | h size ih =>
    cases pending with
    | nil => exact nil
    | cons first rest =>
      obtain ⟨into, tree⟩ := first
      cases tree with
      | other =>
        exact other into rest (ih _ (by simp [← hsize, pendingSize, Markup.Tree.size]) rest rfl)
      | text s =>
        exact text into s rest (ih _ (by simp [← hsize, pendingSize, Markup.Tree.size]) rest rfl)
      | element name attributes children =>
        refine element into name attributes children rest fun i => ih _ ?_ _ rfl
        rw [← hsize]
        simp only [pendingSize_append, pendingSize_below, pendingSize, Markup.Tree.size]
        omega

theorem keepsTexts_graft (d : Document) (pending : List (NodeId × Markup.Tree)) :
    d.KeepsTexts (d.graft pending) := by
  induction pending using pending_induction generalizing d with
  | nil =>
    rw [graft]
    exact .refl d
  | other into rest ih =>
    rw [graft]
    exact ih d
  | text into text rest ih =>
    have hcreate := keepsTexts_create d (.text text)
    have happend := keepsTexts_append (d.create (.text text)).2 into (d.create (.text text)).1
    rw [graft]
    exact (hcreate.trans happend).trans (ih _)
  | element into name attributes children rest ih =>
    -- An element is made, dressed and appended, and then its children wait in front.
    let made := d.createElement name
    let dressed := attributes.foldl (fun d a => d.setAttribute made.1 a.1 a.2) made.2
    have hcreate : d.KeepsTexts made.2 := keepsTexts_create d _
    have hattributes : made.2.KeepsTexts dressed := by
      apply keepsTexts_foldl
      exact fun d a => keepsTexts_setAttribute d made.1 a.1 a.2
    have happend := keepsTexts_append dressed into made.1
    rw [graft]
    exact ((hcreate.trans hattributes).trans happend).trans (ih _ _)

theorem keepsTexts_appendMarkup (d : Document) (parent : NodeId) (source : String) :
    d.KeepsTexts (d.appendMarkup parent source).2 :=
  keepsTexts_graft d _

end LiveText.Document
