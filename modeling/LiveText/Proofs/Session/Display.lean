import Mathlib
import LiveText.Proofs.Document.Links
import LiveText.Proofs.Session.Rendering

/-!
# What renderings display

A rendering writes to the text of one node, and only if its template comes out. So what renderings
do to documents can be told node by node: the links of all nodes stay, and each text is that of the
last binding of the node whose template came out.

## Main definitions

- `Binding.display`, `displayAll`: a node after its bindings have been rendered.
- `Session.Displays`: what renderings do to all documents.

## Main statements

- `displays_afterReading`: one rendering.
- `Displays.append`: renderings one after the other.
- `displayAll_of_sole`: a node that one binding has.
-/

namespace LiveText

/-! ## Nodes -/

/-- A text node has a new text; other nodes stay. -/
def NodeData.withText (text : String) : NodeData → NodeData
  | .text _ => .text text
  | data => data

theorem Document.node?_setText (d : Document) (k : NodeId) (text : String) (j : NodeId) :
    (d.setText k text).node? j = (d.node? j).map fun n =>
      if k = j then { n with data := n.data.withText text } else n := by
  rw [setText, node?_update]
  by_cases hj : k = j
  · simp only [hj, if_true]
    congr 1
    funext n
    -- Whether or not the node is a text, it gets the data that it should.
    cases hdata : n.data with
    | text s => rfl
    | element tag attributes => simp only [NodeData.withText, ← hdata]
    | fragment => simp only [NodeData.withText, ← hdata]
  · simp [hj]

theorem Document.text_eq_of_data_eq {d d' : Document} {i : NodeId} (h : d'.data i = d.data i) :
    d'.text i = d.text i := by
  rw [text, h, text]

/-- A node of a document after a binding has been rendered for a tree. -/
def Binding.display (tree : Value) (i : DocumentId) (k : NodeId) (n : Node) (b : Binding) : Node :=
  if b.document = i ∧ b.node = k then
    match b.template.shown tree with
    | .ok text => { n with data := n.data.withText text }
    | .error _ => n
  else n

/-- A node of a document after bindings have been rendered for a tree one after the other. -/
def displayAll (tree : Value) (bs : List Binding) (i : DocumentId) (k : NodeId) (n : Node) : Node :=
  bs.foldl (Binding.display tree i k) n

section Display

variable {tree : Value} {bs : List Binding} {b : Binding} {i : DocumentId} {k : NodeId}

theorem Binding.display_of_ne (h : ¬ (b.document = i ∧ b.node = k)) (n : Node) :
    b.display tree i k n = n :=
  if_neg h

theorem Binding.display_of_ok {text : String} (h : b.template.shown tree = .ok text) (n : Node) :
    b.display tree b.document b.node n = { n with data := n.data.withText text } := by
  rw [display, if_pos ⟨rfl, rfl⟩, h]

theorem Binding.display_of_error {fault : Fault} (h : b.template.shown tree = .error fault)
    (i : DocumentId) (k : NodeId) (n : Node) : b.display tree i k n = n := by
  rw [display, h]
  split <;> rfl

/-- A fragment has no text to be set. -/
theorem Binding.display_of_fragment (b : Binding) {n : Node} (h : n.data = .fragment) :
    b.display tree i k n = n := by
  obtain ⟨data, parent, children⟩ := n
  cases h
  rw [display]
  split
  · split <;> rfl
  · rfl

/-- Renderings leave links alone. -/
theorem Binding.links_display (tree : Value) (i : DocumentId) (k : NodeId) (b : Binding)
    (n : Node) :
    (b.display tree i k n).parent = n.parent ∧ (b.display tree i k n).children = n.children := by
  rw [display]
  split
  · split <;> exact ⟨rfl, rfl⟩
  · exact ⟨rfl, rfl⟩

theorem links_displayAll (tree : Value) (bs : List Binding) (i : DocumentId) (k : NodeId)
    (n : Node) :
    (displayAll tree bs i k n).parent = n.parent ∧
      (displayAll tree bs i k n).children = n.children := by
  rw [displayAll]
  induction bs generalizing n with
  | nil => exact ⟨rfl, rfl⟩
  | cons b rest ih =>
    obtain ⟨hparent, hchildren⟩ := b.links_display tree i k n
    rw [List.foldl_cons, (ih _).1, (ih _).2]
    exact ⟨hparent, hchildren⟩

/-- Renderings of bindings of other nodes cannot be seen from a node. -/
theorem displayAll_of_ne (h : ∀ b ∈ bs, ¬ (b.document = i ∧ b.node = k)) (n : Node) :
    displayAll tree bs i k n = n := by
  rw [displayAll]
  induction bs generalizing n with
  | nil => rfl
  | cons b rest ih =>
    rw [List.foldl_cons, Binding.display_of_ne (h b (List.mem_cons_self ..))]
    exact ih (fun b' hb' => h b' (List.mem_cons_of_mem _ hb')) n

/-- A node that one of the bindings has to itself. -/
theorem displayAll_of_sole (hb : b ∈ bs) (hnodes : (bs.map Binding.node).Nodup) (n : Node) :
    displayAll tree bs b.document b.node n = b.display tree b.document b.node n := by
  induction bs generalizing n with
  | nil => cases hb
  | cons b' rest ih =>
    rw [List.map_cons, List.nodup_cons] at hnodes
    rw [displayAll, List.foldl_cons]
    rcases List.mem_cons.mp hb with rfl | hb
    · -- Nobody behind the binding writes to its node any more.
      refine displayAll_of_ne (fun b₂ hb₂ hplace => hnodes.1 ?_) _
      exact hplace.2 ▸ List.mem_map_of_mem hb₂
    · have hother : ¬ (b'.document = b.document ∧ b'.node = b.node) := by
        rintro ⟨-, hnode⟩
        exact hnodes.1 (hnode ▸ List.mem_map_of_mem hb)
      rw [Binding.display_of_ne hother]
      exact ih hb hnodes.2 n

end Display

namespace Session

variable {w w' w'' : Session} {tree : Value} {bs bs' : List Binding}

/-! ## Documents -/

/-- What renderings of bindings for a tree do to all documents. -/
structure Displays (w w' : Session) (tree : Value) (bs : List Binding) : Prop where
  size : w'.documents.size = w.documents.size
  node? : ∀ i k,
    (w'.document i).node? k = ((w.document i).node? k).map (displayAll tree bs i k)

namespace Displays

theorem refl (w : Session) (tree : Value) : Displays w w tree [] := by
  refine ⟨rfl, fun i k => ?_⟩
  cases (w.document i).node? k <;> rfl

/-- Only documents matter. -/
theorem of_documents {v v' : Session} (h : Displays w w' tree bs)
    (hbefore : v.documents = w.documents) (hafter : v'.documents = w'.documents) :
    Displays v v' tree bs := by
  refine ⟨by rw [hafter, hbefore, h.size], fun i k => ?_⟩
  rw [document, document, hafter, hbefore]
  exact h.node? i k

theorem append (h : Displays w w' tree bs) (h' : Displays w' w'' tree bs') :
    Displays w w'' tree (bs ++ bs') := by
  refine ⟨h'.size.trans h.size, fun i k => ?_⟩
  rw [h'.node?, h.node?, Option.map_map]
  congr 1
  funext n
  exact (List.foldl_append ..).symm

/-- Renderings leave all links alone. -/
theorem links (h : Displays w w' tree bs) (i : DocumentId) (k : NodeId) :
    (w'.document i).children k = (w.document i).children k ∧
      (w'.document i).parent? k = (w.document i).parent? k := by
  simp only [Document.children_eq, Document.parent?_eq, h.node?]
  cases (w.document i).node? k with
  | none => exact ⟨rfl, rfl⟩
  | some n =>
    obtain ⟨hparent, hchildren⟩ := links_displayAll tree bs i k n
    exact ⟨hchildren, hparent⟩

theorem data (h : Displays w w' tree bs) {i : DocumentId} {k : NodeId} {n : Node}
    (hn : (w.document i).node? k = some n) :
    (w'.document i).data k = (displayAll tree bs i k n).data := by
  rw [Document.data_eq, h.node?, hn]
  rfl

/-- A node that none of the bindings has. -/
theorem data_of_ne (h : Displays w w' tree bs) {i : DocumentId} {k : NodeId}
    (hne : ∀ b ∈ bs, ¬ (b.document = i ∧ b.node = k)) :
    (w'.document i).data k = (w.document i).data k := by
  simp only [Document.data_eq, h.node?]
  cases (w.document i).node? k with
  | none => rfl
  | some n => simp only [Option.map_some, displayAll_of_ne hne]

/-- Documents of which none of the bindings has a node. -/
theorem document_of_ne (h : Displays w w' tree bs) {i : DocumentId}
    (hne : ∀ b ∈ bs, b.document ≠ i) : w'.document i = w.document i := by
  apply Document.ext_node?
  intro k
  have hnothing : displayAll tree bs i k = id :=
    funext fun n => displayAll_of_ne (fun b hb hplace => hne b hb hplace.1) n
  rw [h.node?, hnothing, Option.map_id]
  rfl

/-- A text node that one of the bindings has to itself: it shows what the template comes to, and if
that is nothing, what it has shown before. -/
theorem data_of_sole (h : Displays w w' tree bs) {b : Binding} (hb : b ∈ bs)
    (hnodes : (bs.map Binding.node).Nodup) {s : String}
    (hs : (w.document b.document).data b.node = .text s) :
    (w'.document b.document).data b.node = .text ((b.template.shown tree).toOption.getD s) := by
  rw [Document.data_eq] at hs
  cases hn : (w.document b.document).node? b.node with
  | none => simp [hn] at hs
  | some n =>
    have htext : n.data = .text s := by simpa [hn] using hs
    rw [h.data hn, displayAll_of_sole hb hnodes]
    cases hshown : b.template.shown tree with
    | ok text =>
      simp only [Binding.display_of_ok hshown, htext]
      rfl
    | error fault =>
      simp only [Binding.display_of_error hshown, htext]
      rfl

end Displays

/-! ## Renderings -/

/-- A rendering displays what the template comes to. -/
theorem displays_afterReading (w : Session) (set : BindingSetId) (index : Nat) (b : Binding)
    (st : State) (tree : Value) :
    Displays w (w.afterReading set index b st (b.template.shown tree)) tree [b] := by
  cases hshown : b.template.shown tree with
  | error fault =>
    refine ⟨rfl, fun i k => ?_⟩
    have hnothing : displayAll tree [b] i k = id :=
      funext fun n => Binding.display_of_error hshown i k n
    rw [hnothing, Option.map_id]
    rfl
  | ok text =>
    refine ⟨Array.size_modify, fun i k => ?_⟩
    have hdocument : (w.afterReading set index b st (.ok text)).document i =
        (w.modifyDocument b.document (·.setText b.node text)).document i := rfl
    rw [hdocument, document_modifyDocument]
    by_cases hi : b.document = i ∧ b.document < w.documents.size
    · rw [if_pos hi, Document.node?_setText]
      congr 1
      funext n
      simp only [displayAll, List.foldl_cons, List.foldl_nil, Binding.display, hshown, hi.1,
        true_and]
    · -- The document of the binding is another one, or there is none and hence no text.
      rw [if_neg hi]
      by_cases hsame : b.document = i
      · have hempty : w.document i = Document.empty := by
          rw [Session.document, Array.getElem?_eq_none (by subst hsame; simpa using hi)]
          rfl
        rw [hempty]
        cases k with
        | zero => exact congrArg some (b.display_of_fragment rfl).symm
        | succ k => rfl
      · have hnothing : displayAll tree [b] i k = id :=
          funext fun n => Binding.display_of_ne (fun hplace => hsame hplace.1) n
        rw [hnothing, Option.map_id]
        rfl

end Session

end LiveText
