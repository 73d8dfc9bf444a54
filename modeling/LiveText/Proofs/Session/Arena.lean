import Mathlib
import LiveText.Proofs.Document.Edits
import LiveText.Proofs.Session.Frames

/-!
# Documents that can come about

A document begins empty or is read from markup. From then on it is edited, gets more markup, and is
compiled. All of these come down to edits: a compilation makes a fragment, moves the children of a
node there, sets texts, and moves the children back. So the links of every document agree, and it
has no cycle unless an edit of its own has closed one.

## Main definitions

- `Document.Changed`, `Document.Reached`: one change of a document, and all that changes lead to.
- `Session.Retexted`: a document in which texts have been set.

## Main statements

- `edits_compile`: a compilation edit by edit.
- `reached_is_sound`: the links of a document that can come about.
-/

namespace LiveText

namespace Session

variable {careful : Prop} {w w' : Session} {document : DocumentId} {node : NodeId}
  {state : StateId} {collector : CollectorId}

/-! ## Texts -/

/-- Texts of a document have been set, and nothing else has been done. -/
structure Retexted (careful : Prop) (d d' : Document) : Prop where
  edits : Document.Edits careful d d'
  size : d'.size = d.size
  links : ∀ k, d'.children k = d.children k ∧ d'.parent? k = d.parent? k

namespace Retexted

theorem refl (careful : Prop) (d : Document) : Retexted careful d d :=
  ⟨.refl careful d, rfl, fun _ => ⟨rfl, rfl⟩⟩

theorem trans {d d' d'' : Document} (h : Retexted careful d d') (h' : Retexted careful d' d'') :
    Retexted careful d d'' :=
  ⟨h.edits.trans h'.edits, h'.size.trans h.size,
    fun k => ⟨(h'.links k).1.trans (h.links k).1, (h'.links k).2.trans (h.links k).2⟩⟩

theorem setText (careful : Prop) (d : Document) (k : NodeId) (text : String) :
    Retexted careful d (d.setText k text) :=
  ⟨.single (.setText k text), Document.size_update .., d.links_setText k text⟩

end Retexted

/-- Texts of documents have been set; there are as many documents as before. -/
structure Retexts (careful : Prop) (w w' : Session) : Prop where
  size : w'.documents.size = w.documents.size
  document : ∀ i, Retexted careful (w.document i) (w'.document i)

namespace Retexts

theorem of_documents (careful : Prop) (h : w'.documents = w.documents) : Retexts careful w w' :=
  ⟨congrArg Array.size h, fun i => document_congr h i ▸ .refl careful _⟩

theorem trans {w'' : Session} (h : Retexts careful w w') (h' : Retexts careful w' w'') :
    Retexts careful w w'' :=
  ⟨h'.size.trans h.size, fun i => (h.document i).trans (h'.document i)⟩

end Retexts

/-- A rendering sets one text at most. -/
theorem retexts_renderBinding (careful : Prop) (w : Session) (set : BindingSetId) (index : Nat) :
    Retexts careful w (w.renderBinding set index).2 := by
  rcases snd_renderBinding_cases w set index with h | ⟨fault, h⟩ | ⟨b, st, result, h⟩
  · exact .of_documents careful (by rw [h])
  · exact .of_documents careful (by rw [h]; rfl)
  · rw [h]
    cases result with
    | error fault => exact .of_documents careful rfl
    | ok text =>
      refine ⟨Array.size_modify, fun i => ?_⟩
      have hdocument : (w.afterReading set index b st (.ok text)).document i =
          ((w.setState b.state st).modifyDocument b.document (·.setText b.node text)).document i :=
        rfl
      rw [hdocument, document_modifyDocument]
      split
      · exact .setText careful _ b.node text
      · exact .refl careful _

theorem retexts_bindTexts (careful : Prop) (w : Session) (set : BindingSetId)
    (document : DocumentId) (state : StateId) (collector : CollectorId) (ks : List NodeId) :
    Retexts careful w (bindTexts set document state collector ks w).2 :=
  bindTexts_respects (R := Retexts careful) (fun _ => .of_documents careful rfl) Retexts.trans
    (fun _ _ _ => .of_documents careful rfl) (retexts_renderBinding careful · set) document state
    collector ks w

/-! ## Compilations -/

/-- Whatever comes of a compilation, the documents are those after the children of the node have
been moved back. -/
theorem documents_compile (careful : Prop) (w : Session) (document : DocumentId) (node : NodeId)
    (state : StateId) (collector : CollectorId) :
    ∃ after, Retexts careful (w.opened document node) after ∧
      (w.compile document node state collector).2.documents =
        (w.closed after document node).documents := by
  have htexts := retexts_bindTexts careful ((w.opened document node).hold
    [.bindings w.bindingSets.size]) w.bindingSets.size document state collector
    (((w.opened document node).document document).outerTexts (w.document document).size)
  rw [compile_eq]
  generalize bindTexts _ _ _ _ _ _ = bound at htexts ⊢
  refine ⟨bound.2, ⟨htexts.size, htexts.document⟩, ?_⟩
  rw [concluded]
  cases bound.1 <;> rfl

/-- While the children of a node are in a fragment, what lies above a node is the fragment or has
lain above it before. -/
theorem above_of_above_moved {d d' : Document} (hmoved : Document.Moved d.createFragment.2 d' node
    d.size) {a k : NodeId} (h : d'.Above a k) : a = d.size ∨ d.Above a k := by
  have hparent : ∀ k p, d'.parent? k = some p → p = d.size ∨ d.parent? k = some p := by
    intro k p hp
    rw [hmoved.parent?] at hp
    split at hp
    · exact .inl (Option.some.inj hp).symm
    · exact .inr ((d.links_createFragment k).2.1 ▸ hp)
  induction h with
  | parent hk => exact (hparent _ _ hk).imp_right .parent
  | step hk _ ih =>
    rcases ih with ih | ih
    · exact .inl ih
    · rcases hparent _ _ hk with rfl | hk
      · exact absurd ih.lt_size (Nat.lt_irrefl _)
      · exact .inr (.step hk ih)

/-- A fragment that has taken the children of a node holds them, whatever texts are set. -/
theorem children_fragment {d d' : Document} (hlinked : d.Linked) (node : NodeId)
    (htexts : Retexted careful (d.createFragment.2.moveChildren node d.size) d') :
    d'.children d.size = d.children node := by
  have hmoved := Document.moved_createFragment hlinked node
  have hfragment := d.links_createFragment
  rw [(htexts.links _).1, hmoved.children, (hfragment _).1, (hfragment _).1, if_pos rfl,
    Document.children_of_le (Nat.le_refl d.size), List.nil_append]
  split
  · next hnode => rw [← hnode, Document.children_of_le (Nat.le_refl d.size)]
  · rfl

/-- A new fragment takes the children of a node. No move is careless, since nothing lies above the
fragment. -/
theorem edits_there {d : Document} (hlinked : d.Linked) (node : NodeId) :
    Document.Edits careful d (d.createFragment.2.moveChildren node d.size) := by
  have hfragment := d.links_createFragment
  have hmade : Document.Edits careful d d.createFragment.2 := .single .createFragment
  refine hmade.trans (Document.edits_moveChildren ?_ ?_ ?_)
  · rw [Document.size_createFragment]
    exact Nat.lt_succ_self _
  · intro c hc
    rw [(hfragment node).1] at hc
    have hchild := Document.lt_size_of_parent? ((hlinked.child_iff c node).mp hc)
    exact Document.size_createFragment d ▸ hchild.trans (Nat.lt_succ_self _)
  · intro _ c hc
    rw [(hfragment node).1] at hc
    have hchild := Document.lt_size_of_parent? ((hlinked.child_iff c node).mp hc)
    refine ⟨hchild.ne', fun habove => ?_⟩
    have habove' := habove.of_parent? fun j _ hj => (hfragment j).2.1 ▸ hj
    exact Nat.lt_irrefl _ habove'.lt_size

/-- A fragment takes the children of a node, texts are set, and the children go back. No move is
careless, unless there has been a cycle already. -/
theorem edits_there_and_back {d d' : Document} (hlinked : d.Linked) (hacyclic : careful → d.Acyclic)
    (node : NodeId)
    (htexts : Retexted careful (d.createFragment.2.moveChildren node d.size) d') :
    Document.Edits careful d (d'.moveChildren d.size node) := by
  have hmoved := Document.moved_createFragment hlinked node
  have hchildren : ∀ c ∈ d.children node, c < d.size := fun c hc =>
    Document.lt_size_of_parent? ((hlinked.child_iff c node).mp hc)
  refine ((edits_there hlinked node).trans htexts.edits).trans ?_
  have hheld := children_fragment hlinked node htexts
  by_cases hnode : node < d.size
  · have hsize : d'.size = d.size + 1 :=
      htexts.size.trans (hmoved.size.trans (Document.size_createFragment d))
    apply Document.edits_moveChildren
    · exact hsize ▸ hnode.trans (Nat.lt_succ_self _)
    · intro c hc
      rw [hheld] at hc
      exact hsize ▸ (hchildren c hc).trans (Nat.lt_succ_self _)
    · intro h c hc
      rw [hheld] at hc
      have hbelow := Document.above_of_mem_children hlinked hc
      refine ⟨?_, fun habove => ?_⟩
      · rintro rfl
        exact hacyclic h _ hbelow
      · have habove' := habove.of_parent? fun j _ hj => (htexts.links j).2 ▸ hj
        rcases above_of_above_moved hmoved habove' with heq | habove'
        · exact (hchildren c hc).ne heq
        · exact hacyclic h _ (hbelow.trans habove')
  · rw [Document.children_of_le (Nat.le_of_not_lt hnode)] at hheld
    rw [Document.moveChildren_of_nil hheld]
    exact .refl careful d'

/-- A compilation edits its document, and carefully so if there has been no cycle before. -/
theorem edits_compile (hlinked : (w.document document).Linked)
    (hacyclic : careful → (w.document document).Acyclic) (node : NodeId) (state : StateId)
    (collector : CollectorId) :
    Document.Edits careful (w.document document)
      ((w.compile document node state collector).2.document document) := by
  obtain ⟨after, htexts, hdocuments⟩ :=
    documents_compile careful w document node state collector
  rw [document_congr hdocuments]
  have hsize : after.documents.size = w.documents.size :=
    htexts.size.trans (size_documents_opened w document node)
  by_cases hdocument : document < w.documents.size
  · have htext := htexts.document document
    rw [document_opened hdocument] at htext
    rw [document_closed hsize hdocument]
    exact edits_there_and_back hlinked hacyclic node htext
  · -- A document that there is not is as empty afterwards.
    have hnone : ∀ w' : Session, w'.documents.size = w.documents.size →
        w'.document document = Document.empty := by
      intro w' hw'
      rw [Session.document, Array.getElem?_eq_none (hw' ▸ Nat.le_of_not_lt hdocument)]
      rfl
    rw [hnone w rfl, hnone _ (Array.size_modify.trans hsize)]
    exact .refl careful _

end Session

/-! ## All that comes about -/

namespace Document

variable {careful : Prop} {d : Document}

/-- One change of a document: an edit, more markup, or a compilation in whatever session the
document belongs to. -/
inductive Changed (careful : Prop) (d : Document) : Document → Prop where
  | edited {d' : Document} (h : Edited careful d d') : Changed careful d d'
  | appendMarkup {parent : NodeId} (hparent : parent < d.size) (source : String) :
      Changed careful d (d.appendMarkup parent source).2
  | compiled {w : Session} {document : DocumentId} (h : w.document document = d) (node : NodeId)
      (state : StateId) (collector : CollectorId) :
      Changed careful d ((w.compile document node state collector).2.document document)

/-- What comes about by changes from an empty document or from one that has been read. -/
inductive Reached (careful : Prop) : Document → Prop where
  | empty : Reached careful empty
  | parse (source : String) : Reached careful (parse source)
  | changed {d d' : Document} (h : Reached careful d) (hchanged : Changed careful d d') :
      Reached careful d'

/-- Every change comes down to edits, and to careful ones if there has been no cycle before. -/
theorem edits_of_changed {d' : Document} (hlinked : d.Linked) (hacyclic : careful → d.Acyclic)
    (h : Changed careful d d') : Edits careful d d' := by
  cases h with
  | edited h => exact .single h
  | appendMarkup hparent source => exact edits_appendMarkup careful hlinked hparent source
  | compiled h node state collector =>
    subst h
    exact Session.edits_compile hlinked hacyclic node state collector

theorem edits_of_reached (h : Reached careful d) : Edits careful empty d := by
  induction h with
  | empty => exact .refl careful _
  | parse source => exact edits_parse careful source
  | changed _ hchanged ih =>
    refine ih.trans (edits_of_changed (ih.linked linked_empty) (fun hcareful => ?_) hchanged)
    exact ih.acyclic hcareful acyclic_empty

theorem Reached.linked (h : Reached careful d) : d.Linked :=
  (edits_of_reached h).linked linked_empty

theorem Reached.acyclic (h : Reached careful d) (hcareful : careful) : d.Acyclic :=
  (edits_of_reached h).acyclic hcareful acyclic_empty

/-- What has no children may be appended anywhere else. -/
theorem Reached.append_leaf (h : Reached careful d) {parent child : NodeId}
    (hplaces : parent < d.size ∧ child < d.size ∧ parent ≠ child ∧ d.children child = []) :
    Reached careful (d.append parent child) := by
  obtain ⟨hparent, hchild, hne, hleaf⟩ := hplaces
  have hedit : Edited careful d (d.append parent child) :=
    .append hparent hchild fun _ => ⟨hne, h.linked.not_above_of_leaf hleaf parent⟩
  exact h.changed (.edited hedit)

/-- The root is a fragment, whatever happens. -/
theorem data_root_of_reached (h : Reached careful d) : d.data root = .fragment := by
  have hkind := kind_data_of_edits (edits_of_reached h) (j := root) (by decide)
  cases hdata : d.data root with
  | fragment => rfl
  | _ =>
    rw [hdata] at hkind
    cases hkind

/-- The first child that is taken away is the head of the list; all other links stay. -/
theorem Linked.moveFirstChild (h : d.Linked) {n c : NodeId} {rest : List NodeId}
    (hchildren : d.children n = c :: rest) :
    ∃ d', d.moveFirstChild? n = some (c, d') ∧ d'.parent? c = none ∧ d'.children n = rest ∧
      (∀ k, k ≠ c → d'.parent? k = d.parent? k) ∧ (∀ k, k ≠ n → d'.children k = d.children k) ∧
      ∀ k, d'.data k = d.data k := by
  have hnodup := h.nodup n
  rw [hchildren, List.nodup_cons] at hnodup
  have hc : d.parent? c = some n := h.mem_children_iff.mp (hchildren ▸ List.mem_cons_self ..)
  refine ⟨d.detach c, by rw [moveFirstChild?, hchildren], ?_, ?_, fun k hk => ?_, fun k hk => ?_,
    d.data_detach c⟩
  · rw [parent?_detach, if_pos rfl]
  · rw [h.children_detach, hchildren, List.filter_cons_of_neg (by simp)]
    refine List.filter_eq_self.mpr fun k hk => decide_eq_true ?_
    rintro rfl
    exact hnodup.1 hk
  · rw [parent?_detach, if_neg hk]
  · rw [Document.children_detach hc, if_neg hk]

/-- The links of every document that comes about agree, so that each node is listed once by its
parent and by no other node. Moves take no node away. Without careless edits no node lies above
itself, and markup and compilations are careful by themselves. -/
theorem reached_is_sound (h : Reached careful d) :
    d.Linked ∧
    (∀ c p, (d.children p).count c = if d.parent? c = some p then 1 else 0) ∧
    (∀ d', Changed careful d d' → d.size ≤ d'.size) ∧
    (careful → d.Acyclic) ∧
    (∀ n, d.children n = [] → d.moveFirstChild? n = none) ∧
    (∀ n c rest, d.children n = c :: rest →
      ∃ d', d.moveFirstChild? n = some (c, d') ∧ d'.parent? c = none ∧ d'.children n = rest ∧
        (∀ k, k ≠ c → d'.parent? k = d.parent? k) ∧
        (∀ k, k ≠ n → d'.children k = d.children k) ∧ ∀ k, d'.data k = d.data k) ∧
    (∀ source, Edits careful empty (parse source)) ∧
    ∀ d', Changed careful d d' → Edits careful d d' := by
  have hlinked := h.linked
  have hacyclic : careful → d.Acyclic := h.acyclic
  have hchanged : ∀ d', Changed careful d d' → Edits careful d d' := fun _ =>
    edits_of_changed hlinked hacyclic
  refine ⟨hlinked, fun c p => ?_, fun d' hd' => (hchanged d' hd').size_le, hacyclic,
    fun n hn => by rw [moveFirstChild?, hn], fun _ _ _ => hlinked.moveFirstChild,
    edits_parse careful, hchanged⟩
  rw [(hlinked.nodup p).count]
  exact if_congr hlinked.mem_children_iff rfl rfl

/-- An element gets a text and another element, and then the text once more. It is last from then
on, and the other element is what is taken away first. -/
theorem first_child_after_reappending :
    let made := (((empty.createElement "DIV").2.createText "a").2.createElement "p").2
    let page := (((made.append 0 1).append 1 2).append 1 3).append 1 2
    Reached True page ∧ page.Linked ∧ page.Acyclic ∧ page.data 1 = .element "div" [] ∧
      page.children 1 = [3, 2] ∧
      ∃ d', page.moveFirstChild? 1 = some (3, d') ∧ d'.parent? 3 = none ∧ d'.children 1 = [2] := by
  intro made page
  have hedit : ∀ {d d' : Document}, Reached True d → Edited True d d' → Reached True d' :=
    fun h hedit => h.changed (.edited hedit)
  have hmade : Reached True made :=
    hedit (hedit (hedit .empty (.createElement "DIV")) (.createText "a")) (.createElement "p")
  have hdiv : Reached True (made.append 0 1) := hmade.append_leaf (by decide +kernel)
  have htext : Reached True ((made.append 0 1).append 1 2) :=
    hdiv.append_leaf (by decide +kernel)
  have hboth : Reached True (((made.append 0 1).append 1 2).append 1 3) :=
    htext.append_leaf (by decide +kernel)
  have hpage : Reached True page := hboth.append_leaf (by decide +kernel)
  obtain ⟨hlinked, -, -, hacyclic, -, hfirst, -⟩ := reached_is_sound hpage
  have hchildren : page.children 1 = [3, 2] := by decide +kernel
  obtain ⟨d', hmove, hparent, hrest, -⟩ := hfirst 1 3 [2] hchildren
  exact ⟨hpage, hlinked, hacyclic trivial, by decide +kernel, hchildren, d', hmove, hparent, hrest⟩

end Document

end LiveText
