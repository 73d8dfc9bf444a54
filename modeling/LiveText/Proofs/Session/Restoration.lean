import Mathlib
import LiveText.Proofs.Document.Order
import LiveText.Proofs.Session.BoundTexts
import LiveText.Proofs.State.History

/-!
# What a compilation leaves behind

A compilation takes the children of a node away, binds the texts below them, and puts the children
back. In a document without cycles in which texts have no children, nothing of this shows: every
link is as before, and of the data only the texts with placeholders below the node have changed. An
empty fragment is all that is left over.

## Main definitions

- `Document.BoundBelow`: a document after the texts below a node have been bound.

## Main statements

- `mem_textsBelow`: a compilation meets the texts that a walk from the node comes to.
- `textsBelow_eq`: a compilation meets the texts strictly below the node, in document order.
- `restored_closed`, `boundBelow_closed`: the links, and all that nodes hold.
- `compile_restores`: what a compilation leaves behind, and the bindings that it makes.
-/

namespace LiveText

/-- A document after the texts below a node have been bound to a tree. There is one more node, an
empty detached fragment; links are as before, and so is what nodes hold that are not below. -/
structure Document.BoundBelow (d d' : Document) (node : NodeId) (tree : Value) : Prop where
  size : d'.size = d.size + 1
  fragment : d'.node? d.size = some { data := .fragment }
  children : ∀ k, d'.children k = d.children k
  parent? : ∀ k, d'.parent? k = d.parent? k
  below : ∀ k, d.Above node k → d'.data k = (d.data k).bound tree
  others : ∀ k, ¬ d.Above node k → d'.data k = d.data k

namespace Session

variable {w w' : Session} {document : DocumentId} {node : NodeId} {state : StateId}
  {collector : CollectorId}

/-! ## The texts that are met -/

/-- A compilation meets the texts that a traversal from the node meets, although the children are
elsewhere at that time. -/
theorem textsBelow_eq_outerTextsTo {d : Document} (hlinked : d.Linked) (hacyclic : d.Acyclic)
    (node : NodeId) : textsBelow d node = d.outerTextsTo (d.size + 1) node := by
  have hmoved := Document.moved_createFragment hlinked node
  have hfragment := d.links_createFragment
  rw [textsBelow]
  generalize d.createFragment.2.moveChildren node d.size = d₁ at hmoved ⊢
  -- The fragment has the children of the node.
  have hchildren : d₁.children d.size = d.children node := by
    rw [hmoved.children, (hfragment _).1, (hfragment _).1, if_pos rfl,
      Document.children_of_le (Nat.le_refl d.size), List.nil_append]
    split
    · next hnode => rw [← hnode, Document.children_of_le (Nat.le_refl d.size)]
    · rfl
  have hdata : ∀ k, d₁.data k = d.data k := fun k => (hmoved.data k).trans (hfragment k).2.2
  -- What is at a child or below it is where it was, since it is neither the node nor new.
  have hbelow : ∀ c ∈ d.children node,
      d₁.outerTextsTo d.size c = d.outerTextsTo d.size c := by
    intro c hc
    have habove := Document.above_of_mem_children hlinked hc
    apply Document.outerTextsTo_congr hlinked
    intro j hj
    have hnode : d.Above node j := by
      rcases hj with rfl | hj
      · exact habove
      · exact habove.trans hj
    have hne : j ≠ node := by
      rintro rfl
      exact hacyclic j hnode
    refine ⟨?_, hdata j⟩
    rw [hmoved.children, if_neg hne, if_neg hnode.lt_size.ne, List.append_nil]
    exact (hfragment j).1
  rw [Document.outerTexts, hmoved.size, Document.size_createFragment, Document.outerTextsTo,
    Document.outerTextsTo, hchildren]
  refine List.flatMap_congr fun c hc => ?_
  rw [hdata, hbelow c hc]

/-- The texts that a compilation meets are those that a walk from the node comes to. -/
theorem mem_textsBelow {d : Document} (hlinked : d.Linked) (hacyclic : d.Acyclic)
    {node k : NodeId} : k ∈ textsBelow d node ↔ d.WalksTo node k := by
  rw [textsBelow_eq_outerTextsTo hlinked hacyclic]
  exact Document.mem_outerTextsTo hlinked hacyclic (by omega)

/-- If texts have no children, a compilation meets the texts strictly below the node, in document
order. -/
theorem textsBelow_eq {d : Document} (hlinked : d.Linked) (hacyclic : d.Acyclic)
    (hleaves : ∀ k s, d.data k = .text s → d.children k = []) (node : NodeId) :
    textsBelow d node = (d.nodesBelow node).filter fun k => (d.data k).kind == .text := by
  rw [textsBelow_eq_outerTextsTo hlinked hacyclic, Document.outerTextsTo_eq hleaves,
    Document.preorderTo_succ hlinked (hacyclic node) (Nat.le_add_left ..)]
  rfl

/-- Nodes without a text are passed over as well as those whose text is no template. -/
theorem filterMap_texts (d : Document) (ks : List NodeId) :
    (ks.filter fun k => (d.data k).kind == .text).filterMap
        (fun k => (Template.parse (d.text k)).map (k, ·)) =
      ks.filterMap fun k => (Template.parse (d.text k)).map (k, ·) := by
  rw [List.filterMap_filter]
  refine List.filterMap_congr fun k _ => ?_
  cases hparse : Template.parse (d.text k) with
  | none => exact ite_self _
  | some t =>
    rw [Document.data_of_text_ne (Template.ne_empty_of_parse hparse)]
    rfl

/-! ## Back in their places -/

section Closed

variable {set : BindingSetId} {tree : Value} {after : Session} {bs : List Binding}

/-- Once the children are back all links are as they were, since the renderings in between have
touched none of them. -/
theorem restored_closed (hdocument : document < w.documents.size)
    (hlinked : (w.document document).Linked)
    (hbound : BoundTo ((w.opened document node).hold [.bindings set]) after set document state
      collector tree bs) (k : NodeId) :
    let d := w.document document
    let d' := (w.closed after document node).document document
    d'.size = d.size + 1 ∧ d'.children k = d.children k ∧ d'.parent? k = d.parent? k ∧
      d'.data k = (after.document document).data k := by
  have hsizes : after.documents.size = w.documents.size :=
    hbound.displays.size.trans (size_documents_opened w document node)
  have hopened : ((w.opened document node).hold [.bindings set]).document document =
      (w.document document).createFragment.2.moveChildren node (w.document document).size :=
    document_opened hdocument node
  rw [document_closed hsizes hdocument]
  apply Document.restored hlinked
  case hsize =>
    have hnodes := hbound.displays.node? document
    rw [hopened] at hnodes
    rw [← Document.size_createFragment, ← (Document.moved_createFragment hlinked node).size]
    apply Document.size_eq_of_node?
    intro k
    rw [hnodes, Option.isSome_map]
  case hlinks =>
    intro k
    rw [← hopened]
    exact hbound.displays.links document k

/-- The document of a compilation, once the children are back. -/
theorem boundBelow_closed (hdocument : document < w.documents.size)
    (hlinked : (w.document document).Linked) (hacyclic : (w.document document).Acyclic)
    (hleaves : ∀ k s, (w.document document).data k = .text s →
      (w.document document).children k = [])
    (hbound : BoundTo ((w.opened document node).hold [.bindings set]) after set document state
      collector tree bs)
    (hdata : ∀ k, (after.document document).data k =
      if k ∈ textsBelow (w.document document) node then
        ((w.document document).data k).bound tree
      else (w.document document).data k) :
    (w.document document).BoundBelow ((w.closed after document node).document document) node
      tree := by
  have hback := restored_closed hdocument hlinked hbound
  generalize (w.closed after document node).document document = d' at hback ⊢
  generalize w.document document = d at hlinked hacyclic hleaves hdata hback ⊢
  have hdatas := fun k => (hback k).2.2.2.trans (hdata k)
  have htexts : ∀ k, k ∈ textsBelow d node ↔
      d.Above node k ∧ ((d.data k).kind == .text) = true := by
    intro k
    rw [textsBelow_eq hlinked hacyclic hleaves, List.mem_filter,
      Document.mem_nodesBelow hlinked hacyclic]
  refine ⟨(hback 0).1, ?fragment, fun k => (hback k).2.1, fun k => (hback k).2.2.1, ?below, ?others⟩
  case fragment =>
    obtain ⟨hsize, hchildren, hparent, -⟩ := hback d.size
    have hlt : d.size < d'.size := by
      rw [hsize]
      exact Nat.lt_succ_self _
    have hnone := Document.node?_eq_none_of_le (Nat.le_refl d.size)
    have hnew : d.size ∉ textsBelow d node := fun h =>
      Nat.lt_irrefl _ ((htexts _).mp h).1.lt_size
    rw [Document.node?_of_lt hlt, hdatas, if_neg hnew, hparent, hchildren, Document.data_eq,
      Document.parent?_eq, Document.children_eq, hnone]
    rfl
  case below =>
    intro k hk
    rw [hdatas]
    split
    · rfl
    · next hno =>
      symm
      apply NodeData.bound_of_not_parse
      intro s hs
      exact absurd ((htexts k).mpr ⟨hk, by rw [hs]; rfl⟩) hno
  case others =>
    intro k hk
    rw [hdatas, if_neg fun h => hk ((htexts k).mp h).1]

end Closed

/-! ## Compilations -/

/-- A compilation restores the document and binds the texts with placeholders below the node, one
binding each in document order. It is given a document whose links agree and form no cycle and in
which texts have no children, a state with any history, and a collector that is not busy. -/
theorem compile_restores {data : Value} {history : List State.Event} (hdata : data.WellFormed)
    (hh : ∀ e ∈ history, e.WellFormed)
    (hstate : w.state state = (State.after data history).state)
    (hidle : (w.collector collector).active = none)
    (hdocument : document < w.documents.size)
    (hlinked : (w.document document).Linked) (hacyclic : (w.document document).Acyclic)
    (hleaves : ∀ k s, (w.document document).data k = .text s →
      (w.document document).children k = [])
    (node : NodeId) :
    let d := w.document document
    let set := w.bindingSets.size
    let tree := (w.state state).snapshot
    ∃ w', w.compile document node state collector = (.ok set, w') ∧
      (w'.bindings set).map (fun b => (b.node, b.template)) =
        (d.nodesBelow node).filterMap (fun k => (Template.parse (d.text k)).map (k, ·)) ∧
      (∀ k, d.nodesBelow k = (d.children k).flatMap fun c => c :: d.nodesBelow c) ∧
      (∀ k, k ∈ d.nodesBelow node ↔ d.Above node k) ∧ (d.nodesBelow node).Nodup ∧
      (∀ b ∈ w'.bindings set,
        b.document = document ∧ b.state = state ∧ b.collector = collector) ∧
      d.BoundBelow (w'.document document) node tree ∧
      (∀ i, i ≠ document → w'.document i = w.document i) ∧
      (∀ c, w'.collector c = w.collector c) ∧
      (∀ q, (w'.state state).valueAt? q = (w.state state).valueAt? q) ∧
      (w'.state state).snapshot = tree ∧
      ∀ i, i ≠ state → w'.state i = w.state i := by
  intro d set tree
  have hrep : (w.state state).Represents tree := by
    have hafter := State.represents_after hdata hh
    rw [← hstate] at hafter
    have htree : tree = State.treeAfter data history := hafter.snapshot_eq
    rwa [htree]
  obtain ⟨w', after, bs, hcompile, hdocuments, hstates, hcollectors, hbindings, hbound, htexts,
    -⟩ :=
    compile_of_idle hdocument hidle hrep node
  have hnodup : (textsBelow d node).Nodup := by
    rw [textsBelow_eq hlinked hacyclic hleaves]
    exact (Document.nodup_nodesBelow hlinked hacyclic node).filter _
  -- When texts are bound, what nodes hold is what they held before the children were moved.
  have hsame : ∀ k, (((w.opened document node).hold
      [.bindings w.bindingSets.size]).document document).data k = d.data k := by
    intro k
    have hopened : ((w.opened document node).hold [.bindings w.bindingSets.size]).document
        document = d.createFragment.2.moveChildren node d.size := document_opened hdocument node
    rw [hopened, (Document.moved_createFragment hlinked node).data]
    exact (d.links_createFragment k).2.2
  have hafter := hbound.data hnodup (htexts hnodup)
  have hpairs := htexts hnodup
  simp only [hsame, Document.text_eq_of_data_eq (hsame _)] at hafter hpairs
  rw [textsBelow_eq hlinked hacyclic hleaves, filterMap_texts] at hpairs
  have hrep' : (w'.state state).Represents tree :=
    (state_congr hstates state).symm ▸ hbound.represents
  refine ⟨w', hcompile, ?pairs, Document.nodesBelow_eq hlinked hacyclic,
    fun k => Document.mem_nodesBelow hlinked hacyclic,
    Document.nodup_nodesBelow hlinked hacyclic node, ?made, ?document, ?documents, ?collectors,
    ?values, hrep'.snapshot_eq, ?states⟩
  case pairs =>
    rw [← hpairs, hbindings, List.map_map]
    refine List.map_congr_left fun b _ => ?_
    simp only [Function.comp_apply, Binding.node_conclude, Binding.template_conclude]
  case made =>
    intro b hb
    rw [hbindings, List.mem_map] at hb
    obtain ⟨b₀, hb₀, rfl⟩ := hb
    obtain ⟨hdocument', hstate', hcollector', -⟩ := hbound.made b₀ hb₀
    rw [Binding.document_conclude, Binding.state_conclude, Binding.collector_conclude]
    exact ⟨hdocument', hstate', hcollector'⟩
  case document =>
    rw [document_congr hdocuments]
    exact boundBelow_closed hdocument hlinked hacyclic hleaves hbound hafter
  case documents =>
    intro i hi
    have hafter' : after.document i = (w.opened document node).document i :=
      hbound.displays.document_of_ne fun b hb => (hbound.made b hb).1 ▸ hi.symm
    rw [document_congr hdocuments, document_closed_of_ne hi.symm, hafter',
      document_opened_of_ne hi.symm]
  case collectors => exact collector_congr (hcollectors.trans hbound.collectors)
  case values =>
    intro q
    rw [hrep'.valueAt?_eq, hrep.valueAt?_eq]
  case states =>
    intro i hi
    rw [state_congr hstates, hbound.states i hi]
    rfl

/-- Two texts with placeholders below an element and one beside it. The first comes out, the second
does not since there is no `b`, and the third is out of reach. -/
theorem texts_after_compilation :
    let page : Document := ⟨#[{ data := .fragment, children := [1, 5] },
      { data := .element "div" [], parent := some 0, children := [2, 3] },
      { data := .text "\x7b\x7ba\x7d\x7d!", parent := some 1 },
      { data := .element "p" [("id", "x")], parent := some 1, children := [4] },
      { data := .text "\x7d\x7d \x7b\x7ba.b\x7d\x7d", parent := some 3 },
      { data := .text "\x7b\x7ba\x7d\x7d", parent := some 0 }]⟩
    let w : Session :=
      { documents := #[{ document := page }], collectors := #[{}]
        states := #[State.observe (.object [("a", .bool true)])] }
    ∃ w', w.compile 0 1 0 0 = (.ok 0, w') ∧
      (w'.bindings 0).map Binding.node = [2, 4] ∧
      (w'.document 0).data 2 = .text "true!" ∧
      (w'.document 0).data 4 = .text "\x7d\x7d \x7b\x7ba.b\x7d\x7d" ∧
      (w'.document 0).data 5 = .text "\x7b\x7ba\x7d\x7d" ∧
      (w'.document 0).children 1 = [2, 3] ∧
      (w'.document 0).node? 6 = some { data := .fragment } := by
  intro page w
  have hdata : (Value.object [("a", .bool true)]).WellFormed :=
    .object _ (List.nodup_singleton _) (by simpa using .bool true)
  have hlinked : page.Linked := by decide +kernel
  have hacyclic : page.Acyclic := Document.acyclic_of_parent_lt (by decide +kernel)
  have hleaves : ∀ k s, page.data k = .text s → page.children k = [] := by
    intro k s hs
    have hk : k < page.size := by
      by_contra hout
      rw [Document.data_eq, Document.node?_eq_none_of_le (Nat.le_of_not_lt hout)] at hs
      cases hs
    have hall : ∀ k, k < page.size → (page.data k).kind = .text → page.children k = [] := by
      decide +kernel
    exact hall k hk (hs ▸ rfl)
  have hstate : w.state 0 = (State.after (.object [("a", .bool true)]) []).state := rfl
  have hidle : (w.collector 0).active = none := rfl
  have hlt : 0 < w.documents.size := by decide
  obtain ⟨w', hcompile, hpairs, -, hbelow, -, -, hdocument, -⟩ :=
    compile_restores hdata (by simp) hstate hidle hlt hlinked hacyclic hleaves 1
  have habove : ∀ k, k ∈ page.nodesBelow 1 ↔ page.Above 1 k := hbelow
  refine ⟨w', hcompile, ?_, ?_, ?_, ?_, ?_, ?_⟩
  · have hnodes := congrArg (List.map Prod.fst) hpairs
    rw [List.map_map] at hnodes
    exact hnodes.trans (by decide +kernel)
  · rw [hdocument.below 2 ((habove 2).mp (by decide +kernel))]
    decide +kernel
  · rw [hdocument.below 4 ((habove 4).mp (by decide +kernel))]
    decide +kernel
  · rw [hdocument.others 5 fun h => absurd ((habove 5).mpr h) (by decide +kernel)]
    rfl
  · rw [hdocument.children]
    rfl
  · exact hdocument.fragment

end Session

end LiveText
