import Mathlib
import LiveText.Proofs.Document.Copies
import LiveText.Proofs.Document.Visits
import LiveText.Proofs.Session.Arena
import LiveText.Proofs.Session.Restoration

/-!
# Walks through a document

There are three ways through a document: a traversal with a stack for text nodes and for queries,
recursion for the text at a node, and the walk of a compilation, which goes into elements and
fragments and starts at a fragment that holds the children of a node for the time being. In a
document without cycles in which texts have no children they all keep to the document order.

## Main definitions

- `Document.Traversed`: what all traversals come to.

## Main statements

- `textsBelow_eq_textNodes`: a compilation meets the text nodes of the fragment at which it starts.
- `traversals_agree`: all traversals keep to the document order.
-/

namespace LiveText

namespace Session

variable {d : Document}

/-- While a fragment holds the children of a node, texts still have no children. -/
theorem textsAreLeaves_moved (hlinked : d.Linked) (hleaves : d.TextsAreLeaves) (node : NodeId) :
    (d.createFragment.2.moveChildren node d.size).TextsAreLeaves := by
  have hmoved := Document.moved_createFragment hlinked node
  intro k s hdata
  rw [hmoved.data, (d.links_createFragment k).2.2] at hdata
  have hk : k ≠ d.size := (Document.lt_size_of_data (by simp [hdata])).ne
  rw [hmoved.children, (d.links_createFragment k).1, hleaves k s hdata, if_neg hk]
  exact ite_self _

/-- A compilation meets the text nodes at and below the fragment at which it starts, as a traversal
with a stack would tell them. -/
theorem textsBelow_eq_textNodes (hlinked : d.Linked) (hacyclic : d.Acyclic)
    (hleaves : d.TextsAreLeaves) (node : NodeId) :
    textsBelow d node = (d.createFragment.2.moveChildren node d.size).textNodes d.size := by
  have hmoved := Document.moved_createFragment hlinked node
  have hedits : Document.Edits True d _ := edits_there hlinked node
  have hsize : d.size < (d.createFragment.2.moveChildren node d.size).size := by
    rw [hmoved.size, Document.size_createFragment]
    exact Nat.lt_succ_self _
  have hfragment : (d.createFragment.2.moveChildren node d.size).data d.size = .fragment := by
    rw [hmoved.data, (d.links_createFragment d.size).2.2, Document.data_eq,
      Document.node?_eq_none_of_le (Nat.le_refl _)]
    rfl
  rw [Document.textNodes_eq_outerTexts (hedits.linked hlinked) (hedits.acyclic trivial hacyclic)
    (textsAreLeaves_moved hlinked hleaves node) hsize, hfragment]
  rfl

/-- These are the text nodes at and below the children of the node, one child after the other. -/
theorem textsBelow_eq_flatMap (hlinked : d.Linked) (hacyclic : d.Acyclic)
    (hleaves : d.TextsAreLeaves) (node : NodeId) :
    textsBelow d node = (d.children node).flatMap d.textNodes := by
  rw [textsBelow_eq hlinked hacyclic hleaves, Document.nodesBelow_eq hlinked hacyclic,
    List.filter_flatMap]
  refine List.flatMap_congr fun c hc => ?_
  rw [← Document.preorder_eq_cons, Document.textNodes_eq hlinked hacyclic]
  exact (Document.above_of_mem_children hlinked hc).lt_size

end Session

namespace Document

open Session

variable {careful : Prop} {d : Document} {n : NodeId}

/-- All ways through a document keep to the document order: that of a node is the node and all
below it, each once. -/
structure Traversed (d : Document) (n : NodeId) (selector : String) : Prop where
  /-- Recursion gets to its end. -/
  unbounded : d.Unbounded
  order_nodup : (d.preorder n).Nodup
  mem_order : ∀ k, k ∈ d.preorder n ↔ k = n ∨ d.Above n k
  /-- A traversal with a stack comes to an end with this order. -/
  visits : d.Visits [n] (d.preorder n)
  /-- The text nodes are told in this order. -/
  texts : d.textNodes n = (d.preorder n).filter (fun k => (d.data k).kind == .text)
  /-- What they tell one after the other is the text at the node. -/
  content : d.textContent n = String.join ((d.textNodes n).map d.text)
  query_visits : d.Visits (d.children root) (d.nodesBelow root)
  /-- A query goes by the order from the root. -/
  query : d.queryAll selector =
    (d.preorder root).filter (fun k => (Selector.parse selector).any (·.accepts (d.data k)))
  query_nodup : (d.queryAll selector).Nodup
  /-- It finds what the selector accepts, and nothing that is detached. -/
  mem_query : ∀ k, k ∈ d.queryAll selector ↔ (k = root ∨ d.Above root k) ∧
    ∃ s, Selector.parse selector = some s ∧ s.accepts (d.data k)
  first : d.queryFirst? selector = (d.queryAll selector).head?
  /-- The walk of a compilation meets the same text nodes in the same order. -/
  walk : d.textNodes n = if (d.data n).kind.isContainer then d.outerTexts n else [n]
  /-- It starts at a fragment, where it meets those of the children of the node. -/
  compiled : ∀ (w : Session) (document : DocumentId), document < w.documents.size →
    w.document document = d →
    let opened := (w.opened document n).document document
    opened.outerTexts d.size = opened.textNodes d.size ∧
      opened.outerTexts d.size = (d.children n).flatMap d.textNodes

/-- Traversals agree in every document that can come about, without cycles and with texts that have
no children. What is read from markup is such a document. -/
theorem traversals_agree (h : Reached careful d) (hacyclic : d.Acyclic)
    (hleaves : d.TextsAreLeaves) (hn : n < d.size) (selector : String) :
    d.Traversed n selector ∧ ∀ source, (parse source).Acyclic ∧ (parse source).TextsAreLeaves := by
  have hlinked : d.Linked := h.linked
  have hquery := queryAll_eq_filter hlinked (hacyclic root) (data_root_of_reached h) selector
  have hnodup : ∀ k, (d.preorder k).Nodup := fun k => nodup_preorderTo hlinked d.size (hacyclic k)
  refine ⟨{
    unbounded := unbounded hlinked hacyclic hleaves
    order_nodup := hnodup n
    mem_order := fun k => mem_preorder hlinked hacyclic
    visits := visits_preorder hlinked (hacyclic n)
    texts := textNodes_eq hlinked hacyclic hn
    content := textContent_eq hlinked hacyclic hleaves hn
    query_visits := visits_nodesBelow hlinked (hacyclic root)
    query := hquery
    query_nodup := ?once
    mem_query := fun k => ?found
    first := rfl
    walk := textNodes_eq_outerTexts hlinked hacyclic hleaves hn
    compiled := ?compiled }, fun source => ⟨?acyclic, textsAreLeaves_parse source⟩⟩
  case once =>
    rw [hquery]
    exact (hnodup root).filter _
  case found => rw [hquery, List.mem_filter, mem_preorder hlinked hacyclic, Option.any_eq_true]
  case compiled =>
    rintro w document hdocument rfl opened
    have hopened : opened.outerTexts (w.document document).size = _ :=
      outerTexts_opened hdocument n
    refine ⟨?_, hopened.trans (textsBelow_eq_flatMap hlinked hacyclic hleaves n)⟩
    rw [hopened, textsBelow_eq_textNodes hlinked hacyclic hleaves, ← document_opened hdocument]
  case acyclic => exact (edits_parse True source).acyclic trivial acyclic_empty

/-- An element has another element in front of a text that is older; a further element is detached.
-/
theorem texts_after_moves :
    let made := ((((empty.createElement "DIV").2.createText "a").2.createElement "p").2.createText
      "b").2.createElement "p"
    let page := (((made.2.append 0 1).append 1 3).append 1 2).append 3 4
    let w : Session := { documents := #[{ document := page }] }
    Reached True page ∧ page.Acyclic ∧ page.TextsAreLeaves ∧
      page.textNodes 1 = [4, 2] ∧ page.textContent 1 = "ba" ∧ page.queryAll " P" = [3] ∧
      page.queryFirst? " P" = some 3 ∧ ((w.opened 0 1).document 0).outerTexts 6 = [4, 2] := by
  intro made page w
  have hedit : ∀ {d d' : Document}, Reached True d → Edited True d d' → Reached True d' :=
    fun h hedit => h.changed (.edited hedit)
  have hmade : Reached True made.2 :=
    hedit (hedit (hedit (hedit (hedit .empty (.createElement "DIV")) (.createText "a"))
      (.createElement "p")) (.createText "b")) (.createElement "p")
  have hdiv : Reached True (made.2.append 0 1) := hmade.append_leaf (by decide +kernel)
  have hboth : Reached True (((made.2.append 0 1).append 1 3).append 1 2) :=
    (hdiv.append_leaf (by decide +kernel)).append_leaf (by decide +kernel)
  have hpage : Reached True page := hboth.append_leaf (by decide +kernel)
  have hacyclic : page.Acyclic := hpage.acyclic trivial
  have hleaves : page.TextsAreLeaves := by
    intro k s hk
    have hall : ∀ k, k < page.size → (page.data k).kind = .text → page.children k = [] := by
      decide +kernel
    exact hall k (lt_size_of_data (by simp [hk])) (congrArg NodeData.kind hk)
  have h := (traversals_agree hpage hacyclic hleaves (by decide +kernel : 1 < page.size) " P").1
  have htexts : page.textNodes 1 = [4, 2] := h.texts.trans (by decide +kernel)
  have hquery : page.queryAll " P" = [3] := h.query.trans (by decide +kernel)
  refine ⟨hpage, hacyclic, hleaves, htexts, ?_, hquery, ?_, ?_⟩
  · rw [h.content, htexts]
    decide +kernel
  · rw [h.first, hquery]
    rfl
  · have hsize : page.size = 6 := by decide +kernel
    have hwalk : ((w.opened 0 1).document 0).outerTexts page.size = _ :=
      (h.compiled w 0 Nat.one_pos rfl).2
    rw [hsize] at hwalk
    exact hwalk.trans (by decide +kernel)

end Document

end LiveText
