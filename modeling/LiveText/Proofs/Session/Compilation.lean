import Mathlib
import LiveText.Proofs.Session.Parts
import LiveText.Session.Compilation

/-!
# Compilations piece by piece

A compilation moves the children of a node to a fragment of its own, binds the texts that it meets
there one after the other, and moves the children back.

## Main definitions

- `Session.opened`: the session in which a compilation begins to bind texts.
- `Session.concluded`: what the compilation comes to afterwards.
- `Session.withBinding`: the session in which a text has a binding not rendered yet.
- `textsBelow`: the texts that a compilation meets.

## Main statements

- `compile_eq`: a compilation, given what binding the texts comes to.
- `mount_eq`: the making of a component, given what its compilation comes to.
- `labelBindings_eq`: labels change nothing that subscribers do.
-/

namespace LiveText.Session

variable {w : Session} {set : BindingSetId} {document : DocumentId} {state : StateId}
  {collector : CollectorId}

/-! ## Beginning and end -/

/-- The texts below a node that a compilation meets, in document order: those below the fragment
that the children of the node have been moved to. -/
def textsBelow (d : Document) (node : NodeId) : List NodeId :=
  (d.createFragment.2.moveChildren node d.size).outerTexts d.size

/-- The session in which a compilation begins to bind texts: the children of the node are in a new
fragment, and there is a new set without bindings. -/
def opened (w : Session) (document : DocumentId) (node : NodeId) : Session :=
  (((w.emit .compileBegun).newScratch document).2.modifyDocument document
    (·.moveChildren node (w.document document).size)).newBindingSet.2

/-- The session in which a compilation has moved the children of the node back. -/
def closed (w after : Session) (document : DocumentId) (node : NodeId) : Session :=
  (after.holdAs (w.opened document node)).modifyDocument document
    (·.moveChildren (w.document document).size node)

/-- What a compilation comes to when texts have been bound, up to the first fault. -/
def concluded (w : Session) (document : DocumentId) (node : NodeId)
    (bound : Except Fault Unit × Session) : Except Fault BindingSetId × Session :=
  let closed := w.closed bound.2 document node
  match bound.1 with
  | .error fault => (.error fault, closed)
  | .ok () =>
    let count := (closed.bindings w.bindingSets.size).length
    (.ok w.bindingSets.size, (closed.emit (.compileCounted count)).emit (.compiled count))

/-- A compilation, given what binding the texts comes to. -/
theorem compile_eq (w : Session) (document : DocumentId) (node : NodeId) (state : StateId)
    (collector : CollectorId) :
    w.compile document node state collector =
      w.concluded document node (bindTexts w.bindingSets.size document state collector
        (((w.opened document node).document document).outerTexts (w.document document).size)
        ((w.opened document node).hold [.bindings w.bindingSets.size])) := rfl

/-- The set of a compilation is the next one. -/
theorem eq_of_compile {node : NodeId} {w' : Session}
    (h : w.compile document node state collector = (.ok set, w')) :
    set = w.bindingSets.size := by
  rw [compile_eq] at h
  generalize bindTexts _ _ _ _ _ _ = bound at h
  rcases bound with ⟨fault | ⟨⟩, after⟩
  · cases h
  · exact (Except.ok.inj (Prod.mk.inj h).1).symm

/-- States, and what collectors do, are no business of the beginning. -/
theorem states_opened (w : Session) (document : DocumentId) (node : NodeId) :
    (w.opened document node).states = w.states := rfl

theorem collectors_opened (w : Session) (document : DocumentId) (node : NodeId) :
    (w.opened document node).collectors = w.collectors := rfl

theorem bindings_opened (w : Session) (document : DocumentId) (node : NodeId) (set : BindingSetId) :
    (w.opened document node).bindings set = w.bindings set :=
  bindings_newBindingSet _ set

/-- A set that there is not has no bindings. -/
theorem bindings_of_size_le (hset : w.bindingSets.size ≤ set) : w.bindings set = [] := by
  rw [bindings, Array.getElem?_eq_none hset, Option.getD_none]

theorem size_bindingSets_opened (w : Session) (document : DocumentId) (node : NodeId) :
    (w.opened document node).bindingSets.size = w.bindingSets.size + 1 :=
  Array.size_push _

theorem size_documents_newScratch (w : Session) (document : DocumentId) :
    (w.newScratch document).2.documents.size = w.documents.size := by
  rw [newScratch]
  exact Array.size_modify

/-- The new fragment is in the document, if there is one. -/
theorem document_newScratch (hdocument : document < w.documents.size) :
    (w.newScratch document).2.document document = (w.document document).createFragment.2 := by
  rw [newScratch, Session.document]
  simp only [Array.getElem?_modify, if_true, Array.getElem?_eq_getElem hdocument]
  rfl

/-- Other documents get no new fragment. -/
theorem document_newScratch_of_ne {i : DocumentId} (hi : document ≠ i) :
    (w.newScratch document).2.document i = w.document i := by
  rw [newScratch, Session.document]
  simp only [Array.getElem?_modify, if_neg hi]
  rfl

theorem size_documents_opened (w : Session) (document : DocumentId) (node : NodeId) :
    (w.opened document node).documents.size = w.documents.size := by
  have hnew : (w.opened document node).documents.size =
      ((w.emit .compileBegun).newScratch document).2.documents.size := Array.size_modify
  rw [hnew, size_documents_newScratch]
  rfl

/-- The new fragment has the number that comes after the last node, and takes the children. -/
theorem document_opened (hdocument : document < w.documents.size) (node : NodeId) :
    (w.opened document node).document document =
      (w.document document).createFragment.2.moveChildren node (w.document document).size := by
  have hsize := size_documents_newScratch (w.emit .compileBegun) document
  have hdocument' : document < (w.emit .compileBegun).documents.size := hdocument
  have hnew : (w.opened document node).document document =
      (((w.emit .compileBegun).newScratch document).2.modifyDocument document
        (·.moveChildren node (w.document document).size)).document document := rfl
  rw [hnew, document_modifyDocument, hsize, if_pos ⟨rfl, hdocument'⟩,
    document_newScratch hdocument']
  rfl

theorem document_opened_of_ne {i : DocumentId} (hi : document ≠ i) (node : NodeId) :
    (w.opened document node).document i = w.document i := by
  have hnew : (w.opened document node).document i =
      (((w.emit .compileBegun).newScratch document).2.modifyDocument document
        (·.moveChildren node (w.document document).size)).document i := rfl
  rw [hnew, document_modifyDocument, if_neg fun h => hi h.1, document_newScratch_of_ne hi]
  rfl

/-- In the end the children of the node are moved back. -/
theorem document_closed {after : Session} (hsize : after.documents.size = w.documents.size)
    (hdocument : document < w.documents.size) (node : NodeId) :
    (w.closed after document node).document document =
      (after.document document).moveChildren (w.document document).size node := by
  rw [closed, document_modifyDocument, if_pos ⟨rfl, hsize.symm ▸ hdocument⟩]
  rfl

theorem document_closed_of_ne {after : Session} {i : DocumentId} (hi : document ≠ i)
    (node : NodeId) : (w.closed after document node).document i = after.document i := by
  rw [closed, document_modifyDocument, if_neg fun h => hi h.1]
  rfl

/-- In a document that there is, a compilation meets the texts below the node. -/
theorem outerTexts_opened (hdocument : document < w.documents.size) (node : NodeId) :
    ((w.opened document node).document document).outerTexts (w.document document).size =
      textsBelow (w.document document) node := by
  rw [document_opened hdocument, textsBelow]

/-! ## Texts -/

/-- The session in which a text node has got a binding that has not been rendered yet. -/
def withBinding (w : Session) (set : BindingSetId) (b : Binding) : Session :=
  (w.newSubscriber ⟨none, .binding set (w.bindings set).length⟩).2.addBinding set b

theorem bindText_of_template {document : DocumentId} {node : NodeId} {template : Template}
    (h : Template.parse ((w.document document).text node) = some template) :
    bindText set document state collector node w =
      (w.withBinding set
        { document, node, template, state, collector
          subscriber := w.subscribers.size }).renderBinding set (w.bindings set).length := by
  rw [bindText, h]
  rfl

theorem bindings_withBinding (hset : set < w.bindingSets.size) (b : Binding) :
    (w.withBinding set b).bindings set = w.bindings set ++ [b] :=
  (bindings_addBinding _ set b set).trans (if_pos ⟨rfl, hset⟩)

/-! ## Components -/

/-- The session in which a component is compiled: it has the state and the collector. -/
def begun (w : Session) (options : Options) : Session :=
  ((w.emit (.componentBegun options.el)).observe options.data).2.newCollector.2

theorem begun_eq (w : Session) (options : Options) : ∃ trace, w.begun options = { w with
    states := w.states.push (State.observe options.data)
    collectors := w.collectors.push {}
    trace } := by
  obtain ⟨trace, hobserve⟩ := observe_eq (w.emit (.componentBegun options.el)) options.data
  rw [begun, hobserve]
  exact ⟨trace, rfl⟩

theorem documents_begun (w : Session) (options : Options) :
    (w.begun options).documents = w.documents := by
  obtain ⟨trace, hbegun⟩ := w.begun_eq options
  rw [hbegun]

theorem collectors_begun (w : Session) (options : Options) :
    (w.begun options).collectors = w.collectors.push {} := by
  obtain ⟨trace, hbegun⟩ := w.begun_eq options
  rw [hbegun]

theorem states_begun (w : Session) (options : Options) :
    (w.begun options).states = w.states.push (State.observe options.data) :=
  states_observe (w.emit (.componentBegun options.el)) options.data

/-- A component has a state of its data, and a collector that is not busy. -/
theorem state_begun (w : Session) (options : Options) :
    (w.begun options).state w.states.size = State.observe options.data :=
  state_observe (w.emit (.componentBegun options.el)) options.data

theorem collector_begun (w : Session) (options : Options) :
    (w.begun options).collector w.collectors.size = {} := by
  rw [collector, collectors_begun, Array.getElem?_push_size, Option.getD_some]

/-- The making of a component, given what its compilation comes to. -/
theorem mount_eq (w : Session) (document : DocumentId) (options : Options) :
    w.mount document options =
      match (w.document document).queryFirst? options.el with
      | none =>
        (.error (.invalidMountSelector options.el),
          ((w.emit (.componentBegun options.el)).observe options.data).2.emit (.noMatch options.el))
      | some el =>
        match (w.begun options).compile document el w.states.size w.collectors.size with
        | (.error fault, w') => (.error fault, w')
        | (.ok set, w') =>
          let proxy : Proxy := ⟨w.states.size, ((w.begun options).state w.states.size).roots⟩
          ( .ok {
              options, document, el, state := w.states.size, proxy
              collector := w.collectors.size, bindings := set },
            w'.emit (.mounted proxy.keys.length (w'.state w.states.size).size
              (w'.bindings set).length) ) := by
  -- Observing makes the next state and touches neither documents nor collectors. With this known,
  -- what it is in detail is forgotten.
  have hstate : ((w.emit (.componentBegun options.el)).observe options.data).1 = w.states.size :=
    fst_observe ..
  have hparts : ((w.emit (.componentBegun options.el)).observe options.data).2.documents =
        w.documents ∧
      ((w.emit (.componentBegun options.el)).observe options.data).2.collectors =
        w.collectors := by
    obtain ⟨trace, hobserve⟩ := observe_eq (w.emit (.componentBegun options.el)) options.data
    rw [hobserve]
    exact ⟨rfl, rfl⟩
  rw [mount, begun]
  generalize (w.emit (.componentBegun options.el)).observe options.data = made at hstate hparts ⊢
  obtain ⟨state, w₁⟩ := made
  obtain ⟨hdocuments, hcollectors⟩ := hparts
  dsimp only at hstate hdocuments hcollectors ⊢
  subst hstate
  have hdocument : w₁.document document = w.document document := by
    rw [Session.document, hdocuments, Session.document]
  have hcollector : w₁.newCollector.1 = w.collectors.size := congrArg Array.size hcollectors
  rw [hdocument, ← hcollector]
  cases (w.document document).queryFirst? options.el with
  | none => rfl
  | some el =>
    dsimp only
    rcases w₁.newCollector.2.compile document el w.states.size w₁.newCollector.1 with
      ⟨fault | set, w'⟩
    · rfl
    · rfl

/-- Nothing is found in a document that there is not. -/
theorem queryFirst?_of_size_le {document : DocumentId} (h : w.documents.size ≤ document)
    (selector : String) : (w.document document).queryFirst? selector = none := by
  have hempty : w.document document = Document.empty := by
    rw [Session.document, Array.getElem?_eq_none h]
    rfl
  rw [hempty, Document.queryFirst?, Document.queryAll]
  split <;> rfl

/-- A component that has been made is what a compilation below an element has come to, with the
next state, a proxy of it and the next collector. All that follows is told. -/
theorem compile_of_mount {options : Options} {c : Component} {w' : Session}
    (hmount : w.mount document options = (.ok c, w')) :
    ∃ w₁ event, document < w.documents.size ∧
      (w.begun options).compile document c.el c.state c.collector = (.ok c.bindings, w₁) ∧
      w' = w₁.emit event ∧ c.document = document ∧ c.state = w.states.size ∧
      c.collector = w.collectors.size ∧
      c.proxy = ⟨c.state, ((w.begun options).state c.state).roots⟩ := by
  rw [mount_eq] at hmount
  cases hel : (w.document document).queryFirst? options.el with
  | none => simp [hel] at hmount
  | some el =>
    have hdocument : document < w.documents.size := by
      by_contra hout
      rw [queryFirst?_of_size_le (Nat.le_of_not_lt hout)] at hel
      cases hel
    simp only [hel] at hmount
    split at hmount
    · next hcompile => cases hmount
    · next set w₁ hcompile =>
      obtain ⟨hc, rfl⟩ := Prod.mk.inj hmount
      obtain rfl := Except.ok.inj hc
      exact ⟨w₁, _, hdocument, hcompile, rfl, rfl, rfl, rfl, rfl⟩

/-! ## Labels -/

theorem callback_setLabel (w : Session) (s : SubscriberId) (label : String) (t : SubscriberId) :
    (w.setLabel s label).subscribers[t]?.map Subscriber.callback =
      w.subscribers[t]?.map Subscriber.callback := by
  rw [setLabel, Array.getElem?_modify]
  split
  · rw [Option.map_map]
    rfl
  · rfl

/-- Subscribers get labels and keep their callbacks; all else stays. -/
theorem labelBindings_eq (w : Session) (name : String) (set : BindingSetId) :
    ∃ labelled : Array Subscriber, w.labelBindings name set = { w with subscribers := labelled } ∧
      ∀ s : SubscriberId,
        labelled[s]?.map Subscriber.callback = w.subscribers[s]?.map Subscriber.callback := by
  rw [labelBindings]
  -- On the bindings that are still to get a label.
  generalize (w.bindings set).zipIdx = bs
  induction bs generalizing w with
  | nil => exact ⟨w.subscribers, rfl, fun _ => rfl⟩
  | cons b rest ih =>
    obtain ⟨labelled, heq, hcallbacks⟩ :=
      ih (w.setLabel b.1.subscriber (bindingLabel name b.2))
    exact ⟨labelled, heq, fun s => (hcallbacks s).trans (callback_setLabel ..)⟩

end LiveText.Session
