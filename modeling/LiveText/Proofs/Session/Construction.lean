import Mathlib
import LiveText.Proofs.Session.Concern
import LiveText.Proofs.Session.Restoration

/-!
# Constructions that fail

A compilation fails if its collector is busy and there is a text to bind; then the first such text
is refused before anything has been read or written. What has been moved is moved back, and the
binding that has been begun is nobody's. The making of a component fails if there is no element to
make it of, which is found out before a document is touched.

## Main definitions

- `Unbuilt`: a session after a compilation that has failed.

## Main statements

- `fst_bindTexts`: whether texts can be bound.
- `bindTexts_of_busy`: what is left alone if they cannot.
- `constructions_are_atomic`: compilations and components.
-/

namespace LiveText.Session

variable {w w' : Session} {set : BindingSetId} {document : DocumentId} {node : NodeId}
  {collector : CollectorId}

/-! ## Texts -/

theorem binding?_withBinding_self (hset : set < w.bindingSets.size) (b : Binding) :
    (w.withBinding set b).binding? set (w.bindings set).length = some b := by
  rw [binding?, bindings_withBinding hset, List.getElem?_concat_length]

theorem fst_bindText_of_idle (hset : set < w.bindingSets.size)
    (hidle : (w.collector collector).active = none) (document : DocumentId) (state : StateId)
    (k : NodeId) :
    (bindText set document state collector k w).1 = .ok () := by
  cases hparse : Template.parse ((w.document document).text k) with
  | none => rw [bindText, hparse]
  | some template =>
    rw [bindText_of_template hparse, renderBinding_of_active (binding?_withBinding_self hset _)]
    exact hidle

/-- If the collector is not busy all texts can be bound. -/
theorem fst_bindTexts_of_idle (hset : set < w.bindingSets.size)
    (hidle : (w.collector collector).active = none) (document : DocumentId) (state : StateId)
    (ks : List NodeId) :
    (bindTexts set document state collector ks w).1 = .ok () := by
  -- On the texts: binding one leaves the set and the idle collector for the next.
  induction ks generalizing w with
  | nil => rfl
  | cons k rest ih =>
    have hbinds := binds_bindText w set document state collector k
    have hfirst := fst_bindText_of_idle hset hidle document state k
    rw [bindTexts]
    generalize bindText set document state collector k w = bound at hbinds hfirst ⊢
    obtain ⟨outcome, w₁⟩ := bound
    obtain rfl : outcome = .ok () := hfirst
    apply ih
    · exact hbinds.sets.symm ▸ hset
    · rw [collector_congr hbinds.collectors, hidle]

/-- A text that is a template is refused by a collector that is busy, and so not written to. -/
theorem bindText_of_busy {active : SubscriberId} (hset : set < w.bindingSets.size)
    (hbusy : (w.collector collector).active = some active) (state : StateId) {k : NodeId}
    {t : Template} (hparse : Template.parse ((w.document document).text k) = some t) :
    let bound := bindText set document state collector k w
    bound.1 = .error (.reentrantCollection active w.subscribers.size) ∧
      bound.2.documents = w.documents ∧ bound.2.states = w.states := by
  rw [bindText_of_template hparse, renderBinding_of_busy (binding?_withBinding_self hset _)]
  · exact ⟨rfl, rfl, rfl⟩
  · exact hbusy

/-- If the collector is busy the first text that is a template is refused. -/
theorem bindTexts_of_busy {active : SubscriberId} (hset : set < w.bindingSets.size)
    (hbusy : (w.collector collector).active = some active) (document : DocumentId)
    (state : StateId) (ks : List NodeId) :
    let bound := bindTexts set document state collector ks w
    bound.1 = (if ∃ k ∈ ks, (Template.parse ((w.document document).text k)).isSome then
        .error (.reentrantCollection active w.subscribers.size) else .ok ()) ∧
      bound.2.documents = w.documents ∧ bound.2.states = w.states := by
  -- On the texts: nothing happens before the first template, and nothing after it.
  induction ks with
  | nil => simp [bindTexts]
  | cons k rest ih =>
    rw [bindTexts]
    cases hparse : Template.parse ((w.document document).text k) with
    | none =>
      have hpassed : bindText set document state collector k w = (.ok (), w) := by
        rw [bindText, hparse]
      rw [hpassed]
      simpa [hparse] using ih
    | some t =>
      obtain ⟨hrefused, hdocuments, hstates⟩ :=
        bindText_of_busy hset hbusy state hparse
      generalize bindText set document state collector k w = bound at hrefused hdocuments hstates ⊢
      obtain ⟨outcome, w₁⟩ := bound
      obtain rfl : outcome = _ := hrefused
      exact ⟨by simp [hparse], hdocuments, hstates⟩

/-! ## Compilations -/

/-- When a compilation begins to bind texts, nodes hold what they have held before. -/
theorem data_opened (hdocument : document < w.documents.size)
    (hlinked : (w.document document).Linked) (node k : NodeId) :
    ((w.opened document node).document document).data k = (w.document document).data k := by
  rw [document_opened hdocument, (Document.moved_createFragment hlinked node).data]
  exact ((w.document document).links_createFragment k).2.2

/-- Some text that a walk from the node comes to has placeholders. -/
def HasTemplate (d : Document) (node : NodeId) : Prop :=
  ∃ k, d.WalksTo node k ∧ (Template.parse (d.text k)).isSome

/-- The texts that a compilation is going to bind are those that a walk comes to. -/
theorem hasTemplate_iff (hdocument : document < w.documents.size)
    (hlinked : (w.document document).Linked) (hacyclic : (w.document document).Acyclic) :
    HasTemplate (w.document document) node ↔
      ∃ k ∈ ((w.opened document node).document document).outerTexts (w.document document).size,
        (Template.parse (((w.opened document node).document document).text k)).isSome := by
  rw [outerTexts_opened hdocument]
  refine exists_congr fun k => and_congr (mem_textsBelow hlinked hacyclic).symm ?_
  rw [Document.text_eq_of_data_eq (data_opened hdocument hlinked node k)]

/-- If a compilation leaves the documents alone while it binds texts, all nodes are in the end what
they were, and there is one more, an empty fragment. -/
theorem node?_closed {after : Session} (hdocument : document < w.documents.size)
    (hlinked : (w.document document).Linked) (node : NodeId)
    (hdocuments : after.documents = (w.opened document node).documents) :
    let d := w.document document
    let d' := (w.closed after document node).document document
    d'.size = d.size + 1 ∧ d'.node? d.size = some { data := .fragment } ∧
      ∀ k, k < d.size → d'.node? k = d.node? k := by
  intro d d'
  have hsize : after.documents.size = w.documents.size :=
    (congrArg Array.size hdocuments).trans (size_documents_opened w document node)
  have hopened : after.document document =
      d.createFragment.2.moveChildren node d.size :=
    (document_congr hdocuments document).trans (document_opened hdocument node)
  have hdata : ∀ k, (after.document document).data k = d.data k := fun k =>
    (congrArg (·.data k) (document_congr hdocuments document)).trans
      (data_opened hdocument hlinked node k)
  have hd' : d' = (after.document document).moveChildren d.size node :=
    document_closed hsize hdocument node
  have hmoved : (after.document document).size = d.size + 1 := by
    rw [hopened, (Document.moved_createFragment hlinked node).size, Document.size_createFragment]
  have hback := Document.restored hlinked node hmoved fun j => by
    rw [hopened]
    exact ⟨rfl, rfl⟩
  rw [← hd'] at hback
  have hnode : ∀ k, k < d'.size →
      d'.node? k = some ⟨d.data k, d.parent? k, d.children k⟩ := by
    intro k hk
    obtain ⟨-, hchildren, hparent, hdata'⟩ := hback k
    rw [Document.node?_of_lt hk, hdata', hdata, hparent, hchildren]
  have hsize' : d'.size = d.size + 1 := (hback 0).1
  refine ⟨hsize', ?_, fun k hk => ?_⟩
  · have hnone := Document.node?_eq_none_of_le (Nat.le_refl d.size)
    rw [hnode d.size (hsize' ▸ Nat.lt_succ_self _), Document.data_eq, Document.parent?_eq,
      Document.children_eq, hnone]
    rfl
  · rw [hnode k (hsize' ▸ Nat.lt_succ_of_lt hk), ← Document.node?_of_lt hk]

/-- A session after a compilation that has failed. The document has an empty fragment of its own
more, and else everything that is within reach is as before: documents, states, collectors, names,
bindings, and who lives. -/
structure Unbuilt (w w' : Session) (document : DocumentId) : Prop where
  size : (w'.document document).size = (w.document document).size + 1
  fragment : (w'.document document).node? (w.document document).size = some { data := .fragment }
  nodes : ∀ k, k < (w.document document).size →
    (w'.document document).node? k = (w.document document).node? k
  documents : ∀ i, i ≠ document → w'.document i = w.document i
  states : w'.states = w.states
  collectors : w'.collectors = w.collectors
  names : w'.names = w.names
  held : w'.held = w.held
  bindings : ∀ set, set < w.bindingSets.size → w'.bindings set = w.bindings set
  sets : ∀ set, w'.isAlive set = true → set < w.bindingSets.size
  subscribers : w'.isLive = w.isLive

/-- A new set that nobody keeps adds nobody to those who live. -/
theorem isLive_of_recruits (hnumbered : Numbered w) (hnames : w'.names = w.names)
    (hheld : w'.held = w.held)
    (hrecruits : Recruits w.bindingSets.size w.subscribers w'.subscribers) :
    w'.isLive = w.isLive := by
  funext s
  by_cases hs : s < w.subscribers.size
  · rw [isLive, hrecruits.known s hs, hnames, hheld, isLive]
    simp only [isAlive_congr hnames hheld]
  · have hdead : w.isLive s = false :=
      Bool.eq_false_iff.mpr fun hlive => hs (hnumbered.subscribers s hlive)
    rw [hdead, Bool.eq_false_iff]
    intro hlive
    rcases isLive_iff.mp hlive with hnamed | hkept | ⟨set, index, hrenders, halive⟩
    · exact absurd (hdead.symm.trans (isLive_iff.mpr (.inl (hnames ▸ hnamed)))) (by simp)
    · exact absurd (hdead.symm.trans (isLive_iff.mpr (.inr (.inl (hheld ▸ hkept))))) (by simp)
    · -- Its set is the new one.
      obtain ⟨index', heq⟩ := hrecruits.recruits s _ (Nat.le_of_not_lt hs) hrenders
      cases heq
      rw [isAlive_congr hnames hheld] at halive
      exact absurd (hnumbered.sets _ halive) (Nat.lt_irrefl _)

/-- The new set is there when texts are bound. -/
theorem lt_size_opened (w : Session) (document : DocumentId) (node : NodeId) :
    w.bindingSets.size < (w.opened document node).bindingSets.size :=
  (Nat.lt_succ_self _).trans_eq (size_bindingSets_opened w document node).symm

theorem fst_compile_of_idle (hidle : (w.collector collector).active = none)
    (document : DocumentId) (node : NodeId) (state : StateId) :
    (w.compile document node state collector).1 = .ok w.bindingSets.size := by
  have hbound := fst_bindTexts_of_idle
    (w := (w.opened document node).hold [.bindings w.bindingSets.size])
    (lt_size_opened w document node) hidle document state
    (((w.opened document node).document document).outerTexts (w.document document).size)
  rw [compile_eq, concluded, hbound]

/-- While the collector is busy a compilation fails exactly if it comes to a template, and then it
undoes what it has done. -/
theorem compile_of_busy {active : SubscriberId} (hnumbered : Numbered w)
    (hdocument : document < w.documents.size) (hlinked : (w.document document).Linked)
    (hacyclic : (w.document document).Acyclic)
    (hbusy : (w.collector collector).active = some active) (node : NodeId) (state : StateId) :
    let compiled := w.compile document node state collector
    (HasTemplate (w.document document) node →
      compiled.1 = .error (.reentrantCollection active w.subscribers.size) ∧
        Unbuilt w compiled.2 document) ∧
    (¬ HasTemplate (w.document document) node → compiled.1 = .ok w.bindingSets.size) := by
  have hbound := bindTexts_of_busy
    (w := (w.opened document node).hold [.bindings w.bindingSets.size])
    (lt_size_opened w document node) hbusy document state
    (((w.opened document node).document document).outerTexts (w.document document).size)
  have hcompiles := compiles_compile w document node state collector
  rw [compile_eq] at hcompiles ⊢
  generalize bindTexts _ _ _ _ _ _ = bound at hbound hcompiles ⊢
  obtain ⟨outcome, after⟩ := bound
  obtain ⟨houtcome, hdocuments, hstates⟩ := hbound
  dsimp only at houtcome hdocuments hstates
  refine ⟨fun htemplate => ?_, fun hno => ?_⟩
  · -- No text has been written to, so that moving the children back undoes it all.
    have htexts := (hasTemplate_iff hdocument hlinked hacyclic).mp htemplate
    obtain rfl := houtcome.trans (if_pos htexts)
    obtain ⟨hsize, hfragment, hnodes⟩ := node?_closed hdocument hlinked node hdocuments
    refine ⟨rfl, hsize, hfragment, hnodes, fun i hi => ?documents, hstates, hcompiles.collectors,
      hcompiles.names, hcompiles.held, fun set hset => hcompiles.others set hset.ne, ?sets,
      isLive_of_recruits hnumbered hcompiles.names hcompiles.held hcompiles.recruits⟩
    case documents =>
      show (w.closed after document node).document i = _
      rw [document_closed_of_ne hi.symm, document_congr hdocuments]
      exact document_opened_of_ne hi.symm node
    case sets =>
      intro set halive
      rw [isAlive_congr hcompiles.names hcompiles.held] at halive
      exact hnumbered.sets set halive
  · have htexts := mt (hasTemplate_iff hdocument hlinked hacyclic).mpr hno
    obtain rfl := houtcome.trans (if_neg htexts)
    rfl

/-! ## Components -/

/-- A component can be made exactly if there is an element for it; its own collector is not busy. -/
theorem fst_mount (w : Session) (document : DocumentId) (options : Options) :
    (∀ el, (w.document document).queryFirst? options.el = some el →
      ∃ c, (w.mount document options).1 = .ok c) ∧
    ((w.document document).queryFirst? options.el = none →
      (w.mount document options).1 = .error (.invalidMountSelector options.el) ∧
        (w.mount document options).2.documents = w.documents) := by
  rw [mount_eq]
  refine ⟨fun el hel => ?_, fun hnone => ?_⟩
  · have hidle : ((w.begun options).collector w.collectors.size).active = none := by
      rw [collector_begun]
    have hcompiled := fst_compile_of_idle hidle document el w.states.size
    rw [hel]
    dsimp only
    generalize (w.begun options).compile document el w.states.size w.collectors.size = compiled
      at hcompiled ⊢
    obtain ⟨outcome, w'⟩ := compiled
    obtain rfl : outcome = _ := hcompiled
    exact ⟨_, rfl⟩
  · rw [hnone]
    refine ⟨rfl, ?_⟩
    show ((w.emit (.componentBegun options.el)).observe options.data).2.documents = _
    obtain ⟨trace, hobserve⟩ := observe_eq (w.emit (.componentBegun options.el)) options.data
    rw [hobserve]
    rfl

/-! ## Both -/

/-- Constructions are atomic. A compilation in a document whose links agree and form no cycle fails
exactly if its collector is busy and a walk below the node comes to a text with placeholders. The
fault names who is being collected for, and everything is as before but for an empty fragment that
nothing leads to. A component cannot be made exactly if there is no element for it; then no document
has been touched. -/
theorem constructions_are_atomic (hnumbered : Numbered w) :
    (∀ document node state collector, document < w.documents.size →
      (w.document document).Linked → (w.document document).Acyclic →
      let compiled := w.compile document node state collector
      ((∃ fault, compiled.1 = .error fault) ↔
        (∃ active, (w.collector collector).active = some active) ∧
          ∃ k, (w.document document).WalksTo node k ∧
            (Template.parse ((w.document document).text k)).isSome) ∧
      ∀ fault, compiled.1 = .error fault →
        ∃ active, (w.collector collector).active = some active ∧
          fault = .reentrantCollection active w.subscribers.size ∧ Unbuilt w compiled.2 document) ∧
    ∀ document options,
      let mounted := w.mount document options
      ((∃ fault, mounted.1 = .error fault) ↔
        (w.document document).queryFirst? options.el = none) ∧
      ∀ fault, mounted.1 = .error fault →
        fault = .invalidMountSelector options.el ∧ mounted.2.documents = w.documents := by
  refine ⟨fun document node state collector hdocument hlinked hacyclic => ?compile,
    fun document options => ?mount⟩
  case compile =>
    cases hactive : (w.collector collector).active with
    | none =>
      have hok := fst_compile_of_idle hactive document node state
      simp [hok]
    | some active =>
      obtain ⟨hfails, hcompiles⟩ :=
        compile_of_busy hnumbered hdocument hlinked hacyclic hactive node state
      by_cases htemplate : HasTemplate (w.document document) node
      · obtain ⟨hfault, hunbuilt⟩ := hfails htemplate
        refine ⟨⟨fun _ => ⟨⟨active, rfl⟩, htemplate⟩, fun _ => ⟨_, hfault⟩⟩, fun fault h => ?_⟩
        exact ⟨active, rfl, Except.error.inj (h.symm.trans hfault), hunbuilt⟩
      · have hok := hcompiles htemplate
        refine ⟨⟨?_, fun h => absurd h.2 htemplate⟩, ?_⟩
        · rintro ⟨fault, h⟩
          cases hok.symm.trans h
        · intro fault h
          cases hok.symm.trans h
  case mount =>
    obtain ⟨hmade, hnone⟩ := fst_mount w document options
    cases hel : (w.document document).queryFirst? options.el with
    | none =>
      obtain ⟨hfault, hdocuments⟩ := hnone hel
      refine ⟨⟨fun _ => rfl, fun _ => ⟨_, hfault⟩⟩, fun fault h => ?_⟩
      exact ⟨Except.error.inj (h.symm.trans hfault), hdocuments⟩
    | some el =>
      obtain ⟨c, hok⟩ := hmade el hel
      simp [hok]

/-- A page with a text below a paragraph, and a subscriber for whom a collector is going to
collect. -/
def preparation : List Step :=
  [.edit (.newDocument "page" (some "<p>\x7b\x7bname\x7d\x7d</p>")),
    .edit (.observe "data" (.object [("name", .str "Ada")])),
    .edit (.newCollector "readers"),
    .newSubscriber "reader" [] 0]

/-- The session when the collector has begun to collect. -/
def prepared : Session :=
  ((preparation.foldl (fun w s => (step w s).2) {}).hold [.subscriber 0]).setCollector 0 ⟨some 0⟩

theorem numbered_prepared : Numbered prepared := by
  have hm : DuringScript (preparation ++ [.collect "readers" "reader" []]) {}
      (.ahead [] prepared []) :=
    .tail (.tail (.tail (.tail (.head (.collect (s := 0) (c := 0) (by rfl) (by rfl) .steps)))))
  exact numbered_duringScript hm made_empty rfl

/-- A compilation while the collector collects is refused, and the page is as it was. There is no
section of which a component could be made. -/
theorem refused_while_collecting :
    (∃ w', prepared.compile 0 0 0 0 = (.error (.reentrantCollection 0 1), w') ∧
      (w'.document 0).node? 1 = (prepared.document 0).node? 1 ∧
      (w'.document 0).text 2 = "\x7b\x7bname\x7d\x7d" ∧ w'.states = prepared.states) ∧
    ∃ w', prepared.mount 0 ⟨"section", .object []⟩ =
        (.error (.invalidMountSelector "section"), w') ∧
      w'.documents = prepared.documents := by
  obtain ⟨hcompile, hmount⟩ := constructions_are_atomic numbered_prepared
  have hlinked : (prepared.document 0).Linked := by decide +kernel
  have hacyclic : (prepared.document 0).Acyclic :=
    Document.acyclic_of_parent_lt (by decide +kernel)
  have htext : (prepared.document 0).WalksTo 0 2 := by
    have hp : (prepared.document 0).WalksTo 1 2 := .child (by decide +kernel) (by decide +kernel)
    exact .inside (by decide +kernel) (by decide +kernel) hp
  obtain ⟨hfails, hrefused⟩ := hcompile 0 0 0 0 (by decide +kernel) hlinked hacyclic
  obtain ⟨fault, hfault⟩ := hfails.mpr ⟨⟨0, by decide +kernel⟩, 2, htext, by decide +kernel⟩
  obtain ⟨active, hactive, rfl, hunbuilt⟩ := hrefused fault hfault
  have hreader : (prepared.collector 0).active = some 0 := by decide +kernel
  have hnew : prepared.subscribers.size = 1 := by decide +kernel
  obtain rfl := Option.some.inj (hactive.symm.trans hreader)
  rw [hnew] at hfault
  refine ⟨⟨_, Prod.ext hfault rfl, hunbuilt.nodes 1 (by decide +kernel), ?_, hunbuilt.states⟩, ?_⟩
  · rw [Document.text, Document.data, hunbuilt.nodes 2 (by decide +kernel)]
    decide +kernel
  · obtain ⟨hnone, hsection⟩ := hmount 0 ⟨"section", .object []⟩
    obtain ⟨fault', hfault'⟩ := hnone.mpr (by decide +kernel)
    obtain ⟨rfl, hdocuments⟩ := hsection fault' hfault'
    exact ⟨_, Prod.ext hfault' rfl, hdocuments⟩

end LiveText.Session
