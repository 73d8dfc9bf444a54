import Mathlib
import LiveText.Proofs.Session.Frames
import LiveText.Proofs.Session.Freshness

/-!
# New bindings are fresh

A compilation makes bindings, each of which waits from the moment when it is made to its first
rendering. The new set is alive only as long as it is held, so that between the end of the
compilation and the moment when it gets a name it has to be looked at as if it were held still.

## Main statements

- `fresh_bindTexts`: texts that are bound one after the other.
- `fresh_compile`, `fresh_mount`: compilations, as if the new set were held still.
-/

namespace LiveText.Session

variable {document : DocumentId} {node : NodeId} {w w' : Session} {waiting : List SubscriberId}

/-! ## What is kept alive -/

/-- What is promised while more is kept alive is promised without that, too. -/
theorem Fresh.of_hold {holdings : List Holding}
    (h : Fresh document node (w.hold holdings) waiting) : Fresh document node w waiting := by
  refine h.keeps_texts rfl rfl h.named ?_ (fun _ _ _ hs => hs) fun _ => .refl _
  exact fun set halive => isAlive_hold.mpr (.inl halive)

/-- Keeping alive what is alive anyway, or has no bindings, promises nothing new. -/
theorem Fresh.hold (h : Fresh document node w waiting) {holdings : List Holding}
    (hheld : ∀ set, Holding.bindings set ∈ holdings → w.isAlive set = true ∨ w.bindings set = []) :
    Fresh document node (w.hold holdings) waiting := by
  refine h.keeps ⟨h.named, h.represents, Nat.le_refl _, fun _ _ => rfl, fun _ _ _ _ _ _ hs => hs,
    fun _ => rfl, ?alive, fun _ _ _ hs => hs, fun _ _ text ht => ⟨text, ht⟩,
    fun _ _ _ _ _ _ => rfl⟩
  intro set halive hne
  rcases isAlive_hold.mp halive with halive | hmem
  · exact halive
  · rcases hheld set hmem with halive | hnil
    · exact halive
    · exact absurd hnil hne

/-! ## Documents -/

/-- A change of a document that keeps its texts. -/
theorem fresh_modifyDocument (h : Fresh document node w waiting) {i : DocumentId}
    {f : Document → Document} (hf : (w.document i).KeepsTexts (f (w.document i))) :
    Fresh document node (w.modifyDocument i f) waiting := by
  refine h.keeps_texts rfl rfl h.named (fun _ halive => halive) (fun _ _ _ hs => hs) ?_
  intro j
  rw [document_modifyDocument]
  split
  · next hj => exact hj.1 ▸ hf
  · exact .refl _

theorem fresh_newScratch (h : Fresh document node w waiting) (i : DocumentId) :
    Fresh document node (w.newScratch i).2 waiting := by
  refine h.keeps_texts rfl rfl h.named (fun _ halive => halive) (fun _ _ _ hs => hs) ?_
  intro j
  by_cases hj : i = j
  · subst hj
    by_cases hi : i < w.documents.size
    · -- A new fragment is no text.
      rw [document_newScratch hi]
      exact Document.keepsTexts_create _ _
    · intro k text ht
      exact absurd (lt_size_of_data ht) hi
  · rw [document_newScratch_of_ne hj]
    exact .refl _

theorem fresh_newDocument (h : Fresh document node w waiting) (d : Document) :
    Fresh document node (w.newDocument d).2 waiting := by
  refine h.keeps_texts rfl rfl h.named (fun _ halive => halive) (fun _ _ _ hs => hs) ?_
  intro i k text ht
  have hi := lt_size_of_data ht
  rw [Session.document, newDocument, Array.getElem?_push_lt hi, ← Array.getElem?_eq_getElem hi]
  exact ht

/-! ## Compilations -/

variable {set : BindingSetId} {index : Nat} {b : Binding}

/-- A new binding waits for its first rendering. -/
theorem fresh_withBinding (h : Fresh document node w waiting) (hset : set < w.bindingSets.size)
    (hsubscriber : b.subscriber = w.subscribers.size) (hstate : b.state < w.states.size)
    {text : String} (htext : (w.document b.document).data b.node = .text text) :
    Fresh document node (w.withBinding set b) (b.subscriber :: waiting) := by
  have hbinding := binding?_withBinding hset b
  have hcurrent : ∀ set' index' b',
      Current (w.withBinding set b) (b.subscriber :: waiting) set' index' b' →
        Current w waiting set' index' b' := by
    intro set' index' b' hb'
    have hwaiting := not_or.mp (mt List.mem_cons.mpr hb'.notWaiting)
    rcases (hbinding set' index' b').mp hb'.there with hthere | ⟨-, -, rfl⟩
    · exact ⟨hthere, hb'.alive, hb'.sound, hwaiting.2⟩
    · exact absurd rfl hwaiting.1
  refine ⟨h.named, h.represents, ?linked, ?registered, ?shown⟩
  case linked =>
    intro set' index' b' hb'
    rcases (hbinding set' index' b').mp hb' with hthere | ⟨rfl, rfl, rfl⟩
    · obtain ⟨hcallback, hrest⟩ := h.linked set' index' b' hthere
      exact ⟨callback_newSubscriber hcallback _, hrest⟩
    · refine ⟨?_, hstate, text, htext⟩
      rw [hsubscriber]
      exact callback_newSubscriber_self w _
  case registered =>
    intro set' index' b' hb'
    exact h.registered set' index' b' (hcurrent set' index' b' hb')
  case shown =>
    intro set' index' b' hb' hdocument hnode hsole
    apply h.shown set' index' b' (hcurrent set' index' b' hb') hdocument hnode
    intro set'' index'' b'' hb''
    exact hsole set'' index'' b'' ((hbinding set'' index'' b'').mpr (.inl hb''))

/-- A text that is bound is one that has a placeholder, and so belongs to a text node. -/
theorem fresh_bindText (h : Fresh document node w waiting) (hset : set < w.bindingSets.size)
    {state : StateId} (hstate : state < w.states.size) (i : DocumentId) (k : NodeId)
    (collector : CollectorId) :
    Fresh document node (bindText set i state collector k w).2 waiting := by
  cases hparse : Template.parse ((w.document i).text k) with
  | none =>
    rw [bindText, hparse]
    exact h
  | some template =>
    have hwith := fresh_withBinding h hset
      (b := { document := i, node := k, template, state, collector,
              subscriber := w.subscribers.size })
      rfl hstate (Document.data_of_text_ne (Template.ne_empty_of_parse hparse))
    rw [bindText_of_template hparse]
    exact fresh_renderBinding hwith
      ((binding?_withBinding hset _ set _ _).mpr (.inr ⟨rfl, rfl, rfl⟩))

theorem fresh_bindTexts (h : Fresh document node w waiting) (hset : set < w.bindingSets.size)
    {state : StateId} (hstate : state < w.states.size) (i : DocumentId) (collector : CollectorId)
    (ks : List NodeId) :
    Fresh document node (bindTexts set i state collector ks w).2 waiting ∧
      Framed w (bindTexts set i state collector ks w).2 := by
  -- On the texts, up to the first one whose binding is refused.
  induction ks generalizing w with
  | nil => exact ⟨h, .refl w⟩
  | cons k rest ih =>
    have hfirst := fresh_bindText h hset hstate i k collector
    have hframed := framed_bindText w set i k state collector
    rw [bindTexts]
    split
    · next w₁ hbound =>
      rw [hbound] at hfirst hframed
      obtain ⟨hfresh, hrest⟩ := ih hfirst (hframed.sets ▸ hset) (hframed.states ▸ hstate)
      exact ⟨hfresh, hframed.trans hrest⟩
    · next fault w₁ hbound =>
      rw [hbound] at hfirst hframed
      exact ⟨hfirst, hframed⟩

theorem fresh_newBindingSet (h : Fresh document node w waiting) :
    Fresh document node (w.newBindingSet.2.hold [.bindings w.bindingSets.size]) waiting := by
  have hnew : Fresh document node w.newBindingSet.2 waiting :=
    h.keeps ⟨h.named, h.represents, Nat.le_refl _, fun _ _ => rfl, fun _ _ _ _ _ _ hs => hs,
      bindings_newBindingSet w, fun _ halive _ => halive, fun _ _ _ hs => hs,
      fun _ _ text ht => ⟨text, ht⟩, fun _ _ _ _ _ _ => rfl⟩
  apply hnew.hold
  intro set hset
  obtain rfl : set = w.bindingSets.size := by simpa using hset
  right
  rw [bindings_newBindingSet]
  exact bindings_of_size_le (Nat.le_refl _)

/-- A compilation and its new bindings, as if these were held still. -/
theorem fresh_compile (h : Fresh document node w waiting) (i : DocumentId) (k : NodeId)
    {state : StateId} (hstate : state < w.states.size) (collector : CollectorId) :
    Fresh document node ((w.compile i k state collector).2.hold [.bindings w.bindingSets.size])
      waiting := by
  have hopened : Fresh document node ((w.opened i k).hold [.bindings w.bindingSets.size])
      waiting := by
    have hscratch := fresh_newScratch (fresh_emit h .compileBegun) i
    have hmoved := fresh_modifyDocument hscratch (i := i)
      (f := (·.moveChildren k (w.document i).size)) (Document.keepsTexts_moveChildren _ _ _)
    exact fresh_newBindingSet hmoved
  have hset : w.bindingSets.size < (w.opened i k).bindingSets.size := by
    rw [size_bindingSets_opened]
    exact Nat.lt_succ_self _
  obtain ⟨hbound, hframed⟩ := fresh_bindTexts hopened hset hstate i collector
    (((w.opened i k).document i).outerTexts (w.document i).size)
  rw [compile_eq]
  generalize bindTexts _ _ _ _ _ _ = bound at hbound hframed ⊢
  -- However far the texts have been bound, the children are moved back the same way.
  have hclosed : Fresh document node ((w.closed bound.2 i k).hold [.bindings w.bindingSets.size])
      waiting := by
    have hmoved := fresh_modifyDocument hbound (i := i)
      (f := (·.moveChildren (w.document i).size k)) (Document.keepsTexts_moveChildren _ _ _)
    -- What is held in the end is what was held while texts were bound.
    exact hmoved.of_eq rfl rfl rfl hframed.held.symm rfl rfl
  rw [concluded]
  dsimp only
  generalize w.closed bound.2 i k = closed at hclosed ⊢
  -- What is told at the end makes no difference.
  cases bound.1 with
  | error fault => exact hclosed
  | ok _ => exact hclosed.of_eq rfl rfl rfl rfl rfl rfl

/-! ## Components -/

theorem fresh_observe (h : Fresh document node w waiting) {data : Value} (hdata : data.WellFormed) :
    Fresh document node (w.observe data).2 waiting := by
  have hsize : (w.observe data).2.states.size = w.states.size + 1 := by
    rw [states_observe, Array.size_push]
  have hstate := state_observe_eq w data
  obtain ⟨trace, hobserve⟩ := observe_eq w data
  rw [hobserve] at hsize hstate ⊢
  have hold : ∀ i < w.states.size, Session.state _ i = w.state i := fun i hi =>
    (hstate i).trans (if_neg hi.ne)
  -- The new state comes behind those that there are, and no binding has it yet.
  refine h.keeps ⟨?named, ?represents, by omega, fun i hi => congrArg State.data (hold i hi),
    ?arrivals, fun _ => rfl, fun _ halive _ => halive, fun _ _ _ hs => hs,
    fun _ _ text ht => ⟨text, ht⟩, fun _ _ _ _ _ _ => rfl⟩
  case named =>
    intro e he
    exact hsize ▸ (h.named e he).trans (Nat.lt_succ_self _)
  case represents =>
    intro i
    rw [hstate]
    split
    · exact ⟨_, State.represents_observe hdata⟩
    · exact h.represents i
  case arrivals =>
    intro set index b hb _ q hs
    rwa [hold b.state (h.linked set index b hb).2.1]

/-- A component and its new bindings, as if these were held still. -/
theorem fresh_mount (h : Fresh document node w waiting) (i : DocumentId) {options : Options}
    (hdata : options.data.WellFormed) :
    Fresh document node ((w.mount i options).2.hold [.bindings w.bindingSets.size]) waiting := by
  have hobserved := fresh_observe (fresh_emit h (.componentBegun options.el)) hdata
  have hframe : (w.begun options).bindingSets = w.bindingSets ∧
      (w.begun options).states.size = w.states.size + 1 := by
    obtain ⟨trace, hbegun⟩ := w.begun_eq options
    rw [hbegun]
    exact ⟨rfl, Array.size_push _⟩
  obtain ⟨hsets, hsize⟩ := hframe
  rw [mount_eq]
  cases (w.document i).queryFirst? options.el with
  | none =>
    apply (fresh_emit hobserved (.noMatch options.el)).hold
    intro set hset
    obtain rfl : set = w.bindingSets.size := by simpa using hset
    exact .inr (bindings_of_size_le (Nat.le_of_eq (congrArg Array.size hsets)))
  | some el =>
    have hbegun : Fresh document node (w.begun options) waiting :=
      hobserved.of_eq rfl rfl rfl rfl rfl rfl
    have hstate : w.states.size < (w.begun options).states.size := by omega
    have hcompiled := fresh_compile hbegun i el hstate w.collectors.size
    rw [hsets] at hcompiled
    dsimp only
    split
    · next fault w₁ hcompile =>
      rw [hcompile] at hcompiled
      exact hcompiled
    · next set w₁ hcompile =>
      rw [hcompile] at hcompiled
      exact hcompiled.of_eq rfl rfl rfl rfl rfl rfl

/-- Bindings do not see how their subscribers are called. -/
theorem fresh_labelBindings {holdings : List Holding}
    (h : Fresh document node (w.hold holdings) waiting) (name : String) (set : BindingSetId) :
    Fresh document node ((w.labelBindings name set).hold holdings) waiting := by
  obtain ⟨labelled, hlabel, hcallbacks⟩ := labelBindings_eq w name set
  rw [hlabel]
  exact h.keeps_texts rfl rfl h.named (fun _ halive => halive)
    (fun s _ _ hs => (hcallbacks s).trans hs) fun _ => .refl _

end LiveText.Session
