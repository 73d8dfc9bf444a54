import Mathlib
import LiveText.Proofs.Session.Collections
import LiveText.Proofs.Session.Concern
import LiveText.Proofs.Session.Dependents
import LiveText.Proofs.Session.FreshBindings

/-!
# Bindings and their subscribers

A binding is made together with a subscriber of its own, which renders it and nothing else. Whatever
a script has done, each binding has its subscriber, and between the steps of the script no collector
is busy and nothing is kept alive but by a name.

## Main definitions

- `Owned`: each binding has the subscriber that renders it.
- `AtRest`: what holds between the steps of a script.

## Main statements

- `runsRespect_owned`: runs leave each binding its subscriber.
- `atRest_script`: sessions that scripts lead to.
-/

namespace LiveText.Session

variable {w w' : Session} {set : BindingSetId}

/-- Each binding has the subscriber that renders it. -/
def Owned (w : Session) : Prop :=
  ∀ set index b, w.binding? set index = some b → w.Renders b.subscriber set index

theorem owned_empty : Owned {} := by
  intro set index b hb
  cases hb

/-- Bindings keep their subscribers, and these what they do. -/
theorem Owned.keep (h : Owned w)
    (hwiring : ∀ set, (w'.bindings set).map Binding.wiring = (w.bindings set).map Binding.wiring)
    (hrenders : ∀ s set index, w.Renders s set index → w'.Renders s set index) : Owned w' := by
  intro set index b hb
  obtain ⟨b₀, hb₀, hsame⟩ := exists_binding?_of_wiring (hwiring set) hb
  have hsubscriber : b.subscriber = b₀.subscriber :=
    (Binding.wiring_eq_iff.mp hsame).2.2.2.2.2
  rw [hsubscriber]
  exact hrenders _ _ _ (h set index b₀ hb₀)

/-- Neither bindings nor subscribers have changed. -/
theorem Owned.of_eq (h : Owned w) (hsets : w'.bindingSets = w.bindingSets)
    (hsubscribers : w'.subscribers = w.subscribers) : Owned w' := by
  refine h.keep (fun set => ?_) fun s set index hs => ?_
  · rw [bindings, hsets, bindings]
  · rwa [Renders, hsubscribers]

/-! ## Edits -/

/-- A rendering rewires nothing, in whichever set. -/
theorem wiring_bindings_renderBinding (w : Session) (set : BindingSetId) (index : Nat)
    (set' : BindingSetId) :
    ((w.renderBinding set index).2.bindings set').map Binding.wiring =
      (w.bindings set').map Binding.wiring := by
  by_cases hset : set' = set
  · subst hset
    cases hb : w.binding? set' index with
    | none => rw [renderBinding_of_none hb]
    | some b => exact wiring_renderBinding hb
  · rw [bindings_renderBinding_of_ne hset]

theorem owned_renderBinding (h : Owned w) (set : BindingSetId) (index : Nat) :
    Owned (w.renderBinding set index).2 :=
  h.keep (wiring_bindings_renderBinding w set index) fun s set' index' hs => by
    rwa [Renders, subscribers_renderBinding]

/-- A new binding gets the next subscriber, which has been made for its place. -/
theorem owned_withBinding (h : Owned w) (set : BindingSetId) {b : Binding}
    (hsubscriber : b.subscriber = w.subscribers.size) : Owned (w.withBinding set b) := by
  intro set' index' b' hb'
  by_cases hset : set < w.bindingSets.size
  · rcases (binding?_withBinding hset b set' index' b').mp hb' with hold | ⟨rfl, rfl, rfl⟩
    · exact callback_newSubscriber (h set' index' b' hold) _
    · rw [hsubscriber]
      exact callback_newSubscriber_self w _
  · -- There is no such set, and so no new binding either.
    have hsame : (w.withBinding set b).bindings set' = w.bindings set' :=
      (bindings_addBinding _ set b set').trans (if_neg fun hboth => hset hboth.2)
    rw [binding?, hsame] at hb'
    exact callback_newSubscriber (h set' index' b' hb') _

theorem owned_compile (h : Owned w) (i : DocumentId) (k : NodeId) (state : StateId)
    (collector : CollectorId) : Owned (w.compile i k state collector).2 := by
  have hopened : Owned ((w.opened i k).hold [.bindings w.bindingSets.size]) :=
    h.keep (fun set => congrArg _ (bindings_opened w i k set)) fun _ _ _ hs => hs
  have hbound := bindTexts_respects (R := fun w w' => Owned w → Owned w') (fun _ h => h)
    (fun hfirst hrest h => hrest (hfirst h))
    (fun _ _ hsubscriber h => owned_withBinding h w.bindingSets.size hsubscriber)
    (fun _ index h => owned_renderBinding h w.bindingSets.size index) i state collector
    (((w.opened i k).document i).outerTexts (w.document i).size)
    ((w.opened i k).hold [.bindings w.bindingSets.size]) hopened
  rw [compile_eq]
  generalize bindTexts _ _ _ _ _ _ = bound at hbound ⊢
  -- What comes after the texts is neither about bindings nor about subscribers.
  rcases bound with ⟨fault | ⟨⟩, after⟩
  · exact hbound.of_eq rfl rfl
  · exact hbound.of_eq rfl rfl

theorem editsRespect_owned : EditsRespect fun w w' => Owned w → Owned w' where
  refl _ h := h
  trans hfirst hrest h := hrest (hfirst h)
  rename _ h _ hw := (h hw).of_eq rfl rfl
  emit _ _ h := h.of_eq rfl rfl
  setState _ h := h.of_eq rfl rfl
  modifyDocument _ _ _ h := h.of_eq rfl rfl
  setLabel w s label h := h.keep (fun _ => rfl) fun t set index ht =>
    (callback_setLabel w s label t).trans ht
  observe w data h := by
    obtain ⟨trace, hobserve⟩ := observe_eq w data
    rw [hobserve]
    exact h.of_eq rfl rfl
  newCollector _ h := h.of_eq rfl rfl
  newDocument _ _ h := h.of_eq rfl rfl
  renderBinding index _ h := owned_renderBinding h _ index
  compile _ i k state collector h := owned_compile h i k state collector

/-! ## Scripts -/

/-- Runs leave each binding its subscriber. -/
theorem runsRespect_owned : RunsRespect fun w w' => Owned w → Owned w' :=
  editsRespect_owned.runsRespect
    (fun _ _ _ _ h => h.keep (fun _ => rfl) fun _ _ _ hs => callback_newSubscriber hs _)
    (fun _ _ h => h.of_eq rfl rfl)
    (fun w s h => h.keep (fun _ => rfl) fun t set index => (renders_countRun w s t set index).mpr)
    (fun _ _ h hw => (h (hw.of_eq rfl rfl)).of_eq rfl rfl)
    (fun _ h hw => (h (hw.of_eq rfl rfl)).of_eq rfl rfl)
    (fun _ _ h => h.of_eq rfl rfl)

/-- Nothing is under way: no collector is busy, and things are kept alive by names only. Each
binding has its subscriber, and those that have a name render nothing. -/
structure AtRest (w : Session) : Prop where
  idle : ∀ c, (w.collector c).active = none
  held : w.held = []
  made : Made w
  owned : Owned w

/-- Between the steps of a script nothing is under way. -/
theorem atRest_script (script : List Step) :
    AtRest (script.foldl (fun w s => (w.step s).2) {}) where
  idle c := congrArg Collector.active ((runsRespect_bracketed.script script {}).collector c)
  held := (runsRespect_onward.script script {}).2
  made := made_empty.onward (runsRespect_onward.script script {}).1
  owned := runsRespect_owned.script script {} owned_empty

end LiveText.Session
