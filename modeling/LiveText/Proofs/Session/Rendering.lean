import Mathlib
import LiveText.Proofs.Session.Parts
import LiveText.Proofs.Template.Plain
import LiveText.Session.Rendering

/-!
# Renderings of bindings

What a rendering of a binding does, case by case: there is no such binding, its collector is busy,
or its template is read for its subscriber and comes out or not. In the last two cases the state
has been read, and the outcome is what the template shows for the tree of the state.

## Main definitions

- `Binding.wiring`, `Binding.attempts`: what renderings keep of a binding, and what they count.
- `Session.afterReading`: the session after a binding's template has been read.

## Main statements

- `renderBinding_of_busy`, `renderBinding_of_idle`.
- `binding?_renderBinding`: each rendering is counted.
-/

namespace LiveText

/-! ## Bindings -/

namespace Binding

/-- A binding without its record of renderings. -/
def wiring (b : Binding) : Binding :=
  { b with renders := 0, failures := 0, lastFault := none }

/-- The number of renderings, successful or not. -/
def attempts (b : Binding) : Nat :=
  b.renders + b.failures

/-- A binding after a rendering with an outcome. -/
def conclude (b : Binding) : Except Fault String → Binding
  | .ok _ => b.succeed
  | .error fault => b.fail fault

theorem wiring_eq_iff {b b' : Binding} :
    b'.wiring = b.wiring ↔ b'.document = b.document ∧ b'.node = b.node ∧
      b'.template = b.template ∧ b'.state = b.state ∧ b'.collector = b.collector ∧
      b'.subscriber = b.subscriber := by
  simp [wiring]

@[simp] theorem wiring_conclude (b : Binding) (result : Except Fault String) :
    (b.conclude result).wiring = b.wiring := by
  cases result <;> rfl

section Conclude

variable (b : Binding) (result : Except Fault String)

@[simp] theorem document_conclude : (b.conclude result).document = b.document := by
  cases result <;> rfl

@[simp] theorem node_conclude : (b.conclude result).node = b.node := by
  cases result <;> rfl

@[simp] theorem template_conclude : (b.conclude result).template = b.template := by
  cases result <;> rfl

@[simp] theorem state_conclude : (b.conclude result).state = b.state := by
  cases result <;> rfl

@[simp] theorem collector_conclude : (b.conclude result).collector = b.collector := by
  cases result <;> rfl

@[simp] theorem subscriber_conclude : (b.conclude result).subscriber = b.subscriber := by
  cases result <;> rfl

end Conclude

@[simp] theorem attempts_conclude (b : Binding) (result : Except Fault String) :
    (b.conclude result).attempts = b.attempts + 1 := by
  cases result with
  | ok text => exact Nat.add_right_comm b.renders 1 b.failures
  | error fault => rfl

end Binding

namespace Session

variable {w : Session} {set : BindingSetId} {index : Nat} {b : Binding}

theorem renderBinding_of_none (h : w.binding? set index = none) :
    w.renderBinding set index = (.ok (), w) := by
  rw [renderBinding, h]

/-- A rendering that is refused changes the record of the binding only. -/
theorem renderBinding_of_busy (hb : w.binding? set index = some b) {active : SubscriberId}
    (hbusy : (w.collector b.collector).active = some active) :
    w.renderBinding set index =
      (.error (.reentrantCollection active b.subscriber),
        (w.emit .collectionRefused).modifyBinding set index
          (·.fail (.reentrantCollection active b.subscriber))) := by
  simp only [renderBinding, hb, Collector.start, hbusy]

/-- The session after a binding has read its template from its state, which has become `st`, and
has got what there is to show or a fault. -/
def afterReading (w : Session) (set : BindingSetId) (index : Nat) (b : Binding) (st : State) :
    Except Fault String → Session
  | .ok text =>
    (((w.setState b.state st).modifyDocument b.document (·.setText b.node text)).modifyBinding set
      index (·.succeed)).emit (.rendered b.node)
  | .error fault =>
    ((w.setState b.state st).emit (.renderFailed b.node b.template.source fault)).modifyBinding set
      index (·.fail fault)

/-- A rendering that is not refused reads the template for the binding's subscriber. -/
theorem renderBinding_of_active (hb : w.binding? set index = some b)
    (hidle : (w.collector b.collector).active = none) :
    let read := b.template.renderWith (State.readTracked w.isLive (some b.subscriber))
      (w.state b.state)
    w.renderBinding set index = (.ok (), w.afterReading set index b read.2 read.1) := by
  simp only [renderBinding, hb, Collector.start, hidle, renderTemplate]
  cases b.template.renderWith (State.readTracked w.isLive (some b.subscriber))
      (w.state b.state) with
  | mk result st =>
    cases result with
    | ok text => rfl
    | error fault => rfl

/-- What a rendering reads of a state that stands for a tree. -/
theorem renderBinding_of_idle (hb : w.binding? set index = some b)
    (hidle : (w.collector b.collector).active = none) {tree : Value}
    (hrep : (w.state b.state).Represents tree) :
    ∃ st, State.ReadBy w.isLive (some b.subscriber) b.template.paths (w.state b.state) st ∧
      w.renderBinding set index =
        (.ok (), w.afterReading set index b st (b.template.shown tree)) := by
  refine ⟨_, hrep.readBy_renderWith w.isLive (some b.subscriber) b.template, ?_⟩
  rw [renderBinding_of_active hb hidle, hrep.renderWith_fst]

/-- Whatever comes of a rendering, it is one of three things. -/
theorem snd_renderBinding_cases (w : Session) (set : BindingSetId) (index : Nat) :
    (w.renderBinding set index).2 = w ∨
    (∃ fault, (w.renderBinding set index).2 =
      (w.emit .collectionRefused).modifyBinding set index (·.fail fault)) ∨
    ∃ b st result, (w.renderBinding set index).2 = w.afterReading set index b st result := by
  unfold renderBinding
  split
  · exact .inl rfl
  · next b hb =>
    split
    · next fault hbusy => exact .inr (.inl ⟨fault, rfl⟩)
    · next busy hidle =>
      simp only [renderTemplate]
      rcases b.template.renderWith (State.readTracked w.isLive busy.active) (w.state b.state) with
        ⟨fault | text, st⟩
      · exact .inr (.inr ⟨b, st, .error fault, rfl⟩)
      · exact .inr (.inr ⟨b, st, .ok text, rfl⟩)

/-! ## After a reading -/

section AfterReading

variable (w set index b) (st : State) (result : Except Fault String)

theorem state_afterReading (i : StateId) :
    (w.afterReading set index b st result).state i = (w.setState b.state st).state i := by
  cases result <;> rfl

theorem names_afterReading : (w.afterReading set index b st result).names = w.names := by
  cases result <;> rfl

theorem held_afterReading : (w.afterReading set index b st result).held = w.held := by
  cases result <;> rfl

theorem subscribers_afterReading :
    (w.afterReading set index b st result).subscribers = w.subscribers := by
  cases result <;> rfl

theorem collectors_afterReading :
    (w.afterReading set index b st result).collectors = w.collectors := by
  cases result <;> rfl

theorem size_states_afterReading :
    (w.afterReading set index b st result).states.size = w.states.size := by
  cases result <;> exact Array.size_setIfInBounds

theorem size_bindingSets_afterReading :
    (w.afterReading set index b st result).bindingSets.size = w.bindingSets.size := by
  cases result <;> exact Array.size_modify

theorem bindings_afterReading (set' : BindingSetId) :
    (w.afterReading set index b st result).bindings set' =
      if set = set' then (w.bindings set').modify index (·.conclude result)
      else w.bindings set' := by
  cases result with
  | ok text => exact bindings_modifyBinding _ set index Binding.succeed set'
  | error fault => exact bindings_modifyBinding _ set index (Binding.fail · fault) set'

end AfterReading

/-- Whatever comes of a rendering, it is counted. -/
theorem bindings_renderBinding (hb : w.binding? set index = some b) :
    ∃ result, (w.renderBinding set index).2.bindings set =
      (w.bindings set).modify index (·.conclude result) := by
  cases hactive : (w.collector b.collector).active with
  | some active =>
    refine ⟨.error (.reentrantCollection active b.subscriber), ?_⟩
    rw [renderBinding_of_busy hb hactive, bindings_modifyBinding, if_pos rfl]
    rfl
  | none =>
    rw [renderBinding_of_active hb hactive]
    dsimp only
    exact ⟨_, (bindings_afterReading ..).trans (if_pos rfl)⟩

theorem binding?_renderBinding (hb : w.binding? set index = some b) :
    ∃ b', (w.renderBinding set index).2.binding? set index = some b' ∧
      b'.wiring = b.wiring ∧ b'.attempts = b.attempts + 1 := by
  obtain ⟨result, hbindings⟩ := bindings_renderBinding hb
  refine ⟨b.conclude result, ?_, b.wiring_conclude result, b.attempts_conclude result⟩
  have hplace : (w.bindings set)[index]? = some b := hb
  rw [binding?, hbindings, List.getElem?_modify, hplace]
  simp

/-- A rendering leaves the wiring of all bindings. -/
theorem wiring_renderBinding (hb : w.binding? set index = some b) :
    ((w.renderBinding set index).2.bindings set).map Binding.wiring =
      (w.bindings set).map Binding.wiring := by
  obtain ⟨result, hbindings⟩ := bindings_renderBinding hb
  rw [hbindings]
  apply List.ext_getElem?
  intro j
  rw [List.getElem?_map, List.getElem?_map, List.getElem?_modify]
  cases (w.bindings set)[j]? with
  | none => rfl
  | some b' =>
    by_cases hj : index = j
    · simp [hj]
    · simp [hj]

theorem subscribers_renderBinding (w : Session) (set : BindingSetId) (index : Nat) :
    (w.renderBinding set index).2.subscribers = w.subscribers := by
  rcases snd_renderBinding_cases w set index with h | ⟨fault, h⟩ | ⟨b, st, result, h⟩
  · rw [h]
  · rw [h]
    rfl
  · rw [h, subscribers_afterReading]

end Session

end LiveText
