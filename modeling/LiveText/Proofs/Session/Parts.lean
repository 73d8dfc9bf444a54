import Mathlib
import LiveText.Session.Run

/-!
# The parts of a session

What is read from a session after one of its parts has been changed. A part that a change is not
about stays as it is, which holds by definition and needs no lemma.

## Main definitions

- `Names.Keep`: which sets of bindings have a name.

## Main statements

- `state_congr`, `document_congr`: what is read from a part depends on the part only.
- `state_setState`, `document_modifyDocument`: one place of a table.
- `bindings_modifyBinding`, `bindings_addBinding`: the bindings of a set.
- `isAlive_iff`: what keeps a set alive.
- `Run.snd_bind_pure`, `Run.snd_holding`, `Run.snd_collecting`: the session that a run leaves.
-/

namespace LiveText.Session

/-! ## What parts depend on -/

theorem state_congr {w w' : Session} (h : w'.states = w.states) (i : StateId) :
    w'.state i = w.state i := by
  rw [state, state, h]

theorem collector_congr {w w' : Session} (h : w'.collectors = w.collectors) (i : CollectorId) :
    w'.collector i = w.collector i := by
  rw [collector, collector, h]

theorem document_congr {w w' : Session} (h : w'.documents = w.documents) (i : DocumentId) :
    w'.document i = w.document i := by
  rw [document, document, h]

/-! ## States and collectors -/

theorem state_setState (w : Session) (i : StateId) (st : State) (j : StateId) :
    (w.setState i st).state j = if i = j ∧ i < w.states.size then st else w.state j := by
  rw [state, setState, Array.getElem?_setIfInBounds, state]
  by_cases hij : i = j
  · subst hij
    by_cases hi : i < w.states.size
    · simp [hi]
    · simp [hi]
  · simp [hij]

theorem state_setState_of_lt {w : Session} {i : StateId} (st : State) (hi : i < w.states.size) :
    (w.setState i st).state i = st := by
  rw [state_setState, if_pos ⟨rfl, hi⟩]

/-- A state that there is not holds nothing. -/
theorem state_of_size_le {w : Session} {i : StateId} (hi : w.states.size ≤ i) : w.state i = {} := by
  rw [state, Array.getElem?_eq_none hi, Option.getD_none]

/-- A state with a property is one that there is. -/
theorem lt_size_of_contains {w : Session} {i : StateId} {p : Path}
    (h : (w.state i).contains p = true) : i < w.states.size := by
  by_contra hi
  rw [state_of_size_le (Nat.le_of_not_lt hi)] at h
  cases h

theorem collector_setCollector (w : Session) (i : CollectorId) (k : Collector) (j : CollectorId) :
    (w.setCollector i k).collector j =
      if i = j ∧ i < w.collectors.size then k else w.collector j := by
  rw [collector, setCollector, Array.getElem?_setIfInBounds, collector]
  by_cases hij : i = j
  · subst hij
    by_cases hi : i < w.collectors.size
    · simp [hi]
    · simp [hi]
  · simp [hij]

/-- A collector that there is not has nobody. -/
theorem collector_of_size_le {w : Session} {i : CollectorId} (hi : w.collectors.size ≤ i) :
    w.collector i = {} := by
  rw [collector, Array.getElem?_eq_none hi, Option.getD_none]

/-! ## Documents -/

theorem document_modifyDocument (w : Session) (i : DocumentId) (f : Document → Document)
    (j : DocumentId) :
    (w.modifyDocument i f).document j =
      if i = j ∧ i < w.documents.size then f (w.document j) else w.document j := by
  rw [document, modifyDocument, Array.getElem?_modify, document]
  by_cases hij : i = j
  · subst hij
    by_cases hi : i < w.documents.size
    · simp [hi]
    · simp [hi]
  · simp [hij]

/-! ## Bindings -/

theorem bindings_modifyBinding (w : Session) (set : BindingSetId) (index : Nat)
    (f : Binding → Binding) (set' : BindingSetId) :
    (w.modifyBinding set index f).bindings set' =
      if set = set' then (w.bindings set').modify index f else w.bindings set' := by
  rw [bindings, modifyBinding, Array.getElem?_modify, bindings]
  by_cases h : set = set'
  · subst h
    rw [if_pos rfl, if_pos rfl]
    cases w.bindingSets[set]? with
    | none => simp
    | some bs => rfl
  · rw [if_neg h, if_neg h]

theorem binding?_modifyBinding (w : Session) (set : BindingSetId) (index : Nat)
    (f : Binding → Binding) (set' : BindingSetId) (index' : Nat) :
    (w.modifyBinding set index f).binding? set' index' =
      if set = set' ∧ index = index' then (w.binding? set' index').map f
      else w.binding? set' index' := by
  rw [binding?, bindings_modifyBinding, binding?]
  by_cases h : set = set'
  · rw [if_pos h, List.getElem?_modify]
    by_cases hi : index = index'
    · simp [h, hi]
    · simp [hi]
  · simp [h]

theorem bindings_addBinding (w : Session) (set : BindingSetId) (b : Binding)
    (set' : BindingSetId) :
    (w.addBinding set b).bindings set' =
      if set = set' ∧ set < w.bindingSets.size then w.bindings set' ++ [b]
      else w.bindings set' := by
  rw [bindings, addBinding, Array.getElem?_modify, bindings]
  by_cases h : set = set'
  · subst h
    by_cases hs : set < w.bindingSets.size
    · simp [hs]
    · simp [hs]
  · simp [h]

/-- A new set has no bindings, nor has one that there is not. -/
theorem bindings_newBindingSet (w : Session) (set : BindingSetId) :
    w.newBindingSet.2.bindings set = w.bindings set := by
  rw [bindings, newBindingSet, Array.getElem?_push, bindings]
  by_cases h : set = w.bindingSets.size
  · simp [h]
  · simp [h]

/-! ## Who is alive -/

theorem isAlive_iff {w : Session} {set : BindingSetId} :
    w.isAlive set = true ↔ (∃ e ∈ w.names.components, e.2.bindings = set) ∨
      (∃ e ∈ w.names.compiled, e.2 = set) ∨ Holding.bindings set ∈ w.held := by
  simp [isAlive, or_assoc]

/-- Whether a set of bindings has a name, as a component or by itself. -/
def Names.Keep (names : Names) (set : BindingSetId) : Prop :=
  (∃ e ∈ names.components, e.2.bindings = set) ∨ ∃ e ∈ names.compiled, e.2 = set

theorem isAlive_iff_keep {w : Session} {set : BindingSetId} :
    w.isAlive set = true ↔ w.names.Keep set ∨ Holding.bindings set ∈ w.held := by
  rw [isAlive_iff, Names.Keep, or_assoc]

theorem isAlive_congr {w w' : Session} (hnames : w'.names = w.names) (hheld : w'.held = w.held)
    (set : BindingSetId) : w'.isAlive set = w.isAlive set := by
  rw [isAlive, isAlive, hnames, hheld]

theorem isAlive_hold {w : Session} {holdings : List Holding} {set : BindingSetId} :
    (w.hold holdings).isAlive set = true ↔
      w.isAlive set = true ∨ Holding.bindings set ∈ holdings := by
  rw [isAlive_iff, isAlive_iff]
  show (∃ e ∈ w.names.components, e.2.bindings = set) ∨ (∃ e ∈ w.names.compiled, e.2 = set) ∨
    Holding.bindings set ∈ holdings ++ w.held ↔ _
  rw [List.mem_append, or_comm (a := Holding.bindings set ∈ holdings), ← or_assoc, ← or_assoc]
  rw [← or_assoc]

/-- A subscriber lives as long as it has a name, is kept, or has a living binding. -/
theorem isLive_iff {w : Session} {s : SubscriberId} :
    w.isLive s = true ↔ (∃ e ∈ w.names.subscribers, e.2 = s) ∨ Holding.subscriber s ∈ w.held ∨
      ∃ set index, w.subscribers[s]?.map Subscriber.callback = some (.binding set index) ∧
        w.isAlive set = true := by
  rw [isLive, Bool.or_eq_true, Bool.or_eq_true, or_assoc, List.any_eq_true,
    List.contains_iff_mem]
  refine or_congr (by simp) (or_congr .rfl ?_)
  split
  · next set index hs => simp [hs]
  · next hno =>
    simp only [Bool.false_eq_true, false_iff]
    rintro ⟨set, index, hs, -⟩
    exact hno set index hs

theorem isLive_congr {w w' : Session} (hnames : w'.names = w.names) (hheld : w'.held = w.held)
    (hsubscribers : w'.subscribers = w.subscribers) (s : SubscriberId) :
    w'.isLive s = w.isLive s := by
  simp only [isLive, hnames, hheld, hsubscribers, isAlive_congr hnames hheld]

/-- The subscriber of a living binding lives. -/
theorem isLive_of_binding {w : Session} {s : SubscriberId} {set : BindingSetId} {index : Nat}
    (hs : w.subscribers[s]?.map Subscriber.callback = some (.binding set index))
    (halive : w.isAlive set = true) : w.isLive s = true := by
  rw [Session.isLive, hs]
  simp [halive]

/-- The place of the binding that is rendered. -/
def Callback.place? : Callback → Option (BindingSetId × Nat)
  | .binding set index => some (set, index)
  | .program _ _ _ => none

theorem Callback.bind_place?_eq_some_iff {callback? : Option Callback} {set : BindingSetId}
    {index : Nat} :
    callback?.bind place? = some (set, index) ↔ callback? = some (.binding set index) := by
  rcases callback? with - | - | -
  · simp
  · simp [place?]
  · simp [place?]

/-! ## New subscribers -/

/-- Subscribers that there are keep their numbers. -/
theorem callback_newSubscriber {w : Session} {s : SubscriberId} {callback : Callback}
    (hs : w.subscribers[s]?.map Subscriber.callback = some callback) (new : Subscriber) :
    (w.newSubscriber new).2.subscribers[s]?.map Subscriber.callback = some callback := by
  have hlt : s < w.subscribers.size := by
    by_contra hout
    rw [Array.getElem?_eq_none (Nat.le_of_not_lt hout)] at hs
    cases hs
  rw [newSubscriber, Array.getElem?_push, if_neg hlt.ne]
  exact hs

theorem callback_newSubscriber_self (w : Session) (new : Subscriber) :
    (w.newSubscriber new).2.subscribers[w.subscribers.size]?.map Subscriber.callback =
      some new.callback :=
  congrArg (Option.map Subscriber.callback) Array.getElem?_push_size

/-! ## New states -/

/-- A new state comes behind those that there are. Apart from it, something is told. -/
theorem observe_eq (w : Session) (data : Value) : ∃ trace, w.observe data =
    (w.states.size, { w with states := w.states.push (State.observe data), trace }) := by
  rw [observe]
  split <;> exact ⟨_, rfl⟩

theorem fst_observe (w : Session) (data : Value) : (w.observe data).1 = w.states.size := by
  obtain ⟨trace, hobserve⟩ := observe_eq w data
  rw [hobserve]

theorem states_observe (w : Session) (data : Value) :
    (w.observe data).2.states = w.states.push (State.observe data) := by
  obtain ⟨trace, hobserve⟩ := observe_eq w data
  rw [hobserve]

theorem state_observe_eq (w : Session) (data : Value) (i : StateId) :
    (w.observe data).2.state i = if i = w.states.size then State.observe data else w.state i := by
  rw [state, states_observe, Array.getElem?_push, state]
  split <;> rfl

theorem state_observe (w : Session) (data : Value) :
    (w.observe data).2.state w.states.size = State.observe data :=
  (state_observe_eq ..).trans (if_pos rfl)

/-! ## Runs -/

/-- Whether a run has returned. -/
def Outcome.hasReturned {α : Type} : Outcome α → Bool
  | .returned _ => true
  | .abandoned => false

theorem Run.returned_of_hasReturned {run : Run Unit} {w : Session}
    (h : (run w).1.hasReturned = true) : run w = (.returned (), (run w).2) := by
  cases hrun : run w with
  | mk outcome w' =>
    cases outcome with
    | returned u => rfl
    | abandoned =>
      rw [hrun] at h
      cases h

theorem Run.snd_bind_pure {α β : Type} (run : Run α) (f : α → β) (w : Session) :
    ((do let a ← run; pure (f a) : Run β) w).2 = (run w).2 := by
  cases hrun : run w with
  | mk outcome w' =>
    cases outcome with
    | returned a =>
      rw [Run.bind_returned hrun]
      rfl
    | abandoned => rw [Run.bind_abandoned hrun]

/-- What returns at the end has returned before. -/
theorem Run.returned_of_bind_pure {α β : Type} {run : Run α} {f : α → β} {b : β} {w w' : Session}
    (h : (do let a ← run; pure (f a) : Run β) w = (.returned b, w')) :
    ∃ a, run w = (.returned a, w') ∧ f a = b := by
  cases hrun : run w with
  | mk outcome w₁ =>
    cases outcome with
    | returned a =>
      rw [Run.bind_returned hrun] at h
      obtain ⟨hb, rfl⟩ := Prod.mk.inj h
      exact ⟨a, rfl, Outcome.returned.inj hb⟩
    | abandoned =>
      rw [Run.bind_abandoned hrun] at h
      cases h

theorem Run.snd_holding {α : Type} (holdings : List Holding) (run : Run α) (w : Session) :
    (run.holding holdings w).2 = (run (w.hold holdings)).2.holdAs w := rfl

theorem Run.snd_collecting {α : Type} (c : CollectorId) (busy : Collector) (run : Run α)
    (w : Session) :
    (run.collecting c busy w).2 = (run (w.setCollector c busy)).2.setCollector c
      ((run (w.setCollector c busy)).2.collector c).finish := rfl

/-! ## Refusals -/

theorem bind_eq_ok {ε α β : Type} {x : Except ε α} {f : α → Except ε β} {b : β}
    (h : (x >>= f) = .ok b) : ∃ a, x = .ok a ∧ f a = .ok b := by
  cases x with
  | error e => cases h
  | ok a => exact ⟨a, rfl, h⟩

theorem lookup_of_require {α : Type} {table : Table} {entries : Entries α} {name : String} {a : α}
    (h : require table entries name = .ok a) : entries.lookup name = some a := by
  rw [require] at h
  split at h
  · next hlookup => exact hlookup.trans (congrArg some (Except.ok.inj h))
  · cases h

theorem require_of_lookup {α : Type} (table : Table) {entries : Entries α} {name : String} {a : α}
    (h : entries.lookup name = some a) : require table entries name = .ok a := by
  rw [require, h]

end LiveText.Session
