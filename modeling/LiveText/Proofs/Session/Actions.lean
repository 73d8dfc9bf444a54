import Mathlib
import LiveText.Proofs.Session.Display
import LiveText.Proofs.Session.Ownership
import LiveText.Proofs.State.Alike

/-!
# Actions from outside

Writes to states, renderings of bindings on demand, and drops, one after the other and none of them
during a collection, on sets of bindings that have their states to themselves. A write tells nobody
but bindings of these sets, so that all that ever happens is that one of their bindings is rendered.
Such renderings keep the wiring of all bindings, write to no texts but their own, and register
nobody new with a state but their own subscribers.

## Main definitions

- `Action`, `Action.run`: what is done from outside.
- `Tenants`: sets of bindings that have their states to themselves.
- `Rendered`: a rendering that has not been refused, while others may be kept alive.
- `Since`: what actions leave of the session in which they began.

## Main statements

- `tellEach_cons_of_renders`: bindings are told one after the other.
- `Since.run`: what actions leave, they leave one by one.
-/

namespace LiveText

/-! ## Texts that are set -/

/-- What a node holds after its binding has been rendered with some outcome. -/
def NodeData.conclude : Except Fault String → NodeData → NodeData
  | .ok shown, data => data.withText shown
  | .error _, data => data

theorem Document.data_setText (d : Document) (k : NodeId) (text : String) (j : NodeId) :
    (d.setText k text).data j = if k = j then (d.data j).withText text else d.data j := by
  rw [data, node?_setText, data]
  cases d.node? j with
  | none => simp [NodeData.withText]
  | some n =>
    by_cases hj : k = j
    · simp [hj]
    · simp [hj]

namespace Session

variable {w w' : Session} {set a : BindingSetId} {index : Nat} {b : Binding} {s : SubscriberId}

theorem data_afterReading (w : Session) (set : BindingSetId) (index : Nat) (b : Binding)
    (st : State) (result : Except Fault String) (i : DocumentId) (k : NodeId) :
    ((w.afterReading set index b st result).document i).data k =
      if b.document = i ∧ b.node = k then ((w.document i).data k).conclude result
      else (w.document i).data k := by
  cases result with
  | error fault =>
    rw [NodeData.conclude, ite_self]
    rfl
  | ok text =>
    have hdocument : (w.afterReading set index b st (.ok text)).document i =
        (w.modifyDocument b.document (·.setText b.node text)).document i := rfl
    rw [hdocument, document_modifyDocument, NodeData.conclude]
    by_cases hi : b.document = i ∧ b.document < w.documents.size
    · rw [if_pos hi, Document.data_setText]
      simp only [hi.1, true_and]
    · rw [if_neg hi]
      by_cases hsame : b.document = i
      · -- There is no such document, and so it has no text.
        have hempty : w.document i = Document.empty := by
          rw [Session.document, Array.getElem?_eq_none (by subst hsame; simpa using hi)]
          rfl
        have hdata : (w.document i).data k = .fragment := by
          rw [hempty]
          cases k <;> rfl
        rw [hdata]
        exact (ite_self _).symm
      · rw [if_neg fun hplace => hsame hplace.1]

/-! ## Actions -/

/-- What is done from outside: to states, to bindings and to names. -/
inductive Action where
  /-- Writes to a property. -/
  | write (h : PropertyHandle) (v : Value)
  /-- Renders the binding at a place in a set. -/
  | refresh (set : BindingSetId) (index : Nat)
  /-- Drops the component and the compiled set of a name. -/
  | drop (name : String)

/-- What an edit leaves; one that is refused leaves everything as it was. -/
def edited (w : Session) : Except Refusal (Answer × Session) → Session
  | .ok (_, w') => w'
  | .error _ => w

/-- The session after an action, if programs are nested at most `depth` deep. -/
def Action.run (depth : Nat) (w : Session) : Action → Session
  | .write h v => (Session.write (telling depth) h v w).2
  | .refresh set index => w.edited (w.refresh set index)
  | .drop name => w.edited (w.drop "app" name)

theorem edited_refresh (w : Session) (set : BindingSetId) (index : Nat) :
    w.edited (w.refresh set index) = (w.renderBinding set index).2 := by
  cases hb : w.binding? set index with
  | none => rw [renderBinding_of_none hb, refresh, hb, edited]
  | some b => rw [refresh, hb, edited]

/-- The name is that of a component with the set, or of the compiled set. -/
def Names.Calls (names : Names) (name : String) (set : BindingSetId) : Prop :=
  (∃ e ∈ names.components, e.1 = name ∧ e.2.bindings = set) ∨ (name, set) ∈ names.compiled

instance (names : Names) (name : String) (set : BindingSetId) : Decidable (names.Calls name set) :=
  inferInstanceAs (Decidable (_ ∨ _))

theorem Names.keep_iff_calls {names : Names} : names.Keep set ↔ ∃ name, names.Calls name set := by
  constructor
  · rintro (⟨e, he, rfl⟩ | ⟨e, he, rfl⟩)
    · exact ⟨e.1, .inl ⟨e, he, rfl, rfl⟩⟩
    · exact ⟨e.1, .inr he⟩
  · rintro ⟨name, ⟨e, he, -, rfl⟩ | he⟩
    · exact .inl ⟨e, he, rfl⟩
    · exact .inr ⟨_, he, rfl⟩

/-- A drop takes away one name, and nothing else. -/
theorem calls_drop (w : Session) (name : String) (name' : String) (set : BindingSetId) :
    (w.edited (w.drop "app" name)).names.Calls name' set ↔
      name' ≠ name ∧ w.names.Calls name' set := by
  have hcomponents : (w.edited (w.drop "app" name)).names.components =
      w.names.components.erase name := rfl
  have hcompiled : (w.edited (w.drop "app" name)).names.compiled =
      w.names.compiled.erase name := rfl
  rw [Names.Calls, hcomponents, hcompiled, Names.Calls, and_or_left]
  simp only [Entries.erase, List.mem_filter, decide_eq_true_eq]
  refine or_congr ⟨?_, ?_⟩ and_comm
  · rintro ⟨e, ⟨he, hne⟩, rfl, hset⟩
    exact ⟨hne, e, he, rfl, hset⟩
  · rintro ⟨hne, e, he, rfl, hset⟩
    exact ⟨e, ⟨he, hne⟩, rfl, hset⟩

/-- Without anything else that keeps sets alive, those live that have a name. -/
theorem isAlive_iff_calls (hheld : w.held = []) :
    w.isAlive set = true ↔ ∃ name, w.names.Calls name set := by
  rw [isAlive_iff_keep, hheld, Names.keep_iff_calls]
  simp

/-! ## Renderings -/

/-- The subscriber renders a binding of the set. -/
def belongsTo (w : Session) (set : BindingSetId) : Liveness := fun s =>
  match w.subscribers[s]?.map Subscriber.callback with
  | some (.binding set' _) => set' == set
  | _ => false

theorem belongsTo_iff : w.belongsTo set s = true ↔ ∃ index, w.Renders s set index := by
  rw [belongsTo]
  simp only [Renders]
  split
  · next set' index' hs =>
    rw [hs, beq_iff_eq]
    constructor
    · rintro rfl
      exact ⟨index', rfl⟩
    · rintro ⟨index, h⟩
      cases h
      rfl
  · next hno =>
    refine iff_of_false Bool.false_ne_true ?_
    rintro ⟨index, h⟩
    exact hno set index h

theorem belongsTo_eq_false (h : w.Renders s set index) (hset : set ≠ a) :
    w.belongsTo a s = false := by
  rw [Bool.eq_false_iff, ne_eq, belongsTo_iff]
  rintro ⟨index', h'⟩
  cases h.symm.trans h'
  exact hset rfl

/-- The binding has been rendered while certain subscribers lived, and its collector was not
busy. -/
structure Rendered (live : Liveness) (set : BindingSetId) (index : Nat) (b : Binding)
    (w w' : Session) : Prop where
  subscribers : w'.subscribers = w.subscribers
  collectors : w'.collectors = w.collectors
  names : w'.names = w.names
  held : w'.held = w.held
  states : w'.states.size = w.states.size
  state : ∀ i, w'.state i =
    if b.state = i ∧ b.state < w.states.size then
      (b.template.renderWith (State.readTracked live (some b.subscriber)) (w.state b.state)).2
    else w.state i
  bindings : ∀ set', w'.bindings set' =
    if set = set' then
      (w.bindings set').modify index (·.conclude (b.template.renderWith
        (State.readTracked live (some b.subscriber)) (w.state b.state)).1)
    else w.bindings set'
  data : ∀ i k, (w'.document i).data k =
    if b.document = i ∧ b.node = k then
      ((w.document i).data k).conclude (b.template.renderWith
        (State.readTracked live (some b.subscriber)) (w.state b.state)).1
    else (w.document i).data k

theorem rendered_renderBinding (hb : w.binding? set index = some b)
    (hidle : (w.collector b.collector).active = none) :
    Rendered w.isLive set index b w (w.renderBinding set index).2 := by
  rw [renderBinding_of_active hb hidle]
  exact ⟨subscribers_afterReading .., collectors_afterReading .., names_afterReading ..,
    held_afterReading .., size_states_afterReading ..,
    fun i => (state_afterReading ..).trans (state_setState ..),
    fun set' => bindings_afterReading .., fun i k => data_afterReading ..⟩

/-- A rendering while others are kept alive, who are let go of afterwards. -/
theorem rendered_hold (holdings : List Holding) (hb : w.binding? set index = some b)
    (hidle : (w.collector b.collector).active = none) :
    Rendered (w.hold holdings).isLive set index b w
      (((w.hold holdings).renderBinding set index).2.holdAs w) := by
  have hb' : (w.hold holdings).binding? set index = some b := hb
  have h := rendered_renderBinding hb' hidle
  exact ⟨h.subscribers, h.collectors, h.names, rfl, h.states, h.state, h.bindings, h.data⟩

namespace Rendered

variable {live : Liveness}

theorem isAlive_eq (h : Rendered live set index b w w') (a : BindingSetId) :
    w'.isAlive a = w.isAlive a :=
  isAlive_congr h.names h.held a

/-- The record of renderings is no part of the wiring. -/
theorem wiring_eq (h : Rendered live set index b w w') (a : BindingSetId) :
    (w'.bindings a).map Binding.wiring = (w.bindings a).map Binding.wiring := by
  rw [h.bindings]
  split
  · apply List.ext_getElem?
    intro j
    rw [List.getElem?_map, List.getElem?_map, List.getElem?_modify]
    cases (w.bindings a)[j]? with
    | none => rfl
    | some b' => by_cases hj : index = j <;> simp [hj]
  · rfl

end Rendered

/-- Where wirings agree, each text that a set has it has on the other side. -/
theorem exists_place_of_wiring
    (h : (w'.bindings set).map Binding.wiring = (w.bindings set).map Binding.wiring)
    (hb : b ∈ w'.bindings set) :
    ∃ b₀ ∈ w.bindings set, b₀.document = b.document ∧ b₀.node = b.node := by
  obtain ⟨index, hindex⟩ := mem_bindings_iff.mp hb
  obtain ⟨b₀, hb₀, hsame⟩ := exists_binding?_of_wiring h hindex
  obtain ⟨hdocument, hnode, -⟩ := Binding.wiring_eq_iff.mp hsame
  exact ⟨b₀, mem_bindings_iff.mpr ⟨index, hb₀⟩, hdocument.symm, hnode.symm⟩

/-- Whoever lives does so while more is kept alive. -/
theorem isLive_hold {holdings : List Holding} (h : w.isLive s = true) :
    (w.hold holdings).isLive s = true := by
  rcases isLive_iff.mp h with hnamed | hheld | ⟨set, index, hrenders, halive⟩
  · exact isLive_iff.mpr (.inl hnamed)
  · exact isLive_iff.mpr (.inr (.inl (List.mem_append_right _ hheld)))
  · exact isLive_iff.mpr (.inr (.inr ⟨set, index, hrenders, isAlive_hold.mpr (.inl halive)⟩))

/-- Nobody else is told before the binding of the first subscriber has been rendered, if it
lives. -/
theorem tellEach_cons_of_renders (depth : Nat) (rest : List SubscriberId)
    (hs : w.Renders s set index) :
    (tellEach (telling depth) (s :: rest) w).2 =
      (tellEach (telling depth) rest
        (if w.isAlive set then
          ((w.hold ((s :: rest).map .subscriber)).renderBinding set index).2.holdAs w
        else w)).2 := by
  -- That subscribers wait to be told keeps no set alive.
  have halive : (w.hold ((s :: rest).map .subscriber)).isAlive set = w.isAlive set := by
    rw [Bool.eq_iff_iff, isAlive_hold]
    simp
  have hs' : (w.hold ((s :: rest).map .subscriber)).Renders s set index := hs
  have htold := telling_of_binding depth hs'
  rw [halive] at htold
  rw [tellEach]
  refine congrArg Prod.snd (Run.bind_returned (a := ()) ?_)
  refine (congrArg (fun r : Outcome Unit × Session => (r.1, r.2.holdAs w)) htold).trans ?_
  split <;> rfl

/-! ## Sets that have their states to themselves -/

/-- Each of the sets has one state, from which its bindings render, and nobody that lives has read
these states but for bindings of the sets that render from them. -/
structure Tenants (w : Session) (sets : List BindingSetId) (uses : BindingSetId → StateId) :
    Prop where
  state : ∀ set ∈ sets, ∀ b ∈ w.bindings set, b.state = uses set
  readers : ∀ set ∈ sets, ∀ q, ∀ s ∈ (w.state (uses set)).readers w.isLive q,
    ∃ set' ∈ sets, ∃ b ∈ w.bindings set', b.state = uses set ∧ b.subscriber = s

/-- The action is a write to a state of the sets, a rendering of one of their bindings, or a
drop. -/
def Action.Among (sets : List BindingSetId) (uses : BindingSetId → StateId) : Action → Prop
  | .write h _ => ∃ set ∈ sets, h.state = uses set
  | .refresh set _ => set ∈ sets
  | .drop _ => True

/-- What actions leave of the session in which they began. Bindings are wired as they were, and
nobody new is registered but by bindings with the states of their own sets. -/
structure Since (sets : List BindingSetId) (uses : BindingSetId → StateId) (start now : Session) :
    Prop where
  subscribers : now.subscribers = start.subscribers
  collectors : now.collectors = start.collectors
  held : now.held = []
  states : now.states.size = start.states.size
  named : now.names.subscribers = start.names.subscribers
  calls : ∀ name set, now.names.Calls name set → start.names.Calls name set
  wiring : ∀ set,
    (now.bindings set).map Binding.wiring = (start.bindings set).map Binding.wiring
  arrivals : ∀ set ∈ sets, ∀ q, ∀ s ∈ ((now.state (uses set)).publisherAt q).arrivals,
    start.isLive s = true →
      ∃ set' ∈ sets, uses set' = uses set ∧ ∃ index, start.Renders s set' index
  others : ∀ set, set ∉ sets → now.bindings set = start.bindings set
  texts : ∀ i k, (∀ set ∈ sets, ∀ b ∈ start.bindings set, ¬ (b.document = i ∧ b.node = k)) →
    (now.document i).data k = (start.document i).data k

section Actions

variable {sets : List BindingSetId} {uses : BindingSetId → StateId} {start now : Session}

theorem since_refl (hrest : AtRest start) (htenants : Tenants start sets uses) :
    Since sets uses start start := by
  refine ⟨rfl, rfl, hrest.held, rfl, rfl, fun _ _ h => h, fun _ => rfl,
    fun set hset q s hs hlive => ?_, fun _ _ => rfl, fun _ _ _ => rfl⟩
  obtain ⟨set', hset', b, hb, hstate, rfl⟩ :=
    htenants.readers set hset q s (Publisher.mem_subscribers.mpr ⟨hs, hlive⟩)
  obtain ⟨index, hindex⟩ := mem_bindings_iff.mp hb
  exact ⟨set', hset', (htenants.state set' hset' b hb).symm.trans hstate, index,
    hrest.owned set' index b hindex⟩

namespace Since

theorem isAlive (h : Since sets uses start now) (hrest : AtRest start)
    (halive : now.isAlive set = true) : start.isAlive set = true := by
  rw [isAlive_iff_calls h.held] at halive
  rw [isAlive_iff_calls hrest.held]
  exact halive.imp fun name => h.calls name set

/-- Whoever lives has lived from the start. -/
theorem isLive (h : Since sets uses start now) (hrest : AtRest start)
    (hlive : now.isLive s = true) : start.isLive s = true := by
  rcases isLive_iff.mp hlive with hnamed | hheld | ⟨set, index, hs, halive⟩
  · exact isLive_iff.mpr (.inl (h.named ▸ hnamed))
  · exact absurd (h.held ▸ hheld) List.not_mem_nil
  · rw [h.subscribers] at hs
    exact isLive_of_binding hs (h.isAlive hrest halive)

/-- Subscribers of a set live as long as the set does. -/
theorem isLive_iff_isAlive (h : Since sets uses start now) (hrest : AtRest start)
    (hs : start.belongsTo a s = true) : now.isLive s = now.isAlive a := by
  obtain ⟨index, hrenders⟩ := belongsTo_iff.mp hs
  have hnow : now.Renders s a index := by rwa [Renders, h.subscribers]
  cases halive : now.isAlive a with
  | true => exact isLive_of_binding hnow halive
  | false =>
    rw [Bool.eq_false_iff]
    intro hlive
    -- Subscribers with a name run programs, and this one renders.
    rcases isLive_iff.mp hlive with ⟨e, he, rfl⟩ | hheld | ⟨set, index', hs', halive'⟩
    · exact hrest.made.programs e (h.named ▸ he) a index hrenders
    · exact absurd (h.held ▸ hheld) List.not_mem_nil
    · cases hnow.symm.trans hs'
      exact absurd (halive.symm.trans halive') Bool.false_ne_true

/-- A binding has its counterpart from the start, with its subscriber and its state. -/
theorem binding (h : Since sets uses start now) (hrest : AtRest start)
    (htenants : Tenants start sets uses) (hset : set ∈ sets)
    (hb : now.binding? set index = some b) :
    start.Renders b.subscriber set index ∧ b.state = uses set ∧
      (now.collector b.collector).active = none ∧
      ∃ b₀ ∈ start.bindings set, b₀.document = b.document ∧ b₀.node = b.node := by
  obtain ⟨b₀, hb₀, hsame⟩ := exists_binding?_of_wiring (h.wiring set) hb
  obtain ⟨hdocument, hnode, -, hstate, -, hsubscriber⟩ := Binding.wiring_eq_iff.mp hsame
  have hmem : b₀ ∈ start.bindings set := mem_bindings_iff.mpr ⟨index, hb₀⟩
  refine ⟨hsubscriber ▸ hrest.owned set index b₀ hb₀,
    hstate.trans (htenants.state set hset b₀ hmem), ?_, b₀, hmem, hdocument.symm, hnode.symm⟩
  rw [collector_congr h.collectors]
  exact hrest.idle b.collector

/-- A rendering of one of the bindings. -/
theorem rendered (h : Since sets uses start now) (hrest : AtRest start)
    (htenants : Tenants start sets uses) (hset : set ∈ sets) {live : Liveness}
    (hb : now.binding? set index = some b) {next : Session}
    (hrendered : Rendered live set index b now next) : Since sets uses start next where
  subscribers := hrendered.subscribers.trans h.subscribers
  collectors := hrendered.collectors.trans h.collectors
  held := hrendered.held.trans h.held
  states := hrendered.states.trans h.states
  named := hrendered.names ▸ h.named
  calls := hrendered.names ▸ h.calls
  wiring set' := (hrendered.wiring_eq set').trans (h.wiring set')
  arrivals set' hset' q s hs hlive := by
    rw [hrendered.state] at hs
    split at hs
    · next hstate =>
      obtain ⟨hrenders, huses, -⟩ := h.binding hrest htenants hset hb
      rcases State.mem_arrivals_renderWith hs with hs | hs
      · exact h.arrivals set' hset' q s (hstate.1 ▸ hs) hlive
      · cases hs
        exact ⟨set, hset, huses.symm.trans hstate.1, index, hrenders⟩
    · exact h.arrivals set' hset' q s hs hlive
  others set' hset' := by
    rw [hrendered.bindings, if_neg fun (heq : set = set') => hset' (heq ▸ hset)]
    exact h.others set' hset'
  texts i k hspared := by
    obtain ⟨-, -, -, b₀, hb₀, hdocument, hnode⟩ := h.binding hrest htenants hset hb
    rw [hrendered.data, if_neg, h.texts i k hspared]
    exact fun hplace =>
      hspared set hset b₀ hb₀ ⟨hdocument.trans hplace.1, hnode.trans hplace.2⟩

theorem renderBinding (h : Since sets uses start now) (hrest : AtRest start)
    (htenants : Tenants start sets uses) (hset : set ∈ sets) (index : Nat) :
    Since sets uses start (now.renderBinding set index).2 := by
  cases hb : now.binding? set index with
  | none =>
    rw [renderBinding_of_none hb]
    exact h
  | some b =>
    obtain ⟨-, -, hidle, -⟩ := h.binding hrest htenants hset hb
    exact h.rendered hrest htenants hset hb (rendered_renderBinding hb hidle)

/-- When the subscriber of a binding is told, its binding is rendered, or nothing happens. -/
theorem told_cases (h : Since sets uses start now) (hrest : AtRest start)
    (htenants : Tenants start sets uses) (hset : set ∈ sets) (index : Nat)
    (holdings : List Holding) {next : Session} (hnext : next = if now.isAlive set then
      ((now.hold holdings).renderBinding set index).2.holdAs now else now) :
    next = now ∨ ∃ b, now.binding? set index = some b ∧
      Rendered (now.hold holdings).isLive set index b now next := by
  subst hnext
  split
  · cases hb : now.binding? set index with
    | none =>
      have hb' : (now.hold holdings).binding? set index = none := hb
      rw [renderBinding_of_none hb']
      exact .inl rfl
    | some b =>
      obtain ⟨-, -, hidle, -⟩ := h.binding hrest htenants hset hb
      exact .inr ⟨b, rfl, rendered_hold holdings hb hidle⟩
  · exact .inl rfl

/-- Somebody else is told after the first one. -/
theorem told (h : Since sets uses start now) (hrest : AtRest start)
    (htenants : Tenants start sets uses) (hset : set ∈ sets) (index : Nat)
    (holdings : List Holding) :
    Since sets uses start (if now.isAlive set then
      ((now.hold holdings).renderBinding set index).2.holdAs now else now) := by
  rcases h.told_cases hrest htenants hset index holdings rfl with hsame | ⟨b, hb, hrendered⟩
  · rw [hsame]
    exact h
  · exact h.rendered hrest htenants hset hb hrendered

/-- The change of a write registers nobody. -/
theorem written (h : Since sets uses start now) {p : PropertyHandle} (v : Value)
    (hthere : (now.state p.state).contains p.path = true) :
    Since sets uses start (now.written p v) where
  subscribers := h.subscribers
  collectors := h.collectors
  held := h.held
  states := Array.size_setIfInBounds.trans h.states
  named := h.named
  calls := h.calls
  wiring := h.wiring
  arrivals set hset q s hs := by
    rw [state_written_eq now v hthere] at hs
    split at hs
    · exact h.arrivals set hset q s (State.mem_arrivals_afterWrite hs)
    · exact h.arrivals set hset q s hs
  others := h.others
  texts := h.texts

theorem tellEach (h : Since sets uses start now) (hrest : AtRest start)
    (htenants : Tenants start sets uses) (depth : Nat) {ss : List SubscriberId}
    (hss : ∀ s ∈ ss, ∃ set ∈ sets, ∃ index, start.Renders s set index) :
    Since sets uses start (Session.tellEach (telling depth) ss now).2 := by
  induction ss generalizing now with
  | nil => exact h
  | cons s rest ih =>
    obtain ⟨set, hset, index, hs⟩ := hss s (List.mem_cons_self ..)
    have hnow : now.Renders s set index := by rwa [Renders, h.subscribers]
    rw [tellEach_cons_of_renders depth rest hnow]
    exact ih (h.told hrest htenants hset index _) fun t ht => hss t (List.mem_cons_of_mem _ ht)

/-- The living readers of a state of the sets are subscribers of those that have the state. -/
theorem renders_of_mem_readers (h : Since sets uses start now) (hrest : AtRest start)
    (hset : set ∈ sets) {q : Path} (hs : s ∈ (now.state (uses set)).readers now.isLive q) :
    ∃ set' ∈ sets, uses set' = uses set ∧ ∃ index, start.Renders s set' index := by
  obtain ⟨hmem, hlive⟩ := Publisher.mem_subscribers.mp hs
  exact h.arrivals set hset q s hmem (h.isLive hrest hlive)

/-- What actions leave, they leave one by one. -/
theorem run (h : Since sets uses start now) (hrest : AtRest start)
    (htenants : Tenants start sets uses) (depth : Nat) {act : Action}
    (hact : act.Among sets uses) : Since sets uses start (act.run depth now) := by
  cases act with
  | write p v =>
    obtain ⟨set, hset, hstate⟩ := hact
    rw [Action.run]
    cases hthere : (now.state p.state).contains p.path with
    | false =>
      rw [write_of_not_contains _ v hthere]
      exact h
    | true =>
      rw [write_of_contains _ v hthere, Run.snd_bind_pure]
      apply (h.written v hthere).tellEach hrest htenants depth
      intro s hs
      rw [hstate] at hs
      obtain ⟨set', hset', -, hrenders⟩ := h.renders_of_mem_readers hrest hset hs
      exact ⟨set', hset', hrenders⟩
  | refresh set index =>
    rw [Action.run, edited_refresh]
    exact h.renderBinding hrest htenants hact index
  | drop name =>
    refine ⟨h.subscribers, h.collectors, h.held, h.states, h.named, fun name' set hcalls => ?_,
      h.wiring, h.arrivals, h.others, h.texts⟩
    exact h.calls name' set ((calls_drop now name name' set).mp hcalls).2

end Since

end Actions

end Session

end LiveText
