import Mathlib
import LiveText.Proofs.State.Alike
import LiveText.Proofs.State.History

/-!
# Pasts of a state

In a history of a state subscribers live until they die, also those that there are not yet. A state
cannot tell this from any other notion of who lives that agrees on the subscribers it knows. So what
is read from a state or written to it among subscribers that come and go is an event of a history,
once that history has caught up with the deaths.

## Main definitions

- `Publisher.Below`, `State.Below`: a publisher or a state that knows of numbers below a bound only.
- `State.Past`: data and a history without a key twice.

## Main statements

- `readTracked_congr`, `renderWith_congr`, `afterWrite_congr`: what is done to a state depends on
  whether those live whom it knows.
- `Past.exists_read`, `Past.exists_render`, `Past.exists_write`: each of these is an event.
-/

namespace LiveText

/-! ## Publishers -/

namespace Publisher

variable {live live' : Liveness} {n : Nat} {p other : Publisher}

/-- Only subscribers with numbers below a bound have arrived. -/
def Below (n : Nat) (p : Publisher) : Prop :=
  ∀ s ∈ p.arrivals, s < n

theorem Below.track (h : p.Below n) {active : Option SubscriberId}
    (hactive : ∀ s, active = some s → s < n) : (p.track live active).Below n := by
  intro s hs
  rcases mem_arrivals_track hs with hs | hs
  · exact h s hs
  · exact hactive s hs

theorem Below.inherit (h : p.Below n) (hother : other.Below n) :
    (p.inherit live other).Below n := by
  intro s hs
  rcases mem_arrivals_foldl_register hs with hs | hs
  · exact h s hs
  · exact hother s (mem_subscribers.mp hs).1

theorem subscribers_congr (hlive : ∀ s < n, live s = live' s) (h : p.Below n) :
    p.subscribers live = p.subscribers live' :=
  List.filter_congr fun s hs => hlive s (h s hs)

theorem register_congr (hlive : ∀ s < n, live s = live' s) (h : p.Below n) (s : SubscriberId) :
    p.register live s = p.register live' s := by
  rw [register, register, subscribers_congr hlive h]

theorem track_congr (hlive : ∀ s < n, live s = live' s) (h : p.Below n)
    (active : Option SubscriberId) : p.track live active = p.track live' active := by
  cases active with
  | none => rfl
  | some s => exact register_congr hlive h s

theorem inherit_congr (hlive : ∀ s < n, live s = live' s) (h : p.Below n)
    (hother : other.Below n) : p.inherit live other = p.inherit live' other := by
  have hids : ∀ s ∈ other.subscribers live', s < n := fun s hs =>
    hother s (mem_subscribers.mp hs).1
  rw [inherit, inherit, subscribers_congr hlive hother]
  -- On those who are taken over.
  generalize other.subscribers live' = ids at hids
  induction ids generalizing p with
  | nil => rfl
  | cons s rest ih =>
    have hfirst : (p.track live' (some s)).Below n :=
      h.track fun t ht => Option.some.inj ht ▸ hids s List.mem_cons_self
    rw [List.foldl_cons, List.foldl_cons, register_congr hlive h]
    exact ih hfirst fun t ht => hids t (List.mem_cons_of_mem s ht)

end Publisher

namespace State

variable {live live' : Liveness} {active : Option SubscriberId} {n : Nat} {st : State}

/-! ## Whom a state knows -/

/-- Only subscribers with numbers below a bound are registered. -/
def Below (n : Nat) (st : State) : Prop :=
  ∀ slot ∈ st.slots, slot.publisher.Below n

theorem Below.mono {m : Nat} (h : st.Below n) (hle : n ≤ m) : st.Below m :=
  fun slot hslot s hs => (h slot hslot s hs).trans_le hle

theorem below_observe (n : Nat) (data : Value) : (observe data).Below n := by
  intro slot hslot s hs
  rw [slots_observe] at hslot
  rw [Slot.publisher_of_mem_belowValue hslot] at hs
  cases hs

section Reads

variable (hactive : ∀ s, active = some s → s < n)

include hactive

theorem Below.trackAt (h : st.Below n) (p : Path) : (st.trackAt live active p).Below n := by
  intro slot hslot
  obtain ⟨old, hold, rfl⟩ := List.mem_map.mp hslot
  split
  · exact (h old hold).track hactive
  · exact h old hold

theorem Below.trackAlong (h : st.Below n) (ps : List Path) :
    (State.trackAlong live active ps st).2.Below n := by
  induction ps generalizing st with
  | nil => exact h
  | cons p rest ih =>
    rw [State.trackAlong]
    split
    · exact ih (h.trackAt hactive p)
    · exact h

theorem Below.readTracked (h : st.Below n) (p : Path) :
    (State.readTracked live active p st).2.Below n := by
  rw [snd_readTracked]
  exact h.trackAlong hactive p.prefixes

theorem Below.renderWith (h : st.Below n) (t : Template) :
    (t.renderWith (State.readTracked live active) st).2.Below n := by
  rw [Template.renderWith]
  generalize t.segments = segments
  induction segments generalizing st with
  | nil => exact h
  | cons segment rest ih =>
    cases segment with
    | literal text => exact ih h
    | placeholder p =>
      rw [snd_renderSegments_placeholder]
      exact ih (h.readTracked hactive p)

end Reads

theorem Below.carryOver {old : List Slot} (hold : ∀ slot ∈ old, slot.publisher.Below n)
    {fresh : Slot} (hfresh : fresh.publisher.Below n) :
    (State.carryOver live old fresh).publisher.Below n := by
  rw [State.carryOver]
  split
  · next slot hslot => exact hfresh.inherit (hold slot (List.mem_of_find?_eq_some hslot))
  · exact hfresh

theorem Below.afterWrite (h : st.Below n) (p : Path) (v : Value) :
    (st.afterWrite live p v).Below n := by
  intro slot hslot
  rcases List.mem_append.mp hslot with hslot | hslot
  · obtain ⟨old, hold, rfl⟩ := List.mem_map.mp hslot
    have hthere := h old (List.mem_filter.mp hold).1
    split <;> exact hthere
  · obtain ⟨fresh, hfresh, rfl⟩ := List.mem_map.mp hslot
    apply Below.carryOver fun old hold => h old (List.mem_filter.mp hold).1
    rw [Slot.publisher_of_mem_belowValue hfresh]
    exact fun s hs => absurd hs List.not_mem_nil

/-! ## Who lives among them -/

section Congr

variable (hlive : ∀ s < n, live s = live' s)

include hlive

theorem trackAt_congr (h : st.Below n) (p : Path) :
    st.trackAt live active p = st.trackAt live' active p := by
  have hslots : ∀ slot ∈ st.slots,
      slot.publisher.track live active = slot.publisher.track live' active := fun slot hslot =>
    Publisher.track_congr hlive (h slot hslot) active
  rw [trackAt, trackAt, modifySlot, modifySlot, State.mk.injEq]
  refine ⟨List.map_congr_left fun slot hslot => ?_, rfl⟩
  rw [hslots slot hslot]

theorem trackAlong_congr (hactive : ∀ s, active = some s → s < n) (h : st.Below n)
    (ps : List Path) : trackAlong live active ps st = trackAlong live' active ps st := by
  induction ps generalizing st with
  | nil => rfl
  | cons p rest ih =>
    rw [trackAlong, trackAlong]
    split
    · have hfirst : st.trackAt live active p = st.trackAt live' active p :=
        trackAt_congr hlive h p
      rw [trackAt, trackAt] at hfirst
      rw [hfirst]
      exact ih (h.trackAt hactive p)
    · rfl

/-- A tracked read depends on whether those live whom the state knows. -/
theorem readTracked_congr (hactive : ∀ s, active = some s → s < n) (h : st.Below n) (p : Path) :
    readTracked live active p st = readTracked live' active p st := by
  rw [readTracked, readTracked, trackAlong_congr hlive hactive h]

theorem renderWith_congr (hactive : ∀ s, active = some s → s < n) (h : st.Below n)
    (t : Template) :
    t.renderWith (readTracked live active) st = t.renderWith (readTracked live' active) st := by
  rw [Template.renderWith, Template.renderWith]
  generalize t.segments = segments
  induction segments generalizing st with
  | nil => rfl
  | cons segment rest ih =>
    cases segment with
    | literal text =>
      rw [Template.renderSegments, Template.renderSegments, ih h]
    | placeholder p =>
      have hbelow : (State.readTracked live' active p st).2.Below n := h.readTracked hactive p
      have hrest := ih hbelow
      rw [Template.renderSegments, Template.renderSegments, readTracked_congr hlive hactive h]
      revert hrest
      rcases readTracked live' active p st with ⟨found, after⟩
      intro hrest
      dsimp only at hrest ⊢
      rw [hrest]

/-- So does a write. -/
theorem afterWrite_congr (h : st.Below n) (p : Path) (v : Value) :
    st.afterWrite live p v = st.afterWrite live' p v := by
  have hfresh : ∀ fresh ∈ Slot.belowValue p v,
      carryOver live (st.slots.filter (·.path.isBelow p)) fresh =
        carryOver live' (st.slots.filter (·.path.isBelow p)) fresh := by
    intro fresh hfresh
    rw [carryOver, carryOver]
    split
    · next old hold =>
      have hmem := (List.mem_filter.mp (List.mem_of_find?_eq_some hold)).1
      have hnobody : fresh.publisher.Below n := by
        rw [Slot.publisher_of_mem_belowValue hfresh]
        exact fun s hs => absurd hs List.not_mem_nil
      rw [Publisher.inherit_congr hlive hnobody (h old hmem)]
    · rfl
  rw [afterWrite, afterWrite, List.map_congr_left hfresh]

end Congr

/-! ## Pasts -/

/-- Data, and what has happened to the state of it. Nothing that has come in has a key twice. -/
structure Past where
  data : Value
  events : List Event
  wellFormed : data.WellFormed
  wellFormed_events : ∀ e ∈ events, e.WellFormed

namespace Past

/-- What the past has led to. -/
def now (past : Past) : Moment :=
  after past.data past.events

/-- The past of a new state. -/
def begin (data : Value) (hdata : data.WellFormed) : Past :=
  ⟨data, [], hdata, fun _ he => absurd he List.not_mem_nil⟩

/-- Whatever happens next belongs to the past afterwards. -/
theorem exists_next (past : Past) {e : Event} (he : e.WellFormed) :
    ∃ past' : Past, past'.now = past.now.next e := by
  refine ⟨⟨past.data, past.events ++ [e], past.wellFormed, fun x hx => ?_⟩,
    after_concat past.data past.events e⟩
  rcases List.mem_append.mp hx with hx | hx
  · exact past.wellFormed_events x hx
  · exact List.mem_singleton.mp hx ▸ he

/-- Further subscribers have died. -/
theorem exists_mourning (past : Past) (ss : List SubscriberId) :
    ∃ past' : Past, past'.now.state = past.now.state ∧
      ∀ s, s ∈ past'.now.dead ↔ s ∈ ss ∨ s ∈ past.now.dead := by
  induction ss generalizing past with
  | nil => exact ⟨past, rfl, fun s => by simp⟩
  | cons t rest ih =>
    obtain ⟨past₁, hnow⟩ := past.exists_next (e := .death t) trivial
    obtain ⟨past', hstate, hdead⟩ := ih past₁
    refine ⟨past', by rw [hstate, hnow, Moment.next], fun s => ?_⟩
    rw [hdead, hnow, Moment.next, List.mem_cons, List.mem_cons]
    tauto

variable {past : Past} (hlive : ∀ s < n, past.now.live s = live s)

include hlive

/-- A tracked read is an event. -/
theorem exists_read (h : past.now.state.Below n) (hactive : ∀ s, active = some s → s < n)
    (p : Path) : ∃ past' : Past, past'.now.dead = past.now.dead ∧
      past'.now.state = (readTracked live active p past.now.state).2 := by
  obtain ⟨past', hnow⟩ := past.exists_next (e := .read active p) trivial
  refine ⟨past', ?_⟩
  rw [hnow]
  exact ⟨rfl, congrArg Prod.snd (readTracked_congr hlive hactive h p)⟩

/-- A rendering is an event. -/
theorem exists_render (h : past.now.state.Below n) (hactive : ∀ s, active = some s → s < n)
    (t : Template) : ∃ past' : Past, past'.now.dead = past.now.dead ∧
      past'.now.state = (t.renderWith (readTracked live active) past.now.state).2 := by
  obtain ⟨past', hnow⟩ := past.exists_next (e := .render active t) trivial
  refine ⟨past', ?_⟩
  rw [hnow]
  exact ⟨rfl, congrArg Prod.snd (renderWith_congr hlive hactive h t)⟩

/-- A write to a property is an event. -/
theorem exists_write (h : past.now.state.Below n) {p : Path} {v : Value} (hv : v.WellFormed)
    (hthere : past.now.state.contains p = true) : ∃ past' : Past, past'.now.dead = past.now.dead ∧
      past'.now.state = past.now.state.afterWrite live p v := by
  have hnext : past.now.next (.write p v) =
      { past.now with state := past.now.state.afterWrite past.now.live p v } := by
    rw [Moment.next, assign?_of_contains _ v hthere]
  obtain ⟨past', hnow⟩ := past.exists_next (e := .write p v) hv
  refine ⟨past', ?_⟩
  rw [hnow, hnext]
  exact ⟨rfl, afterWrite_congr hlive h p v⟩

end Past

end State

end LiveText
