import Mathlib
import LiveText.Proofs.Session.Frames
import LiveText.Proofs.Session.Mounting

/-!
# Refused renderings

While a component's collector is busy its bindings are refused when they are told of a write. A
refused rendering leaves a record of its fault, and does not register with what the write has made.

## Main definitions

- `Connected`: a set of bindings as `Wired` has it, whose collector may be busy.
- `Refused`: what refused renderings leave alone.
- `Acted`: what an operation or a collection does to a connected set.

## Main statements

- `refused_tellEach`: bindings that are told while the collector is busy.
- `acted_write`, `acted_refresh`: what writes and refreshes do to the readers of properties.
-/

namespace LiveText.Session

variable {w w' w'' : Session} {set : BindingSetId} {state : StateId} {collector : CollectorId}

/-! ## Busy collectors -/

/-- The set is wired but for its collector, which may be busy. -/
def Connected (w : Session) (set : BindingSetId) (state : StateId) (collector : CollectorId) :
    Prop :=
  Wired (w.setCollector collector {}) set state collector

theorem collector_freed (w : Session) (collector : CollectorId) :
    (w.setCollector collector {}).collector collector = {} := by
  rw [collector_setCollector]
  split
  · rfl
  · next h =>
    exact collector_of_size_le (Nat.le_of_not_lt fun hlt => h ⟨rfl, hlt⟩)

theorem Wired.connected (h : Wired w set state collector) : Connected w set state collector :=
  { h with idle := by rw [collector_freed] }

theorem Connected.wired (h : Connected w set state collector)
    (hidle : (w.collector collector).active = none) : Wired w set state collector :=
  { h with idle := hidle }

theorem Connected.setCollector (h : Connected w set state collector) (k : Collector) :
    Connected (w.setCollector collector k) set state collector :=
  { h with idle := by rw [collector_freed] }

/-- A write is no business of the collector. -/
theorem Connected.written (h : Connected w set state collector) {p : Path} {v : Value}
    (hv : v.WellFormed) (hp : (w.state state).contains p = true) :
    Connected (w.written ⟨state, p⟩ v) set state collector :=
  wired_written h hv hp

theorem Connected.readers_written (h : Connected w set state collector) {p : Path} {v : Value}
    (hp : (w.state state).contains p = true) (q : Path) :
    ((w.written ⟨state, p⟩ v).state state).readers everyone q =
      if ((w.written ⟨state, p⟩ v).state state).contains q then
        (w.state state).readers everyone q
      else [] :=
  Session.readers_written (w := w.setCollector collector {}) h hp q

/-- Everybody who reads a property is the subscriber of a binding of the set. -/
theorem Connected.exists_readers (h : Connected w set state collector) (p : Path) :
    ∃ bs : List Binding, bs.map Binding.subscriber = (w.state state).readers everyone p ∧
      ∀ b ∈ bs, ∃ i, w.binding? set i = some b := by
  have hown : ∀ s ∈ (w.state state).readers everyone p, ∃ b ∈ w.bindings set, b.subscriber = s :=
    h.readers_own p
  generalize (w.state state).readers everyone p = ids at hown ⊢
  induction ids with
  | nil => exact ⟨[], rfl, fun b hb => by cases hb⟩
  | cons s rest ih =>
    obtain ⟨b, hb, rfl⟩ := hown s List.mem_cons_self
    obtain ⟨bs, hbs, hmem⟩ := ih fun t ht => hown t (List.mem_cons_of_mem _ ht)
    refine ⟨b :: bs, by rw [List.map_cons, hbs], fun b' hb' => ?_⟩
    rcases List.mem_cons.mp hb' with rfl | hb'
    · exact mem_bindings_iff.mp hb
    · exact hmem b' hb'

/-! ## Refusals -/

/-- What stays while renderings of a set are refused: everything but their records. -/
structure Refused (w w' : Session) (set : BindingSetId) : Prop where
  names : w'.names = w.names
  held : w'.held = w.held
  states : w'.states = w.states
  collectors : w'.collectors = w.collectors
  subscribers : w'.subscribers = w.subscribers
  sets : w'.bindingSets.size = w.bindingSets.size
  wiring : (w'.bindings set).map Binding.wiring = (w.bindings set).map Binding.wiring

theorem Refused.refl (w : Session) (set : BindingSetId) : Refused w w set :=
  ⟨rfl, rfl, rfl, rfl, rfl, rfl, rfl⟩

theorem Refused.trans (h : Refused w w' set) (h' : Refused w' w'' set) : Refused w w'' set :=
  ⟨h'.names.trans h.names, h'.held.trans h.held, h'.states.trans h.states,
    h'.collectors.trans h.collectors, h'.subscribers.trans h.subscribers, h'.sets.trans h.sets,
    h'.wiring.trans h.wiring⟩

/-- What is refused while more is kept alive is refused also without. -/
theorem Refused.holding {holdings : List Holding} (h : Refused (w.hold holdings) w' set) :
    Refused w (w'.holdAs w) set :=
  ⟨h.names, rfl, h.states, h.collectors, h.subscribers, h.sets, h.wiring⟩

theorem refused_renderBinding {i : Nat} {b : Binding} (hb : w.binding? set i = some b)
    {active : SubscriberId} (hbusy : (w.collector b.collector).active = some active) :
    Refused w (w.renderBinding set i).2 set := by
  have hwiring := wiring_renderBinding hb
  rw [renderBinding_of_busy hb hbusy] at hwiring ⊢
  exact ⟨rfl, rfl, rfl, rfl, rfl, Array.size_modify, hwiring⟩

/-- Bindings that are told while their collector is busy are refused one after the other. -/
theorem refused_tellEach (depth : Nat) {active : SubscriberId}
    (hbusy : (w.collector collector).active = some active) (halive : w.isAlive set = true)
    {ids : List SubscriberId}
    (hids : ∀ s ∈ ids, ∃ i b, w.binding? set i = some b ∧ b.collector = collector ∧
      w.subscribers[s]?.map Subscriber.callback = some (.binding set i)) :
    ∃ w', tellEach (telling depth) ids w = (.returned (), w') ∧ Refused w w' set := by
  induction ids generalizing w with
  | nil => exact ⟨w, rfl, .refl w set⟩
  | cons s rest ih =>
    obtain ⟨i, b, hb, hcollector, hcallback⟩ := hids s List.mem_cons_self
    let holdings := (s :: rest).map Holding.subscriber
    have hheld : (w.hold holdings).isAlive set = true := isAlive_hold.mpr (.inl halive)
    have htell := telling_of_binding (w := w.hold holdings) depth hcallback
    rw [if_pos hheld] at htell
    have hfirst : Refused w (((w.hold holdings).renderBinding set i).2.holdAs w) set :=
      (refused_renderBinding (w := w.hold holdings) hb (hcollector ▸ hbusy)).holding
    -- Bindings keep their places when others are refused.
    obtain ⟨w', htells, hrefused⟩ := ih (w := ((w.hold holdings).renderBinding set i).2.holdAs w)
      (by rw [collector_congr hfirst.collectors, hbusy])
      (by rw [isAlive_congr hfirst.names hfirst.held, halive]) (by
        intro t ht
        obtain ⟨j, b₁, hb₁, hcollector₁, hcallback₁⟩ := hids t (List.mem_cons_of_mem _ ht)
        obtain ⟨b₂, hb₂, hsame⟩ := exists_binding?_of_wiring hfirst.wiring.symm hb₁
        obtain ⟨-, -, -, -, hcollector₂, -⟩ := Binding.wiring_eq_iff.mp hsame
        exact ⟨j, b₂, hb₂, hcollector₂.symm.trans hcollector₁, hfirst.subscribers ▸ hcallback₁⟩)
    refine ⟨w', ?_, hfirst.trans hrefused⟩
    rw [tellEach]
    refine (Run.bind_returned (a := ()) ?_).trans htells
    exact congrArg (fun r : Outcome Unit × Session => (r.1, r.2.holdAs w)) htell

/-- A set that has been refused is as connected as before. -/
theorem Refused.connected (hrefused : Refused w w' set) (h : Connected w set state collector) :
    Connected w' set state collector where
  listed := hrefused.sets.symm ▸ h.listed
  made := hrefused.states.symm ▸ h.made
  alive := (isAlive_congr hrefused.names hrefused.held set).trans h.alive
  idle := by rw [collector_freed]
  own i b' hb' := by
    obtain ⟨b, hb, hsame⟩ := exists_binding?_of_wiring hrefused.wiring hb'
    obtain ⟨-, -, -, hstate, hcollector, hsubscriber⟩ := Binding.wiring_eq_iff.mp hsame
    have hcallback : w'.subscribers[b.subscriber]?.map Subscriber.callback =
        some (.binding set i) := hrefused.subscribers.symm ▸ (h.own i b hb).2.2
    exact ⟨hstate.trans (h.own i b hb).1, hcollector.trans (h.own i b hb).2.1,
      hsubscriber.symm ▸ hcallback⟩
  represents := by
    obtain ⟨tree, hrep⟩ := h.represents
    exact ⟨tree, (state_congr hrefused.states state).symm ▸ hrep⟩
  orderly := (state_congr hrefused.states state).symm ▸ h.orderly
  readers_own q s hs := by
    have hs' : s ∈ (w.state state).readers everyone q :=
      state_congr hrefused.states state ▸ hs
    obtain ⟨b, hb, rfl⟩ := h.readers_own q s hs'
    obtain ⟨i, hi⟩ := mem_bindings_iff.mp hb
    obtain ⟨b', hb', hsame⟩ := exists_binding?_of_wiring hrefused.wiring.symm hi
    exact ⟨b', mem_bindings_iff.mpr ⟨i, hb'⟩, (Binding.wiring_eq_iff.mp hsame).2.2.2.2.2.symm⟩

/-! ## Operations -/

/-- What an operation or a collection does to a connected set: it stays so, with the wiring that it
has, and a binding comes to read a property only if the template depends on it and a rendering has
been tried while the collector was not busy. -/
structure Acted (w w' : Session) (set : BindingSetId) (state : StateId)
    (collector : CollectorId) : Prop where
  connected : Connected w' set state collector
  wiring : (w'.bindings set).map Binding.wiring = (w.bindings set).map Binding.wiring
  readers : ∀ i b b', w.binding? set i = some b → w'.binding? set i = some b' → ∀ q,
    (w'.state state).contains q = true →
      (b'.subscriber ∈ (w'.state state).readers everyone q ↔
        b'.subscriber ∈ (w.state state).readers everyone q ∨
          b'.DependsOn q ∧ (w.collector collector).active = none ∧ b.attempts < b'.attempts)

/-- While the collector is busy, or if no rendering is tried, nobody comes to read anything. -/
theorem Acted.of_readers (hconnected : Connected w' set state collector)
    (hwiring : (w'.bindings set).map Binding.wiring = (w.bindings set).map Binding.wiring)
    (hreaders : ∀ q, (w'.state state).contains q = true →
      (w'.state state).readers everyone q = (w.state state).readers everyone q)
    (hidle : (w.collector collector).active = none → w'.bindings set = w.bindings set) :
    Acted w w' set state collector := by
  refine ⟨hconnected, hwiring, fun i b b' hb hb' q hq => ?_⟩
  rw [hreaders q hq, or_iff_left]
  rintro ⟨-, hactive, hlt⟩
  rw [binding?, hidle hactive] at hb'
  obtain rfl := Option.some.inj (hb.symm.trans hb')
  exact absurd hlt (Nat.lt_irrefl _)

/-- How often a binding has been tried after bindings have been told. -/
theorem Told.attempts_eq {bs : List Binding} (h : Told w w' set state collector bs) {i : Nat}
    {b b' : Binding} (hb : w.binding? set i = some b) (hb' : w'.binding? set i = some b') :
    b'.wiring = b.wiring ∧
      b'.attempts = b.attempts + (bs.map Binding.subscriber).count b.subscriber := by
  have hget := congrArg (fun xs : List (Binding × Nat) => xs[i]?) h.tried
  simp only [List.getElem?_map] at hget
  rw [show (w.bindings set)[i]? = some b from hb,
    show (w'.bindings set)[i]? = some b' from hb'] at hget
  exact Prod.mk.inj (Option.some.inj hget)

/-- Bindings that are told while the collector is not busy come to read what they depend on. -/
theorem Told.acted {u : Session} {bs : List Binding} (h : Wired u set state collector)
    (htold : Told u w' set state collector bs) (hbs : ∀ b ∈ bs, ∃ i, u.binding? set i = some b)
    (hidle : (w.collector collector).active = none) (hbindings : u.bindings set = w.bindings set)
    (hreaders : ∀ q, (u.state state).contains q = true →
      (u.state state).readers everyone q = (w.state state).readers everyone q) :
    Acted w w' set state collector := by
  have hown : ∀ b ∈ bs, b ∈ u.bindings set := fun b hb => mem_bindings_iff.mpr (hbs b hb)
  refine ⟨htold.wired.connected, htold.wiring_eq.trans (hbindings ▸ rfl),
    fun i b b' hb hb' q hq => ?_⟩
  have hb₁ : u.binding? set i = some b := (congrArg (·[i]?) hbindings).trans hb
  have hmem : b ∈ u.bindings set := mem_bindings_iff.mpr ⟨i, hb₁⟩
  obtain ⟨hsame, hattempts⟩ := htold.attempts_eq hb₁ hb'
  obtain ⟨-, -, -, -, -, hsubscriber⟩ := Binding.wiring_eq_iff.mp hsame
  have harrives : b.subscriber ∈ (dependents bs q).map Binding.subscriber ↔
      b ∈ bs ∧ b.DependsOn q := by
    rw [h.mem_map_subscriber (fun x hx => hown x (mem_dependents.mp hx).1) hmem, mem_dependents]
  have htried : b.attempts < b'.attempts ↔ b ∈ bs := by
    rw [hattempts, Nat.lt_add_right_iff_pos, List.count_pos_iff, h.mem_map_subscriber hown hmem]
  rw [htold.contains_eq] at hq
  rw [htold.readers q hq, mem_foldl_arrive, hreaders q hq, hsubscriber, harrives, htried,
    Binding.dependsOn_of_wiring hsame, and_iff_right hidle, and_comm]

/-- A write while the collector is not busy: whoever reads the property is told. -/
theorem told_readers (depth : Nat) (h : Wired w set state collector) {p : Path} {v : Value}
    (hv : v.WellFormed) (hp : (w.state state).contains p = true) :
    ∃ w' bs, write (telling depth) ⟨state, p⟩ v w = (.returned .done, w') ∧
      bs.map Binding.subscriber = (w.state state).readers everyone p ∧
      (∀ b ∈ bs, ∃ i, w.binding? set i = some b) ∧
      Told (w.written ⟨state, p⟩ v) w' set state collector bs := by
  obtain ⟨bs, hreaders, hbs⟩ := h.connected.exists_readers p
  have hplaces : ∀ b ∈ bs, ∃ i b₀, (w.written ⟨state, p⟩ v).binding? set i = some b₀ ∧
      b₀.wiring = b.wiring :=
    fun b hb => (hbs b hb).imp fun i hi => ⟨b, hi, rfl⟩
  obtain ⟨w', htells, htold⟩ := told_tellEach depth (wired_written h hv hp) hplaces
  refine ⟨w', bs, ?_, hreaders, hbs, htold⟩
  rw [write_of_contains (telling depth) (h := ⟨state, p⟩) v hp, h.readers_isLive, ← hreaders]
  exact Run.bind_returned htells

/-- A write while the collector is busy: whoever reads the property is refused. -/
theorem refused_readers (depth : Nat) (h : Connected w set state collector) {p : Path} (v : Value)
    (hp : (w.state state).contains p = true) {active : SubscriberId}
    (hbusy : (w.collector collector).active = some active) :
    Refused (w.written ⟨state, p⟩ v) (write (telling depth) ⟨state, p⟩ v w).2 set := by
  have hlive : (w.state state).readers w.isLive p = (w.state state).readers everyone p :=
    h.readers_isLive p
  have hplaces : ∀ s ∈ (w.state state).readers everyone p, ∃ i b,
      (w.written ⟨state, p⟩ v).binding? set i = some b ∧ b.collector = collector ∧
        (w.written ⟨state, p⟩ v).subscribers[s]?.map Subscriber.callback =
          some (.binding set i) := by
    intro s hs
    obtain ⟨b, hb, rfl⟩ := h.readers_own p s hs
    obtain ⟨i, hi⟩ := mem_bindings_iff.mp hb
    exact ⟨i, b, hi, (h.own i b hi).2⟩
  obtain ⟨w', htells, hrefused⟩ :=
    refused_tellEach (w := w.written ⟨state, p⟩ v) depth hbusy h.alive hplaces
  rw [write_of_contains (telling depth) (h := ⟨state, p⟩) v hp, hlive, Run.snd_bind_pure, htells]
  exact hrefused

theorem acted_write (depth : Nat) (h : Connected w set state collector) (p : Path) {v : Value}
    (hv : v.WellFormed) :
    Acted w (write (telling depth) ⟨state, p⟩ v w).2 set state collector := by
  cases hp : (w.state state).contains p with
  | false =>
    rw [write_of_not_contains (telling depth) (h := ⟨state, p⟩) v hp]
    exact .of_readers h rfl (fun _ _ => rfl) fun _ => rfl
  | true =>
    -- The write itself makes nobody a reader, but takes away what is there no longer.
    have hreaders : ∀ q, ((w.written ⟨state, p⟩ v).state state).contains q = true →
        ((w.written ⟨state, p⟩ v).state state).readers everyone q =
          (w.state state).readers everyone q :=
      fun q hq => (h.readers_written hp q).trans (if_pos hq)
    cases hactive : (w.collector collector).active with
    | none =>
      have hwired := h.wired hactive
      obtain ⟨w', bs, hwrite, -, hbs, htold⟩ := told_readers depth hwired hv hp
      rw [hwrite]
      exact Told.acted (wired_written hwired hv hp) htold hbs hactive rfl hreaders
    | some active =>
      have hrefused := refused_readers depth h v hp hactive
      refine .of_readers (hrefused.connected (h.written hv hp)) hrefused.wiring (fun q hq => ?_)
        fun hidle => absurd (hactive.symm.trans hidle) (by simp)
      rw [state_congr hrefused.states] at hq ⊢
      exact hreaders q hq

theorem acted_refresh (h : Connected w set state collector) {i : Nat} {b : Binding}
    (hb : w.binding? set i = some b) :
    Acted w (w.renderBinding set i).2 set state collector := by
  cases hactive : (w.collector collector).active with
  | none =>
    have hwired := h.wired hactive
    refine Told.acted hwired (told_renderBinding hwired hb) (fun b' hb' => ⟨i, ?_⟩) hactive rfl
      fun _ _ => rfl
    rw [List.mem_singleton.mp hb', hb]
  | some active =>
    have hbusy : (w.collector b.collector).active = some active :=
      (h.own i b hb).2.1.symm ▸ hactive
    have hrefused := refused_renderBinding hb hbusy
    refine .of_readers (hrefused.connected h) hrefused.wiring (fun q _ => ?_)
      fun hidle => absurd (hactive.symm.trans hidle) (by simp)
    rw [state_congr hrefused.states]

end LiveText.Session
