import Mathlib
import LiveText.Proofs.Session.Keeping
import LiveText.Proofs.Session.Refusals

/-!
# Activities around a component

The state of a component is written to and its bindings are refreshed, at times while its own
collector is collecting. A write made then is lost on the bindings that it should have registered
with a new property: they miss the writes to this property that follow, even when the collector is
not busy any more, until they are rendered the next time. From then on they know the property, for
as long as it is there.

## Main definitions

- `Activity`: operations on a component, and the beginnings and ends of collections.
- `Performs`: a step that does an operation.
- `Knows`: a binding has been rendered at some time since which a property has been there.
- `FollowsSteps`: the course of activities is the course of the steps that do them.

## Main statements

- `acted_act`: what one activity does to the readers of properties.
- `take_of_performs`, `snd_take_collect`: steps are activities.
- `mem_readers_iff_knows`: after any activities, the readers of a property are those that know it.
- `idle_writes_render_those_who_know`: whom a write has rendered when the collector is not busy.
- `untried_after_refusal`: a text that misses a write to the property that it shows.
-/

namespace LiveText.Session

variable {w w' : Session} {set : BindingSetId} {state : StateId} {collector : CollectorId}

/-! ## Activities -/

/-- What is done with a component: operations, and collections around them by its collector. -/
inductive Activity where
  | operation (op : Operation)
  | begin (s : SubscriberId)
  | finish

/-- No written value holds a key twice. -/
def Activity.WellFormed : Activity → Prop
  | .operation op => op.WellFormed
  | .begin _ | .finish => True

/-- The session after an activity. A collector that is busy does not begin another collection. -/
def act (telling : Telling) (c : Component) (w : Session) : Activity → Session
  | .operation op => operate telling c w op
  | .begin s =>
    match (w.collector c.collector).start s with
    | .ok busy => w.setCollector c.collector busy
    | .error _ => w.emit .collectionRefused
  | .finish => w.setCollector c.collector (w.collector c.collector).finish

/-- One activity. -/
theorem acted_act (depth : Nat) {c : Component} (h : Connected w c.bindings c.state c.collector)
    {a : Activity} (ha : a.WellFormed) :
    Acted w (act (telling depth) c w a) c.bindings c.state c.collector := by
  cases a with
  | operation op =>
    cases op with
    | write p v => exact acted_write depth h p ha
    | refresh i =>
      rw [act, operate, refresh]
      cases hb : w.binding? c.bindings i with
      | none => exact .of_readers h rfl (fun _ _ => rfl) fun _ => rfl
      | some b => exact acted_refresh h hb
  | begin s =>
    rw [act]
    split
    · exact .of_readers (h.setCollector _) rfl (fun _ _ => rfl) fun _ => rfl
    · exact .of_readers { h with } rfl (fun _ _ => rfl) fun _ => rfl
  | finish => exact .of_readers (h.setCollector _) rfl (fun _ _ => rfl) fun _ => rfl

/-! ## Steps -/

/-- The step does the operation: it writes to the state of the component, whatever it calls its
target, or refreshes a binding of the component. -/
inductive Performs (c : Component) (w : Session) : Step → Operation → Prop where
  | write {target : WriteTarget} {p : Path} {v : Value} {holdings : List Holding}
      (htarget : w.requireTarget target = .ok (.ok ⟨c.state, p⟩, holdings)) :
      Performs c w (.write target v) (.write p v)
  | refresh {app document : String} {d : DocumentId} {index : Nat}
      (hfound : w.requireBindings app document = .ok (c.bindings, d)) :
      Performs c w (.edit (.refresh app document index)) (.refresh index)

theorem requireTarget_congr (hnames : w'.names = w.names) (target : WriteTarget) :
    w'.requireTarget target = w.requireTarget target := by
  cases target <;> simp only [requireTarget, hnames]

theorem requireBindings_congr (hnames : w'.names = w.names) (app document : String) :
    w'.requireBindings app document = w.requireBindings app document := by
  simp only [requireBindings, hnames]

/-- What a step does is a matter of names. -/
theorem Performs.congr {c : Component} {step : Step} {op : Operation} (h : Performs c w step op)
    (hnames : w'.names = w.names) : Performs c w' step op := by
  cases h with
  | write htarget => exact .write ((requireTarget_congr hnames _).trans htarget)
  | refresh hfound => exact .refresh ((requireBindings_congr hnames ..).trans hfound)

/-- The readers of a state that a set has to itself are its bindings. -/
theorem Connected.tellsBindings (h : Connected w set state collector) (p : Path) :
    w.TellsBindings ((w.state state).readers w.isLive p) := by
  have hlive : (w.state state).readers w.isLive p = (w.state state).readers everyone p :=
    h.readers_isLive p
  rw [hlive]
  intro s hs
  obtain ⟨b, hb, rfl⟩ := h.readers_own p s hs
  obtain ⟨i, hi⟩ := mem_bindings_iff.mp hb
  exact ⟨set, i, (h.own i b hi).2.2, h.alive⟩

/-- A step does its operation, also while things are kept that live anyway. -/
theorem take_of_performs (depth : Nat) {c : Component}
    (h : Connected w c.bindings c.state c.collector) {step : Step} {op : Operation}
    (hstep : Performs c w step op) :
    Steady w (operate (telling depth) c w op) ∧ ∀ holdings, w.Spare holdings → ∃ answer,
      take (telling depth) step (w.hold holdings) =
        (.returned answer, (operate (telling depth) c w op).hold holdings) := by
  cases hstep with
  | @write target p v kept htarget =>
    obtain ⟨answer, w', hsteady, hwrite⟩ :=
      write_hold depth (h := ⟨c.state, p⟩) v (h.tellsBindings p)
    have hoperate : operate (telling depth) c w (.write p v) = w' :=
      congrArg Prod.snd (hwrite [] (.nil w))
    rw [hoperate]
    refine ⟨hsteady, fun holdings hspare => ⟨answer, ?_⟩⟩
    have hkept : w.Spare kept :=
      ⟨fun set hset => isAlive_of_requireTarget htarget hset,
        fun s hs => absurd hs (subscriber_not_mem_of_requireTarget htarget)⟩
    have htarget' : (w.hold holdings).requireTarget target =
        .ok (.ok ⟨c.state, p⟩, kept) := (requireTarget_congr (w := w) rfl target).trans htarget
    have hrun := hwrite (kept ++ holdings) (hkept.append hspare)
    simp only [take, htarget']
    rw [Run.holding, hold_hold, hrun]
    exact congrArg (Prod.mk _) (hsteady.holdAs_eq ..)
  | @refresh app document d i hfound =>
    have hfound' : ∀ holdings, (w.hold holdings).requireBindings app document =
        .ok (c.bindings, d) := fun _ => (requireBindings_congr (w := w) rfl ..).trans hfound
    have hplace : ∀ holdings, (w.hold holdings).binding? c.bindings i = w.binding? c.bindings i :=
      fun _ => rfl
    have hperform : ∀ holdings, (w.hold holdings).perform (.refresh app document i) =
        (w.hold holdings).refresh c.bindings i := by
      intro holdings
      rw [perform, hfound']
      rfl
    simp only [take, hperform, operate, refresh, hplace]
    cases w.binding? c.bindings i with
    | none => exact ⟨.refl w, fun holdings _ => ⟨_, rfl⟩⟩
    | some b =>
      refine ⟨steady_renderBinding .., fun holdings hspare =>
        ⟨.ofExcept (fun _ => .done) (w.renderBinding c.bindings i).1, ?_⟩⟩
      rw [renderBinding_hold hspare.isLive_hold]

/-- Steps do their operations one after the other. -/
theorem takeAll_of_performs (depth : Nat) {c : Component} {body : List Step} {ops : List Operation}
    (h : Connected w c.bindings c.state c.collector) (hops : ∀ op ∈ ops, op.WellFormed)
    (hbody : List.Forall₂ (Performs c w) body ops) :
    Steady w (ops.foldl (operate (telling depth) c) w) ∧ ∀ holdings, w.Spare holdings →
      ∃ answers, takeAll (telling depth) body (w.hold holdings) =
        (.returned answers, (ops.foldl (operate (telling depth) c) w).hold holdings) := by
  -- On the operations; the names by which the next steps find their ways stay.
  induction ops generalizing w body with
  | nil =>
    cases hbody
    exact ⟨.refl w, fun _ _ => ⟨[], rfl⟩⟩
  | cons op rest ih =>
    cases hbody with
    | @cons step _ steps _ hstep hsteps =>
      obtain ⟨hsteady, htake⟩ := take_of_performs depth h hstep
      have hnext : Connected (operate (telling depth) c w op) c.bindings c.state c.collector :=
        (acted_act depth h (a := .operation op) (hops op List.mem_cons_self)).connected
      obtain ⟨hsteady', htakes⟩ := ih hnext
        (fun op' hop' => hops op' (List.mem_cons_of_mem op hop'))
        (hsteps.imp fun _ _ hp => hp.congr hsteady.names)
      refine ⟨hsteady.trans hsteady', fun holdings hspare => ?_⟩
      obtain ⟨answer, hfirst⟩ := htake holdings hspare
      obtain ⟨answers, hrest⟩ := htakes holdings (hsteady.spare hspare)
      refine ⟨answer :: answers, ?_⟩
      rw [takeAll]
      exact (Run.bind_returned hfirst).trans (Run.bind_returned hrest)

/-- A collection by the component's own collector begins, has its operations done, and comes to an
end. -/
theorem snd_take_collect (depth : Nat) {c : Component}
    (h : Connected w c.bindings c.state c.collector)
    (hidle : (w.collector c.collector).active = none) {collector subscriber : String}
    {s : SubscriberId} (hfound : w.requireCollection collector subscriber = .ok (s, c.collector))
    {body : List Step} {ops : List Operation} (hops : ∀ op ∈ ops, op.WellFormed)
    (hbody : List.Forall₂ (Performs c w) body ops) :
    (take (telling depth) (.collect collector subscriber body) w).2 =
      (Activity.begin s :: (ops.map Activity.operation ++ [Activity.finish])).foldl
        (act (telling depth) c) w := by
  let busy : Collector := ⟨some s⟩
  let kept := Holding.subscriber s :: w.collectorHolding collector
  have hstart : (w.collector c.collector).start s = .ok busy := by rw [Collector.start, hidle]
  have hbegin : act (telling depth) c w (.begin s) = w.setCollector c.collector busy := by
    rw [act, hstart]
  have hsteady : Steady w (w.setCollector c.collector busy) := ⟨rfl, rfl, rfl⟩
  have hkept : w.Spare kept := by
    refine ⟨fun set hset => isAlive_of_mem_collecting hset, fun t ht => ?_⟩
    obtain ⟨s', hs', hrest⟩ := bind_eq_ok hfound
    obtain ⟨c', -, hpair⟩ := bind_eq_ok hrest
    cases hpair
    rcases List.mem_cons.mp ht with heq | ht
    · cases heq
      exact isLive_of_require hs'
    · exact absurd ht subscriber_not_mem_collectorHolding
  -- The steps are taken while the subscriber and the component are kept, which live anyway.
  obtain ⟨hsteady', hrun⟩ := takeAll_of_performs depth (h.setCollector busy) hops
    (hbody.imp fun _ _ hp => hp.congr hsteady.names)
  obtain ⟨answers, htakes⟩ := hrun kept (hsteady.spare hkept)
  have hheld := (hsteady.trans hsteady').held
  simp only [take, hfound, hstart]
  rw [Run.snd_holding, Run.snd_collecting, Run.snd_bind_pure]
  rw [show (w.hold kept).setCollector c.collector busy =
    (w.setCollector c.collector busy).hold kept from rfl, htakes]
  rw [List.foldl_cons, List.foldl_append, List.foldl_map, hbegin]
  exact congrArg (fun held => { (ops.foldl (operate (telling depth) c)
    (w.setCollector c.collector busy)).setCollector c.collector _ with held }) hheld.symm

/-! ## Who knows a property -/

section Knows

variable {c : Component} {now : Nat → Session} {i : Nat} {p : Path}

/-- The binding at a place has been rendered at a time, and not refused: it is rendered when it is
made, and later whenever a rendering is tried while the collector is not busy. -/
def RenderedAt (c : Component) (now : Nat → Session) (i : Nat) : Nat → Prop
  | 0 => True
  | n + 1 => ((now n).collector c.collector).active = none ∧
    ∃ b b', (now n).binding? c.bindings i = some b ∧
      (now (n + 1)).binding? c.bindings i = some b' ∧ b.attempts < b'.attempts

/-- The binding at a place has been rendered at some time since which the property has been
there. -/
def Knows (c : Component) (now : Nat → Session) (i : Nat) (p : Path) (n : Nat) : Prop :=
  ∃ j, j ≤ n ∧ RenderedAt c now i j ∧
    ∀ k, j ≤ k → k ≤ n → ((now k).state c.state).contains p = true

theorem knows_zero : Knows c now i p 0 ↔ ((now 0).state c.state).contains p = true := by
  constructor
  · rintro ⟨j, hj, -, hlasts⟩
    exact hlasts 0 hj le_rfl
  · intro hp
    refine ⟨0, le_rfl, trivial, fun k _ hk => ?_⟩
    rwa [Nat.le_zero.mp hk]

/-- A property that is there stays known, or gets known by a rendering. -/
theorem knows_succ {n : Nat} : Knows c now i p (n + 1) ↔
    ((now (n + 1)).state c.state).contains p = true ∧
      (Knows c now i p n ∨ RenderedAt c now i (n + 1)) := by
  constructor
  · rintro ⟨j, hj, hrendered, hlasts⟩
    refine ⟨hlasts (n + 1) hj le_rfl, ?_⟩
    rcases Nat.lt_or_eq_of_le hj with hlt | rfl
    · exact .inl ⟨j, Nat.le_of_lt_succ hlt, hrendered, fun k hjk hk =>
        hlasts k hjk (Nat.le_succ_of_le hk)⟩
    · exact .inr hrendered
  · rintro ⟨hp, ⟨j, hj, hrendered, hlasts⟩ | hrendered⟩
    · refine ⟨j, Nat.le_succ_of_le hj, hrendered, fun k hjk hk => ?_⟩
      rcases Nat.lt_or_eq_of_le hk with hlt | rfl
      · exact hlasts k hjk (Nat.le_of_lt_succ hlt)
      · exact hp
    · refine ⟨n + 1, le_rfl, hrendered, fun k hjk hk => ?_⟩
      rwa [Nat.le_antisymm hk hjk]

/-- The readers of a property are the bindings that depend on it and know it, whatever has been done
since the component was made. -/
theorem mem_readers_iff_knows (now : Nat → Session) {n : Nat}
    (hwired : Wired (now 0) c.bindings c.state c.collector)
    (hexact : Exact (now 0) c.bindings c.state)
    (hacted : ∀ k, k < n → Acted (now k) (now (k + 1)) c.bindings c.state c.collector) :
    Connected (now n) c.bindings c.state c.collector ∧
      ∀ i b, (now n).binding? c.bindings i = some b → ∀ p,
        ((now n).state c.state).contains p = true →
        (b.subscriber ∈ ((now n).state c.state).readers everyone p ↔
          b.DependsOn p ∧ Knows c now i p n) := by
  -- On the time. At first the readers are the dependents, which have just been rendered.
  induction n with
  | zero =>
    refine ⟨hwired.connected, fun i b hb p hp => ?_⟩
    have hmem : b ∈ (now 0).bindings c.bindings := mem_bindings_iff.mpr ⟨i, hb⟩
    rw [hexact p hp, knows_zero, and_iff_left hp,
      hwired.mem_map_subscriber (fun x hx => (mem_dependents.mp hx).1) hmem, mem_dependents,
      and_iff_right hmem]
  | succ n ih =>
    obtain ⟨-, hknown⟩ := ih fun k hk => hacted k (Nat.lt_succ_of_lt hk)
    have hlast := hacted n (Nat.lt_succ_self n)
    refine ⟨hlast.connected, fun i b' hb' p hp => ?_⟩
    obtain ⟨b, hb, hsame⟩ := exists_binding?_of_wiring hlast.wiring hb'
    obtain ⟨-, -, -, -, -, hsubscriber⟩ := Binding.wiring_eq_iff.mp hsame
    have hrendered : RenderedAt c now i (n + 1) ↔
        ((now n).collector c.collector).active = none ∧ b.attempts < b'.attempts := by
      rw [RenderedAt]
      refine and_congr_right fun _ => ⟨?_, fun hlt => ⟨b, b', hb, hb', hlt⟩⟩
      rintro ⟨b₁, b₁', hb₁, hb₁', hlt⟩
      cases hb.symm.trans hb₁
      cases hb'.symm.trans hb₁'
      exact hlt
    rw [hlast.readers i b b' hb hb' p hp, knows_succ, hrendered, and_iff_right hp,
      Binding.dependsOn_of_wiring hsame]
    -- Whoever has read the property before knows it, and has gone on to do so.
    by_cases hbefore : ((now n).state c.state).contains p = true
    · rw [hsubscriber, hknown i b hb p hbefore, and_or_left]
    · have hnobody : ((now n).state c.state).readers everyone p = [] :=
        State.readers_of_not_contains everyone (by simpa using hbefore)
      have hunknown : ¬ Knows c now i p n := by
        rintro ⟨j, hj, -, hlasts⟩
        exact hbefore (hlasts n hj le_rfl)
      simp [hnobody, hunknown]

end Knows

/-! ## Components -/

/-- The sessions in the course of activities with a component, by how many of these are over. -/
def course (telling : Telling) (c : Component) (w : Session) (activities : List Activity)
    (n : Nat) : Session :=
  (activities.take n).foldl (act telling c) w

theorem course_succ (tell : Telling) (c : Component) (w : Session) {activities : List Activity}
    {n : Nat} (hn : n < activities.length) :
    course tell c w activities (n + 1) =
      act tell c (course tell c w activities n) activities[n] := by
  rw [course, List.take_succ_eq_append_getElem hn, List.foldl_concat, course]

theorem course_add (tell : Telling) (c : Component) (w : Session) (activities : List Activity)
    (k m : Nat) :
    course tell c w activities (k + m) =
      ((activities.drop k).take m).foldl (act tell c) (course tell c w activities k) := by
  rw [course, List.take_add, List.foldl_append, course]

/-- Each activity leaves the set connected for the next one. -/
theorem connected_course (depth : Nat) {c : Component}
    (h : Connected w c.bindings c.state c.collector) {activities : List Activity}
    (hactivities : ∀ a ∈ activities, a.WellFormed) {n : Nat} (hn : n ≤ activities.length) :
    Connected (course (telling depth) c w activities n) c.bindings c.state c.collector := by
  induction n with
  | zero => exact h
  | succ n ih =>
    rw [course_succ (telling depth) c w hn]
    exact (acted_act depth (ih (Nat.le_of_succ_le hn))
      (hactivities _ (List.getElem_mem hn))).connected

theorem acted_course (depth : Nat) {c : Component}
    (h : Connected w c.bindings c.state c.collector) {activities : List Activity}
    (hactivities : ∀ a ∈ activities, a.WellFormed) {n : Nat} (hn : n < activities.length) :
    Acted (course (telling depth) c w activities n)
      (course (telling depth) c w activities (n + 1)) c.bindings c.state c.collector := by
  rw [course_succ (telling depth) c w hn]
  exact acted_act depth (connected_course depth h hactivities hn.le)
    (hactivities _ (List.getElem_mem hn))

/-- The course of the activities is that of steps that do them, taken in the sessions that there are
at these times: a step does an operation, and a collection by the collector of the component does
the operations of the steps inside. If the collector is busy, the collection is refused. -/
structure FollowsSteps (tell : Telling) (c : Component) (now : Nat → Session)
    (activities : List Activity) : Prop where
  operation : ∀ k op step, activities[k]? = some (.operation op) → Performs c (now k) step op →
    (take tell step (now k)).2 = now (k + 1)
  collection : ∀ k s ops rest,
    activities.drop k = .begin s :: (ops.map .operation ++ .finish :: rest) →
    ((now k).collector c.collector).active = none → ∀ collector subscriber body,
    (now k).requireCollection collector subscriber = .ok (s, c.collector) →
    List.Forall₂ (Performs c (now k)) body ops →
    (take tell (.collect collector subscriber body) (now k)).2 = now (k + (ops.length + 2))
  refusal : ∀ k s active, activities[k]? = some (.begin s) →
    ((now k).collector c.collector).active = some active → ∀ collector subscriber body,
    (now k).requireCollection collector subscriber = .ok (s, c.collector) →
    (take tell (.collect collector subscriber body) (now k)).2 = now (k + 1)

theorem followsSteps_course (depth : Nat) {c : Component}
    (h : Connected w c.bindings c.state c.collector) {activities : List Activity}
    (hactivities : ∀ a ∈ activities, a.WellFormed) :
    FollowsSteps (telling depth) c (course (telling depth) c w activities) activities := by
  refine ⟨fun k op step hk hstep => ?operation,
    fun k s ops rest hdrop hidle collector subscriber body hfound hbody => ?collection,
    fun k s active hk hactive collector subscriber body hfound => ?refusal⟩
  case operation =>
    obtain ⟨hlt, hop⟩ := List.getElem?_eq_some_iff.mp hk
    have hconnected := connected_course depth h hactivities hlt.le
    obtain ⟨-, htakes⟩ := take_of_performs depth hconnected hstep
    obtain ⟨answer, htake⟩ := htakes [] (.nil _)
    rw [course_succ (telling depth) c w hlt, hop]
    exact congrArg Prod.snd htake
  case collection =>
    have hle : k ≤ activities.length := by
      by_contra hout
      rw [List.drop_eq_nil_of_le (Nat.le_of_not_le hout)] at hdrop
      cases hdrop
    have hops : ∀ op ∈ ops, op.WellFormed := by
      intro op hop
      refine hactivities (.operation op) (List.mem_of_mem_drop (i := k) ?_)
      rw [hdrop]
      exact List.mem_cons_of_mem _ (List.mem_append_left _ (List.mem_map_of_mem hop))
    have htaken : (activities.drop k).take (ops.length + 2) =
        .begin s :: (ops.map .operation ++ [.finish]) := by
      simp [hdrop, List.take_append]
    rw [course_add, htaken]
    exact snd_take_collect depth (connected_course depth h hactivities hle) hidle hfound hops hbody
  case refusal =>
    obtain ⟨hlt, hbegin⟩ := List.getElem?_eq_some_iff.mp hk
    rw [course_succ (telling depth) c w hlt, hbegin]
    simp only [take, hfound, act, Collector.start, hactive]

/-- Whoever reads a property is told once when it is written to, and nobody else is told. -/
theorem Told.attempts_readers {u : Session} {bs : List Binding} {p : Path}
    (horderly : (w.state state).Orderly) (htold : Told u w' set state collector bs)
    (hreaders : bs.map Binding.subscriber = (w.state state).readers everyone p)
    (hbindings : u.bindings set = w.bindings set) {i : Nat} {b : Binding}
    (hb : w.binding? set i = some b) :
    ∃ b', w'.binding? set i = some b' ∧ b'.wiring = b.wiring ∧
      b'.attempts = b.attempts +
        if b.subscriber ∈ (w.state state).readers everyone p then 1 else 0 := by
  have hb₁ : u.binding? set i = some b := (congrArg (·[i]?) hbindings).trans hb
  obtain ⟨b', hb', -⟩ := exists_binding?_of_wiring htold.wiring_eq.symm hb₁
  obtain ⟨hsame, hattempts⟩ := htold.attempts_eq hb₁ hb'
  refine ⟨b', hb', hsame, ?_⟩
  rw [hattempts, hreaders]
  have hnodup : ((w.state state).readers everyone p).Nodup := (horderly p).filter _
  rw [List.Nodup.count hnodup]

/-- Writes that bindings are refused for are lost on them, as far as new properties are concerned.
Whatever has been written, refreshed and collected since a component was made: when the collector is
not busy, a write to a property has exactly those tried, once each, that depend on it and know it.
They have been rendered at some time since which the property has been there. All others miss the
write, even if their templates have a path at the property or below it. -/
theorem idle_writes_render_those_who_know (depth : Nat) {document : DocumentId} {options : Options}
    {c : Component} (hdata : options.data.WellFormed)
    (hmount : w.mount document options = (.ok c, w')) (name : String)
    {activities : List Activity} (hactivities : ∀ a ∈ activities, a.WellFormed) :
    let now := course (telling depth) c (w.mountAs name document options).2 activities
    let n := activities.length
    FollowsSteps (telling depth) c now activities ∧
    (((now n).collector c.collector).active = none →
      ∀ p v, v.WellFormed → ((now n).state c.state).contains p = true → ∃ next,
        write (telling depth) ⟨c.state, p⟩ v (now n) = (.returned .done, next) ∧
        ∀ i b, (now n).binding? c.bindings i = some b → ∃ b',
          next.binding? c.bindings i = some b' ∧ b'.wiring = b.wiring ∧
          (b.DependsOn p ∧ Knows c now i p n → b'.attempts = b.attempts + 1) ∧
          (¬ (b.DependsOn p ∧ Knows c now i p n) → b'.attempts = b.attempts)) := by
  intro now n
  obtain ⟨hwired, hexact, -⟩ := exact_mountAs hdata hmount name
  obtain ⟨hlast, hknown⟩ := mem_readers_iff_knows now hwired hexact fun _ hk =>
    acted_course depth hwired.connected hactivities hk
  refine ⟨followsSteps_course depth hwired.connected hactivities, fun hidle p v hv hp => ?_⟩
  have hfree : Wired (now n) c.bindings c.state c.collector := hlast.wired hidle
  obtain ⟨next, bs, hwrite, hreaders, -, htold⟩ := told_readers depth hfree hv hp
  refine ⟨next, hwrite, fun i b hb => ?_⟩
  obtain ⟨b', hb', hsame, hattempts⟩ := htold.attempts_readers hfree.orderly hreaders rfl hb
  refine ⟨b', hb', hsame, fun hknows => ?_, fun hunknown => ?_⟩
  · rw [hattempts, if_pos ((hknown i b hb p hp).mpr hknows)]
  · rw [hattempts, if_neg fun hmem => hunknown ((hknown i b hb p hp).mp hmem), Nat.add_zero]

/-- The data of a component grows during a collection, and then a text is rendered. -/
def growth : List Activity :=
  [.begin 0, .operation (.write ⟨["a"]⟩ (.object [("b", .null)])), .finish, .operation (.refresh 0)]

theorem wellFormed_growth : ∀ a ∈ growth, a.WellFormed := by
  have hgrown : (Value.object [("b", .null)]).WellFormed :=
    .object _ (List.nodup_singleton _) (by simpa using .null)
  intro a ha
  simp only [growth, List.mem_cons, List.not_mem_nil, or_false] at ha
  rcases ha with rfl | rfl | rfl | rfl
  · trivial
  · exact hgrown
  · trivial
  · trivial

/-- The first of these activities are a collection. -/
def growing : Step :=
  .collect "app" "reader" [.write (.state "app" ⟨["a"]⟩) (.object [("b", .null)])]

/-- A text is refused when the data that it lacks is written, and knows it from the next time that
it is rendered. -/
theorem attempts_after_growth :
    let page : Document := ⟨#[{ data := .fragment, children := [1] },
      { data := .element "p" [], parent := some 0, children := [2] },
      { data := .text "\x7b\x7ba.b\x7d\x7d", parent := some 1 }]⟩
    let w : Session :=
      { documents := #[{ document := page }]
        subscribers := #[⟨some "reader", .program [] 0 0⟩]
        names := { subscribers := [("reader", 0)] } }
    let options : Options := ⟨"p", .object [("a", .null)]⟩
    ∃ c w', w.mount 0 options = (.ok c, w') ∧
      let now := course (telling 0) c (w.mountAs "app" 0 options).2 growth
      (take (telling 0) growing (now 0)).2 = now 3 ∧ ∃ next b b',
        write (telling 0) ⟨c.state, ⟨["a", "b"]⟩⟩ (.str "Ada") (now 4) = (.returned .done, next) ∧
        (now 4).binding? c.bindings 0 = some b ∧ b.DependsOn ⟨["a", "b"]⟩ ∧
        Knows c now 0 ⟨["a", "b"]⟩ 4 ∧
        next.binding? c.bindings 0 = some b' ∧ b'.attempts = b.attempts + 1 := by
  intro page w options
  have hall : (w.mount 0 options).1.toOption.any (fun c =>
      let now := course (telling 0) c (w.mountAs "app" 0 options).2 growth
      ((now 0).collector c.collector).active.isNone &&
        ((now 0).names.components.lookup "app").any (·.collector = c.collector) &&
        (now 0).names.states.lookup "app" = some c.state &&
        (now 0).names.subscribers.lookup "reader" = some 0 &&
        ((now 3).collector c.collector).active.isNone &&
        ((now 4).collector c.collector).active.isNone &&
        ((now 4).state c.state).contains ⟨["a", "b"]⟩ &&
        ((now 3).binding? c.bindings 0).any fun b₀ => ((now 4).binding? c.bindings 0).any fun b =>
          b₀.attempts < b.attempts && b.DependsOn ⟨["a", "b"]⟩) = true := by decide +kernel
  obtain ⟨c, hc, hnow⟩ := (Option.any_eq_true _ _).mp hall
  have hmount : w.mount 0 options = (.ok c, (w.mount 0 options).2) := by
    refine Prod.ext ?_ rfl
    cases hresult : (w.mount 0 options).1 with
    | error fault => rw [hresult] at hc; cases hc
    | ok c' => rw [hresult] at hc; exact congrArg Except.ok (Option.some.inj hc)
  have hdata : options.data.WellFormed :=
    .object _ (List.nodup_singleton _) (by simpa using .null)
  obtain ⟨hfollows, htold⟩ :=
    idle_writes_render_those_who_know 0 hdata hmount "app" wellFormed_growth
  refine ⟨c, _, hmount, ?_⟩
  dsimp only at hnow hfollows htold ⊢
  generalize course (telling 0) c (w.mountAs "app" 0 options).2 growth = now
    at hnow hfollows htold ⊢
  simp only [Bool.and_eq_true, Option.isNone_iff_eq_none, Option.any_eq_true,
    decide_eq_true_eq] at hnow
  obtain ⟨⟨⟨⟨⟨⟨⟨hidle₀, app, happ, hcollector⟩, hstate⟩, hreader⟩, hidle₃⟩, hidle₄⟩, hthere⟩,
    b₀, hb₀, b, hb, hlt, hdep⟩ := hnow
  have hfound : (now 0).requireCollection "app" "reader" = .ok (0, c.collector) := by
    rw [requireCollection, require_of_lookup .subscriber hreader, requireCollector, happ,
      ← hcollector]
    rfl
  have htarget : (now 0).requireTarget (.state "app" ⟨["a"]⟩) =
      .ok (.ok ⟨c.state, ⟨["a"]⟩⟩, []) := by
    rw [requireTarget, require_of_lookup .state hstate]
    rfl
  have hcollection : (take (telling 0) growing (now 0)).2 = now 3 :=
    hfollows.collection 0 0 [.write ⟨["a"]⟩ (.object [("b", .null)])] [.operation (.refresh 0)] rfl
      hidle₀ "app" "reader" _ hfound (.cons (.write htarget) .nil)
  have hknows : Knows c now 0 ⟨["a", "b"]⟩ 4 := by
    refine ⟨4, le_rfl, ⟨hidle₃, b₀, b, hb₀, hb, hlt⟩, fun k hk hk' => ?_⟩
    rwa [Nat.le_antisymm hk' hk]
  obtain ⟨next, hwrite, hbindings⟩ := htold hidle₄ ⟨["a", "b"]⟩ (.str "Ada") (.str _) hthere
  obtain ⟨b', hb', -, htried, -⟩ := hbindings 0 b hb
  exact ⟨hcollection, next, b, b', hwrite, hb, hdep, hknows, hb', htried ⟨hdep, hknows⟩⟩

/-- What a text lacks is written while the collector of its component is busy. -/
def refusal : List Step :=
  [.edit (.newDocument "page" (some "<p>\x7b\x7ba.b\x7d\x7d</p>")),
    .edit (.mount "app" "page" (.given "p" (.object [("a", .null)]))),
    .newSubscriber "s" [] 0,
    .collect "app" "s" [.write (.state "app" ⟨["a"]⟩) (.object [("b", .int 1)])],
    .write (.state "app" ⟨["a", "b"]⟩) (.int 3)]

/-- The session after the first steps. -/
def afterRefusal (n : Nat) : Session :=
  (refusal.take n).foldl (fun w s => (w.step s).2) {}

/-- A text misses a write to the property that it shows: it is not tried and goes on to show its
template, although the collector is not busy any more and the write is done. It has been refused
when the property was made. -/
theorem untried_after_refusal :
    ((afterRefusal 4).collector 0).active = none ∧ (afterRefusal 4).isAlive 0 = true ∧
      ((afterRefusal 4).state 0).contains ⟨["a", "b"]⟩ = true ∧
      (step (afterRefusal 4) (.write (.state "app" ⟨["a", "b"]⟩) (.int 3))).1 = .done ∧
      ((afterRefusal 5).document 0).text 2 = "\x7b\x7ba.b\x7d\x7d" ∧
      ∃ b, (afterRefusal 4).binding? 0 0 = some b ∧ b.state = 0 ∧ b.collector = 0 ∧
        b.DependsOn ⟨["a", "b"]⟩ ∧ (afterRefusal 5).binding? 0 0 = some b := by
  have hdone : (match (step (afterRefusal 4)
      (.write (.state "app" ⟨["a", "b"]⟩) (.int 3))).1 with
      | .done => true
      | _ => false) = true := by decide +kernel
  have hthere : ((afterRefusal 4).binding? 0 0).any (fun b =>
      b.state = 0 ∧ b.collector = 0 ∧ b.DependsOn ⟨["a", "b"]⟩) = true := by decide +kernel
  have hsame : (afterRefusal 5).binding? 0 0 = (afterRefusal 4).binding? 0 0 := by decide +kernel
  obtain ⟨b, hb, hparts⟩ := (Option.any_eq_true _ _).mp hthere
  obtain ⟨hstate, hcollector, hdep⟩ := of_decide_eq_true hparts
  refine ⟨by decide +kernel, by decide +kernel, by decide +kernel, ?_, by decide +kernel, b, hb,
    hstate, hcollector, hdep, hsame.trans hb⟩
  split at hdone
  · assumption
  · cases hdone

end LiveText.Session
