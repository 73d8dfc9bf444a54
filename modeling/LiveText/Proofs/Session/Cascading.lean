import Mathlib
import LiveText.Proofs.Session.Survival

/-!
# What cascades respect

Subscribers that are told of a change may take steps, which tell further subscribers, and so on.
What holds of a session may depend on who waits to be told: those who are about to be told wait from
the change on, and each of them is settled when it has been told. Such a property holds throughout a
cascade, however deep, if each part of a run respects it.

The induction is on how deep programs are nested, then on the steps and on those that are told.

## Main definitions

- `Retains`: those who wait are kept alive.
- `CascadesRespect`: a property that the parts of runs respect.
- `Task.Ready`: what has to hold where a task begins.

## Main statements

- `CascadesRespect.tells`: telling a subscriber, down to any depth.
- `CascadesRespect.take`: taking a step.
- `CascadesRespect.during`, `CascadesRespect.duringScript`: every moment of a task and of a script.
-/

namespace LiveText.Session

/-- Who waits to be told is kept alive meanwhile. -/
def Retains (w : Session) (waiting : List SubscriberId) : Prop :=
  ∀ s ∈ waiting, Holding.subscriber s ∈ w.held

theorem Retains.of_held {w w' : Session} {waiting : List SubscriberId} (h : Retains w waiting)
    (hheld : w'.held = w.held) : Retains w' waiting :=
  fun s hs => hheld ▸ h s hs

theorem Retains.hold {w : Session} {waiting : List SubscriberId} (h : Retains w waiting)
    (holdings : List Holding) : Retains (w.hold holdings) waiting :=
  fun s hs => List.mem_append_right holdings (h s hs)

/-- A property of a session, given who waits to be told, that the parts of which runs are made
respect. They need do so only if the step to be taken is `harmless`, and as long as the moments of
the run are `fair`. -/
structure CascadesRespect (harmless : Step → Session → Prop) (fair : Moment → Prop)
    (P : Session → List SubscriberId → Prop) : Prop where
  harmless_of_fair : ∀ {s rest w waiting}, fair (.ahead (s :: rest) w waiting) → harmless s w
  edit : ∀ {w w' waiting e answer}, P w waiting → Retains w waiting → harmless (.edit e) w →
    w.perform e = .ok (answer, w') → P w' waiting
  addSubscriber : ∀ {w waiting} name program limit, P w waiting →
    P (w.addSubscriber name program limit) waiting
  emit : ∀ {w waiting} event, P w waiting → P (w.emit event) waiting
  record : ∀ {w waiting} entry, P w waiting → P (w.record entry) waiting
  countRun : ∀ {w waiting} s, P w waiting → P (w.countRun s) waiting
  /-- Whoever lives may be told of something. -/
  await : ∀ {w waiting ss}, P w waiting → (∀ s ∈ ss, w.isLive s = true) → P w (ss ++ waiting)
  /-- From a write on, the readers wait. -/
  written : ∀ {w w₀ waiting target h v}, P w waiting → Retains w waiting →
    harmless (.write target v) w₀ → (w.state h.state).contains h.path = true →
    P (w.written h v) ((w.state h.state).readers w.isLive h.path ++ waiting)
  /-- A subscriber that has no living binding need not be told. -/
  settle : ∀ {w waiting s}, P w (s :: waiting) →
    (∀ set index, w.Renders s set index → w.isAlive set = false) → P w waiting
  /-- A binding that is rendered has been told. -/
  render : ∀ {w waiting s set index}, P w (s :: waiting) → Retains w (s :: waiting) →
    w.Renders s set index → w.isAlive set = true → P (w.renderBinding set index).2 waiting
  /-- If a subscriber gives up, those behind it are not told. -/
  forsake : ∀ {depth s w w₁ w' waiting waiting' ss}, fair (.told depth s w waiting') →
    telling depth s w = (.abandoned, w₁) → P w' (ss ++ waiting) → P w' waiting
  /-- Sets are kept alive that live anyway, and subscribers that live or wait. -/
  hold : ∀ {w waiting holdings}, P w waiting →
    (∀ set, Holding.bindings set ∈ holdings → w.isAlive set = true) →
    (∀ s, Holding.subscriber s ∈ holdings → s ∈ waiting ∨ w.isLive s = true) →
    P (w.hold holdings) waiting
  letGo : ∀ {w w' waiting holdings}, P w' waiting → w'.held = (w.hold holdings).held →
    P (w'.holdAs w) waiting
  start : ∀ {w waiting c s busy}, P w waiting → w.isLive s = true →
    (w.collector c).start s = .ok busy → P (w.setCollector c busy) waiting
  finish : ∀ {w waiting} c, P w waiting →
    P (w.setCollector c (w.collector c).finish) waiting

namespace CascadesRespect

variable {harmless : Step → Session → Prop} {fair : Moment → Prop}
  {P : Session → List SubscriberId → Prop} {depth : Nat} {w w' : Session}
  {waiting : List SubscriberId}

/-! ## Telling subscribers -/

/-- Whoever is told at a depth no longer waits, and nobody else has begun to. -/
def Tells (fair : Moment → Prop) (P : Session → List SubscriberId → Prop) (depth : Nat) : Prop :=
  ∀ (s : SubscriberId) (w : Session) (waiting : List SubscriberId), P w (s :: waiting) →
    Retains w (s :: waiting) → (∀ m, During depth (.tell s) w waiting m → fair m) →
      P (telling depth s w).2 waiting

/-- Before one of several subscribers is told, all of them are kept alive. -/
theorem hold_tellEach (h : CascadesRespect harmless fair P) {s : SubscriberId}
    {rest : List SubscriberId} (hw : P w (s :: rest ++ waiting)) (hretains : Retains w waiting) :
    P (w.hold ((s :: rest).map .subscriber)) (s :: (rest ++ waiting)) ∧
      Retains (w.hold ((s :: rest).map .subscriber)) (s :: (rest ++ waiting)) := by
  constructor
  · apply h.hold hw
    · intro set hset
      simp at hset
    · intro t ht
      obtain ⟨t', ht', heq⟩ := List.mem_map.mp ht
      cases heq
      exact .inl (List.mem_append_left _ ht')
  · intro t ht
    rcases List.mem_append.mp (show t ∈ (s :: rest) ++ waiting from ht) with ht | ht
    · exact List.mem_append_left _ (List.mem_map_of_mem ht)
    · exact List.mem_append_right _ (hretains t ht)

/-- All of some subscribers are told, one after the other, or up to one that gives up. -/
theorem tellEach (h : CascadesRespect harmless fair P) (htells : Tells fair P depth)
    {ss : List SubscriberId} (hw : P w (ss ++ waiting)) (hretains : Retains w waiting)
    (hfair : ∀ m, During depth (.tellEach ss) w waiting m → fair m) :
    P (tellEach (telling depth) ss w).2 waiting := by
  -- On those that are told: the first one waits in front of the others and then is settled.
  induction ss generalizing w with
  | nil => exact hw
  | cons s rest ih =>
    obtain ⟨hbegun, hretains'⟩ := h.hold_tellEach hw hretains
    have htold := htells s _ _ hbegun hretains' fun m hm => hfair m (.tellEachHead hm)
    have hheld := (runsRespect_onward.telling depth s (w.hold ((s :: rest).map .subscriber))).2
    rw [Session.tellEach]
    cases hrun : telling depth s (w.hold ((s :: rest).map .subscriber)) with
    | mk outcome w₁ =>
      rw [hrun] at htold hheld
      have hfreed : P (w₁.holdAs w) (rest ++ waiting) := h.letGo htold hheld
      have hhead : (telling depth s).holding ((s :: rest).map .subscriber) w =
          (outcome, w₁.holdAs w) := by
        rw [Run.holding, hrun]
      cases outcome with
      | returned =>
        rw [Run.bind_returned hhead]
        exact ih hfreed (hretains.of_held rfl) fun m hm => hfair m (.tellEachTail hrun hm)
      | abandoned =>
        rw [Run.bind_abandoned hhead]
        exact h.forsake (hfair _ (.tellEachHead .tell)) hrun hfreed

/-! ## Taking steps, at one depth -/

/-- A write changes a property and tells its readers. -/
theorem write (h : CascadesRespect harmless fair P) (htells : Tells fair P depth)
    {p : PropertyHandle} {target : WriteTarget} {v : Value} {w₀ : Session} (hw : P w waiting)
    (hretains : Retains w waiting) (hharmless : harmless (.write target v) w₀)
    (hfair : (w.state p.state).contains p.path = true →
      ∀ m, During depth (.tellEach ((w.state p.state).readers w.isLive p.path)) (w.written p v)
        waiting m → fair m) :
    P (write (telling depth) p v w).2 waiting := by
  cases hthere : (w.state p.state).contains p.path with
  | false =>
    rw [write_of_not_contains (telling depth) v hthere]
    exact hw
  | true =>
    rw [write_of_contains (telling depth) v hthere, Run.snd_bind_pure]
    exact h.tellEach htells (h.written hw hretains hharmless hthere) (hretains.of_held rfl)
      (hfair hthere)

/-- The session in which the steps of a collection are taken. -/
theorem collecting (h : CascadesRespect harmless fair P) {collector subscriber : String}
    {s : SubscriberId} {c : CollectorId} {busy : Collector} (hw : P w waiting)
    (hfound : w.requireCollection collector subscriber = .ok (s, c))
    (hbusy : (w.collector c).start s = .ok busy) :
    P ((w.hold (.subscriber s :: w.collectorHolding collector)).setCollector c busy) waiting := by
  obtain ⟨s', hs, hfound⟩ := bind_eq_ok hfound
  obtain ⟨c', -, hfound⟩ := bind_eq_ok hfound
  cases hfound
  have hheld : P (w.hold (.subscriber s :: w.collectorHolding collector)) waiting := by
    apply h.hold hw fun set hset => isAlive_of_mem_collecting hset
    intro t ht
    rcases List.mem_cons.mp ht with ht | ht
    · cases ht
      exact .inr (isLive_of_require hs)
    · exact absurd ht subscriber_not_mem_collectorHolding
  refine h.start hheld ?_ hbusy
  exact isLive_iff.mpr (.inr (.inl List.mem_cons_self))

mutual
/-- A step leaves nobody waiting who did not wait before. -/
theorem take_of_tells (h : CascadesRespect harmless fair P) (htells : Tells fair P depth) :
    ∀ (s : Step) {w : Session} {waiting : List SubscriberId}, P w waiting → Retains w waiting →
      harmless s w → (∀ m, During depth (.step s) w waiting m → fair m) →
        P (take (telling depth) s w).2 waiting
  | .ask question, w, _, hw, _, _, _ => by
    rw [Session.take]
    dsimp only
    split <;> exact hw
  | .edit edit, w, _, hw, hretains, hharmless, _ => by
    rw [Session.take]
    dsimp only
    split
    · next hedit => exact h.edit hw hretains hharmless hedit
    · exact hw
  | .newSubscriber name program limit, w, _, hw, _, _, _ => h.addSubscriber name program limit hw
  | .update name, w, waiting, hw, hretains, _, hfair => by
    rw [Session.take]
    dsimp only
    split
    · next s hs =>
      -- From here until it has been told, the subscriber waits too; it lives, since it has a name.
      have hawaits : P w ([s] ++ waiting) :=
        h.await hw fun t ht => List.mem_singleton.mp ht ▸ isLive_of_require hs
      obtain ⟨hbegun, hretains'⟩ := h.hold_tellEach hawaits hretains
      have htold := htells s _ _ hbegun hretains' fun m hm => hfair m (.update hs hm)
      rw [Run.snd_holding, Run.snd_bind_pure]
      exact h.letGo htold (runsRespect_onward.telling depth s _).2
    · exact hw
  | .notify name, w, waiting, hw, hretains, _, hfair => by
    rw [Session.take]
    dsimp only
    split
    · next p hp =>
      have hawaits : P w (p.subscribers w.isLive ++ waiting) :=
        h.await hw fun t ht => (Publisher.mem_subscribers.mp ht).2
      rw [Run.snd_bind_pure, notify]
      exact h.tellEach htells hawaits hretains fun m hm => hfair m (.notify hp hm)
    · exact hw
  | .write target v, w, waiting, hw, hretains, hharmless, hfair => by
    rw [Session.take]
    dsimp only
    split
    · next p holdings htarget =>
      -- What a write keeps alive are sets that live already, and no subscribers.
      have hheld : P (w.hold holdings) waiting :=
        h.hold hw (fun set hset => isAlive_of_requireTarget htarget hset) fun s hs =>
          absurd hs (subscriber_not_mem_of_requireTarget htarget)
      have hwritten := h.write htells (p := p) hheld (hretains.hold holdings) hharmless
        fun hthere m hm => hfair m (.write htarget hthere hm)
      rw [Run.snd_holding]
      exact h.letGo hwritten
        (runsRespect_onward.write (runsRespect_onward.telling depth) p v (w.hold holdings)).2
    · exact hw
    · exact hw
  | .collect collector subscriber body, w, waiting, hw, hretains, _, hfair => by
    rw [Session.take]
    dsimp only
    split
    · next s c hfound =>
      split
      · next busy hbusy =>
        -- Whatever the body does, in the end just that is held which the collection has held.
        have hheld := (runsRespect_onward.takeAll_of_tell (runsRespect_onward.telling depth) body
          ((w.hold (.subscriber s :: w.collectorHolding collector)).setCollector c busy)).2
        have hbody := h.takeAll_of_tells htells body (h.collecting hw hfound hbusy)
          ((hretains.hold _).of_held rfl) fun m hm => hfair m (.collect hfound hbusy hm)
        rw [Run.snd_holding, Run.snd_collecting, Run.snd_bind_pure]
        exact h.letGo (h.finish c hbody) hheld
      · exact h.emit _ hw
    · exact hw
  | .abandon, w, _, hw, _, _, _ => hw
  | .recover body, w, waiting, hw, hretains, _, hfair => by
    have hbody := h.takeAll_of_tells htells body hw hretains fun m hm => hfair m (.recover hm)
    rw [Session.take]
    dsimp only
    split
    · next htake => rwa [htake] at hbody
    · next htake => rwa [htake] at hbody
  | .unknown verb, w, _, hw, _, _, _ => hw
termination_by structural s => s

/-- Steps taken one after the other, up to one that gives up. -/
theorem takeAll_of_tells (h : CascadesRespect harmless fair P) (htells : Tells fair P depth) :
    ∀ (ss : List Step) {w : Session} {waiting : List SubscriberId}, P w waiting →
      Retains w waiting → (∀ m, During depth (.steps ss) w waiting m → fair m) →
        P (takeAll (telling depth) ss w).2 waiting
  | [], w, _, hw, _, _ => hw
  | s :: rest, w, waiting, hw, hretains, hfair => by
    -- The moment before the first step says that the step is harmless.
    have hharmless := h.harmless_of_fair (hfair _ .steps)
    have hfirst := h.take_of_tells htells s hw hretains hharmless fun m hm =>
      hfair m (.stepsHead hm)
    have hheld := (runsRespect_onward.take depth s w).2
    rw [takeAll]
    cases htake : Session.take (telling depth) s w with
    | mk outcome w₁ =>
      rw [htake] at hfirst hheld
      cases outcome with
      | returned answer =>
        rw [Run.bind_returned htake, Run.snd_bind_pure]
        exact h.takeAll_of_tells htells rest hfirst (hretains.of_held hheld) fun m hm =>
          hfair m (.stepsTail htake hm)
      | abandoned =>
        rw [Run.bind_abandoned htake]
        exact hfirst
termination_by structural ss => ss
end

theorem runProgram (h : CascadesRespect harmless fair P) (htells : Tells fair P depth)
    (label : String) {ss : List Step} (hw : P w waiting) (hretains : Retains w waiting)
    (hfair : ∀ m, During depth (.program label ss) w waiting m → fair m) :
    P (runProgram (telling depth) label ss w).2 waiting := by
  induction ss generalizing w with
  | nil => exact hw
  | cons s rest ih =>
    have hharmless := h.harmless_of_fair (hfair _ .program)
    have hfirst := h.take_of_tells htells s hw hretains hharmless fun m hm =>
      hfair m (.programHead hm)
    have hheld := (runsRespect_onward.take depth s w).2
    rw [Session.runProgram]
    cases htake : take (telling depth) s w with
    | mk outcome w₁ =>
      rw [htake] at hfirst hheld
      cases outcome with
      | returned answer =>
        rw [Run.bind_returned htake]
        exact ih (h.record _ hfirst) (hretains.of_held hheld) fun m hm =>
          hfair m (.programTail htake hm)
      | abandoned =>
        rw [Run.bind_abandoned htake]
        exact hfirst

/-! ## Telling subscribers, at all depths -/

/-- A subscriber with a program has no binding, and so need not wait while the program is run. -/
theorem counted (h : CascadesRespect harmless fair P) {s : SubscriberId} {steps : List Step}
    {limit runs : Nat} (hw : P w (s :: waiting))
    (hprogram : w.subscribers[s]?.map Subscriber.callback = some (.program steps limit runs)) :
    P ((w.countRun s).record (.told (w.labelOf s))) waiting := by
  refine h.record _ (h.countRun s (h.settle hw fun set index hrenders => ?_))
  cases hprogram.symm.trans hrenders

/-- What telling a subscriber does, given what its program does: a binding is rendered and no
longer waits, and a program has no binding. -/
theorem respond (h : CascadesRespect harmless fair P) {run : String → List Step → Run Unit}
    {s : SubscriberId} (hw : P w (s :: waiting)) (hretains : Retains w (s :: waiting))
    (hrun : ∀ steps limit runs,
      w.subscribers[s]?.map Subscriber.callback = some (.program steps limit runs) →
      runs < limit → P ((w.countRun s).record (.told (w.labelOf s))) waiting →
        P (run (w.labelOf s) steps ((w.countRun s).record (.told (w.labelOf s)))).2 waiting) :
    P (respond run s w).2 waiting := by
  rw [Session.respond]
  split
  · next hnone =>
    refine h.settle hw fun set index hrenders => ?_
    cases hnone.symm.trans hrenders
  · next set index hbinding =>
    split
    · next halive => exact h.render hw hretains hbinding halive
    · next hdead =>
      refine h.settle hw fun set' index' hrenders => ?_
      cases hbinding.symm.trans hrenders
      exact Bool.not_eq_true _ ▸ hdead
  · next steps limit runs hprogram =>
    have hcounted := h.counted hw hprogram
    dsimp only
    split
    · next hruns => exact hrun steps limit runs hprogram hruns hcounted
    · exact hcounted

/-- A program tells others less deep than it has been told itself. -/
theorem tells (h : CascadesRespect harmless fair P) (depth : Nat) : Tells fair P depth := by
  -- On the depth: at the bottom programs are only counted, and above they tell others one level
  -- further down.
  induction depth with
  | zero =>
    intro s w waiting hw hretains _
    rw [telling]
    exact h.respond hw hretains fun _ _ _ _ _ hcounted => hcounted
  | succ depth ih =>
    intro s w waiting hw hretains hfair
    rw [telling]
    refine h.respond hw hretains fun steps limit runs hprogram hruns hcounted => ?_
    have hothers : Retains w waiting := fun t ht => hretains t (List.mem_cons_of_mem s ht)
    exact h.runProgram ih _ hcounted hothers fun m hm =>
      hfair m (.tellProgram hprogram hruns hm)

/-- A step that is taken, however deep the subscribers that it tells may tell others. -/
theorem take (h : CascadesRespect harmless fair P) {s : Step} (hw : P w waiting)
    (hretains : Retains w waiting) (hharmless : harmless s w)
    (hfair : ∀ m, During depth (.step s) w waiting m → fair m) :
    P (take (telling depth) s w).2 waiting :=
  h.take_of_tells (h.tells depth) s hw hretains hharmless hfair

end CascadesRespect

/-! ## Every moment -/

/-- What has to hold where a task begins. Those that the task tells wait to be told. -/
def Task.Ready (harmless : Step → Session → Prop) (P : Session → List SubscriberId → Prop)
    (w : Session) (waiting : List SubscriberId) : Task → Prop
  | .step s => P w waiting ∧ Retains w waiting ∧ harmless s w
  | .steps _ | .program _ _ => P w waiting ∧ Retains w waiting
  | .tell s => P w (s :: waiting) ∧ Retains w (s :: waiting)
  | .tellEach ss => P w (ss ++ waiting) ∧ Retains w waiting

namespace CascadesRespect

variable {harmless : Step → Session → Prop} {fair : Moment → Prop}
  {P : Session → List SubscriberId → Prop} {depth : Nat} {w : Session}
  {waiting : List SubscriberId} {m : Moment}

/-- At each moment of a task the property holds, given who waits then. -/
theorem during (h : CascadesRespect harmless fair P) {task : Task}
    (hm : During depth task w waiting m) (hready : task.Ready harmless P w waiting)
    (hfair : ∀ m, During depth task w waiting m → fair m) : P m.session m.waiting := by
  -- On the way to the moment. Where it leads past a part of the run, that part has settled all
  -- those whom it told.
  induction hm with
  | steps => exact hready.1
  | stepsHead _ ih =>
    apply ih ⟨hready.1, hready.2, h.harmless_of_fair (hfair _ .steps)⟩
    exact fun m hm => hfair m (.stepsHead hm)
  | @stepsTail depth s rest w w₁ answer waiting m htake _ ih =>
    have hfirst : P (Session.take (telling depth) s w).2 waiting :=
      h.take hready.1 hready.2 (h.harmless_of_fair (hfair _ .steps)) fun m hm =>
        hfair m (.stepsHead hm)
    rw [htake] at hfirst
    have hheld := (runsRespect_onward.of_take htake).2
    exact ih ⟨hfirst, hready.2.of_held hheld⟩ fun m hm => hfair m (.stepsTail htake hm)
  | program => exact hready.1
  | programHead _ ih =>
    apply ih ⟨hready.1, hready.2, h.harmless_of_fair (hfair _ .program)⟩
    exact fun m hm => hfair m (.programHead hm)
  | @programTail depth label s rest w w₁ answer waiting m htake _ ih =>
    have hfirst : P (Session.take (telling depth) s w).2 waiting :=
      h.take hready.1 hready.2 (h.harmless_of_fair (hfair _ .program)) fun m hm =>
        hfair m (.programHead hm)
    rw [htake] at hfirst
    have hheld := (runsRespect_onward.of_take htake).2
    exact ih ⟨h.record _ hfirst, hready.2.of_held hheld⟩ fun m hm => hfair m (.programTail htake hm)
  | @update depth name s w waiting m hs _ ih =>
    have hawaits : P w ([s] ++ waiting) :=
      h.await hready.1 fun t ht => List.mem_singleton.mp ht ▸ isLive_of_require hs
    exact ih (h.hold_tellEach hawaits hready.2.1) fun m hm => hfair m (.update hs hm)
  | @notify depth name p w waiting m hp _ ih =>
    apply ih ⟨h.await hready.1 fun t ht => (Publisher.mem_subscribers.mp ht).2, hready.2.1⟩
    exact fun m hm => hfair m (.notify hp hm)
  | @write depth target v p holdings w waiting m htarget hthere _ ih =>
    have hheld : P (w.hold holdings) waiting :=
      h.hold hready.1 (fun set hset => isAlive_of_requireTarget htarget hset) fun s hs =>
        absurd hs (subscriber_not_mem_of_requireTarget htarget)
    have hretains : Retains (w.hold holdings) waiting := hready.2.1.hold holdings
    apply ih ⟨h.written hheld hretains hready.2.2 hthere, hretains.of_held rfl⟩
    exact fun m hm => hfair m (.write htarget hthere hm)
  | @collect depth collector subscriber body s c busy w waiting m hfound hbusy _ ih =>
    apply ih ⟨h.collecting hready.1 hfound hbusy, (hready.2.1.hold _).of_held rfl⟩
    exact fun m hm => hfair m (.collect hfound hbusy hm)
  | recover _ ih => exact ih ⟨hready.1, hready.2.1⟩ fun m hm => hfair m (.recover hm)
  | tell => exact hready.1
  | @tellProgram depth s steps limit runs w waiting m hprogram hruns _ ih =>
    apply ih ⟨h.counted hready.1 hprogram, fun t ht => hready.2 t (List.mem_cons_of_mem s ht)⟩
    exact fun m hm => hfair m (.tellProgram hprogram hruns hm)
  | tellEachHead _ ih =>
    exact ih (h.hold_tellEach hready.1 hready.2) fun m hm => hfair m (.tellEachHead hm)
  | @tellEachTail depth s rest w w₁ waiting m hreturned _ ih =>
    obtain ⟨hbegun, hretains⟩ := h.hold_tellEach hready.1 hready.2
    have htold := h.tells depth s _ _ hbegun hretains fun m hm => hfair m (.tellEachHead hm)
    rw [hreturned] at htold
    have hfreed : P (w₁.holdAs w) (rest ++ waiting) :=
      h.letGo htold (runsRespect_onward.of_telling hreturned).2
    exact ih ⟨hfreed, hready.2.of_held rfl⟩ fun m hm => hfair m (.tellEachTail hreturned hm)

/-- A step of a script, which begins and ends without anybody who waits. -/
theorem step (h : CascadesRespect harmless fair P) {s : Step} (hw : P w [])
    (hharmless : harmless s w)
    (hfair : ∀ m, During (w.promised + s.promised) (.step s) w [] m → fair m) :
    P (w.step s).2 [] := by
  have hafter : (w.step s).2 = (Session.take (telling (w.promised + s.promised)) s w).2 := by
    rw [Session.step]
    split <;> next htake => rw [htake]
  rw [hafter]
  exact h.take hw (fun t ht => absurd ht List.not_mem_nil) hharmless hfair

/-- At each moment of a script the property holds, given who waits then. -/
theorem duringScript (h : CascadesRespect harmless fair P) {ss : List Step}
    (hm : DuringScript ss w m) (hw : P w []) (hfair : ∀ m, DuringScript ss w m → fair m) :
    P m.session m.waiting := by
  -- On the steps of the script, between which nobody waits.
  induction hm with
  | here => exact hw
  | head hm =>
    have hready := h.harmless_of_fair (hfair _ .here)
    exact h.during hm ⟨hw, fun t ht => absurd ht List.not_mem_nil, hready⟩ fun m hm =>
      hfair m (.head hm)
  | @tail s rest w m _ ih =>
    have hstep := h.step hw (h.harmless_of_fair (hfair _ .here)) fun m hm => hfair m (.head hm)
    exact ih hstep fun m hm => hfair m (.tail hm)

end CascadesRespect

end LiveText.Session
