import Mathlib
import LiveText.Proofs.Session.Preservation

/-!
# The depth of runs

A step is taken with a bound on how deep programs may be nested: the runs that the subscribers and
the step can still bring into being. A run uses up one of them, and no step makes more of them than
it has been reckoned to make. So the bound is never met: a step comes to the same with any greater
one, and no program is left out for want of depth.

## Main definitions

- `Thrifty`: whoever is told makes no further runs possible.
- `AgreeUpTo`: two ways of telling that cannot be told apart where few runs are promised.

## Main statements

- `elementary_promised`: edits do not change how many runs are promised.
- `promised_take`: what steps do to the runs that are promised.
- `thrifty_telling`, `telling_of_promised_le`: telling a subscriber, down to any depth.
- `take_of_promised_le`: the bound is never met.
-/

namespace LiveText.Session

variable {w w' : Session} {tell tell' : Telling} {depth depth' bound : Nat}

/-! ## Promised runs -/

/-- The runs that whoever has the callback can still bring into being. -/
def Callback.promised : Callback → Nat
  | .program steps limit runs => (limit - runs) * (promisedAll steps + 1)
  | .binding _ _ => 0

theorem promised_eq_sum (w : Session) :
    w.promised =
      ((w.subscribers.toList.map Subscriber.callback).map Callback.promised).sum := by
  have hcallback : ∀ s : Subscriber, s.promised = s.callback.promised := by
    rintro ⟨label, callback⟩
    cases callback with
    | program steps limit runs => rfl
    | binding set index => rfl
  rw [promised]
  induction w.subscribers.toList with
  | nil => rfl
  | cons s rest ih =>
    rw [List.foldr_cons, ih, hcallback, List.map_cons, List.map_cons, List.sum_cons]

/-- Only callbacks promise runs. -/
theorem promised_of_callbacks (h : ∀ s : SubscriberId,
    w'.subscribers[s]?.map Subscriber.callback = w.subscribers[s]?.map Subscriber.callback) :
    w'.promised = w.promised := by
  have hlist : w'.subscribers.toList.map Subscriber.callback =
      w.subscribers.toList.map Subscriber.callback := by
    apply List.ext_getElem?
    intro s
    simpa using h s
  rw [promised_eq_sum, hlist, ← promised_eq_sum]

theorem promised_newSubscriber (w : Session) (s : Subscriber) :
    (w.newSubscriber s).2.promised = w.promised + s.callback.promised := by
  simp [promised_eq_sum, newSubscriber]

/-- A change at one place of a list changes the sum by what it does there. -/
theorem sum_map_modify {α : Type} (f : α → α) (g : α → Nat) {l : List α} {i : Nat} {a : α}
    (h : l[i]? = some a) : ((l.modify i f).map g).sum + g a = (l.map g).sum + g (f a) := by
  induction l generalizing i with
  | nil => cases h
  | cons x rest ih =>
    cases i with
    | zero =>
      obtain rfl : x = a := Option.some.inj h
      rw [List.modify_zero_cons, List.map_cons, List.map_cons, List.sum_cons, List.sum_cons]
      omega
    | succ i =>
      have hrest := ih h
      rw [List.modify_succ_cons, List.map_cons, List.map_cons, List.sum_cons, List.sum_cons]
      omega

/-- A run that has begun is one less of those that its subscriber may still have. -/
theorem promised_countRun {s : SubscriberId} {steps : List Step} {limit runs : Nat}
    (h : w.subscribers[s]?.map Subscriber.callback = some (.program steps limit runs)) :
    (w.countRun s).promised + (limit - runs) * (promisedAll steps + 1) =
      w.promised + (limit - (runs + 1)) * (promisedAll steps + 1) := by
  obtain ⟨x, hx, hcallback⟩ := Option.map_eq_some_iff.mp h
  have hthere : w.subscribers.toList[s]? = some x := by simpa using hx
  have hbefore : (Callback.promised ∘ Subscriber.callback) x =
      (limit - runs) * (promisedAll steps + 1) := congrArg Callback.promised hcallback
  rw [promised_eq_sum, promised_eq_sum, List.map_map, List.map_map, countRun, Array.toList_modify,
    ← hbefore, sum_map_modify _ _ hthere]
  simp only [Function.comp_apply, hcallback]
  rfl

/-- There is always one run for a program that is run, and there are those that its steps make. -/
theorem promised_countRun_of_lt {s : SubscriberId} {steps : List Step} {limit runs : Nat}
    (h : w.subscribers[s]?.map Subscriber.callback = some (.program steps limit runs))
    (hruns : runs < limit) : (w.countRun s).promised + promisedAll steps + 1 = w.promised := by
  have hcounted := promised_countRun h
  have hone : limit - runs = limit - (runs + 1) + 1 := by omega
  rw [hone, Nat.add_one_mul] at hcounted
  omega

theorem promised_countRun_of_le {s : SubscriberId} {steps : List Step} {limit runs : Nat}
    (h : w.subscribers[s]?.map Subscriber.callback = some (.program steps limit runs))
    (hruns : limit ≤ runs) : (w.countRun s).promised = w.promised := by
  have hcounted := promised_countRun h
  rw [Nat.sub_eq_zero_of_le hruns, Nat.sub_eq_zero_of_le (Nat.le_succ_of_le hruns)] at hcounted
  omega

/-! ## Edits -/

/-- The subscribers that edits make belong to bindings and have no programs. -/
theorem elementary_promised : Elementary fun w w' => w'.promised = w.promised where
  refl _ := rfl
  trans h h' := h'.trans h
  rename _ _ := rfl
  emit _ _ := rfl
  setState _ _ _ := rfl
  modifyDocument _ _ _ := rfl
  modifyBinding _ _ _ _ := rfl
  setLabel w s label := promised_of_callbacks (callback_setLabel w s label)
  observe w data := by
    obtain ⟨trace, hobserve⟩ := observe_eq w data
    rw [hobserve]
    rfl
  newCollector _ := rfl
  newDocument _ _ := rfl
  newScratch _ _ := rfl
  newBindingSet _ := rfl
  withBinding w set _ := promised_newSubscriber w ⟨none, .binding set _⟩
  holding _ h := h

/-! ## Steps promise no more than they have been reckoned to -/

/-- Whoever is told makes no further runs possible. -/
def Thrifty (tell : Telling) : Prop :=
  ∀ s w, (tell s w).2.promised ≤ w.promised

/-- A run that is followed by another, which may be abandoned before it is. -/
theorem promised_bind {α β : Type} {run : Run α} {next : α → Run β}
    (hrun : (run w).2.promised ≤ bound) {bound' : Nat} (hbound : bound ≤ bound')
    (hnext : ∀ a w', w'.promised ≤ bound → (next a w').2.promised ≤ bound') :
    ((run >>= next) w).2.promised ≤ bound' := by
  cases h : run w with
  | mk outcome w' =>
    rw [h] at hrun
    cases outcome with
    | returned a =>
      rw [Run.bind_returned h]
      exact hnext a w' hrun
    | abandoned =>
      rw [Run.bind_abandoned h]
      exact hrun.trans hbound

theorem promised_tellEach (ht : Thrifty tell) (ss : List SubscriberId) (w : Session) :
    (tellEach tell ss w).2.promised ≤ w.promised := by
  induction ss generalizing w with
  | nil => exact Nat.le_refl _
  | cons s rest ih =>
    have hfirst : ((tell s).holding ((s :: rest).map .subscriber) w).2.promised ≤ w.promised :=
      ht s (w.hold ((s :: rest).map .subscriber))
    rw [tellEach]
    exact promised_bind hfirst (Nat.le_refl _) fun _ w' hw' => (ih w').trans hw'

theorem promised_write (ht : Thrifty tell) (h : PropertyHandle) (v : Value) (w : Session) :
    (write tell h v w).2.promised ≤ w.promised := by
  rw [write]
  split
  · exact Nat.le_refl _
  · rw [Run.snd_bind_pure, notify]
    exact promised_tellEach ht _ _

mutual
/-- A step makes at most the runs possible that it has been promised. -/
theorem promised_take (ht : Thrifty tell) : ∀ (s : Step) (w : Session),
    (take tell s w).2.promised ≤ w.promised + s.promised
  | .ask question, w => by
    rw [take]
    dsimp only
    split <;> exact Nat.le_add_right ..
  | .edit edit, w => by
    rw [take]
    dsimp only
    split
    · next hedit => exact (elementary_promised.perform hedit).le.trans (Nat.le_add_right ..)
    · exact Nat.le_add_right ..
  | .newSubscriber name program limit, w => by
    rw [take, Step.promised]
    exact (promised_newSubscriber w _).le
  | .update name, w => by
    rw [take]
    dsimp only
    split
    · next s _ =>
      rw [Run.snd_holding, Run.snd_bind_pure]
      exact (ht s (w.hold [.subscriber s])).trans (Nat.le_add_right ..)
    · exact Nat.le_add_right ..
  | .notify name, w => by
    rw [take]
    dsimp only
    split
    · rw [Run.snd_bind_pure, notify]
      exact (promised_tellEach ht _ w).trans (Nat.le_add_right ..)
    · exact Nat.le_add_right ..
  | .write target v, w => by
    rw [take]
    dsimp only
    split
    · next p holdings _ =>
      exact (promised_write ht p v (w.hold holdings)).trans (Nat.le_add_right ..)
    · exact Nat.le_add_right ..
    · exact Nat.le_add_right ..
  | .collect collector subscriber body, w => by
    rw [take, Step.promised]
    dsimp only
    split
    · next s c _ =>
      split
      · next busy _ =>
        rw [Run.snd_holding, Run.snd_collecting, Run.snd_bind_pure]
        exact promised_takeAll ht body
          ((w.hold (.subscriber s :: w.collectorHolding collector)).setCollector c busy)
      · exact Nat.le_add_right ..
    · exact Nat.le_add_right ..
  | .abandon, w => Nat.le_add_right ..
  | .recover body, w => by
    have hbody := promised_takeAll ht body w
    rw [take, Step.promised]
    dsimp only
    split
    · next htake => rwa [htake] at hbody
    · next htake => rwa [htake] at hbody
  | .unknown verb, w => Nat.le_add_right ..
termination_by structural s => s

theorem promised_takeAll (ht : Thrifty tell) : ∀ (ss : List Step) (w : Session),
    (takeAll tell ss w).2.promised ≤ w.promised + promisedAll ss
  | [], w => Nat.le_add_right ..
  | s :: rest, w => by
    rw [takeAll, promisedAll]
    apply promised_bind (promised_take ht s w) (by omega)
    intro _ w' hw'
    have hrest := promised_takeAll ht rest w'
    rw [Run.snd_bind_pure]
    omega
termination_by structural ss => ss
end

theorem promised_runProgram (ht : Thrifty tell) (label : String) (ss : List Step)
    (w : Session) : (runProgram tell label ss w).2.promised ≤ w.promised + promisedAll ss := by
  induction ss generalizing w with
  | nil => exact Nat.le_add_right ..
  | cons s rest ih =>
    rw [runProgram, promisedAll]
    apply promised_bind (promised_take ht s w) (by omega)
    intro answer w' hw'
    have hrest := ih (w'.record (.taken label answer))
    exact hrest.trans (show w'.promised + _ ≤ _ by omega)

/-- A subscriber that is told uses up what its program makes. -/
theorem promised_respond {run : String → List Step → Run Unit}
    (hrun : ∀ label steps w, (run label steps w).2.promised ≤ w.promised + promisedAll steps)
    (s : SubscriberId) (w : Session) : (respond run s w).2.promised ≤ w.promised := by
  rw [respond]
  split
  · exact Nat.le_refl _
  · split
    · exact (elementary_promised.renderBinding ..).le
    · exact Nat.le_refl _
  · next steps limit runs hprogram =>
    dsimp only
    split
    · next hruns =>
      have hcounted := promised_countRun_of_lt hprogram hruns
      have hafter := hrun (w.labelOf s) steps ((w.countRun s).record (.told (w.labelOf s)))
      exact hafter.trans (show (w.countRun s).promised + _ ≤ _ by omega)
    · next hruns => exact (promised_countRun_of_le hprogram (Nat.le_of_not_lt hruns)).le

theorem thrifty_telling (depth : Nat) : Thrifty (telling depth) := by
  intro s w
  induction depth generalizing s w with
  | zero =>
    rw [telling]
    exact promised_respond (fun _ _ _ => Nat.le_add_right ..) s w
  | succ depth ih =>
    rw [telling]
    exact promised_respond (promised_runProgram ih) s w

/-! ## Ways of telling that agree -/

/-- Two ways of telling come to the same wherever no more runs are promised than so many. -/
def AgreeUpTo (bound : Nat) (tell tell' : Telling) : Prop :=
  ∀ s w, w.promised ≤ bound → tell s w = tell' s w

theorem Run.bind_congr {α β : Type} {run run' : Run α} {next next' : α → Run β}
    (hrun : run w = run' w)
    (hnext : ∀ a w', run w = (.returned a, w') → next a w' = next' a w') :
    (run >>= next) w = (run' >>= next') w := by
  cases h : run w with
  | mk outcome w' =>
    cases outcome with
    | returned a =>
      rw [Run.bind_returned h, Run.bind_returned (hrun.symm.trans h)]
      exact hnext a w' h
    | abandoned => rw [Run.bind_abandoned h, Run.bind_abandoned (hrun.symm.trans h)]

theorem Run.holding_congr {α : Type} {holdings : List Holding} {run run' : Run α}
    (hrun : run (w.hold holdings) = run' (w.hold holdings)) :
    run.holding holdings w = run'.holding holdings w := by
  rw [holding, holding, hrun]

theorem Run.collecting_congr {α : Type} {c : CollectorId} {busy : Collector} {run run' : Run α}
    (hrun : run (w.setCollector c busy) = run' (w.setCollector c busy)) :
    run.collecting c busy w = run'.collecting c busy w := by
  rw [collecting, collecting, hrun]

theorem tellEach_congr (ht : Thrifty tell) (hagree : AgreeUpTo bound tell tell')
    (ss : List SubscriberId) (hw : w.promised ≤ bound) :
    tellEach tell ss w = tellEach tell' ss w := by
  induction ss generalizing w with
  | nil => rfl
  | cons s rest ih =>
    rw [tellEach, tellEach]
    apply Run.bind_congr (Run.holding_congr (hagree s _ hw))
    intro _ w' hfirst
    -- The others are told when no more runs are promised than before.
    have hless : ((tell s).holding ((s :: rest).map .subscriber) w).2.promised ≤ w.promised :=
      ht s (w.hold ((s :: rest).map .subscriber))
    rw [hfirst] at hless
    exact ih (Nat.le_trans hless hw)

theorem write_congr (ht : Thrifty tell) (hagree : AgreeUpTo bound tell tell') (h : PropertyHandle)
    (v : Value) (hw : w.promised ≤ bound) : write tell h v w = write tell' h v w := by
  rw [write, write]
  split
  · rfl
  · exact Run.bind_congr (tellEach_congr ht hagree _ hw) fun _ _ _ => rfl

mutual
/-- A step comes to the same if the ways of telling agree wherever it can lead. -/
theorem take_congr (ht : Thrifty tell) (hagree : AgreeUpTo bound tell tell') :
    ∀ (s : Step) {w : Session}, w.promised + s.promised ≤ bound → take tell s w = take tell' s w
  | .ask question, _, _ => by rw [take, take]
  | .edit edit, _, _ => by rw [take, take]
  | .newSubscriber name program limit, _, _ => by rw [take, take]
  | .update name, w, hw => by
    have hpromised : w.promised ≤ bound := Nat.le_trans (Nat.le_add_right ..) hw
    rw [take, take]
    dsimp only
    split
    · next s _ =>
      apply Run.holding_congr
      exact Run.bind_congr (hagree s _ hpromised) fun _ _ _ => rfl
    · rfl
  | .notify name, w, hw => by
    have hpromised : w.promised ≤ bound := Nat.le_trans (Nat.le_add_right ..) hw
    rw [take, take]
    dsimp only
    split
    · exact Run.bind_congr (tellEach_congr ht hagree _ hpromised) fun _ _ _ => rfl
    · rfl
  | .write target v, w, hw => by
    have hpromised : w.promised ≤ bound := Nat.le_trans (Nat.le_add_right ..) hw
    rw [take, take]
    dsimp only
    split
    · exact Run.holding_congr (write_congr ht hagree _ v hpromised)
    · rfl
    · rfl
  | .collect collector subscriber body, w, hw => by
    rw [Step.promised] at hw
    rw [take, take]
    dsimp only
    split
    · split
      · apply Run.holding_congr
        apply Run.collecting_congr
        exact Run.bind_congr (takeAll_congr ht hagree body hw) fun _ _ _ => rfl
      · rfl
    · rfl
  | .abandon, _, _ => by rw [take, take]
  | .recover body, w, hw => by
    rw [Step.promised] at hw
    rw [take, take]
    dsimp only
    rw [takeAll_congr ht hagree body hw]
  | .unknown verb, _, _ => by rw [take, take]
termination_by structural s => s

theorem takeAll_congr (ht : Thrifty tell) (hagree : AgreeUpTo bound tell tell') :
    ∀ (ss : List Step) {w : Session}, w.promised + promisedAll ss ≤ bound →
      takeAll tell ss w = takeAll tell' ss w
  | [], _, _ => rfl
  | s :: rest, w, hw => by
    rw [promisedAll] at hw
    rw [takeAll, takeAll]
    apply Run.bind_congr (take_congr ht hagree s (by omega))
    intro _ w' hfirst
    -- What the first step has promised is what it was reckoned to, so the rest still fits.
    have hless : w'.promised ≤ w.promised + s.promised := by
      have htake := promised_take ht s w
      rwa [hfirst] at htake
    have hrest : w'.promised + promisedAll rest ≤ bound := by omega
    exact Run.bind_congr (takeAll_congr ht hagree rest hrest) fun _ _ _ => rfl
termination_by structural ss => ss
end

theorem runProgram_congr (ht : Thrifty tell) (hagree : AgreeUpTo bound tell tell')
    (label : String) (ss : List Step) (hw : w.promised + promisedAll ss ≤ bound) :
    runProgram tell label ss w = runProgram tell' label ss w := by
  induction ss generalizing w with
  | nil => rfl
  | cons s rest ih =>
    rw [promisedAll] at hw
    rw [runProgram, runProgram]
    apply Run.bind_congr (take_congr ht hagree s (by omega))
    intro answer w' hfirst
    have hless : w'.promised ≤ w.promised + s.promised := by
      have htake := promised_take ht s w
      rwa [hfirst] at htake
    apply ih
    exact show w'.promised + _ ≤ _ by omega

/-- What is asked of programs is asked only where fewer runs are promised: one has begun. -/
theorem respond_congr {run run' : String → List Step → Run Unit}
    (hrun : ∀ label steps w, w.promised + promisedAll steps < bound →
      run label steps w = run' label steps w)
    (s : SubscriberId) (hw : w.promised ≤ bound) : respond run s w = respond run' s w := by
  rw [respond, respond]
  split
  · rfl
  · rfl
  · next steps limit runs hprogram =>
    dsimp only
    split
    · next hruns =>
      have hcounted := promised_countRun_of_lt hprogram hruns
      apply hrun
      exact show (w.countRun s).promised + _ < _ by omega
    · rfl

/-! ## Depths -/

/-- One more level makes no difference to who is told at a depth that reaches. -/
theorem agree_telling (depth : Nat) : AgreeUpTo depth (telling depth) (telling (depth + 1)) := by
  -- On the depth. At the bottom no run is promised, so no program is run on either side.
  induction depth with
  | zero =>
    intro s w hw
    rw [telling, telling]
    exact respond_congr (fun _ _ _ h => absurd h (Nat.not_lt_zero _)) s hw
  | succ depth ih =>
    intro s w hw
    rw [telling, telling]
    refine respond_congr (fun label steps w h => ?_) s hw
    exact runProgram_congr (thrifty_telling depth) ih label steps (Nat.le_of_lt_succ h)

/-- A subscriber does the same at each depth that reaches. -/
theorem telling_of_promised_le {s : SubscriberId} (hw : w.promised ≤ depth)
    (hdepth : depth ≤ depth') : telling depth' s w = telling depth s w := by
  induction depth', hdepth using Nat.le_induction with
  | base => rfl
  | succ reached hreached ih => exact (agree_telling reached s w (hw.trans hreached)).symm.trans ih

/-- The bound on nesting is never met: however much deeper programs might be nested, a step comes to
the same as with the depth that the session takes it with. -/
theorem take_of_promised_le {s : Step} (hdepth : w.promised + s.promised ≤ depth) :
    take (telling depth) s w = take (telling (w.promised + s.promised)) s w := by
  have hagree : AgreeUpTo (w.promised + s.promised) (telling (w.promised + s.promised))
      (telling depth) :=
    fun t w' hw' => (telling_of_promised_le hw' hdepth).symm
  exact (take_congr (thrifty_telling _) hagree s (Nat.le_refl _)).symm

end LiveText.Session
