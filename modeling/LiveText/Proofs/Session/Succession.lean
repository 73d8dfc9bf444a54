import Mathlib
import LiveText.Proofs.Session.Stages
import LiveText.Proofs.Session.Survival

/-!
# Succession

What a run does to who lives, it does at each moment of the run: a moment is onward of the beginning
of its stage, of the parts before it, and of every earlier moment.

## Main statements

- `Part.onward`, `Part.onward_left`, `Before.onward`: parts and what is left of them.
- `Stage.During.onward`: the moments of a stage.
- `Later.onward`, `LaterScript.onward`: every moment is onward of those before it.
-/

namespace LiveText.Session

variable {w w' : Session} {st part head tail : Stage} {m m' : Moment} {ended : Prop}

/-! ## Stages lead onward -/

/-- A stage leads onward, and in the end lets go of what it has kept alive. -/
theorem Stage.onward_left (st : Stage) :
    Onward st.session st.left ∧ st.left.held = st.session.held := by
  have h := runsRespect_onward
  obtain ⟨depth, task, w, waiting⟩ := st
  cases task with
  | step s => exact h.take depth s w
  | steps ss => exact h.takeAll_of_tell (h.telling depth) ss w
  | program label ss => exact h.runProgram (h.telling depth) label ss w
  | tell s => exact h.telling depth s w
  | tellEach ss => exact h.tellEach (h.telling depth) ss w

/-- When a subscriber has been told, those that have been kept alive for it are let go of. -/
theorem onward_letGo {depth : Nat} {s : SubscriberId} {holdings : List Holding}
    {outcome : Outcome Unit} (h : telling depth s (w.hold holdings) = (outcome, w')) :
    Onward w' (w'.holdAs w) := by
  apply onward_holdAs
  intro x hx
  rw [(runsRespect_onward.of_telling h).2]
  exact List.mem_append_right holdings hx

/-- A part begins onward of the whole. -/
theorem Part.onward (h : Part st part) : Onward st.session part.session := by
  have hruns := runsRespect_onward
  cases h with
  | @stepsHead depth s rest w waiting => exact .refl w
  | @stepsTail depth s rest w w' answer waiting h =>
    exact (hruns.of_take h).1
  | @programHead depth label s rest w waiting => exact .refl w
  | @programTail depth label s rest w w' answer waiting h =>
    exact (hruns.trans (hruns.of_take h) (hruns.record w' (.taken label answer))).1
  | @update depth name s w waiting h => exact onward_hold_subscribers w [s]
  | @notify depth name p w waiting h => exact .refl w
  | @write depth target v h holdings w waiting htarget hthere =>
    have hhold := onward_hold fun set hset => isAlive_of_requireTarget htarget hset
    exact hhold.trans (hruns.written (w := w.hold holdings) v hthere).1
  | @collect depth collector subscriber body s c busy w waiting hfound hbusy =>
    have hhold : Onward w (w.hold (.subscriber s :: w.collectorHolding collector)) :=
      onward_hold fun set hset => isAlive_of_mem_collecting hset
    exact hhold.trans (onward_setCollector ..)
  | @recover depth body w waiting => exact .refl w
  | @tellProgram depth s steps limit runs w waiting hprogram hruns' =>
    exact (hruns.trans (hruns.countRun w s) (hruns.record _ (.told (w.labelOf s)))).1
  | @tellEachHead depth s rest w waiting => exact onward_hold_subscribers w (s :: rest)
  | @tellEachTail depth s rest w w' waiting h =>
    have hhold := onward_hold_subscribers w (s :: rest)
    exact (hhold.trans (hruns.of_telling h).1).trans (onward_letGo h)

/-- What is kept alive by the whole is kept alive by the part. -/
theorem Part.held (h : Part st part) : ∀ x ∈ st.session.held, x ∈ part.session.held := by
  have hruns := runsRespect_onward
  intro x hx
  cases h with
  | stepsHead | programHead | notify _ | recover => exact hx
  | stepsTail h => exact (hruns.of_take h).2.symm ▸ hx
  | programTail h => exact (hruns.of_take h).2.symm ▸ hx
  | update _ | write _ _ | collect _ _ | tellEachHead => exact List.mem_append_right _ hx
  | tellProgram _ _ => exact hx
  | tellEachTail _ => exact hx

/-- The whole ends onward of the part. -/
theorem Part.onward_left (h : Part st part) : Onward part.left st.left := by
  have hruns := runsRespect_onward
  -- After the part come the parts behind it, or the whole lets go of what the part has held.
  have hback : Onward part.left (part.left.holdAs st.session) := by
    apply onward_holdAs
    intro x hx
    rw [part.onward_left.2]
    exact h.held x hx
  cases h with
  | @stepsHead depth s rest w waiting =>
    show Onward _ (takeAll (telling depth) (s :: rest) w).2
    rw [takeAll]
    refine (hruns.after (take (telling depth) s) (fun answer w' => ?_) w).1
    rw [Run.snd_bind_pure]
    exact hruns.takeAll_of_tell (hruns.telling depth) rest w'
  | @stepsTail depth s rest w w' answer waiting h =>
    show Onward _ (takeAll (telling depth) (s :: rest) w).2
    rw [takeAll, Run.bind_returned h, Run.snd_bind_pure]
    exact .refl _
  | @programHead depth label s rest w waiting =>
    show Onward _ (runProgram (telling depth) label (s :: rest) w).2
    rw [runProgram]
    refine (hruns.after (take (telling depth) s) (fun answer w' => ?_) w).1
    exact hruns.trans (hruns.record w' (.taken label answer))
      (hruns.runProgram (hruns.telling depth) label rest _)
  | @programTail depth label s rest w w' answer waiting h =>
    show Onward _ (runProgram (telling depth) label (s :: rest) w).2
    rw [runProgram, Run.bind_returned h]
    exact .refl _
  | @update depth name s w waiting h =>
    show Onward _ (take (telling depth) (.update name) w).2
    simp only [take, h]
    rw [Run.snd_holding, Run.snd_bind_pure]
    exact hback
  | @notify depth name p w waiting h =>
    show Onward _ (take (telling depth) (.notify name) w).2
    simp only [take, h]
    rw [Run.snd_bind_pure]
    exact .refl _
  | @write depth target v h holdings w waiting htarget hthere =>
    show Onward _ (take (telling depth) (.write target v) w).2
    simp only [take, htarget]
    rw [Run.snd_holding, write_of_contains (w := w.hold holdings) (telling depth) v hthere,
      Run.snd_bind_pure]
    exact hback
  | @collect depth collector subscriber body s c busy w waiting hfound hbusy =>
    show Onward _ (take (telling depth) (.collect collector subscriber body) w).2
    simp only [take, hfound, hbusy]
    rw [Run.snd_holding, Run.snd_collecting, Run.snd_bind_pure]
    exact hback.trans (onward_setCollector ..)
  | @recover depth body w waiting =>
    show Onward _ (take (telling depth) (.recover body) w).2
    rw [take]
    dsimp only
    split
    · next h =>
      rw [Stage.left, h]
      exact .refl _
    · next h =>
      rw [Stage.left, h]
      exact .refl _
  | @tellProgram depth s steps limit runs w waiting hprogram hlimit =>
    show Onward _ (telling (depth + 1) s w).2
    simp only [telling, respond, hprogram, if_pos hlimit]
    exact .refl _
  | @tellEachHead depth s rest w waiting =>
    show Onward _ (tellEach (telling depth) (s :: rest) w).2
    rw [tellEach]
    refine hback.trans (hruns.after ((telling depth s).holding _) (fun _ w' => ?_) w).1
    exact hruns.tellEach (hruns.telling depth) rest w'
  | @tellEachTail depth s rest w w' waiting h =>
    show Onward _ (tellEach (telling depth) (s :: rest) w).2
    have hhead : (telling depth s).holding ((s :: rest).map .subscriber) w =
        (.returned (), w'.holdAs w) := by
      rw [Run.holding, h]
    rw [tellEach, Run.bind_returned hhead]
    exact .refl _

/-- A part begins onward of what the part before it has left. -/
theorem Before.onward (h : Before st head tail) : Onward head.left tail.session := by
  cases h with
  | steps h =>
    rw [Stage.left, h]
    exact .refl _
  | program h =>
    rw [Stage.left, h]
    exact .of_eq rfl rfl rfl rfl
  | @tellEach depth s rest w w' waiting h =>
    rw [Stage.left, h]
    exact onward_letGo h

theorem Stage.session_of_first? (h : st.first? = some m) : m.session = st.session := by
  obtain ⟨depth, task, w, waiting⟩ := st
  cases task <;> cases h <;> rfl

/-- A moment is onward of the beginning, and the end is onward of it. -/
theorem Stage.During.onward (hm : st.During m) :
    Onward st.session m.session ∧ Onward m.session st.left := by
  refine hm.induction (motive := fun st m => Onward st.session m.session ∧
    Onward m.session st.left) ?first ?part
  case first =>
    intro st m hfirst
    rw [Stage.session_of_first? hfirst]
    exact ⟨.refl _, st.onward_left.1⟩
  case part => exact fun st part m hpart _ ih =>
    ⟨hpart.onward.trans ih.1, ih.2.trans hpart.onward_left⟩

theorem Later.onward (h : Later ended st m m') : Onward m.session m'.session := by
  induction h with
  | first hfirst hm' =>
    rw [Stage.session_of_first? hfirst]
    exact hm'.onward.1
  | part _ _ _ ih => exact ih
  | across hbefore _ hm hm' => exact (hm.onward.2.trans hbefore.onward).trans hm'.onward.1

theorem snd_step (w : Session) (s : Step) : (w.step s).2 = (w.stageOf s).left := by
  rw [step, stageOf, Stage.left]
  split <;> next h => rw [h]

theorem DuringScript.onward {ss : List Step} (hm : DuringScript ss w m) : Onward w m.session := by
  induction hm with
  | here => exact .refl _
  | @head s rest w m hm =>
    have hstage : (w.stageOf s).During m := hm
    exact hstage.onward.1
  | @tail s rest w m _ ih =>
    rw [snd_step] at ih
    exact (w.stageOf s).onward_left.1.trans ih

theorem LaterScript.onward {ss : List Step} (h : LaterScript ended ss w m m') :
    Onward m.session m'.session := by
  induction h with
  | here hm' => exact hm'.onward
  | head h => exact h.onward
  | across hm hm' =>
    have hrest := hm'.onward
    rw [snd_step] at hrest
    exact hm.onward.2.trans hrest
  | tail _ ih => exact ih

theorem held_step (w : Session) (s : Step) : (w.step s).2.held = w.held :=
  snd_step w s ▸ (w.stageOf s).onward_left.2

/-- What runs respect, scripts do. -/
theorem RunsRespect.script {R : Session → Session → Prop} (h : RunsRespect R) (ss : List Step)
    (w : Session) : R w (ss.foldl (fun w s => (w.step s).2) w) := by
  induction ss generalizing w with
  | nil => exact h.refl w
  | cons s rest ih =>
    have hstep : R w (w.step s).2 := snd_step w s ▸ h.take _ s w
    exact h.trans hstep (ih _)

end LiveText.Session
