import Mathlib
import LiveText.Proofs.Session.Preservation

/-!
# Stages of a run

A task in a session is a stage of a run. It has parts, which are stages again, and each moment of a
stage is either its first one or a moment of one of its parts. Parts that come one after the other
order the moments in time.

## Main definitions

- `Stage`, `Stage.left`: a task with the session in which it begins, and the session that it leaves.
- `Part`: the parts of a stage.
- `Before`: two parts of a stage one after the other.
- `Later`, `LaterScript`: a moment and one that is the same or comes later.

## Main statements

- `Stage.During.induction`: the moments of a stage, part by part.
- `Later.during`: both are moments of the stage.
- `during_later`, `duringScript_later`: of two moments of a stage, or of a script, one is later than
  the other.
-/

namespace LiveText.Session

/-- A task with the session in which it begins. -/
structure Stage where
  depth : Nat
  task : Task
  session : Session
  waiting : List SubscriberId

namespace Stage

/-- The moment at which the stage begins, if that is one by itself. -/
def first? : Stage → Option Moment
  | ⟨_, .steps ss, w, waiting⟩ => some (.ahead ss w waiting)
  | ⟨_, .program _ ss, w, waiting⟩ => some (.ahead ss w waiting)
  | ⟨depth, .tell s, w, waiting⟩ => some (.told depth s w waiting)
  | ⟨_, .step _, _, _⟩ | ⟨_, .tellEach _, _, _⟩ => none

/-- The session that the stage leaves. -/
def left : Stage → Session
  | ⟨depth, .step s, w, _⟩ => (take (telling depth) s w).2
  | ⟨depth, .steps ss, w, _⟩ => (takeAll (telling depth) ss w).2
  | ⟨depth, .program label ss, w, _⟩ => (runProgram (telling depth) label ss w).2
  | ⟨depth, .tell s, w, _⟩ => (telling depth s w).2
  | ⟨depth, .tellEach ss, w, _⟩ => (tellEach (telling depth) ss w).2

/-- The stage is a notification, or what is left of one. -/
def IsNotification (st : Stage) : Prop :=
  ∃ ss, st.task = .tellEach ss

/-- The moments of the stage. -/
def During (st : Stage) (m : Moment) : Prop :=
  Session.During st.depth st.task st.session st.waiting m

end Stage

variable {st part head tail : Stage} {m m' : Moment}

/-! ## Parts -/

/-- The parts of a stage. -/
inductive Part : Stage → Stage → Prop where
  | stepsHead {depth s rest w waiting} :
      Part ⟨depth, .steps (s :: rest), w, waiting⟩ ⟨depth, .step s, w, waiting⟩
  | stepsTail {depth s rest w w' answer waiting}
      (h : take (telling depth) s w = (.returned answer, w')) :
      Part ⟨depth, .steps (s :: rest), w, waiting⟩ ⟨depth, .steps rest, w', waiting⟩
  | programHead {depth label s rest w waiting} :
      Part ⟨depth, .program label (s :: rest), w, waiting⟩ ⟨depth, .step s, w, waiting⟩
  | programTail {depth label s rest w w' answer waiting}
      (h : take (telling depth) s w = (.returned answer, w')) :
      Part ⟨depth, .program label (s :: rest), w, waiting⟩
        ⟨depth, .program label rest, w'.record (.taken label answer), waiting⟩
  | update {depth name s w waiting}
      (h : require .subscriber w.names.subscribers name = .ok s) :
      Part ⟨depth, .step (.update name), w, waiting⟩
        ⟨depth, .tell s, w.hold [.subscriber s], waiting⟩
  | notify {depth name p w waiting}
      (h : require .publisher w.names.publishers name = .ok p) :
      Part ⟨depth, .step (.notify name), w, waiting⟩
        ⟨depth, .tellEach (p.subscribers w.isLive), w, waiting⟩
  | write {depth target v h holdings w waiting}
      (htarget : w.requireTarget target = .ok (.ok h, holdings))
      (hthere : (w.state h.state).contains h.path = true) :
      Part ⟨depth, .step (.write target v), w, waiting⟩
        ⟨depth, .tellEach ((w.state h.state).readers (w.hold holdings).isLive h.path),
          (w.hold holdings).written h v, waiting⟩
  | collect {depth collector subscriber body s c busy w waiting}
      (hfound : w.requireCollection collector subscriber = .ok (s, c))
      (hbusy : (w.collector c).start s = .ok busy) :
      Part ⟨depth, .step (.collect collector subscriber body), w, waiting⟩
        ⟨depth, .steps body,
          (w.hold (.subscriber s :: w.collectorHolding collector)).setCollector c busy, waiting⟩
  | recover {depth body w waiting} :
      Part ⟨depth, .step (.recover body), w, waiting⟩ ⟨depth, .steps body, w, waiting⟩
  | tellProgram {depth s steps limit runs w waiting}
      (hprogram : w.subscribers[s]?.map Subscriber.callback = some (.program steps limit runs))
      (hruns : runs < limit) :
      Part ⟨depth + 1, .tell s, w, waiting⟩
        ⟨depth, .program (w.labelOf s) steps, (w.countRun s).record (.told (w.labelOf s)), waiting⟩
  | tellEachHead {depth s rest w waiting} :
      Part ⟨depth, .tellEach (s :: rest), w, waiting⟩
        ⟨depth, .tell s, w.hold ((s :: rest).map .subscriber), rest ++ waiting⟩
  | tellEachTail {depth s rest w w' waiting}
      (h : telling depth s (w.hold ((s :: rest).map .subscriber)) = (.returned (), w')) :
      Part ⟨depth, .tellEach (s :: rest), w, waiting⟩ ⟨depth, .tellEach rest, w'.holdAs w, waiting⟩

/-- The moments of a part are moments of the whole. -/
theorem Part.during (h : Part st part) (hm : part.During m) : st.During m := by
  cases h with
  | stepsHead => exact .stepsHead hm
  | stepsTail h => exact .stepsTail h hm
  | programHead => exact .programHead hm
  | programTail h => exact .programTail h hm
  | update h => exact .update h hm
  | notify h => exact .notify h hm
  | write htarget hthere => exact .write htarget hthere hm
  | collect hfound hbusy => exact .collect hfound hbusy hm
  | recover => exact .recover hm
  | tellProgram hprogram hruns => exact .tellProgram hprogram hruns hm
  | tellEachHead => exact .tellEachHead hm
  | tellEachTail h => exact .tellEachTail h hm

/-- The first moment is a moment. -/
theorem Stage.during_first (h : st.first? = some m) : st.During m := by
  obtain ⟨depth, task, w, waiting⟩ := st
  cases task with
  | step s => cases h
  | steps ss =>
    cases h
    exact .steps
  | program label ss =>
    cases h
    exact .program
  | tell s =>
    cases h
    exact .tell
  | tellEach ss => cases h

/-- The moments of a stage are the first one and those of its parts. -/
theorem Stage.During.induction {motive : Stage → Moment → Prop}
    (first : ∀ st m, st.first? = some m → motive st m)
    (part : ∀ st part m, Part st part → part.During m → motive part m → motive st m)
    (hm : st.During m) : motive st m := by
  obtain ⟨depth, task, w, waiting⟩ := st
  have h : Session.During depth task w waiting m := hm
  induction h with
  | steps => exact first _ _ rfl
  | stepsHead h ih => exact part _ _ _ .stepsHead h (ih h)
  | stepsTail htake h ih => exact part _ _ _ (.stepsTail htake) h (ih h)
  | program => exact first _ _ rfl
  | programHead h ih => exact part _ _ _ .programHead h (ih h)
  | programTail htake h ih => exact part _ _ _ (.programTail htake) h (ih h)
  | update hfound h ih => exact part _ _ _ (.update hfound) h (ih h)
  | notify hfound h ih => exact part _ _ _ (.notify hfound) h (ih h)
  | write htarget hthere h ih => exact part _ _ _ (.write htarget hthere) h (ih h)
  | collect hfound hbusy h ih => exact part _ _ _ (.collect hfound hbusy) h (ih h)
  | recover h ih => exact part _ _ _ .recover h (ih h)
  | tell => exact first _ _ rfl
  | tellProgram hprogram hruns h ih => exact part _ _ _ (.tellProgram hprogram hruns) h (ih h)
  | tellEachHead h ih => exact part _ _ _ .tellEachHead h (ih h)
  | tellEachTail htold h ih => exact part _ _ _ (.tellEachTail htold) h (ih h)

theorem Stage.During.first_or_part (hm : st.During m) :
    st.first? = some m ∨ ∃ part, Part st part ∧ part.During m :=
  hm.induction (motive := fun st m => st.first? = some m ∨ ∃ part, Part st part ∧ part.During m)
    (fun _ _ hfirst => .inl hfirst) fun _ part _ hpart hm _ => .inr ⟨part, hpart, hm⟩

/-! ## One after the other -/

/-- Two parts of a stage, of which the second begins with what the first has left. -/
inductive Before : Stage → Stage → Stage → Prop where
  | steps {depth s rest w w' answer waiting}
      (h : take (telling depth) s w = (.returned answer, w')) :
      Before ⟨depth, .steps (s :: rest), w, waiting⟩ ⟨depth, .step s, w, waiting⟩
        ⟨depth, .steps rest, w', waiting⟩
  | program {depth label s rest w w' answer waiting}
      (h : take (telling depth) s w = (.returned answer, w')) :
      Before ⟨depth, .program label (s :: rest), w, waiting⟩ ⟨depth, .step s, w, waiting⟩
        ⟨depth, .program label rest, w'.record (.taken label answer), waiting⟩
  | tellEach {depth s rest w w' waiting}
      (h : telling depth s (w.hold ((s :: rest).map .subscriber)) = (.returned (), w')) :
      Before ⟨depth, .tellEach (s :: rest), w, waiting⟩
        ⟨depth, .tell s, w.hold ((s :: rest).map .subscriber), rest ++ waiting⟩
        ⟨depth, .tellEach rest, w'.holdAs w, waiting⟩

theorem Before.parts (h : Before st head tail) : Part st head ∧ Part st tail := by
  cases h with
  | steps h => exact ⟨.stepsHead, .stepsTail h⟩
  | program h => exact ⟨.programHead, .programTail h⟩
  | tellEach h => exact ⟨.tellEachHead, .tellEachTail h⟩

/-- Two parts of a stage are the same, or one comes before the other. -/
theorem Part.before {part' : Stage} (h : Part st part) (h' : Part st part') :
    part = part' ∨ Before st part part' ∨ Before st part' part := by
  cases h with
  | stepsHead =>
    cases h' with
    | stepsHead => exact .inl rfl
    | stepsTail h' => exact .inr (.inl (.steps h'))
  | stepsTail h =>
    cases h' with
    | stepsHead => exact .inr (.inr (.steps h))
    | stepsTail h' =>
      cases h.symm.trans h'
      exact .inl rfl
  | programHead =>
    cases h' with
    | programHead => exact .inl rfl
    | programTail h' => exact .inr (.inl (.program h'))
  | programTail h =>
    cases h' with
    | programHead => exact .inr (.inr (.program h))
    | programTail h' =>
      cases h.symm.trans h'
      exact .inl rfl
  | tellEachHead =>
    cases h' with
    | tellEachHead => exact .inl rfl
    | tellEachTail h' => exact .inr (.inl (.tellEach h'))
  | tellEachTail h =>
    cases h' with
    | tellEachHead => exact .inr (.inr (.tellEach h))
    | tellEachTail h' =>
      cases h.symm.trans h'
      exact .inl rfl
  | _ =>
    -- Any other stage has one part at most.
    cases h'
    simp_all

/-! ## Later -/

/-- The second moment of the stage is the first one or comes later. If the notifications have to
have `ended`, none that is under way at the first moment still is at the second. -/
inductive Later (ended : Prop) : Stage → Moment → Moment → Prop where
  | first {st : Stage} {m m' : Moment} (hfirst : st.first? = some m) (hm' : st.During m') :
      Later ended st m m'
  | part {st part : Stage} {m m' : Moment} (hpart : Part st part)
      (hended : ended → ¬ st.IsNotification) (h : Later ended part m m') : Later ended st m m'
  | across {st head tail : Stage} {m m' : Moment} (hbefore : Before st head tail)
      (hended : ended → ¬ st.IsNotification) (hm : head.During m) (hm' : tail.During m') :
      Later ended st m m'

variable {ended : Prop}

theorem Later.during (h : Later ended st m m') : st.During m ∧ st.During m' := by
  induction h with
  | first hfirst hm' => exact ⟨Stage.during_first hfirst, hm'⟩
  | part hpart _ _ ih => exact ⟨hpart.during ih.1, hpart.during ih.2⟩
  | across hbefore _ hm hm' => exact ⟨hbefore.parts.1.during hm, hbefore.parts.2.during hm'⟩

/-- Of two moments one is later than the other. -/
theorem during_later (hm : st.During m) (hm' : st.During m') :
    Later False st m m' ∨ Later False st m' m := by
  revert hm'
  refine hm.induction (motive := fun st m => st.During m' →
    Later False st m m' ∨ Later False st m' m) ?first ?part
  case first => exact fun st m hfirst hm' => .inl (.first hfirst hm')
  case part =>
    intro st part m hpart hm ih hm'
    rcases hm'.first_or_part with hfirst | ⟨part', hpart', hm'⟩
    · exact .inr (.first hfirst (hpart.during hm))
    · rcases hpart.before hpart' with rfl | hbefore | hbefore
      · exact (ih hm').imp (.part hpart False.elim) (.part hpart False.elim)
      · exact .inl (.across hbefore False.elim hm hm')
      · exact .inr (.across hbefore False.elim hm' hm)

/-- A step that the session itself takes, as a stage. -/
def stageOf (w : Session) (s : Step) : Stage :=
  ⟨w.promised + s.promised, .step s, w, []⟩

/-- The same among the moments of steps that the session itself takes. -/
inductive LaterScript (ended : Prop) : List Step → Session → Moment → Moment → Prop where
  | here {ss : List Step} {w : Session} {m' : Moment} (hm' : DuringScript ss w m') :
      LaterScript ended ss w (.ahead ss w []) m'
  | head {s : Step} {rest : List Step} {w : Session} {m m' : Moment}
      (h : Later ended (w.stageOf s) m m') :
      LaterScript ended (s :: rest) w m m'
  | across {s : Step} {rest : List Step} {w : Session} {m m' : Moment}
      (hm : (w.stageOf s).During m) (hm' : DuringScript rest (w.step s).2 m') :
      LaterScript ended (s :: rest) w m m'
  | tail {s : Step} {rest : List Step} {w : Session} {m m' : Moment}
      (h : LaterScript ended rest (w.step s).2 m m') :
      LaterScript ended (s :: rest) w m m'

theorem LaterScript.during {ss : List Step} {w : Session} (h : LaterScript ended ss w m m') :
    DuringScript ss w m ∧ DuringScript ss w m' := by
  induction h with
  | here hm' => exact ⟨.here, hm'⟩
  | head h => exact ⟨.head h.during.1, .head h.during.2⟩
  | across hm hm' => exact ⟨.head hm, .tail hm'⟩
  | tail _ ih => exact ⟨.tail ih.1, .tail ih.2⟩

/-- Of two moments of a script one is later than the other. -/
theorem duringScript_later {ss : List Step} {w : Session} (hm : DuringScript ss w m)
    (hm' : DuringScript ss w m') :
    LaterScript False ss w m m' ∨ LaterScript False ss w m' m := by
  induction hm with
  | here => exact .inl (.here hm')
  | @head s rest w m hm =>
    cases hm' with
    | here => exact .inr (.here (.head hm))
    | head hm' =>
      have hstage : (w.stageOf s).During m := hm
      exact (during_later hstage hm').imp .head .head
    | tail hm' => exact .inl (.across hm hm')
  | tail hm ih =>
    cases hm' with
    | here => exact .inr (.here (.tail hm))
    | head hm' => exact .inr (.across hm' hm)
    | tail hm' => exact (ih hm').imp .tail .tail

end LiveText.Session
