import Mathlib
import LiveText.Proofs.Session.Writing

/-!
# Moments of a run

A run is nested: a step tells subscribers, these take steps, and so on. The moments of a run are
all the times at which something can be looked at or done, however deep inside, in the order in
which they come about. At each of them some steps are about to be taken or some subscriber is about
to be told, and the notifications that are under way have certain subscribers yet to tell.

## Main definitions

- `Task`: the parts that a run is made of.
- `Moment`: what is about to happen, in which session, and who waits to be told.
- `During`: the moments of a task.
- `DuringScript`: the moments of steps of the session itself.
-/

namespace LiveText.Session

/-- A part of a run. -/
inductive Task where
  | step (s : Step)
  | steps (ss : List Step)
  /-- Steps of the program of a subscriber with a label. -/
  | program (label : String) (ss : List Step)
  | tell (s : SubscriberId)
  | tellEach (ss : List SubscriberId)

/-- A time at which a session can be looked at. -/
inductive Moment where
  /-- The steps are about to be taken, at the place where the run is. -/
  | ahead (steps : List Step) (w : Session) (waiting : List SubscriberId)
  /-- A subscriber is about to be told, and others wait behind it. -/
  | told (depth : Nat) (s : SubscriberId) (w : Session) (waiting : List SubscriberId)

/-- The session at a moment. -/
def Moment.session : Moment → Session
  | .ahead _ w _ | .told _ _ w _ => w

/-- Who waits to be told by the notifications that are under way. -/
def Moment.waiting : Moment → List SubscriberId
  | .ahead _ _ waiting => waiting
  | .told _ s _ waiting => s :: waiting

/-- The moments of a task that begins in a session, while subscribers wait to be told by
notifications around it. -/
inductive During : Nat → Task → Session → List SubscriberId → Moment → Prop where
  -- Steps and programs are taken one after the other, each from what the one before has left.
  | steps {depth ss w waiting} :
      During depth (.steps ss) w waiting (.ahead ss w waiting)
  | stepsHead {depth s rest w waiting m} :
      During depth (.step s) w waiting m → During depth (.steps (s :: rest)) w waiting m
  | stepsTail {depth s rest w w' answer waiting m} :
      take (telling depth) s w = (.returned answer, w') →
      During depth (.steps rest) w' waiting m → During depth (.steps (s :: rest)) w waiting m
  | program {depth label ss w waiting} :
      During depth (.program label ss) w waiting (.ahead ss w waiting)
  | programHead {depth label s rest w waiting m} :
      During depth (.step s) w waiting m → During depth (.program label (s :: rest)) w waiting m
  | programTail {depth label s rest w w' answer waiting m} :
      take (telling depth) s w = (.returned answer, w') →
      During depth (.program label rest) (w'.record (.taken label answer)) waiting m →
      During depth (.program label (s :: rest)) w waiting m
  -- The steps that have others inside, or that tell subscribers.
  | update {depth name s w waiting m} :
      require .subscriber w.names.subscribers name = .ok s →
      During depth (.tell s) (w.hold [.subscriber s]) waiting m →
      During depth (.step (.update name)) w waiting m
  | notify {depth name p w waiting m} :
      require .publisher w.names.publishers name = .ok p →
      During depth (.tellEach (p.subscribers w.isLive)) w waiting m →
      During depth (.step (.notify name)) w waiting m
  | write {depth target v h holdings w waiting m} :
      w.requireTarget target = .ok (.ok h, holdings) →
      (w.state h.state).contains h.path = true →
      During depth (.tellEach ((w.state h.state).readers (w.hold holdings).isLive h.path))
        ((w.hold holdings).written h v) waiting m →
      During depth (.step (.write target v)) w waiting m
  | collect {depth collector subscriber body s c busy w waiting m} :
      w.requireCollection collector subscriber = .ok (s, c) →
      (w.collector c).start s = .ok busy →
      During depth (.steps body)
        ((w.hold (.subscriber s :: w.collectorHolding collector)).setCollector c busy) waiting m →
      During depth (.step (.collect collector subscriber body)) w waiting m
  | recover {depth body w waiting m} :
      During depth (.steps body) w waiting m →
      During depth (.step (.recover body)) w waiting m
  -- While one subscriber is told, those behind it wait.
  | tell {depth s w waiting} :
      During depth (.tell s) w waiting (.told depth s w waiting)
  | tellProgram {depth s steps limit runs w waiting m} :
      w.subscribers[s]?.map Subscriber.callback = some (.program steps limit runs) →
      runs < limit →
      During depth (.program (w.labelOf s) steps)
        ((w.countRun s).record (.told (w.labelOf s))) waiting m →
      During (depth + 1) (.tell s) w waiting m
  | tellEachHead {depth s rest w waiting m} :
      During depth (.tell s) (w.hold ((s :: rest).map .subscriber)) (rest ++ waiting) m →
      During depth (.tellEach (s :: rest)) w waiting m
  | tellEachTail {depth s rest w w' waiting m} :
      telling depth s (w.hold ((s :: rest).map .subscriber)) = (.returned (), w') →
      During depth (.tellEach rest) (w'.holdAs w) waiting m →
      During depth (.tellEach (s :: rest)) w waiting m

/-- The moments of steps that the session itself takes. Between them no notification is under way,
so nobody waits. -/
inductive DuringScript : List Step → Session → Moment → Prop where
  | here {ss w} : DuringScript ss w (.ahead ss w [])
  | head {s rest w m} :
      During (w.promised + s.promised) (.step s) w [] m → DuringScript (s :: rest) w m
  | tail {s rest w m} : DuringScript rest (w.step s).2 m → DuringScript (s :: rest) w m

end LiveText.Session
