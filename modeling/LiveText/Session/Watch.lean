import LiveText.Session.Execution

/-!
# Watching a session

After each step of a script there is a report: what the step answers, what subscribers did and what
was told meanwhile, and how the watched things look.

## Main definitions

- `Sight`, `Session.look`: how the thing of a name looks.
- `StepReport`, `Session.play`: the reports on a script.
-/

namespace LiveText.Session

/-- How a state looks: its properties with the numbers of their subscribers, and its data. -/
structure StateSight where
  slots : List (Path × Nat)
  snapshot : Value
deriving Repr

/-- How a thing looks. -/
inductive Sight where
  | component (inner : String) (bindings : List BindingStatus) (state : StateSight)
  | state (state : StateSight)
  | document (markup : String)
  | publisher (subscribers : List SubscriberId)
  | nothing
deriving Repr

/-- How a state looks. -/
def lookAtState (w : Session) (i : StateId) : StateSight :=
  let st := w.state i
  { slots := st.paths.map fun p => (p, st.subscriberCount w.isLive p)
    snapshot := st.snapshot }

/-- How a component looks. -/
def lookAtComponent (w : Session) (c : Component) : Sight :=
  let d := w.document c.document
  .component (d.innerMarkup c.el) (w.statuses c.bindings d) (w.lookAtState c.state)

/-- How the thing of a name looks: the component if there is one, else the state, the document or
the publisher. -/
def look (w : Session) (name : String) : Sight :=
  match w.names.components.lookup name, w.names.states.lookup name,
      w.names.documents.lookup name, w.names.publishers.lookup name with
  | some c, _, _, _ => w.lookAtComponent c
  | none, some i, _, _ => .state (w.lookAtState i)
  | none, none, some i, _ => .document ((w.document i).markup Document.root)
  | none, none, none, some p => .publisher (p.subscribers w.isLive)
  | none, none, none, none => .nothing

/-- What there is to tell of a step. -/
structure StepReport where
  answer : Answer
  log : List LogEntry
  trace : List TraceEvent
  sights : List Sight

/-- Takes the steps of a script in turn. The report on each says how the watched things look after
it. -/
def play (watched : List String) : List Step → Session → List StepReport × Session
  | [], w => ([], w)
  | s :: rest, w =>
    let (answer, w) := { w with log := [], trace := [] }.step s
    let report : StepReport :=
      { answer
        log := w.log
        trace := w.trace
        sights := watched.map w.look }
    let (reports, w) := play watched rest w
    (report :: reports, w)

end LiveText.Session
