import LiveText.Session.Editing
import LiveText.Session.Run

/-!
# Execution

How the steps of a session are taken. A subscriber that is told of a change either renders its
binding or takes the steps of its program, and these may tell further subscribers, on top of those
that are being told already. How deep this goes is bounded beforehand: each run of a program uses
up one of the times that its subscriber may run it, and the subscribers that it can make are part
of the program.

## Main definitions

- `take`, `takeAll`: steps, given what subscribers do when they are told.
- `telling`: what a subscriber does, down to a depth.
- `Session.step`: one step of a session.
-/

namespace LiveText.Session

/-- What a subscriber does when it is told of a change. -/
abbrev Telling := SubscriberId → Run Unit

/-! ## Notification -/

/-- Tells subscribers one after the other. Each is kept alive until it has been told, and no
longer. -/
def tellEach (telling : Telling) : List SubscriberId → Run Unit
  | [] => pure ()
  | s :: rest => do
    (telling s).holding ((s :: rest).map .subscriber)
    tellEach telling rest

/-- Tells the live subscribers of a publisher, as they are at the beginning. -/
def notify (telling : Telling) (p : Publisher) : Run Unit :=
  fun w => tellEach telling (p.subscribers w.isLive) w

/-- Writes to a property and notifies its subscribers. -/
def write (telling : Telling) (h : PropertyHandle) (v : Value) : Run Answer :=
  fun w =>
    match (w.state h.state).assign? w.isLive h.path v with
    | none => (.returned (.fault (.unknownProperty h.path)), w)
    | some (p, st) =>
      let w := (w.setState h.state st).emit (.stateWritten h.path (p.count w.isLive))
      (do notify telling p; pure .done : Run Answer) w

/-! ## What steps are about -/

/-- The property that is written to, and what the step keeps alive meanwhile. -/
def requireTarget (w : Session) :
    WriteTarget → Except Refusal (Except Fault PropertyHandle × List Holding)
  | .state name path => do
    let i ← require .state w.names.states name
    pure (.ok ⟨i, path⟩, [])
  | .proxy name key => do
    let p ← require .proxy w.names.proxies name
    pure (p.property key, [])
  | .property name => do
    let h ← require .property w.names.properties name
    pure (.ok h, [])
  | .component name key => do
    let c ← require .app w.names.components name
    pure (c.proxy.property key, [.bindings c.bindings])

/-- What a step keeps alive that reaches a collector by name: the component, if it is one's. -/
def collectorHolding (w : Session) (name : String) : List Holding :=
  match w.names.components.lookup name with
  | some c => [.bindings c.bindings]
  | none => []

/-- The subscriber and the collector of a collection. -/
def requireCollection (w : Session) (collector subscriber : String) :
    Except Refusal (SubscriberId × CollectorId) := do
  let s ← require .subscriber w.names.subscribers subscriber
  let c ← w.requireCollector collector
  pure (s, c)

/-- Makes a subscriber that takes the steps of a program, and gives it a name. -/
def addSubscriber (w : Session) (name : String) (program : List Step) (limit : Nat) : Session :=
  let (s, w) := w.newSubscriber ⟨some name, .program program limit 0⟩
  w.rename fun names => { names with subscribers := names.subscribers.insert name s }

/-! ## Steps -/

mutual
/-- Takes a step. -/
def take (telling : Telling) : Step → Run Answer
  | .ask question => fun w =>
    match w.inquire question with
    | .ok answer => (.returned answer, w)
    | .error refusal => (.returned (.refused refusal), w)
  | .edit edit => fun w =>
    match w.perform edit with
    | .ok (answer, w) => (.returned answer, w)
    | .error refusal => (.returned (.refused refusal), w)
  | .newSubscriber name program limit => fun w =>
    (.returned .done, w.addSubscriber name program limit)
  | .update subscriber => fun w =>
    match require .subscriber w.names.subscribers subscriber with
    | .ok s => Run.holding [.subscriber s] (do telling s; pure .done) w
    | .error refusal => (.returned (.refused refusal), w)
  | .notify publisher => fun w =>
    match require .publisher w.names.publishers publisher with
    | .ok p => (do notify telling p; pure .done : Run Answer) w
    | .error refusal => (.returned (.refused refusal), w)
  | .write target value => fun w =>
    match w.requireTarget target with
    | .ok (.ok h, holdings) => (write telling h value).holding holdings w
    | .ok (.error fault, _) => (.returned (.fault fault), w)
    | .error refusal => (.returned (.refused refusal), w)
  | .collect collector subscriber body => fun w =>
    match w.requireCollection collector subscriber with
    | .ok (s, c) =>
      match (w.collector c).start s with
      | .ok busy =>
        let run : Run Answer := do pure (.results (← takeAll telling body))
        (run.collecting c busy).holding (.subscriber s :: w.collectorHolding collector) w
      | .error fault => (.returned (.fault fault), w.emit .collectionRefused)
    | .error refusal => (.returned (.refused refusal), w)
  | .abandon => fun w => (.abandoned, w)
  | .recover body => fun w =>
    match takeAll telling body w with
    | (.returned answers, w) => (.returned (.results answers), w)
    | (.abandoned, w) => (.returned .abandoned, w)
  | .unknown verb => pure (.refused (.unknownStep verb))
termination_by structural step => step

/-- Takes steps one after the other. -/
def takeAll (telling : Telling) : List Step → Run (List Answer)
  | [] => pure []
  | step :: rest => do
    let answer ← take telling step
    let answers ← takeAll telling rest
    pure (answer :: answers)
termination_by structural steps => steps
end

/-! ## Subscribers -/

/-- Takes the steps of the program of a subscriber and logs each of them. -/
def runProgram (telling : Telling) (label : String) : List Step → Run Unit
  | [] => pure ()
  | step :: rest => do
    let answer ← take telling step
    Run.change (·.record (.taken label answer))
    runProgram telling label rest

/-- Counts that a subscriber has been told. -/
def countRun (w : Session) (s : SubscriberId) : Session :=
  { w with subscribers := w.subscribers.modify s fun x =>
      match x.callback with
      | .program steps limit runs => { x with callback := .program steps limit (runs + 1) }
      | .binding _ _ => x }

/-- What a subscriber does, given how programs are run. The subscriber of a binding that is gone
does nothing. A program is run no more often than its limit says. -/
def respond (run : String → List Step → Run Unit) (s : SubscriberId) : Run Unit :=
  fun w =>
    match w.subscribers[s]?.map Subscriber.callback with
    | none => (.returned (), w)
    | some (.binding set index) =>
      if w.isAlive set then (.returned (), (w.renderBinding set index).2) else (.returned (), w)
    | some (.program steps limit runs) =>
      let label := w.labelOf s
      let w := (w.countRun s).record (.told label)
      if runs < limit then run label steps w else (.returned (), w)

/-- What a subscriber does when programs are nested at most `depth` deep. Deeper ones are not
run. -/
def telling : Nat → Telling
  | 0, s => respond (fun _ _ => pure ()) s
  | depth + 1, s => respond (runProgram (telling depth)) s

/-! ## Sessions -/

/-- The runs of programs that a subscriber can still bring into being. -/
def Subscriber.promised (s : Subscriber) : Nat :=
  match s.callback with
  | .program steps limit runs => (limit - runs) * (promisedAll steps + 1)
  | .binding _ _ => 0

/-- The runs of programs that the subscribers can still bring into being. -/
def promised (w : Session) : Nat :=
  w.subscribers.toList.foldr (fun s n => s.promised + n) 0

/-- Takes a step of the session itself. Programs cannot be nested deeper than there can be runs of
programs. A step that is abandoned answers so. -/
def step (w : Session) (s : Step) : Answer × Session :=
  match take (telling (w.promised + s.promised)) s w with
  | (.returned answer, w) => (answer, w)
  | (.abandoned, w) => (.abandoned, w)

end LiveText.Session
