import LiveText.Component.Options
import LiveText.Reactive.Collector
import LiveText.Session.Answer
import LiveText.Session.Step
import LiveText.State.Basic
import LiveText.Trace

/-!
# Sessions

A session holds everything that its steps have made, and the names under which it is known. Things
are numbered in the order in which they were made and stay where they are; dropping one takes a
name away. A subscriber lives as long as something keeps it: a name, the set of bindings that it
belongs to, or a step that is being taken. A set of bindings lives as long as a name or such a step
keeps it.

## Main definitions

- `Subscriber`, `Component`, `Names`, `Session`.
- `Session.isLive`, `Session.isAlive`: which subscribers and which sets of bindings live.
- `Session.require`: the thing of a name, or a refusal.
-/

namespace LiveText

namespace Session

/-- The identity of a set of bindings: the order in which such sets were made. -/
abbrev BindingSetId := Nat

/-- What a subscriber does when it is told of a change. -/
inductive Callback where
  /-- It takes the steps of a program, until it has been told `limit` times. It has been told
  `runs` times so far. -/
  | program (steps : List Step) (limit runs : Nat)
  /-- It renders a binding. -/
  | binding (set : BindingSetId) (index : Nat)
deriving Repr

/-- A subscriber, with the name by which answers call it. -/
structure Subscriber where
  label : Option String
  callback : Callback
deriving Repr

/-- A component: a state bound to the texts below an element of a document. -/
structure Component where
  options : Options
  document : DocumentId
  el : NodeId
  state : StateId
  proxy : Proxy
  collector : CollectorId
  bindings : BindingSetId
deriving Repr

/-- A document, and the nodes of it that compilations have made for their own use. -/
structure OpenDocument where
  document : Document
  scratch : List NodeId := []
deriving Inhabited, Repr

/-- What is known by name. -/
structure Names where
  subscribers : Entries SubscriberId := []
  publishers : Entries Publisher := []
  collectors : Entries CollectorId := []
  states : Entries StateId := []
  proxies : Entries Proxy := []
  properties : Entries PropertyHandle := []
  templates : Entries Template := []
  documents : Entries DocumentId := []
  components : Entries Component := []
  compiled : Entries BindingSetId := []

/-- What a step that is being taken keeps alive. -/
inductive Holding where
  | subscriber (s : SubscriberId)
  | bindings (set : BindingSetId)
deriving DecidableEq, Repr

end Session

/-- Everything that steps have made, and what has been told about it. -/
structure Session where
  subscribers : Array Session.Subscriber := #[]
  collectors : Array Collector := #[]
  states : Array State := #[]
  documents : Array Session.OpenDocument := #[]
  bindingSets : Array BindingSet := #[]
  names : Session.Names := {}
  /-- What the steps that are being taken keep alive. -/
  held : List Session.Holding := []
  log : List Session.LogEntry := []
  trace : List TraceEvent := []

namespace Session

/-! ## Reading -/

/-- The state with a number. -/
def state (w : Session) (i : StateId) : State :=
  w.states[i]?.getD {}

/-- The collector with a number. -/
def collector (w : Session) (i : CollectorId) : Collector :=
  w.collectors[i]?.getD {}

/-- The document with a number. -/
def document (w : Session) (i : DocumentId) : Document :=
  (w.documents[i]?.getD default).document

/-- The bindings of a set. -/
def bindings (w : Session) (i : BindingSetId) : BindingSet :=
  w.bindingSets[i]?.getD []

/-- The binding at a place in a set. -/
def binding? (w : Session) (set : BindingSetId) (index : Nat) : Option Binding :=
  (w.bindings set)[index]?

/-- The name by which answers call a subscriber. -/
def labelOf (w : Session) (s : SubscriberId) : String :=
  (w.subscribers[s]?.bind Subscriber.label).getD "?"

/-! ## Who lives -/

/-- Whether anything keeps a set of bindings. -/
def isAlive (w : Session) (set : BindingSetId) : Bool :=
  w.names.components.any (fun (_, c) => c.bindings == set) ||
    w.names.compiled.any (fun (_, i) => i == set) ||
    w.held.contains (.bindings set)

/-- Whether anything keeps a subscriber. -/
def isLive (w : Session) (s : SubscriberId) : Bool :=
  w.names.subscribers.any (fun (_, i) => i == s) ||
    w.held.contains (.subscriber s) ||
    match w.subscribers[s]?.map Subscriber.callback with
    | some (.binding set _) => w.isAlive set
    | _ => false

/-! ## Changing -/

/-- Adds an event to the trace. -/
def emit (w : Session) (event : TraceEvent) : Session :=
  { w with trace := w.trace ++ [event] }

/-- Logs what a subscriber has done. -/
def record (w : Session) (entry : LogEntry) : Session :=
  { w with log := w.log ++ [entry] }

/-- Changes the names. -/
def rename (w : Session) (f : Names → Names) : Session :=
  { w with names := f w.names }

/-- Changes a state. -/
def setState (w : Session) (i : StateId) (st : State) : Session :=
  { w with states := w.states.setIfInBounds i st }

/-- Changes a collector. -/
def setCollector (w : Session) (i : CollectorId) (c : Collector) : Session :=
  { w with collectors := w.collectors.setIfInBounds i c }

/-- Changes a document. -/
def modifyDocument (w : Session) (i : DocumentId) (f : Document → Document) : Session :=
  { w with documents := w.documents.modify i fun d => { d with document := f d.document } }

/-- Changes a binding. -/
def modifyBinding (w : Session) (set : BindingSetId) (index : Nat) (f : Binding → Binding) :
    Session :=
  { w with bindingSets := w.bindingSets.modify set fun bs => bs.modify index f }

/-- A new subscriber, with its number. -/
def newSubscriber (w : Session) (s : Subscriber) : SubscriberId × Session :=
  (w.subscribers.size, { w with subscribers := w.subscribers.push s })

/-- A new collector, with its number. -/
def newCollector (w : Session) : CollectorId × Session :=
  (w.collectors.size, { w with collectors := w.collectors.push {} })

/-- A new document, with its number. -/
def newDocument (w : Session) (d : Document) : DocumentId × Session :=
  (w.documents.size, { w with documents := w.documents.push { document := d } })

/-- A new set of bindings without any, with its number. -/
def newBindingSet (w : Session) : BindingSetId × Session :=
  (w.bindingSets.size, { w with bindingSets := w.bindingSets.push [] })

/-- Adds a binding to a set. -/
def addBinding (w : Session) (set : BindingSetId) (b : Binding) : Session :=
  { w with bindingSets := w.bindingSets.modify set (· ++ [b]) }

/-- The state of a value, with its number. -/
def observe (w : Session) (data : Value) : StateId × Session :=
  let st := State.observe data
  let w := if data.isObject then w else w.emit (.emptyState data.kind)
  let w := w.emit (.stateMade st.size)
  (w.states.size, { w with states := w.states.push st })

/-- Gives a subscriber the name by which answers call it. -/
def setLabel (w : Session) (s : SubscriberId) (label : String) : Session :=
  { w with subscribers := w.subscribers.modify s fun x => { x with label := some label } }

/-- Keeps things alive on top of those that are kept already. -/
def hold (w : Session) (holdings : List Holding) : Session :=
  { w with held := holdings ++ w.held }

/-- Keeps alive what another moment has kept. -/
def holdAs (w before : Session) : Session :=
  { w with held := before.held }

/-! ## Names -/

/-- The thing of a name in a table. -/
def require {α : Type} (table : Table) (entries : Entries α) (name : String) : Except Refusal α :=
  match entries.lookup name with
  | some a => .ok a
  | none => .error (.missing table name)

/-- The collector of a name. The component of the name, if there is one, has the collector. -/
def requireCollector (w : Session) (name : String) : Except Refusal CollectorId :=
  match w.names.components.lookup name with
  | some c => .ok c.collector
  | none => require .collector w.names.collectors name

/-- The node of a document that a number names. Nodes that compilations have made for their own use
are out of reach. -/
def requireNode (w : Session) (document : DocumentId) (number : Int) : Except Refusal NodeId :=
  let page := w.documents[document]?.getD default
  let i := number.toNat
  if 0 ≤ number && i < page.document.size && !page.scratch.contains i then .ok i
  else .error (.noNode number)

end Session

end LiveText
