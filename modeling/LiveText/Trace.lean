import LiveText.Document.Basic
import LiveText.Fault

/-!
# Traces

What is told about the work as it is done: one event for each thing worth telling, each with a
level, a wording and named details.

## Main definitions

- `TraceEvent`, `TraceEvent.level`, `TraceEvent.message`, `TraceEvent.details`.
-/

namespace LiveText

/-- One thing worth telling. -/
inductive TraceEvent where
  /-- A component is being made at a selector. -/
  | componentBegun (el : String)
  /-- The texts below a node are being compiled. -/
  | compileBegun
  /-- So many bindings have come of a compilation. -/
  | compileCounted (bindings : Nat)
  /-- The data of a state is not an object. -/
  | emptyState (kind : String)
  /-- A state with so many properties has been made. -/
  | stateMade (properties : Nat)
  /-- A property with so many live subscribers has been written. -/
  | stateWritten (path : Path) (subscribers : Nat)
  /-- The text of a node has been rendered. -/
  | rendered (node : NodeId)
  /-- The text of a node could not be rendered. -/
  | renderFailed (node : NodeId) (template : String) (fault : Fault)
  /-- A collection was started while one was under way. -/
  | collectionRefused
  /-- A compilation has made so many bindings. -/
  | compiled (bindings : Nat)
  /-- A component has been made. -/
  | mounted (keys properties bindings : Nat)
  /-- A selector matches nothing. -/
  | noMatch (selector : String)
deriving DecidableEq, Repr

namespace TraceEvent

/-- The level of an event; stretches of work have levels of their own. -/
def level : TraceEvent → String
  | .componentBegun _ | .compileBegun => "SPAN"
  | .compileCounted _ => "RECORD"
  | .emptyState _ | .compiled _ | .mounted _ _ _ | .noMatch _ => "DEBUG"
  | .stateMade _ | .stateWritten _ _ | .rendered _ => "TRACE"
  | .renderFailed _ _ _ => "WARN"
  | .collectionRefused => "ERROR"

/-- The wording of an event, or the name of a stretch of work. -/
def message : TraceEvent → String
  | .componentBegun _ => "component.new"
  | .compileBegun | .compileCounted _ => "template.compile"
  | .emptyState _ => "observe target is not an object; state is empty"
  | .stateMade _ => "state instrumented"
  | .stateWritten _ _ => "state write"
  | .rendered _ => "binding rendered"
  | .renderFailed _ _ _ => "binding render failed; keeping previous text"
  | .collectionRefused => "reentrant dependency collection refused"
  | .compiled _ => "template compiled"
  | .mounted _ _ _ => "component mounted"
  | .noMatch _ => "selector matched no element"

/-- The details of an event, each with its name. -/
def details : TraceEvent → List (String × String)
  | .componentBegun el => [("el", el)]
  | .compileBegun | .collectionRefused => []
  | .compileCounted n | .compiled n => [("bindings", toString n)]
  | .emptyState kind => [("kind", kind)]
  | .stateMade n => [("properties", toString n)]
  | .stateWritten path n => [("path", path.text), ("subscribers", toString n)]
  | .rendered node => [("node", toString node)]
  | .renderFailed node template fault =>
    [ ("node", toString node), ("template", template), ("error", fault.message?.getD "") ]
  | .mounted keys properties bindings =>
    [ ("keys", toString keys), ("properties", toString properties),
      ("bindings", toString bindings) ]
  | .noMatch selector => [("selector", selector)]

end TraceEvent

end LiveText
