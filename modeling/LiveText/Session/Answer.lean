import LiveText.Binding.Basic

/-!
# Answers

What the steps of a session answer, and why a step is not taken at all.

## Main definitions

- `Refusal`, `Refusal.message`: a step that cannot be taken, with the wording.
- `Answer`: what a step answers.
- `LogEntry`: what subscribers have done meanwhile.
-/

namespace LiveText.Session

/-- The tables of names. -/
inductive Table where
  | subscriber
  | publisher
  | collector
  | state
  | proxy
  | property
  | template
  | document
  | app
deriving DecidableEq, Repr

/-- The word for a table. -/
def Table.word : Table → String
  | .subscriber => "sub"
  | .publisher => "pub"
  | .collector => "collector"
  | .state => "state"
  | .proxy => "proxy"
  | .property => "prop"
  | .template => "template"
  | .document => "doc"
  | .app => "app"

/-- Why a step is not taken. -/
inductive Refusal where
  /-- A table has no such name. -/
  | missing (table : Table) (name : String)
  /-- A document has no such node. -/
  | noNode (number : Int)
  /-- There are not so many bindings. -/
  | noBinding
  /-- A node would come to lie below itself. -/
  | cycle
  /-- Things of this kind cannot be dropped. -/
  | cannotDrop (what : String)
  /-- There is no such step. -/
  | unknownStep (verb : String)
deriving DecidableEq, Repr

/-- The wording of a refusal. -/
def Refusal.message : Refusal → String
  | .missing table name => "no " ++ table.word ++ " `" ++ name ++ "`"
  | .noNode number => "no node " ++ toString number
  | .noBinding => "no such binding"
  | .cycle => "append would make a cycle"
  | .cannotDrop what => "cannot drop `" ++ what ++ "`"
  | .unknownStep verb => "unknown step `" ++ verb ++ "`"

/-- What there is to know of a component: its mount element, the options it was made with, and the
keys of its proxy. -/
structure Profile where
  el : NodeId
  selector : String
  data : Value
  keys : List String
deriving Repr

/-- What a step answers. -/
inductive Answer where
  | done
  | flag (b : Bool)
  | number (n : Nat)
  | optionalNumber (n : Option Nat)
  | numbers (ns : List Nat)
  | text (s : String)
  | optionalText (s : Option String)
  | texts (ss : List String)
  | value (v : Value)
  | optionalValue (v : Option Value)
  | path (p : Path)
  | paths (ps : List Path)
  | segments (template : Option (List Segment))
  | size (n : Nat)
  | subscribers (ids : List SubscriberId)
  | collecting (active : Option SubscriberId)
  | nodeKind (kind : NodeKind)
  | bindings (statuses : List BindingStatus)
  | mounted (el : NodeId) (statuses : List BindingStatus)
  | profile (profile : Profile)
  /-- What the steps inside the step answer. -/
  | results (answers : List Answer)
  /-- The step, or the steps inside it, have been abandoned. -/
  | abandoned
  | fault (fault : Fault)
  | refused (refusal : Refusal)
deriving Inhabited, Repr

/-- The answer to something that has a fault or something to answer. -/
def Answer.ofExcept {α : Type} (f : α → Answer) : Except Fault α → Answer
  | .ok a => f a
  | .error e => .fault e

/-- What a subscriber has done. -/
inductive LogEntry where
  /-- The subscriber has been told. -/
  | told (subscriber : String)
  /-- A step of the program of the subscriber has been taken. -/
  | taken (subscriber : String) (answer : Answer)
deriving Repr

end LiveText.Session
