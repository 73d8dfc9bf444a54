import LiveText.Path
import LiveText.Value.Basic

/-!
# Steps

What a session can be told to do. Steps are plain data and name the objects that they are about;
whether there is such an object is found out when the step is taken. They come in three kinds.
A question changes nothing. An edit is done at once. The others may set subscribers to work, and
with them the steps that these are made of.

## Main definitions

- `Question`, `Edit`, `Step`.
- `Step.promised`: how many programs of subscribers the step can bring into being.
-/

namespace LiveText.Session

/-! ## Questions -/

/-- Questions about a publisher. -/
inductive PublisherQuestion where
  | subscribers
  | size
deriving DecidableEq, Repr

/-- Questions about a state. -/
inductive StateQuestion where
  | value (path : Path)
  | keys
  | paths
  | snapshot
  | size
  | contains (path : Path)
  | subscriberCount (path : Path)
deriving DecidableEq, Repr

/-- Questions about a proxy. -/
inductive ProxyQuestion where
  | keys
  | has (key : String)
  | value (key : String)
deriving DecidableEq, Repr

/-- Questions about a component. -/
inductive ComponentQuestion where
  | value (key : String)
  | profile
deriving DecidableEq, Repr

/-- Questions about a node of a document. -/
inductive NodeQuestion where
  | kind
  | tag
  | attribute (name : String)
  | text
  | parent
  | children
  | textContent
  | textNodes
  | markup
  | innerMarkup
deriving DecidableEq, Repr

/-- Questions about a document as a whole. -/
inductive DocumentQuestion where
  | size
  | matching (selector : String)
  | node (number : Int) (question : NodeQuestion)
deriving DecidableEq, Repr

/-- A question. -/
inductive Question where
  | sameSubscriber (subscriber other : String)
  | isRegistered (publisher subscriber : String)
  | publisher (name : String) (question : PublisherQuestion)
  | collecting (collector : String)
  | state (name : String) (question : StateQuestion)
  | proxy (name : String) (question : ProxyQuestion)
  | property (name : String)
  | component (name : String) (question : ComponentQuestion)
  | bindings (app document : String)
  | document (name : String) (question : DocumentQuestion)
deriving DecidableEq, Repr

/-! ## Edits -/

/-- Where the options of a component come from. -/
inductive OptionsSource where
  | given (el : String) (data : Value)
  | json (text : String)
  | toml (text : String)
deriving Repr

/-- What a property handle is taken from. -/
inductive PropertySource where
  | proxy (name : String)
  | component (name : String)
deriving DecidableEq, Repr

/-- Edits of a document. -/
inductive DocumentEdit where
  | createElement (tag : String)
  | createText (text : String)
  | createFragment
  | setAttribute (node : Int) (name value : String)
  | setText (node : Int) (text : String)
  | detach (node : Int)
  | append (node child : Int)
  | moveFirstChild (node : Int)
  | appendMarkup (node : Int) (markup : String)
  | findFirst (selector : String)
deriving DecidableEq, Repr

/-- An edit. -/
inductive Edit where
  | copySubscriber (source target : String)
  | newPublisher (name : String)
  | copyPublisher (source target : String)
  | register (publisher subscriber : String)
  | inherit (publisher source : String)
  | newCollector (name : String)
  | track (collector publisher : String)
  | observe (name : String) (data : Value)
  | copyState (source target : String)
  | readTracked (state : String) (path : Path) (collector : String)
  | newProxy (name state : String)
  | newProperty (name : String) (source : PropertySource) (key : String) (fields : List String)
  | readProperty (property collector : String)
  | newTemplate (name text : String)
  | render (template state collector : String)
  | mount (name document : String) (options : OptionsSource)
  | compile (name document : String) (node : Int) (state collector : String)
  | refresh (app document : String) (index : Nat)
  | newDocument (name : String) (markup : Option String)
  | document (name : String) (edit : DocumentEdit)
  | drop (what name : String)
deriving Repr

/-! ## Steps -/

/-- What is written to. -/
inductive WriteTarget where
  | state (name : String) (path : Path)
  | proxy (name key : String)
  | property (name : String)
  | component (name key : String)
deriving DecidableEq, Repr

/-- A step. -/
inductive Step where
  | ask (question : Question)
  | edit (edit : Edit)
  /-- Makes a subscriber. The first `limit` times that it is told of something, it takes the steps
  of its program. -/
  | newSubscriber (name : String) (program : List Step) (limit : Nat)
  | update (subscriber : String)
  | notify (publisher : String)
  | write (target : WriteTarget) (value : Value)
  /-- Takes steps while a collector is collecting for a subscriber. -/
  | collect (collector subscriber : String) (body : List Step)
  /-- Gives up everything under way, up to the nearest step that recovers. -/
  | abandon
  /-- Takes steps and goes on even if they are abandoned. -/
  | recover (body : List Step)
  | unknown (verb : String)
deriving Inhabited, Repr

mutual
/-- The runs of programs that a step can bring into being: each subscriber that it makes may take
the steps of its program as often as its limit says, and those may make further ones. -/
def Step.promised : Step → Nat
  | .newSubscriber _ program limit => limit * (promisedAll program + 1)
  | .collect _ _ body | .recover body => promisedAll body
  | .ask _ | .edit _ | .update _ | .notify _ | .write _ _ | .abandon | .unknown _ => 0
termination_by structural step => step

/-- The runs of programs that steps can bring into being, taken once each. -/
def promisedAll : List Step → Nat
  | [] => 0
  | step :: rest => step.promised + promisedAll rest
termination_by structural steps => steps
end

end LiveText.Session
