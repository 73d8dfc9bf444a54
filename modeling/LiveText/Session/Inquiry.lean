import LiveText.Document.Selector
import LiveText.Document.Writer
import LiveText.Session.Basic

/-!
# Inquiries

The answers to questions. A question changes nothing.

## Main definitions

- `Session.inquire`.
-/

namespace LiveText.Session

/-- The value of a top-level property, read through a proxy. -/
def readThrough (w : Session) (p : Proxy) (key : String) : Except Fault Value :=
  match p.property key with
  | .error fault => .error fault
  | .ok h =>
    match (w.state h.state).valueAt? h.path with
    | some v => .ok v
    | none => .error (.unknownProperty h.path)

/-- What there is to see of the bindings of a set whose nodes are in a document. -/
def statuses (w : Session) (set : BindingSetId) (d : Document) : List BindingStatus :=
  (w.bindings set).map (·.status d)

/-- The set of bindings of a component or compiled set, and the document where the texts of their
nodes are. A component knows its document; for a compiled set the document is named. -/
def requireBindings (w : Session) (app document : String) :
    Except Refusal (BindingSetId × DocumentId) :=
  match w.names.components.lookup app with
  | some c => .ok (c.bindings, c.document)
  | none => do
    let set ← require .app w.names.compiled app
    let d ← require .document w.names.documents document
    pure (set, d)

/-- What is known of a component. -/
def Component.knownAs (c : Component) : Profile :=
  { el := c.el
    selector := c.options.el
    data := c.options.data
    keys := c.proxy.keys }

namespace PublisherQuestion

/-- The answer to a question about a publisher. -/
def answer (live : Liveness) (p : Publisher) : PublisherQuestion → Answer
  | .subscribers => .subscribers (p.subscribers live)
  | .size => .size (p.count live)

end PublisherQuestion

namespace StateQuestion

/-- The answer to a question about a state. -/
def answer (live : Liveness) (st : State) : StateQuestion → Answer
  | .value path => .optionalValue (st.valueAt? path)
  | .keys => .texts st.roots
  | .paths => .paths st.paths
  | .snapshot => .value st.snapshot
  | .size => .size st.size
  | .contains path => .flag (st.contains path)
  | .subscriberCount path => .number (st.subscriberCount live path)

end StateQuestion

namespace NodeQuestion

/-- The answer to a question about a node. -/
def answer (d : Document) (i : NodeId) : NodeQuestion → Answer
  | .kind => .nodeKind (d.data i).kind
  | .tag => .optionalText (d.tag? i)
  | .attribute name => .optionalText (d.attribute? i name)
  | .text => .text (d.text i)
  | .parent => .optionalNumber (d.parent? i)
  | .children => .numbers (d.children i)
  | .textContent => .text (d.textContent i)
  | .textNodes => .numbers (d.textNodes i)
  | .markup => .text (d.markup i)
  | .innerMarkup => .text (d.innerMarkup i)

end NodeQuestion

/-- The answer to a question about a proxy. -/
def inquireProxy (w : Session) (p : Proxy) : ProxyQuestion → Answer
  | .keys => .texts p.keys
  | .has key => .flag (p.has key)
  | .value key => .ofExcept .value (w.readThrough p key)

/-- The answer to a question about a component. -/
def inquireComponent (w : Session) (c : Component) : ComponentQuestion → Answer
  | .value key => .ofExcept .value (w.readThrough c.proxy key)
  | .profile => .profile c.knownAs

/-- The answer to a question about a document. -/
def inquireDocument (w : Session) (i : DocumentId) : DocumentQuestion → Except Refusal Answer
  | .size => .ok (.number (w.document i).size)
  | .matching selector => .ok (.numbers ((w.document i).queryAll selector))
  | .node number question => do
    let node ← w.requireNode i number
    pure (question.answer (w.document i) node)

/-- The answer to a question, or why there is none. -/
def inquire (w : Session) : Question → Except Refusal Answer
  | .sameSubscriber subscriber other => do
    let s ← require .subscriber w.names.subscribers subscriber
    let t ← require .subscriber w.names.subscribers other
    pure (.flag (s == t))
  | .isRegistered publisher subscriber => do
    let s ← require .subscriber w.names.subscribers subscriber
    let p ← require .publisher w.names.publishers publisher
    pure (.flag (p.contains w.isLive s))
  | .publisher name question => do
    let p ← require .publisher w.names.publishers name
    pure (question.answer w.isLive p)
  | .collecting collector => do
    let c ← w.requireCollector collector
    pure (.collecting (w.collector c).active)
  | .state name question => do
    let i ← require .state w.names.states name
    pure (question.answer w.isLive (w.state i))
  | .proxy name question => do
    let p ← require .proxy w.names.proxies name
    pure (w.inquireProxy p question)
  | .property name => do
    let h ← require .property w.names.properties name
    pure (.optionalValue ((w.state h.state).valueAt? h.path))
  | .component name question => do
    let c ← require .app w.names.components name
    pure (w.inquireComponent c question)
  | .bindings app document => do
    let (set, d) ← w.requireBindings app document
    pure (.bindings (w.statuses set (w.document d)))
  | .document name question => do
    let i ← require .document w.names.documents name
    w.inquireDocument i question

end LiveText.Session
