import LiveText.Document.Markup
import LiveText.Session.Compilation
import LiveText.Session.Inquiry

/-!
# Editing

The edits of a session: what each one changes and answers. An edit that is refused changes nothing,
and none sets a subscriber to work.

## Main definitions

- `Session.editDocument`: edits of a document.
- `Session.perform`: all edits.
-/

namespace LiveText.Session

/-! ## Documents -/

/-- Makes a node of a document. -/
def createNode (w : Session) (i : DocumentId) (create : Document → NodeId × Document) :
    Answer × Session :=
  let (node, d) := create (w.document i)
  (.number node, w.modifyDocument i fun _ => d)

/-- An edit of a document. -/
def editDocument (w : Session) (i : DocumentId) : DocumentEdit → Except Refusal (Answer × Session)
  | .createElement tag => .ok (w.createNode i (·.createElement tag))
  | .createText text => .ok (w.createNode i (·.createText text))
  | .createFragment => .ok (w.createNode i (·.createFragment))
  | .setAttribute number name value => do
    let node ← w.requireNode i number
    pure (.done, w.modifyDocument i (·.setAttribute node name value))
  | .setText number text => do
    let node ← w.requireNode i number
    pure (.done, w.modifyDocument i (·.setText node text))
  | .detach number => do
    let node ← w.requireNode i number
    pure (.done, w.modifyDocument i (·.detach node))
  | .append number childNumber => do
    let node ← w.requireNode i number
    let child ← w.requireNode i childNumber
    if (w.document i).isAboveOrEqual child node then .error .cycle
    else pure (.done, w.modifyDocument i (·.append node child))
  | .moveFirstChild number => do
    let node ← w.requireNode i number
    match (w.document i).moveFirstChild? node with
    | some (child, d) => pure (.optionalNumber (some child), w.modifyDocument i fun _ => d)
    | none => pure (.optionalNumber none, w)
  | .appendMarkup number markup => do
    let node ← w.requireNode i number
    let (added, d) := (w.document i).appendMarkup node markup
    pure (.numbers added, w.modifyDocument i fun _ => d)
  | .findFirst selector =>
    match (w.document i).queryFirst? selector with
    | some node => .ok (.optionalNumber (some node), w)
    | none => .ok (.optionalNumber none, w.emit (.noMatch selector))

/-! ## Names -/

/-- A table without a name, and whether it was there. -/
def dropFrom {α : Type} (entries : Entries α) (name : String) : Bool × Entries α :=
  ((entries.lookup name).isSome, entries.erase name)

/-- Drops the thing of a name. A component and a compiled set of one name go together. -/
def drop (w : Session) (what name : String) : Except Refusal (Answer × Session) :=
  match what with
  | "sub" =>
    let (found, rest) := dropFrom w.names.subscribers name
    .ok (.flag found, w.rename fun names => { names with subscribers := rest })
  | "pub" =>
    let (found, rest) := dropFrom w.names.publishers name
    .ok (.flag found, w.rename fun names => { names with publishers := rest })
  | "state" =>
    let (found, rest) := dropFrom w.names.states name
    .ok (.flag found, w.rename fun names => { names with states := rest })
  | "app" =>
    let (mounted, components) := dropFrom w.names.components name
    let (compiled, sets) := dropFrom w.names.compiled name
    .ok (.flag (mounted || compiled),
      w.rename fun names => { names with components, compiled := sets })
  | _ => .error (.cannotDrop what)

/-- Gives a publisher a name. -/
def namePublisher (w : Session) (name : String) (p : Publisher) : Session :=
  w.rename fun names => { names with publishers := names.publishers.insert name p }

/-- Gives a state a name. -/
def nameState (w : Session) (name : String) (i : StateId) : Session :=
  w.rename fun names => { names with states := names.states.insert name i }

/-! ## Properties -/

/-- Reads a property of a state on behalf of whoever is collecting. -/
def readTracked (w : Session) (i : StateId) (p : Path) (collector : CollectorId) :
    Answer × Session :=
  let (found, st) := (w.state i).readTracked w.isLive (w.collector collector).active p
  (.ofExcept .value found, w.setState i st)

/-- The proxy that a property handle is taken from. -/
def requireSource (w : Session) : PropertySource → Except Refusal Proxy
  | .proxy name => require .proxy w.names.proxies name
  | .component name => (require .app w.names.components name).map Component.proxy

/-- Takes a property handle through a proxy and down along fields, and gives it a name. A key that
the proxy does not have leaves the name as it was. -/
def takeProperty (w : Session) (name : String) (p : Proxy) (key : String) (fields : List String) :
    Answer × Session :=
  match p.property key with
  | .error fault => (.fault fault, w)
  | .ok h =>
    let h := fields.foldl PropertyHandle.field h
    (.path h.path,
      w.rename fun names => { names with properties := names.properties.insert name h })

/-! ## Components -/

/-- The options of a component. -/
def OptionsSource.read : OptionsSource → Except Fault Options
  | .given el data => .ok { el, data }
  | .json text => Options.ofJson text
  | .toml text => Options.ofToml text

/-- Makes a component and gives it, its state and its proxy a name. If none can be made, the name
stays as it was. -/
def mountAs (w : Session) (name : String) (document : DocumentId) (options : Options) :
    Answer × Session :=
  match w.mount document options with
  | (.error fault, w) => (.fault fault, w)
  | (.ok c, w) =>
    let w := (w.labelBindings name c.bindings).rename fun names =>
      { names with
        components := names.components.insert name c
        states := names.states.insert name c.state
        proxies := names.proxies.insert name c.proxy }
    (.mounted c.el (w.statuses c.bindings (w.document document)), w)

/-- Compiles the texts below a node and gives the bindings a name. If they cannot be compiled, the
name stays as it was. -/
def compileAs (w : Session) (name : String) (document : DocumentId) (node : NodeId)
    (state : StateId) (collector : CollectorId) : Answer × Session :=
  match w.compile document node state collector with
  | (.error fault, w) => (.fault fault, w)
  | (.ok set, w) =>
    let w := (w.labelBindings name set).rename fun names =>
      { names with compiled := names.compiled.insert name set }
    (.bindings (w.statuses set (w.document document)), w)

/-- Renders the binding at a place in a set once more. -/
def refresh (w : Session) (set : BindingSetId) (index : Nat) : Except Refusal (Answer × Session) :=
  match w.binding? set index with
  | none => .error .noBinding
  | some _ =>
    let (rendered, w) := w.renderBinding set index
    .ok (.ofExcept (fun _ => .done) rendered, w)

/-! ## All edits -/

/-- Carries out an edit, or tells why not. -/
def perform (w : Session) : Edit → Except Refusal (Answer × Session)
  | .copySubscriber source target => do
    let s ← require .subscriber w.names.subscribers source
    pure (.done, w.rename fun names =>
      { names with subscribers := names.subscribers.insert target s })
  | .newPublisher name => .ok (.done, w.namePublisher name {})
  | .copyPublisher source target => do
    let p ← require .publisher w.names.publishers source
    pure (.done, w.namePublisher target p)
  | .register publisher subscriber => do
    let s ← require .subscriber w.names.subscribers subscriber
    let p ← require .publisher w.names.publishers publisher
    pure (.flag (!p.contains w.isLive s), w.namePublisher publisher (p.register w.isLive s))
  | .inherit publisher source => do
    let other ← require .publisher w.names.publishers source
    let p ← require .publisher w.names.publishers publisher
    pure (.done, w.namePublisher publisher (p.inherit w.isLive other))
  | .newCollector name =>
    let (c, w) := w.newCollector
    .ok (.done, w.rename fun names => { names with collectors := names.collectors.insert name c })
  | .track collector publisher => do
    let c ← w.requireCollector collector
    let p ← require .publisher w.names.publishers publisher
    let active := (w.collector c).active
    pure (.flag (p.isNewTo w.isLive active),
      w.namePublisher publisher (p.track w.isLive active))
  | .observe name data =>
    let (i, w) := w.observe data
    .ok (.done, w.nameState name i)
  | .copyState source target => do
    let i ← require .state w.names.states source
    pure (.done, w.nameState target i)
  | .readTracked state path collector => do
    let i ← require .state w.names.states state
    let c ← w.requireCollector collector
    pure (w.readTracked i path c)
  | .newProxy name state => do
    let i ← require .state w.names.states state
    let p : Proxy := ⟨i, (w.state i).roots⟩
    pure (.done, w.rename fun names => { names with proxies := names.proxies.insert name p })
  | .newProperty name source key fields => do
    let p ← w.requireSource source
    pure (w.takeProperty name p key fields)
  | .readProperty property collector => do
    let h ← require .property w.names.properties property
    let c ← w.requireCollector collector
    pure (w.readTracked h.state h.path c)
  | .newTemplate name text =>
    match Template.parse text with
    | none => .ok (.segments none, w)
    | some t => .ok (.segments (some t.segments),
        w.rename fun names => { names with templates := names.templates.insert name t })
  | .render template state collector => do
    let t ← require .template w.names.templates template
    let i ← require .state w.names.states state
    let c ← w.requireCollector collector
    let (rendered, w) := w.renderTemplate t i (w.collector c).active
    pure (.ofExcept .text rendered, w)
  | .mount name document options => do
    let d ← require .document w.names.documents document
    match options.read with
    | .error fault => pure (.fault fault, w)
    | .ok options => pure (w.mountAs name d options)
  | .compile name document number state collector => do
    let d ← require .document w.names.documents document
    let node ← w.requireNode d number
    let i ← require .state w.names.states state
    let c ← w.requireCollector collector
    pure (w.compileAs name d node i c)
  | .refresh app document index => do
    let (set, _) ← w.requireBindings app document
    w.refresh set index
  | .newDocument name markup =>
    let d := match markup with
      | some source => Document.parse source
      | none => Document.empty
    let (i, w) := w.newDocument d
    .ok (.number d.size,
      w.rename fun names => { names with documents := names.documents.insert name i })
  | .document name edit => do
    let i ← require .document w.names.documents name
    w.editDocument i edit
  | .drop what name => w.drop what name

end LiveText.Session
