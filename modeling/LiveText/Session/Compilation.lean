import LiveText.Document.Selector
import LiveText.Session.Rendering

/-!
# Compilation

A compilation binds the texts below a node that have placeholders. The children of the node are
moved to a scratch fragment meanwhile, and then back. A component is a state made from options and
what a compilation makes of it below the mount element.

## Main definitions

- `Session.compile`.
- `Session.mount`.
-/

namespace LiveText.Session

/-- Binds a text node to a state, if its text is a template, and renders it. -/
def bindText (set : BindingSetId) (document : DocumentId) (state : StateId)
    (collector : CollectorId) (node : NodeId) (w : Session) : Except Fault Unit × Session :=
  match Template.parse ((w.document document).text node) with
  | none => (.ok (), w)
  | some template =>
    let index := (w.bindings set).length
    let (subscriber, w) := w.newSubscriber ⟨none, .binding set index⟩
    let w := w.addBinding set { document, node, template, state, collector, subscriber }
    w.renderBinding set index

/-- Binds text nodes one after the other, until one of them has a fault. -/
def bindTexts (set : BindingSetId) (document : DocumentId) (state : StateId)
    (collector : CollectorId) : List NodeId → Session → Except Fault Unit × Session
  | [], w => (.ok (), w)
  | node :: rest, w =>
    match bindText set document state collector node w with
    | (.ok (), w) => bindTexts set document state collector rest w
    | (.error fault, w) => (.error fault, w)

/-- A new fragment in a document, for the use of a compilation. -/
def newScratch (w : Session) (document : DocumentId) : NodeId × Session :=
  let (scratch, d) := (w.document document).createFragment
  (scratch, { w with
    documents := w.documents.modify document fun page =>
      { document := d, scratch := scratch :: page.scratch } })

/-- Binds the texts below a node of a document. The new set of bindings is kept alive while it is
made; afterwards whoever wants it has to keep it. -/
def compile (w : Session) (document : DocumentId) (node : NodeId) (state : StateId)
    (collector : CollectorId) : Except Fault BindingSetId × Session :=
  let (scratch, w) := (w.emit .compileBegun).newScratch document
  let w := w.modifyDocument document (·.moveChildren node scratch)
  let (set, w) := w.newBindingSet
  let texts := (w.document document).outerTexts scratch
  let (bound, after) := bindTexts set document state collector texts (w.hold [.bindings set])
  let w := (after.holdAs w).modifyDocument document (·.moveChildren scratch node)
  match bound with
  | .error fault => (.error fault, w)
  | .ok () =>
    let count := (w.bindings set).length
    (.ok set, (w.emit (.compileCounted count)).emit (.compiled count))

/-- Makes a component: a state of the data, a proxy of the state, and the bindings below the first
element that the selector matches. -/
def mount (w : Session) (document : DocumentId) (options : Options) :
    Except Fault Component × Session :=
  let (state, w) := (w.emit (.componentBegun options.el)).observe options.data
  let proxy : Proxy := ⟨state, (w.state state).roots⟩
  match (w.document document).queryFirst? options.el with
  | none => (.error (.invalidMountSelector options.el), w.emit (.noMatch options.el))
  | some el =>
    let (collector, w) := w.newCollector
    match w.compile document el state collector with
    | (.error fault, w) => (.error fault, w)
    | (.ok bindings, w) =>
      let properties := (w.state state).size
      let count := (w.bindings bindings).length
      ( .ok { options, document, el, state, proxy, collector, bindings },
        w.emit (.mounted proxy.keys.length properties count) )

/-- The name of a binding, from that of the component or compiled set that it belongs to. -/
def bindingLabel (name : String) (index : Nat) : String :=
  name ++ "[" ++ toString index ++ "]"

/-- Gives the subscribers of a set of bindings their names. -/
def labelBindings (w : Session) (name : String) (set : BindingSetId) : Session :=
  (w.bindings set).zipIdx.foldl
    (fun w (b, index) => w.setLabel b.subscriber (bindingLabel name index)) w

end LiveText.Session
