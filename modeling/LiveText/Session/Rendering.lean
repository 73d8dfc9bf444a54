import LiveText.Session.Basic

/-!
# Rendering

A template is rendered from a state on behalf of whoever is collecting. A binding collects for its
own subscriber, and what comes of it goes to the text node or into the binding's record of faults.

## Main definitions

- `Session.renderTemplate`.
- `Session.renderBinding`.
-/

namespace LiveText.Session

/-- Renders a template; whoever is collecting is registered with the properties that are read. -/
def renderTemplate (w : Session) (t : Template) (state : StateId)
    (active : Option SubscriberId) : Except Fault String × Session :=
  let (rendered, st) := t.renderWith (State.readTracked w.isLive active) (w.state state)
  (rendered, w.setState state st)

/-- Renders a binding. A collector that is busy refuses, which is the fault of this function and of
the binding. A template that cannot be rendered is the fault of the binding alone, whose node keeps
its text. Nothing else happens during a rendering, so the collector is not marked as busy. -/
def renderBinding (w : Session) (set : BindingSetId) (index : Nat) :
    Except Fault Unit × Session :=
  match w.binding? set index with
  | none => (.ok (), w)
  | some b =>
    match (w.collector b.collector).start b.subscriber with
    | .error fault =>
      (.error fault, (w.emit .collectionRefused).modifyBinding set index (·.fail fault))
    | .ok busy =>
      match w.renderTemplate b.template b.state busy.active with
      | (.ok text, w) =>
        let w := w.modifyDocument b.document (·.setText b.node text)
        (.ok (), (w.modifyBinding set index (·.succeed)).emit (.rendered b.node))
      | (.error fault, w) =>
        let w := w.emit (.renderFailed b.node b.template.source fault)
        (.ok (), w.modifyBinding set index (·.fail fault))

end LiveText.Session
