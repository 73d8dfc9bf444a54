import Mathlib
import LiveText.Proofs.Document.Texts
import LiveText.Proofs.Session.Compilation
import LiveText.Proofs.Session.Rendering
import LiveText.Proofs.Session.Writing

/-!
# Freshness

What holds of all bindings at every moment, also while subscribers are being told: a living binding
without a fault that does not wait to be told is registered with everything on the ways of its
template, and shows what its template shows for the data as it is now. A write makes those wait
whose ways it touches; being told, a binding is rendered and is fresh again, or has a fault.

The text is promised for one node of one document, on which nothing but its binding writes.

## Main definitions

- `SoleWriter`: no other binding of the node has ever been rendered.
- `Current`: a binding of which something is promised.
- `Fresh`: the invariant.
- `Keeps`: changes that cannot be seen from bindings.

## Main statements

- `Fresh.keeps`: such changes keep the invariant.
- `fresh_written`: after a write, the readers of the property wait.
- `fresh_renderBinding`: a binding that is rendered no longer waits.
-/

namespace LiveText.Session

/-- Every other binding of the node of a binding has yet to be rendered for the first time. -/
def SoleWriter (w : Session) (set : BindingSetId) (index : Nat) (b : Binding) : Prop :=
  ∀ set' index' b', w.binding? set' index' = some b' → b'.document = b.document →
    b'.node = b.node → ¬ (set' = set ∧ index' = index) → b'.renders = 0

/-- The binding at a place of a living set has no fault, and its subscriber does not wait. -/
structure Current (w : Session) (waiting : List SubscriberId) (set : BindingSetId) (index : Nat)
    (b : Binding) : Prop where
  there : w.binding? set index = some b
  alive : w.isAlive set = true
  sound : b.lastFault = none
  notWaiting : b.subscriber ∉ waiting

/-- What holds of all bindings while subscribers wait to be told, and of the text of a node of a
document that only its binding writes. -/
structure Fresh (document : DocumentId) (node : NodeId) (w : Session)
    (waiting : List SubscriberId) : Prop where
  named : ∀ e ∈ w.names.states, e.2 < w.states.size
  represents : ∀ i, ∃ tree, (w.state i).Represents tree
  linked : ∀ set index b, w.binding? set index = some b →
    w.subscribers[b.subscriber]?.map Subscriber.callback = some (.binding set index) ∧
    b.state < w.states.size ∧ ∃ text, (w.document b.document).data b.node = .text text
  registered : ∀ set index b, Current w waiting set index b → ∀ path ∈ b.template.paths,
    ∀ q, q ≠ Path.root → q.LeadsTo path →
      b.subscriber ∈ ((w.state b.state).publisherAt q).arrivals
  shown : ∀ set index b, Current w waiting set index b → b.document = document → b.node = node →
    SoleWriter w set index b →
      b.template.shown (w.state b.state).snapshot = .ok ((w.document document).text node)

variable {document : DocumentId} {node : NodeId} {w w' : Session} {waiting : List SubscriberId}

namespace Fresh

/-- The more subscribers wait, the less is promised. -/
theorem mono (h : Fresh document node w waiting) {waiting' : List SubscriberId}
    (hsub : ∀ s ∈ waiting, s ∈ waiting') : Fresh document node w waiting' where
  named := h.named
  represents := h.represents
  linked := h.linked
  registered set index b hb := h.registered set index b
    { hb with notWaiting := fun hs => hb.notWaiting (hsub _ hs) }
  shown set index b hb := h.shown set index b
    { hb with notWaiting := fun hs => hb.notWaiting (hsub _ hs) }

/-- The subscriber of a living binding lives. -/
theorem isLive (h : Fresh document node w waiting) {set : BindingSetId} {index : Nat} {b : Binding}
    (hb : w.binding? set index = some b) (halive : w.isAlive set = true) :
    w.isLive b.subscriber = true :=
  isLive_of_binding (h.linked set index b hb).1 halive

/-- A subscriber belongs to one binding at most. -/
theorem place_unique (h : Fresh document node w waiting) {set set' : BindingSetId}
    {index index' : Nat} {b b' : Binding} (hb : w.binding? set index = some b)
    (hb' : w.binding? set' index' = some b') (hsame : b'.subscriber = b.subscriber) :
    set' = set ∧ index' = index := by
  have hfirst := (h.linked set index b hb).1
  have hsecond := (h.linked set' index' b' hb').1
  rw [hsame, hfirst] at hsecond
  simp only [Option.some.injEq, Callback.binding.injEq] at hsecond
  exact ⟨hsecond.1.symm, hsecond.2.symm⟩

end Fresh

/-! ## Changes that bindings do not see -/

/-- A change of the session that leaves bindings as they are and alive or dead, states with their
data and with the living readers that they had, text nodes as text nodes, and the text of the node
if it has a binding. -/
structure Keeps (document : DocumentId) (node : NodeId) (w w' : Session) : Prop where
  named : ∀ e ∈ w'.names.states, e.2 < w'.states.size
  represents : ∀ i, ∃ tree, (w'.state i).Represents tree
  size : w.states.size ≤ w'.states.size
  data : ∀ i < w.states.size, (w'.state i).data = (w.state i).data
  arrivals : ∀ set index b, w.binding? set index = some b → w'.isAlive set = true → ∀ q,
    b.subscriber ∈ ((w.state b.state).publisherAt q).arrivals →
      b.subscriber ∈ ((w'.state b.state).publisherAt q).arrivals
  bindings : ∀ set, w'.bindings set = w.bindings set
  alive : ∀ set, w'.isAlive set = true → w.bindings set ≠ [] → w.isAlive set = true
  callbacks : ∀ (s : SubscriberId) set index,
    w.subscribers[s]?.map Subscriber.callback = some (.binding set index) →
      w'.subscribers[s]?.map Subscriber.callback = some (.binding set index)
  nodes : ∀ i k text, (w.document i).data k = .text text →
    ∃ text', (w'.document i).data k = .text text'
  text : ∀ set index b, w.binding? set index = some b → b.document = document → b.node = node →
    (w'.document document).text node = (w.document document).text node

theorem ne_nil_of_binding? {set : BindingSetId} {index : Nat} {b : Binding}
    (hb : w.binding? set index = some b) : w.bindings set ≠ [] := by
  intro hnil
  rw [binding?, hnil] at hb
  cases hb

/-- States with the same data have the same snapshot. -/
theorem snapshot_eq_of_data {st st' : State} {tree : Value} (h : st.Represents tree)
    (hdata : st'.data = st.data) : st'.snapshot = st.snapshot := by
  rw [h.snapshot_eq, (h.of_data_eq hdata).snapshot_eq]

theorem Fresh.keeps (h : Fresh document node w waiting) (hk : Keeps document node w w') :
    Fresh document node w' waiting := by
  have hbinding : ∀ set index, w'.binding? set index = w.binding? set index := by
    intro set index
    rw [binding?, hk.bindings, binding?]
  have hcurrent : ∀ set index b, Current w' waiting set index b →
      Current w waiting set index b := by
    intro set index b hb
    have hthere : w.binding? set index = some b := hbinding set index ▸ hb.there
    exact ⟨hthere, hk.alive set hb.alive (ne_nil_of_binding? hthere), hb.sound, hb.notWaiting⟩
  -- A binding of which something is promised now is one of which it was promised before.
  refine ⟨hk.named, hk.represents, ?linked, ?registered, ?shown⟩
  case linked =>
    intro set index b hb
    obtain ⟨hcallback, hstate, text, htext⟩ := h.linked set index b (hbinding set index ▸ hb)
    exact ⟨hk.callbacks _ _ _ hcallback, hstate.trans_le hk.size, hk.nodes _ _ _ htext⟩
  case registered =>
    intro set index b hb path hpath q hq hlead
    have hthere : w.binding? set index = some b := hbinding set index ▸ hb.there
    apply hk.arrivals set index b hthere hb.alive q
    exact h.registered set index b (hcurrent set index b hb) path hpath q hq hlead
  case shown =>
    intro set index b hb hdocument hnode hsole
    have hthere : w.binding? set index = some b := hbinding set index ▸ hb.there
    have hsole' : SoleWriter w set index b := by
      intro set' index' b' hb'
      exact hsole set' index' b' ((hbinding set' index').trans hb')
    obtain ⟨tree, hrep⟩ := h.represents b.state
    rw [hk.text set index b hthere hdocument hnode]
    rw [snapshot_eq_of_data hrep (hk.data _ (h.linked set index b hthere).2.1)]
    exact h.shown set index b (hcurrent set index b hb) hdocument hnode hsole'

/-- A change that leaves states and bindings alone and keeps all texts. -/
theorem Fresh.keeps_texts (h : Fresh document node w waiting) (hstates : w'.states = w.states)
    (hsets : w'.bindingSets = w.bindingSets)
    (hnamed : ∀ e ∈ w'.names.states, e.2 < w.states.size)
    (halive : ∀ set, w'.isAlive set = true → w.isAlive set = true)
    (hcallbacks : ∀ (s : SubscriberId) set index,
      w.subscribers[s]?.map Subscriber.callback = some (.binding set index) →
        w'.subscribers[s]?.map Subscriber.callback = some (.binding set index))
    (htexts : ∀ i, (w.document i).KeepsTexts (w'.document i)) : Fresh document node w' waiting := by
  have hstate : ∀ i, w'.state i = w.state i := by
    intro i
    rw [state, hstates, state]
  refine h.keeps ⟨?named, ?represents, ?size, ?data, ?arrivals, ?bindings, ?alive, hcallbacks,
    ?nodes, ?text⟩
  case named =>
    intro e he
    rw [hstates]
    exact hnamed e he
  case represents => exact fun i => hstate i ▸ h.represents i
  case size => rw [hstates]
  case data => exact fun i _ => congrArg State.data (hstate i)
  case arrivals =>
    intro set index b _ _ q hs
    rwa [hstate]
  case bindings =>
    intro set
    rw [Session.bindings, hsets, Session.bindings]
  case alive => exact fun set hset _ => halive set hset
  case nodes => exact fun i k text ht => ⟨text, htexts i k text ht⟩
  case text =>
    intro set index b hb hdocument hnode
    obtain ⟨-, -, text, ht⟩ := h.linked set index b hb
    rw [hdocument, hnode] at ht
    rw [Document.text_of_data ht, Document.text_of_data (htexts document node text ht)]

/-- A change of what bindings do not see. -/
theorem Fresh.of_eq (h : Fresh document node w waiting) (hstates : w'.states = w.states)
    (hsets : w'.bindingSets = w.bindingSets) (hnames : w'.names = w.names)
    (hheld : w'.held = w.held) (hsubscribers : w'.subscribers = w.subscribers)
    (hdocuments : w'.documents = w.documents) : Fresh document node w' waiting := by
  refine h.keeps_texts hstates hsets (fun e he => h.named e (hnames ▸ he)) ?alive ?callbacks ?texts
  case alive =>
    intro set halive
    rwa [isAlive_congr hnames hheld] at halive
  case callbacks =>
    intro s set index hs
    rwa [hsubscribers]
  case texts =>
    intro i
    rw [document_congr hdocuments]
    exact .refl _

theorem fresh_emit (h : Fresh document node w waiting) (event : TraceEvent) :
    Fresh document node (w.emit event) waiting :=
  h.of_eq rfl rfl rfl rfl rfl rfl

/-! ## Readings -/

/-- A document with a text node is one that there is. -/
theorem lt_size_of_data {i : DocumentId} {k : NodeId} {text : String}
    (h : (w.document i).data k = .text text) : i < w.documents.size := by
  by_contra hout
  rw [Session.document, Array.getElem?_eq_none (Nat.le_of_not_lt hout)] at h
  -- The one node of an empty document is its root.
  cases k <;> cases h

/-- Whoever reads, the living readers that a state had stay registered. -/
theorem fresh_read (h : Fresh document node w waiting) {active : Option SubscriberId}
    {ps : List Path} {i : StateId} {st : State}
    (hread : State.ReadBy w.isLive active ps (w.state i) st) :
    Fresh document node (w.setState i st) waiting := by
  have hsize : (w.setState i st).states.size = w.states.size := Array.size_setIfInBounds
  -- The data stays, and registrations are only added.
  refine h.keeps ⟨?named, ?represents, hsize.ge, ?data, ?arrivals, fun _ => rfl,
    fun _ halive _ => halive, fun _ _ _ hs => hs, fun _ _ text ht => ⟨text, ht⟩,
    fun _ _ _ _ _ _ => rfl⟩
  case named =>
    rw [hsize]
    exact h.named
  case represents =>
    intro j
    rw [state_setState]
    split
    · obtain ⟨tree, hrep⟩ := h.represents i
      exact ⟨tree, hread.represents hrep⟩
    · exact h.represents j
  case data =>
    intro j _
    rw [state_setState]
    split
    · next hij => rw [hread.data, hij.1]
    · rfl
  case arrivals =>
    intro set index b hb halive q hs
    rw [state_setState]
    split
    · next hij =>
      rw [← hij.1] at hs
      rw [hread.publisherAt]
      split
      · exact Publisher.mem_arrivals_track_of_live active hs (h.isLive hb halive)
      · exact hs
    · exact hs

/-! ## Writes -/

/-- After a write the readers of the property wait. A binding that does not wait has neither read
the property nor anything below it, so that nothing is different on its ways. -/
theorem fresh_written (h : Fresh document node w waiting) {p : PropertyHandle} {v : Value}
    (hv : v.WellFormed) (hthere : (w.state p.state).contains p.path = true) :
    Fresh document node (w.written p v)
      ((w.state p.state).readers w.isLive p.path ++ waiting) := by
  have hstate := state_written_eq w v hthere
  have hsize : (w.written p v).states.size = w.states.size := Array.size_setIfInBounds
  obtain ⟨tree, hrep⟩ := h.represents p.state
  have hcurrent : ∀ set index b,
      Current (w.written p v) ((w.state p.state).readers w.isLive p.path ++ waiting) set index b →
        Current w waiting set index b := by
    intro set index b hb
    exact ⟨hb.there, hb.alive, hb.sound, fun hs => hb.notWaiting (List.mem_append_right _ hs)⟩
  -- Who is registered with the property and lives would wait.
  have haway : ∀ set index b,
      Current (w.written p v) ((w.state p.state).readers w.isLive p.path ++ waiting) set index b →
        b.state = p.state → ∀ path ∈ b.template.paths, ¬ p.path.LeadsTo path := by
    intro set index b hb hbstate path hpath hlead
    have hroot : p.path ≠ Path.root := ((hrep.contains_iff p.path).mp hthere).1
    have harrived :=
      h.registered set index b (hcurrent set index b hb) path hpath p.path hroot hlead
    rw [hbstate] at harrived
    apply hb.notWaiting
    apply List.mem_append_left
    exact Publisher.mem_subscribers.mpr ⟨harrived, h.isLive hb.there hb.alive⟩
  refine ⟨?named, ?represents, ?linked, ?registered, ?shown⟩
  case named =>
    rw [hsize]
    exact h.named
  case represents =>
    intro i
    rw [hstate]
    split
    · next hi => exact hi ▸ ⟨_, hrep.afterWrite w.isLive hv hthere⟩
    · exact h.represents i
  case linked =>
    intro set index b hb
    rw [hsize]
    exact h.linked set index b hb
  case registered =>
    intro set index b hb path hpath q hq hlead
    have harrived := h.registered set index b (hcurrent set index b hb) path hpath q hq hlead
    rw [hstate]
    split
    · next hi =>
      -- Only publishers below the property are made anew.
      have hnot : ¬ q.isBelow p.path = true := by
        intro hbelow
        exact haway set index b hb hi.symm path hpath ((Path.isBelow_iff.mp hbelow).1.trans hlead)
      rw [State.publisherAt_afterWrite, if_neg hnot]
      exact harrived
    · exact harrived
  case shown =>
    intro set index b hb hdocument hnode hsole
    have hold := h.shown set index b (hcurrent set index b hb) hdocument hnode hsole
    rw [hstate]
    split
    · next hi =>
      rw [← hi, hrep.snapshot_eq] at hold
      rw [← hi, (hrep.afterWrite w.isLive hv hthere).snapshot_eq]
      -- The ways of the template keep clear of the property, and so end as they did.
      refine Template.shown_congr (fun path hpath => ?_) hold
      exact Value.content_walk?_replaceAt v tree (haway set index b hb hi.symm path hpath)
    · exact hold

/-! ## Renderings -/

/-- A subscriber need not wait any longer if what is promised of its binding holds. -/
theorem Fresh.settle {s : SubscriberId} (h : Fresh document node w (s :: waiting))
    (hsettled : ∀ set index b, Current w waiting set index b → b.subscriber = s →
      (∀ path ∈ b.template.paths, ∀ q, q ≠ Path.root → q.LeadsTo path →
        b.subscriber ∈ ((w.state b.state).publisherAt q).arrivals) ∧
      (b.document = document → b.node = node →
        b.template.shown (w.state b.state).snapshot = .ok ((w.document document).text node))) :
    Fresh document node w waiting := by
  have hcurrent : ∀ set index b, Current w waiting set index b → b.subscriber ≠ s →
      Current w (s :: waiting) set index b := by
    intro set index b hb hne
    refine { hb with notWaiting := ?_ }
    simpa [hne] using hb.notWaiting
  refine ⟨h.named, h.represents, h.linked, ?registered, ?shown⟩
  case registered =>
    intro set index b hb
    by_cases hs : b.subscriber = s
    · exact (hsettled set index b hb hs).1
    · exact h.registered set index b (hcurrent set index b hb hs)
  case shown =>
    intro set index b hb hdocument hnode hsole
    by_cases hs : b.subscriber = s
    · exact (hsettled set index b hb hs).2 hdocument hnode
    · exact h.shown set index b (hcurrent set index b hb hs) hdocument hnode hsole

variable {set : BindingSetId} {index : Nat} {b : Binding}

/-- The record of a binding that waits may change, as long as no rendering is forgotten. -/
theorem fresh_modifyBinding (h : Fresh document node w waiting)
    (hb : w.binding? set index = some b) (hwaits : b.subscriber ∈ waiting) {f : Binding → Binding}
    (hwiring : (f b).wiring = b.wiring) (hrenders : b.renders ≤ (f b).renders) :
    Fresh document node (w.modifyBinding set index f) waiting := by
  have hbinding := binding?_modifyBinding w set index f
  obtain ⟨hdocument, hnode, htemplate, hstate, -, hsubscriber⟩ := Binding.wiring_eq_iff.mp hwiring
  -- Every other binding is as before, and this one waits.
  have hcurrent : ∀ set' index' b', Current (w.modifyBinding set index f) waiting set' index' b' →
      Current w waiting set' index' b' ∧ ¬ (set = set' ∧ index = index') := by
    intro set' index' b' hb'
    have hthere := hb'.there
    rw [hbinding] at hthere
    split at hthere
    · next hplace =>
      obtain ⟨rfl, rfl⟩ := hplace
      rw [hb, Option.map_some, Option.some.injEq] at hthere
      rw [← hthere] at hb'
      exact absurd (hsubscriber ▸ hwaits) hb'.notWaiting
    · next hplace => exact ⟨⟨hthere, hb'.alive, hb'.sound, hb'.notWaiting⟩, hplace⟩
  have hsole : ∀ set' index' b', SoleWriter (w.modifyBinding set index f) set' index' b' →
      SoleWriter w set' index' b' := by
    -- Nothing that has been rendered before counts as never rendered now.
    intro set' index' b' hsole set'' index'' b'' hb'' hdocument'' hnode'' hplace
    by_cases hthis : set = set'' ∧ index = index''
    · obtain ⟨rfl, rfl⟩ := hthis
      have heq : b'' = b := Option.some.inj (hb''.symm.trans hb)
      rw [heq] at hdocument'' hnode'' ⊢
      have hnone := hsole set index (f b)
        (by rw [hbinding, if_pos ⟨rfl, rfl⟩, hb]; rfl) (hdocument.trans hdocument'')
        (hnode.trans hnode'') hplace
      exact Nat.le_zero.mp (hnone ▸ hrenders)
    · apply hsole set'' index'' b'' _ hdocument'' hnode'' hplace
      rw [hbinding, if_neg hthis]
      exact hb''
  refine ⟨h.named, h.represents, ?linked, ?registered, ?shown⟩
  case linked =>
    intro set' index' b' hb'
    rw [hbinding] at hb'
    split at hb'
    · next hplace =>
      obtain ⟨rfl, rfl⟩ := hplace
      rw [hb, Option.map_some, Option.some.injEq] at hb'
      rw [← hb', hsubscriber, hstate, hdocument, hnode]
      exact h.linked set index b hb
    · exact h.linked set' index' b' hb'
  case registered =>
    intro set' index' b' hb'
    exact h.registered set' index' b' (hcurrent set' index' b' hb').1
  case shown =>
    intro set' index' b' hb' hdocument' hnode' hsole'
    exact h.shown set' index' b' (hcurrent set' index' b' hb').1 hdocument' hnode'
      (hsole set' index' b' hsole')

/-- A text may be set wherever nothing is promised. -/
theorem fresh_setText (h : Fresh document node w waiting) (i : DocumentId) (k : NodeId)
    (text : String)
    (hspared : ∀ set index b, Current w waiting set index b → b.document = document →
      b.node = node → SoleWriter w set index b → ¬ (i = document ∧ k = node)) :
    Fresh document node (w.modifyDocument i (·.setText k text)) waiting := by
  have hcurrent : ∀ set index b,
      Current (w.modifyDocument i (·.setText k text)) waiting set index b →
        Current w waiting set index b :=
    fun set index b hb => ⟨hb.there, hb.alive, hb.sound, hb.notWaiting⟩
  refine ⟨h.named, h.represents, ?linked, ?registered, ?shown⟩
  case linked =>
    intro set index b hb
    obtain ⟨hcallback, hstate, text', htext⟩ := h.linked set index b hb
    refine ⟨hcallback, hstate, ?_⟩
    rw [document_modifyDocument]
    split
    · exact Document.exists_data_setText htext k text
    · exact ⟨text', htext⟩
  case registered => exact fun set index b hb => h.registered set index b (hcurrent set index b hb)
  case shown =>
    intro set index b hb hdocument hnode hsole
    have hold := h.shown set index b (hcurrent set index b hb) hdocument hnode hsole
    have hnot := hspared set index b (hcurrent set index b hb) hdocument hnode hsole
    rw [document_modifyDocument]
    split
    · next hi =>
      have hk : k ≠ node := fun hk => hnot ⟨hi.1, hk⟩
      rw [Document.text, Document.data_setText_of_ne _ hk]
      exact hold
    · exact hold

/-- A rendering that fails leaves a fault, of which nothing is promised. -/
theorem fresh_fail (h : Fresh document node w (b.subscriber :: waiting))
    (hb : w.binding? set index = some b) (fault : Fault) :
    Fresh document node (w.modifyBinding set index (·.fail fault)) waiting := by
  have hmodified := fresh_modifyBinding h hb (List.mem_cons_self ..)
    (f := (·.fail fault)) rfl (Nat.le_refl _)
  have hfailed : (w.modifyBinding set index (·.fail fault)).binding? set index =
      some (b.fail fault) := by
    rw [binding?_modifyBinding, if_pos ⟨rfl, rfl⟩, hb, Option.map_some]
  apply hmodified.settle
  intro set' index' b' hb' hs
  obtain ⟨rfl, rfl⟩ := hmodified.place_unique hfailed hb'.there hs
  have heq : b' = b.fail fault := Option.some.inj (hb'.there.symm.trans hfailed)
  -- A binding that has just failed is not sound.
  have hsound := hb'.sound
  rw [heq] at hsound
  cases hsound

/-- A rendering that succeeds leaves the text that the template shows. -/
theorem fresh_succeed (h : Fresh document node w (b.subscriber :: waiting))
    (hb : w.binding? set index = some b) {text : String}
    (hregistered : ∀ path ∈ b.template.paths, ∀ q, q ≠ Path.root → q.LeadsTo path →
      b.subscriber ∈ ((w.state b.state).publisherAt q).arrivals)
    (hshown : b.template.shown (w.state b.state).snapshot = .ok text) :
    Fresh document node ((w.modifyDocument b.document (·.setText b.node text)).modifyBinding set
      index Binding.succeed) waiting := by
  have hmodified := fresh_modifyBinding h hb (List.mem_cons_self ..) (f := Binding.succeed) rfl
    (Nat.le_succ _)
  have hsucceeded : (w.modifyBinding set index Binding.succeed).binding? set index =
      some b.succeed := by
    rw [binding?_modifyBinding, if_pos ⟨rfl, rfl⟩, hb, Option.map_some]
  -- The record first: from then on no other binding can be the only one to write to the node.
  have hset : Fresh document node ((w.modifyBinding set index Binding.succeed).modifyDocument
      b.document (·.setText b.node text)) (b.subscriber :: waiting) := by
    apply fresh_setText hmodified
    intro set' index' b' hb' hdocument hnode hsole hplace
    have hzero := hsole set index b.succeed hsucceeded (hplace.1.trans hdocument.symm)
      (hplace.2.trans hnode.symm)
    have hother : ¬ (set = set' ∧ index = index') := by
      rintro ⟨rfl, rfl⟩
      have heq : b' = b.succeed := Option.some.inj (hb'.there.symm.trans hsucceeded)
      apply hb'.notWaiting
      rw [heq]
      exact List.mem_cons_self ..
    exact absurd (hzero hother) (Nat.succ_ne_zero _)
  show Fresh document node ((w.modifyBinding set index Binding.succeed).modifyDocument
    b.document (·.setText b.node text)) waiting
  apply hset.settle
  intro set' index' b' hb' hs
  obtain ⟨rfl, rfl⟩ := hmodified.place_unique hsucceeded hb'.there hs
  have heq : b' = b.succeed := Option.some.inj (hb'.there.symm.trans hsucceeded)
  subst heq
  -- The binding itself shows what has just been written.
  refine ⟨hregistered, ?_⟩
  intro hdocument hnode
  obtain ⟨-, -, old, hold⟩ := h.linked set' index' b hb
  have hwritten := Document.data_setText_self hold text
  rw [document_modifyDocument, if_pos ⟨hdocument, lt_size_of_data hold⟩]
  rw [← hdocument, ← hnode]
  show b.template.shown (w.state b.state).snapshot =
    .ok (((w.document b.document).setText b.node text).text b.node)
  rw [Document.text_of_data hwritten]
  exact hshown

/-- A binding that is rendered no longer waits, whatever comes of the rendering. -/
theorem fresh_renderBinding (h : Fresh document node w (b.subscriber :: waiting))
    (hb : w.binding? set index = some b) :
    Fresh document node (w.renderBinding set index).2 waiting := by
  -- The rendering is refused, or fails, or comes out.
  cases hcollector : (w.collector b.collector).active with
  | some active =>
    rw [renderBinding_of_busy hb hcollector]
    exact fresh_fail (fresh_emit h _) hb _
  | none =>
    obtain ⟨tree, hrep⟩ := h.represents b.state
    obtain ⟨st, hread, hrender⟩ := renderBinding_of_idle hb hcollector hrep
    have hafter := fresh_read h hread
    rw [hrender]
    cases hshown : b.template.shown tree with
    | error fault => exact fresh_fail (fresh_emit hafter _) hb fault
    | ok text =>
      have hst : (w.setState b.state st).state b.state = st :=
        state_setState_of_lt st (h.linked set index b hb).2.1
      apply fresh_emit
      refine fresh_succeed hafter hb ?registered ?shown
      case registered =>
        intro path hpath q hq hlead
        -- The template has come out, so everything on its ways is there and has been read.
        have hwalk := Template.walk?_isSome_of_shown hshown hpath
        have hthere : (w.state b.state).contains q = true :=
          (hrep.contains_iff q).mpr ⟨hq, Value.walk?_isSome_of_prefix hlead hwalk⟩
        rw [hst, hread.publisherAt, if_pos ⟨⟨path, hpath, hlead⟩, hthere⟩]
        exact Publisher.mem_arrivals_register.mpr (.inr rfl)
      case shown =>
        rw [hst, (hread.represents hrep).snapshot_eq]
        exact hshown

end LiveText.Session
