import Mathlib
import LiveText.Proofs.Session.Cascading
import LiveText.Proofs.Session.Editing

/-!
# Bindings in cascades

Subscribers that are told of a change may take steps, which tell further subscribers, and so on.
Whatever they do, at each moment of such a cascade everything is promised of those bindings that do
not wait: each part of a run leaves nobody waiting who did not wait before.

## Main definitions

- `Moment.Fair`: what is taken for granted of a moment.

## Main statements

- `cascadesRespect_fresh`: what is promised is promised throughout a cascade.
- `bindings_are_fresh`: what bindings show.
-/

namespace LiveText.Session

variable {document : DocumentId} {node : NodeId} {w w' : Session} {waiting : List SubscriberId}

/-! ## What is taken for granted -/

/-- The data that the step brings in has no key twice, and it does not set the text of the node if
a binding is there. -/
def Step.Harmless (document : DocumentId) (node : NodeId) (w : Session) : Step → Prop
  | .edit e => e.Harmless document node w
  | .write _ v => v.WellFormed
  | _ => True

/-- The next step is harmless; a subscriber that is about to be told does not give up. -/
def Moment.Fair (document : DocumentId) (node : NodeId) : Moment → Prop
  | .ahead [] _ _ => True
  | .ahead (s :: _) w _ => s.Harmless document node w
  | .told depth s w _ => ∃ w', telling depth s w = (.returned (), w')

/-- Bindings do not give up when they are told. -/
theorem fair_of_bindings {ss : List SubscriberId}
    (hbindings : ∀ s ∈ ss, ∃ set index,
      w.subscribers[s]?.map Subscriber.callback = some (.binding set index))
    {m : Moment} (hm : During depth (.tellEach ss) w waiting m) : m.Fair document node := by
  induction ss generalizing w with
  | nil => cases hm
  | cons s rest ih =>
    obtain ⟨set, index, hs⟩ := hbindings s (List.mem_cons_self ..)
    have htelling := telling_of_binding depth (w := w.hold ((s :: rest).map .subscriber)) hs
    cases hm with
    | tellEachHead hm =>
      cases hm with
      | tell => exact ⟨_, htelling⟩
      | tellProgram hprogram => cases hs.symm.trans hprogram
    | tellEachTail hreturned hm =>
      apply ih _ hm
      intro t ht
      obtain ⟨-, rfl⟩ := Prod.mk.inj (htelling.symm.trans hreturned)
      obtain ⟨set', index', ht'⟩ := hbindings t (List.mem_cons_of_mem s ht)
      refine ⟨set', index', Eq.trans ?_ ht'⟩
      show (ite _ _ _ : Session).subscribers[t]?.map _ = _
      split
      · rw [subscribers_renderBinding]
        rfl
      · rfl

/-! ## Parts of runs -/

/-- What has been kept alive during a run is let go of. -/
theorem Fresh.holdAs {holdings : List Holding} (h : Fresh document node w' waiting)
    (hheld : w'.held = (w.hold holdings).held) : Fresh document node (w'.holdAs w) waiting := by
  refine h.keeps_texts rfl rfl h.named ?_ (fun _ _ _ hs => hs) fun _ => .refl _
  intro set halive
  rcases isAlive_iff.mp halive with hmounted | hcompiled | hmem
  · exact isAlive_iff.mpr (.inl hmounted)
  · exact isAlive_iff.mpr (.inr (.inl hcompiled))
  · refine isAlive_iff.mpr (.inr (.inr ?_))
    rw [hheld]
    exact List.mem_append_right holdings hmem

/-- A subscriber that no living binding has need not wait. -/
theorem Fresh.settle_of_ne {s : SubscriberId} (h : Fresh document node w (s :: waiting))
    (hother : ∀ set index b, Current w waiting set index b → b.subscriber ≠ s) :
    Fresh document node w waiting := by
  apply h.settle
  intro set index b hb hs
  exact absurd hs (hother set index b hb)

theorem callback_countRun {s t : SubscriberId} {set : BindingSetId} {index : Nat}
    (ht : w.subscribers[t]?.map Subscriber.callback = some (.binding set index)) :
    (w.countRun s).subscribers[t]?.map Subscriber.callback = some (.binding set index) := by
  rw [countRun, Array.getElem?_modify]
  split
  · obtain ⟨x, hx, hcallback⟩ := Option.map_eq_some_iff.mp ht
    simp [hx, hcallback]
  · exact ht

/-- A binding that is told is rendered and no longer waits. -/
theorem fresh_told {s : SubscriberId} {set : BindingSetId} {index : Nat}
    (h : Fresh document node w (s :: waiting)) (hrenders : w.Renders s set index) :
    Fresh document node (w.renderBinding set index).2 waiting := by
  -- The binding of the subscriber, if there is one, is the one that is rendered.
  have hplace : ∀ set' index' b', w.binding? set' index' = some b' → b'.subscriber = s →
      set' = set ∧ index' = index := by
    intro set' index' b' hb' hs
    have hcallback := (h.linked set' index' b' hb').1
    rw [hs] at hcallback
    cases hrenders.symm.trans hcallback
    exact ⟨rfl, rfl⟩
  cases hb : w.binding? set index with
  | none =>
    rw [renderBinding_of_none hb]
    apply h.settle_of_ne
    intro set' index' b' hb' hs
    obtain ⟨rfl, rfl⟩ := hplace set' index' b' hb'.there hs
    cases hb.symm.trans hb'.there
  | some b =>
    refine fresh_renderBinding (Fresh.settle_of_ne (s := s) (h.mono ?_) ?_) hb
    · intro t ht
      simp only [List.mem_cons] at ht ⊢
      tauto
    · intro set' index' b' hb' hs
      obtain ⟨rfl, rfl⟩ := hplace set' index' b' hb'.there hs
      obtain rfl : b' = b := Option.some.inj (hb'.there.symm.trans hb)
      exact hb'.notWaiting (List.mem_cons_self ..)

/-- A collector is free or busy; bindings do not see which. -/
theorem fresh_setCollector (h : Fresh document node w waiting) (c : CollectorId)
    (collector : Collector) : Fresh document node (w.setCollector c collector) waiting :=
  h.of_eq rfl rfl rfl rfl rfl rfl

/-- What is promised is promised throughout a cascade. -/
theorem cascadesRespect_fresh (document : DocumentId) (node : NodeId) :
    CascadesRespect (fun s w => s.Harmless document node w) (Moment.Fair document node)
      (Fresh document node) where
  harmless_of_fair h := h
  edit h _ hharmless hedit := fresh_perform h hharmless hedit
  addSubscriber name program limit h := by
    refine h.keeps_texts rfl rfl h.named (fun _ halive => halive) ?_ fun _ => .refl _
    intro s set index hs
    exact callback_newSubscriber hs _
  emit event h := fresh_emit h event
  record entry h := h.of_eq rfl rfl rfl rfl rfl rfl
  countRun s h := h.keeps_texts rfl rfl h.named (fun _ halive => halive)
    (fun _ _ _ ht => callback_countRun ht) fun _ => .refl _
  await h _ := h.mono fun t ht => List.mem_append_right _ ht
  written h _ hharmless hthere := fresh_written h hharmless hthere
  settle h hgone := by
    apply h.settle_of_ne
    rintro set index b hb rfl
    exact absurd ((hgone set index (h.linked set index b hb.there).1).symm.trans hb.alive)
      Bool.false_ne_true
  render h _ hrenders _ := fresh_told h hrenders
  forsake hfair habandoned _ := by
    -- Nobody gives up when told.
    obtain ⟨w', hreturned⟩ := hfair
    cases hreturned.symm.trans habandoned
  hold h hsets _ := h.hold fun set hset => .inl (hsets set hset)
  letGo h hheld := h.holdAs hheld
  start h _ _ := fresh_setCollector h _ _
  finish c h := fresh_setCollector h c _

/-- Before anything is done there are no bindings. -/
theorem fresh_empty (document : DocumentId) (node : NodeId) : Fresh document node {} [] := by
  have hnone : ∀ set index, ({} : Session).binding? set index = none := by
    intro set index
    rfl
  refine ⟨?named, ?represents, ?linked, ?registered, ?shown⟩
  case named =>
    intro e he
    cases he
  case represents =>
    intro i
    exact ⟨_, State.represents_observe (.object [] List.nodup_nil (by simp))⟩
  case linked =>
    intro set index b hb
    cases (hnone set index).symm.trans hb
  case registered =>
    intro set index b hb
    cases (hnone set index).symm.trans hb.there
  case shown =>
    intro set index b hb
    cases (hnone set index).symm.trans hb.there

/-! ## A cascade -/

/-- A page with one text, and a subscriber that writes the text when it is told to. -/
def introduction : List Step :=
  [.edit (.newDocument "page" (some "<p>\x7b\x7bname\x7d\x7d</p>")),
    .edit (.mount "app" "page" (.given "p" (.object [("name", .null)]))),
    .newSubscriber "echo" [.write (.component "app" "name") (.str "Ada")] 1,
    .update "echo"]

/-- The session after the first steps. -/
def introduced (n : Nat) : Session :=
  (introduction.take n).foldl (fun w s => (w.step s).2) {}

/-- The session in which the subscriber takes its step. -/
def introducing : Session :=
  let w := (introduced 3).hold [.subscriber 1]
  (w.countRun 1).record (.told (w.labelOf 1))

/-- The subscriber is told and writes the text, of which the binding is told in turn. -/
theorem fair_introduced {m : Moment}
    (hm : During depth (.step (.update "echo")) (introduced 3) [] m) (hdepth : depth = 1) :
    m.Fair 0 2 := by
  cases hm with
  | update hs hm =>
    have hname : require .subscriber (introduced 3).names.subscribers "echo" = .ok 1 := by
      decide +kernel
    cases hname.symm.trans hs
    cases hm with
    | tell =>
      have hreturns : (telling 1 1 ((introduced 3).hold [.subscriber 1])).1.hasReturned = true := by
        decide +kernel
      subst hdepth
      exact ⟨_, Run.returned_of_hasReturned hreturns⟩
    | tellProgram hprogram hruns hm =>
      have hsize : (introduced 2).subscribers.size = 1 := by decide +kernel
      have hlast : ((introduced 2).addSubscriber "echo"
          [.write (.component "app" "name") (.str "Ada")] 1).subscribers[1]?.map
          Subscriber.callback =
          some (.program [.write (.component "app" "name") (.str "Ada")] 1 0) := by
        rw [← hsize]
        exact congrArg (Option.map Subscriber.callback) Array.getElem?_push_size
      cases hlast.symm.trans hprogram
      cases hm with
      | program => exact Value.WellFormed.str "Ada"
      | programTail _ hm => cases hm with
        | program => trivial
      | programHead hm => cases hm with
        | write htarget hthere hm =>
          have hfound : introducing.requireTarget (.component "app" "name") =
              .ok (.ok ⟨0, ⟨["name"]⟩⟩, [.bindings 0]) := by decide +kernel
          cases hfound.symm.trans htarget
          have hreaders : (introducing.state 0).readers
              (introducing.hold [.bindings 0]).isLive ⟨["name"]⟩ = [0] := by decide +kernel
          have hplace : (introducing.subscribers[0]?.map Subscriber.callback).bind
              Callback.place? = some (0, 0) := by decide +kernel
          refine fair_of_bindings (fun s hs => ?_) hm
          have hzero : s ∈ [0] := hreaders ▸ hs
          obtain rfl := List.mem_singleton.mp hzero
          exact ⟨0, 0, Callback.bind_place?_eq_some_iff.mp hplace⟩

/-! ## What bindings show -/

/-- What bindings show. However subscribers tell each other of changes while a script is run, at
each moment of it the node of a living binding without a fault shows the template for the data as it
is at that moment, unless the binding waits to be told; between the steps of the script nobody
waits. All this holds of a node to whose text nothing but the binding writes, as long as no
subscriber gives up while it is told. -/
theorem bindings_are_fresh {script : List Step} {document : DocumentId} {node : NodeId}
    (hfair : ∀ m, DuringScript script {} m → m.Fair document node) {m : Moment}
    (hm : DuringScript script {} m) {set : BindingSetId} {index : Nat} {b : Binding}
    (hb : m.session.binding? set index = some b) (halive : m.session.isAlive set = true)
    (hsound : b.lastFault = none) (htold : b.subscriber ∉ m.waiting)
    (hdocument : b.document = document) (hnode : b.node = node)
    (hsole : SoleWriter m.session set index b) :
    b.template.shown (m.session.state b.state).snapshot =
      .ok ((m.session.document document).text node) := by
  have hfresh := (cascadesRespect_fresh document node).duringScript hm
    (fresh_empty document node) hfair
  exact hfresh.shown set index b ⟨hb, halive, hsound, htold⟩ hdocument hnode hsole

/-- A name that a subscriber has written is shown. -/
theorem shown_after_introduction : ∃ b,
    (introduced 4).binding? 0 0 = some b ∧ ((introduced 4).document 0).text 2 = "Ada" ∧
      b.template.shown ((introduced 4).state b.state).snapshot =
        .ok (((introduced 4).document 0).text 2) := by
  have hm : DuringScript introduction {} (.ahead [] (introduced 4) []) :=
    .tail (.tail (.tail (.tail .here)))
  have hfair : ∀ m, DuringScript introduction {} m → m.Fair 0 2 := by
    intro m hm
    cases hm with
    | here => trivial
    | head hm => cases hm
    | tail hm => cases hm with
      | here => exact .object _ (List.nodup_singleton _) (by simpa using .null)
      | head hm => cases hm
      | tail hm => cases hm with
        | here => trivial
        | head hm => cases hm
        | tail hm => cases hm with
          | here => trivial
          | head hm => exact fair_introduced hm (by decide +kernel)
          | tail hm => cases hm with
            | here => trivial
  have hsize : (introduced 4).bindingSets.size = 1 ∧ ((introduced 4).bindings 0).length = 1 := by
    decide +kernel
  -- There is no other binding that could write to the node.
  have hone : ∀ set index b, (introduced 4).binding? set index = some b →
      set = 0 ∧ index = 0 := by
    intro set index b hb
    have hset : set < (introduced 4).bindingSets.size := by
      by_contra hout
      rw [binding?, bindings_of_size_le (Nat.le_of_not_lt hout)] at hb
      cases hb
    rw [hsize.1, Nat.lt_one_iff] at hset
    subst hset
    have hindex : index < ((introduced 4).bindings 0).length :=
      (List.getElem?_eq_some_iff.mp hb).1
    rw [hsize.2, Nat.lt_one_iff] at hindex
    exact ⟨rfl, hindex⟩
  have hthere : ((introduced 4).binding? 0 0).any (fun b =>
      b.document = 0 ∧ b.node = 2 ∧ b.lastFault = none) = true := by decide +kernel
  obtain ⟨b, hb, hparts⟩ := (Option.any_eq_true _ _).mp hthere
  obtain ⟨hdocument, hnode, hsound⟩ := of_decide_eq_true hparts
  refine ⟨b, hb, by decide +kernel, ?_⟩
  apply bindings_are_fresh hfair hm hb (by decide +kernel) hsound List.not_mem_nil hdocument hnode
  intro set' index' b' hb' _ _ hother
  exact absurd (hone set' index' b' hb') hother

end LiveText.Session
