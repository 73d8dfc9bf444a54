import Mathlib
import LiveText.Proofs.Session.Effects
import LiveText.Proofs.Session.Frames
import LiveText.Proofs.Session.Moments

/-!
# What runs preserve

Whatever a run does to a session is made of a few small changes, and at the end of some parts of it
something is put back. A relation between earlier and later sessions that each of these respects is
respected by whole runs, to any depth and also if they are abandoned. What such a relation preserves
holds at every moment of a run.

Edits and runs are not free in what they do: names are given to what has one already or has just
been made, and only living bindings are rendered. A relation need not respect more than that.

## Main definitions

- `EditsRespect`, `RunsRespect`: a relation that the parts of edits and of runs respect.
- `Elementary`: the same for relations that respect names and renderings of any kind.

## Main statements

- `EditsRespect.perform`: edits.
- `RunsRespect.take`, `RunsRespect.telling`: steps, and what subscribers do when they are told.
- `RunsRespect.during`: every moment of a run.
-/

namespace LiveText.Session

variable {R : Session → Session → Prop} {w w' : Session}

/-! ## Edits -/

/-- A relation that is respected by the parts of which edits are made. -/
structure EditsRespect (R : Session → Session → Prop) : Prop where
  refl : ∀ w, R w w
  trans : ∀ {w w' w''}, R w w' → R w' w'' → R w w''
  rename : ∀ {w w'} f, R w w' → Renames w w' f → R w (w'.rename f)
  emit : ∀ w event, R w (w.emit event)
  /-- Reading a state changes it, but not its data. -/
  setState : ∀ {w i st}, st.data = (w.state i).data → R w (w.setState i st)
  modifyDocument : ∀ w i f, R w (w.modifyDocument i f)
  setLabel : ∀ w s label, R w (w.setLabel s label)
  observe : ∀ w data, R w (w.observe data).2
  newCollector : ∀ w, R w w.newCollector.2
  newDocument : ∀ w d, R w (w.newDocument d).2
  renderBinding : ∀ {w set} index, w.isAlive set = true → R w (w.renderBinding set index).2
  compile : ∀ w i k state collector, R w (w.compile i k state collector).2

namespace EditsRespect

theorem mount (h : EditsRespect R) (w : Session) (i : DocumentId) (options : Options) :
    R w (w.mount i options).2 := by
  have hobserved := h.trans (h.emit w (.componentBegun options.el)) (h.observe _ options.data)
  rw [mount_eq]
  cases (w.document i).queryFirst? options.el with
  | none => exact h.trans hobserved (h.emit ..)
  | some el =>
    have hbegun : R w (w.begun options) := h.trans hobserved (h.newCollector _)
    have hcompiled := h.compile (w.begun options) i el w.states.size w.collectors.size
    dsimp only
    split
    · next fault w₁ hcompile =>
      rw [hcompile] at hcompiled
      exact h.trans hbegun hcompiled
    · next set w₁ hcompile =>
      rw [hcompile] at hcompiled
      exact h.trans (h.trans hbegun hcompiled) (h.emit ..)

theorem labelBindings (h : EditsRespect R) (w : Session) (name : String) (set : BindingSetId) :
    R w (w.labelBindings name set) := by
  rw [Session.labelBindings]
  -- On the bindings that are still to get a label.
  generalize (w.bindings set).zipIdx = bs
  induction bs generalizing w with
  | nil => exact h.refl w
  | cons b rest ih => exact h.trans (h.setLabel ..) (ih _)

theorem named (h : EditsRespect R) {w₁ : Session} {name : String} (hmade : R w w₁)
    (hnamed : Named w w₁ name w') : R w w' := by
  cases hnamed with
  | failed => exact hmade
  | named hnames _ => exact h.rename _ (h.trans hmade (h.labelBindings ..)) hnames

theorem editDocument (h : EditsRespect R) {i : DocumentId} {edit : DocumentEdit}
    (heffect : DocumentEffect w i edit w') : R w w' := by
  cases heffect with
  | same => exact h.refl w
  | told event => exact h.emit w event
  | moved _ => exact h.modifyDocument ..
  | setText _ => exact h.modifyDocument ..

/-- Edits are made of the changes that the relation respects. -/
theorem perform (h : EditsRespect R) {edit : Edit} {answer : Answer}
    (hedit : w.perform edit = .ok (answer, w')) : R w w' := by
  cases effect_of_perform hedit with
  | same => exact h.refl w
  | renamed hnames => exact h.rename _ (h.refl w) hnames
  | collector hnames => exact h.rename _ (h.newCollector w) hnames
  | observed hnames => exact h.rename _ (h.observe w _) hnames
  | read i p collector => exact h.setState (State.data_readTracked ..)
  | rendered t i c => exact h.setState (State.data_renderWith ..)
  | mounted _ i => exact h.named (h.mount ..) (named_mountAs ..)
  | compiled _ name i k collector => exact h.named (h.compile ..) (named_compileAs ..)
  | refreshed halive _ => exact h.renderBinding _ halive
  | document _ heffect => exact h.editDocument heffect
  | opened d hnames => exact h.rename _ (h.newDocument w d) hnames

end EditsRespect

/-- A relation that is respected by the changes of which edits are made. -/
structure Elementary (R : Session → Session → Prop) : Prop where
  refl : ∀ w, R w w
  trans : ∀ {w w' w''}, R w w' → R w' w'' → R w w''
  rename : ∀ w f, R w (w.rename f)
  emit : ∀ w event, R w (w.emit event)
  setState : ∀ w i st, R w (w.setState i st)
  modifyDocument : ∀ w i f, R w (w.modifyDocument i f)
  modifyBinding : ∀ w set index f, R w (w.modifyBinding set index f)
  setLabel : ∀ w s label, R w (w.setLabel s label)
  observe : ∀ w data, R w (w.observe data).2
  newCollector : ∀ w, R w w.newCollector.2
  newDocument : ∀ w d, R w (w.newDocument d).2
  newScratch : ∀ w i, R w (w.newScratch i).2
  newBindingSet : ∀ w, R w w.newBindingSet.2
  withBinding : ∀ w set b, R w (w.withBinding set b)
  /-- What is kept alive for a while is let go of again. -/
  holding : ∀ {w w'} holdings, R (w.hold holdings) w' → R w (w'.holdAs w)

namespace Elementary

theorem renderBinding (h : Elementary R) (w : Session) (set : BindingSetId) (index : Nat) :
    R w (w.renderBinding set index).2 := by
  rcases snd_renderBinding_cases w set index with hnone | ⟨fault, hbusy⟩ | ⟨b, st, result, hread⟩
  · rw [hnone]
    exact h.refl w
  · rw [hbusy]
    exact h.trans (h.emit ..) (h.modifyBinding ..)
  · rw [hread]
    cases result with
    | ok text =>
      have htext := h.trans (h.setState w b.state st)
        (h.modifyDocument _ b.document (·.setText b.node text))
      exact h.trans (h.trans htext (h.modifyBinding ..)) (h.emit ..)
    | error fault => exact h.trans (h.trans (h.setState ..) (h.emit ..)) (h.modifyBinding ..)

theorem compile (h : Elementary R) (w : Session) (i : DocumentId) (k : NodeId) (state : StateId)
    (collector : CollectorId) : R w (w.compile i k state collector).2 := by
  have hscratch := h.trans (h.emit w .compileBegun) (h.newScratch _ i)
  have hmoved := h.trans hscratch (h.modifyDocument _ i (·.moveChildren k (w.document i).size))
  have hopened : R w (w.opened i k) := h.trans hmoved (h.newBindingSet _)
  have hbound := bindTexts_respects h.refl h.trans
    (fun w₁ b _ => h.withBinding w₁ w.bindingSets.size b)
    (h.renderBinding · w.bindingSets.size) i state collector
    (((w.opened i k).document i).outerTexts (w.document i).size)
    ((w.opened i k).hold [.bindings w.bindingSets.size])
  rw [compile_eq]
  generalize bindTexts _ _ _ _ _ _ = bound at hbound ⊢
  -- The children of the node go back, whatever has come of the texts.
  have hclosed : R w (w.closed bound.2 i k) :=
    h.trans (h.trans hopened (h.holding _ hbound)) (h.modifyDocument ..)
  rcases bound with ⟨fault | ⟨⟩, after⟩
  · exact hclosed
  · exact h.trans (h.trans hclosed (h.emit ..)) (h.emit ..)

/-- Whatever the names and renderings are, the relation respects them. -/
theorem editsRespect (h : Elementary R) : EditsRespect R where
  refl := h.refl
  trans := h.trans
  rename f hw _ := h.trans hw (h.rename _ f)
  emit := h.emit
  setState _ := h.setState ..
  modifyDocument := h.modifyDocument
  setLabel := h.setLabel
  observe := h.observe
  newCollector := h.newCollector
  newDocument := h.newDocument
  renderBinding index _ := h.renderBinding _ _ index
  compile := h.compile

theorem perform (h : Elementary R) {edit : Edit} {answer : Answer}
    (hedit : w.perform edit = .ok (answer, w')) : R w w' :=
  h.editsRespect.perform hedit

end Elementary

/-! ## Runs -/

/-- A relation that is respected by the parts of which runs are made. -/
structure RunsRespect (R : Session → Session → Prop) : Prop where
  refl : ∀ w, R w w
  trans : ∀ {w w' w''}, R w w' → R w' w'' → R w w''
  perform : ∀ {w w' edit answer}, w.perform edit = .ok (answer, w') → R w w'
  addSubscriber : ∀ w name program limit, R w (w.addSubscriber name program limit)
  emit : ∀ w event, R w (w.emit event)
  record : ∀ w entry, R w (w.record entry)
  countRun : ∀ w s, R w (w.countRun s)
  renderBinding : ∀ {w set} index, w.isAlive set = true → R w (w.renderBinding set index).2
  /-- Only properties that are there are written to. -/
  written : ∀ {w h} v, (w.state h.state).contains h.path = true → R w (w.written h v)
  /-- What is kept alive for a while is let go of again. No other sets are kept than living ones. -/
  holding : ∀ {w w'} holdings, (∀ set, Holding.bindings set ∈ holdings → w.isAlive set = true) →
    R (w.hold holdings) w' → R w (w'.holdAs w)
  /-- A collector that has been busy for a while is not busy any more. -/
  collecting : ∀ {w w' c s busy}, (w.collector c).start s = .ok busy →
    R (w.setCollector c busy) w' → R w (w'.setCollector c (w'.collector c).finish)

/-- Most parts of runs are made of what edits are made of. -/
theorem EditsRespect.runsRespect (h : EditsRespect R)
    (haddSubscriber : ∀ w name program limit, R w (w.addSubscriber name program limit))
    (hrecord : ∀ w entry, R w (w.record entry)) (hcountRun : ∀ w s, R w (w.countRun s))
    (hholding : ∀ {w w'} holdings,
      (∀ set, Holding.bindings set ∈ holdings → w.isAlive set = true) →
      R (w.hold holdings) w' → R w (w'.holdAs w))
    (hcollecting : ∀ {w w' c s busy}, (w.collector c).start s = .ok busy →
      R (w.setCollector c busy) w' → R w (w'.setCollector c (w'.collector c).finish))
    (hwritten : ∀ {w h} v, (w.state h.state).contains h.path = true → R w (w.written h v)) :
    RunsRespect R where
  refl := h.refl
  trans := h.trans
  perform := h.perform
  addSubscriber := haddSubscriber
  emit := h.emit
  record := hrecord
  countRun := hcountRun
  renderBinding := h.renderBinding
  written := hwritten
  holding := hholding
  collecting := hcollecting

/-- Whichever sets are kept alive and rendered, the relation respects it. -/
theorem Elementary.runsRespect (h : Elementary R)
    (haddSubscriber : ∀ w name program limit, R w (w.addSubscriber name program limit))
    (hrecord : ∀ w entry, R w (w.record entry)) (hcountRun : ∀ w s, R w (w.countRun s))
    (hcollecting : ∀ {w w' c s busy}, (w.collector c).start s = .ok busy →
      R (w.setCollector c busy) w' → R w (w'.setCollector c (w'.collector c).finish)) :
    RunsRespect R :=
  h.editsRespect.runsRespect haddSubscriber hrecord hcountRun (fun holdings _ => h.holding holdings)
    hcollecting fun {w p} _ _ => h.trans (h.setState w p.state _) (h.emit ..)

namespace RunsRespect

variable {tell : Telling} {depth : Nat}

/-- Subscribers are no sets of bindings, so that any of them may be kept alive. -/
theorem holding_subscribers (h : RunsRespect R) (ss : List SubscriberId)
    (hw : R (w.hold (ss.map .subscriber)) w') : R w (w'.holdAs w) :=
  h.holding _ (fun set hset => by simp at hset) hw

/-- What comes after a run, if it returns. -/
theorem after {α β : Type} (h : RunsRespect R) (run : Run α) {next : α → Run β}
    (hnext : ∀ a w', R w' (next a w').2) (w : Session) : R (run w).2 ((run >>= next) w).2 := by
  cases hfirst : run w with
  | mk outcome w' =>
    cases outcome with
    | returned a =>
      rw [Run.bind_returned hfirst]
      exact hnext a w'
    | abandoned =>
      rw [Run.bind_abandoned hfirst]
      exact h.refl w'

/-- A run and what comes after it. -/
theorem bind {α β : Type} {run : Run α} {next : α → Run β} (h : RunsRespect R)
    (hrun : R w (run w).2) (hnext : ∀ a w', R w' (next a w').2) : R w ((run >>= next) w).2 :=
  h.trans hrun (h.after run hnext w)

theorem tellEach (h : RunsRespect R) (htell : ∀ s w, R w (tell s w).2) (ss : List SubscriberId)
    (w : Session) : R w (tellEach tell ss w).2 := by
  induction ss generalizing w with
  | nil => exact h.refl w
  | cons s rest ih =>
    rw [Session.tellEach]
    exact h.bind (h.holding_subscribers _ (htell s _)) fun _ w' => ih w'

theorem write (h : RunsRespect R) (htell : ∀ s w, R w (tell s w).2) (p : PropertyHandle) (v : Value)
    (w : Session) : R w (write tell p v w).2 := by
  cases hthere : (w.state p.state).contains p.path with
  | false =>
    rw [write_of_not_contains tell v hthere]
    exact h.refl w
  | true =>
    rw [write_of_contains tell v hthere, Run.snd_bind_pure]
    exact h.trans (h.written v hthere) (h.tellEach htell _ _)

mutual
/-- Steps respect the relation, given that whoever is told does. -/
theorem take_of_tell (h : RunsRespect R) (htell : ∀ s w, R w (tell s w).2) :
    ∀ (s : Step) (w : Session), R w (take tell s w).2
  | .ask question, w => by
    rw [Session.take]
    dsimp only
    split <;> exact h.refl w
  | .edit edit, w => by
    rw [Session.take]
    dsimp only
    split
    · next hedit => exact h.perform hedit
    · exact h.refl w
  | .newSubscriber name program limit, w => by
    rw [Session.take]
    exact h.addSubscriber ..
  | .update name, w => by
    rw [Session.take]
    dsimp only
    split
    · next s _ =>
      rw [Run.snd_holding, Run.snd_bind_pure]
      exact h.holding_subscribers [s] (htell s _)
    · exact h.refl w
  | .notify name, w => by
    rw [Session.take]
    dsimp only
    split
    · rw [Run.snd_bind_pure]
      exact h.tellEach htell _ w
    · exact h.refl w
  | .write target v, w => by
    rw [Session.take]
    dsimp only
    split
    · next p holdings htarget =>
      rw [Run.snd_holding]
      exact h.holding _ (fun set hset => isAlive_of_requireTarget htarget hset)
        (h.write htell p v _)
    · exact h.refl w
    · exact h.refl w
  | .collect collector subscriber body, w => by
    rw [Session.take]
    dsimp only
    split
    · next s c _ =>
      split
      · next busy hbusy =>
        rw [Run.snd_holding, Run.snd_collecting, Run.snd_bind_pure]
        exact h.holding _ (fun set hset => isAlive_of_mem_collecting hset)
          (h.collecting hbusy (h.takeAll_of_tell htell body _))
      · exact h.emit ..
    · exact h.refl w
  | .abandon, w => h.refl w
  | .recover body, w => by
    have hbody := h.takeAll_of_tell htell body w
    rw [Session.take]
    dsimp only
    split
    · next htake => rwa [htake] at hbody
    · next htake => rwa [htake] at hbody
  | .unknown verb, w => h.refl w
termination_by structural s => s

theorem takeAll_of_tell (h : RunsRespect R) (htell : ∀ s w, R w (tell s w).2) :
    ∀ (ss : List Step) (w : Session), R w (takeAll tell ss w).2
  | [], w => h.refl w
  | s :: rest, w => by
    rw [Session.takeAll]
    apply h.bind (h.take_of_tell htell s w)
    intro answer w'
    rw [Run.snd_bind_pure]
    exact h.takeAll_of_tell htell rest w'
termination_by structural ss => ss
end

theorem runProgram (h : RunsRespect R) (htell : ∀ s w, R w (tell s w).2) (label : String)
    (ss : List Step) (w : Session) : R w (runProgram tell label ss w).2 := by
  induction ss generalizing w with
  | nil => exact h.refl w
  | cons s rest ih =>
    rw [Session.runProgram]
    apply h.bind (h.take_of_tell htell s w)
    exact fun answer w' => h.trans (h.record w' (.taken label answer)) (ih _)

theorem respond (h : RunsRespect R) {run : String → List Step → Run Unit}
    (hrun : ∀ label steps w, R w (run label steps w).2) (s : SubscriberId) (w : Session) :
    R w (respond run s w).2 := by
  rw [Session.respond]
  split
  · exact h.refl w
  · next set index _ =>
    split
    · next halive => exact h.renderBinding index halive
    · exact h.refl w
  · have hcounted := h.trans (h.countRun w s) (h.record _ (.told (w.labelOf s)))
    dsimp only
    split
    · exact h.trans hcounted (hrun ..)
    · exact hcounted

/-- Whoever is told respects the relation, at any depth. -/
theorem telling (h : RunsRespect R) (depth : Nat) (s : SubscriberId) (w : Session) :
    R w (telling depth s w).2 := by
  induction depth generalizing s w with
  | zero =>
    rw [Session.telling]
    exact h.respond (fun _ _ w => h.refl w) s w
  | succ depth ih =>
    rw [Session.telling]
    exact h.respond (h.runProgram ih) s w

/-- A step respects the relation, however it ends. -/
theorem take (h : RunsRespect R) (depth : Nat) (s : Step) (w : Session) :
    R w (take (Session.telling depth) s w).2 :=
  h.take_of_tell (h.telling depth) s w

theorem of_take (h : RunsRespect R) {s : Step} {outcome : Outcome Answer}
    (htake : Session.take (Session.telling depth) s w = (outcome, w')) : R w w' := by
  have hleft := h.take depth s w
  rwa [htake] at hleft

theorem of_telling (h : RunsRespect R) {s : SubscriberId} {outcome : Outcome Unit}
    (htold : Session.telling depth s w = (outcome, w')) : R w w' := by
  have hleft := h.telling depth s w
  rwa [htold] at hleft

/-! ## Every moment -/

/-- What the relation preserves holds at every moment of a task, if it holds at the beginning, and
if keeping things alive and making a collector busy do not disturb it. -/
theorem during (h : RunsRespect R) {P : Session → Prop} (hpreserved : ∀ {w w'}, R w w' → P w → P w')
    (hhold : ∀ w holdings, (∀ set, Holding.bindings set ∈ holdings → w.isAlive set = true) →
      P w → P (w.hold holdings))
    (hbusy : ∀ {w c s busy}, (w.collector c).start s = .ok busy → P w → P (w.setCollector c busy))
    {task : Task} {waiting : List SubscriberId} {m : Moment} (hm : During depth task w waiting m)
    (hw : P w) : P m.session := by
  have hsubscribers : ∀ (w : Session) (ss : List SubscriberId),
      P w → P (w.hold (ss.map .subscriber)) := fun w ss =>
    hhold w _ fun set hset => by simp at hset
  -- On the way to the moment. Where it leads past a part of the run, that part has respected the
  -- relation.
  induction hm with
  | steps => exact hw
  | stepsHead _ ih => exact ih hw
  | @stepsTail depth s rest w w₁ answer waiting m htake _ ih =>
    apply ih
    have hfirst := h.take depth s w
    rw [htake] at hfirst
    exact hpreserved hfirst hw
  | program => exact hw
  | programHead _ ih => exact ih hw
  | @programTail depth label s rest w w₁ answer waiting m htake _ ih =>
    apply ih
    have hfirst := h.take depth s w
    rw [htake] at hfirst
    exact hpreserved (h.trans hfirst (h.record ..)) hw
  | update _ _ ih => exact ih (hsubscribers _ [_] hw)
  | notify _ _ ih => exact ih hw
  | write htarget hthere _ ih =>
    apply ih
    have hheld := hhold _ _ (fun set hset => isAlive_of_requireTarget htarget hset) hw
    exact hpreserved (h.written _ hthere) hheld
  | collect _ hstart _ ih =>
    exact ih (hbusy hstart (hhold _ _ (fun set hset => isAlive_of_mem_collecting hset) hw))
  | recover _ ih => exact ih hw
  | tell => exact hw
  | tellProgram _ _ _ ih => exact ih (hpreserved (h.trans (h.countRun ..) (h.record ..)) hw)
  | tellEachHead _ ih => exact ih (hsubscribers _ _ hw)
  | @tellEachTail depth s rest w w₁ waiting m hreturned _ ih =>
    exact ih (hpreserved (h.holding_subscribers _ (h.of_telling hreturned)) hw)

end RunsRespect

end LiveText.Session
