import Mathlib
import LiveText.Proofs.Session.Concern

/-!
# Dropped bindings

A set of bindings that nothing keeps any more is gone for good, even if it is dropped while its
subscribers wait to be told. Those that still wait do nothing when their turn comes, and when the
notifications that were under way are over nobody knows them any more.

## Main definitions

- `Stage.Calm`: nobody whom the stage concerns renders a binding.
- `Stage.Quiet`, `Moment.Quiet`: a set is gone and nobody has anything to do with it.
- `Inert`: what stays of a set that is gone.
- `Forgotten`: nobody lists or counts a subscriber any more.

## Main statements

- `Part.calm`, `Part.quiet`: calm and quiet stages have calm and quiet parts.
- `dropped_bindings_are_inert`: what becomes of a set of bindings that is gone.
-/

namespace LiveText.Session

variable {w : Session} {st part head tail : Stage} {m m' : Moment} {ended : Prop}

/-! ## Calm and quiet stages -/

/-- Nobody whom the stage concerns renders a binding. -/
def Stage.Calm (st : Stage) : Prop :=
  ∀ s, st.Concerns s → ∀ set index, ¬ st.session.Renders s set index

theorem calm_stageOf {s : Step} (hheld : w.held = []) : (w.stageOf s).Calm :=
  fun _ ht => absurd ht (not_concerns_stageOf hheld)

/-- As long as no notification is under way, only subscribers with names are concerned. -/
theorem Part.calm (hpart : Part st part) (hno : ¬ part.IsNotification) (hmade : st.Made)
    (h : st.Calm) : part.Calm := by
  intro s hs set index hrenders
  rcases hpart.concerns hs with hs | ⟨e, he, rfl⟩ | ⟨hnotification, -⟩
  · rw [hpart.onward.known s (hmade.concerned s hs)] at hrenders
    exact h s hs set index hrenders
  · rw [hpart.onward.known _ (hmade.session.named e he)] at hrenders
    exact hmade.session.programs e he set index hrenders
  · exact hno hnotification

/-- The set is gone, and nobody whom the stage concerns belongs to it. -/
structure Stage.Quiet (set : BindingSetId) (st : Stage) : Prop where
  made : set < st.session.bindingSets.size
  gone : st.session.isAlive set = false
  concerned : ∀ s index, st.Concerns s → ¬ st.session.Renders s set index

/-- Notifications tell only those who live, so that nobody of a set that is gone is concerned. -/
theorem Part.quiet {set : BindingSetId} (hpart : Part st part) (hmade : st.Made)
    (h : st.Quiet set) : part.Quiet set := by
  refine ⟨h.made.trans_le hpart.onward.sets, hpart.onward.isAlive_eq_false h.made h.gone, ?_⟩
  intro s index hs hrenders
  -- New subscribers belong to new sets.
  have hsize : s < st.session.subscribers.size := by
    by_contra hnew
    have hle := hpart.onward.new s set index (Nat.le_of_not_lt hnew) hrenders
    exact absurd h.made (Nat.not_lt_of_le hle)
  rw [hpart.onward.known s hsize] at hrenders
  rcases hpart.concerns hs with hs | ⟨e, he, rfl⟩ | ⟨-, hlive⟩
  · exact h.concerned s index hs hrenders
  · exact hmade.session.programs e he set index hrenders
  · -- Whoever is told lives, and nobody of the set does.
    have hheld := fun hheld => h.concerned s index (.inr (.inr hheld)) hrenders
    have hdead := isLive_eq_false hmade.session hrenders h.gone hheld
    exact absurd (hdead.symm.trans hlive) Bool.false_ne_true

/-- A calm stage is quiet about each set that is gone. -/
theorem Stage.Calm.quiet {set : BindingSetId} (h : st.Calm)
    (hmade : set < st.session.bindingSets.size) (hgone : st.session.isAlive set = false) :
    st.Quiet set :=
  ⟨hmade, hgone, fun s index hs => h s hs set index⟩

/-- The moment has nothing to do with the set: it is gone, and its subscribers neither wait nor are
kept alive. -/
structure Moment.Quiet (set : BindingSetId) (m : Moment) : Prop where
  gone : m.session.isAlive set = false
  waiting : ∀ s index, m.session.Renders s set index → s ∉ m.waiting
  dead : ∀ s index, m.session.Renders s set index → m.session.isLive s = false

/-- During a quiet stage nobody has anything to do with the set. -/
theorem Stage.Quiet.during {set : BindingSetId} (hm : st.During m) (h : st.Quiet set)
    (hmade : st.Made) : m.Quiet set := by
  revert h hmade
  refine hm.induction (motive := fun st m => st.Quiet set → st.Made → m.Quiet set) ?first ?part
  case first =>
    intro st m hfirst h hmade
    have hsession := Stage.session_of_first? hfirst
    refine ⟨hsession ▸ h.gone, fun s index hrenders hs => ?_, fun s index hrenders => ?_⟩
    · rw [hsession] at hrenders
      exact h.concerned s index (Stage.concerns_of_first? hfirst (.inl hs)) hrenders
    · have hheld : Holding.subscriber s ∉ m.session.held := by
        intro hheld
        have hs := Stage.concerns_of_first? hfirst (.inr hheld)
        exact h.concerned s index hs (hsession ▸ hrenders)
      rw [hsession] at hrenders hheld ⊢
      exact isLive_eq_false hmade.session hrenders h.gone hheld
  case part =>
    intro st part m hpart _ ih h hmade
    exact ih (hpart.quiet hmade h) (hpart.made hmade)

/-- Where the notifications have to have ended, the stage is none. -/
theorem Later.not_isNotification (h : Later ended st m m') (hended : ended) :
    ¬ st.IsNotification := by
  cases h with
  | first hfirst =>
    rintro ⟨ss, hss⟩
    obtain ⟨depth, task, w, waiting⟩ := st
    cases hss
    cases hfirst
  | part _ hno | across _ hno => exact hno hended

/-- What is left of a stage is a notification only if the stage is one. -/
theorem Before.not_isNotification (h : Before st head tail) (hno : ¬ st.IsNotification) :
    ¬ tail.IsNotification := by
  rintro ⟨ss, hss⟩
  cases h with
  | steps h | program h => cases hss
  | tellEach h => exact hno ⟨_, rfl⟩

/-- Once the notifications that were under way have ended, nobody has anything to do with a set that
was gone. -/
theorem Later.quiet {set : BindingSetId} (h : Later True st m m') (hmade : st.Made)
    (hcalm : st.Calm) (hset : set < m.session.bindingSets.size)
    (hgone : m.session.isAlive set = false) : m'.Quiet set := by
  induction h with
  | @first st m m' hfirst hm' =>
    rw [Stage.session_of_first? hfirst] at hset hgone
    exact (hcalm.quiet hset hgone).during hm' hmade
  | part hpart _ h ih =>
    have hno := h.not_isNotification trivial
    exact ih (hpart.made hmade) (hpart.calm hno hmade hcalm) hset hgone
  | @across st head tail m m' hbefore hno hm hm' =>
    have htail := hbefore.parts.2
    have honward := hm.onward.2.trans hbefore.onward
    have hcalm' := htail.calm (hbefore.not_isNotification (hno trivial)) hmade hcalm
    exact (hcalm'.quiet (hset.trans_le honward.sets) (honward.isAlive_eq_false hset hgone)).during
      hm' (htail.made hmade)

/-- If a set is gone between steps of the session itself, nobody has anything to do with it. -/
theorem DuringScript.quiet {ss : List Step} {set : BindingSetId} (hm : DuringScript ss w m)
    (hmade : Made w) (hheld : w.held = []) (hset : set < w.bindingSets.size)
    (hgone : w.isAlive set = false) : m.Quiet set := by
  induction hm with
  | @here ss w =>
    refine ⟨hgone, fun _ _ _ => List.not_mem_nil, fun s index hrenders => ?_⟩
    exact isLive_eq_false hmade hrenders hgone fun hkept =>
      absurd (hheld ▸ hkept) List.not_mem_nil
  | @head s rest w m hm =>
    have hstage : (w.stageOf s).During m := hm
    have hquiet : (w.stageOf s).Quiet set := (calm_stageOf hheld).quiet hset hgone
    exact hquiet.during hstage (hmade.stageOf hheld s)
  | @tail s rest w m _ ih =>
    have honward := (w.stageOf s).onward_left.1
    rw [← snd_step] at honward
    exact ih (hmade.step s) ((held_step w s).trans hheld) (hset.trans_le honward.sets)
      (honward.isAlive_eq_false hset hgone)

theorem LaterScript.quiet {ss : List Step} {set : BindingSetId}
    (h : LaterScript True ss w m m') (hmade : Made w) (hheld : w.held = [])
    (hset : set < m.session.bindingSets.size) (hgone : m.session.isAlive set = false) :
    m'.Quiet set := by
  induction h with
  | here hm' => exact hm'.quiet hmade hheld hset hgone
  | @head s rest w m m' h =>
    exact h.quiet (hmade.stageOf hheld s) (calm_stageOf hheld) hset hgone
  | @across s rest w m m' hm hm' =>
    have honward := hm.onward.2
    rw [← snd_step] at honward
    exact hm'.quiet (hmade.step s) ((held_step w s).trans hheld)
      (hset.trans_le honward.sets) (honward.isAlive_eq_false hset hgone)
  | @tail s rest w m m' h ih =>
    exact ih (hmade.step s) ((held_step w s).trans hheld) hset hgone

/-! ## Dropped bindings -/

/-- No rendering of a binding goes unnoticed: each is counted. -/
theorem bindings_renderBinding_ne {set : BindingSetId} {index : Nat} {b : Binding}
    (hb : w.binding? set index = some b) :
    (w.renderBinding set index).2.bindings set ≠ w.bindings set := by
  intro heq
  obtain ⟨b', hb', -, hattempts⟩ := binding?_renderBinding hb
  rw [binding?, heq] at hb'
  cases hb.symm.trans hb'
  exact absurd hattempts (Nat.succ_ne_self _).symm

/-- A subscriber of a binding that is gone does nothing, whoever tells it. -/
theorem telling_of_gone {set : BindingSetId} {s : SubscriberId} {index : Nat} (depth : Nat)
    (hrenders : w.Renders s set index) (hgone : w.isAlive set = false) :
    telling depth s w = (.returned (), w) := by
  rw [telling_of_binding depth hrenders, hgone]
  rfl

/-- A set of bindings that is gone at the first moment is inert at the second. -/
structure Inert (set : BindingSetId) (m m' : Moment) : Prop where
  gone : m'.session.isAlive set = false
  /-- No name reaches it. -/
  unreached : ∀ app document d, m'.session.requireBindings app document ≠ .ok (set, d)
  /-- Its bindings stay as they are, which they do not when one of them is rendered. -/
  bindings : m'.session.bindings set = m.session.bindings set
  unrendered : ∀ (u : Session) index b, u.bindings set = m.session.bindings set →
    u.binding? set index = some b →
    (u.renderBinding set index).2.bindings set ≠ m'.session.bindings set
  /-- No subscriber is new to them, and theirs do nothing when they are told. -/
  subscribers : ∀ s index, m'.session.Renders s set index → m.session.Renders s set index
  silent : ∀ s index, m'.session.Renders s set index → ∀ depth,
    telling depth s m'.session = (.returned (), m'.session)

/-- The subscriber does not wait to be told, and no publisher and no property lists or counts it. -/
structure Forgotten (m : Moment) (s : SubscriberId) : Prop where
  waiting : s ∉ m.waiting
  dead : m.session.isLive s = false
  unlisted : ∀ p : Publisher,
    s ∉ p.subscribers m.session.isLive ∧ p.contains m.session.isLive s = false
  uncounted : ∀ p : Publisher, p.count m.session.isLive =
    (p.arrivals.filter (· ≠ s)).countP m.session.isLive
  unread : ∀ i q, s ∉ (m.session.state i).readers m.session.isLive q
  uncounted_read : ∀ i q, (m.session.state i).subscriberCount m.session.isLive q =
    (((m.session.state i).publisherAt q).arrivals.filter (· ≠ s)).countP m.session.isLive

theorem Moment.Quiet.forgotten {set : BindingSetId} (h : m.Quiet set) {s : SubscriberId}
    {index : Nat} (hrenders : m.session.Renders s set index) : Forgotten m s := by
  have hdead := Publisher.subscribers_of_dead (h.dead s index hrenders)
  exact {
    waiting := h.waiting s index hrenders
    dead := h.dead s index hrenders
    unlisted := fun p => ⟨(hdead p).1, (hdead p).2.1⟩
    uncounted := fun p => (hdead p).2.2
    unread := fun i q => (hdead ((m.session.state i).publisherAt q)).1
    uncounted_read := fun i q => (State.subscriberCount_eq ..).trans
      (hdead ((m.session.state i).publisherAt q)).2.2 }

theorem LaterScript.inert {script : List Step} (h : LaterScript ended script w m m')
    {set : BindingSetId} (hset : set < m.session.bindingSets.size)
    (hdropped : m.session.isAlive set = false) : Inert set m m' := by
  have honward := h.onward
  have hgone := honward.isAlive_eq_false hset hdropped
  have hbindings := honward.bindings set hset hdropped
  refine ⟨hgone, fun app document d hreached => ?unreached, hbindings,
    fun u index b hu hb => ?unrendered, fun s index hrenders => ?subscribers,
    fun s index hrenders depth => telling_of_gone depth hrenders hgone⟩
  case unreached => exact absurd (hgone.symm.trans (isAlive_of_requireBindings hreached)) (by simp)
  case unrendered =>
    rw [hbindings, ← hu]
    exact bindings_renderBinding_ne hb
  case subscribers =>
    -- The set had its subscribers when it was dropped.
    have hknown : s < m.session.subscribers.size := by
      by_contra hnew
      have hle := honward.new s set index (Nat.le_of_not_lt hnew) hrenders
      exact absurd hset (Nat.not_lt_of_le hle)
    exact (honward.known s hknown set index).mp hrenders

/-- Dropped bindings are inert. Each moment of a script comes before or after the one at which
nothing keeps a set of bindings any more, however deep inside a run that is. After it this stays so,
and none of the bindings is rendered again. When the notifications are over that were under way as
the set was dropped, its subscribers are forgotten. -/
theorem dropped_bindings_are_inert {script : List Step} {m : Moment}
    (hm : DuringScript script {} m) {set : BindingSetId}
    (hset : set < m.session.bindingSets.size) (hdropped : m.session.isAlive set = false) :
    (∀ m', DuringScript script {} m' ↔
      LaterScript False script {} m' m ∨ LaterScript False script {} m m') ∧
    ∀ ended m', LaterScript ended script {} m m' → Inert set m m' ∧
      (ended → ∀ s index, m'.session.Renders s set index → Forgotten m' s) := by
  refine ⟨fun m' => ⟨fun hm' => duringScript_later hm' hm, ?_⟩, fun ended m' h => ?_⟩
  · rintro (h | h)
    · exact h.during.1
    · exact h.during.2
  · refine ⟨h.inert hset hdropped, fun hended s index hrenders => ?_⟩
    have hquiet := (eq_true hended ▸ h).quiet made_empty rfl hset hdropped
    exact hquiet.forgotten hrenders

/-- A subscriber and a text read the same name, and the subscriber drops the texts when it is told
of a change. -/
def farewell : List Step :=
  [.edit (.observe "data" (.object [("name", .str "Ada")])),
    .edit (.newCollector "readers"),
    .newSubscriber "drop" [.edit (.drop "app" "texts")] 1,
    .collect "readers" "drop" [.edit (.readTracked "data" ⟨["name"]⟩ "readers")],
    .edit (.newDocument "page" (some "<p>\x7b\x7bname\x7d\x7d</p>")),
    .edit (.compile "texts" "page" 0 "data" "readers"),
    .write (.state "data" ⟨["name"]⟩) (.str "Eve")]

/-- The session after the first steps. -/
def afterFarewell (n : Nat) : Session :=
  (farewell.take n).foldl (fun w s => (w.step s).2) {}

/-- The session in which the readers of the name are told of the new one. -/
def parting : Session :=
  (afterFarewell 6).written ⟨0, ⟨["name"]⟩⟩ (.str "Eve")

/-- The session in which the text is told, after the subscriber has been. -/
def parted : Session :=
  ((telling 1 0 (parting.hold [.subscriber 0, .subscriber 1])).2.holdAs parting).hold
    [.subscriber 1]

/-- The text waits to be told when its bindings are dropped. -/
theorem during_parting :
    ((afterFarewell 6).stageOf (.write (.state "data" ⟨["name"]⟩) (.str "Eve"))).During
      (.told 1 1 parted []) := by
  have hreaders : ((afterFarewell 6).state 0).readers ((afterFarewell 6).hold []).isLive
      ⟨["name"]⟩ = [0, 1] := by decide +kernel
  have hpromised : (afterFarewell 6).promised +
      (Step.write (.state "data" ⟨["name"]⟩) (.str "Eve")).promised = 1 := by decide +kernel
  have htold : (telling 1 0 (parting.hold ([0, 1].map .subscriber))).1.hasReturned = true := by
    decide +kernel
  rw [stageOf, hpromised]
  have htarget : (afterFarewell 6).requireTarget (.state "data" ⟨["name"]⟩) =
      .ok (.ok ⟨0, ⟨["name"]⟩⟩, []) := by decide +kernel
  refine .write htarget (by decide +kernel) ?_
  rw [hreaders]
  exact .tellEachTail (Run.returned_of_hasReturned htold) (.tellEachHead .tell)

/-- A text whose bindings have been dropped while it waited stays as it is. It is still registered
with the name, but nobody lists or counts it any more. -/
theorem text_after_farewell :
    parted.isAlive 0 = false ∧ parted.Renders 1 0 0 ∧
      (afterFarewell 7).bindings 0 = parted.bindings 0 ∧
      ((afterFarewell 7).document 0).text 2 = "Ada" ∧
      (((afterFarewell 7).state 0).publisherAt ⟨["name"]⟩).arrivals = [0, 1] ∧
      1 ∉ ((afterFarewell 7).state 0).readers (afterFarewell 7).isLive ⟨["name"]⟩ ∧
      ((afterFarewell 7).state 0).subscriberCount (afterFarewell 7).isLive ⟨["name"]⟩ = 1 := by
  have hafter : LaterScript True farewell {} (.told 1 1 parted [])
      (.ahead [] (afterFarewell 7) []) :=
    .tail (.tail (.tail (.tail (.tail (.tail (.across during_parting .here))))))
  have hset : 0 < parted.bindingSets.size := by decide +kernel
  have hdropped : parted.isAlive 0 = false := by decide +kernel
  obtain ⟨hinert, hended⟩ :=
    (dropped_bindings_are_inert hafter.during.1 hset hdropped).2 True _ hafter
  have hrenders : (afterFarewell 7).Renders 1 0 0 := by decide +kernel
  have hforgotten := hended trivial 1 0 hrenders
  have harrivals : (((afterFarewell 7).state 0).publisherAt ⟨["name"]⟩).arrivals = [0, 1] := by
    decide +kernel
  refine ⟨hdropped, hinert.subscribers 1 0 hrenders, hinert.bindings, by decide +kernel, harrivals,
    hforgotten.unread 0 ⟨["name"]⟩, (hforgotten.uncounted_read 0 ⟨["name"]⟩).trans ?_⟩
  rw [show (Moment.ahead [] (afterFarewell 7) []).session = afterFarewell 7 from rfl, harrivals]
  decide +kernel

end LiveText.Session
