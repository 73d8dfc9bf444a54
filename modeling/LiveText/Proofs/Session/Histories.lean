import Mathlib
import LiveText.Proofs.Session.Cascading
import LiveText.Proofs.Session.Notification
import LiveText.Proofs.State.Past

/-!
# Histories in sessions

Many things happen in a session between two events of one of its states: others are told, sets of
bindings are made and dropped, subscribers come and go. Yet at every moment each state is one that a
history of its own has left, in which nobody has died who lives, or who waits to be told. So what is
known of a state with any history is known of every state of every session.

Deaths are put into the history as late as possible: before something is read or written, it catches
up with those who have died meanwhile. This does no harm to those who wait, since they are kept
alive.

## Main definitions

- `Historical`: each state has such a past.
- `Moment.WellFormed`: the data that is about to come in has no key twice.

## Main statements

- `Historical.renderBinding`, `Historical.compile`, `Historical.perform`: parts of runs.
- `cascadesRespect_historical`: whole cascades.
- `states_have_pasts`: the states of a session at every moment of a script.
- `readers_have_read_above`: so readers are readers of everything above, at every such moment.
- `readers_below_are_told`: whom a write tells.
-/

namespace LiveText.Session

variable {w w' : Session} {waiting waiting' : List SubscriberId}

/-- Each state is as its past has left it, and those who have died in it neither live nor wait.
All subscribers that are known to somebody have been made, and so have their sets. -/
structure Historical (w : Session) (waiting : List SubscriberId) : Prop where
  pasts : ∀ i, ∃ past : State.Past, w.state i = past.now.state ∧
    ∀ s ∈ past.now.dead, s < w.subscribers.size ∧ w.isLive s = false ∧ s ∉ waiting
  known : ∀ i, (w.state i).Below w.subscribers.size
  collecting : ∀ c s, (w.collector c).active = some s → s < w.subscribers.size
  bound : ∀ set index b, w.binding? set index = some b → b.subscriber < w.subscribers.size
  placed : ∀ s set index, w.Renders s set index → set < w.bindingSets.size
  numbered : ∀ s, w.isLive s = true ∨ s ∈ waiting → s < w.subscribers.size

theorem historical_empty : Historical {} [] where
  pasts i := ⟨.begin .null .null, rfl, fun s hs => absurd hs List.not_mem_nil⟩
  known i := State.below_observe _ .null
  collecting c s hs := by cases hs
  bound set index b hb := by cases hb
  placed s set index hs := by cases hs
  numbered s hs := by
    rcases hs with hs | hs
    · rcases isLive_iff.mp hs with ⟨e, he, -⟩ | hs | ⟨set, index, hs, -⟩
      · cases he
      · cases hs
      · cases hs
    · cases hs

namespace Historical

/-! ## Changes that are not about states -/

/-- States stay as they are, and only new subscribers begin to live or to wait. -/
theorem keep (h : Historical w waiting) (hstates : ∀ i, w'.state i = w.state i)
    (hsize : w.subscribers.size ≤ w'.subscribers.size)
    (hconcerned : ∀ s, w'.isLive s = true ∨ s ∈ waiting' → (w.isLive s = true ∨ s ∈ waiting) ∨
      w.subscribers.size ≤ s ∧ s < w'.subscribers.size)
    (hcollecting : ∀ c s, (w'.collector c).active = some s → s < w'.subscribers.size)
    (hbound : ∀ set index b, w'.binding? set index = some b →
      b.subscriber < w'.subscribers.size)
    (hplaced : ∀ s set index, w'.Renders s set index → set < w'.bindingSets.size) :
    Historical w' waiting' where
  pasts i := by
    obtain ⟨past, hstate, hdead⟩ := h.pasts i
    refine ⟨past, (hstates i).trans hstate, fun s hs => ?_⟩
    obtain ⟨hlt, hgone, hwaits⟩ := hdead s hs
    -- Who has died was there, and has neither lived nor waited since.
    have hnot : ¬ (w'.isLive s = true ∨ s ∈ waiting') := by
      intro hs'
      rcases hconcerned s hs' with (hlive | hwait) | ⟨hnew, -⟩
      · exact Bool.false_ne_true (hgone.symm.trans hlive)
      · exact hwaits hwait
      · exact absurd hlt (Nat.not_lt_of_le hnew)
    exact ⟨hlt.trans_le hsize, Bool.eq_false_iff.mpr fun hlive => hnot (.inl hlive),
      fun hwait => hnot (.inr hwait)⟩
  known i := hstates i ▸ (h.known i).mono hsize
  collecting := hcollecting
  bound := hbound
  placed := hplaced
  numbered s hs := by
    rcases hconcerned s hs with hs | ⟨-, hs⟩
    · exact (h.numbered s hs).trans_le hsize
    · exact hs

/-- States, subscribers and their bindings stay, and nobody begins to live or to wait. -/
theorem of_eq (h : Historical w waiting) (hstates : w'.states = w.states)
    (hcollectors : w'.collectors = w.collectors) (hsets : w'.bindingSets = w.bindingSets)
    (hsubscribers : w'.subscribers = w.subscribers)
    (hconcerned : ∀ s, w'.isLive s = true ∨ s ∈ waiting' → w.isLive s = true ∨ s ∈ waiting) :
    Historical w' waiting' := by
  apply h.keep (state_congr hstates)
  · exact (congrArg Array.size hsubscribers).ge
  · exact fun s hs => .inl (hconcerned s hs)
  · intro c s hs
    rw [collector_congr hcollectors] at hs
    exact hsubscribers ▸ h.collecting c s hs
  · intro set index b hb
    rw [binding?, bindings, hsets] at hb
    exact hsubscribers ▸ h.bound set index b hb
  · intro s set index hs
    rw [Renders, hsubscribers] at hs
    exact hsets ▸ h.placed s set index hs

/-- A collector has nobody, or somebody who is there. -/
theorem setCollector (h : Historical w waiting) (c : CollectorId) {collector : Collector}
    (hactive : ∀ s, collector.active = some s → s < w.subscribers.size) :
    Historical (w.setCollector c collector) waiting := by
  refine h.keep (fun _ => rfl) le_rfl (fun s hs => .inl hs) ?_ h.bound h.placed
  intro c' s hs
  rw [collector_setCollector] at hs
  split at hs
  · exact hactive s hs
  · exact h.collecting c' s hs

theorem newCollector (h : Historical w waiting) : Historical w.newCollector.2 waiting := by
  refine h.keep (fun _ => rfl) le_rfl (fun s hs => .inl hs) ?_ h.bound h.placed
  intro c s hs
  rw [Session.newCollector, collector, Array.getElem?_push] at hs
  split at hs
  · cases hs
  · exact h.collecting c s hs

/-- A binding may get another record of its renderings. -/
theorem modifyBinding (h : Historical w waiting) (set : BindingSetId) (index : Nat)
    {f : Binding → Binding} (hf : ∀ b, (f b).subscriber = b.subscriber) :
    Historical (w.modifyBinding set index f) waiting := by
  refine h.keep (fun _ => rfl) le_rfl (fun s hs => .inl hs) h.collecting ?_ ?_
  · intro set' index' b hb
    rw [binding?_modifyBinding] at hb
    split at hb
    · obtain ⟨b', hb', rfl⟩ := Option.map_eq_some_iff.mp hb
      exact hf b' ▸ h.bound set' index' b' hb'
    · exact h.bound set' index' b hb
  · intro s set' index' hs
    exact (h.placed s set' index' hs).trans_eq Array.size_modify.symm

/-- Callbacks stay where they are. -/
theorem withSubscribers (h : Historical w waiting) {subscribers : Array Subscriber}
    (hsize : subscribers.size = w.subscribers.size)
    (hrenders : ∀ s set index, ({ w with subscribers } : Session).Renders s set index ↔
      w.Renders s set index) :
    Historical { w with subscribers } waiting := by
  have hlive : ∀ s, ({ w with subscribers } : Session).isLive s = true → w.isLive s = true := by
    intro s hs
    rcases isLive_iff.mp hs with hnamed | hheld | ⟨set, index, hs, halive⟩
    · exact isLive_iff.mpr (.inl hnamed)
    · exact isLive_iff.mpr (.inr (.inl hheld))
    · exact isLive_iff.mpr (.inr (.inr ⟨set, index, (hrenders s set index).mp hs, halive⟩))
  refine h.keep (fun _ => rfl) hsize.ge (fun s hs => .inl (hs.imp_left (hlive s))) ?_ ?_ ?_
  · exact fun c s hs => hsize.symm ▸ h.collecting c s hs
  · exact fun set index b hb => hsize.symm ▸ h.bound set index b hb
  · exact fun s set index hs => h.placed s set index ((hrenders s set index).mp hs)

/-- What lives may be kept alive, and so may what has not been made yet. -/
theorem hold (h : Historical w waiting) {holdings : List Holding}
    (hsets : ∀ set, Holding.bindings set ∈ holdings →
      w.isAlive set = true ∨ w.bindingSets.size ≤ set)
    (hsubscribers : ∀ s, Holding.subscriber s ∈ holdings → w.isLive s = true ∨ s ∈ waiting) :
    Historical (w.hold holdings) waiting := by
  refine h.of_eq rfl rfl rfl rfl ?_
  rintro s (hs | hs)
  · rcases isLive_iff.mp hs with hnamed | hheld | ⟨set, index, hrenders, halive⟩
    · exact .inl (isLive_iff.mpr (.inl hnamed))
    · rcases List.mem_append.mp hheld with hheld | hheld
      · exact hsubscribers s hheld
      · exact .inl (isLive_iff.mpr (.inr (.inl hheld)))
    · rcases isAlive_hold.mp halive with halive | hset
      · exact .inl (isLive_of_binding hrenders halive)
      · rcases hsets set hset with halive | hnew
        · exact .inl (isLive_of_binding hrenders halive)
        · exact absurd (h.placed s set index hrenders) (Nat.not_lt_of_le hnew)
  · exact .inr hs

/-- What is kept alive may be let go of. -/
theorem holdAs (h : Historical w' waiting) (hheld : ∀ x ∈ w.held, x ∈ w'.held) :
    Historical (w'.holdAs w) waiting := by
  refine h.of_eq rfl rfl rfl rfl ?_
  rintro s (hs | hs)
  · left
    rcases isLive_iff.mp hs with hnamed | hs | ⟨set, index, hrenders, halive⟩
    · exact isLive_iff.mpr (.inl hnamed)
    · exact isLive_iff.mpr (.inr (.inl (hheld _ hs)))
    · refine isLive_of_binding hrenders (isAlive_iff_keep.mpr ?_)
      exact (isAlive_iff_keep.mp halive).imp_right (hheld _)
  · exact .inr hs

/-! ## Changes of states -/

/-- Before something happens to a state, its past catches up with those who have died. -/
theorem caughtUp (h : Historical w waiting) (i : StateId) :
    ∃ past : State.Past, w.state i = past.now.state ∧
      (∀ s < w.subscribers.size, past.now.live s = w.isLive s) ∧
      ∀ s ∈ past.now.dead, s < w.subscribers.size ∧ w.isLive s = false := by
  obtain ⟨past, hstate, hdead⟩ := h.pasts i
  obtain ⟨past', hstate', hdead'⟩ := past.exists_mourning
    ((List.range w.subscribers.size).filter fun s => !w.isLive s)
  have hiff : ∀ s, s ∈ past'.now.dead ↔ s < w.subscribers.size ∧ w.isLive s = false := by
    intro s
    rw [hdead', List.mem_filter, List.mem_range, Bool.not_eq_true']
    exact or_iff_left_of_imp fun hs => ⟨(hdead s hs).1, (hdead s hs).2.1⟩
  refine ⟨past', hstate.trans hstate'.symm, fun s hs => ?_, fun s => (hiff s).mp⟩
  cases hlive : w.isLive s with
  | false =>
    simpa [State.Moment.live] using (hiff s).mpr ⟨hs, hlive⟩
  | true =>
    have hnot : s ∉ past'.now.dead := fun hs' =>
      Bool.false_ne_true (((hiff s).mp hs').2.symm.trans hlive)
    simpa [State.Moment.live] using hnot

/-- A state changes by an event. -/
theorem setState (h : Historical w waiting) (hretains : Retains w waiting) {i : StateId}
    {st : State} (hbelow : st.Below w.subscribers.size)
    (hnext : ∀ past : State.Past, w.state i = past.now.state →
      (∀ s < w.subscribers.size, past.now.live s = w.isLive s) →
      ∃ past' : State.Past, past'.now.dead = past.now.dead ∧ past'.now.state = st) :
    Historical (w.setState i st) waiting where
  pasts j := by
    rw [state_setState]
    split
    · obtain ⟨past, hstate, hlive, hdead⟩ := h.caughtUp i
      obtain ⟨past', hdead', hstate'⟩ := hnext past hstate hlive
      refine ⟨past', hstate'.symm, fun s hs => ?_⟩
      obtain ⟨hlt, hgone⟩ := hdead s (hdead' ▸ hs)
      refine ⟨hlt, hgone, fun hwaits => ?_⟩
      -- Who waits is kept alive.
      have hkept : w.isLive s = true := isLive_iff.mpr (.inr (.inl (hretains s hwaits)))
      exact Bool.false_ne_true (hgone.symm.trans hkept)
    · exact h.pasts j
  known j := by
    rw [state_setState]
    split
    · exact hbelow
    · exact h.known j
  collecting := h.collecting
  bound := h.bound
  placed := h.placed
  numbered := h.numbered

variable {active : Option SubscriberId}

theorem readTracked (h : Historical w waiting) (hretains : Retains w waiting) (i : StateId)
    (p : Path) (c : CollectorId) : Historical (w.readTracked i p c).2 waiting := by
  have hactive := h.collecting c
  refine h.setState hretains ((h.known i).readTracked hactive p) fun past hstate hlive => ?_
  rw [hstate]
  exact State.Past.exists_read hlive (hstate ▸ h.known i) hactive p

theorem renderTemplate (h : Historical w waiting) (hretains : Retains w waiting) (t : Template)
    (i : StateId) (hactive : ∀ s, active = some s → s < w.subscribers.size) :
    Historical (w.renderTemplate t i active).2 waiting := by
  refine h.setState hretains ((h.known i).renderWith hactive t) fun past hstate hlive => ?_
  rw [hstate]
  exact State.Past.exists_render hlive (hstate ▸ h.known i) hactive t

/-- From a write on, the readers wait. -/
theorem written (h : Historical w waiting) (hretains : Retains w waiting) {p : PropertyHandle}
    {v : Value} (hv : v.WellFormed) (hthere : (w.state p.state).contains p.path = true) :
    Historical (w.written p v) ((w.state p.state).readers w.isLive p.path ++ waiting) := by
  have hset : Historical (w.setState p.state
      ((w.state p.state).afterWrite w.isLive p.path v)) waiting := by
    refine h.setState hretains ((h.known p.state).afterWrite p.path v) fun past hstate hlive => ?_
    rw [hstate] at hthere ⊢
    exact State.Past.exists_write hlive (hstate ▸ h.known p.state) hv hthere
  refine hset.of_eq rfl rfl rfl rfl ?_
  rintro s (hs | hs)
  · exact .inl hs
  · rcases List.mem_append.mp hs with hs | hs
    · exact .inl (Publisher.mem_subscribers.mp hs).2
    · exact .inr hs

/-- A binding is rendered on behalf of its subscriber. -/
theorem renderBinding (h : Historical w waiting) (hretains : Retains w waiting)
    (set : BindingSetId) (index : Nat) : Historical (w.renderBinding set index).2 waiting := by
  cases hb : w.binding? set index with
  | none =>
    rw [renderBinding_of_none hb]
    exact h
  | some b =>
    cases hbusy : (w.collector b.collector).active with
    | some active =>
      rw [renderBinding_of_busy hb hbusy]
      have htold : Historical (w.emit .collectionRefused) waiting :=
        h.of_eq rfl rfl rfl rfl fun s hs => hs
      exact htold.modifyBinding set index fun _ => rfl
    | none =>
      rw [renderBinding_of_active hb hbusy]
      have hactive : ∀ s, some b.subscriber = some s → s < w.subscribers.size := fun s hs =>
        Option.some.inj hs ▸ h.bound set index b hb
      have hread := h.renderTemplate hretains b.template b.state hactive
      dsimp only
      generalize hst : b.template.renderWith (State.readTracked w.isLive (some b.subscriber))
        (w.state b.state) = read
      have hset : Historical (w.setState b.state read.2) waiting := by
        rw [← hst]
        exact hread
      -- The rest of the rendering shows the text or the fault, which no state sees.
      cases read.1 with
      | ok text =>
        have htext : Historical ((w.setState b.state read.2).modifyDocument b.document
            (·.setText b.node text)) waiting := hset.of_eq rfl rfl rfl rfl fun s hs => hs
        have hcounted := htext.modifyBinding set index (f := (·.succeed)) fun _ => rfl
        exact hcounted.of_eq rfl rfl rfl rfl fun s hs => hs
      | error fault =>
        have htold : Historical ((w.setState b.state read.2).emit
            (.renderFailed b.node b.template.source fault)) waiting :=
          hset.of_eq rfl rfl rfl rfl fun s hs => hs
        exact htold.modifyBinding set index fun _ => rfl

/-! ## Compilations -/

/-- A new set has no bindings yet. -/
theorem newBindingSet (h : Historical w waiting) : Historical w.newBindingSet.2 waiting := by
  refine h.keep (fun _ => rfl) le_rfl (fun s hs => .inl hs) h.collecting ?_ ?_
  · intro set index b hb
    rw [binding?, bindings_newBindingSet] at hb
    exact h.bound set index b hb
  · intro s set index hs
    have hsize : w.newBindingSet.2.bindingSets.size = w.bindingSets.size + 1 := Array.size_push _
    exact hsize ▸ (h.placed s set index hs).trans (Nat.lt_succ_self _)

/-- A new binding has a new subscriber. -/
theorem withBinding (h : Historical w waiting) {set : BindingSetId}
    (hset : set < w.bindingSets.size) {b : Binding} (hb : b.subscriber = w.subscribers.size) :
    Historical (w.withBinding set b) waiting := by
  have hsubscribers : (w.withBinding set b).subscribers =
      w.subscribers.push ⟨none, .binding set (w.bindings set).length⟩ := rfl
  have hsize : (w.withBinding set b).subscribers.size = w.subscribers.size + 1 := by
    rw [hsubscribers, Array.size_push]
  have hle : w.subscribers.size ≤ (w.withBinding set b).subscribers.size := by omega
  have hrenders : ∀ s set' index, (w.withBinding set b).Renders s set' index →
      w.Renders s set' index ∨ s = w.subscribers.size ∧ set' = set := by
    intro s set' index hs
    have hnew := (renders_newSubscriber w _ s set' index).mp hs
    split at hnew
    · next heq =>
      cases hnew
      exact .inr ⟨heq, rfl⟩
    · exact .inl hnew
  refine h.keep (fun _ => rfl) hle ?_ ?_ ?_ ?_
  · -- Of those who live now, only the new subscriber has not lived before.
    rintro s (hs | hs)
    · rcases isLive_iff.mp hs with hnamed | hheld | ⟨set', index, hs, halive⟩
      · exact .inl (.inl (isLive_iff.mpr (.inl hnamed)))
      · exact .inl (.inl (isLive_iff.mpr (.inr (.inl hheld))))
      · rcases hrenders s set' index hs with hs | ⟨rfl, -⟩
        · exact .inl (.inl (isLive_of_binding hs halive))
        · exact .inr ⟨le_rfl, hsize ▸ Nat.lt_succ_self _⟩
    · exact .inl (.inr hs)
  · exact fun c s hs => (h.collecting c s hs).trans_le hle
  · intro set' index b' hb'
    rcases (binding?_withBinding hset b set' index b').mp hb' with hb' | ⟨-, -, rfl⟩
    · exact (h.bound set' index b' hb').trans_le hle
    · rw [hb, hsize]
      exact Nat.lt_succ_self _
  · intro s set' index hs
    have hsets : (w.withBinding set b).bindingSets.size = w.bindingSets.size := Array.size_modify
    rw [hsets]
    rcases hrenders s set' index hs with hs | ⟨-, rfl⟩
    · exact h.placed s set' index hs
    · exact hset

/-- A compilation and its new bindings, as if these were held still. -/
theorem compile (h : Historical w waiting) (hretains : Retains w waiting) (i : DocumentId)
    (k : NodeId) (state : StateId) (collector : CollectorId) :
    Historical ((w.compile i k state collector).2.hold [.bindings w.bindingSets.size])
      waiting := by
  have hopened : Historical ((w.opened i k).hold [.bindings w.bindingSets.size]) waiting := by
    have hheld : Historical (w.hold [.bindings w.bindingSets.size]) waiting := by
      refine h.hold (fun set hset => .inr ?_) fun s hs => ?_
      · exact (Holding.bindings.inj (List.mem_singleton.mp hset)).ge
      · cases List.mem_singleton.mp hs
    exact hheld.newBindingSet.of_eq rfl rfl rfl rfl fun s hs => hs
  -- The set is there while texts are bound, and who waits is kept alive.
  have hbound := bindTexts_respects
    (R := fun w₁ w₂ => Historical w₁ waiting ∧ Retains w₁ waiting ∧
        w.bindingSets.size < w₁.bindingSets.size →
      Historical w₂ waiting ∧ Retains w₂ waiting ∧ w.bindingSets.size < w₂.bindingSets.size)
    (fun _ hw => hw) (fun h₁ h₂ hw => h₂ (h₁ hw))
    (fun w₁ b hb ⟨hw, hretains, hset⟩ =>
      ⟨hw.withBinding hset hb, hretains.of_held rfl,
        hset.trans_eq (framed_withBinding w₁ w.bindingSets.size b).sets.symm⟩)
    (fun w₁ index ⟨hw, hretains, hset⟩ =>
      have hframed := framed_renderBinding w₁ w.bindingSets.size index
      ⟨hw.renderBinding hretains _ index, hretains.of_held hframed.held,
        hset.trans_eq hframed.sets.symm⟩)
    i state collector (((w.opened i k).document i).outerTexts (w.document i).size)
    ((w.opened i k).hold [.bindings w.bindingSets.size])
  have hbinds := binds_bindTexts ((w.opened i k).hold [.bindings w.bindingSets.size])
    w.bindingSets.size i state collector
    (((w.opened i k).document i).outerTexts (w.document i).size)
  have hset : w.bindingSets.size < (w.opened i k).bindingSets.size := by
    rw [size_bindingSets_opened]
    exact Nat.lt_succ_self _
  have hretains' : Retains ((w.opened i k).hold [.bindings w.bindingSets.size]) waiting :=
    Retains.hold (w := w.opened i k) (hretains.of_held rfl) _
  rw [compile_eq]
  generalize bindTexts _ _ _ _ _ _ = bound at hbound hbinds ⊢
  have hafter := (hbound ⟨hopened, hretains', hset⟩).1
  have hclosed : Historical ((w.closed bound.2 i k).hold [.bindings w.bindingSets.size])
      waiting := by
    refine hafter.of_eq rfl rfl rfl rfl fun s hs => hs.imp_left fun hlive => ?_
    -- What is held in the end is what was held while texts were bound.
    have hheld : ((w.closed bound.2 i k).hold [.bindings w.bindingSets.size]).held = bound.2.held :=
      hbinds.held.symm
    have hsame : ((w.closed bound.2 i k).hold [.bindings w.bindingSets.size]).isLive s =
        bound.2.isLive s := by
      apply isLive_congr _ hheld _ s <;> rfl
    exact hsame.symm.trans hlive
  rw [concluded]
  dsimp only
  generalize w.closed bound.2 i k = closed at hclosed ⊢
  cases bound.1 with
  | error fault => exact hclosed
  | ok _ => exact hclosed.of_eq rfl rfl rfl rfl fun s hs => hs

/-! ## Components -/

/-- A new state begins its past. -/
theorem observe (h : Historical w waiting) {data : Value} (hdata : data.WellFormed) :
    Historical (w.observe data).2 waiting := by
  have hstate := state_observe_eq w data
  obtain ⟨trace, hobserve⟩ := observe_eq w data
  rw [hobserve] at hstate ⊢
  refine ⟨fun i => ?_, fun i => ?_, h.collecting, h.bound, h.placed, h.numbered⟩
  · rw [hstate]
    split
    · exact ⟨.begin data hdata, rfl, fun s hs => absurd hs List.not_mem_nil⟩
    · exact h.pasts i
  · rw [hstate]
    split
    · exact State.below_observe _ data
    · exact h.known i

/-- A component and its new bindings, as if these were held still. -/
theorem mount (h : Historical w waiting) (hretains : Retains w waiting) (i : DocumentId)
    {options : Options} (hdata : options.data.WellFormed) :
    Historical ((w.mount i options).2.hold [.bindings w.bindingSets.size]) waiting := by
  have htold : Historical (w.emit (.componentBegun options.el)) waiting :=
    h.of_eq rfl rfl rfl rfl fun s hs => hs
  have hobserved := htold.observe hdata
  have hframe : (w.begun options).held = w.held ∧
      (w.begun options).bindingSets = w.bindingSets := by
    obtain ⟨trace, hbegun⟩ := w.begun_eq options
    rw [hbegun]
    exact ⟨rfl, rfl⟩
  obtain ⟨hheld, hsets⟩ := hframe
  rw [mount_eq]
  cases (w.document i).queryFirst? options.el with
  | none =>
    -- The state is left behind, and the next set has not been made.
    have hfailed : Historical (((w.emit (.componentBegun options.el)).observe
        options.data).2.emit (.noMatch options.el)) waiting :=
      hobserved.of_eq rfl rfl rfl rfl fun s hs => hs
    refine hfailed.hold (fun set hset => .inr ?_) fun s hs => ?_
    · rw [Holding.bindings.inj (List.mem_singleton.mp hset)]
      exact (congrArg Array.size hsets).le
    · cases List.mem_singleton.mp hs
  | some el =>
    have hbegun : Historical (w.begun options) waiting := hobserved.newCollector
    have hcompiled := hbegun.compile (hretains.of_held hheld) i el w.states.size w.collectors.size
    rw [hsets] at hcompiled
    dsimp only
    split
    · next fault w₁ hcompile =>
      rw [hcompile] at hcompiled
      exact hcompiled
    · next set w₁ hcompile =>
      rw [hcompile] at hcompiled
      exact hcompiled.of_eq rfl rfl rfl rfl fun s hs => hs

/-- Names go to what has one or is new. The next set is as if it were held still. -/
theorem rename (h : Historical (w'.hold [.bindings w.bindingSets.size]) waiting)
    {f : Names → Names} (hnames : Renames w w' f)
    (hsize : w'.bindingSets.size ≤ w.bindingSets.size + 1) :
    Historical (w'.rename f) waiting := by
  refine h.of_eq rfl rfl rfl rfl fun s hs => hs.imp_left fun hlive => ?_
  rcases isLive_iff.mp hlive with ⟨e, he, rfl⟩ | hheld | ⟨set, index, hrenders, halive⟩
  · exact isLive_iff.mpr (.inl (hnames.subscribers e he))
  · exact isLive_iff.mpr (.inr (.inl (List.mem_cons_of_mem _ hheld)))
  · exact isLive_of_binding hrenders (hnames.isAlive hsize halive)

/-- The same where no set is new. -/
theorem rename_of_size (h : Historical w' waiting) {f : Names → Names} (hnames : Renames w w' f)
    (hsize : w'.bindingSets.size = w.bindingSets.size) : Historical (w'.rename f) waiting := by
  refine Historical.rename (h.hold (fun set hset => .inr ?_) fun s hs => ?_) hnames (by omega)
  · rw [Holding.bindings.inj (List.mem_singleton.mp hset)]
    exact hsize.le
  · cases List.mem_singleton.mp hs

/-- Labels are no business of states. -/
theorem labelBindings {holdings : List Holding} (h : Historical (w.hold holdings) waiting)
    (name : String) (set : BindingSetId) :
    Historical ((w.labelBindings name set).hold holdings) waiting := by
  rw [Session.labelBindings]
  -- On the bindings that are still to get a label.
  generalize (w.bindings set).zipIdx = bs
  induction bs generalizing w with
  | nil => exact h
  | cons b rest ih =>
    apply ih
    refine h.withSubscribers (Array.size_modify ..) fun s set index => ?_
    rw [Renders, Renders]
    exact (callback_setLabel w b.1.subscriber (bindingLabel name b.2) s).congr_left

/-- What has been made gets a name. -/
theorem named {w₁ : Session} {name : String}
    (h : Historical (w₁.hold [.bindings w.bindingSets.size]) waiting)
    (hnamed : Named w w₁ name w') : Historical w' waiting := by
  cases hnamed with
  | failed => exact h.holdAs (w := w') fun x hx => List.mem_cons_of_mem _ hx
  | named hnames hsize => exact Historical.rename (h.labelBindings name _) hnames hsize.le

end Historical

/-! ## Edits -/

/-- No data that the edit brings in has a key twice. -/
def Edit.WellFormed : Edit → Prop
  | .observe _ data => data.WellFormed
  | .mount _ _ (.given _ data) => data.WellFormed
  | _ => True

namespace Historical

theorem perform (h : Historical w waiting) (hretains : Retains w waiting) {edit : Edit}
    (hwf : edit.WellFormed) {answer : Answer} (hedit : w.perform edit = .ok (answer, w')) :
    Historical w' waiting := by
  cases effect_of_perform hedit with
  | same => exact h
  | renamed hnames => exact h.rename_of_size hnames rfl
  | collector hnames => exact h.newCollector.rename_of_size hnames rfl
  | @observed name data _ hnames =>
    -- The state is new, and no set of bindings is.
    have hobserved : Historical (w.observe data).2 waiting := h.observe hwf
    obtain ⟨trace, hobserve⟩ := observe_eq w data
    rw [hobserve] at hobserved hnames ⊢
    exact hobserved.rename_of_size hnames rfl
  | read i p collector => exact h.readTracked hretains i p collector
  | rendered t i c => exact h.renderTemplate hretains t i (h.collecting c)
  | mounted hread i =>
    have hdata := wellFormed_read (fun el data hsource => ?_) hread
    · exact Historical.named (h.mount hretains i hdata) (named_mountAs ..)
    · subst hsource
      exact hwf
  | compiled _ name i k collector =>
    exact Historical.named (h.compile hretains i k _ collector) (named_compileAs ..)
  | refreshed _ _ => exact h.renderBinding hretains _ _
  | document _ heffect =>
    cases heffect with
    | same => exact h
    | told event => exact h.of_eq rfl rfl rfl rfl fun s hs => hs
    | moved _ => exact h.of_eq rfl rfl rfl rfl fun s hs => hs
    | setText _ => exact h.of_eq rfl rfl rfl rfl fun s hs => hs
  | opened d hnames =>
    have hnew : Historical (w.newDocument d).2 waiting := h.of_eq rfl rfl rfl rfl fun s hs => hs
    exact hnew.rename_of_size hnames rfl

/-- A new subscriber with a program gets a name. -/
theorem addSubscriber (h : Historical w waiting) (name : String) (program : List Step)
    (limit : Nat) : Historical (w.addSubscriber name program limit) waiting := by
  have hsubscribers : (w.addSubscriber name program limit).subscribers =
      w.subscribers.push ⟨some name, .program program limit 0⟩ := rfl
  have hsize : (w.addSubscriber name program limit).subscribers.size =
      w.subscribers.size + 1 := by
    rw [hsubscribers, Array.size_push]
  have hle : w.subscribers.size ≤ (w.addSubscriber name program limit).subscribers.size := by
    omega
  have hrenders := renders_addSubscriber w name program limit
  refine h.keep (fun _ => rfl) hle ?_ ?_ ?_ ?_
  · rintro s (hs | hs)
    · rcases isLive_iff.mp hs with ⟨e, he, rfl⟩ | hheld | ⟨set, index, hs, halive⟩
      · rcases Entries.mem_of_mem_insert he with rfl | he
        · exact .inr ⟨le_rfl, hsize ▸ Nat.lt_succ_self _⟩
        · exact .inl (.inl (isLive_iff.mpr (.inl ⟨e, he, rfl⟩)))
      · exact .inl (.inl (isLive_iff.mpr (.inr (.inl hheld))))
      · exact .inl (.inl (isLive_of_binding ((hrenders s set index).mp hs) halive))
    · exact .inl (.inr hs)
  · exact fun c s hs => (h.collecting c s hs).trans_le hle
  · exact fun set index b hb => (h.bound set index b hb).trans_le hle
  · exact fun s set index hs => h.placed s set index ((hrenders s set index).mp hs)

end Historical

/-! ## Every moment -/

/-- No data that the step itself brings in has a key twice. -/
def Step.WellFormed : Step → Prop
  | .edit e => e.WellFormed
  | .write _ v => v.WellFormed
  | _ => True

/-- The data that is about to come in has no key twice. -/
def Moment.WellFormed : Moment → Prop
  | .ahead (s :: _) _ _ => s.WellFormed
  | _ => True

/-- States have pasts throughout a cascade. -/
theorem cascadesRespect_historical :
    CascadesRespect (fun s _ => s.WellFormed) Moment.WellFormed Historical where
  harmless_of_fair h := h
  edit h hretains hwf hedit := h.perform hretains hwf hedit
  addSubscriber name program limit h := h.addSubscriber name program limit
  emit _ h := h.of_eq rfl rfl rfl rfl fun s hs => hs
  record _ h := h.of_eq rfl rfl rfl rfl fun s hs => hs
  countRun s h :=
    h.withSubscribers Array.size_modify fun t set index => renders_countRun _ s t set index
  await h hlive := by
    refine h.of_eq rfl rfl rfl rfl fun s hs => ?_
    rcases hs with hs | hs
    · exact .inl hs
    · exact (List.mem_append.mp hs).imp_left (hlive s)
  written h hretains hv hthere := h.written hretains hv hthere
  settle h _ := h.of_eq rfl rfl rfl rfl fun s hs => hs.imp_right (List.mem_cons_of_mem _)
  render h hretains _ _ := (h.renderBinding hretains _ _).of_eq rfl rfl rfl rfl fun s hs =>
    hs.imp_right (List.mem_cons_of_mem _)
  forsake _ _ h := h.of_eq rfl rfl rfl rfl fun s hs => hs.imp_right (List.mem_append_right _)
  hold h hsets hsubscribers :=
    h.hold (fun set hset => .inl (hsets set hset)) fun s hs => (hsubscribers s hs).symm
  letGo h hheld := h.holdAs fun x hx => hheld ▸ List.mem_append_right _ hx
  start h hlive hbusy := by
    rw [Collector.start] at hbusy
    split at hbusy
    · cases hbusy
    · cases hbusy
      exact h.setCollector _ fun s hs => Option.some.inj hs ▸ h.numbered _ (.inl hlive)
  finish c h := h.setCollector c fun s hs => by cases hs

/-- However a script goes, at each moment of it each state is as some history has left it, in which
all of those live who live then, and those who wait to be told. -/
theorem states_have_pasts {script : List Step} {m : Moment} (hm : DuringScript script {} m)
    (hwf : ∀ m, DuringScript script {} m → m.WellFormed) (i : StateId) :
    ∃ past : State.Past, m.session.state i = past.now.state ∧
      ∀ s, m.session.isLive s = true ∨ s ∈ m.waiting → past.now.live s = true := by
  have h := cascadesRespect_historical.duringScript hm historical_empty hwf
  obtain ⟨past, hstate, hdead⟩ := h.pasts i
  refine ⟨past, hstate, fun s hs => ?_⟩
  have hnot : s ∉ past.now.dead := by
    intro hs'
    obtain ⟨-, hgone, hwaits⟩ := hdead s hs'
    rcases hs with hlive | hwait
    · exact Bool.false_ne_true (hgone.symm.trans hlive)
    · exact hwaits hwait
  simpa [State.Moment.live] using hnot

/-- At each moment of a script whoever lives and is registered with a property is registered with
everything on the way to it, so that no write that comes then misses a reader of what it changes. -/
theorem readers_have_read_above {script : List Step} {m : Moment} (hm : DuringScript script {} m)
    (hwf : ∀ m, DuringScript script {} m → m.WellFormed) :
    (∀ i, (m.session.state i).ReadAbove m.session.isLive) ∧
      ∀ h : PropertyHandle, (m.session.state h.state).contains h.path = true →
        m.session.TellsBelow h := by
  constructor
  · intro i
    obtain ⟨past, hstate, hlive⟩ := states_have_pasts hm hwf i
    rw [hstate]
    exact State.readAbove_after past.wellFormed past.wellFormed_events fun s hs =>
      hlive s (.inl hs)
  · intro h hthere
    obtain ⟨past, hstate, hlive⟩ := states_have_pasts hm hwf h.state
    exact tellsBelow past.wellFormed past.wellFormed_events hstate (fun s hs => hlive s (.inl hs))
      hthere

/-- No reader below a written property is missed. Whatever has happened to a state, a living
subscriber that is registered with a property is registered with everything on the way to it, and so
a successful write tells the readers of everything below the property. This is so in each session
that has such a state, and at every moment of a script. -/
theorem readers_below_are_told :
    (∀ (data : Value) (history : List State.Event), data.WellFormed →
      (∀ e ∈ history, e.WellFormed) →
      let past := State.after data history
      past.state.ReadAbove past.live ∧
        ∀ (w : Session) (h : PropertyHandle), w.state h.state = past.state →
          (∀ s, w.isLive s = true → past.live s = true) →
          (w.state h.state).contains h.path = true → w.TellsBelow h) ∧
    ∀ (script : List Step) (m : Moment), DuringScript script {} m →
      (∀ m, DuringScript script {} m → m.WellFormed) →
      (∀ i, (m.session.state i).ReadAbove m.session.isLive) ∧
        ∀ h : PropertyHandle, (m.session.state h.state).contains h.path = true →
          m.session.TellsBelow h := by
  refine ⟨fun data history hdata hh => ⟨?_, ?_⟩, fun script m hm hwf => ?_⟩
  · exact State.readAbove_after hdata hh fun _ hs => hs
  · exact fun w h hstate hlive hthere => tellsBelow hdata hh hstate hlive hthere
  · exact readers_have_read_above hm hwf

/-- A subscriber reads a property below another one, which is then overwritten. -/
def overwriting : List Step :=
  [.edit (.observe "data" (.object [("a", .object [("b", .null)])])),
    .edit (.newCollector "readers"),
    .newSubscriber "reader" [] 0,
    .collect "readers" "reader" [.edit (.readTracked "data" ⟨["a", "b"]⟩ "readers")],
    .write (.state "data" ⟨["a"]⟩) .null]

/-- The session before the property is overwritten. -/
def beforeOverwriting : Session :=
  (overwriting.take 4).foldl (fun w s => (w.step s).2) {}

theorem wellFormed_nested : (Value.object [("a", .object [("b", .null)])]).WellFormed := by
  have hinner : ∀ key v, v.WellFormed → (Value.object [(key, v)]).WellFormed :=
    fun key v hv => .object _ (List.nodup_singleton key) (by simpa using hv)
  exact hinner "a" _ (hinner "b" _ .null)

/-- Nobody who is told at depth zero brings in data. -/
theorem wellFormed_of_depth_zero {ids : List SubscriberId} {m : Moment}
    (hm : During 0 (.tellEach ids) w waiting m) : m.WellFormed := by
  induction ids generalizing w with
  | nil => cases hm
  | cons s rest ih =>
    cases hm with
    | tellEachHead hm =>
      cases hm
      trivial
    | tellEachTail _ hm => exact ih hm

theorem wellFormed_overwriting {m : Moment} (hm : DuringScript overwriting {} m) :
    m.WellFormed := by
  have hdepth : beforeOverwriting.promised +
      (Step.write (.state "data" ⟨["a"]⟩) .null).promised = 0 := by decide +kernel
  -- The moments of the script step by step; edits have none.
  cases hm with
  | here => exact wellFormed_nested
  | head hm => cases hm
  | tail hm => cases hm with
    | here => trivial
    | head hm => cases hm
    | tail hm => cases hm with
      | here => trivial
      | head hm => cases hm
      | tail hm => cases hm with
        | here => trivial
        | head hm => cases hm with
          | collect _ _ hm => cases hm with
            | steps => trivial
            | stepsHead hm => cases hm
            | stepsTail _ hm =>
              cases hm
              trivial
        | tail hm => cases hm with
          | here => exact .null
          | head hm => cases hm with
            | write _ _ hm => exact wellFormed_of_depth_zero (hdepth ▸ hm)
          | tail hm =>
            cases hm
            trivial

/-- A subscriber that has read below a property is told when the property is overwritten, although
what it has read is gone by then. -/
theorem told_of_removal :
    let w := beforeOverwriting
    let h : PropertyHandle := ⟨0, ⟨["a"]⟩⟩
    let read : State.Event := .read (some 0) ⟨["a", "b"]⟩
    w.state 0 = (State.after (.object [("a", .object [("b", .null)])]) [read]).state ∧
      w.TellsBelow h ∧ ∃ w', write (telling 0) h .null w = (.returned .done, w') ∧
        Passing (telling 0) [0] (w.written h .null) [] w' ∧
        0 ∈ (w.state 0).readers w.isLive ⟨["a", "b"]⟩ ∧ 0 ∈ (w.state 0).readers w.isLive h.path ∧
        ((w.written h .null).state 0).contains ⟨["a", "b"]⟩ = false := by
  intro w h read
  have hthere : (w.state 0).contains h.path = true := by decide +kernel
  have hread : 0 ∈ (w.state 0).readers w.isLive ⟨["a", "b"]⟩ := by decide +kernel
  have hids : (w.state 0).readers w.isLive h.path = [0] := by decide +kernel
  obtain ⟨hhistories, hscripts⟩ := readers_below_are_told
  have hstate : w.state 0 =
      (State.after (.object [("a", .object [("b", .null)])]) [read]).state := by rfl
  have hevents : ∀ e ∈ [read], e.WellFormed := fun e he => List.mem_singleton.mp he ▸ trivial
  have htells : w.TellsBelow h :=
    (hhistories _ [read] wellFormed_nested hevents).2 w h hstate (fun _ _ => rfl) hthere
  have hm : DuringScript overwriting {}
      (.ahead [.write (.state "data" ⟨["a"]⟩) .null] w []) := .tail (.tail (.tail (.tail .here)))
  obtain ⟨habove, -⟩ := hscripts overwriting _ hm fun _ => wellFormed_overwriting
  obtain ⟨w', hwrite, hpassing⟩ :=
    htells.told (telling 0) .null fun s rest u _ => returned_telling_zero s _
  exact ⟨hstate, htells, w', hwrite, hids ▸ hpassing, hread,
    habove 0 _ _ 0 (by decide) (by decide) hread, by decide +kernel⟩

end LiveText.Session
