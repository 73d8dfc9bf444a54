import Mathlib
import LiveText.Proofs.Session.Actions

/-!
# Components do not interfere

Sets of bindings may share a state, and then the publishers of the state hold the subscribers of all
of them. Still a set is none the wiser for what is done to others. A set sees the names that keep
it, its bindings, the texts of these, the data of its state, and in which order its own subscribers
are registered there. Of two runs that look the same to it in this sense, one may do all that does
not concern the set, and the other may leave it: both go on to look the same.

## Main definitions

- `Apart`: sets of bindings without a common text.
- `Action.Concerns`: what a set can see.
- `SameFor`: sessions that look the same to a set.

## Main statements

- `sameFor_tellEach`: the subscribers of others may be left out.
- `sameFor_run_of_not_concerns`, `SameFor.run`: one action.
- `components_do_not_interfere`: whole runs.
-/

namespace LiveText.Session

variable {sets : List BindingSetId} {uses : BindingSetId → StateId}
  {start now now' next next' : Session} {a set : BindingSetId} {index : Nat} {b : Binding}

/-- The sets have no text in common. -/
def Apart (w : Session) (set set' : BindingSetId) : Prop :=
  ∀ b ∈ w.bindings set, ∀ b' ∈ w.bindings set',
    ¬ (b.document = b'.document ∧ b.node = b'.node)

/-- The action writes to the state of the set, renders a binding of the set, or drops a name of
the set. -/
def Action.Concerns (w : Session) (uses : BindingSetId → StateId) (set : BindingSetId) :
    Action → Prop
  | .write h _ => h.state = uses set
  | .refresh set' _ => set' = set
  | .drop name => w.names.Calls name set

instance (w : Session) (uses : BindingSetId → StateId) (set : BindingSetId) (act : Action) :
    Decidable (act.Concerns w uses set) :=
  match act with
  | .write h _ => inferInstanceAs (Decidable (h.state = uses set))
  | .refresh set' _ => inferInstanceAs (Decidable (set' = set))
  | .drop name => inferInstanceAs (Decidable (w.names.Calls name set))

/-! ## What a set sees -/

/-- The subscribers of a set, as long as the set lives. -/
def audience (w : Session) (set : BindingSetId) : Liveness := fun s =>
  w.isAlive set && w.belongsTo set s

/-- Two sessions look the same to a set with a state. -/
structure SameFor (a : BindingSetId) (i : StateId) (w w' : Session) : Prop where
  subscribers : w'.subscribers = w.subscribers
  alive : w'.isAlive a = w.isAlive a
  calls : ∀ name, w'.names.Calls name a ↔ w.names.Calls name a
  bindings : w'.bindings a = w.bindings a
  texts : ∀ b ∈ w.bindings a,
    (w'.document b.document).data b.node = (w.document b.document).data b.node
  state : State.Alike (w.audience a) (w.state i) (w'.state i)

theorem audience_eq (hsubscribers : now'.subscribers = now.subscribers)
    (halive : now'.isAlive a = now.isAlive a) : now'.audience a = now.audience a := by
  funext s
  rw [audience, halive, belongsTo, hsubscribers, audience, belongsTo]

theorem isLive_of_audience {s : SubscriberId} (hs : now.audience a s = true) :
    now.isLive s = true := by
  rw [audience, Bool.and_eq_true, belongsTo_iff] at hs
  obtain ⟨halive, index, hrenders⟩ := hs
  exact isLive_of_binding hrenders halive

namespace SameFor

variable {i : StateId}

theorem audience_eq (h : SameFor a i now now') : now'.audience a = now.audience a :=
  Session.audience_eq h.subscribers h.alive

theorem refl (a : BindingSetId) (i : StateId) (w : Session) : SameFor a i w w :=
  ⟨rfl, rfl, fun _ => .rfl, rfl, fun _ _ => rfl, .refl _ _⟩

theorem symm (h : SameFor a i now now') : SameFor a i now' now where
  subscribers := h.subscribers.symm
  alive := h.alive.symm
  calls name := (h.calls name).symm
  bindings := h.bindings.symm
  texts b hb := (h.texts b (h.bindings ▸ hb)).symm
  state := h.audience_eq ▸ h.state.symm

theorem trans (h : SameFor a i now now') (h' : SameFor a i now' next) : SameFor a i now next where
  subscribers := h'.subscribers.trans h.subscribers
  alive := h'.alive.trans h.alive
  calls name := (h'.calls name).trans (h.calls name)
  bindings := h'.bindings.trans h.bindings
  texts b hb := (h'.texts b (h.bindings ▸ hb)).trans (h.texts b hb)
  state := h.state.trans (h.audience_eq ▸ h'.state)

/-- The same binding of the set is rendered in both sessions. -/
theorem rendered (h : SameFor a i now now') {live live' : Liveness}
    (hlive : ∀ s, now.isLive s = true → live s = true)
    (hlive' : ∀ s, now'.isLive s = true → live' s = true) (hstate : b.state = i)
    (hmade : now'.states.size = now.states.size) (hnext : Rendered live a index b now next)
    (hnext' : Rendered live' a index b now' next') : SameFor a i next next' := by
  subst hstate
  -- What comes out is a matter of the data, which is the same.
  have hshown : (b.template.renderWith (State.readTracked live' (some b.subscriber))
        (now'.state b.state)).1 =
      (b.template.renderWith (State.readTracked live (some b.subscriber)) (now.state b.state)).1 :=
    State.fst_renderWith_of_data_eq h.state.data b.template
  have haudience : next.audience a = now.audience a :=
    Session.audience_eq hnext.subscribers (hnext.isAlive_eq a)
  refine ⟨?subscribers, ?alive, ?calls, ?bindings, ?texts, ?state⟩
  case subscribers => rw [hnext.subscribers, hnext'.subscribers, h.subscribers]
  case alive => rw [hnext.isAlive_eq, hnext'.isAlive_eq, h.alive]
  case calls =>
    rw [hnext.names, hnext'.names]
    exact h.calls
  case bindings =>
    rw [hnext.bindings, hnext'.bindings, if_pos rfl, if_pos rfl, hshown, h.bindings]
  case texts =>
    intro b' hb'
    obtain ⟨b₀, hb₀, hdocument, hnode⟩ := exists_place_of_wiring (hnext.wiring_eq a) hb'
    rw [hnext.data, hnext'.data, hshown, ← hdocument, ← hnode, h.texts b₀ hb₀]
  case state =>
    rw [haudience, hnext.state, hnext'.state, hmade]
    split
    · refine h.state.renderWith (fun s hs => hlive s (isLive_of_audience hs)) (fun s hs => ?_) _
      rw [← h.audience_eq] at hs
      exact hlive' s (isLive_of_audience hs)
    · exact h.state

end SameFor

/-- A binding of another set is rendered. -/
theorem sameFor_rendered {i : StateId} {live : Liveness}
    (hlive : ∀ s, now.isLive s = true → live s = true) (hset : set ≠ a)
    (hrenders : now.Renders b.subscriber set index)
    (hapart : ∀ b' ∈ now.bindings a, ¬ (b.document = b'.document ∧ b.node = b'.node))
    (hnext : Rendered live set index b now next) : SameFor a i now next where
  subscribers := hnext.subscribers
  alive := hnext.isAlive_eq a
  calls := hnext.names ▸ fun _ => .rfl
  bindings := by rw [hnext.bindings, if_neg hset]
  texts b' hb' := by rw [hnext.data, if_neg (hapart b' hb')]
  state := by
    -- Who is registered by the rendering is none of the set.
    have hunseen : now.audience a b.subscriber = false := by
      rw [audience, belongsTo_eq_false hrenders hset, Bool.and_false]
    rw [hnext.state]
    split
    · next hi =>
      rw [hi.1]
      exact State.alike_renderWith_of_unseen hunseen
        (fun s hs => hlive s (isLive_of_audience hs)) b.template _
    · exact .refl _ _

/-! ## Writes -/

/-- Those readers of a state that belong to a set. -/
theorem filter_readers (hrest : AtRest start) (hnow : Since sets uses start now) (i : StateId)
    (q : Path) :
    ((now.state i).readers now.isLive q).filter (start.belongsTo a) =
      (now.state i).readers (now.audience a) q := by
  rw [State.readers, State.readers, Publisher.subscribers, Publisher.subscribers,
    List.filter_filter]
  apply List.filter_congr
  intro s _
  have hbelongs : now.belongsTo a s = start.belongsTo a s := by
    rw [belongsTo, hnow.subscribers, belongsTo]
  rw [audience, hbelongs]
  cases hs : start.belongsTo a s with
  | false => simp
  | true => simp [hnow.isLive_iff_isAlive hrest hs]

/-- The same is written to the state of the set in both sessions. -/
theorem SameFor.written (h : SameFor a (uses a) now now') {p : PropertyHandle} (v : Value)
    (hstate : p.state = uses a) (hthere : (now.state p.state).contains p.path = true)
    (hthere' : (now'.state p.state).contains p.path = true) :
    SameFor a (uses a) (now.written p v) (now'.written p v) where
  subscribers := h.subscribers
  alive := h.alive
  calls := h.calls
  bindings := h.bindings
  texts := h.texts
  state := by
    have haudience : (now.written p v).audience a = now.audience a := rfl
    rw [haudience, state_written_eq now v hthere, state_written_eq now' v hthere', if_pos hstate,
      if_pos hstate]
    refine h.state.afterWrite (fun s hs => isLive_of_audience hs) (fun s hs => ?_) p.path v
    rw [← h.audience_eq] at hs
    exact isLive_of_audience hs

/-! ## Drops -/

/-- The same name is dropped in both sessions. -/
theorem SameFor.drop {i : StateId} (h : SameFor a i now now') (hheld : now.held = [])
    (hheld' : now'.held = []) (name : String) :
    SameFor a i (now.edited (now.drop "app" name)) (now'.edited (now'.drop "app" name)) := by
  have hcalls : ∀ name', (now'.edited (now'.drop "app" name)).names.Calls name' a ↔
      (now.edited (now.drop "app" name)).names.Calls name' a := by
    intro name'
    rw [calls_drop, calls_drop, h.calls]
  have hleft : (now.edited (now.drop "app" name)).held = [] := hheld
  have hright : (now'.edited (now'.drop "app" name)).held = [] := hheld'
  refine ⟨h.subscribers, ?alive, hcalls, h.bindings, h.texts, ?state⟩
  case alive =>
    rw [Bool.eq_iff_iff, isAlive_iff_calls hleft, isAlive_iff_calls hright]
    exact exists_congr hcalls
  case state =>
    -- The set may have died, but it has not come to life.
    refine h.state.mono fun s hs => ?_
    rw [audience, Bool.and_eq_true, isAlive_iff_calls hleft] at hs
    obtain ⟨⟨name', hname'⟩, hbelongs⟩ := hs
    rw [audience, Bool.and_eq_true, isAlive_iff_calls hheld]
    exact ⟨⟨name', ((calls_drop now name name' a).mp hname').2⟩, hbelongs⟩

/-- A name is dropped that is none of the set. -/
theorem sameFor_drop {i : StateId} (hheld : now.held = []) (name : String)
    (hno : ¬ now.names.Calls name a) :
    SameFor a i now (now.edited (now.drop "app" name)) := by
  have hcalls : ∀ name', (now.edited (now.drop "app" name)).names.Calls name' a ↔
      now.names.Calls name' a := by
    intro name'
    rw [calls_drop, and_iff_right_of_imp]
    rintro hname' rfl
    exact hno hname'
  have hleft : (now.edited (now.drop "app" name)).held = [] := hheld
  refine ⟨rfl, ?alive, hcalls, rfl, fun _ _ => rfl, .refl _ _⟩
  rw [Bool.eq_iff_iff, isAlive_iff_calls hleft, isAlive_iff_calls hheld]
  exact exists_congr hcalls

/-! ## Notifications -/

section Notifications

variable (hrest : AtRest start) (htenants : Tenants start sets uses)
  (hapart : ∀ b ∈ sets, b ≠ a → Apart start a b)

include hrest htenants

/-- Both sessions tell the same subscriber of the set. -/
theorem SameFor.told (h : SameFor a (uses a) now now') (hnow : Since sets uses start now)
    (hnow' : Since sets uses start now') (ha : a ∈ sets) (index : Nat)
    (holdings holdings' : List Holding) :
    SameFor a (uses a)
      (if now.isAlive a then ((now.hold holdings).renderBinding a index).2.holdAs now else now)
      (if now'.isAlive a then ((now'.hold holdings').renderBinding a index).2.holdAs now'
        else now') := by
  rw [h.alive]
  split
  · have hsame : now'.binding? a index = now.binding? a index := by
      rw [binding?, h.bindings, binding?]
    cases hb : now.binding? a index with
    | none =>
      have hb₁ : (now.hold holdings).binding? a index = none := hb
      have hb₂ : (now'.hold holdings').binding? a index = none := hsame.trans hb
      rw [renderBinding_of_none hb₁, renderBinding_of_none hb₂]
      exact h
    | some b =>
      obtain ⟨-, hstate, hidle, -⟩ := hnow.binding hrest htenants ha hb
      obtain ⟨-, -, hidle', -⟩ := hnow'.binding hrest htenants ha (hsame.trans hb)
      exact h.rendered (fun _ => isLive_hold) (fun _ => isLive_hold) hstate
        (hnow'.states.trans hnow.states.symm) (rendered_hold holdings hb hidle)
        (rendered_hold holdings' (hsame.trans hb) hidle')
  · exact h

include hapart

/-- A binding of one of the other sets, of whatever state, is rendered on behalf of somebody who is
not of the set, and on a text that is not of the set. -/
theorem sameFor_of_rendered {live : Liveness} (hnow : Since sets uses start now)
    (hset : set ∈ sets) (hne : set ≠ a) (hb : now.binding? set index = some b)
    (hlive : ∀ s, now.isLive s = true → live s = true)
    (hnext : Rendered live set index b now next) : SameFor a (uses a) now next := by
  obtain ⟨hrenders, -, -, b₀, hb₀, hdocument, hnode⟩ := hnow.binding hrest htenants hset hb
  have hrenders' : now.Renders b.subscriber set index := by rwa [Renders, hnow.subscribers]
  refine sameFor_rendered hlive hne hrenders' (fun b' hb' hplace => ?_) hnext
  obtain ⟨b₁, hb₁, hdocument', hnode'⟩ := exists_place_of_wiring (hnow.wiring a) hb'
  refine hapart set hset hne b₁ hb₁ b₀ hb₀ ⟨?_, ?_⟩
  · rw [hdocument', hdocument, hplace.1]
  · rw [hnode', hnode, hplace.2]

/-- A subscriber of one of the other sets is told. -/
theorem sameFor_told (hnow : Since sets uses start now) (hset : set ∈ sets) (hne : set ≠ a)
    (index : Nat) (holdings : List Holding) :
    SameFor a (uses a) now
      (if now.isAlive set then ((now.hold holdings).renderBinding set index).2.holdAs now
        else now) := by
  rcases hnow.told_cases hrest htenants hset index holdings rfl with hsame | ⟨b, hb, hrendered⟩
  · rw [hsame]
    exact .refl ..
  · exact sameFor_of_rendered hrest htenants hapart hnow hset hne hb (fun _ => isLive_hold)
      hrendered

/-- Of those who are told, the subscribers of other sets may be left out. -/
theorem sameFor_tellEach (depth : Nat) (ha : a ∈ sets) {ss : List SubscriberId}
    (hss : ∀ s ∈ ss, ∃ set ∈ sets, ∃ index, start.Renders s set index)
    (h : SameFor a (uses a) now now') (hnow : Since sets uses start now)
    (hnow' : Since sets uses start now') :
    SameFor a (uses a) (tellEach (telling depth) ss now).2
      (tellEach (telling depth) (ss.filter (start.belongsTo a)) now').2 := by
  -- On those who are told: the first one is of the set, or is told on one side only.
  induction ss generalizing now now' with
  | nil => exact h
  | cons s rest ih =>
    obtain ⟨set, hset, index, hs⟩ := hss s (List.mem_cons_self ..)
    have hrest' : ∀ t ∈ rest, ∃ set ∈ sets, ∃ index, start.Renders t set index :=
      fun t ht => hss t (List.mem_cons_of_mem _ ht)
    have hs₁ : now.Renders s set index := by rwa [Renders, hnow.subscribers]
    rw [tellEach_cons_of_renders depth rest hs₁]
    by_cases hne : set = a
    · subst hne
      have hs₂ : now'.Renders s set index := by rwa [Renders, hnow'.subscribers]
      rw [List.filter_cons_of_pos (belongsTo_iff.mpr ⟨index, hs⟩),
        tellEach_cons_of_renders depth _ hs₂]
      exact ih hrest' (h.told hrest htenants hnow hnow' hset index _ _)
        (hnow.told hrest htenants hset index _) (hnow'.told hrest htenants hset index _)
    · rw [List.filter_cons_of_neg (by rw [belongsTo_eq_false hs hne]; exact Bool.false_ne_true)]
      have hother := sameFor_told hrest htenants hapart hnow hset hne index
        ((s :: rest).map .subscriber)
      exact ih hrest' (hother.symm.trans h) (hnow.told hrest htenants hset index _) hnow'

/-! ## Actions -/

/-- The same is written to the state of the set in both sessions. -/
theorem SameFor.write (depth : Nat) (ha : a ∈ sets) (h : SameFor a (uses a) now now')
    (hnow : Since sets uses start now) (hnow' : Since sets uses start now') {p : PropertyHandle}
    (v : Value) (hstate : p.state = uses a) :
    SameFor a (uses a) (Session.write (telling depth) p v now).2
      (Session.write (telling depth) p v now').2 := by
  have hcontains : (now'.state p.state).contains p.path =
      (now.state p.state).contains p.path := by
    rw [hstate, State.contains_eq_of_data_eq h.state.data]
  cases hthere : (now.state p.state).contains p.path with
  | false =>
    rw [write_of_not_contains _ v hthere, write_of_not_contains _ v (hcontains.trans hthere)]
    exact h
  | true =>
    have hthere' := hcontains.trans hthere
    have hafter := hnow.written v hthere
    have hafter' := hnow'.written v hthere'
    have hmembers : ∀ {now}, Since sets uses start now →
        ∀ s ∈ (now.state p.state).readers now.isLive p.path,
          ∃ set ∈ sets, ∃ index, start.Renders s set index := by
      intro now hnow s hs
      rw [hstate] at hs
      obtain ⟨set, hset, -, hrenders⟩ := hnow.renders_of_mem_readers hrest ha hs
      exact ⟨set, hset, hrenders⟩
    -- When those of others are left out, the same subscribers are told.
    have hsame : ((now'.state p.state).readers now'.isLive p.path).filter (start.belongsTo a) =
        ((now.state p.state).readers now.isLive p.path).filter (start.belongsTo a) := by
      rw [filter_readers hrest hnow, filter_readers hrest hnow', h.audience_eq, hstate]
      exact h.state.readers p.path
    have hleft := sameFor_tellEach hrest htenants hapart depth ha (hmembers hnow)
      (h.written v hstate hthere hthere') hafter hafter'
    have hright := sameFor_tellEach hrest htenants hapart depth ha (hmembers hnow')
      (.refl a (uses a) (now'.written p v)) hafter' hafter'
    rw [write_of_contains _ v hthere, write_of_contains _ v hthere', Run.snd_bind_pure,
      Run.snd_bind_pure]
    rw [hsame] at hright
    exact hleft.trans hright.symm

/-- A write to a state that the set does not have. -/
theorem sameFor_write (depth : Nat) (ha : a ∈ sets) (hnow : Since sets uses start now)
    (hset : set ∈ sets) {p : PropertyHandle} (v : Value) (hstate : p.state = uses set)
    (hne : p.state ≠ uses a) :
    SameFor a (uses a) now (Session.write (telling depth) p v now).2 := by
  cases hthere : (now.state p.state).contains p.path with
  | false =>
    rw [write_of_not_contains _ v hthere]
    exact .refl ..
  | true =>
    have hwritten : SameFor a (uses a) now (now.written p v) := by
      refine ⟨rfl, rfl, fun _ => .rfl, rfl, fun _ _ => rfl, ?_⟩
      rw [state_written_eq now v hthere, if_neg hne]
      exact .refl ..
    have hmembers : ∀ s ∈ (now.state p.state).readers now.isLive p.path,
        ∃ set' ∈ sets, uses set' = p.state ∧ ∃ index, start.Renders s set' index := by
      intro s hs
      rw [hstate] at hs ⊢
      exact hnow.renders_of_mem_readers hrest hset hs
    -- Nobody who is told belongs to the set.
    have hnobody : ((now.state p.state).readers now.isLive p.path).filter
        (start.belongsTo a) = [] := by
      rw [List.filter_eq_nil_iff]
      intro s hs
      obtain ⟨set', -, huses, index, hrenders⟩ := hmembers s hs
      rw [belongsTo_eq_false hrenders fun heq => hne (huses.symm.trans (congrArg uses heq))]
      exact Bool.false_ne_true
    have hafter := hnow.written v hthere
    have htold := sameFor_tellEach hrest htenants hapart depth ha
      (fun s hs => (hmembers s hs).imp fun _ => And.imp_right And.right)
      (.refl a (uses a) (now.written p v)) hafter hafter
    rw [hnobody] at htold
    rw [write_of_contains _ v hthere, Run.snd_bind_pure]
    exact hwritten.trans htold.symm

/-! ## Actions -/

/-- An action that concerns the set is taken in both sessions. -/
theorem SameFor.run (depth : Nat) (ha : a ∈ sets) (h : SameFor a (uses a) now now')
    (hnow : Since sets uses start now) (hnow' : Since sets uses start now') {act : Action}
    (hconcerns : act.Concerns start uses a) :
    SameFor a (uses a) (act.run depth now) (act.run depth now') := by
  cases act with
  | write p v => exact h.write hrest htenants hapart depth ha hnow hnow' v hconcerns
  | refresh set index =>
    obtain rfl : set = a := hconcerns
    rw [Action.run, Action.run, edited_refresh, edited_refresh]
    have hsame : now'.binding? set index = now.binding? set index := by
      rw [binding?, h.bindings, binding?]
    cases hb : now.binding? set index with
    | none =>
      rw [renderBinding_of_none hb, renderBinding_of_none (hsame.trans hb)]
      exact h
    | some b =>
      obtain ⟨-, hstate, hidle, -⟩ := hnow.binding hrest htenants ha hb
      obtain ⟨-, -, hidle', -⟩ := hnow'.binding hrest htenants ha (hsame.trans hb)
      exact h.rendered (fun _ hs => hs) (fun _ hs => hs) hstate
        (hnow'.states.trans hnow.states.symm) (rendered_renderBinding hb hidle)
        (rendered_renderBinding (hsame.trans hb) hidle')
  | drop name => exact h.drop hnow.held hnow'.held name

/-- An action that does not concern the set. -/
theorem sameFor_run_of_not_concerns (depth : Nat) (ha : a ∈ sets)
    (hnow : Since sets uses start now) {act : Action} (hact : act.Among sets uses)
    (hno : ¬ act.Concerns start uses a) : SameFor a (uses a) now (act.run depth now) := by
  cases act with
  | write p v =>
    obtain ⟨set, hset, hstate⟩ := hact
    exact sameFor_write hrest htenants hapart depth ha hnow hset v hstate hno
  | refresh set index =>
    rw [Action.run, edited_refresh]
    cases hb : now.binding? set index with
    | none =>
      rw [renderBinding_of_none hb]
      exact .refl ..
    | some b =>
      obtain ⟨-, -, hidle, -⟩ := hnow.binding hrest htenants hact hb
      exact sameFor_of_rendered hrest htenants hapart hnow hact hno hb (fun _ hs => hs)
        (rendered_renderBinding hb hidle)
  | drop name => exact sameFor_drop hnow.held name fun hcalls => hno (hnow.calls name a hcalls)

/-- Of two runs, the one may leave out what does not concern the set. -/
theorem sameFor_foldl (depth : Nat) (ha : a ∈ sets) {acts : List Action}
    (hacts : ∀ act ∈ acts, act.Among sets uses) (h : SameFor a (uses a) now now')
    (hnow : Since sets uses start now) (hnow' : Since sets uses start now') :
    SameFor a (uses a) (acts.foldl (Action.run depth) now)
      ((acts.filter (Action.Concerns start uses a)).foldl (Action.run depth) now') := by
  induction acts generalizing now now' with
  | nil => exact h
  | cons act rest ih =>
    have hact := hacts act (List.mem_cons_self ..)
    have hrest' : ∀ act ∈ rest, act.Among sets uses :=
      fun act hact => hacts act (List.mem_cons_of_mem _ hact)
    have hnext := hnow.run hrest htenants depth hact
    rw [List.foldl_cons]
    by_cases hconcerns : act.Concerns start uses a
    · rw [List.filter_cons_of_pos (by simpa using hconcerns), List.foldl_cons]
      exact ih hrest' (h.run hrest htenants hapart depth ha hnow hnow' hconcerns) hnext
        (hnow'.run hrest htenants depth hact)
    · rw [List.filter_cons_of_neg (by simpa using hconcerns)]
      have hother := sameFor_run_of_not_concerns hrest htenants hapart depth ha hnow hact hconcerns
      exact ih hrest' (hother.symm.trans h) hnext hnow'

end Notifications

/-- What actions leave, a run of them leaves. -/
theorem Since.foldl (hrest : AtRest start) (htenants : Tenants start sets uses) (depth : Nat)
    {acts : List Action} (hacts : ∀ act ∈ acts, act.Among sets uses)
    (h : Since sets uses start now) :
    Since sets uses start (acts.foldl (Action.run depth) now) := by
  induction acts generalizing now with
  | nil => exact h
  | cons act rest ih =>
    exact ih (fun act hact => hacts act (List.mem_cons_of_mem _ hact))
      (h.run hrest htenants depth (hacts act (List.mem_cons_self ..)))

/-! ## Runs -/

/-- Components do not interfere. Take any sets of bindings that a script has made, of components or
compiled, in one document or in several, and suppose that nobody but their bindings has read their
states, which they may share. Then a set that has no text in common with the others is the same
after any writes to their states, renderings of their bindings and drops, as after those of them
alone that write to its own state, render its own bindings or drop its own names: its bindings are,
with what they have counted and the last fault of each, and so are their texts. And if no two of the
sets have a text in common, what has become of all bindings and of all documents depends only on
what each set has seen, and not on how this was interleaved. -/
theorem components_do_not_interfere {script : List Step} {sets : List BindingSetId}
    {uses : BindingSetId → StateId} (depth : Nat) :
    let w := script.foldl (fun w s => (w.step s).2) {}
    let after := fun acts : List Action => acts.foldl (Action.run depth) w
    let seen := fun (a : BindingSetId) (acts : List Action) =>
      acts.filter (Action.Concerns w uses a)
    Tenants w sets uses →
    (∀ a ∈ sets, (∀ b ∈ sets, b ≠ a → Apart w a b) →
      ∀ acts, (∀ act ∈ acts, act.Among sets uses) →
        (after acts).bindings a = (after (seen a acts)).bindings a ∧
        ∀ b ∈ w.bindings a, ((after acts).document b.document).text b.node =
          ((after (seen a acts)).document b.document).text b.node) ∧
    ((∀ a ∈ sets, ∀ b ∈ sets, b ≠ a → Apart w a b) →
      ∀ acts acts', (∀ act ∈ acts, act.Among sets uses) → (∀ act ∈ acts', act.Among sets uses) →
        (∀ a ∈ sets, seen a acts = seen a acts') →
        (∀ set, (after acts).bindings set = (after acts').bindings set) ∧
        ∀ i k, ((after acts).document i).text k = ((after acts').document i).text k) := by
  intro w after seen htenants
  have hrest : AtRest w := atRest_script script
  have hstart : Since sets uses w w := since_refl hrest htenants
  have halone : ∀ a ∈ sets, (∀ b ∈ sets, b ≠ a → Apart w a b) → ∀ acts,
      (∀ act ∈ acts, act.Among sets uses) → SameFor a (uses a) (after acts) (after (seen a acts)) :=
    fun a ha hapart acts hacts => sameFor_foldl hrest htenants hapart depth ha hacts
      (.refl a (uses a) w) hstart hstart
  refine ⟨fun a ha hapart acts hacts => ?_, fun hapart acts acts' hacts hacts' hseen => ?_⟩
  · have hsame := halone a ha hapart acts hacts
    refine ⟨hsame.bindings.symm, fun b hb => ?_⟩
    obtain ⟨b', hb', hdocument, hnode⟩ :=
      exists_place_of_wiring ((hstart.foldl hrest htenants depth hacts).wiring a).symm hb
    rw [← hdocument, ← hnode]
    exact (Document.text_eq_of_data_eq (hsame.texts b' hb')).symm
  · have hleft := hstart.foldl hrest htenants depth hacts
    have hright := hstart.foldl hrest htenants depth hacts'
    -- Both runs look to a set like the one that only concerns it.
    have hboth : ∀ a ∈ sets, SameFor a (uses a) (after acts) (after acts') := by
      intro a ha
      have hfirst := halone a ha (hapart a ha) acts hacts
      have hsecond := halone a ha (hapart a ha) acts' hacts'
      rw [← hseen a ha] at hsecond
      exact hfirst.trans hsecond.symm
    refine ⟨fun set => ?_, fun i k => Document.text_eq_of_data_eq ?_⟩
    · -- A set that is none of these has its bindings as it had them in the beginning.
      by_cases hset : set ∈ sets
      · exact (hboth set hset).bindings.symm
      · exact (hleft.others set hset).trans (hright.others set hset).symm
    · by_cases hbound : ∃ a ∈ sets, ∃ b ∈ w.bindings a, b.document = i ∧ b.node = k
      · obtain ⟨a, ha, b, hb, rfl, rfl⟩ := hbound
        obtain ⟨b', hb', hdocument, hnode⟩ := exists_place_of_wiring (hleft.wiring a).symm hb
        rw [← hdocument, ← hnode]
        exact ((hboth a ha).texts b' hb').symm
      · -- A text that none of the sets has is what it was in the beginning.
        have hspared : ∀ set ∈ sets, ∀ b ∈ w.bindings set, ¬ (b.document = i ∧ b.node = k) :=
          fun set hset b hb hplace => hbound ⟨set, hset, b, hb, hplace⟩
        exact (hleft.texts i k hspared).trans (hright.texts i k hspared).symm

/-- Two texts are compiled for one state, and a third one has a state of its own. -/
def neighbours : List Step :=
  [.edit (.newDocument "page" (some ("<p>\x7b\x7bx\x7d\x7d</p><div>\x7b\x7bx\x7d\x7d</div>" ++
      "<b>\x7b\x7bx\x7d\x7d</b>"))),
    .edit (.observe "data" (.object [("x", .str "1")])),
    .edit (.newCollector "readers"),
    .edit (.compile "left" "page" 1 "data" "readers"),
    .edit (.compile "right" "page" 3 "data" "readers"),
    .edit (.mount "own" "page" (.given "b" (.object [("x", .str "2")])))]

/-- A text that shares its state is written twice, while the other one that has the state is
rendered and then dropped, and while the third one is written. It shows what it would without all
that, and the text that has been dropped is left behind. The writes of the third one might as well
have come first. -/
theorem texts_of_neighbours :
    let w := neighbours.foldl (fun w s => (w.step s).2) {}
    let after := fun acts : List Action => acts.foldl (Action.run 0) w
    let first : Action := .write ⟨0, ⟨["x"]⟩⟩ (.str "3")
    let second : Action := .write ⟨0, ⟨["x"]⟩⟩ (.str "4")
    let other : Action := .write ⟨1, ⟨["x"]⟩⟩ (.str "5")
    let acts := [first, .refresh 1 0, other, .drop "right", second]
    (after acts).bindings 0 = (after [first, second]).bindings 0 ∧
      ((after acts).document 0).text 2 = "4" ∧ ((after acts).document 0).text 4 = "3" ∧
      ∀ i k, ((after [first, other]).document i).text k =
        ((after [other, first]).document i).text k := by
  intro w after first second other acts
  let uses : BindingSetId → StateId := fun set => set / 2
  -- Only paths with slots have readers.
  have hslots : ∀ set ∈ [0, 1, 2], ∀ slot ∈ (w.state (uses set)).slots,
      ∀ s ∈ slot.publisher.arrivals, ∃ set' ∈ [0, 1, 2], ∃ b ∈ w.bindings set',
        b.state = uses set ∧ b.subscriber = s := by decide +kernel
  have htenants : Tenants w [0, 1, 2] uses := by
    refine ⟨by decide +kernel, fun set hset q s hs => ?_⟩
    obtain ⟨slot, hslot, -, harrivals⟩ := State.exists_slot_of_mem_readers hs
    exact hslots set hset slot hslot s harrivals
  have hapart : ∀ a ∈ [0, 1, 2], ∀ b ∈ [0, 1, 2], b ≠ a → Apart w a b := by
    unfold Apart
    decide +kernel
  have hcalls : ¬ w.names.Calls "right" 0 := by decide +kernel
  have hfirst : first.Among [0, 1, 2] uses := ⟨0, by decide, rfl⟩
  have hsecond : second.Among [0, 1, 2] uses := ⟨0, by decide, rfl⟩
  have hother : other.Among [0, 1, 2] uses := ⟨2, by decide, rfl⟩
  have hrefresh : (Action.refresh 1 0).Among [0, 1, 2] uses := List.mem_cons_of_mem _ (.head _)
  have hacts : ∀ act ∈ acts, act.Among [0, 1, 2] uses := by
    simp only [acts, List.forall_mem_cons]
    exact ⟨hfirst, hrefresh, hother, trivial, hsecond, fun _ h => absurd h List.not_mem_nil⟩
  have hseen : acts.filter (Action.Concerns w uses 0) = [first, second] := by
    simp [acts, first, second, other, List.filter, Action.Concerns, uses, hcalls]
  have hmixed : ∀ a ∈ [0, 1, 2], [first, other].filter (Action.Concerns w uses a) =
      [other, first].filter (Action.Concerns w uses a) := by
    simp [first, other, List.filter, Action.Concerns, uses]
  obtain ⟨halone, hdetermined⟩ := components_do_not_interfere 0 htenants
  have hbindings : (after acts).bindings 0 =
      (after (acts.filter (Action.Concerns w uses 0))).bindings 0 :=
    (halone 0 (.head _) (hapart 0 (.head _)) acts hacts).1
  rw [hseen] at hbindings
  have hboth : ∀ act ∈ [first, other], act.Among [0, 1, 2] uses := by
    simp only [List.forall_mem_cons]
    exact ⟨hfirst, hother, fun _ h => absurd h List.not_mem_nil⟩
  refine ⟨hbindings, by decide +kernel, by decide +kernel, ?_⟩
  exact (hdetermined hapart [first, other] [other, first] hboth
    (fun act hact => hboth act (by simpa [or_comm] using hact)) hmixed).2

end LiveText.Session
