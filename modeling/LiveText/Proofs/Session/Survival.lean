import Mathlib
import LiveText.Proofs.Session.Preservation

/-!
# Who survives

A run makes sets of bindings and subscribers, and drops them. Nothing that is gone comes back: a set
lives on only if it has lived before, and new numbers go to new sets and subscribers. The bindings
of a set that is gone stay as they were, since nobody renders them any more.

## Main definitions

- `Renders`: what the subscriber of a binding does.
- `Onward`: what a part of a run does to who lives.

## Main statements

- `editsRespect_onward`, `runsRespect_onward`: edits and runs lead onward.
-/

namespace LiveText.Session

variable {w w' w'' : Session} {set : BindingSetId} {s : SubscriberId}

/-! ## Subscribers of bindings -/

/-- When the subscriber is told, it renders the binding at a place in a set. -/
def Renders (w : Session) (s : SubscriberId) (set : BindingSetId) (index : Nat) : Prop :=
  w.subscribers[s]?.map Subscriber.callback = some (.binding set index)

instance (w : Session) (s : SubscriberId) (set : BindingSetId) (index : Nat) :
    Decidable (w.Renders s set index) :=
  decidable_of_iff _ Callback.bind_place?_eq_some_iff

theorem Renders.lt_size {index : Nat} (h : w.Renders s set index) : s < w.subscribers.size := by
  by_contra hout
  rw [Renders, Array.getElem?_eq_none (Nat.le_of_not_lt hout)] at h
  cases h

/-- A new subscriber renders what it is made for, and the others what they have rendered before. -/
theorem renders_newSubscriber (w : Session) (new : Subscriber) (s : SubscriberId)
    (set : BindingSetId) (index : Nat) : (w.newSubscriber new).2.Renders s set index ↔
      if s = w.subscribers.size then new.callback = .binding set index
      else w.Renders s set index := by
  rw [Renders, newSubscriber, Array.getElem?_push, Renders]
  split
  · rw [Option.map_some, Option.some.injEq]
  · rfl

/-- A program renders nothing. -/
theorem renders_addSubscriber (w : Session) (name : String) (program : List Step) (limit : Nat)
    (s : SubscriberId) (set : BindingSetId) (index : Nat) :
    (w.addSubscriber name program limit).Renders s set index ↔ w.Renders s set index := by
  refine (renders_newSubscriber w _ s set index).trans ?_
  split
  · next hs =>
    refine iff_of_false (fun h => Callback.noConfusion h) fun h => ?_
    exact absurd h.lt_size hs.not_lt
  · rfl

theorem renders_countRun (w : Session) (t s : SubscriberId) (set : BindingSetId) (index : Nat) :
    (w.countRun t).Renders s set index ↔ w.Renders s set index := by
  rw [Renders, Renders, countRun, Array.getElem?_modify]
  split
  · -- A program that is counted stays a program.
    rw [Option.map_map]
    cases w.subscribers[s]? with
    | none => rfl
    | some x =>
      obtain ⟨label, callback⟩ := x
      cases callback with
      | program steps limit runs => simp
      | binding set' index' => simp
  · rfl

/-! ## Onward -/

/-- What a part of a run does to who lives. Dead sets stay dead, and their bindings as they are.
Numbers of subscribers are not used again, and names are given to subscribers that render
nothing. -/
structure Onward (w w' : Session) : Prop where
  sets : w.bindingSets.size ≤ w'.bindingSets.size
  alive : ∀ set, w'.isAlive set = true →
    w.isAlive set = true ∨ w.bindingSets.size ≤ set ∧ set < w'.bindingSets.size
  bindings : ∀ set, set < w.bindingSets.size → w.isAlive set = false →
    w'.bindings set = w.bindings set
  subscribers : w.subscribers.size ≤ w'.subscribers.size
  known : ∀ s, s < w.subscribers.size → ∀ set index,
    w'.Renders s set index ↔ w.Renders s set index
  new : ∀ s set index, w.subscribers.size ≤ s → w'.Renders s set index →
    w.bindingSets.size ≤ set
  named : ∀ e ∈ w'.names.subscribers, (∃ e' ∈ w.names.subscribers, e'.2 = e.2) ∨
    w.subscribers.size ≤ e.2 ∧ e.2 < w'.subscribers.size ∧ ∀ set index, ¬ w'.Renders e.2 set index

namespace Onward

/-- A change that is about none of this. -/
theorem of_eq (hnames : w'.names = w.names) (hheld : w'.held = w.held)
    (hsets : w'.bindingSets = w.bindingSets) (hsubscribers : w'.subscribers = w.subscribers) :
    Onward w w' where
  sets := (congrArg Array.size hsets).ge
  alive set halive := .inl (isAlive_congr hnames hheld set ▸ halive)
  bindings set _ _ := by rw [Session.bindings, hsets, Session.bindings]
  subscribers := (congrArg Array.size hsubscribers).ge
  known s _ set index := by rw [Renders, hsubscribers, Renders]
  new s set index hs h := absurd (hsubscribers ▸ h.lt_size) (Nat.not_lt_of_le hs)
  named e he := .inl ⟨e, hnames ▸ he, rfl⟩

theorem refl (w : Session) : Onward w w :=
  .of_eq rfl rfl rfl rfl

/-- What is gone stays gone. -/
theorem isAlive_eq_false (h : Onward w w') (hset : set < w.bindingSets.size)
    (hdead : w.isAlive set = false) : w'.isAlive set = false := by
  cases halive : w'.isAlive set with
  | false => rfl
  | true =>
    rcases h.alive set halive with halive | ⟨hle, -⟩
    · exact absurd (hdead.symm.trans halive) Bool.false_ne_true
    · exact absurd hset (Nat.not_lt_of_le hle)

theorem trans (h : Onward w w') (h' : Onward w' w'') : Onward w w'' where
  sets := h.sets.trans h'.sets
  alive set halive := by
    rcases h'.alive set halive with halive | ⟨hle, hlt⟩
    · exact (h.alive set halive).imp_right fun hset => ⟨hset.1, hset.2.trans_le h'.sets⟩
    · exact .inr ⟨h.sets.trans hle, hlt⟩
  bindings set hset hdead := by
    rw [h'.bindings set (hset.trans_le h.sets) (h.isAlive_eq_false hset hdead),
      h.bindings set hset hdead]
  subscribers := h.subscribers.trans h'.subscribers
  known s hs set index :=
    (h'.known s (hs.trans_le h.subscribers) set index).trans (h.known s hs set index)
  new s set index hs hrenders := by
    by_cases hs' : s < w'.subscribers.size
    · exact h.new s set index hs ((h'.known s hs' set index).mp hrenders)
    · exact h.sets.trans (h'.new s set index (Nat.le_of_not_lt hs') hrenders)
  named e he := by
    rcases h'.named e he with ⟨e', he', heq⟩ | ⟨hle, hnew⟩
    · rw [← heq]
      refine (h.named e' he').imp_right fun hnew => ⟨hnew.1, hnew.2.1.trans_le h'.subscribers, ?_⟩
      intro set index hrenders
      exact hnew.2.2 set index ((h'.known e'.2 hnew.2.1 set index).mp hrenders)
    · exact .inr ⟨h.subscribers.trans hle, hnew⟩

/-- Subscribers that there are keep what they do, and new ones belong to new sets. -/
theorem of_recruits (hnames : w'.names = w.names) (hheld : w'.held = w.held)
    (hsets : w.bindingSets.size ≤ w'.bindingSets.size)
    (hbindings : ∀ set, set < w.bindingSets.size → w.isAlive set = false →
      w'.bindings set = w.bindings set)
    {recruited : BindingSetId} (hrecruited : w.bindingSets.size ≤ recruited)
    (hrecruits : Recruits recruited w.subscribers w'.subscribers) : Onward w w' where
  sets := hsets
  alive set halive := .inl (isAlive_congr hnames hheld set ▸ halive)
  bindings := hbindings
  subscribers := hrecruits.size
  known s hs set index := by rw [Renders, hrecruits.known s hs, Renders]
  new s set index hs hrenders := by
    obtain ⟨index', heq⟩ := hrecruits.recruits s _ hs hrenders
    cases heq
    exact hrecruited
  named e he := .inl ⟨e, hnames ▸ he, rfl⟩

end Onward

/-! ## Edits -/

theorem onward_setLabel (w : Session) (s : SubscriberId) (label : String) :
    Onward w (w.setLabel s label) :=
  .of_recruits rfl rfl le_rfl (fun _ _ _ => rfl) le_rfl
    (.of_callbacks Array.size_modify (callback_setLabel w s label))

/-- A living binding is rendered, and others are left alone. -/
theorem onward_renderBinding (index : Nat) (halive : w.isAlive set = true) :
    Onward w (w.renderBinding set index).2 := by
  have hframed := framed_renderBinding w set index
  refine .of_recruits hframed.names hframed.held hframed.sets.ge (fun set' _ hdead => ?_) le_rfl
    (subscribers_renderBinding w set index ▸ .refl w.bindingSets.size w.subscribers)
  apply bindings_renderBinding_of_ne
  rintro rfl
  exact absurd (hdead.symm.trans halive) Bool.false_ne_true

theorem onward_compile (w : Session) (i : DocumentId) (k : NodeId) (state : StateId)
    (collector : CollectorId) : Onward w (w.compile i k state collector).2 := by
  have hcompiles := compiles_compile w i k state collector
  have hsets := (Nat.le_succ w.bindingSets.size).trans_eq hcompiles.sets.symm
  refine .of_recruits hcompiles.names hcompiles.held hsets
    (fun set hset _ => hcompiles.others set hset.ne) le_rfl hcompiles.recruits

/-- Names go to sets that have one already or have just been made. -/
theorem onward_rename {f : Names → Names} (h : Onward w w') (hrenames : Renames w w' f) :
    Onward w (w'.rename f) where
  sets := h.sets
  alive set halive := by
    rcases isAlive_iff_keep.mp halive with hkeep | hheld
    · rcases hrenames.sets set hkeep with hkeep | hnew
      · exact h.alive set (isAlive_iff_keep.mpr (.inl hkeep))
      · exact .inr hnew
    · exact h.alive set (isAlive_iff_keep.mpr (.inr hheld))
  bindings := h.bindings
  subscribers := h.subscribers
  known := h.known
  new := h.new
  named e he := by
    obtain ⟨e', he', heq⟩ := hrenames.subscribers e he
    exact heq ▸ h.named e' he'

theorem editsRespect_onward : EditsRespect Onward where
  refl := .refl
  trans := .trans
  rename _ := onward_rename
  emit _ _ := .of_eq rfl rfl rfl rfl
  setState _ := .of_eq rfl rfl rfl rfl
  modifyDocument _ _ _ := .of_eq rfl rfl rfl rfl
  setLabel := onward_setLabel
  observe w data := by
    obtain ⟨trace, hobserve⟩ := observe_eq w data
    rw [hobserve]
    exact .of_eq rfl rfl rfl rfl
  newCollector _ := .of_eq rfl rfl rfl rfl
  newDocument _ _ := .of_eq rfl rfl rfl rfl
  renderBinding := onward_renderBinding
  compile := onward_compile

/-! ## Runs -/

/-- A new subscriber with a program gets a name. -/
theorem onward_addSubscriber (w : Session) (name : String) (program : List Step) (limit : Nat) :
    Onward w (w.addSubscriber name program limit) := by
  have hsubscribers : (w.addSubscriber name program limit).subscribers =
      w.subscribers.push ⟨some name, .program program limit 0⟩ := rfl
  have hrenders := renders_addSubscriber w name program limit
  refine ⟨le_rfl, fun _ halive => .inl halive, fun _ _ _ => rfl, ?_, fun s _ => hrenders s,
    fun s set index hs h => ?_, fun e he => ?_⟩
  · rw [hsubscribers, Array.size_push]
    exact Nat.le_succ _
  · exact absurd ((hrenders s set index).mp h).lt_size (Nat.not_lt_of_le hs)
  · rcases Entries.mem_of_mem_insert he with rfl | he
    · refine .inr ⟨le_rfl, ?_, fun set index h => ?_⟩
      · rw [hsubscribers, Array.size_push]
        exact Nat.lt_succ_self _
      · exact absurd ((hrenders _ set index).mp h).lt_size (Nat.lt_irrefl _)
    · exact .inl ⟨e, he, rfl⟩

theorem onward_countRun (w : Session) (s : SubscriberId) : Onward w (w.countRun s) := by
  have hsize : (w.countRun s).subscribers.size = w.subscribers.size := Array.size_modify
  refine ⟨le_rfl, fun _ halive => .inl halive, fun _ _ _ => rfl, hsize.ge,
    fun t _ => renders_countRun w s t, fun t set index ht h => ?_, fun e he => .inl ⟨e, he, rfl⟩⟩
  exact absurd ((renders_countRun w s t set index).mp h).lt_size (Nat.not_lt_of_le ht)

/-- Living sets are kept alive a little longer, and subscribers whether they live or not. -/
theorem onward_hold {holdings : List Holding}
    (hholdings : ∀ set, Holding.bindings set ∈ holdings → w.isAlive set = true) :
    Onward w (w.hold holdings) := by
  refine ⟨le_rfl, fun set hset => .inl ?_, fun _ _ _ => rfl, le_rfl, fun _ _ _ _ => .rfl,
    fun s _ _ hs h => absurd h.lt_size (Nat.not_lt_of_le hs), fun e he => .inl ⟨e, he, rfl⟩⟩
  rcases isAlive_hold.mp hset with hset | hset
  · exact hset
  · exact hholdings set hset

theorem onward_hold_subscribers (w : Session) (ss : List SubscriberId) :
    Onward w (w.hold (ss.map .subscriber)) :=
  onward_hold fun set hset => by simp at hset

/-- What has been kept alive is let go of. -/
theorem onward_holdAs (hheld : ∀ x ∈ w.held, x ∈ w'.held) : Onward w' (w'.holdAs w) := by
  refine ⟨le_rfl, fun set hset => .inl ?_, fun _ _ _ => rfl, le_rfl, fun _ _ _ _ => .rfl,
    fun s _ _ hs h => absurd h.lt_size (Nat.not_lt_of_le hs), fun e he => .inl ⟨e, he, rfl⟩⟩
  exact isAlive_iff_keep.mpr ((isAlive_iff_keep.mp hset).imp_right (hheld _))

theorem onward_setCollector (w : Session) (c : CollectorId) (collector : Collector) :
    Onward w (w.setCollector c collector) :=
  .of_eq rfl rfl rfl rfl

/-- In the end everything is kept alive that has been kept before, and nothing else. -/
theorem elementary_held : Elementary fun w w' => w'.held = w.held where
  refl _ := rfl
  trans h h' := h'.trans h
  rename _ _ := rfl
  emit _ _ := rfl
  setState _ _ _ := rfl
  modifyDocument _ _ _ := rfl
  modifyBinding _ _ _ _ := rfl
  setLabel _ _ _ := rfl
  observe w data := by
    obtain ⟨trace, hobserve⟩ := observe_eq w data
    rw [hobserve]
  newCollector _ := rfl
  newDocument _ _ := rfl
  newScratch _ _ := rfl
  newBindingSet _ := rfl
  withBinding _ _ _ := rfl
  holding _ _ := rfl

/-- Both together, so that what is let go of in the end has been kept alive all the time. -/
theorem runsRespect_onward : RunsRespect fun w w' => Onward w w' ∧ w'.held = w.held where
  refl w := ⟨.refl w, rfl⟩
  trans h h' := ⟨h.1.trans h'.1, h'.2.trans h.2⟩
  perform h := ⟨editsRespect_onward.perform h, elementary_held.perform h⟩
  addSubscriber w name program limit := ⟨onward_addSubscriber w name program limit, rfl⟩
  emit _ _ := ⟨.of_eq rfl rfl rfl rfl, rfl⟩
  record _ _ := ⟨.of_eq rfl rfl rfl rfl, rfl⟩
  countRun w s := ⟨onward_countRun w s, rfl⟩
  renderBinding index halive :=
    ⟨onward_renderBinding index halive, (framed_renderBinding _ _ index).held⟩
  written _ _ := ⟨.of_eq rfl rfl rfl rfl, rfl⟩
  holding holdings hholdings h := by
    refine ⟨((onward_hold hholdings).trans h.1).trans (onward_holdAs fun x hx => ?_), rfl⟩
    rw [h.2]
    exact List.mem_append_right holdings hx
  collecting _ h := ⟨((onward_setCollector ..).trans h.1).trans (onward_setCollector ..), h.2⟩

end LiveText.Session
