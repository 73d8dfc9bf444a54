import Mathlib
import LiveText.Proofs.Session.Compilation
import LiveText.Proofs.Session.Rendering

/-!
# What compilations leave alone

A rendering writes to one text, one state and the record of its binding. A compilation adds a set of
bindings and their subscribers. Whatever else there is stays, also if the compilation fails.

## Main definitions

- `Framed`: what renderings leave alone.
- `Binds`: what stays while bindings are added to a set and rendered.
- `Compiles`: what stays when a set has been added.

## Main statements

- `bindTexts_respects`: binding texts respects what adding a binding and rendering one respect.
- `compiles_compile`: compilations.
-/

namespace LiveText.Session

variable {w w' : Session} {set : BindingSetId} {index : Nat} {b : Binding}

/-! ## Texts -/

section Texts

variable {R : Session → Session → Prop} (hrefl : ∀ w, R w w)
  (htrans : ∀ {w w' w''}, R w w' → R w' w'' → R w w'')
  (hwith : ∀ w b, b.subscriber = w.subscribers.size → R w (w.withBinding set b))
  (hrender : ∀ w index, R w (w.renderBinding set index).2)

include hrefl htrans hwith hrender

/-- A text that is bound gets a binding, which is rendered. -/
theorem bindText_respects (i : DocumentId) (state : StateId) (collector : CollectorId) (k : NodeId)
    (w : Session) : R w (bindText set i state collector k w).2 := by
  cases hparse : Template.parse ((w.document i).text k) with
  | none =>
    rw [bindText, hparse]
    exact hrefl w
  | some template =>
    rw [bindText_of_template hparse]
    exact htrans (hwith w _ rfl) (hrender ..)

/-- Texts are bound one after the other, up to the first fault. -/
theorem bindTexts_respects (i : DocumentId) (state : StateId) (collector : CollectorId)
    (ks : List NodeId) (w : Session) : R w (bindTexts set i state collector ks w).2 := by
  induction ks generalizing w with
  | nil => exact hrefl w
  | cons k rest ih =>
    have hfirst := bindText_respects hrefl htrans hwith hrender i state collector k w
    rw [bindTexts]
    split
    · next w₁ hbound =>
      rw [hbound] at hfirst
      exact htrans hfirst (ih w₁)
    · next fault w₁ hbound =>
      rw [hbound] at hfirst
      exact hfirst

end Texts

/-! ## Renderings -/

/-- What renderings leave alone. -/
structure Framed (w w' : Session) : Prop where
  names : w'.names = w.names
  held : w'.held = w.held
  states : w'.states.size = w.states.size
  data : ∀ i, (w'.state i).data = (w.state i).data
  sets : w'.bindingSets.size = w.bindingSets.size

theorem Framed.refl (w : Session) : Framed w w :=
  ⟨rfl, rfl, rfl, fun _ => rfl, rfl⟩

theorem Framed.trans {w'' : Session} (h : Framed w w') (h' : Framed w' w'') : Framed w w'' :=
  ⟨h'.names.trans h.names, h'.held.trans h.held, h'.states.trans h.states,
    fun i => (h'.data i).trans (h.data i), h'.sets.trans h.sets⟩

/-- A state whose data stays may change, and the data of all states stays. -/
theorem data_setState {i : StateId} {st : State} (h : st.data = (w.state i).data) (j : StateId) :
    ((w.setState i st).state j).data = (w.state j).data := by
  rw [state_setState]
  split
  · next hi => rw [h, hi.1]
  · rfl

/-- A rendering registers its subscriber with what it reads, and keeps the data. -/
theorem data_renderBinding (w : Session) (set : BindingSetId) (index : Nat) (i : StateId) :
    ((w.renderBinding set index).2.state i).data = (w.state i).data := by
  cases hb : w.binding? set index with
  | none => rw [renderBinding_of_none hb]
  | some b =>
    cases hactive : (w.collector b.collector).active with
    | some active =>
      rw [renderBinding_of_busy hb hactive]
      rfl
    | none =>
      rw [renderBinding_of_active hb hactive]
      dsimp only
      rw [state_afterReading]
      exact data_setState (State.data_renderWith ..) i

theorem framed_renderBinding (w : Session) (set : BindingSetId) (index : Nat) :
    Framed w (w.renderBinding set index).2 := by
  -- Nothing happens, or only the record changes, or the template has been read.
  rcases snd_renderBinding_cases w set index with h | ⟨fault, h⟩ | ⟨b, st, result, h⟩
  · rw [h]
    exact .refl w
  · rw [h]
    exact ⟨rfl, rfl, rfl, fun _ => rfl, Array.size_modify⟩
  · have hdata := data_renderBinding w set index
    rw [h] at hdata ⊢
    exact ⟨names_afterReading .., held_afterReading .., size_states_afterReading .., hdata,
      size_bindingSets_afterReading ..⟩

theorem framed_withBinding (w : Session) (set : BindingSetId) (b : Binding) :
    Framed w (w.withBinding set b) :=
  ⟨rfl, rfl, rfl, fun _ => rfl, Array.size_modify⟩

theorem framed_bindText (w : Session) (set : BindingSetId) (i : DocumentId) (k : NodeId)
    (state : StateId) (collector : CollectorId) :
    Framed w (bindText set i state collector k w).2 :=
  bindText_respects Framed.refl Framed.trans (fun w b _ => framed_withBinding w set b)
    (framed_renderBinding · set) i state collector k w

theorem collectors_renderBinding (w : Session) (set : BindingSetId) (index : Nat) :
    (w.renderBinding set index).2.collectors = w.collectors := by
  rcases snd_renderBinding_cases w set index with h | ⟨fault, h⟩ | ⟨b, st, result, h⟩
  · rw [h]
  · rw [h]
    rfl
  · rw [h, collectors_afterReading]

/-- A rendering changes no binding of another set. -/
theorem bindings_renderBinding_of_ne {set' : BindingSetId} (hset : set' ≠ set) (w : Session)
    (index : Nat) : (w.renderBinding set index).2.bindings set' = w.bindings set' := by
  rcases snd_renderBinding_cases w set index with h | ⟨fault, h⟩ | ⟨b, st, result, h⟩
  · rw [h]
  · rw [h, bindings_modifyBinding, if_neg hset.symm]
    rfl
  · rw [h, bindings_afterReading, if_neg hset.symm]

/-! ## New subscribers -/

/-- Subscribers have been added to those that there were, all of them for bindings of a set. -/
structure Recruits (set : BindingSetId) (old new : Array Subscriber) : Prop where
  size : old.size ≤ new.size
  known : ∀ s, s < old.size →
    new[s]?.map Subscriber.callback = old[s]?.map Subscriber.callback
  recruits : ∀ s callback, old.size ≤ s → new[s]?.map Subscriber.callback = some callback →
    ∃ index, callback = .binding set index

namespace Recruits

variable {old new newer : Array Subscriber}

theorem of_callbacks (hsize : new.size = old.size)
    (h : ∀ s : SubscriberId,
      new[s]?.map Subscriber.callback = old[s]?.map Subscriber.callback) :
    Recruits set old new := by
  refine ⟨hsize.ge, fun s _ => h s, fun s callback hs hcallback => ?_⟩
  rw [Array.getElem?_eq_none (hsize ▸ hs)] at hcallback
  cases hcallback

theorem refl (set : BindingSetId) (old : Array Subscriber) : Recruits set old old :=
  .of_callbacks rfl fun _ => rfl

theorem trans (h : Recruits set old new) (h' : Recruits set new newer) :
    Recruits set old newer := by
  refine ⟨h.size.trans h'.size, fun s hs => ?_, fun s callback hs hcallback => ?_⟩
  · rw [h'.known s (hs.trans_le h.size), h.known s hs]
  · by_cases hs' : s < new.size
    · rw [h'.known s hs'] at hcallback
      exact h.recruits s callback hs hcallback
    · exact h'.recruits s callback (Nat.le_of_not_lt hs') hcallback

theorem push (old : Array Subscriber) (label : Option String) (set : BindingSetId)
    (index : Nat) : Recruits set old (old.push ⟨label, .binding set index⟩) := by
  refine ⟨(Array.size_push _).ge.trans' (Nat.le_succ _), fun s hs => ?_, fun s callback hs h => ?_⟩
  · rw [Array.getElem?_push, if_neg hs.ne]
  · rw [Array.getElem?_push] at h
    split at h
    · exact ⟨index, (Option.some.inj h).symm⟩
    · rw [Array.getElem?_eq_none hs] at h
      cases h

end Recruits

/-! ## Bindings of a set -/

/-- Bindings have been added to a set and rendered. -/
structure Binds (set : BindingSetId) (w w' : Session) : Prop extends Framed w w' where
  collectors : w'.collectors = w.collectors
  others : ∀ set', set' ≠ set → w'.bindings set' = w.bindings set'
  recruits : Recruits set w.subscribers w'.subscribers

theorem Binds.refl (set : BindingSetId) (w : Session) : Binds set w w :=
  ⟨.refl w, rfl, fun _ _ => rfl, .refl set w.subscribers⟩

theorem Binds.trans {w'' : Session} (h : Binds set w w') (h' : Binds set w' w'') :
    Binds set w w'' :=
  ⟨h.toFramed.trans h'.toFramed, h'.collectors.trans h.collectors,
    fun set' hset => (h'.others set' hset).trans (h.others set' hset),
    h.recruits.trans h'.recruits⟩

/-- The bindings of a session with one more. -/
theorem binding?_withBinding (hset : set < w.bindingSets.size) (b : Binding) (set' : BindingSetId)
    (index' : Nat) (b' : Binding) :
    (w.withBinding set b).binding? set' index' = some b' ↔
      w.binding? set' index' = some b' ∨
        (set' = set ∧ index' = (w.bindings set).length ∧ b' = b) := by
  have hbindings : (w.withBinding set b).bindings set' =
      if set = set' ∧ set < w.bindingSets.size then w.bindings set' ++ [b] else w.bindings set' :=
    bindings_addBinding _ set b set'
  rw [binding?, hbindings, binding?]
  by_cases hsame : set = set'
  · subst hsame
    rw [if_pos ⟨rfl, hset⟩]
    rcases Nat.lt_trichotomy index' (w.bindings set).length with hlt | rfl | hgt
    · rw [List.getElem?_append_left hlt]
      simp [hlt.ne]
    · simp [eq_comm]
    · rw [List.getElem?_eq_none (by simp; omega), List.getElem?_eq_none hgt.le]
      simp [hgt.ne']
  · rw [if_neg fun h => hsame h.1]
    simp [Ne.symm hsame]

theorem binds_renderBinding (w : Session) (set : BindingSetId) (index : Nat) :
    Binds set w (w.renderBinding set index).2 :=
  ⟨framed_renderBinding w set index, collectors_renderBinding w set index,
    fun _ hset => bindings_renderBinding_of_ne hset w index,
    subscribers_renderBinding w set index ▸ .refl set w.subscribers⟩

theorem binds_withBinding (w : Session) (set : BindingSetId) (b : Binding) :
    Binds set w (w.withBinding set b) := by
  refine ⟨framed_withBinding w set b, rfl, fun set' hset => ?_,
    .push w.subscribers none set (w.bindings set).length⟩
  exact (bindings_addBinding _ set b set').trans (if_neg fun h => hset h.1.symm)

theorem binds_bindText (w : Session) (set : BindingSetId) (i : DocumentId) (state : StateId)
    (collector : CollectorId) (k : NodeId) : Binds set w (bindText set i state collector k w).2 :=
  bindText_respects (Binds.refl set) Binds.trans (fun w b _ => binds_withBinding w set b)
    (binds_renderBinding · set) i state collector k w

theorem binds_bindTexts (w : Session) (set : BindingSetId) (i : DocumentId) (state : StateId)
    (collector : CollectorId) (ks : List NodeId) :
    Binds set w (bindTexts set i state collector ks w).2 :=
  bindTexts_respects (Binds.refl set) Binds.trans (fun w b _ => binds_withBinding w set b)
    (binds_renderBinding · set) i state collector ks w

/-! ## Compilations -/

/-- A set of bindings has been added, and subscribers for its bindings. -/
structure Compiles (w w' : Session) : Prop where
  names : w'.names = w.names
  held : w'.held = w.held
  collectors : w'.collectors = w.collectors
  states : w'.states.size = w.states.size
  data : ∀ i, (w'.state i).data = (w.state i).data
  sets : w'.bindingSets.size = w.bindingSets.size + 1
  others : ∀ set, set ≠ w.bindingSets.size → w'.bindings set = w.bindings set
  recruits : Recruits w.bindingSets.size w.subscribers w'.subscribers

theorem compiles_compile (w : Session) (i : DocumentId) (k : NodeId) (state : StateId)
    (collector : CollectorId) : Compiles w (w.compile i k state collector).2 := by
  have hbinds := binds_bindTexts ((w.opened i k).hold [.bindings w.bindingSets.size])
    w.bindingSets.size i state collector
    (((w.opened i k).document i).outerTexts (w.document i).size)
  rw [compile_eq]
  generalize bindTexts _ _ _ _ _ _ = bound at hbinds ⊢
  have hclosed : Compiles w (w.closed bound.2 i k) :=
    ⟨hbinds.names, rfl, hbinds.collectors, hbinds.states, hbinds.data,
      hbinds.sets.trans (size_bindingSets_opened w i k),
      fun set hset => (hbinds.others set hset).trans (bindings_opened w i k set), hbinds.recruits⟩
  rw [concluded]
  dsimp only
  generalize w.closed bound.2 i k = closed at hclosed ⊢
  -- What is told at the end makes no difference.
  cases bound.1 with
  | error fault => exact hclosed
  | ok _ =>
    exact ⟨hclosed.names, hclosed.held, hclosed.collectors, hclosed.states, hclosed.data,
      hclosed.sets, hclosed.others, hclosed.recruits⟩

/-- The set of a component is the next one. -/
theorem bindings_of_mount {i : DocumentId} {options : Options} {c : Component}
    (h : w.mount i options = (.ok c, w')) :
    c.bindings = w.bindingSets.size ∧ w'.bindingSets.size = w.bindingSets.size + 1 := by
  obtain ⟨w₁, event, -, hcompile, rfl, -⟩ := compile_of_mount h
  have hsets : (w.begun options).bindingSets = w.bindingSets := by
    obtain ⟨trace, hbegun⟩ := w.begun_eq options
    rw [hbegun]
  have hsize := (compiles_compile (w.begun options) i c.el c.state c.collector).sets
  rw [hcompile, hsets] at hsize
  exact ⟨hsets ▸ eq_of_compile hcompile, hsize⟩

/-- The proxy of a component offers the keys of its state, which is there. -/
theorem proxy_of_mount {i : DocumentId} {options : Options} {c : Component}
    (h : w.mount i options = (.ok c, w')) :
    c.proxy = ⟨c.state, (w'.state c.state).roots⟩ ∧ c.state < w'.states.size := by
  obtain ⟨w₁, event, -, hcompile, rfl, -, hstate, -, hproxy⟩ := compile_of_mount h
  have hcompiles := compiles_compile (w.begun options) i c.el c.state c.collector
  rw [hcompile] at hcompiles
  refine ⟨hproxy.trans (congrArg (Proxy.mk c.state) ?_), ?_⟩
  · exact (congrArg Prod.fst (hcompiles.data c.state)).symm
  · refine hstate.trans_lt (Nat.lt_of_lt_of_eq ?_ hcompiles.states.symm)
    rw [states_begun, Array.size_push]
    exact Nat.lt_succ_self _

end LiveText.Session
