import Mathlib
import LiveText.Proofs.Session.Frames
import LiveText.Proofs.Session.Writing

/-!
# What is kept alive anyway

Steps keep things alive while they are taken. If those live anyway, bindings that are told meanwhile
cannot tell the difference: everything goes as it would without, and what has been kept is let go of
at the end.

## Main definitions

- `Spare`: things that live whether or not they are kept.
- `Steady`: nobody is named, kept or made.

## Main statements

- `renderBinding_hold`, `tellEach_hold`, `write_hold`: what goes on is the same while spare things
  are kept.
-/

namespace LiveText.Session

variable {w w' w'' : Session} {set : BindingSetId} {holdings : List Holding}

/-! ## Spare things -/

theorem hold_hold (w : Session) (xs ys : List Holding) :
    (w.hold xs).hold ys = w.hold (ys ++ xs) :=
  congrArg (fun held => { w with held }) (List.append_assoc ..).symm

/-- All of this lives, whether or not it is kept. -/
structure Spare (w : Session) (holdings : List Holding) : Prop where
  bindings : ∀ set, Holding.bindings set ∈ holdings → w.isAlive set = true
  subscribers : ∀ s, Holding.subscriber s ∈ holdings → w.isLive s = true

namespace Spare

theorem nil (w : Session) : w.Spare [] :=
  ⟨fun _ hset => absurd hset List.not_mem_nil, fun _ hs => absurd hs List.not_mem_nil⟩

theorem append {more : List Holding} (hmore : w.Spare more) (h : w.Spare holdings) :
    w.Spare (more ++ holdings) where
  bindings set hset := (List.mem_append.mp hset).elim (hmore.bindings set) (h.bindings set)
  subscribers s hs := (List.mem_append.mp hs).elim (hmore.subscribers s) (h.subscribers s)

theorem isAlive_hold (h : w.Spare holdings) (set : BindingSetId) :
    (w.hold holdings).isAlive set = w.isAlive set := by
  rw [Bool.eq_iff_iff, Session.isAlive_hold, or_iff_left_of_imp (h.bindings set)]

theorem isLive_hold (h : w.Spare holdings) : (w.hold holdings).isLive = w.isLive := by
  funext s
  rw [Bool.eq_iff_iff]
  constructor
  · intro hlive
    rcases isLive_iff.mp hlive with hnamed | hheld | ⟨set, index, hs, halive⟩
    · exact isLive_iff.mpr (.inl hnamed)
    · rcases List.mem_append.mp hheld with hspare | hheld
      · exact h.subscribers s hspare
      · exact isLive_iff.mpr (.inr (.inl hheld))
    · exact isLive_of_binding hs (h.isAlive_hold set ▸ halive)
  · intro hlive
    rcases isLive_iff.mp hlive with hnamed | hheld | ⟨set, index, hs, halive⟩
    · exact isLive_iff.mpr (.inl hnamed)
    · exact isLive_iff.mpr (.inr (.inl (List.mem_append_right _ hheld)))
    · exact isLive_of_binding (w := w.hold holdings) hs ((h.isAlive_hold set).trans halive)

end Spare

/-- Nobody has been named, kept or made. -/
structure Steady (w w' : Session) : Prop where
  names : w'.names = w.names
  held : w'.held = w.held
  subscribers : w'.subscribers = w.subscribers

namespace Steady

theorem refl (w : Session) : Steady w w :=
  ⟨rfl, rfl, rfl⟩

theorem trans (h : Steady w w') (h' : Steady w' w'') : Steady w w'' :=
  ⟨h'.names.trans h.names, h'.held.trans h.held, h'.subscribers.trans h.subscribers⟩

theorem isAlive_eq (h : Steady w w') (set : BindingSetId) : w'.isAlive set = w.isAlive set :=
  isAlive_congr h.names h.held set

/-- What has been kept on top is let go of. -/
theorem holdAs_eq (h : Steady w w') (xs holdings : List Holding) :
    (w'.hold xs).holdAs (w.hold holdings) = w'.hold holdings :=
  congrArg (fun held => { w' with held := holdings ++ held }) h.held.symm

theorem spare (h : Steady w w') (hspare : w.Spare holdings) : w'.Spare holdings where
  bindings set hset := (h.isAlive_eq set).trans (hspare.bindings set hset)
  subscribers s hs :=
    (isLive_congr h.names h.held h.subscribers s).trans (hspare.subscribers s hs)

end Steady

theorem steady_renderBinding (w : Session) (set : BindingSetId) (index : Nat) :
    Steady w (w.renderBinding set index).2 :=
  have hframed := framed_renderBinding w set index
  ⟨hframed.names, hframed.held, subscribers_renderBinding w set index⟩

/-! ## Runs that keep spare things -/

/-- A rendering cannot tell what is kept, as long as the same subscribers live. -/
theorem renderBinding_hold (hlive : (w.hold holdings).isLive = w.isLive) (set : BindingSetId)
    (index : Nat) :
    (w.hold holdings).renderBinding set index =
      ((w.renderBinding set index).1, (w.renderBinding set index).2.hold holdings) := by
  have hbinding : (w.hold holdings).binding? set index = w.binding? set index := rfl
  rw [renderBinding, renderBinding, hbinding]
  cases w.binding? set index with
  | none => rfl
  | some b =>
    have hcollector : (w.hold holdings).collector b.collector = w.collector b.collector := rfl
    dsimp only
    rw [hcollector]
    cases (w.collector b.collector).start b.subscriber with
    | error fault => rfl
    | ok busy =>
      have hrender : (w.hold holdings).renderTemplate b.template b.state busy.active =
          ((w.renderTemplate b.template b.state busy.active).1,
            (w.renderTemplate b.template b.state busy.active).2.hold holdings) := by
        rw [renderTemplate, hlive]
        rfl
      dsimp only
      rw [hrender]
      cases w.renderTemplate b.template b.state busy.active with
      | mk rendered w₁ => cases rendered <;> rfl

/-- The subscribers render living bindings. -/
def TellsBindings (w : Session) (ids : List SubscriberId) : Prop :=
  ∀ s ∈ ids, ∃ set index,
    w.subscribers[s]?.map Subscriber.callback = some (.binding set index) ∧ w.isAlive set = true

theorem TellsBindings.spare {ids : List SubscriberId} (h : w.TellsBindings ids) :
    w.Spare (ids.map .subscriber) where
  bindings set hset := by simp at hset
  subscribers s hs := by
    obtain ⟨t, ht, heq⟩ := List.mem_map.mp hs
    cases heq
    obtain ⟨set, index, hcallback, halive⟩ := h s ht
    exact isLive_of_binding hcallback halive

theorem Steady.tellsBindings {ids : List SubscriberId} (hsteady : Steady w w')
    (h : w.TellsBindings ids) : w'.TellsBindings ids := by
  intro s hs
  obtain ⟨set, index, hcallback, halive⟩ := h s hs
  exact ⟨set, index, hsteady.subscribers ▸ hcallback, (hsteady.isAlive_eq set).trans halive⟩

/-- Bindings that are told return, and what they leave does not depend on what is kept. -/
theorem tellEach_hold (depth : Nat) {ids : List SubscriberId} (hids : w.TellsBindings ids) :
    ∃ w', Steady w w' ∧ ∀ holdings, w.Spare holdings →
      tellEach (telling depth) ids (w.hold holdings) = (.returned (), w'.hold holdings) := by
  -- On those who are told; each of them leaves a session in which the others are told.
  induction ids generalizing w with
  | nil => exact ⟨w, .refl w, fun _ _ => rfl⟩
  | cons s rest ih =>
    obtain ⟨set, index, hcallback, halive⟩ := hids s List.mem_cons_self
    have hsteady := steady_renderBinding w set index
    obtain ⟨w', hsteady', htells⟩ := ih (hsteady.tellsBindings fun t ht =>
      hids t (List.mem_cons_of_mem s ht))
    refine ⟨w', hsteady.trans hsteady', fun holdings hspare => ?_⟩
    have hall := hids.spare.append hspare
    have htold : telling depth s ((w.hold holdings).hold ((s :: rest).map .subscriber)) =
        (.returned (), (w.renderBinding set index).2.hold
          ((s :: rest).map .subscriber ++ holdings)) := by
      rw [hold_hold, telling_of_binding depth (w := w.hold _) hcallback, hall.isAlive_hold, halive,
        if_pos rfl, renderBinding_hold hall.isLive_hold]
    have hfirst : (telling depth s).holding ((s :: rest).map .subscriber) (w.hold holdings) =
        (.returned (), (w.renderBinding set index).2.hold holdings) := by
      rw [Run.holding, htold]
      exact congrArg (Prod.mk _) (hsteady.holdAs_eq ..)
    rw [tellEach, Run.bind_returned hfirst]
    exact htells holdings (hsteady.spare hspare)

/-- The same of a write whose readers render living bindings. -/
theorem write_hold (depth : Nat) {h : PropertyHandle} (v : Value)
    (hreaders : w.TellsBindings ((w.state h.state).readers w.isLive h.path)) :
    ∃ answer w', Steady w w' ∧ ∀ holdings, w.Spare holdings →
      write (telling depth) h v (w.hold holdings) = (.returned answer, w'.hold holdings) := by
  cases hthere : (w.state h.state).contains h.path with
  | false =>
    exact ⟨_, w, .refl w, fun holdings _ =>
      write_of_not_contains (telling depth) (w := w.hold holdings) v hthere⟩
  | true =>
    have hsteady : Steady w (w.written h v) := ⟨rfl, rfl, rfl⟩
    obtain ⟨w', hsteady', htells⟩ := tellEach_hold depth (hsteady.tellsBindings hreaders)
    refine ⟨.done, w', hsteady.trans hsteady', fun holdings hspare => ?_⟩
    have hlive := hspare.isLive_hold
    have hwritten : (w.hold holdings).written h v = (w.written h v).hold holdings := by
      rw [written, hlive]
      rfl
    have hsame : ((w.hold holdings).state h.state).readers (w.hold holdings).isLive h.path =
        (w.state h.state).readers w.isLive h.path := by
      rw [hlive]
      rfl
    rw [write_of_contains (telling depth) (w := w.hold holdings) v hthere, hwritten, hsame]
    exact Run.bind_returned (htells holdings (hsteady.spare hspare))

end LiveText.Session
