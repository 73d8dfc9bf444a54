import Mathlib
import LiveText.Proofs.Session.Writing

/-!
# Notifications

Whoever has read a property has been registered with everything above it as well, and has stayed
registered there, since nothing below a property outlives it. So the readers of a property include
those of everything below, and a write that tells the readers of one property misses nobody, not
even the readers of what it takes away.

## Main definitions

- `State.ReadAbove`: readers are readers of everything above.
- `Passing`: how far a notification has got.
- `TellsBelow`: whom a write tells.

## Main statements

- `LastingRead.of_leadsTo`, `readAbove_after`: states have their readers above as well.
- `passing_tellEach`: a notification whose subscribers do not give up gets to its end.
- `tellsBelow`: a write misses no reader.
-/

namespace LiveText

/-! ## Readers of what is above -/

namespace State

variable {data : Value} {history : List Event} {p q : Path} {s : SubscriberId}

theorem HasProperty.of_leadsTo {tree : Value} (hp : p ≠ Path.root) (hlead : p.LeadsTo q)
    (h : HasProperty tree q) : HasProperty tree p :=
  ⟨hp, Value.walk?_isSome_of_prefix hlead h.2⟩

/-- A lasting read of a property is one of everything on the way to it. -/
theorem LastingRead.of_leadsTo {i : Nat} (hp : p ≠ Path.root) (hlead : p.LeadsTo q)
    (h : LastingRead data history s q i) : LastingRead data history s p i where
  reads := by
    obtain ⟨e, he, hreader, path, hpath, hq⟩ := h.reads
    exact ⟨e, he, hreader, path, hpath, hlead.trans hq⟩
  lasts j hij hj := (h.lasts j hij hj).of_leadsTo hp hlead

/-- Whoever is registered with a property is registered with everything on the way to it. -/
def ReadAbove (st : State) (live : Liveness) : Prop :=
  ∀ p q s, p ≠ Path.root → p.LeadsTo q → s ∈ st.readers live q → s ∈ st.readers live p

theorem readAbove_after (hdata : data.WellFormed) (hh : ∀ e ∈ history, e.WellFormed)
    {F : Liveness} (hF : ∀ s, F s = true → (after data history).live s = true) :
    (after data history).state.ReadAbove F := by
  intro p q s hp hlead hs
  have hlive : F s = true := (Publisher.mem_subscribers.mp hs).2
  rw [(listsReaders_after hdata hh hF q).mem_iff s hlive] at hs
  rw [(listsReaders_after hdata hh hF p).mem_iff s hlive]
  obtain ⟨i, hi⟩ := hs
  exact ⟨i, hi.of_leadsTo hp hlead⟩

end State

namespace Session

/-! ## Notifications under way -/

/-- How far a notification has got: of the subscribers that it is to tell, one after the other has
been told and has returned, and some are left. Those are kept alive while it is under way. -/
inductive Passing (telling : Telling) :
    List SubscriberId → Session → List SubscriberId → Session → Prop where
  | here {ids w} : Passing telling ids w ids w
  | next {s rest w w₁ left u} :
      telling s (w.hold ((s :: rest).map .subscriber)) = (.returned (), w₁) →
      Passing telling rest (w₁.holdAs w) left u → Passing telling (s :: rest) w left u

variable {tell : Telling} {ids left : List SubscriberId} {w u : Session}

/-- Nobody is told but those who are to be told, in their order and not twice. -/
theorem Passing.suffix (h : Passing tell ids w left u) : left <:+ ids := by
  induction h with
  | here => exact List.suffix_refl _
  | next _ _ ih => exact ih.trans (List.suffix_cons ..)

/-- A notification gets to its end if each subscriber whose turn comes returns. -/
theorem passing_tellEach (h : ∀ s rest u, Passing tell ids w (s :: rest) u →
      ∃ w₁, tell s (u.hold ((s :: rest).map .subscriber)) = (.returned (), w₁)) :
    ∃ w', tellEach tell ids w = (.returned (), w') ∧ Passing tell ids w [] w' := by
  -- On those who are to be told; the turn of the first one comes at once.
  induction ids generalizing w with
  | nil => exact ⟨w, rfl, .here⟩
  | cons s rest ih =>
    obtain ⟨w₁, hreturned⟩ := h s rest w .here
    obtain ⟨w', htells, hpassing⟩ := ih fun t others u hu => h t others u (.next hreturned hu)
    refine ⟨w', ?_, .next hreturned hpassing⟩
    rw [tellEach]
    refine (Run.bind_returned (a := ()) ?_).trans htells
    exact congrArg (fun r : Outcome Unit × Session => (r.1, r.2.holdAs w)) hreturned

/-! ## Whom a write tells -/

/-- A write to a property misses no reader of it or of something below it. The readers of the
property are the living subscribers that are registered with it or with something below it. A
successful write tells exactly them, once each and in their order, whatever they do meanwhile, as
long as those whose turn comes do not give up. -/
structure TellsBelow (w : Session) (h : PropertyHandle) : Prop where
  nodup : ((w.state h.state).readers w.isLive h.path).Nodup
  mem_iff : ∀ s, s ∈ (w.state h.state).readers w.isLive h.path ↔
    ∃ q, h.path.LeadsTo q ∧ s ∈ (w.state h.state).readers w.isLive q
  told : ∀ tell v,
    (∀ s rest u,
      Passing tell ((w.state h.state).readers w.isLive h.path) (w.written h v) (s :: rest) u →
      ∃ w₁, tell s (u.hold ((s :: rest).map .subscriber)) = (.returned (), w₁)) →
    ∃ w', write tell h v w = (.returned .done, w') ∧
      Passing tell ((w.state h.state).readers w.isLive h.path) (w.written h v) [] w'
  nobody_else : ∀ tell v left u,
    Passing tell ((w.state h.state).readers w.isLive h.path) (w.written h v) left u →
    left <:+ (w.state h.state).readers w.isLive h.path

theorem tellsBelow {data : Value} {history : List State.Event} (hdata : data.WellFormed)
    (hh : ∀ e ∈ history, e.WellFormed) {h : PropertyHandle}
    (hstate : w.state h.state = (State.after data history).state)
    (hlive : ∀ s, w.isLive s = true → (State.after data history).live s = true)
    (hthere : (w.state h.state).contains h.path = true) : w.TellsBelow h where
  nodup := by
    have horderly := State.orderly_after hdata hh
    rw [← hstate] at horderly
    exact (horderly h.path).filter _
  mem_iff s := by
    refine ⟨fun hs => ⟨h.path, .refl _, hs⟩, ?_⟩
    rintro ⟨q, hlead, hs⟩
    have hroot : h.path ≠ Path.root := by
      have hrep := State.represents_after hdata hh
      rw [hstate, hrep.contains_iff] at hthere
      exact hthere.1
    rw [hstate] at hs ⊢
    exact State.readAbove_after hdata hh hlive h.path q s hroot hlead hs
  told tell v hreturns := by
    obtain ⟨w', htells, hpassing⟩ := passing_tellEach hreturns
    refine ⟨w', ?_, hpassing⟩
    rw [write_of_contains tell v hthere]
    exact Run.bind_returned htells
  nobody_else _ _ _ _ hu := hu.suffix

/-- Nobody gives up who runs no program. -/
theorem returned_telling_zero (s : SubscriberId) (w : Session) :
    ∃ w', telling 0 s w = (.returned (), w') := by
  rw [telling, respond]
  split
  · exact ⟨w, rfl⟩
  · split
    · exact ⟨_, rfl⟩
    · exact ⟨w, rfl⟩
  · dsimp only
    split <;> exact ⟨_, rfl⟩

end Session

end LiveText
