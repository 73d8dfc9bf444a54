import Mathlib
import LiveText.Proofs.Session.Succession

/-!
# Whom a stage concerns

A stage tells subscribers, leaves others waiting and keeps some alive. Whom its parts concern is
concerned already, or has a name, or lives and is told by a notification that begins. From this it
follows that everything that is kept has been made: new numbers are nobody's.

## Main definitions

- `Stage.Concerns`: whom a stage is going to tell, or leaves waiting, or keeps alive.
- `Made`, `Numbered`: what is kept has been made, and what lives.

## Main statements

- `Part.concerns`: whom a part of a stage concerns.
- `numbered_duringScript`: at every moment of a session new numbers are nobody's.
-/

namespace LiveText.Session

variable {w w' : Session} {st part head tail : Stage} {m m' : Moment} {ended : Prop}

/-! ## Concern -/

/-- The subscribers that the stage tells of its own accord. -/
def Stage.told (st : Stage) : List SubscriberId :=
  match st.task with
  | .tell s => [s]
  | .tellEach ss => ss
  | .step _ | .steps _ | .program _ _ => []

/-- Whom the stage is going to tell, or leaves waiting, or keeps alive. -/
def Stage.Concerns (st : Stage) (s : SubscriberId) : Prop :=
  s ∈ st.told ∨ s ∈ st.waiting ∨ .subscriber s ∈ st.session.held

/-- What is kept has been made, and names of subscribers are not those of bindings. -/
structure Made (w : Session) : Prop where
  sets : ∀ set, w.isAlive set = true → set < w.bindingSets.size
  named : ∀ e ∈ w.names.subscribers, e.2 < w.subscribers.size
  programs : ∀ e ∈ w.names.subscribers, ∀ set index, ¬ w.Renders e.2 set index

theorem made_empty : Made {} := by
  refine ⟨fun set hset => ?_, fun e he => ?_, fun e he => ?_⟩
  · rcases isAlive_iff.mp hset with ⟨e, he, -⟩ | ⟨e, he, -⟩ | hheld
    · cases he
    · cases he
    · cases hheld
  · cases he
  · cases he

theorem Made.onward (h : Made w) (honward : Onward w w') : Made w' where
  sets set halive := by
    rcases honward.alive set halive with halive | ⟨-, hlt⟩
    · exact (h.sets set halive).trans_le honward.sets
    · exact hlt
  named e he := by
    rcases honward.named e he with ⟨e', he', heq⟩ | ⟨-, hlt, -⟩
    · exact heq ▸ (h.named e' he').trans_le honward.subscribers
    · exact hlt
  programs e he set index hrenders := by
    rcases honward.named e he with ⟨e', he', heq⟩ | ⟨-, -, hno⟩
    · rw [← heq, honward.known _ (h.named e' he')] at hrenders
      exact h.programs e' he' set index hrenders
    · exact hno set index hrenders

/-- A stage in whose session what is kept has been made, and which concerns subscribers that there
are. -/
structure Stage.Made (st : Stage) : Prop where
  session : Session.Made st.session
  concerned : ∀ s, st.Concerns s → s < st.session.subscribers.size

/-- Whether subscribers live does not change while sets are held that live already. -/
theorem isLive_of_isLive_hold {holdings : List Holding} {s : SubscriberId}
    (hsets : ∀ set, Holding.bindings set ∈ holdings → w.isAlive set = true)
    (hs : Holding.subscriber s ∉ holdings) (hlive : (w.hold holdings).isLive s = true) :
    w.isLive s = true := by
  rcases isLive_iff.mp hlive with hnamed | hheld | ⟨set, index, hrenders, halive⟩
  · exact isLive_iff.mpr (.inl hnamed)
  · exact isLive_iff.mpr (.inr (.inl ((List.mem_append.mp hheld).resolve_left hs)))
  · refine isLive_iff.mpr (.inr (.inr ⟨set, index, hrenders, ?_⟩))
    exact (isAlive_hold.mp halive).elim id (hsets set)

/-- A subscriber of a set that is gone does not live, unless somebody keeps it alive. -/
theorem isLive_eq_false {s : SubscriberId} {set : BindingSetId} {index : Nat} (hmade : Made w)
    (hrenders : w.Renders s set index) (hgone : w.isAlive set = false)
    (hheld : Holding.subscriber s ∉ w.held) : w.isLive s = false := by
  rw [Bool.eq_false_iff]
  intro hlive
  rcases isLive_iff.mp hlive with ⟨e, he, rfl⟩ | hkept | ⟨set', index', hrenders', halive⟩
  · exact hmade.programs e he set index hrenders
  · exact hheld hkept
  · cases hrenders.symm.trans hrenders'
    exact absurd (hgone.symm.trans halive) Bool.false_ne_true

/-- A part concerns whom the whole concerns, or who has a name; or else it is a notification, and
concerns who lives. -/
theorem Part.concerns (h : Part st part) {s : SubscriberId} (hs : part.Concerns s) :
    st.Concerns s ∨ (∃ e ∈ st.session.names.subscribers, e.2 = s) ∨
      part.IsNotification ∧ st.session.isLive s = true := by
  have hruns := runsRespect_onward
  cases h with
  | stepsHead | programHead | recover => exact .inl hs
  | stepsTail h =>
    exact .inl (hs.imp_right (Or.imp_right fun hmem => (hruns.of_take h).2 ▸ hmem))
  | programTail h =>
    exact .inl (hs.imp_right (Or.imp_right fun hmem => (hruns.of_take h).2 ▸ hmem))
  | @update depth name t w waiting h =>
    have hnamed : ∃ e ∈ w.names.subscribers, e.2 = t :=
      ⟨_, Entries.mem_of_lookup (lookup_of_require h), rfl⟩
    rcases hs with hs | hs | hs
    · exact .inr (.inl (List.mem_singleton.mp hs ▸ hnamed))
    · exact .inl (.inr (.inl hs))
    · rcases List.mem_cons.mp hs with hs | hs
      · exact .inr (.inl (Holding.subscriber.inj hs ▸ hnamed))
      · exact .inl (.inr (.inr hs))
  | @notify depth name p w waiting h =>
    rcases hs with hs | hs
    · -- Only the living are told.
      exact .inr (.inr ⟨⟨_, rfl⟩, (Publisher.mem_subscribers.mp hs).2⟩)
    · exact .inl (.inr hs)
  | @write depth target v h holdings w waiting htarget hthere =>
    have hno : Holding.subscriber s ∉ holdings := subscriber_not_mem_of_requireTarget htarget
    rcases hs with hs | hs | hs
    · -- What a write holds are sets that live already, and so adds nobody to the living.
      have hlive := (Publisher.mem_subscribers.mp hs).2
      exact .inr (.inr ⟨⟨_, rfl⟩, isLive_of_isLive_hold
        (fun set hset => isAlive_of_requireTarget htarget hset) hno hlive⟩)
    · exact .inl (.inr (.inl hs))
    · exact .inl (.inr (.inr ((List.mem_append.mp hs).resolve_left hno)))
  | @collect depth collector subscriber body t c busy w waiting hfound hbusy =>
    obtain ⟨t', ht, hfound⟩ := bind_eq_ok hfound
    obtain ⟨c', -, hfound⟩ := bind_eq_ok hfound
    cases hfound
    have hnamed : ∃ e ∈ w.names.subscribers, e.2 = t :=
      ⟨_, Entries.mem_of_lookup (lookup_of_require ht), rfl⟩
    rcases hs with hs | hs | hs
    · cases hs
    · exact .inl (.inr (.inl hs))
    · rcases List.mem_cons.mp hs with hs | hs
      · exact .inr (.inl (Holding.subscriber.inj hs ▸ hnamed))
      · exact .inl (.inr (.inr
          ((List.mem_append.mp hs).resolve_left subscriber_not_mem_collectorHolding)))
  | tellProgram hprogram hlimit =>
    rcases hs with hs | hs
    · cases hs
    · exact .inl (.inr hs)
  | @tellEachHead depth t rest w waiting =>
    rcases hs with hs | hs | hs
    · exact .inl (.inl (List.mem_singleton.mp hs ▸ List.mem_cons_self))
    · rcases List.mem_append.mp hs with hs | hs
      · exact .inl (.inl (List.mem_cons_of_mem t hs))
      · exact .inl (.inr (.inl hs))
    · rcases List.mem_append.mp hs with hs | hs
      · obtain ⟨s', hs', heq⟩ := List.mem_map.mp hs
        exact .inl (.inl (Holding.subscriber.inj heq ▸ hs'))
      · exact .inl (.inr (.inr hs))
  | tellEachTail h => exact .inl (hs.imp_left (List.mem_cons_of_mem _))

/-- Everything that lives has been made, so that new numbers are nobody's. -/
structure Numbered (w : Session) : Prop where
  sets : ∀ set, w.isAlive set = true → set < w.bindingSets.size
  subscribers : ∀ s, w.isLive s = true → s < w.subscribers.size

theorem Made.numbered (h : Made w)
    (hheld : ∀ s, Holding.subscriber s ∈ w.held → s < w.subscribers.size) : Numbered w := by
  refine ⟨h.sets, fun s hlive => ?_⟩
  rcases isLive_iff.mp hlive with ⟨e, he, rfl⟩ | hs | ⟨set, index, hrenders, -⟩
  · exact h.named e he
  · exact hheld s hs
  · exact Renders.lt_size hrenders

theorem Stage.Made.numbered (h : st.Made) : Numbered st.session :=
  h.session.numbered fun s hs => h.concerned s (.inr (.inr hs))

theorem Part.made (hpart : Part st part) (h : st.Made) : part.Made := by
  refine ⟨h.session.onward hpart.onward, fun s hs => ?_⟩
  refine Nat.lt_of_lt_of_le ?_ hpart.onward.subscribers
  rcases hpart.concerns hs with hs | ⟨e, he, rfl⟩ | ⟨-, hlive⟩
  · exact h.concerned s hs
  · exact h.session.named e he
  · exact h.numbered.subscribers s hlive

/-- A step that the session itself takes concerns nobody beforehand. -/
theorem not_concerns_stageOf {s : Step} {t : SubscriberId} (hheld : w.held = []) :
    ¬ (w.stageOf s).Concerns t := by
  rintro (ht | ht | ht)
  · cases ht
  · cases ht
  · exact absurd (hheld ▸ ht) List.not_mem_nil

theorem Made.stageOf (h : Made w) (hheld : w.held = []) (s : Step) : (w.stageOf s).Made :=
  ⟨h, fun _ ht => absurd ht (not_concerns_stageOf hheld)⟩

theorem Made.step (h : Made w) (s : Step) : Made (w.step s).2 :=
  snd_step w s ▸ h.onward (w.stageOf s).onward_left.1

/-! ## New numbers -/

/-- At the first moment of a stage only those wait and are kept alive whom the stage concerns. -/
theorem Stage.concerns_of_first? {s : SubscriberId} (hfirst : st.first? = some m)
    (hs : s ∈ m.waiting ∨ .subscriber s ∈ m.session.held) : st.Concerns s := by
  obtain ⟨depth, task, w, waiting⟩ := st
  cases task with
  | step _ | tellEach _ => cases hfirst
  | steps _ | program _ _ =>
    cases hfirst
    exact .inr hs
  | tell t =>
    cases hfirst
    rcases hs with hs | hs
    · rcases List.mem_cons.mp hs with rfl | hs
      · exact .inl (List.mem_singleton_self _)
      · exact .inr (.inl hs)
    · exact .inr (.inr hs)

theorem numbered_during (hm : st.During m) (h : st.Made) : Numbered m.session := by
  revert h
  refine hm.induction (motive := fun st m => st.Made → Numbered m.session) ?first ?part
  case first => exact fun st m hfirst h => Stage.session_of_first? hfirst ▸ h.numbered
  case part => exact fun st part m hpart _ ih h => ih (hpart.made h)

theorem numbered_duringScript {ss : List Step} (hm : DuringScript ss w m) (h : Made w)
    (hheld : w.held = []) : Numbered m.session := by
  induction hm with
  | here => exact h.numbered fun s hs => absurd (hheld ▸ hs) List.not_mem_nil
  | @head s rest w m hm =>
    have hstage : (w.stageOf s).During m := hm
    exact numbered_during hstage (h.stageOf hheld s)
  | @tail s rest w m _ ih => exact ih (h.step s) ((held_step w s).trans hheld)

end LiveText.Session
