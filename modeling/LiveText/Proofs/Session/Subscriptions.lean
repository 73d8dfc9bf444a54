import Mathlib
import LiveText.Proofs.Session.Notification
import LiveText.Proofs.State.Alike

/-!
# Publishers over time

Subscribers are registered with publishers, publishers take over from one another and are copied,
and handles of subscribers come and go. A subscriber lives as long as there is a handle of it. What
a publisher lists can be told from a log of all arrivals, from which nobody is ever cleared away:
whoever is in the log and lives is listed once, at the place of the first arrival.

## Main definitions

- `firstArrivals`: the subscribers of a log in order of their first arrivals.
- `Publisher.Event`, `Publisher.Moment`, `Publisher.after`: a history of publishers and handles.

## Main statements

- `Publisher.upToDate_after`: publishers list the first arrivals of their logs, as far as they live.
- `Session.tellEach_cases`: how far a notification gets.
- `Session.publishers_list_who_lives`: what publishers list and whom they tell.
-/

namespace LiveText

/-! ## First arrivals -/

section FirstArrivals

variable {log : List SubscriberId} {s : SubscriberId}

/-- The subscribers of a log, each at the place of its first arrival. -/
def firstArrivals (log : List SubscriberId) : List SubscriberId :=
  log.foldl arrive []

@[simp] theorem mem_firstArrivals : s ∈ firstArrivals log ↔ s ∈ log := by
  rw [firstArrivals, mem_foldl_arrive]
  simp

theorem nodup_firstArrivals (log : List SubscriberId) : (firstArrivals log).Nodup :=
  nodup_foldl_arrive List.nodup_nil

theorem firstArrivals_append (log ids : List SubscriberId) :
    firstArrivals (log ++ ids) = ids.foldl arrive (firstArrivals log) :=
  List.foldl_append

theorem firstArrivals_concat (log : List SubscriberId) (s : SubscriberId) :
    firstArrivals (log ++ [s]) = arrive (firstArrivals log) s :=
  firstArrivals_append log [s]

theorem filter_firstArrivals (F : Liveness) (log : List SubscriberId) :
    (firstArrivals log).filter F = firstArrivals (log.filter F) :=
  filter_foldl_arrive F log []

/-- Those who arrive again change nothing. -/
theorem foldl_arrive_firstArrivals (ids acc : List SubscriberId) :
    (firstArrivals ids).foldl arrive acc = ids.foldl arrive acc := by
  -- On the arrivals from the last one, which is somebody new or has been there before.
  induction ids using List.reverseRecOn with
  | nil => rfl
  | append_singleton ids s ih =>
    rw [firstArrivals_concat, List.foldl_concat]
    by_cases hs : s ∈ ids
    · rw [arrive_of_mem (mem_firstArrivals.mpr hs), ih,
        arrive_of_mem (mem_foldl_arrive.mpr (.inr hs))]
    · rw [arrive_of_not_mem (mt mem_firstArrivals.mp hs), List.foldl_concat, ih]

/-- The order is that of the first arrivals. -/
theorem pairwise_firstArrivals (log : List SubscriberId) :
    (firstArrivals log).Pairwise fun a b => log.idxOf a < log.idxOf b := by
  induction log using List.reverseRecOn with
  | nil => exact .nil
  | append_singleton log s ih =>
    have hbefore : (firstArrivals log).Pairwise fun a b =>
        (log ++ [s]).idxOf a < (log ++ [s]).idxOf b := by
      refine ih.imp_of_mem fun {a b} ha hb hab => ?_
      rw [mem_firstArrivals] at ha hb
      rwa [List.idxOf_append_of_mem ha, List.idxOf_append_of_mem hb]
    rw [firstArrivals_concat]
    by_cases hs : s ∈ log
    · rwa [arrive_of_mem (mem_firstArrivals.mpr hs)]
    · rw [arrive_of_not_mem (mt mem_firstArrivals.mp hs), List.pairwise_append]
      refine ⟨hbefore, List.pairwise_singleton .., fun a ha b hb => ?_⟩
      -- The newcomer is behind the whole log.
      rw [mem_firstArrivals] at ha
      rw [List.mem_singleton.mp hb, List.idxOf_append_of_mem ha, List.idxOf_append_of_notMem hs]
      exact Nat.lt_add_right _ (List.idxOf_lt_length_of_mem ha)

end FirstArrivals

namespace Publisher

/-! ## Taking over -/

section TakingOver

variable {live : Liveness}

/-- Nothing changes when all who are taken over are there, and there is nobody to be cleared
away. -/
theorem inherit_of_subset {p other : Publisher}
    (hsub : ∀ s ∈ other.subscribers live, s ∈ p.subscribers live)
    (hclear : other.subscribers live = [] ∨ p.subscribers live = p.arrivals) :
    p.inherit live other = p := by
  rw [inherit]
  rcases hclear with hnone | hall
  · rw [hnone]
    rfl
  · generalize other.subscribers live = ids at hsub
    induction ids with
    | nil => rfl
    | cons s rest ih =>
      have hs : p.register live s = p := by
        rw [register_eq_arrive, arrive_of_mem (hsub s (List.mem_cons_self ..)), hall]
      rw [List.foldl_cons, hs]
      exact ih fun t ht => hsub t (List.mem_cons_of_mem _ ht)

/-- Taking over from somebody clears the dead away. -/
theorem subscribers_inherit_eq_arrivals (p : Publisher) {other : Publisher}
    (h : other.subscribers live ≠ []) :
    (p.inherit live other).subscribers live = (p.inherit live other).arrivals := by
  obtain ⟨front, s, hlast⟩ := (List.eq_nil_or_concat _).resolve_left h
  rw [List.concat_eq_append] at hlast
  have hs : live s = true :=
    (mem_subscribers.mp (hlast ▸ List.mem_append_right _ (List.mem_singleton_self s))).2
  rw [inherit, hlast, List.foldl_concat, subscribers, List.filter_eq_self]
  intro x hx
  rcases mem_arrivals_register.mp hx with ⟨-, hx⟩ | rfl
  · exact hx
  · exact hs

theorem subscribers_inherit (p : Publisher) {other : Publisher}
    (h : (other.subscribers live).Nodup) :
    (p.inherit live other).subscribers live =
      p.subscribers live ++ (other.subscribers live).filter (· ∉ p.subscribers live) := by
  rw [subscribers_inherit_of_le p other fun _ hs => hs]
  exact foldl_arrive_eq_append h

/-- Whoever is taken over is there afterwards, and the dead are cleared away if there is anybody to
be taken over. So taking over once more changes nothing. -/
theorem inherit_inherit (p other : Publisher) :
    (p.inherit live other).inherit live other = p.inherit live other := by
  apply inherit_of_subset
  · intro s hs
    rw [subscribers_inherit_of_le p other fun _ hs => hs, mem_foldl_arrive]
    exact .inr hs
  · exact (em _).imp_right (subscribers_inherit_eq_arrivals p)

/-- The same for a publisher that takes over from copies of itself. -/
theorem inherit_inherit_self (p : Publisher) :
    (p.inherit live p).inherit live (p.inherit live p) = p.inherit live p := by
  apply inherit_of_subset fun _ hs => hs
  by_cases hnone : p.subscribers live = []
  · left
    rw [subscribers_inherit_of_le p p fun _ hs => hs, hnone]
    rfl
  · exact .inr (subscribers_inherit_eq_arrivals p hnone)

end TakingOver

/-! ## Histories -/

/-- What can happen to publishers and to the handles of subscribers. Publishers are numbered. -/
inductive Event where
  /-- A subscriber of which there is a handle is registered. -/
  | depend (publisher : Nat) (subscriber : SubscriberId)
  /-- A publisher takes over the live subscribers of another, or of a copy of itself. -/
  | inherit (publisher other : Nat)
  /-- A copy of a publisher takes the place of another. -/
  | clone (source target : Nat)
  /-- There is one more handle of a subscriber. -/
  | share (subscriber : SubscriberId)
  /-- There is one handle of a subscriber less. -/
  | drop (subscriber : SubscriberId)

/-- The publisher that is changed. -/
def Event.target? : Event → Option Nat
  | .depend x _ | .inherit x _ | .clone _ x => some x
  | _ => none

/-- Publishers and handles at a moment. The publishers know nothing of the log, which has every
arrival that there has been. -/
structure Moment where
  publishers : Nat → Publisher := fun _ => {}
  handles : List SubscriberId
  log : Nat → List SubscriberId := fun _ => []

namespace Moment

/-- Who lives. -/
def live (m : Moment) : Liveness :=
  fun s => m.handles.contains s

/-- The live subscribers of a publisher. -/
def listed (m : Moment) (x : Nat) : List SubscriberId :=
  (m.publishers x).subscribers m.live

/-- The moment after an event. Without a handle of a subscriber there is nothing to be registered
and no further handle to be had. -/
def next (m : Moment) : Event → Moment
  | .depend x s =>
    if m.live s then
      { m with
        publishers := Function.update m.publishers x ((m.publishers x).register m.live s)
        log := Function.update m.log x (m.log x ++ [s]) }
    else m
  | .inherit x y =>
    { m with
      publishers := Function.update m.publishers x
        ((m.publishers x).inherit m.live (m.publishers y))
      log := Function.update m.log x (m.log x ++ (m.log y).filter m.live) }
  | .clone x y =>
    { m with
      publishers := Function.update m.publishers y (m.publishers x)
      log := Function.update m.log y (m.log x) }
  | .share s => if m.live s then { m with handles := s :: m.handles } else m
  | .drop s => { m with handles := m.handles.erase s }

/-- The moment after events one after the other. -/
def nextAll (m : Moment) (events : List Event) : Moment :=
  events.foldl next m

/-- A publisher changes by what is done to it and by nothing else. -/
theorem publishers_next_of_ne {m : Moment} {e : Event} {x : Nat} (h : e.target? ≠ some x) :
    (m.next e).publishers x = m.publishers x := by
  cases e with
  | depend y s =>
    have hne : x ≠ y := fun heq => h (congrArg some heq.symm)
    rw [next]
    split
    · exact Function.update_of_ne hne ..
    · rfl
  | inherit y z => exact Function.update_of_ne (fun heq => h (congrArg some heq.symm)) ..
  | clone z y => exact Function.update_of_ne (fun heq => h (congrArg some heq.symm)) ..
  | share s =>
    rw [next]
    split <;> rfl
  | drop s => rfl

theorem listed_depend {m : Moment} {x : Nat} {s : SubscriberId} (hs : m.live s = true) :
    (m.next (.depend x s)).listed x = ((m.publishers x).register m.live s).subscribers m.live := by
  rw [next, if_pos hs]
  exact congrArg (subscribers m.live) (Function.update_self ..)

theorem listed_inherit (m : Moment) (x y : Nat) :
    (m.next (.inherit x y)).listed x =
      ((m.publishers x).inherit m.live (m.publishers y)).subscribers m.live :=
  congrArg (subscribers m.live) (Function.update_self ..)

/-- Taking over once more changes no publisher. -/
theorem publishers_inherit_twice (m : Moment) (x y : Nat) :
    ((m.next (.inherit x y)).next (.inherit x y)).publishers =
      (m.next (.inherit x y)).publishers := by
  have hsame : ((m.next (.inherit x y)).publishers x).inherit m.live
      ((m.next (.inherit x y)).publishers y) = (m.next (.inherit x y)).publishers x := by
    simp only [next, Function.update_self]
    by_cases hy : y = x
    · subst hy
      rw [Function.update_self, inherit_inherit_self]
    · rw [Function.update_of_ne hy, inherit_inherit]
  exact (congrArg (Function.update _ x) hsame).trans (Function.update_eq_self ..)

theorem publishers_nextAll_of_ne {m : Moment} {events : List Event} {x : Nat}
    (h : ∀ e ∈ events, e.target? ≠ some x) : (m.nextAll events).publishers x = m.publishers x := by
  induction events generalizing m with
  | nil => rfl
  | cons e rest ih =>
    obtain ⟨he, hrest⟩ := List.forall_mem_cons.mp h
    exact (ih hrest).trans (publishers_next_of_ne he)

/-- Nobody comes back to life. -/
theorem live_of_next {m : Moment} {e : Event} {s : SubscriberId} (h : (m.next e).live s = true) :
    m.live s = true := by
  cases e with
  | depend x t =>
    rw [next] at h
    split at h <;> exact h
  | inherit x y => exact h
  | clone x y => exact h
  | share t =>
    rw [next] at h
    split at h
    · next ht =>
      rw [live, List.contains_iff_mem, List.mem_cons] at h
      rcases h with rfl | h
      · exact ht
      · exact List.contains_iff_mem.mpr h
    · exact h
  | drop t =>
    rw [live, List.contains_iff_mem] at h ⊢
    exact List.mem_of_mem_erase h

/-- Publishers are up to date with their logs: they list the first arrivals, in so far as these are
seen through subscribers that live. -/
def UpToDate (m : Moment) : Prop :=
  ∀ x F, (∀ s, F s = true → m.live s = true) →
    (m.publishers x).subscribers F = (firstArrivals (m.log x)).filter F

namespace UpToDate

variable {m : Moment}

theorem listed_eq (h : m.UpToDate) (x : Nat) :
    m.listed x = (firstArrivals (m.log x)).filter m.live :=
  h x m.live fun _ hs => hs

theorem nodup_listed (h : m.UpToDate) (x : Nat) : (m.listed x).Nodup := by
  rw [h.listed_eq]
  exact (nodup_firstArrivals _).filter _

/-- A publisher and its log are replaced, the one as up to date as the other. -/
theorem update (h : m.UpToDate) {x : Nat} {p : Publisher} {log : List SubscriberId}
    (hp : ∀ F : Liveness, (∀ s, F s = true → m.live s = true) →
      p.subscribers F = (firstArrivals log).filter F) :
    UpToDate { m with
      publishers := Function.update m.publishers x p, log := Function.update m.log x log } := by
  intro y F hF
  by_cases hy : y = x
  · subst hy
    simpa using hp F hF
  · simpa [hy] using h y F hF

/-- Handles come and go, but nobody comes back to life. -/
theorem of_handles (h : m.UpToDate) {m' : Moment} (hpublishers : m'.publishers = m.publishers)
    (hlog : m'.log = m.log) (hlive : ∀ s, m'.live s = true → m.live s = true) :
    m'.UpToDate := by
  intro x F hF
  rw [hpublishers, hlog]
  exact h x F fun s hs => hlive s (hF s hs)

/-- One event keeps publishers up to date. -/
theorem next (h : m.UpToDate) (e : Event) : (m.next e).UpToDate := by
  cases e with
  | depend x s =>
    rw [Moment.next]
    split
    · refine h.update fun F hF => ?_
      rw [subscribers_register_of_le s fun t _ => hF t, h x F hF, firstArrivals_concat,
        arrive_filter]
    · exact h
  | inherit x y =>
    refine h.update fun F hF => ?_
    -- Those who were dead in the log of the other are not seen anyway.
    have hseen : ((m.log y).filter m.live).filter F = (m.log y).filter F := by
      rw [List.filter_filter]
      apply List.filter_congr
      intro s _
      cases hs : F s with
      | true => simp [hF s hs]
      | false => simp
    rw [subscribers_inherit_of_le _ _ hF, h x F hF, h y F hF, firstArrivals_append,
      filter_foldl_arrive, hseen, filter_firstArrivals F (m.log y), foldl_arrive_firstArrivals]
  | clone x y => exact h.update (h x)
  | share s =>
    refine h.of_handles ?_ ?_ fun t => live_of_next
    · rw [Moment.next]
      split <;> rfl
    · rw [Moment.next]
      split <;> rfl
  | drop s => exact h.of_handles rfl rfl fun t => live_of_next

theorem nextAll (h : m.UpToDate) (events : List Event) : (m.nextAll events).UpToDate := by
  induction events generalizing m with
  | nil => exact h
  | cons e rest ih => exact ih (h.next e)

end UpToDate

end Moment

/-- The moment after a history that begins with publishers without subscribers and with handles of
some subscribers. -/
def after (handles : List SubscriberId) (history : List Event) : Moment :=
  Moment.nextAll { handles } history

/-- Whatever happens to publishers and handles, publishers are up to date. -/
theorem upToDate_after (handles : List SubscriberId) (history : List Event) :
    (after handles history).UpToDate :=
  Moment.UpToDate.nextAll (fun _ _ _ => rfl) history

end Publisher

namespace Session

variable {tell : Telling} {ids : List SubscriberId} {w : Session}

/-! ## Notifications -/

/-- A notification goes on until everybody has been told, or until somebody gives up. -/
theorem tellEach_cases (tell : Telling) (ids : List SubscriberId) (w : Session) :
    ∃ left u, Passing tell ids w left u ∧
      ((left = [] ∧ tellEach tell ids w = (.returned (), u)) ∨
        ∃ s rest w₁, left = s :: rest ∧
          tell s (u.hold ((s :: rest).map .subscriber)) = (.abandoned, w₁) ∧
          tellEach tell ids w = (.abandoned, w₁.holdAs u)) := by
  induction ids generalizing w with
  | nil => exact ⟨[], w, .here, .inl ⟨rfl, rfl⟩⟩
  | cons s rest ih =>
    cases htell : tell s (w.hold ((s :: rest).map .subscriber)) with
    | mk outcome w₁ =>
      have hheld : (tell s).holding ((s :: rest).map .subscriber) w = (outcome, w₁.holdAs w) :=
        congrArg (fun r : Outcome Unit × Session => (r.1, r.2.holdAs w)) htell
      cases outcome with
      | returned a =>
        obtain ⟨left, u, hpassing, hend⟩ := ih (w := w₁.holdAs w)
        refine ⟨left, u, .next htell hpassing, ?_⟩
        rw [tellEach, Run.bind_returned hheld]
        exact hend
      | abandoned =>
        refine ⟨s :: rest, w, .here, .inr ⟨s, rest, w₁, rfl, htell, ?_⟩⟩
        rw [tellEach, Run.bind_abandoned hheld]

/-- Publishers are ordered sets of live subscribers. Whatever has been registered, taken over,
copied and dropped, a publisher lists whoever is in its log and lives, once each and in the order of
the first arrivals. A registration is new exactly if its subscriber is not listed, and appends it
then. Taking over appends those that are missing, in the order of the other publisher, and once is
enough. What is done to other publishers, a copy among them, is not noticed. A notification tells
those who are listed when it begins, one after the other and until somebody gives up, whatever they
do meanwhile. -/
theorem publishers_list_who_lives (handles : List SubscriberId)
    (history : List Publisher.Event) (x : Nat) :
    let m := Publisher.after handles history
    let p := m.publishers x
    let ids := p.subscribers m.live
    ((∀ s, s ∈ ids ↔ s ∈ m.log x ∧ s ∈ m.handles) ∧ ids.Nodup ∧
      ids.Pairwise fun a b => (m.log x).idxOf a < (m.log x).idxOf b) ∧
    ((∀ s, p.contains m.live s = true ↔ s ∈ ids) ∧ p.count m.live = ids.length ∧
      (p.count m.live = 0 ↔ ids = [])) ∧
    (∀ s ∈ m.handles, (p.isNewTo m.live (some s) = true ↔ s ∉ ids) ∧
      (m.next (.depend x s)).listed x = if s ∈ ids then ids else ids ++ [s]) ∧
    (∀ y, let m' := m.next (.inherit x y)
      m'.listed x = ids ++ (m.listed y).filter (· ∉ ids) ∧
        (m'.next (.inherit x y)).publishers = m'.publishers) ∧
    (∀ later, (∀ e ∈ later, e.target? ≠ some x) → (m.nextAll later).publishers x = p) ∧
    (∀ y later, (∀ e ∈ later, e.target? ≠ some y) →
      ((m.next (.clone x y)).nextAll later).publishers y = p) ∧
    ∀ (w : Session) (tell : Telling), (∀ s, w.isLive s = m.live s) →
      (∀ left u, Passing tell ids w left u → left <:+ ids) ∧
      ∃ left u, Passing tell ids w left u ∧
        ((left = [] ∧ notify tell p w = (.returned (), u)) ∨
          ∃ s rest w₁, left = s :: rest ∧
            tell s (u.hold ((s :: rest).map .subscriber)) = (.abandoned, w₁) ∧
            notify tell p w = (.abandoned, w₁.holdAs u)) := by
  intro m p ids
  have hm : m.UpToDate := Publisher.upToDate_after handles history
  have hids : ids = (firstArrivals (m.log x)).filter m.live := hm.listed_eq x
  refine ⟨⟨fun s => ?_, hm.nodup_listed x, ?_⟩, ⟨fun s => ?_, rfl, List.length_eq_zero_iff⟩,
    fun s hs => ⟨?_, ?_⟩, fun y => ⟨?_, m.publishers_inherit_twice x y⟩,
    fun later => Publisher.Moment.publishers_nextAll_of_ne, fun y later hlater => ?_,
    fun w tell hlive => ⟨fun left u hu => hu.suffix, ?_⟩⟩
  · rw [hids, List.mem_filter, mem_firstArrivals, Publisher.Moment.live, List.contains_iff_mem]
  · rw [hids]
    exact (pairwise_firstArrivals _).filter _
  · exact List.contains_iff_mem
  · simp [Publisher.isNewTo, Publisher.contains, ids]
  · have hlive : m.live s = true := List.contains_iff_mem.mpr hs
    rw [Publisher.Moment.listed_depend hlive]
    exact Publisher.subscribers_register m.live p hlive
  · rw [Publisher.Moment.listed_inherit]
    exact Publisher.subscribers_inherit p (hm.nodup_listed y)
  · rw [Publisher.Moment.publishers_nextAll_of_ne hlater]
    exact Function.update_self ..
  · have hsame : p.subscribers w.isLive = ids := congrArg p.subscribers (funext hlive)
    rw [notify, hsame]
    exact tellEach_cases tell ids w

/-- A publisher that has been copied when somebody was registered who has died since. It takes over
from its original, and tells those who live in the order of their first arrivals. -/
theorem told_by_a_copy :
    let m := Publisher.after [0, 1, 2]
      [.depend 0 1, .depend 0 2, .clone 0 1, .drop 2, .depend 0 0, .inherit 1 0]
    let w : Session :=
      { subscribers := #[⟨none, .program [] 0 0⟩, ⟨none, .program [] 0 0⟩]
        names := { subscribers := [("first", 0), ("second", 1)] } }
    m.listed 1 = [1, 0] ∧ m.log 1 = [1, 2, 1, 0] ∧
      ∃ w', notify (telling 0) (m.publishers 1) w = (.returned (), w') ∧
        Passing (telling 0) [1, 0] w [] w' := by
  intro m w
  have hlisted : m.listed 1 = [1, 0] := by decide +kernel
  have hlive : ∀ s, w.isLive s = m.live s := by
    intro s
    match s with
    | 0 => decide +kernel
    | 1 => decide +kernel
    | s + 2 =>
      have hhandles : m.handles = [0, 1] := by decide +kernel
      simp [isLive, Publisher.Moment.live, hhandles, w]
  obtain ⟨-, left, u, hpassing, hend⟩ :=
    (publishers_list_who_lives [0, 1, 2] _ 1).2.2.2.2.2.2 w (telling 0) hlive
  refine ⟨hlisted, by decide +kernel, u, ?_⟩
  rcases hend with ⟨rfl, htold⟩ | ⟨s, rest, w₁, -, hgivesUp, -⟩
  · exact ⟨htold, hlisted ▸ hpassing⟩
  · obtain ⟨w', hreturned⟩ := returned_telling_zero s (u.hold ((s :: rest).map .subscriber))
    cases hreturned.symm.trans hgivesUp

end Session

end LiveText
