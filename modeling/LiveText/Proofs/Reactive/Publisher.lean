import Mathlib
import LiveText.Reactive.Publisher

/-!
# Arrivals

How registrations change the list that a publisher keeps. The list is looked at through any set
of subscribers that lives now, so that clearing away the dead ones cannot be seen.

## Main definitions

- `arrive`: a list with a newcomer at its end.
- `joinedBy`: the same for whoever is collecting.

## Main statements

- `foldl_arrive_eq_append`: arrivals one after the other.
- `subscribers_register_of_le`: a registration seen through a smaller set of living ones.
- `inherit_empty`: an empty publisher takes over another's live subscribers in order.
-/

namespace LiveText

/-- A list of subscribers after an arrival: a newcomer goes to the end. -/
def arrive (ids : List SubscriberId) (s : SubscriberId) : List SubscriberId :=
  if s ∈ ids then ids else ids ++ [s]

theorem arrive_of_mem {ids : List SubscriberId} {s : SubscriberId} (h : s ∈ ids) :
    arrive ids s = ids :=
  if_pos h

theorem arrive_of_not_mem {ids : List SubscriberId} {s : SubscriberId} (h : s ∉ ids) :
    arrive ids s = ids ++ [s] :=
  if_neg h

@[simp] theorem mem_arrive {ids : List SubscriberId} {s x : SubscriberId} :
    x ∈ arrive ids s ↔ x ∈ ids ∨ x = s := by
  unfold arrive
  split
  · next h =>
    constructor
    · exact Or.inl
    · rintro (hx | rfl)
      · exact hx
      · exact h
  · simp

theorem nodup_arrive {ids : List SubscriberId} (h : ids.Nodup) (s : SubscriberId) :
    (arrive ids s).Nodup := by
  unfold arrive
  split
  · exact h
  · next hs =>
    rw [List.nodup_append]
    refine ⟨h, List.nodup_singleton s, ?_⟩
    intro a ha b hb heq
    rw [List.mem_singleton] at hb
    exact hs (hb ▸ heq ▸ ha)

/-- Arriving twice is arriving once. -/
@[simp] theorem arrive_arrive (ids : List SubscriberId) (s : SubscriberId) :
    arrive (arrive ids s) s = arrive ids s :=
  arrive_of_mem (mem_arrive.mpr (.inr rfl))

theorem arrive_filter (F : Liveness) (ids : List SubscriberId) (s : SubscriberId) :
    (arrive ids s).filter F = if F s then arrive (ids.filter F) s else ids.filter F := by
  -- Either nothing is added, or the newcomer is seen at the end or not at all.
  by_cases hs : s ∈ ids
  · rw [arrive_of_mem hs]
    split
    · next hF => rw [arrive_of_mem (List.mem_filter.mpr ⟨hs, hF⟩)]
    · rfl
  · rw [arrive_of_not_mem hs, List.filter_append]
    split
    · next hF =>
      have hs' : s ∉ ids.filter F := fun hmem => hs (List.mem_filter.mp hmem).1
      rw [arrive_of_not_mem hs', List.filter_cons_of_pos hF, List.filter_nil]
    · next hF => rw [List.filter_cons_of_neg hF, List.filter_nil, List.append_nil]

/-! ## Arrivals one after the other -/

section Arrivals

variable {ids newcomers : List SubscriberId} {s : SubscriberId}

theorem mem_foldl_arrive : s ∈ newcomers.foldl arrive ids ↔ s ∈ ids ∨ s ∈ newcomers := by
  induction newcomers generalizing ids with
  | nil => simp
  | cons t rest ih => rw [List.foldl_cons, ih, mem_arrive, List.mem_cons, or_assoc]

theorem nodup_foldl_arrive (h : ids.Nodup) : (newcomers.foldl arrive ids).Nodup := by
  induction newcomers generalizing ids with
  | nil => exact h
  | cons t rest ih => exact ih (nodup_arrive h t)

/-- Arrivals of those that are there change nothing. -/
theorem foldl_arrive_of_subset (h : ∀ s ∈ newcomers, s ∈ ids) :
    newcomers.foldl arrive ids = ids := by
  induction newcomers with
  | nil => rfl
  | cons s rest ih =>
    rw [List.foldl_cons, arrive_of_mem (h s (List.mem_cons_self ..))]
    exact ih fun t ht => h t (List.mem_cons_of_mem _ ht)

/-- Arrivals of different subscribers append those that are not there, in their order. -/
theorem foldl_arrive_eq_append (h : newcomers.Nodup) :
    newcomers.foldl arrive ids = ids ++ newcomers.filter (· ∉ ids) := by
  induction newcomers generalizing ids with
  | nil => simp
  | cons t rest ih =>
    obtain ⟨ht, hrest⟩ := List.nodup_cons.mp h
    rw [List.foldl_cons, ih hrest]
    by_cases hmem : t ∈ ids
    · rw [arrive_of_mem hmem, List.filter_cons_of_neg (by simpa using hmem)]
    · have hsame : rest.filter (· ∉ ids ++ [t]) = rest.filter (· ∉ ids) := by
        apply List.filter_congr
        intro x hx
        have hne : x ≠ t := fun heq => ht (heq ▸ hx)
        simp [hne]
      rw [arrive_of_not_mem hmem, List.filter_cons_of_pos (by simpa using hmem), hsame,
        List.append_assoc, List.singleton_append]

/-- Newcomers that are all different go to the end in their order. -/
theorem foldl_arrive_of_nodup (h : (ids ++ newcomers).Nodup) :
    newcomers.foldl arrive ids = ids ++ newcomers := by
  obtain ⟨-, hnewcomers, hdisjoint⟩ := List.nodup_append.mp h
  have hall : newcomers.filter (· ∉ ids) = newcomers := by
    refine List.filter_eq_self.mpr fun t ht => decide_eq_true fun hmem => ?_
    exact hdisjoint t hmem t ht rfl
  rw [foldl_arrive_eq_append hnewcomers, hall]

theorem filter_foldl_arrive (F : Liveness) (newcomers ids : List SubscriberId) :
    (newcomers.foldl arrive ids).filter F = (newcomers.filter F).foldl arrive (ids.filter F) := by
  induction newcomers generalizing ids with
  | nil => rfl
  | cons t rest ih =>
    rw [List.foldl_cons, ih, arrive_filter]
    cases ht : F t with
    | true => rw [if_pos rfl, List.filter_cons_of_pos ht, List.foldl_cons]
    | false => rw [if_neg Bool.false_ne_true, List.filter_cons_of_neg (by simp [ht])]

end Arrivals

/-- A list of subscribers when whoever is collecting has arrived, seen through a set. -/
def joinedBy (F : Liveness) (active : Option SubscriberId) (ids : List SubscriberId) :
    List SubscriberId :=
  match active with
  | some s => if F s then arrive ids s else ids
  | none => ids

namespace Publisher

variable {live : Liveness}

theorem register_eq_arrive (p : Publisher) (s : SubscriberId) :
    p.register live s = ⟨arrive (p.subscribers live) s⟩ := rfl

theorem mem_subscribers {F : Liveness} {p : Publisher} {s : SubscriberId} :
    s ∈ p.subscribers F ↔ s ∈ p.arrivals ∧ F s = true :=
  List.mem_filter

/-- A dead subscriber is neither listed nor found, and does not count. -/
theorem subscribers_of_dead {s : SubscriberId} (hs : live s = false) (p : Publisher) :
    s ∉ p.subscribers live ∧ p.contains live s = false ∧
      p.count live = (p.arrivals.filter (· ≠ s)).countP live := by
  have hlisted : s ∉ p.subscribers live := fun h =>
    absurd (hs.symm.trans (mem_subscribers.mp h).2) Bool.false_ne_true
  refine ⟨hlisted, by simpa [contains] using hlisted, ?_⟩
  rw [count, subscribers, ← List.countP_eq_length_filter, List.countP_filter]
  apply List.countP_congr
  intro x _
  by_cases hx : x = s
  · simp [hx, hs]
  · simp [hx]

/-- Dead subscribers are cleared away by a registration, which nobody sees who looks for living
ones only. -/
theorem subscribers_subscribers {F : Liveness} {p : Publisher}
    (hF : ∀ x ∈ p.arrivals, F x = true → live x = true) :
    (p.subscribers live).filter F = p.subscribers F := by
  rw [subscribers, subscribers, List.filter_filter]
  apply List.filter_congr
  intro x hx
  cases h : F x
  · simp
  · simp [hF x hx h]

/-- A registration, seen through subscribers that all live. -/
theorem subscribers_register_of_le {F : Liveness} {p : Publisher} (s : SubscriberId)
    (hF : ∀ x ∈ p.arrivals, F x = true → live x = true) :
    (p.register live s).subscribers F =
      if F s then arrive (p.subscribers F) s else p.subscribers F := by
  rw [register_eq_arrive, subscribers, arrive_filter, subscribers_subscribers hF]

/-- Registering twice in a row is registering once. -/
@[simp] theorem track_track (p : Publisher) (active : Option SubscriberId) :
    (p.track live active).track live active = p.track live active := by
  cases active with
  | none => rfl
  | some s =>
    have hself : ∀ x ∈ p.arrivals, live x = true → live x = true := fun _ _ h => h
    rw [track, track, register_eq_arrive, subscribers_register_of_le s hself, register_eq_arrive]
    split <;> simp

theorem subscribers_track_of_le {F : Liveness} {p : Publisher} (active : Option SubscriberId)
    (hF : ∀ x ∈ p.arrivals, F x = true → live x = true) :
    (p.track live active).subscribers F = joinedBy F active (p.subscribers F) := by
  cases active with
  | none => rfl
  | some s => exact subscribers_register_of_le s hF

theorem mem_arrivals_register {p : Publisher} {s x : SubscriberId} :
    x ∈ (p.register live s).arrivals ↔ (x ∈ p.arrivals ∧ live x = true) ∨ x = s := by
  rw [register_eq_arrive, mem_arrive, mem_subscribers]

theorem nodup_register {p : Publisher} (h : p.arrivals.Nodup) (s : SubscriberId) :
    (p.register live s).arrivals.Nodup :=
  nodup_arrive (h.filter _) s

/-- Who is there and lives stays when somebody is registered. -/
theorem mem_arrivals_track_of_live {p : Publisher} (active : Option SubscriberId)
    {x : SubscriberId} (hx : x ∈ p.arrivals) (hlive : live x = true) :
    x ∈ (p.track live active).arrivals := by
  cases active with
  | none => exact hx
  | some s => exact mem_arrivals_register.mpr (.inl ⟨hx, hlive⟩)

theorem nodup_track {p : Publisher} (h : p.arrivals.Nodup) (active : Option SubscriberId) :
    (p.track live active).arrivals.Nodup := by
  cases active with
  | none => exact h
  | some s => exact nodup_register h s

/-! ## Inheritance -/

/-- Registering living newcomers one after the other appends them. -/
theorem foldl_register {ids acc : List SubscriberId} (hnodup : (acc ++ ids).Nodup)
    (hlive : ∀ s ∈ acc ++ ids, live s = true) :
    ids.foldl (register live) ⟨acc⟩ = ⟨acc ++ ids⟩ := by
  -- On those who are still to come; the ones before them live, so that no one is cleared away.
  induction ids generalizing acc with
  | nil => simp
  | cons s rest ih =>
    have hsplit : acc ++ s :: rest = (acc ++ [s]) ++ rest := by simp
    have hsubs : (⟨acc⟩ : Publisher).subscribers live = acc := by
      refine List.filter_eq_self.mpr fun x hx => hlive x ?_
      exact List.mem_append_left _ hx
    have hnew : s ∉ acc := by
      intro hs
      exact List.disjoint_of_nodup_append hnodup hs (List.mem_cons_self ..)
    rw [List.foldl_cons, register_eq_arrive, hsubs, arrive_of_not_mem hnew, hsplit]
    exact ih (hsplit ▸ hnodup) (hsplit ▸ hlive)

/-- An empty publisher takes over the live subscribers of another in their order. -/
theorem inherit_empty {other : Publisher} (h : other.arrivals.Nodup) :
    ({} : Publisher).inherit live other = ⟨other.subscribers live⟩ := by
  have hall : ∀ s ∈ ([] : List SubscriberId) ++ other.subscribers live, live s = true :=
    fun s hs => (mem_subscribers.mp hs).2
  exact foldl_register (h.filter _) hall

end Publisher

end LiveText
