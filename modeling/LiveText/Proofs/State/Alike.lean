import Mathlib
import LiveText.Proofs.Template.Plain

/-!
# States that look alike

Subscribers that care for none but their own kind see of a state its data, and which of them are
registered with which property. Two states that look alike in this sense show the same, and go on to
look alike when the same is read from both of them or written to both. Registrations of others are
not seen, whoever else lives.

## Main definitions

- `State.Alike`: states that look alike to some subscribers.

## Main statements

- `fst_renderWith_of_data_eq`: what a template shows is a matter of the data.
- `alike_renderWith_of_unseen`: the registration of somebody else.
- `Alike.renderWith`, `Alike.afterWrite`: the same read from two states, or written to them.
- `mem_arrivals_renderWith`, `mem_arrivals_afterWrite`: who can be registered afterwards.
-/

namespace LiveText

/-! ## Inheritance, seen through a set -/

namespace Publisher

variable {live F : Liveness}

/-- Taking over the subscribers of another publisher lets those arrive that are seen. -/
theorem subscribers_inherit_of_le (p other : Publisher)
    (hF : ∀ s, F s = true → live s = true) :
    (p.inherit live other).subscribers F =
      (other.subscribers F).foldl arrive (p.subscribers F) := by
  have hseen : other.subscribers F = (other.subscribers live).filter F :=
    (subscribers_subscribers fun s _ => hF s).symm
  rw [hseen, inherit]
  -- On those who are taken over; who is not seen changes nothing.
  generalize other.subscribers live = ids
  induction ids generalizing p with
  | nil => rfl
  | cons s rest ih =>
    rw [List.foldl_cons, ih, subscribers_register_of_le s fun x _ => hF x]
    cases hs : F s with
    | true => rw [List.filter_cons_of_pos hs, List.foldl_cons, if_pos rfl]
    | false => rw [List.filter_cons_of_neg (by simp [hs]), if_neg Bool.false_ne_true]

theorem mem_arrivals_foldl_register {ids : List SubscriberId} {p : Publisher} {s : SubscriberId}
    (h : s ∈ (ids.foldl (register live) p).arrivals) : s ∈ p.arrivals ∨ s ∈ ids := by
  induction ids generalizing p with
  | nil => exact .inl h
  | cons t rest ih =>
    rcases ih h with h | h
    · rcases mem_arrivals_register.mp h with ⟨hs, -⟩ | rfl
      · exact .inl hs
      · exact .inr (List.mem_cons_self ..)
    · exact .inr (List.mem_cons_of_mem _ h)

theorem mem_arrivals_track {p : Publisher} {active : Option SubscriberId} {s : SubscriberId}
    (h : s ∈ (p.track live active).arrivals) : s ∈ p.arrivals ∨ active = some s := by
  cases active with
  | none => exact .inl h
  | some t =>
    rcases mem_arrivals_register.mp h with ⟨hs, -⟩ | rfl
    · exact .inl hs
    · exact .inr rfl

end Publisher

namespace State

variable {live live' F : Liveness} {active : Option SubscriberId} {st st' : State}

/-! ## What is a matter of the data -/

theorem contains_eq_of_data_eq (h : st'.data = st.data) : st'.contains = st.contains := by
  funext p
  rw [contains_eq_isSome_contentAt, contentAt_eq_of_data_eq h, contains_eq_isSome_contentAt]

theorem depth_eq_foldr_data (st : State) :
    st.depth = st.data.2.foldr (fun e n => max e.1.length n) 0 := by
  rw [depth, data, List.foldr_map]

theorem assemble?_eq_of_data_eq (h : st'.data = st.data) (levels : Nat) (p : Path) :
    st'.assemble? levels p = st.assemble? levels p := by
  induction levels generalizing p with
  | zero => rfl
  | succ levels ih =>
    have hcontent := contentAt_eq_of_data_eq h p
    simp only [contentAt] at hcontent
    simp only [assemble?, ih]
    cases hs' : st'.slot? p with
    | none =>
      rw [hs', Option.map_none, eq_comm, Option.map_eq_none_iff] at hcontent
      rw [hcontent]
    | some s' =>
      rw [hs', Option.map_some, eq_comm, Option.map_eq_some_iff] at hcontent
      obtain ⟨s, hs, heq⟩ := hcontent
      simp only [hs, heq]

theorem valueAt?_eq_of_data_eq (h : st'.data = st.data) (p : Path) :
    st'.valueAt? p = st.valueAt? p := by
  have hroots : st'.roots = st.roots := congrArg Prod.fst h
  have hdepth : st'.depth = st.depth := by rw [depth_eq_foldr_data, h, depth_eq_foldr_data]
  simp only [valueAt?, snapshot, hroots, hdepth, assemble?_eq_of_data_eq h]

/-- What a tracked read answers is a matter of the data. -/
theorem fst_readTracked_of_data_eq (h : st'.data = st.data) (p : Path) :
    (readTracked live' active p st').1 = (readTracked live active p st).1 := by
  have hmissing : (trackAlong live' active p.prefixes st').1 =
      (trackAlong live active p.prefixes st).1 := by
    rw [trackAlong_fst, contains_eq_of_data_eq h, ← trackAlong_fst]
  have hvalue : (trackAlong live' active p.prefixes st').2.valueAt? p =
      (trackAlong live active p.prefixes st).2.valueAt? p := by
    apply valueAt?_eq_of_data_eq
    rw [data_trackAlong, data_trackAlong, h]
  rw [readTracked, readTracked]
  -- Both reads come to the same key that is missing, or both come to the property.
  revert hmissing hvalue
  rcases trackAlong live active p.prefixes st with ⟨_ | key, after⟩
  · rcases trackAlong live' active p.prefixes st' with ⟨_ | key', after'⟩
    · intro _ hvalue
      simp only at hvalue ⊢
      rw [hvalue]
      cases after.valueAt? p <;> rfl
    · intro hmissing
      cases hmissing
  · rcases trackAlong live' active p.prefixes st' with ⟨_ | key', after'⟩
    · intro hmissing
      cases hmissing
    · intro hmissing _
      cases hmissing
      rfl

theorem fst_renderSegments_of_data_eq (h : st'.data = st.data) (segments : List Segment) :
    (Template.renderSegments (readTracked live' active) segments st').1 =
      (Template.renderSegments (readTracked live active) segments st).1 := by
  induction segments generalizing st st' with
  | nil => rfl
  | cons segment rest ih =>
    cases segment with
    | literal text =>
      rw [Template.renderSegments, Template.renderSegments]
      dsimp only
      rw [ih h]
    | placeholder p =>
      have hread : (readTracked live' active p st').1 = (readTracked live active p st).1 :=
        fst_readTracked_of_data_eq h p
      have hdata : (readTracked live' active p st').2.data =
          (readTracked live active p st).2.data := by
        rw [data_readTracked, data_readTracked, h]
      have hrest := ih hdata
      rw [Template.renderSegments, Template.renderSegments]
      dsimp only
      rw [hread, hrest]
      cases (readTracked live active p st).1 <;> rfl

/-- What a template shows is a matter of the data. -/
theorem fst_renderWith_of_data_eq (h : st'.data = st.data) (t : Template) :
    (t.renderWith (readTracked live' active) st').1 =
      (t.renderWith (readTracked live active) st).1 :=
  fst_renderSegments_of_data_eq h t.segments

/-- The data after a write is a matter of the data before. -/
theorem data_afterWrite_of_data_eq (h : st'.data = st.data) (p : Path) (v : Value) :
    (st'.afterWrite live' p v).data = (st.afterWrite live p v).data := by
  -- The slots below the property go, its own gets the new content, and new ones follow.
  have hdata : ∀ (live : Liveness) (st : State), (st.afterWrite live p v).data =
      (st.data.1, (st.data.2.filter (!·.1.isBelow p)).map
        (fun e => if e.1 = p then (e.1, SlotContent.ofValue v) else e) ++
        (Slot.belowValue p v).map fun s => (s.path, s.content)) := by
    intro live st
    simp only [data, afterWrite, List.map_append, List.map_map, List.filter_map]
    congr 2
    · apply List.map_congr_left
      intro s _
      simp only [Function.comp_apply]
      split <;> rfl
    · apply List.map_congr_left
      intro s _
      simp only [Function.comp_apply, path_carryOver, content_carryOver]
  rw [hdata, hdata, h]

/-! ## Who is seen to be registered -/

/-- A tracked read, seen through subscribers that live. -/
theorem readers_readTracked (hF : ∀ s, F s = true → live s = true) (st : State) (p q : Path) :
    (readTracked live active p st).2.readers F q =
      if q ∈ p.prefixes.takeWhile st.contains then joinedBy F active (st.readers F q)
      else st.readers F q := by
  rw [readers, snd_readTracked, publisherAt_trackAlong live active (Path.nodup_prefixes p)]
  split
  · exact Publisher.subscribers_track_of_le active fun s _ => hF s
  · rfl

/-- A write, seen through subscribers that live. -/
theorem readers_afterWrite_of_le (hF : ∀ s, F s = true → live s = true) (st : State) (p : Path)
    (v : Value) (q : Path) :
    (st.afterWrite live p v).readers F q =
      if q.isBelow p then
        if (st.afterWrite live p v).contains q then (st.readers F q).foldl arrive [] else []
      else st.readers F q := by
  rw [readers, publisherAt_afterWrite]
  split
  · split
    · exact Publisher.subscribers_inherit_of_le {} _ hF
    · rfl
  · rfl

/-- Whoever has read a property is found in the slot of the property. -/
theorem exists_slot_of_mem_readers {q : Path} {s : SubscriberId} (h : s ∈ st.readers live q) :
    ∃ slot ∈ st.slots, slot.path = q ∧ s ∈ slot.publisher.arrivals := by
  have hmem := (Publisher.mem_subscribers.mp h).1
  rw [publisherAt] at hmem
  cases hslot : st.slot? q with
  | none =>
    rw [hslot] at hmem
    cases hmem
  | some slot =>
    rw [hslot] at hmem
    exact ⟨slot, List.mem_of_find?_eq_some hslot, path_of_slot? hslot, hmem⟩

/-- Nobody but who is collecting is registered by a tracked read. -/
theorem mem_arrivals_readTracked {p q : Path} {s : SubscriberId}
    (h : s ∈ ((readTracked live active p st).2.publisherAt q).arrivals) :
    s ∈ (st.publisherAt q).arrivals ∨ active = some s := by
  rw [snd_readTracked, publisherAt_trackAlong live active (Path.nodup_prefixes p)] at h
  split at h
  · exact Publisher.mem_arrivals_track h
  · exact .inl h

theorem mem_arrivals_renderSegments {segments : List Segment} {q : Path} {s : SubscriberId}
    (h : s ∈ ((Template.renderSegments (readTracked live active) segments st).2.publisherAt
      q).arrivals) : s ∈ (st.publisherAt q).arrivals ∨ active = some s := by
  induction segments generalizing st with
  | nil => exact .inl h
  | cons segment rest ih =>
    cases segment with
    | literal text => exact ih h
    | placeholder p =>
      rw [snd_renderSegments_placeholder] at h
      rcases ih h with h | h
      · exact mem_arrivals_readTracked h
      · exact .inr h

/-- Nobody but who is collecting is registered by a rendering. -/
theorem mem_arrivals_renderWith {t : Template} {q : Path} {s : SubscriberId}
    (h : s ∈ ((t.renderWith (readTracked live active) st).2.publisherAt q).arrivals) :
    s ∈ (st.publisherAt q).arrivals ∨ active = some s :=
  mem_arrivals_renderSegments h

/-- Nobody is registered by a write. -/
theorem mem_arrivals_afterWrite {p q : Path} {v : Value} {s : SubscriberId}
    (h : s ∈ ((st.afterWrite live p v).publisherAt q).arrivals) :
    s ∈ (st.publisherAt q).arrivals := by
  rw [publisherAt_afterWrite] at h
  split at h
  · split at h
    · rcases Publisher.mem_arrivals_foldl_register h with h | h
      · cases h
      · exact (Publisher.mem_subscribers.mp h).1
    · cases h
  · exact h

/-! ## States that look alike -/

/-- States with the same data, with whose properties the same subscribers of a set are registered in
the same order. -/
structure Alike (F : Liveness) (st st' : State) : Prop where
  data : st'.data = st.data
  readers : ∀ q, st'.readers F q = st.readers F q

namespace Alike

theorem refl (F : Liveness) (st : State) : Alike F st st :=
  ⟨rfl, fun _ => rfl⟩

theorem symm (h : Alike F st st') : Alike F st' st :=
  ⟨h.data.symm, fun q => (h.readers q).symm⟩

theorem trans {st'' : State} (h : Alike F st st') (h' : Alike F st' st'') : Alike F st st'' :=
  ⟨h'.data.trans h.data, fun q => (h'.readers q).trans (h.readers q)⟩

/-- Fewer subscribers see no difference either. -/
theorem mono {F' : Liveness} (h : Alike F st st') (hF : ∀ s, F' s = true → F s = true) :
    Alike F' st st' where
  data := h.data
  readers q := by
    have hfewer : ∀ st : State, st.readers F' q = (st.readers F q).filter F' := fun st =>
      (Publisher.subscribers_subscribers fun s _ => hF s).symm
    rw [hfewer, hfewer, h.readers]

/-- The same is read from both states. -/
theorem readTracked (h : Alike F st st') (hF : ∀ s, F s = true → live s = true)
    (hF' : ∀ s, F s = true → live' s = true) (p : Path) :
    Alike F (State.readTracked live active p st).2 (State.readTracked live' active p st').2 where
  data := by rw [data_readTracked, data_readTracked, h.data]
  readers q := by
    rw [readers_readTracked hF, readers_readTracked hF', contains_eq_of_data_eq h.data, h.readers]

theorem renderSegments (h : Alike F st st') (hF : ∀ s, F s = true → live s = true)
    (hF' : ∀ s, F s = true → live' s = true) (segments : List Segment) :
    Alike F (Template.renderSegments (State.readTracked live active) segments st).2
      (Template.renderSegments (State.readTracked live' active) segments st').2 := by
  induction segments generalizing st st' with
  | nil => exact h
  | cons segment rest ih =>
    cases segment with
    | literal text => exact ih h
    | placeholder p =>
      rw [snd_renderSegments_placeholder, snd_renderSegments_placeholder]
      exact ih (h.readTracked hF hF' p)

/-- The same template is rendered from both states. -/
theorem renderWith (h : Alike F st st') (hF : ∀ s, F s = true → live s = true)
    (hF' : ∀ s, F s = true → live' s = true) (t : Template) :
    Alike F (t.renderWith (State.readTracked live active) st).2
      (t.renderWith (State.readTracked live' active) st').2 :=
  h.renderSegments hF hF' t.segments

/-- The same is written to both states. -/
theorem afterWrite (h : Alike F st st') (hF : ∀ s, F s = true → live s = true)
    (hF' : ∀ s, F s = true → live' s = true) (p : Path) (v : Value) :
    Alike F (st.afterWrite live p v) (st'.afterWrite live' p v) where
  data := data_afterWrite_of_data_eq h.data p v
  readers q := by
    have hdata : (st'.afterWrite live' p v).data = (st.afterWrite live p v).data :=
      data_afterWrite_of_data_eq h.data p v
    rw [readers_afterWrite_of_le hF, readers_afterWrite_of_le hF', contains_eq_of_data_eq hdata,
      h.readers]

end Alike

/-- The registration of somebody who is not seen. -/
theorem alike_renderSegments_of_unseen {s : SubscriberId} (hs : F s = false)
    (hF : ∀ s, F s = true → live s = true) (segments : List Segment) (st : State) :
    Alike F st (Template.renderSegments (readTracked live (some s)) segments st).2 := by
  induction segments generalizing st with
  | nil => exact .refl F st
  | cons segment rest ih =>
    cases segment with
    | literal text => exact ih st
    | placeholder p =>
      rw [snd_renderSegments_placeholder]
      -- A read registers nobody but the subscriber, who is not seen.
      refine .trans ⟨data_readTracked .., fun q => ?_⟩ (ih _)
      rw [readers_readTracked hF, joinedBy, hs, if_neg Bool.false_ne_true, ite_self]

/-- A template is rendered for somebody who is not seen. -/
theorem alike_renderWith_of_unseen {s : SubscriberId} (hs : F s = false)
    (hF : ∀ s, F s = true → live s = true) (t : Template) (st : State) :
    Alike F st (t.renderWith (readTracked live (some s)) st).2 :=
  alike_renderSegments_of_unseen hs hF t.segments st

end State

end LiveText
