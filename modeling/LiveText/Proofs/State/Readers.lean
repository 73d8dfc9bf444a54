import Mathlib
import LiveText.Proofs.Reactive.Publisher
import LiveText.Proofs.State.Representation

/-!
# Readers of properties

Who is registered with which property, and how tracked reads and writes change that. A tracked
read registers its reader with the properties on the way, in so far as they are there, and leaves
the data alone. A write rebinds by path: whoever had read a property stays registered exactly if
the property is still there afterwards.

## Main definitions

- `State.readers`: the registered subscribers of a property, as far as they live.
- `State.Orderly`: nobody is registered twice with a property.

## Main statements

- `Represents.readTracked_fst`: a tracked read answers what a plain one would.
- `Represents.readBy_readTracked`: whom it registers, and with what.
- `readers_afterWrite`: whom a write keeps registered.
-/

namespace LiveText.State

/-- The live subscribers of a property in order of arrival. -/
def readers (live : Liveness) (st : State) (p : Path) : List SubscriberId :=
  (st.publisherAt p).subscribers live

/-- No property has anybody registered twice. -/
def Orderly (st : State) : Prop :=
  ∀ p, (st.publisherAt p).arrivals.Nodup

/-- Everybody who is registered and belongs to the first set belongs to the second. -/
def Within (st : State) (F live : Liveness) : Prop :=
  ∀ p, ∀ x ∈ (st.publisherAt p).arrivals, F x = true → live x = true

variable {st : State} {tree : Value}

theorem readers_of_not_contains (live : Liveness) {p : Path} (h : st.contains p = false) :
    st.readers live p = [] := by
  rw [readers, publisherAt_of_not_contains h]
  rfl

theorem subscriberCount_eq (live : Liveness) (st : State) (p : Path) :
    st.subscriberCount live p = (st.publisherAt p).count live := by
  rw [subscriberCount, publisherAt]
  cases st.slot? p with
  | none => rfl
  | some s => rfl

/-! ## New states -/

theorem publisherAt_observe (v : Value) (p : Path) : (observe v).publisherAt p = {} := by
  rw [publisherAt, slot?, slots_observe]
  cases hs : (Slot.belowValue Path.root (treeOf v)).find? (·.path = p) with
  | none => rfl
  | some s => exact Slot.publisher_of_mem_belowValue (List.mem_of_find?_eq_some hs)

theorem orderly_observe (v : Value) : (observe v).Orderly := by
  intro p
  rw [publisherAt_observe]
  exact List.nodup_nil

/-! ## Registering with one property -/

/-- A state in which whoever is collecting is registered with one property. -/
def trackAt (live : Liveness) (active : Option SubscriberId) (st : State) (p : Path) : State :=
  st.modifySlot p fun s => { s with publisher := s.publisher.track live active }

theorem slot?_trackAt (live : Liveness) (active : Option SubscriberId) (st : State) (p q : Path) :
    (st.trackAt live active p).slot? q =
      (st.slot? q).map fun s =>
        if s.path = p then { s with publisher := s.publisher.track live active } else s := by
  rw [slot?, trackAt, modifySlot, find?_map_of_path (by intro s; split <;> rfl)]
  rfl

/-- Registration is not part of the data. -/
theorem data_trackAt (live : Liveness) (active : Option SubscriberId) (st : State) (p : Path) :
    (st.trackAt live active p).data = st.data := by
  rw [data, trackAt, modifySlot, List.map_map, data]
  congr 2
  funext s
  by_cases h : s.path = p
  · simp [h]
  · simp [h]

theorem contains_trackAt (live : Liveness) (active : Option SubscriberId) (st : State)
    (p q : Path) : (st.trackAt live active p).contains q = st.contains q := by
  rw [contains_eq_isSome_contentAt, contentAt_eq_of_data_eq (data_trackAt live active st p)]
  rw [← contains_eq_isSome_contentAt]

theorem publisherAt_trackAt (live : Liveness) (active : Option SubscriberId) {p : Path}
    (hp : st.contains p = true) (q : Path) :
    (st.trackAt live active p).publisherAt q =
      if q = p then (st.publisherAt q).track live active else st.publisherAt q := by
  rw [publisherAt, slot?_trackAt, publisherAt]
  cases hs : st.slot? q with
  | none =>
    have hne : q ≠ p := by
      rintro rfl
      rw [contains, hs] at hp
      exact absurd hp (by simp)
    rw [if_neg hne]
    rfl
  | some s =>
    have hpath := path_of_slot? hs
    by_cases h : q = p
    · simp [hpath, h]
    · simp [hpath, h]

/-! ## Registering on the way down -/

theorem data_trackAlong (live : Liveness) (active : Option SubscriberId) (ps : List Path)
    (st : State) : (trackAlong live active ps st).2.data = st.data := by
  -- On the properties; registration stops at the first one that is missing.
  induction ps generalizing st with
  | nil => rfl
  | cons p rest ih =>
    rw [trackAlong]
    split
    · exact (ih _).trans (data_trackAt live active st p)
    · rfl

/-- Registration goes down the properties in front of the first one that is missing. -/
theorem publisherAt_trackAlong (live : Liveness) (active : Option SubscriberId) {ps : List Path}
    (hps : ps.Nodup) (st : State) (q : Path) :
    (trackAlong live active ps st).2.publisherAt q =
      if q ∈ ps.takeWhile st.contains then (st.publisherAt q).track live active
      else st.publisherAt q := by
  induction ps generalizing st with
  | nil => rfl
  | cons p rest ih =>
    rw [List.nodup_cons] at hps
    rw [trackAlong]
    split
    · next hp =>
      -- A registration does not change which properties there are.
      have hcontains : (st.trackAt live active p).contains = st.contains :=
        funext (contains_trackAt live active st p)
      have hstep := ih hps.2 (st.trackAt live active p)
      rw [hcontains, publisherAt_trackAt live active hp] at hstep
      simp only [List.takeWhile_cons_of_pos hp, List.mem_cons]
      refine Eq.trans hstep ?_
      by_cases hq : q = p
      · -- The property itself does not come a second time.
        have hnot : q ∉ rest.takeWhile st.contains := by
          intro hmem
          exact hps.1 (hq ▸ List.takeWhile_subset _ hmem)
        simp [hq, hq ▸ hnot]
      · simp [hq]
    · next hp =>
      rw [List.takeWhile_cons_of_neg hp]
      rfl

/-- The answer is the last key of the first property that is missing. -/
theorem trackAlong_fst (live : Liveness) (active : Option SubscriberId) (ps : List Path)
    (st : State) :
    (trackAlong live active ps st).1 =
      (ps.dropWhile st.contains).head?.map fun p => p.last?.getD "" := by
  induction ps generalizing st with
  | nil => rfl
  | cons p rest ih =>
    rw [trackAlong]
    split
    · next hp =>
      have hcontains : (st.trackAt live active p).contains = st.contains :=
        funext (contains_trackAt live active st p)
      rw [List.dropWhile_cons_of_pos hp, ← hcontains]
      exact ih _
    · next hp =>
      rw [List.dropWhile_cons_of_neg hp]
      rfl

/-! ## Tracked reads -/

/-- A plain read of a path: the subtree, or the fault that names the first key missing. -/
def plainRead (tree : Value) (p : Path) : Except Fault Value :=
  match tree.walk? p.segments with
  | some v => .ok v
  | none => .error (.missingDataPath p ((tree.absent? p.segments).getD ""))

theorem snd_readTracked (live : Liveness) (active : Option SubscriberId) (p : Path)
    (st : State) : (readTracked live active p st).2 = (trackAlong live active p.prefixes st).2 := by
  rw [readTracked]
  rcases trackAlong live active p.prefixes st with ⟨_ | key, st'⟩
  · dsimp only
    split <;> rfl
  · rfl

theorem data_readTracked (live : Liveness) (active : Option SubscriberId) (p : Path)
    (st : State) : (readTracked live active p st).2.data = st.data := by
  rw [snd_readTracked]
  exact data_trackAlong live active p.prefixes st

theorem Represents.readTracked (h : st.Represents tree) (live : Liveness)
    (active : Option SubscriberId) (p : Path) :
    (readTracked live active p st).2.Represents tree :=
  h.of_data_eq (data_readTracked live active p st)

/-- From a subtree on, the first property that is missing has the first key that is absent. -/
theorem Represents.head?_dropWhile (h : st.Represents tree) {base keys : List String} {v : Value}
    (hbase : tree.walk? base = some v) :
    (((Path.prefixesFrom base keys).dropWhile st.contains).head?.map fun p =>
      p.last?.getD "") = v.absent? keys := by
  -- On the keys, from the subtree where the way has got to.
  induction keys generalizing base v with
  | nil => rfl
  | cons key keys ih =>
    have hwalk : tree.walk? (base ++ [key]) = v.get? key := by
      rw [Value.walk?_concat, hbase, Option.bind_some]
    have hcontains := h.contains_iff ⟨base ++ [key]⟩
    rw [hwalk] at hcontains
    rw [Path.prefixesFrom, Value.absent?]
    cases hget : v.get? key with
    | none =>
      have hnot : ¬ st.contains ⟨base ++ [key]⟩ = true := by
        rw [hcontains, hget]
        simp
      rw [List.dropWhile_cons_of_neg hnot]
      simp [Path.last?]
    | some x =>
      have hthere : st.contains ⟨base ++ [key]⟩ = true := by
        refine hcontains.mpr ⟨fun hroot => ?_, by rw [hget]; rfl⟩
        simpa using congrArg Path.segments hroot
      rw [List.dropWhile_cons_of_pos hthere]
      exact ih (hwalk.trans hget)

/-- A tracked read answers what a plain read of the tree would. -/
theorem Represents.readTracked_fst (h : st.Represents tree) (live : Liveness)
    (active : Option SubscriberId) (p : Path) :
    (State.readTracked live active p st).1 = plainRead tree p := by
  have hafter := h.readTracked live active p
  -- Both ways down stop at the same key.
  have hmissing : (trackAlong live active p.prefixes st).1 = tree.absent? p.segments := by
    rw [trackAlong_fst, Path.prefixes_eq]
    exact h.head?_dropWhile (Value.walk?_nil tree)
  rw [snd_readTracked] at hafter
  rw [State.readTracked, plainRead]
  revert hmissing hafter
  rcases trackAlong live active p.prefixes st with ⟨_ | key, st'⟩
  · intro hafter hmissing
    obtain ⟨v, hv⟩ := Option.isSome_iff_exists.mp (Value.absent?_eq_none_iff.mp hmissing.symm)
    dsimp only
    rw [hafter.valueAt?_eq, hv]
  · intro _ hmissing
    have hnone : tree.walk? p.segments = none := by
      rw [← Option.not_isSome_iff_eq_none, ← Value.absent?_eq_none_iff, ← hmissing]
      simp
    dsimp only at hmissing ⊢
    rw [hnone, ← hmissing]
    rfl

/-- What reading paths on behalf of whoever is collecting does to a state: the data stays, and the
reader is registered with the properties on the ways that are there. -/
structure ReadBy (live : Liveness) (active : Option SubscriberId) (ps : List Path)
    (st st' : State) : Prop where
  data : st'.data = st.data
  publisherAt : ∀ q, st'.publisherAt q =
    if (∃ p ∈ ps, q.LeadsTo p) ∧ st.contains q = true then (st.publisherAt q).track live active
    else st.publisherAt q

theorem Represents.readBy_readTracked (h : st.Represents tree) (live : Liveness)
    (active : Option SubscriberId) (p : Path) :
    ReadBy live active [p] st (State.readTracked live active p st).2 where
  data := data_readTracked live active p st
  publisherAt q := by
    -- The properties on the way that are there come before those that are missing.
    have hmem : q ∈ p.prefixes.takeWhile st.contains ↔
        (∃ r ∈ [p], q.LeadsTo r) ∧ st.contains q = true := by
      rw [Path.mem_takeWhile_prefixes fun a b => h.contains_of_leadsTo, Path.mem_prefixes]
      simp only [List.mem_singleton, exists_eq_left]
      refine ⟨fun ⟨hq, hthere⟩ => ⟨hq.2, hthere⟩, fun ⟨hq, hthere⟩ => ⟨⟨?_, hq⟩, hthere⟩⟩
      exact ((h.contains_iff q).mp hthere).1
    rw [snd_readTracked, publisherAt_trackAlong live active (Path.nodup_prefixes p)]
    simp only [hmem]

namespace ReadBy

variable {live F : Liveness} {active : Option SubscriberId} {ps : List Path} {st st' : State}

theorem nil (st : State) : ReadBy live active [] st st :=
  ⟨rfl, fun q => by simp⟩

theorem contains_eq (h : ReadBy live active ps st st') (q : Path) :
    st'.contains q = st.contains q := by
  rw [contains_eq_isSome_contentAt, contentAt_eq_of_data_eq h.data]
  rw [← contains_eq_isSome_contentAt]

/-- Reading some paths and then others is reading them all, since registering twice is registering
once. -/
theorem append {qs : List Path} {st'' : State} (h : ReadBy live active ps st st')
    (h' : ReadBy live active qs st' st'') : ReadBy live active (ps ++ qs) st st'' where
  data := h'.data.trans h.data
  publisherAt q := by
    have hexists : (∃ p ∈ ps ++ qs, q.LeadsTo p) ↔
        (∃ p ∈ ps, q.LeadsTo p) ∨ ∃ p ∈ qs, q.LeadsTo p := by
      simp only [List.mem_append, or_and_right, exists_or]
    rw [h'.publisherAt, h.contains_eq, h.publisherAt]
    simp only [hexists]
    -- Four cases: the property is on the way of either half, of both or of none.
    by_cases hthere : st.contains q = true
    · by_cases hps : ∃ p ∈ ps, q.LeadsTo p
      · by_cases hqs : ∃ p ∈ qs, q.LeadsTo p
        · simp only [hthere, hps, hqs, and_self, or_self, if_true, Publisher.track_track]
        · simp only [hthere, hps, hqs, and_self, true_or, false_and, if_true, if_false]
      · by_cases hqs : ∃ p ∈ qs, q.LeadsTo p
        · simp only [hthere, hps, hqs, and_self, or_true, false_and, if_true, if_false]
        · simp only [hps, hqs, false_and, or_self, if_false]
    · simp only [hthere, and_false, if_false, Bool.false_eq_true]

theorem represents (h : ReadBy live active ps st st') {tree : Value} (hst : st.Represents tree) :
    st'.Represents tree :=
  hst.of_data_eq h.data

/-- The reader is listed last, unless it is there already. -/
theorem readers (h : ReadBy live active ps st st') (hF : st.Within F live) (q : Path) :
    st'.readers F q =
      if (∃ p ∈ ps, q.LeadsTo p) ∧ st.contains q = true then joinedBy F active (st.readers F q)
      else st.readers F q := by
  rw [State.readers, h.publisherAt, State.readers]
  split
  · exact Publisher.subscribers_track_of_le active (hF q)
  · rfl

theorem orderly (h : ReadBy live active ps st st') (ho : st.Orderly) : st'.Orderly := by
  intro q
  rw [h.publisherAt]
  split
  · exact Publisher.nodup_track (ho q) active
  · exact ho q

end ReadBy

/-! ## Writes -/

/-- Below the written property the new slots take over who is registered with the old ones; all
others stay as they are. -/
theorem publisherAt_afterWrite (live : Liveness) (st : State) (p : Path) (v : Value) (q : Path) :
    (st.afterWrite live p v).publisherAt q =
      if q.isBelow p then
        if (st.afterWrite live p v).contains q then
          ({} : Publisher).inherit live (st.publisherAt q)
        else {}
      else st.publisherAt q := by
  rw [publisherAt, contains, slot?_afterWrite]
  split
  · next hbelow =>
    cases hfresh : (Slot.belowValue p v).find? (·.path = q) with
    | none => rfl
    | some s =>
      have hpath : s.path = q := by simpa using List.find?_some hfresh
      have hnobody : s.publisher = {} :=
        Slot.publisher_of_mem_belowValue (List.mem_of_find?_eq_some hfresh)
      -- The old slot is found among those that are taken away.
      have hold : (st.slots.filter (·.path.isBelow p)).find? (·.path = s.path) = st.slot? q := by
        rw [hpath, slot?, List.find?_filter]
        congr 1
        funext s
        by_cases heq : s.path = q
        · simp [heq, hbelow]
        · simp [heq]
      simp only [Option.map_some, Option.getD_some, Option.isSome_some, if_true]
      rw [carryOver, hold, publisherAt]
      cases st.slot? q with
      | none => exact hnobody
      | some old => simp [hnobody]
  · rw [publisherAt]
    cases st.slot? q with
    | none => rfl
    | some s =>
      simp only [Option.map_some, Option.getD_some]
      split <;> rfl

/-- A write to one property leaves every other one in place that is not below it. -/
theorem contains_afterWrite_of_not_isBelow (live : Liveness) (st : State) (p : Path) (v : Value)
    {q : Path} (hq : q.isBelow p = false) :
    (st.afterWrite live p v).contains q = st.contains q := by
  rw [contains, slot?_afterWrite, if_neg (by simp [hq]), Option.isSome_map, contains]

/-- Rebinding by path: the readers of a property are those it had before, if it is still there. -/
theorem readers_afterWrite {F live : Liveness} (ho : st.Orderly) (hF : st.Within F live)
    (p : Path) (v : Value) (q : Path) :
    (st.afterWrite live p v).readers F q =
      if (st.afterWrite live p v).contains q then st.readers F q else [] := by
  rw [readers, publisherAt_afterWrite]
  by_cases hbelow : q.isBelow p = true
  · rw [if_pos hbelow]
    split
    · rw [Publisher.inherit_empty (ho q)]
      exact Publisher.subscribers_subscribers (hF q)
    · rfl
  · rw [if_neg hbelow]
    rw [Bool.not_eq_true] at hbelow
    rw [contains_afterWrite_of_not_isBelow live st p v hbelow]
    split
    · rfl
    · next hq => exact readers_of_not_contains F (by simpa using hq)

theorem orderly_afterWrite (ho : st.Orderly) (live : Liveness) (p : Path) (v : Value) :
    (st.afterWrite live p v).Orderly := by
  intro q
  rw [publisherAt_afterWrite]
  split
  · split
    · rw [Publisher.inherit_empty (ho q)]
      exact (ho q).filter _
    · exact List.nodup_nil
  · exact ho q

end LiveText.State
