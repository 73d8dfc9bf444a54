import Mathlib
import LiveText.Proofs.State.Representation

/-!
# The keys of a state

The keys of the data of a state are fixed when the state is made. However it is written to, its
properties of one key are those of the keys, and the data as a whole stays no property.

## Main definitions

- `State.Rooted`: the properties of one key are those of the keys.

## Main statements

- `rooted_observe`, `Rooted.afterWrite`: new states, and states that have been written to.
- `Rooted.keys_snapshot`: the keys of the whole data, in their order.
-/

namespace LiveText.State

/-- The properties of one key are those of the keys of the state, and the data as a whole is
none. -/
structure Rooted (st : State) : Prop where
  no_root : st.contains Path.root = false
  contains_iff : ∀ key, st.contains ⟨[key]⟩ = true ↔ key ∈ st.roots

variable {st : State}

theorem contains_iff_exists {p : Path} : st.contains p = true ↔ ∃ s ∈ st.slots, s.path = p := by
  simp [contains, slot?]

/-- What properties there are is a matter of the data. -/
theorem Rooted.of_data_eq (h : st.Rooted) {st' : State} (hdata : st'.data = st.data) :
    st'.Rooted := by
  have hcontains : ∀ p, st'.contains p = st.contains p := fun p => by
    rw [contains_eq_isSome_contentAt, contentAt_eq_of_data_eq hdata,
      ← contains_eq_isSome_contentAt]
  have hroots : st'.roots = st.roots := congrArg Prod.fst hdata
  refine ⟨hcontains _ ▸ h.no_root, fun key => ?_⟩
  rw [hcontains, hroots]
  exact h.contains_iff key

/-- A value has a slot of its own. -/
theorem exists_mem_ofValue (p : Path) (v : Value) : ∃ s ∈ Slot.ofValue p v, s.path = p := by
  cases v <;> exact ⟨_, List.mem_cons_self, rfl⟩

theorem rooted_observe (v : Value) : (observe v).Rooted := by
  refine ⟨?no_root, fun key => ?contains_iff⟩
  case no_root =>
    rw [Bool.eq_false_iff, ne_eq, contains_iff_exists, slots_observe]
    rintro ⟨s, hs, hpath⟩
    have hbelow := Slot.isBelow_of_mem_belowValue hs
    rw [hpath] at hbelow
    exact absurd hbelow (by decide)
  case contains_iff =>
    rw [contains_iff_exists]
    cases v with
    | object entries =>
      show (∃ s ∈ Slot.ofEntries Path.root entries, s.path = ⟨[key]⟩) ↔ key ∈ Entries.keys entries
      constructor
      · -- The slots of an entry begin with its key.
        rintro ⟨s, hs, hpath⟩
        obtain ⟨e, he, hs⟩ := Slot.mem_ofEntries.mp hs
        have hlead := Slot.leadsTo_of_mem_ofValue hs
        rw [hpath] at hlead
        obtain ⟨rest, hrest⟩ := hlead
        have hkey : e.1 = key := by
          simp only [Path.segments_child, Path.segments_root, List.nil_append,
            List.singleton_append, List.cons.injEq] at hrest
          exact hrest.1
        exact hkey ▸ List.mem_map_of_mem he
      · intro hkey
        obtain ⟨e, he, rfl⟩ := List.mem_map.mp hkey
        obtain ⟨s, hs, hpath⟩ := exists_mem_ofValue (Path.root.child e.1) e.2
        exact ⟨s, Slot.mem_ofEntries.mpr ⟨e, he, hs⟩, hpath⟩
    -- Other data has neither keys nor slots.
    | _ => exact ⟨fun ⟨s, hs, _⟩ => (nomatch hs), fun hkey => (nomatch hkey)⟩

/-- A write to a property takes no property of one key away, and adds none: what it adds lies below
another property. -/
theorem Rooted.afterWrite (h : st.Rooted) (live : Liveness) {p : Path} (v : Value)
    (hp : st.contains p = true) : (st.afterWrite live p v).Rooted := by
  have hlength : 0 < p.segments.length := by
    rw [List.length_pos_iff]
    intro hnil
    rw [show p = Path.root from Path.ext_segments hnil, h.no_root] at hp
    cases hp
  -- A write touches what lies below its path, which is longer by a key at least.
  have hkept : ∀ q : Path, q.segments.length ≤ 1 →
      (st.afterWrite live p v).contains q = st.contains q := by
    intro q hq
    have hbelow : q.isBelow p = false := by
      rw [Path.isBelow, Bool.and_eq_false_iff, decide_eq_false_iff_not]
      exact .inl (by omega)
    rw [contains, slot?_afterWrite, hbelow, if_neg Bool.false_ne_true, Option.isSome_map, contains]
  refine ⟨(hkept _ (Nat.zero_le _)).trans h.no_root, fun key => ?_⟩
  rw [hkept _ le_rfl]
  exact h.contains_iff key

/-! ## What is read -/

/-- A property has a value. -/
theorem isSome_valueAt? {p : Path} (hroot : p ≠ Path.root) (h : st.contains p = true) :
    (st.valueAt? p).isSome = true := by
  have hdepth : 0 < st.depth :=
    (Path.length_pos hroot).trans_le (length_le_depth h)
  obtain ⟨levels, hlevels⟩ := Nat.exists_eq_add_one.mpr hdepth
  obtain ⟨s, hs⟩ := Option.isSome_iff_exists.mp h
  rw [valueAt?, if_neg fun hp => hroot (Path.isRoot_iff.mp hp), hlevels, assemble?, hs]
  dsimp only
  split <;> rfl

theorem keys_filterMap_of_isSome {keys : List String} {f : String → Option Value}
    (h : ∀ key ∈ keys, (f key).isSome = true) :
    Entries.keys (keys.filterMap fun key => (f key).map (key, ·)) = keys := by
  induction keys with
  | nil => rfl
  | cons key rest ih =>
    obtain ⟨v, hv⟩ := Option.isSome_iff_exists.mp (h key List.mem_cons_self)
    rw [List.filterMap_cons_some (b := (key, v)) (by rw [hv]; rfl), Entries.keys_cons,
      ih fun key' hkey' => h key' (List.mem_cons_of_mem _ hkey')]

/-- The whole data has the keys of the state, in their order. -/
theorem Rooted.keys_snapshot (h : st.Rooted) :
    ∃ entries, st.snapshot = .object entries ∧ Entries.keys entries = st.roots := by
  refine ⟨_, rfl, keys_filterMap_of_isSome fun key hkey => ?_⟩
  have hne : (⟨[key]⟩ : Path) ≠ Path.root := by simp [Path.root]
  have hvalue := isSome_valueAt? hne ((h.contains_iff key).mpr hkey)
  rwa [valueAt?, if_neg fun hp => hne (Path.isRoot_iff.mp hp)] at hvalue

end LiveText.State
