import Mathlib
import LiveText.Proofs.Path.Order
import LiveText.Proofs.Value.Tree
import LiveText.State.Basic

/-!
# States represent trees

The slots of a state stand for one nested value. The relation says, path by path, that the slot
holds what the tree has there: there is a slot exactly where the tree goes, an object's slot has
the keys of the object, and every other slot has the value itself. Writes and tracked reads keep
the relation, a write with the subtree replaced in place.

## Main definitions

- `State.Represents`: the relation.
- `State.afterWrite`: the state that a write leaves.
- `State.data`: what a state holds, without subscribers.

## Main statements

- `Represents.valueAt?_eq`, `Represents.snapshot_eq`, `Represents.contains_iff`: reading.
- `represents_observe`, `Represents.afterWrite`: how trees come about and change.
-/

namespace LiveText

/-! ## The slots of a value -/

namespace Slot

theorem ofValue_of_not_object {v : Value} (h : v.isObject = false) (path : Path) :
    ofValue path v = [⟨path, .leaf v, {}⟩] := by
  cases v <;> first | rfl | simp [Value.isObject] at h

/-- The slots of an object are its own and those of its contents. -/
theorem mem_ofEntries {entries : List (String × Value)} {path : Path} {s : Slot} :
    s ∈ ofEntries path entries ↔ ∃ e ∈ entries, s ∈ ofValue (path.child e.1) e.2 := by
  induction entries with
  | nil => simp [ofEntries]
  | cons e rest ih =>
    obtain ⟨key, x⟩ := e
    rw [ofEntries, List.mem_append, ih]
    simp

/-- The slots of a value lie at its path or below it. -/
theorem leadsTo_of_mem_ofValue {v : Value} {path : Path} {s : Slot}
    (hs : s ∈ ofValue path v) : path.LeadsTo s.path := by
  -- On the value; the path grows by a key from an object to its contents.
  induction v using Value.treeInduction generalizing path with
  | leaf v h =>
    rw [ofValue_of_not_object h, List.mem_singleton] at hs
    exact hs ▸ .refl _
  | object entries ih =>
    rw [ofValue, List.mem_cons, mem_ofEntries] at hs
    rcases hs with rfl | ⟨e, he, hs⟩
    · exact .refl _
    · exact (Path.leadsTo_child path e.1).trans (ih e he hs)

/-- The slots below a value lie strictly below its path. -/
theorem isBelow_of_mem_belowValue {v : Value} {path : Path} {s : Slot}
    (hs : s ∈ belowValue path v) : s.path.isBelow path = true := by
  cases v with
  | object entries =>
    obtain ⟨e, -, hs⟩ := mem_ofEntries.mp hs
    obtain ⟨rest, hrest⟩ := leadsTo_of_mem_ofValue hs
    -- The slot lies at the key of an entry or below, so its path has at least that key more.
    have hsegments : s.path.segments = path.segments ++ e.1 :: rest := by
      rw [← hrest, Path.segments_child, List.append_assoc, List.singleton_append]
    exact Path.isBelow_of_segments hsegments
  | _ => simp [belowValue] at hs

/-- Nobody is registered with new slots. -/
theorem publisher_of_mem_ofValue {v : Value} {path : Path} {s : Slot}
    (hs : s ∈ ofValue path v) : s.publisher = {} := by
  induction v using Value.treeInduction generalizing path with
  | leaf v h =>
    rw [ofValue_of_not_object h, List.mem_singleton] at hs
    rw [hs]
  | object entries ih =>
    rw [ofValue, List.mem_cons, mem_ofEntries] at hs
    rcases hs with rfl | ⟨e, he, hs⟩
    · rfl
    · exact ih e he hs

theorem publisher_of_mem_belowValue {v : Value} {path : Path} {s : Slot}
    (hs : s ∈ belowValue path v) : s.publisher = {} := by
  cases v with
  | object entries =>
    obtain ⟨e, -, hs⟩ := mem_ofEntries.mp hs
    exact publisher_of_mem_ofValue hs
  | _ => simp [belowValue] at hs

/-- A search for a path among slots of which none lies there. -/
theorem find?_eq_none_of_not_leadsTo {v : Value} {path q : Path} (h : ¬ path.LeadsTo q) :
    (ofValue path v).find? (·.path = q) = none := by
  rw [List.find?_eq_none]
  intro s hs heq
  rw [decide_eq_true_eq] at heq
  exact h (heq ▸ leadsTo_of_mem_ofValue hs)

/-- The slot found under a key is one of the content of the entry with that key. -/
theorem find?_ofEntries {entries : List (String × Value)} (hk : (Entries.keys entries).Nodup)
    (path : Path) {q : Path} {key : String} (hq : (path.child key).LeadsTo q) :
    (ofEntries path entries).find? (·.path = q) =
      (entries.lookup key).bind fun x => (ofValue (path.child key) x).find? (·.path = q) := by
  induction entries with
  | nil => rfl
  | cons e rest ih =>
    obtain ⟨k, x⟩ := e
    rw [Entries.keys_cons, List.nodup_cons] at hk
    rw [ofEntries, List.find?_append, List.lookup_cons, ih hk.2]
    by_cases h : key = k
    · subst h
      -- The key does not come a second time.
      have hnone : rest.lookup key = none := by
        rw [← Option.not_isSome_iff_eq_none, Entries.lookup_isSome_iff_mem_keys]
        exact hk.1
      simp [hnone]
    · -- Two different keys do not both lead to one path.
      have hne : ¬ (path.child k).LeadsTo q := fun hlead => h (Path.key_eq_of_leadsTo hq hlead)
      have hb : (key == k) = false := beq_eq_false_iff_ne.mpr h
      rw [find?_eq_none_of_not_leadsTo hne, hb, Option.none_or]

/-- Among the slots of a tree, the one at the end of a way has the content of the subtree there. -/
theorem content_find?_ofValue {v : Value} (hv : v.WellFormed) (path : Path) {q : Path}
    {keys : List String} (hq : q.segments = path.segments ++ keys) :
    ((ofValue path v).find? (·.path = q)).map content =
      (v.walk? keys).map SlotContent.ofValue := by
  -- On the value; each key of the way leads from an object to one of its contents.
  induction v using Value.treeInduction generalizing path keys with
  | leaf v h =>
    rw [ofValue_of_not_object h]
    cases keys with
    | nil =>
      -- The way ends here: the one slot of the leaf is found.
      have hpath : path = q := Path.ext_segments (by rw [hq, List.append_nil])
      have hcontent : SlotContent.ofValue v = .leaf v := by
        cases v <;> first | rfl | simp [Value.isObject] at h
      simp [hpath, hcontent]
    | cons key keys =>
      -- The way goes on, but a leaf has nothing below it.
      have hpath : path ≠ q := by
        intro heq
        rw [heq] at hq
        simpa using congrArg List.length hq
      have hget : v.get? key = none := by
        cases v <;> first | rfl | simp [Value.isObject] at h
      simp [hpath, Value.walk?_cons, hget]
  | object entries ih =>
    cases hv with
    | object _ hk hx =>
      rw [ofValue]
      cases keys with
      | nil =>
        have hpath : path = q := Path.ext_segments (by rw [hq, List.append_nil])
        simp [hpath, SlotContent.ofValue]
      | cons key keys =>
        have hpath : path ≠ q := by
          intro heq
          rw [heq] at hq
          simpa using congrArg List.length hq
        have hq' : q.segments = (path.child key).segments ++ keys := by
          rw [hq, Path.segments_child, List.append_assoc, List.singleton_append]
        -- Past the slot of the object itself, the first key of the way picks the entry.
        rw [List.find?_cons_of_neg (by simpa using hpath)]
        rw [find?_ofEntries hk path ⟨keys, hq'.symm⟩]
        rw [Value.walk?_cons, Value.get?_object]
        cases hl : entries.lookup key with
        | none => rfl
        | some x =>
          have hmem := Entries.mem_of_lookup hl
          exact ih (key, x) hmem (hx _ hmem) (path.child key) hq'

/-- The same for the slots strictly below a value. -/
theorem content_find?_belowValue {v : Value} (hv : v.WellFormed) (path : Path) {q : Path}
    {keys : List String} (hq : q.segments = path.segments ++ keys) (hne : keys ≠ []) :
    ((belowValue path v).find? (·.path = q)).map content =
      (v.walk? keys).map SlotContent.ofValue := by
  have hpath : path ≠ q := by
    intro heq
    rw [heq] at hq
    exact hne (by simpa using hq)
  have h := content_find?_ofValue hv path hq
  cases v with
  | object entries =>
    rw [ofValue, List.find?_cons_of_neg (by simpa using hpath)] at h
    exact h
  | _ =>
    obtain ⟨key, rest, rfl⟩ := List.exists_cons_of_ne_nil hne
    rfl

end Slot

namespace State

/-! ## Looking at slots -/

/-- What the slot of a property holds. -/
def contentAt (st : State) (p : Path) : Option SlotContent :=
  (st.slot? p).map Slot.content

/-- Who has read a property; nobody has read one that is not there. -/
def publisherAt (st : State) (p : Path) : Publisher :=
  ((st.slot? p).map Slot.publisher).getD {}

theorem contains_eq_isSome_contentAt (st : State) (p : Path) :
    st.contains p = (st.contentAt p).isSome := by
  rw [contentAt, Option.isSome_map, contains]

/-- What a state holds, without subscribers: the keys, and in the order of the slots the paths with
what is there. -/
def data (st : State) : List String × List (Path × SlotContent) :=
  (st.roots, st.slots.map fun s => (s.path, s.content))

theorem contentAt_eq_find?_data (st : State) (p : Path) :
    st.contentAt p = (st.data.2.find? (·.1 = p)).map Prod.snd := by
  rw [data, List.find?_map, Option.map_map]
  rfl

theorem contentAt_eq_of_data_eq {st st' : State} (h : st'.data = st.data) (p : Path) :
    st'.contentAt p = st.contentAt p := by
  rw [contentAt_eq_find?_data, h, ← contentAt_eq_find?_data]

theorem path_of_slot? {st : State} {p : Path} {s : Slot} (h : st.slot? p = some s) :
    s.path = p := by
  simpa using List.find?_some h

theorem publisherAt_of_not_contains {st : State} {p : Path} (h : st.contains p = false) :
    st.publisherAt p = {} := by
  rw [contains, Option.isSome_eq_false_iff, Option.isNone_iff_eq_none] at h
  rw [publisherAt, h]
  rfl

/-- No property is deeper than the depth of the state. -/
theorem length_le_depth {st : State} {p : Path} (h : st.contains p = true) :
    p.length ≤ st.depth := by
  obtain ⟨s, hs⟩ := Option.isSome_iff_exists.mp h
  have hmem : s ∈ st.slots := List.mem_of_find?_eq_some hs
  rw [← path_of_slot? hs, depth]
  -- The depth is the greatest length of a path among the slots.
  generalize st.slots = slots at hmem
  induction slots with
  | nil => simp at hmem
  | cons a rest ih =>
    rw [List.foldr_cons]
    rcases List.mem_cons.mp hmem with rfl | hmem
    · exact Nat.le_max_left ..
    · exact (ih hmem).trans (Nat.le_max_right ..)

/-! ## The relation -/

/-- The state stands for the tree. -/
structure Represents (st : State) (tree : Value) : Prop where
  wellFormed : tree.WellFormed
  /-- The tree is an object with the keys of the state. -/
  roots : SlotContent.ofValue tree = .branch st.roots
  /-- The tree as a whole is not a property. -/
  no_root : st.contentAt Path.root = none
  content : ∀ p, p ≠ Path.root →
    st.contentAt p = (tree.walk? p.segments).map SlotContent.ofValue

variable {st : State} {tree : Value}

/-- States with the same data represent the same tree. -/
theorem Represents.of_data_eq {st' : State} (h : st.Represents tree) (hdata : st'.data = st.data) :
    st'.Represents tree where
  wellFormed := h.wellFormed
  roots := h.roots.trans (congrArg (fun d => SlotContent.branch d.1) hdata).symm
  no_root := contentAt_eq_of_data_eq hdata _ ▸ h.no_root
  content p hp := contentAt_eq_of_data_eq hdata p ▸ h.content p hp

theorem Represents.contains_iff (h : st.Represents tree) (p : Path) :
    st.contains p = true ↔ p ≠ Path.root ∧ (tree.walk? p.segments).isSome = true := by
  rw [contains_eq_isSome_contentAt]
  by_cases hp : p = Path.root
  · subst hp
    simp [h.no_root]
  · simp [h.content p hp, hp]

/-- The state of a tree has exactly the properties above a property. -/
theorem Represents.contains_of_leadsTo (h : st.Represents tree) {p q : Path} (hq : q ≠ Path.root)
    (hlead : q.LeadsTo p) (hp : st.contains p = true) : st.contains q = true := by
  rw [h.contains_iff] at hp ⊢
  exact ⟨hq, Value.walk?_isSome_of_prefix hlead hp.2⟩

/-- Slots are put together to the subtree, given as many levels as there are slots below. -/
theorem Represents.assemble?_eq (h : st.Represents tree) {levels : Nat} {p : Path}
    (hp : p ≠ Path.root) (hlevels : st.depth < p.length + levels) :
    st.assemble? levels p = tree.walk? p.segments := by
  -- On the levels: the slots of the contents are one key longer and take one level less.
  induction levels generalizing p with
  | zero =>
    -- A slot at `p` would be deeper than the state.
    have hnone : ¬ (tree.walk? p.segments).isSome = true := by
      intro hsome
      have hle := length_le_depth ((h.contains_iff p).mpr ⟨hp, hsome⟩)
      omega
    rw [Option.not_isSome_iff_eq_none] at hnone
    rw [assemble?, hnone]
  | succ levels ih =>
    have hcontent := h.content p hp
    rw [assemble?]
    cases hs : st.slot? p with
    | none =>
      rw [contentAt, hs, Option.map_none] at hcontent
      exact (Option.map_eq_none_iff.mp hcontent.symm).symm
    | some s =>
      rw [contentAt, hs, Option.map_some] at hcontent
      obtain ⟨v, hv, hsv⟩ := Option.map_eq_some_iff.mp hcontent.symm
      rw [hv]
      dsimp only
      rw [← hsv]
      cases v with
      | object entries =>
        -- The contents are put together key by key, each by the induction hypothesis.
        have hk : (Entries.keys entries).Nodup := by
          cases h.wellFormed.walk? hv with
          | object _ hk _ => exact hk
        have hkeys : (Entries.keys entries).filterMap (fun key =>
            (st.assemble? levels (p.child key)).map (key, ·)) = entries := by
          apply Entries.filterMap_keys
          intro e he
          rw [ih (Path.child_ne_root p e.1) (by rw [Path.length_child]; omega)]
          rw [Path.segments_child, Value.walk?_concat, hv, Option.bind_some, Value.get?_object]
          exact Entries.lookup_of_mem hk he
        simp only [SlotContent.ofValue, hkeys]
      | _ => rfl

/-- The whole data is the tree. -/
theorem Represents.snapshot_eq (h : st.Represents tree) : st.snapshot = tree := by
  have hroots := h.roots
  have hwf := h.wellFormed
  cases tree with
  | object entries =>
    simp only [SlotContent.ofValue, SlotContent.branch.injEq] at hroots
    cases hwf with
    | object _ hk _ =>
      have hkeys : (Entries.keys entries).filterMap (fun key =>
          (st.assemble? st.depth (Path.root.child key)).map (key, ·)) = entries := by
        apply Entries.filterMap_keys
        intro e he
        rw [h.assemble?_eq (Path.child_ne_root _ _) (by rw [Path.length_child]; omega)]
        rw [Path.segments_child, Value.walk?_concat, Path.segments_root, Value.walk?_nil]
        rw [Option.bind_some, Value.get?_object]
        exact Entries.lookup_of_mem hk he
      rw [snapshot, ← hroots, hkeys]
  | _ => simp [SlotContent.ofValue] at hroots

/-- The value at a path is what the tree has there. -/
theorem Represents.valueAt?_eq (h : st.Represents tree) (p : Path) :
    st.valueAt? p = tree.walk? p.segments := by
  rw [valueAt?]
  split
  · next hroot =>
    rw [Path.isRoot_iff.mp hroot, Path.segments_root, Value.walk?_nil, h.snapshot_eq]
  · next hroot =>
    have hne : p ≠ Path.root := fun heq => hroot (Path.isRoot_iff.mpr heq)
    have hpos := Path.length_pos hne
    exact h.assemble?_eq hne (by omega)

/-! ## New states -/

/-- The tree that a state is made of: an object as it is, and nothing of any other value. -/
def treeOf (v : Value) : Value :=
  match v with
  | .object entries => .object entries
  | _ => .object []

theorem wellFormed_treeOf {v : Value} (hv : v.WellFormed) : (treeOf v).WellFormed := by
  cases v with
  | object entries => exact hv
  | _ => exact .object [] List.nodup_nil (by simp)

/-- The slots of a new state are those strictly below its tree. -/
theorem slots_observe (v : Value) :
    (observe v).slots = Slot.belowValue Path.root (treeOf v) := by
  cases v <;> rfl

theorem represents_observe {v : Value} (hv : v.WellFormed) :
    (observe v).Represents (treeOf v) where
  wellFormed := wellFormed_treeOf hv
  roots := by cases v <;> rfl
  no_root := by
    rw [contentAt, Option.map_eq_none_iff, slot?, List.find?_eq_none, slots_observe]
    intro s hs heq
    rw [decide_eq_true_eq] at heq
    have hbelow := Slot.isBelow_of_mem_belowValue hs
    rw [heq] at hbelow
    exact absurd hbelow (by decide)
  content := by
    intro p hp
    rw [contentAt, slot?, slots_observe]
    refine Slot.content_find?_belowValue (wellFormed_treeOf hv) Path.root ?_ ?_
    · rw [Path.segments_root, List.nil_append]
    · exact fun hnil => hp (Path.ext_segments hnil)

/-! ## Writes -/

/-- The state that a write leaves. -/
def afterWrite (live : Liveness) (st : State) (p : Path) (v : Value) : State :=
  let removed := st.slots.filter (·.path.isBelow p)
  let kept := st.slots.filter (!·.path.isBelow p)
  let written := kept.map fun s => if s.path = p then { s with content := .ofValue v } else s
  let fresh := (Slot.belowValue p v).map (carryOver live removed)
  { st with slots := written ++ fresh }

theorem assign?_eq (live : Liveness) (st : State) (p : Path) (v : Value) :
    st.assign? live p v =
      (st.slot? p).map fun target => (target.publisher, st.afterWrite live p v) := rfl

/-- A write to a property takes place, and hands out whoever has read the property. -/
theorem assign?_of_contains (live : Liveness) {p : Path} (v : Value)
    (h : st.contains p = true) :
    st.assign? live p v = some (st.publisherAt p, st.afterWrite live p v) := by
  obtain ⟨s, hs⟩ := Option.isSome_iff_exists.mp h
  rw [assign?_eq, publisherAt, hs]
  rfl

theorem assign?_eq_none_iff (live : Liveness) (p : Path) (v : Value) :
    st.assign? live p v = none ↔ st.contains p = false := by
  rw [assign?_eq, Option.map_eq_none_iff, contains, Option.isSome_eq_false_iff,
    Option.isNone_iff_eq_none]

@[simp] theorem path_carryOver (live : Liveness) (old : List Slot) (s : Slot) :
    (carryOver live old s).path = s.path := by
  unfold carryOver
  split <;> rfl

@[simp] theorem content_carryOver (live : Liveness) (old : List Slot) (s : Slot) :
    (carryOver live old s).content = s.content := by
  unfold carryOver
  split <;> rfl

/-- A search for a path through changed slots whose paths have stayed. -/
theorem find?_map_of_path {f : Slot → Slot} (hf : ∀ s, (f s).path = s.path) (slots : List Slot)
    (q : Path) :
    (slots.map f).find? (·.path = q) = (slots.find? (·.path = q)).map f := by
  rw [List.find?_map]
  congr 2
  funext s
  simp [hf]

/-- Where the slots of a state are after a write: above the written property and beside it they
stay, its own gets the new content, and below it there are those of the new value. -/
theorem slot?_afterWrite (live : Liveness) (st : State) (p : Path) (v : Value) (q : Path) :
    (st.afterWrite live p v).slot? q =
      if q.isBelow p then
        ((Slot.belowValue p v).find? (·.path = q)).map
          (carryOver live (st.slots.filter (·.path.isBelow p)))
      else
        (st.slot? q).map fun s => if s.path = p then { s with content := .ofValue v } else s := by
  rw [slot?, afterWrite, List.find?_append]
  rw [find?_map_of_path (by intro s; split <;> rfl), find?_map_of_path (by simp)]
  split
  · next hbelow =>
    -- The slots that are kept do not lie below the property.
    have hkept : (st.slots.filter (!·.path.isBelow p)).find? (·.path = q) = none := by
      rw [List.find?_eq_none]
      intro s hs heq
      rw [decide_eq_true_eq] at heq
      simp [heq, hbelow] at hs
    rw [hkept, Option.map_none, Option.none_or]
  · next hbelow =>
    -- The new slots do.
    have hfresh : (Slot.belowValue p v).find? (·.path = q) = none := by
      rw [List.find?_eq_none]
      intro s hs heq
      rw [decide_eq_true_eq] at heq
      exact hbelow (heq ▸ Slot.isBelow_of_mem_belowValue hs)
    have hkept : (st.slots.filter (!·.path.isBelow p)).find? (·.path = q) = st.slot? q := by
      rw [slot?, List.find?_filter]
      congr 1
      funext s
      by_cases heq : s.path = q
      · simp [heq, hbelow]
      · simp [heq]
    rw [hkept, hfresh, Option.map_none, Option.or_none]

theorem contentAt_afterWrite (live : Liveness) (st : State) (p : Path) (v : Value) (q : Path) :
    (st.afterWrite live p v).contentAt q =
      if q.isBelow p then ((Slot.belowValue p v).find? (·.path = q)).map Slot.content
      else if q = p then (st.contentAt q).map fun _ => SlotContent.ofValue v
      else st.contentAt q := by
  rw [contentAt, slot?_afterWrite]
  split
  · rw [Option.map_map]
    congr 1
    funext s
    exact content_carryOver ..
  · rw [contentAt, Option.map_map]
    cases hs : st.slot? q with
    | none => simp
    | some s =>
      have hpath := path_of_slot? hs
      by_cases hq : q = p
      · simp [hpath, hq]
      · simp [hpath, hq]

/-- A write to a property replaces the subtree of the tree. -/
theorem Represents.afterWrite (h : st.Represents tree) (live : Liveness) {p : Path} {v : Value}
    (hv : v.WellFormed) (hp : st.contains p = true) :
    (st.afterWrite live p v).Represents (Value.replaceAt v p.segments tree) := by
  obtain ⟨hne, hwalk⟩ := (h.contains_iff p).mp hp
  -- The root is not a property, so the way to the property has a first key.
  obtain ⟨key, keys, hcons⟩ := List.exists_cons_of_ne_nil
    (l := p.segments) fun hnil => hne (Path.ext_segments hnil)
  refine ⟨hv.replaceAt h.wellFormed, ?roots, ?no_root, ?content⟩
  case roots =>
    rw [hcons, Value.content_replaceAt_cons]
    exact h.roots
  case no_root =>
    have hroot : Path.root.isBelow p = false := by
      rw [Bool.eq_false_iff, ne_eq, Path.isBelow_iff]
      rintro ⟨hlead, -⟩
      exact hne hlead.eq_of_root
    rw [contentAt_afterWrite, hroot, if_neg Bool.false_ne_true, if_neg (Ne.symm hne), h.no_root]
  case content =>
    intro q hq
    rw [contentAt_afterWrite]
    -- At the property and below it there is the new value, and elsewhere all is as before.
    by_cases hlead : p.LeadsTo q
    · obtain ⟨rest, hrest⟩ := hlead
      rw [← hrest, Value.walk?_replaceAt_append v rest hwalk]
      cases rest with
      | nil =>
        rw [List.append_nil] at hrest
        have heq : q = p := Path.ext_segments hrest.symm
        have hnot : q.isBelow p = false := by
          rw [Bool.eq_false_iff, ne_eq, Path.isBelow_iff]
          exact fun hb => hb.2 heq
        rw [hnot, if_neg Bool.false_ne_true, if_pos heq, heq]
        rw [contains_eq_isSome_contentAt] at hp
        obtain ⟨c, hc⟩ := Option.isSome_iff_exists.mp hp
        rw [hc]
        rfl
      | cons k ks =>
        rw [if_pos (Path.isBelow_of_segments hrest.symm)]
        exact Slot.content_find?_belowValue hv p hrest.symm (List.cons_ne_nil k ks)
    · have hnot : q.isBelow p = false := by
        rw [Bool.eq_false_iff, ne_eq, Path.isBelow_iff]
        exact fun hb => hlead hb.1
      have hqp : q ≠ p := fun heq => hlead (heq ▸ .refl _)
      rw [hnot, if_neg Bool.false_ne_true, if_neg hqp, h.content q hq]
      exact (Value.content_walk?_replaceAt v tree hlead).symm

end State

end LiveText
