import Mathlib
import LiveText.Proofs.State.History

/-!
# The order of properties

The properties of a new state stand in preorder. A write leaves the slot of its property where it
is, takes away what is below, and puts what the new value has there at the end; so the list drifts
away from preorder. What stays is that every property stands behind those above it, and that the
properties directly below an object stand in the order of its keys: a write replaces either all or
none of them.

## Main definitions

- `Value.pathsBelow`: the paths below a value, in preorder.
- `Path.childrenIn`: the paths directly below an object, in the order of its keys.
- `State.InOrder`: what stays.

## Main statements

- `filter_pathsBelow`: the paths directly below an object, among those of a value.
- `inOrder_observe`, `InOrder.afterWrite`: new states, and states that have been written to.
- `properties_are_in_order`: the order of properties after a history.
-/

namespace LiveText

/-- The paths directly below one at which there is an object, in the order of its keys. -/
def Path.childrenIn (q : Path) : Option SlotContent → List Path
  | some (.branch keys) => keys.map q.child
  | _ => []

/-! ## Preorder -/

namespace Value

mutual
/-- The paths strictly below a value at a path, each in front of those below it, and those directly
below in the order of keys. -/
def pathsBelow (p : Path) : Value → List Path
  | .object entries => pathsOf p entries
  | _ => []
termination_by structural v => v

/-- The paths of the entries of an object at a path, and those below. -/
def pathsOf (p : Path) : List (String × Value) → List Path
  | [] => []
  | (key, v) :: rest => p.child key :: (pathsBelow (p.child key) v ++ pathsOf p rest)
termination_by structural entries => entries
end

theorem pathsBelow_of_not_object {v : Value} (h : v.isObject = false) (p : Path) :
    v.pathsBelow p = [] := by
  cases v <;> first | rfl | simp [Value.isObject] at h

theorem pathsBelow_object (entries : List (String × Value)) (p : Path) :
    (object entries).pathsBelow p =
      entries.flatMap fun e => p.child e.1 :: e.2.pathsBelow (p.child e.1) := by
  rw [pathsBelow]
  induction entries with
  | nil => rfl
  | cons e rest ih =>
    obtain ⟨key, v⟩ := e
    rw [pathsOf, ih, List.flatMap_cons, List.cons_append]

/-- The slots of a value are in preorder. -/
theorem map_path_ofValue (v : Value) (p : Path) :
    (Slot.ofValue p v).map Slot.path = p :: v.pathsBelow p := by
  induction v using treeInduction generalizing p with
  | leaf v h => rw [Slot.ofValue_of_not_object h, pathsBelow_of_not_object h]; rfl
  | object entries ih =>
    rw [Slot.ofValue, List.map_cons, pathsBelow_object]
    congr 1
    induction entries with
    | nil => rfl
    | cons e rest ihrest =>
      obtain ⟨key, v⟩ := e
      rw [Slot.ofEntries, List.map_append, ih (key, v) (List.mem_cons_self ..),
        ihrest fun e he => ih e (List.mem_cons_of_mem _ he), List.flatMap_cons]

theorem map_path_belowValue (v : Value) (p : Path) :
    (Slot.belowValue p v).map Slot.path = v.pathsBelow p := by
  have h := v.map_path_ofValue p
  cases v with
  | object entries =>
    rw [Slot.ofValue, List.map_cons] at h
    exact (List.cons.inj h).2
  | _ => rfl

theorem isBelow_of_mem_pathsBelow {v : Value} {p q : Path} (h : q ∈ v.pathsBelow p) :
    q.isBelow p = true := by
  rw [← map_path_belowValue, List.mem_map] at h
  obtain ⟨s, hs, rfl⟩ := h
  exact Slot.isBelow_of_mem_belowValue hs

/-- In preorder no path stands in front of one above it. -/
theorem pairwise_pathsBelow {v : Value} (hv : v.WellFormed) (p : Path) :
    (v.pathsBelow p).Pairwise fun a b => a.isBelow b = false := by
  induction v using treeInduction generalizing p with
  | leaf v h =>
    rw [pathsBelow_of_not_object h]
    exact .nil
  | object entries ih =>
    cases hv with
    | object _ hk hx =>
      rw [pathsBelow_object, List.pairwise_flatMap]
      refine ⟨fun e he => ?inside, (List.pairwise_map.mp hk).imp fun {e e'} hne => ?across⟩
      case inside =>
        rw [List.pairwise_cons]
        refine ⟨fun b hb => ?_, ih e he (hx e he) _⟩
        exact Path.isBelow_asymm (isBelow_of_mem_pathsBelow hb)
      case across =>
        -- A path below one of another entry would have the keys of both.
        have hlead : ∀ (e : String × Value) (a : Path),
            a ∈ p.child e.1 :: e.2.pathsBelow (p.child e.1) → (p.child e.1).LeadsTo a := by
          intro e a ha
          rcases List.mem_cons.mp ha with rfl | ha
          · exact .refl _
          · exact (Path.isBelow_iff.mp (isBelow_of_mem_pathsBelow ha)).1
        intro a ha b hb
        rw [Bool.eq_false_iff, ne_eq, Path.isBelow_iff]
        rintro ⟨hba, -⟩
        exact hne (Path.key_eq_of_leadsTo (hlead e a ha) ((hlead e' b hb).trans hba))

/-- Not below a value, nothing is directly below. -/
theorem filter_pathsBelow_of_not_leadsTo (v : Value) {p q : Path} (h : ¬ p.LeadsTo q) :
    (v.pathsBelow p).filter (·.parent? = some q) = [] := by
  rw [List.filter_eq_nil_iff]
  intro r hr hparent
  obtain ⟨key, rfl⟩ := Path.parent?_eq_some_iff.mp (of_decide_eq_true hparent)
  exact h (Path.isBelow_child_iff.mp (isBelow_of_mem_pathsBelow hr))

/-- Among the paths of a value, those directly below an object are in the order of its keys. -/
theorem filter_pathsBelow {v : Value} (hv : v.WellFormed) {p q : Path} {keys : List String}
    (hq : q.segments = p.segments ++ keys) :
    (v.pathsBelow p).filter (·.parent? = some q) =
      q.childrenIn ((v.walk? keys).map SlotContent.ofValue) := by
  induction v using treeInduction generalizing p keys with
  | leaf v h =>
    rw [pathsBelow_of_not_object h]
    cases keys with
    | nil => cases v <;> first | rfl | cases h
    | cons key keys => cases v <;> first | rfl | cases h
  | object entries ih =>
    cases hv with
    | object _ hk hx =>
      rw [pathsBelow_object, List.filter_flatMap]
      cases keys with
      | nil =>
        -- Of each entry there is the path itself, and none of those below.
        obtain rfl : q = p := Path.ext_segments (by rw [hq, List.append_nil])
        have hentry : ∀ e ∈ entries, (q.child e.1 :: e.2.pathsBelow (q.child e.1)).filter
            (·.parent? = some q) = [q.child e.1] := by
          intro e _
          have hbehind : ¬ (q.child e.1).LeadsTo q := fun hlead =>
            absurd hlead.length_le (by simp)
          rw [List.filter_cons, if_pos (decide_eq_true (Path.parent?_child q e.1)),
            filter_pathsBelow_of_not_leadsTo e.2 hbehind]
        rw [List.flatMap_congr hentry, walk?_nil, Option.map_some, SlotContent.ofValue,
          Path.childrenIn, Entries.keys, List.map_map, List.map_eq_flatMap]
        rfl
      | cons key keys =>
        -- Only what is below the entry with the first key counts.
        have hq' : q.segments = (p.child key).segments ++ keys := by
          rw [hq, Path.segments_child, List.append_assoc, List.singleton_append]
        have hentry : ∀ e ∈ entries, (p.child e.1 :: e.2.pathsBelow (p.child e.1)).filter
            (·.parent? = some q) =
              if e.1 = key then q.childrenIn ((e.2.walk? keys).map SlotContent.ofValue)
              else [] := by
          intro e he
          have hparent : ¬ (p.child e.1).parent? = some q := by
            rw [Path.parent?_child, Option.some.injEq]
            rintro rfl
            exact absurd (congrArg List.length hq) (by simp)
          rw [List.filter_cons, if_neg (by simpa using hparent)]
          split
          · next hkey => exact ih e he (hx e he) (hkey ▸ hq')
          · next hkey =>
            refine filter_pathsBelow_of_not_leadsTo e.2 fun hlead => hkey ?_
            exact Path.key_eq_of_leadsTo hlead ⟨keys, hq'.symm⟩
        rw [List.flatMap_congr hentry,
          Entries.flatMap_of_key hk key fun x =>
            q.childrenIn ((x.walk? keys).map SlotContent.ofValue),
          walk?_cons, get?_object]
        cases entries.lookup key <;> rfl

end Value

namespace State

/-! ## Order -/

/-- The properties of a state for a tree are in order: each one stands behind those above it, and
those directly below an object stand in the order of its keys. -/
structure InOrder (st : State) (tree : Value) : Prop where
  pairwise : st.paths.Pairwise fun a b => a.isBelow b = false
  children : ∀ q, st.paths.filter (·.parent? = some q) =
    q.childrenIn ((tree.walk? q.segments).map SlotContent.ofValue)

variable {st : State} {tree : Value}

theorem paths_observe (v : Value) : (observe v).paths = (treeOf v).pathsBelow Path.root := by
  rw [paths, slots_observe, Value.map_path_belowValue]

theorem inOrder_observe {v : Value} (hv : v.WellFormed) : (observe v).InOrder (treeOf v) := by
  refine ⟨?_, fun q => ?_⟩
  · rw [paths_observe]
    exact Value.pairwise_pathsBelow (wellFormed_treeOf hv) _
  · rw [paths_observe]
    exact Value.filter_pathsBelow (wellFormed_treeOf hv) rfl

/-- A write takes what is below its property away, and puts what is below the new value at the
end. -/
theorem paths_afterWrite (live : Liveness) (st : State) (p : Path) (v : Value) :
    (st.afterWrite live p v).paths = st.paths.filter (!·.isBelow p) ++ v.pathsBelow p := by
  have hwritten : ∀ s : Slot, (if s.path = p then { s with content := .ofValue v } else s).path =
      s.path := by
    intro s
    split <;> rfl
  rw [paths, afterWrite, List.map_append, List.map_map, List.map_map, paths, List.filter_map,
    ← Value.map_path_belowValue]
  congr 1
  · exact List.map_congr_left fun s _ => hwritten s
  · exact List.map_congr_left fun s _ => path_carryOver ..

/-- A write replaces either all or none of the properties directly below an object. -/
theorem InOrder.afterWrite (h : st.InOrder tree) (live : Liveness) {p : Path} {v : Value}
    (hv : v.WellFormed) (hp : (tree.walk? p.segments).isSome = true) :
    (st.afterWrite live p v).InOrder (Value.replaceAt v p.segments tree) := by
  refine ⟨?pairwise, fun q => ?children⟩
  case pairwise =>
    rw [paths_afterWrite, List.pairwise_append]
    refine ⟨h.pairwise.filter _, Value.pairwise_pathsBelow hv p, fun a ha b hb => ?_⟩
    -- What has been kept does not lie below what lies below the property.
    rw [Bool.eq_false_iff, ne_eq]
    intro hab
    have hkept := (List.mem_filter.mp ha).2
    rw [Path.isBelow_of_leadsTo (Value.isBelow_of_mem_pathsBelow hb) (Path.isBelow_iff.mp hab).1]
      at hkept
    cases hkept
  case children =>
    rw [paths_afterWrite, List.filter_append, List.filter_filter]
    -- At the written property and below it all that is directly below is new; elsewhere all is old.
    by_cases hlead : p.LeadsTo q
    · obtain ⟨keys, hkeys⟩ := hlead
      have hkept : st.paths.filter (fun r => decide (r.parent? = some q) && !r.isBelow p) = [] := by
        refine List.filter_eq_nil_iff.mpr fun r _ hr => ?_
        rw [Bool.and_eq_true, decide_eq_true_eq, Bool.not_eq_true'] at hr
        obtain ⟨key, rfl⟩ := Path.parent?_eq_some_iff.mp hr.1
        rw [Path.isBelow_child_iff.mpr ⟨keys, hkeys⟩] at hr
        cases hr.2
      rw [hkept, List.nil_append, Value.filter_pathsBelow hv hkeys.symm, ← hkeys,
        Value.walk?_replaceAt_append v keys hp]
    · have hkept : st.paths.filter (fun r => decide (r.parent? = some q) && !r.isBelow p) =
          st.paths.filter (·.parent? = some q) := by
        refine List.filter_congr fun r _ => ?_
        by_cases hr : r.parent? = some q
        · obtain ⟨key, rfl⟩ := Path.parent?_eq_some_iff.mp hr
          rw [Bool.eq_false_iff.mpr (mt Path.isBelow_child_iff.mp hlead), Bool.not_false,
            Bool.and_true]
        · rw [decide_eq_false hr, Bool.false_and]
      rw [hkept, Value.filter_pathsBelow_of_not_leadsTo v hlead, List.append_nil, h.children,
        Value.content_walk?_replaceAt v tree hlead]

/-- Where properties stand is a matter of the data. -/
theorem InOrder.of_data_eq (h : st.InOrder tree) {st' : State} (hdata : st'.data = st.data) :
    st'.InOrder tree := by
  have hpaths : ∀ s : State, s.paths = s.data.2.map Prod.fst := fun s => by
    rw [paths, data, List.map_map]
    rfl
  have hsame : st'.paths = st.paths := by rw [hpaths, hdata, ← hpaths]
  exact ⟨hsame ▸ h.pairwise, fun q => hsame ▸ h.children q⟩

/-! ## What order comes to -/

theorem Represents.mem_paths (h : st.Represents tree) {q : Path} :
    q ∈ st.paths ↔ HasProperty tree q := by
  rw [← h.contains_iff_hasProperty]
  simp [contains, slot?, paths]

/-- The keys of an object are distinct, and so are the paths directly below it. -/
theorem nodup_childrenIn {v : Value} (hv : v.WellFormed) (q : Path) (keys : List String) :
    (q.childrenIn ((v.walk? keys).map SlotContent.ofValue)).Nodup := by
  have hchild : Function.Injective q.child := fun k k' hkk' => by
    simpa using congrArg Path.segments hkk'
  cases hx : v.walk? keys with
  | none => exact List.nodup_nil
  | some x =>
    cases hv.walk? hx with
    | object entries hk _ => exact hk.map hchild
    | _ => exact List.nodup_nil

/-- No property is listed twice: it is directly below one path only, and there it is listed once. -/
theorem InOrder.nodup_paths (h : st.InOrder tree) (hr : st.Represents tree) : st.paths.Nodup := by
  rw [List.nodup_iff_count_le_one]
  intro r
  by_cases hmem : r ∈ st.paths
  · cases hparent : r.parent? with
    | none =>
      have hroot : r = Path.root := by
        rw [Path.parent?] at hparent
        split at hparent
        · next hempty => exact Path.isRoot_iff.mp hempty
        · cases hparent
      exact absurd hroot (hr.mem_paths.mp hmem).1
    | some q =>
      have hcount : (st.paths.filter (·.parent? = some q)).count r = st.paths.count r :=
        List.count_filter (decide_eq_true hparent)
      rw [← hcount, h.children]
      exact List.nodup_iff_count_le_one.mp (nodup_childrenIn hr.wellFormed q _) r
  · rw [List.count_eq_zero_of_not_mem hmem]
    exact Nat.zero_le 1

/-- A property stands behind all properties that it lies below. -/
theorem InOrder.mem_before (h : st.InOrder tree) (hr : st.Represents tree) {q a : Path}
    {before behind : List Path} (hpaths : st.paths = before ++ q :: behind) (ha : a ≠ Path.root)
    (hbelow : q.isBelow a = true) : a ∈ before := by
  obtain ⟨hlead, hne⟩ := Path.isBelow_iff.mp hbelow
  have hq : HasProperty tree q := hr.mem_paths.mp (hpaths ▸ by simp)
  have hthere : a ∈ st.paths :=
    hr.mem_paths.mpr ⟨ha, Value.walk?_isSome_of_prefix hlead hq.2⟩
  rw [hpaths, List.mem_append, List.mem_cons] at hthere
  rcases hthere with hthere | rfl | hthere
  · exact hthere
  · exact absurd rfl hne
  · have hpairwise := h.pairwise
    rw [hpaths, List.pairwise_append, List.pairwise_cons] at hpairwise
    rw [hpairwise.2.1.1 a hthere] at hbelow
    cases hbelow

/-- The properties are the paths of the tree, in whatever order. -/
theorem InOrder.perm_pathsBelow (h : st.InOrder tree) (hr : st.Represents tree) :
    st.paths.Perm (tree.pathsBelow Path.root) := by
  have htree : treeOf tree = tree := by
    have hroots := hr.roots
    cases tree with
    | object entries => rfl
    | _ => cases hroots
  have hnew := represents_observe hr.wellFormed
  have hnewOrder := inOrder_observe hr.wellFormed
  have hpaths := paths_observe tree
  rw [htree] at hnew hnewOrder hpaths
  rw [← hpaths, List.perm_ext_iff_of_nodup (h.nodup_paths hr) (hnewOrder.nodup_paths hnew)]
  exact fun q => hr.mem_paths.trans hnew.mem_paths.symm

/-! ## Histories -/

variable {data : Value} {history : List Event}

/-- One event keeps the order. -/
theorem inOrder_next {m : Moment} (hr : m.state.Represents tree) (h : m.state.InOrder tree)
    {e : Event} (he : e.WellFormed) : (m.next e).state.InOrder (e.onTree tree) := by
  cases e with
  | read reader p => exact h.of_data_eq (data_readTracked m.live reader p m.state)
  | render reader t => exact h.of_data_eq (data_renderWith m.live reader t m.state)
  | write p v =>
    rw [m.next_write hr, Event.onTree]
    split
    · next hp => exact h.afterWrite m.live he hp.2
    · exact h
  | death s => exact h

theorem inOrder_after (hdata : data.WellFormed) (hh : ∀ e ∈ history, e.WellFormed) :
    (after data history).state.InOrder (treeAfter data history) := by
  induction history using List.reverseRecOn with
  | nil => exact inOrder_observe hdata
  | append_singleton history e ih =>
    have hbefore : ∀ x ∈ history, x.WellFormed := fun x hx => hh x (List.mem_append_left _ hx)
    rw [after_concat, treeAfter_concat]
    exact inOrder_next (represents_after hdata hbefore) (ih hbefore)
      (hh e (List.mem_append_right _ (List.mem_singleton_self e)))

/-- The order of properties after a history. The properties are the paths of the whole data, without
the root, each listed once and behind those above it; directly below an object, the data as a whole
included, they are in the order of its keys. A write to a property leaves all paths where they are
that do not lie below it, and those below the new value come behind them in preorder; a path that
names no property is not written to. -/
theorem properties_are_in_order (hdata : data.WellFormed) (hh : ∀ e ∈ history, e.WellFormed) :
    let m := after data history
    let tree := m.state.snapshot
    m.state.paths.Nodup ∧ (∀ q, q ∈ m.state.paths ↔ HasProperty tree q) ∧
    m.state.paths.Perm (tree.pathsBelow Path.root) ∧
    m.state.size = (tree.pathsBelow Path.root).length ∧
    (∀ before q behind, m.state.paths = before ++ q :: behind →
      ∀ a, a ≠ Path.root → q.isBelow a = true → a ∈ before) ∧
    (∀ q entries, tree.walk? q.segments = some (.object entries) →
      m.state.paths.filter (·.parent? = some q) = (Entries.keys entries).map q.child) ∧
    ∀ p v, if HasProperty tree p then
        (m.next (.write p v)).state.paths =
          m.state.paths.filter (!·.isBelow p) ++ v.pathsBelow p
      else (m.next (.write p v)).state = m.state := by
  intro m tree
  have hr : m.state.Represents tree := by
    have hafter := represents_after hdata hh
    rwa [← hafter.snapshot_eq] at hafter
  have h : m.state.InOrder tree := by
    have hafter := inOrder_after hdata hh
    rwa [← (represents_after hdata hh).snapshot_eq] at hafter
  have hperm := h.perm_pathsBelow hr
  refine ⟨h.nodup_paths hr, fun q => hr.mem_paths, hperm, ?size,
    fun before q behind hpaths a ha => h.mem_before hr hpaths ha, fun q entries hq => ?children,
    fun p v => ?write⟩
  case size =>
    rw [← hperm.length_eq, paths, List.length_map]
    rfl
  case children =>
    rw [h.children, hq]
    rfl
  case write =>
    rw [m.next_write hr]
    split
    · exact paths_afterWrite m.live m.state p v
    · rfl

/-- Data with an object in it. -/
def userData : Value :=
  .object [("user", .object [("name", .null)]), ("count", .bool true)]

/-- The object is replaced, then an object in it, and a path that leads nowhere is written to. -/
def userWrites : List Event :=
  [.write ⟨["user"]⟩ (.object [("zip", .object [("b", .null)]), ("city", .bool true)]),
    .read (some 7) ⟨["user", "zip"]⟩, .write ⟨["user", "zip"]⟩ (.object [("x", .null)]),
    .write ⟨["user", "name"]⟩ .null]

/-- Directly below the object there are the paths of its keys in order. After one more write all
that is below it stands at the end. -/
theorem properties_after_replacements :
    let m := after userData userWrites
    m.state.paths.filter (·.parent? = some ⟨["user"]⟩) = [⟨["user", "zip"]⟩, ⟨["user", "city"]⟩] ∧
      m.state.size = 5 ∧
      (m.next (.write ⟨["user"]⟩ (.object [("y", .object [("z", .null)])]))).state.paths =
        [⟨["user"]⟩, ⟨["count"]⟩, ⟨["user", "y"]⟩, ⟨["user", "y", "z"]⟩] := by
  have hnull : ∀ key, (Value.object [(key, .null)]).WellFormed := fun key =>
    .object _ (List.nodup_singleton key) (by simpa using .null)
  have hpair : ∀ key key' v, v.WellFormed → key ≠ key' →
      (Value.object [(key, v), (key', .bool true)]).WellFormed := fun key key' v hv hne =>
    .object _ (by simpa [Entries.keys] using hne) (by simpa using ⟨hv, .bool true⟩)
  have hdata : userData.WellFormed := hpair "user" "count" _ (hnull "name") (by decide)
  have hwrites : ∀ e ∈ userWrites, e.WellFormed := by
    intro e he
    simp only [userWrites, List.mem_cons, List.not_mem_nil, or_false] at he
    rcases he with rfl | rfl | rfl | rfl
    · exact hpair "zip" "city" _ (hnull "b") (by decide)
    · trivial
    · exact hnull "x"
    · exact .null
  obtain ⟨-, -, -, hsize, -, hchildren, hwrite⟩ := properties_are_in_order hdata hwrites
  have huser : (after userData userWrites).state.snapshot.walk? ["user"] =
      some (.object [("zip", .object [("x", .null)]), ("city", .bool true)]) := by
    rfl
  have hlast := hwrite ⟨["user"]⟩ (.object [("y", .object [("z", .null)])])
  rw [if_pos (by decide +kernel)] at hlast
  exact ⟨hchildren ⟨["user"]⟩ _ huser, hsize.trans (by decide +kernel),
    hlast.trans (by decide +kernel)⟩

end State

end LiveText
