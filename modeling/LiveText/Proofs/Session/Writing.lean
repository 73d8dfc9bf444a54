import Mathlib
import LiveText.Proofs.Session.Parts
import LiveText.Proofs.State.History
import LiveText.Session.Execution

/-!
# Writes in a session

A write to a property changes the state first and then tells the readers that the property had. A
write to anything else is a fault and touches nothing.

## Main definitions

- `Session.written`: the session in which the readers of a written property are told.

## Main statements

- `isAlive_of_requireTarget`, `isAlive_of_collectorHolding`: steps keep alive what is alive.
- `write_of_contains`, `write_of_not_contains`: what a write is.
- `telling_of_binding`: what telling the subscriber of a binding is.
- `state_refines_tree`: whatever has happened to a state, it cannot be told from the plain tree.
-/

namespace LiveText.Session

/-! ## What steps keep alive -/

/-- What a write keeps alive is alive already: it is known by name. -/
theorem isAlive_of_requireTarget {w : Session} {target : WriteTarget}
    {found : Except Fault PropertyHandle} {holdings : List Holding}
    (h : w.requireTarget target = .ok (found, holdings)) {set : BindingSetId}
    (hset : Holding.bindings set ∈ holdings) : w.isAlive set = true := by
  cases target with
  | component name key =>
    obtain ⟨c, hc, h⟩ := bind_eq_ok h
    cases h
    have hmem := Entries.mem_of_lookup (lookup_of_require hc)
    obtain rfl : set = c.bindings := by simpa using hset
    exact isAlive_iff.mpr (.inl ⟨_, hmem, rfl⟩)
  | _ =>
    obtain ⟨a, -, h⟩ := bind_eq_ok h
    cases h
    cases hset

theorem isAlive_of_collectorHolding {w : Session} {name : String} {set : BindingSetId}
    (hset : Holding.bindings set ∈ w.collectorHolding name) : w.isAlive set = true := by
  rw [collectorHolding] at hset
  split at hset
  · next c hc =>
    obtain rfl : set = c.bindings := by simpa using hset
    exact isAlive_iff.mpr (.inl ⟨_, Entries.mem_of_lookup hc, rfl⟩)
  · cases hset

/-- What a collection keeps alive besides its subscriber is alive already. -/
theorem isAlive_of_mem_collecting {w : Session} {s : SubscriberId} {name : String}
    {set : BindingSetId}
    (hset : Holding.bindings set ∈ Holding.subscriber s :: w.collectorHolding name) :
    w.isAlive set = true := by
  rcases List.mem_cons.mp hset with hset | hset
  · cases hset
  · exact isAlive_of_collectorHolding hset

/-- A write keeps no subscribers alive beforehand. -/
theorem subscriber_not_mem_of_requireTarget {w : Session} {target : WriteTarget}
    {found : Except Fault PropertyHandle} {holdings : List Holding} {s : SubscriberId}
    (h : w.requireTarget target = .ok (found, holdings)) : Holding.subscriber s ∉ holdings := by
  cases target with
  | component name key =>
    obtain ⟨c, hc, h⟩ := bind_eq_ok h
    cases h
    simp
  | _ =>
    obtain ⟨a, -, h⟩ := bind_eq_ok h
    cases h
    simp

theorem subscriber_not_mem_collectorHolding {w : Session} {name : String} {s : SubscriberId} :
    Holding.subscriber s ∉ w.collectorHolding name := by
  rw [collectorHolding]
  split <;> simp

/-- Whoever has a name lives. -/
theorem isLive_of_require {w : Session} {name : String} {s : SubscriberId}
    (h : require .subscriber w.names.subscribers name = .ok s) : w.isLive s = true :=
  isLive_iff.mpr (.inl ⟨_, Entries.mem_of_lookup (lookup_of_require h), rfl⟩)

/-- Only bindings that live can be reached by name. -/
theorem isAlive_of_requireBindings {w : Session} {app document : String} {set : BindingSetId}
    {d : DocumentId} (h : w.requireBindings app document = .ok (set, d)) :
    w.isAlive set = true := by
  rw [requireBindings] at h
  split at h
  · next c hc =>
    cases h
    exact isAlive_iff.mpr (.inl ⟨_, Entries.mem_of_lookup hc, rfl⟩)
  · obtain ⟨set', hset, h⟩ := bind_eq_ok h
    obtain ⟨d', -, h⟩ := bind_eq_ok h
    cases h
    have hmem := Entries.mem_of_lookup (lookup_of_require hset)
    exact isAlive_iff.mpr (.inr (.inl ⟨_, hmem, rfl⟩))

/-! ## Writes -/

/-- The session after the change of a write, before anybody is told of it. -/
def written (w : Session) (h : PropertyHandle) (v : Value) : Session :=
  (w.setState h.state ((w.state h.state).afterWrite w.isLive h.path v)).emit
    (.stateWritten h.path ((w.state h.state).publisherAt h.path |>.count w.isLive))

/-- A write to a property tells its readers, each of which sees the state as written. -/
theorem write_of_contains (telling : Telling) {w : Session} {h : PropertyHandle} (v : Value)
    (hthere : (w.state h.state).contains h.path = true) :
    write telling h v w =
      (do tellEach telling ((w.state h.state).readers w.isLive h.path); pure .done : Run Answer)
        (w.written h v) := by
  rw [write, State.assign?_of_contains w.isLive v hthere]
  rfl

/-- A write to what is not a property is a fault, tells nobody and changes nothing. -/
theorem write_of_not_contains (telling : Telling) {w : Session} {h : PropertyHandle} (v : Value)
    (hgone : (w.state h.state).contains h.path = false) :
    write telling h v w = (.returned (.fault (.unknownProperty h.path)), w) := by
  rw [write, (State.assign?_eq_none_iff w.isLive h.path v).mpr hgone]

/-- Whoever renders a binding when told does so at any depth, if the binding still lives. -/
theorem telling_of_binding (depth : Nat) {w : Session} {s : SubscriberId} {set : BindingSetId}
    {index : Nat}
    (hs : w.subscribers[s]?.map Subscriber.callback = some (.binding set index)) :
    telling depth s w =
      (.returned (), if w.isAlive set then (w.renderBinding set index).2 else w) := by
  cases depth with
  | zero =>
    simp only [telling, respond, hs]
    split <;> rfl
  | succ depth =>
    simp only [telling, respond, hs]
    split <;> rfl

/-- A write changes one state only. -/
theorem state_written_eq (w : Session) {h : PropertyHandle} (v : Value)
    (hthere : (w.state h.state).contains h.path = true) (i : StateId) :
    (w.written h v).state i =
      if h.state = i then (w.state i).afterWrite w.isLive h.path v else w.state i := by
  have hlt := lt_size_of_contains hthere
  show (w.setState h.state ((w.state h.state).afterWrite w.isLive h.path v)).state i = _
  rw [state_setState]
  by_cases hi : h.state = i
  · rw [if_pos ⟨hi, hlt⟩, if_pos hi, hi]
  · rw [if_neg fun hij => hi hij.1, if_neg hi]

theorem state_written {w : Session} {h : PropertyHandle} (v : Value)
    (hthere : (w.state h.state).contains h.path = true) :
    (w.written h v).state h.state = (w.state h.state).afterWrite w.isLive h.path v := by
  rw [state_written_eq w v hthere, if_pos rfl]

/-- However an object has been read, rendered from and written to since a state was made of it, the
state cannot be told from the plain tree that the successful writes have made: as a whole, path by
path, and in what writes in any session do to it. The session in which readers are told of a write
has the new tree already. -/
theorem state_refines_tree {entries : List (String × Value)} {history : List State.Event}
    (hdata : (Value.object entries).WellFormed) (hh : ∀ e ∈ history, e.WellFormed) :
    let st := (State.after (.object entries) history).state
    let tree := history.foldl State.Event.onTree (.object entries)
    st.snapshot = tree ∧
    (∀ q, st.valueAt? q = tree.walk? q.segments) ∧
    (∀ q, st.contains q = true ↔ q ≠ Path.root ∧ (tree.walk? q.segments).isSome = true) ∧
    ∀ (telling : Telling) (w : Session) (i : StateId) (q : Path) (v : Value), w.state i = st →
      (st.contains q = true → v.WellFormed → ∃ (told : Session) (ids : List SubscriberId),
        write telling ⟨i, q⟩ v w = (do tellEach telling ids; pure .done : Run Answer) told ∧
        (told.state i).snapshot = Value.replaceAt v q.segments tree ∧
        ∀ r, (told.state i).valueAt? r = (Value.replaceAt v q.segments tree).walk? r.segments) ∧
      (st.contains q = false →
        write telling ⟨i, q⟩ v w = (.returned (.fault (.unknownProperty q)), w)) := by
  have hrep := State.represents_after hdata hh
  refine ⟨hrep.snapshot_eq, hrep.valueAt?_eq, hrep.contains_iff, ?_⟩
  intro telling w i q v hw
  refine ⟨fun hthere hv => ?_, fun hgone => ?_⟩
  · have hthere' : (w.state i).contains q = true := hw ▸ hthere
    have hafter := hrep.afterWrite w.isLive hv hthere
    rw [← hw] at hafter
    refine ⟨_, _, write_of_contains telling (h := ⟨i, q⟩) v hthere', ?_⟩
    rw [state_written (h := ⟨i, q⟩) v hthere']
    exact ⟨hafter.snapshot_eq, hafter.valueAt?_eq⟩
  · exact write_of_not_contains telling (h := ⟨i, q⟩) v (hw ▸ hgone)

/-- A write below a key with a point in it, and one to a path that is not there. -/
theorem snapshot_after_writes :
    (State.after (.object [("", .null), ("a.b", .object [("c", .null)])])
      [.write ⟨["a.b", "c"]⟩ (.bool true), .write ⟨["a", "b", "c"]⟩ .null]).state.snapshot =
        .object [("", .null), ("a.b", .object [("c", .bool true)])] := by
  have hinner : (Value.object [("c", .null)]).WellFormed :=
    .object _ (by decide) (by simpa using .null)
  have hdata : (Value.object [("", .null), ("a.b", .object [("c", .null)])]).WellFormed :=
    .object _ (by decide) (by simpa using ⟨.null, hinner⟩)
  have hh : ∀ e ∈ [State.Event.write ⟨["a.b", "c"]⟩ (.bool true),
      .write ⟨["a", "b", "c"]⟩ .null], e.WellFormed := by
    intro e he
    simp only [List.mem_cons, List.not_mem_nil, or_false] at he
    rcases he with rfl | rfl
    · exact .bool true
    · exact .null
  exact (state_refines_tree hdata hh).1

end LiveText.Session
