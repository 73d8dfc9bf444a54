import Mathlib
import LiveText.Proofs.Session.Display
import LiveText.Proofs.Session.Mounting
import LiveText.Proofs.Template.Unresolved

/-!
# What becomes of bindings that are told

Bindings that are told of a change try to render one after the other, and each of them ends up with
what its own template comes to for the data as it is then. What comes of the others makes no
difference to it, nor does the order. A binding that is not told of a write could not have seen it.

## Main definitions

- `Session.Settled`: what telling bindings makes of them and of what is displayed.
- `Operation.rendered`: the bindings that an operation has rendered.

## Main statements

- `settled_renderBinding`, `settled_tellEach`: one rendering, and one after the other.
- `settled_operate`: writes and refreshes.
-/

namespace LiveText

/-- Renderings leave bindings at their nodes. -/
theorem map_node_conclude (bs : List Binding) (result : Binding → Except Fault String) :
    (bs.map fun b => b.conclude (result b)).map Binding.node = bs.map Binding.node := by
  rw [List.map_map]
  exact List.map_congr_left fun b _ => b.node_conclude (result b)

namespace Session

variable {w w' w'' : Session} {set : BindingSetId} {state : StateId} {collector : CollectorId}
  {tree : Value} {bs bs' : List Binding}

/-! ## Settling -/

/-- Bindings of a set have been told, when the data was a tree: each has come to what its template
shows for the tree, all others are as before, and nodes display the texts that have come out. -/
structure Settled (w w' : Session) (set : BindingSetId) (tree : Value) (bs : List Binding) :
    Prop where
  displays : Displays w w' tree bs
  bindings : w'.bindings set = (w.bindings set).map fun b =>
    if b.subscriber ∈ bs.map Binding.subscriber then b.conclude (b.template.shown tree) else b

theorem Settled.nil (w : Session) (set : BindingSetId) (tree : Value) :
    Settled w w set tree [] := by
  refine ⟨.refl w tree, ?_⟩
  simp only [List.map_nil, List.not_mem_nil, if_false, List.map_id']

/-- Only bindings and documents matter. -/
theorem Settled.of_parts {v v' : Session} (h : Settled w w' set tree bs)
    (hbefore : v.documents = w.documents ∧ v.bindingSets = w.bindingSets)
    (hafter : v'.documents = w'.documents ∧ v'.bindingSets = w'.bindingSets) :
    Settled v v' set tree bs := by
  refine ⟨h.displays.of_documents hbefore.1 hafter.1, ?_⟩
  rw [Session.bindings, Session.bindings, hbefore.2, hafter.2]
  exact h.bindings

theorem Settled.append (h : Settled w w' set tree bs) (h' : Settled w' w'' set tree bs')
    (hdisjoint : ∀ s ∈ bs.map Binding.subscriber, s ∉ bs'.map Binding.subscriber) :
    Settled w w'' set tree (bs ++ bs') := by
  refine ⟨h.displays.append h'.displays, ?_⟩
  rw [h'.bindings, h.bindings, List.map_map]
  refine List.map_congr_left fun b _ => ?_
  simp only [Function.comp_apply, List.map_append, List.mem_append]
  -- Whoever has been told before is not told once more.
  by_cases hb : b.subscriber ∈ bs.map Binding.subscriber
  · simp only [hb, if_true, true_or, Binding.subscriber_conclude, hdisjoint _ hb, if_false]
  · simp only [hb, if_false, false_or]

/-- Changing the binding at a place is changing the one with the subscriber. -/
theorem Wired.modify_eq_map (h : Wired w set state collector) {i : Nat} {b : Binding}
    (hb : w.binding? set i = some b) (f : Binding → Binding) :
    (w.bindings set).modify i f =
      (w.bindings set).map fun b' => if b'.subscriber = b.subscriber then f b' else b' := by
  apply List.ext_getElem?
  intro j
  rw [List.getElem?_modify, List.getElem?_map]
  cases hj : (w.bindings set)[j]? with
  | none => rfl
  | some b' =>
    by_cases hij : i = j
    · subst hij
      obtain rfl := Option.some.inj (hb.symm.trans hj)
      simp
    · have hne : b'.subscriber ≠ b.subscriber := fun hsame =>
        hij (h.place_unique hj hb hsame).symm
      simp [hij, hne]

/-- A binding that is rendered settles by itself. -/
theorem settled_renderBinding (h : Wired w set state collector)
    (hrep : (w.state state).Represents tree) {i : Nat} {b : Binding}
    (hb : w.binding? set i = some b) :
    Settled w (w.renderBinding set i).2 set tree [b] := by
  obtain ⟨hstate, hcollector, -⟩ := h.own i b hb
  obtain ⟨st, -, hrender⟩ := renderBinding_of_idle hb (hcollector ▸ h.idle) (hstate.symm ▸ hrep)
  rw [hrender]
  refine ⟨displays_afterReading w set i b st tree, ?_⟩
  rw [bindings_afterReading, if_pos rfl, h.modify_eq_map hb]
  refine List.map_congr_left fun b' hb' => ?_
  simp only [List.map_singleton, List.mem_singleton]
  split
  · next hsame =>
    obtain ⟨j, hj⟩ := mem_bindings_iff.mp hb'
    obtain rfl := h.place_unique hj hb hsame
    obtain rfl := Option.some.inj (hj.symm.trans hb)
    rfl
  · rfl

/-- Bindings that are told one after the other settle each by itself. -/
theorem settled_tellEach (depth : Nat) (h : Wired w set state collector)
    (hrep : (w.state state).Represents tree) (hbs : ∀ b ∈ bs, b ∈ w.bindings set)
    (hnodup : (bs.map Binding.subscriber).Nodup)
    (htells : tellEach (telling depth) (bs.map Binding.subscriber) w = (.returned (), w')) :
    Settled w w' set tree bs := by
  -- On those that are told. The first one settles while the others are kept alive, and they are
  -- still as they were when their turn comes.
  induction bs generalizing w with
  | nil =>
    obtain ⟨-, rfl⟩ := Prod.mk.inj htells
    exact .nil w set tree
  | cons b rest ih =>
    obtain ⟨i, hi⟩ := mem_bindings_iff.mp (hbs b (List.mem_cons_self ..))
    let holdings := (b.subscriber :: rest.map Binding.subscriber).map Holding.subscriber
    let next := ((w.hold holdings).renderBinding set i).2.holdAs w
    have hhold := h.hold holdings
    have htell := telling_of_binding depth (hhold.own i b hi).2.2
    rw [if_pos hhold.alive] at htell
    have htold : Told w next set state collector [b] := (told_renderBinding hhold hi).holding h
    have hsettled : Settled w next set tree [b] :=
      (settled_renderBinding hhold hrep hi).of_parts ⟨rfl, rfl⟩ ⟨rfl, rfl⟩
    have hreturned : (telling depth b.subscriber).holding holdings w = (.returned (), next) :=
      congrArg (fun r : Outcome Unit × Session => (r.1, r.2.holdAs w)) htell
    rw [List.map_cons, List.nodup_cons] at hnodup
    rw [List.map_cons, tellEach, Run.bind_returned hreturned] at htells
    have hrest : ∀ b' ∈ rest, b' ∈ next.bindings set := by
      intro b' hb'
      have hne : b'.subscriber ≠ b.subscriber := fun hsame =>
        hnodup.1 (hsame ▸ List.mem_map_of_mem hb')
      rw [hsettled.bindings, List.mem_map]
      exact ⟨b', hbs b' (List.mem_cons_of_mem _ hb'), by simp [hne]⟩
    have hlater := ih htold.wired (hrep.of_data_eq htold.data) hrest hnodup.2 htells
    apply hsettled.append hlater
    intro s hs
    rw [List.map_singleton, List.mem_singleton] at hs
    exact hs ▸ hnodup.1

/-- The bindings of a set, told by whether they are among those that have been told. -/
theorem Settled.bindings_eq (h : Settled w w' set tree bs) (hwired : Wired w set state collector)
    (hbs : ∀ b ∈ bs, b ∈ w.bindings set) :
    w'.bindings set = (w.bindings set).map fun b =>
      if b ∈ bs then b.conclude (b.template.shown tree) else b := by
  rw [h.bindings]
  refine List.map_congr_left fun b hb => ?_
  have hiff : b.subscriber ∈ bs.map Binding.subscriber ↔ b ∈ bs := by
    refine ⟨fun hmem => ?_, List.mem_map_of_mem⟩
    obtain ⟨b', hb', hsame⟩ := List.mem_map.mp hmem
    exact List.inj_on_of_nodup_map hwired.nodup_subscribers (hbs b' hb') hb hsame ▸ hb'
  simp only [hiff]

/-! ## Operations -/

/-- The bindings that an operation has rendered: those that depend on a property that is written,
and the one that is refreshed. -/
def Operation.rendered (c : Component) (w : Session) : Operation → List Binding
  | .write p _ =>
    if (w.state c.state).contains p then dependents (w.bindings c.bindings) p else []
  | .refresh i => (w.binding? c.bindings i).toList

theorem Operation.rendered_sublist (op : Operation) (c : Component) (w : Session) :
    (op.rendered c w).Sublist (w.bindings c.bindings) := by
  cases op with
  | write p v =>
    rw [rendered]
    split
    · exact List.filter_sublist
    · exact List.nil_sublist _
  | refresh i =>
    rw [rendered]
    cases hb : w.binding? c.bindings i with
    | none => exact List.nil_sublist _
    | some b => exact List.singleton_sublist.mpr (mem_bindings_iff.mpr ⟨i, hb⟩)

/-- A successful write of a property, by what it comes to when its readers are told. -/
theorem settled_write (depth : Nat) {p : Path} {v : Value} (h : Wired w set state collector)
    (hexact : Exact w set state) (hv : v.WellFormed) (hp : (w.state state).contains p = true)
    (hrep : (w.state state).Represents tree) :
    Settled w (write (telling depth) ⟨state, p⟩ v w).2 set (Value.replaceAt v p.segments tree)
      (dependents (w.bindings set) p) := by
  obtain ⟨w', hwrite, -, -⟩ := told_write depth h hexact hv hp
  have hwritten : ((w.written ⟨state, p⟩ v).state state).Represents
      (Value.replaceAt v p.segments tree) := by
    rw [state_written (h := ⟨state, p⟩) v hp]
    exact hrep.afterWrite w.isLive hv hp
  have hnodup : ((dependents (w.bindings set) p).map Binding.subscriber).Nodup :=
    h.nodup_subscribers.sublist (List.Sublist.map _ List.filter_sublist)
  rw [hwrite]
  rw [write_of_contains (telling depth) (h := ⟨state, p⟩) v hp, h.readers_isLive,
    hexact p hp] at hwrite
  -- Writing changes no binding and no document before the readers are told.
  obtain ⟨_, htells, -⟩ := Run.returned_of_bind_pure hwrite
  have hsettled := settled_tellEach depth (wired_written h hv hp) hwritten
    (fun b hb => (mem_dependents.mp hb).1) hnodup htells
  exact hsettled.of_parts ⟨rfl, rfl⟩ ⟨rfl, rfl⟩

/-- What an operation makes of the bindings of a component. The data is that after the operation,
and for a binding that is not rendered it makes no difference. -/
theorem settled_operate (depth : Nat) {c : Component} (h : Wired w c.bindings c.state c.collector)
    (hexact : Exact w c.bindings c.state) {op : Operation} (hop : op.WellFormed) :
    let next := operate (telling depth) c w op
    Settled w next c.bindings (next.state c.state).snapshot (op.rendered c w) ∧
      ∀ b ∈ w.bindings c.bindings, b ∉ op.rendered c w →
        b.template.shown (next.state c.state).snapshot =
          b.template.shown (w.state c.state).snapshot := by
  obtain ⟨tree, hrep⟩ := h.represents
  have hsnapshot := hrep.snapshot_eq
  intro next
  cases op with
  | write p v =>
    cases hp : (w.state c.state).contains p with
    | true =>
      have hsettled := settled_write depth h hexact hop hp hrep
      obtain ⟨w', hwrite, htold, -⟩ := told_write depth h hexact hop hp
      have hnext : (next.state c.state).Represents (Value.replaceAt v p.segments tree) := by
        have hwritten : ((w.written ⟨c.state, p⟩ v).state c.state).Represents
            (Value.replaceAt v p.segments tree) := by
          rw [state_written (h := ⟨c.state, p⟩) v hp]
          exact hrep.afterWrite w.isLive hop hp
        rw [show next = w' from congrArg Prod.snd hwrite]
        exact hwritten.of_data_eq htold.data
      rw [hnext.snapshot_eq, hsnapshot, Operation.rendered, if_pos hp]
      refine ⟨hsettled, fun b hb hnot => ?_⟩
      apply Template.shown_replaceAt
      intro q hq hlead
      exact hnot (mem_dependents.mpr ⟨hb, q, hq, hlead⟩)
    | false =>
      have hnext : next = w := congrArg Prod.snd
        (write_of_not_contains (telling depth) (h := ⟨c.state, p⟩) v hp)
      rw [hnext, Operation.rendered, hp]
      exact ⟨.nil w _ _, fun _ _ _ => rfl⟩
  | refresh i =>
    cases hb : w.binding? c.bindings i with
    | none =>
      have hnext : next = w := by
        simp only [next, operate, refresh, hb]
      rw [hnext, Operation.rendered, hb]
      exact ⟨.nil w _ _, fun _ _ _ => rfl⟩
    | some b =>
      have hnext : next = (w.renderBinding c.bindings i).2 := by
        simp only [next, operate, refresh, hb]
      have hdata := (told_renderBinding h hb).data
      rw [hnext, (hrep.of_data_eq hdata).snapshot_eq, hsnapshot, Operation.rendered, hb]
      exact ⟨settled_renderBinding h hrep hb, fun _ _ _ => rfl⟩

end Session

end LiveText
