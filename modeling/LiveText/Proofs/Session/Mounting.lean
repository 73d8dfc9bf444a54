import Mathlib
import LiveText.Proofs.Component.Data
import LiveText.Proofs.Session.Compilation
import LiveText.Proofs.Session.Dependents
import LiveText.Session.Editing

/-!
# Mounting

A component that has just been made has a state and a collector to itself, and the subscribers of
each property of the state are its dependents. Writes to the state and refreshes of bindings leave
it at that.

## Main definitions

- `Session.Operation`: writes and refreshes.

## Main statements

- `exact_mountAs`: a new component is exact.
- `dependents_are_told`: after any operations, the next write has exactly the dependents of the
  property rendered once, in order.
-/

namespace LiveText.Session

variable {w w' : Session} {set : BindingSetId} {state : StateId} {collector : CollectorId}

/-! ## Texts -/

theorem wired_withBinding (h : Wired w set state collector) {b : Binding} (hstate : b.state = state)
    (hcollector : b.collector = collector) (hsubscriber : b.subscriber = w.subscribers.size) :
    Wired (w.withBinding set b) set state collector where
  listed := by
    rw [withBinding, addBinding, Array.size_modify]
    exact h.listed
  made := h.made
  alive := h.alive
  idle := h.idle
  own i b' hb' := by
    rw [binding?, bindings_withBinding h.listed] at hb'
    rcases Nat.lt_trichotomy i (w.bindings set).length with hi | rfl | hi
    · rw [List.getElem?_append_left hi] at hb'
      obtain ⟨hstate', hcollector', hcallback⟩ := h.own i b' hb'
      exact ⟨hstate', hcollector', callback_newSubscriber hcallback _⟩
    · rw [List.getElem?_concat_length, Option.some.injEq] at hb'
      subst hb'
      refine ⟨hstate, hcollector, ?_⟩
      rw [hsubscriber]
      exact callback_newSubscriber_self w _
    · rw [List.getElem?_eq_none (by rw [List.length_append, List.length_singleton]; omega)] at hb'
      cases hb'
  represents := h.represents
  orderly := h.orderly
  readers_own q s hs := by
    obtain ⟨b₀, hb₀, hs₀⟩ := h.readers_own q s hs
    rw [bindings_withBinding h.listed]
    exact ⟨b₀, List.mem_append_left _ hb₀, hs₀⟩

/-- What binding texts leaves: an exact set, whose new nodes are among the texts in their order. -/
structure Bound (w w' : Session) (set : BindingSetId) (state : StateId) (collector : CollectorId)
    (nodes : List NodeId) : Prop where
  names : w'.names = w.names
  wired : Wired w' set state collector
  exact : Exact w' set state
  inOrder : ∃ bound, bound.Sublist nodes ∧
    (w'.bindings set).map Binding.node = (w.bindings set).map Binding.node ++ bound

theorem bound_bindText (h : Wired w set state collector) (hexact : Exact w set state)
    (document : DocumentId) (node : NodeId) :
    ∃ w', bindText set document state collector node w = (.ok (), w') ∧
      Bound w w' set state collector [node] := by
  cases hparse : Template.parse ((w.document document).text node) with
  | none =>
    refine ⟨w, by rw [bindText, hparse], rfl, h, hexact, [], List.nil_sublist _, ?_⟩
    rw [List.append_nil]
  | some template =>
    let b : Binding :=
      { document, node, template, state, collector, subscriber := w.subscribers.size }
    have hwired := wired_withBinding h (b := b) rfl rfl rfl
    have hbindings := bindings_withBinding h.listed b
    have hb : (w.withBinding set b).binding? set (w.bindings set).length = some b := by
      rw [binding?, hbindings, List.getElem?_concat_length]
    -- The new binding is told for the first time, and so arrives behind those that are there.
    have htold := told_renderBinding hwired hb
    obtain ⟨tree, hrep⟩ := hwired.represents
    obtain ⟨st, -, hrender⟩ := renderBinding_of_idle hb hwired.idle hrep
    refine ⟨_, ?_, htold.names, htold.wired, ?exact, [node], List.Sublist.refl _, ?inOrder⟩
    · rw [bindText_of_template hparse, hrender]
    case exact =>
      intro q hq
      rw [htold.contains_eq] at hq
      rw [htold.readers q hq, map_dependents_of_wiring Binding.subscriber (fun _ => rfl)
        htold.wiring_eq, hbindings, dependents_append, List.map_append]
      rw [show (w.withBinding set b).state state = w.state state from rfl, hexact q hq]
      -- The readers that have been there are the old dependents; the new one is none of them.
      apply foldl_arrive_of_nodup
      rw [← List.map_append, ← dependents_append, ← hbindings]
      exact hwired.nodup_subscribers.sublist (List.Sublist.map _ List.filter_sublist)
    case inOrder =>
      have hnodes := congrArg (List.map Binding.node) htold.wiring_eq
      rw [List.map_map, List.map_map, hbindings, List.map_append] at hnodes
      exact hnodes

theorem bound_bindTexts (h : Wired w set state collector) (hexact : Exact w set state)
    (document : DocumentId) (nodes : List NodeId) :
    ∃ w', bindTexts set document state collector nodes w = (.ok (), w') ∧
      Bound w w' set state collector nodes := by
  -- On the texts: each leaves an exact set, with its own binding last if it has one.
  induction nodes generalizing w with
  | nil => exact ⟨w, rfl, rfl, h, hexact, [], .slnil, by rw [List.append_nil]⟩
  | cons node rest ih =>
    obtain ⟨w₁, hfirst, hbound₁⟩ := bound_bindText h hexact document node
    obtain ⟨w₂, hrest, hbound₂⟩ := ih hbound₁.wired hbound₁.exact
    obtain ⟨bound₁, hsub₁, hnodes₁⟩ := hbound₁.inOrder
    obtain ⟨bound₂, hsub₂, hnodes₂⟩ := hbound₂.inOrder
    refine ⟨w₂, by rw [bindTexts, hfirst]; exact hrest, hbound₂.names.trans hbound₁.names,
      hbound₂.wired, hbound₂.exact, bound₁ ++ bound₂, ?_, ?_⟩
    · exact hsub₁.append hsub₂
    · rw [hnodes₂, hnodes₁, List.append_assoc]

/-! ## Compilations -/

/-- A compilation with a state that nobody has read and a collector that is not busy. As long as
the new set is kept alive, it is exact. -/
theorem compile_of_unread (w : Session) (document : DocumentId) (node : NodeId) (state : StateId)
    (collector : CollectorId) (hdocument : document < w.documents.size)
    (hmade : state < w.states.size) (hidle : (w.collector collector).active = none)
    (hrep : ∃ tree, (w.state state).Represents tree)
    (hnobody : ∀ q, (w.state state).publisherAt q = {}) :
    ∃ w', w.compile document node state collector = (.ok w.bindingSets.size, w') ∧
      w'.names = w.names ∧
      Wired (w'.hold [.bindings w.bindingSets.size]) w.bindingSets.size state collector ∧
      Exact w' w.bindingSets.size state ∧
      ((w'.bindings w.bindingSets.size).map Binding.node).Sublist
        (textsBelow (w.document document) node) := by
  let set := w.bindingSets.size
  let opened := (w.opened document node).hold [.bindings set]
  -- The new set has no bindings and the state no readers: that is exact.
  have hbindings : opened.bindings set = [] :=
    (bindings_opened w document node set).trans (bindings_of_size_le (Nat.le_refl _))
  have hstate : opened.state state = w.state state :=
    state_congr (states_opened w document node) state
  have hreaders : ∀ q, (opened.state state).readers everyone q = [] := by
    intro q
    rw [State.readers, hstate, hnobody]
    rfl
  have hwired : Wired opened set state collector := by
    refine ⟨?listed, hmade, ?alive, ?idle, ?own, hstate.symm ▸ hrep, ?orderly, ?readers_own⟩
    case listed =>
      exact (Nat.lt_succ_self _).trans_eq (size_bindingSets_opened w document node).symm
    case alive => simp [isAlive, opened, hold]
    case idle =>
      have hcollector : opened.collector collector = w.collector collector :=
        collector_congr (collectors_opened w document node) collector
      rw [hcollector, hidle]
    case own =>
      intro i b hb
      rw [binding?, hbindings] at hb
      cases hb
    case orderly =>
      intro q
      rw [hstate, hnobody]
      exact List.nodup_nil
    case readers_own =>
      intro q s hs
      rw [hreaders] at hs
      cases hs
  have hexact : Exact opened set state := by
    intro q _
    rw [hbindings]
    exact hreaders q
  obtain ⟨after, hbind, hbound⟩ :=
    bound_bindTexts hwired hexact document (textsBelow (w.document document) node)
  obtain ⟨bound, hsub, hnodes⟩ := hbound.inOrder
  rw [hbindings, List.map_nil, List.nil_append] at hnodes
  have hcompile := compile_eq w document node state collector
  rw [outerTexts_opened hdocument, hbind] at hcompile
  refine ⟨_, hcompile, hbound.names, ?wired, hbound.exact, hnodes ▸ hsub⟩
  case wired =>
    exact { hbound.wired with alive := by simp [isAlive, hold] }

/-! ## Components -/

/-- A set that is kept alive while it is made is kept alive by a component of it with a name. -/
theorem Wired.mounted {name : String} {c : Component} (hc : c.bindings = set)
    (h : Wired (w.hold [.bindings set]) set state collector)
    {labelled : Array Subscriber} {states : Entries StateId} {proxies : Entries Proxy}
    (hlabelled : ∀ s : SubscriberId,
      labelled[s]?.map Subscriber.callback = w.subscribers[s]?.map Subscriber.callback) :
    Wired { w with
      subscribers := labelled
      names := { w.names with
        components := w.names.components.insert name c, states, proxies } } set state collector :=
  { h with
    alive := by
      have hany : (w.names.components.insert name c).any (fun e => e.2.bindings == set) = true :=
        List.any_eq_true.mpr ⟨(name, c), Entries.mem_insert .., by simp [hc]⟩
      simp only [isAlive, hany, Bool.true_or]
    own := by
      intro i b hb
      rw [hlabelled]
      exact h.own i b hb }

/-- A component that has been made gets names, and its subscribers labels. -/
theorem snd_mountAs {document : DocumentId} {options : Options} {c : Component}
    (hmount : w.mount document options = (.ok c, w')) (name : String) :
    ∃ labelled : Array Subscriber,
      (w.mountAs name document options).2 = { w' with
        subscribers := labelled
        names := { w'.names with
          components := w'.names.components.insert name c
          states := w'.names.states.insert name c.state
          proxies := w'.names.proxies.insert name c.proxy } } ∧
      ∀ s : SubscriberId,
        labelled[s]?.map Subscriber.callback = w'.subscribers[s]?.map Subscriber.callback := by
  obtain ⟨labelled, hlabelled, hcallbacks⟩ := labelBindings_eq w' name c.bindings
  refine ⟨labelled, ?_, hcallbacks⟩
  rw [mountAs, hmount]
  dsimp only
  rw [hlabelled]
  rfl

/-- A new component is exact, and its bindings are in document order. -/
theorem exact_mountAs {document : DocumentId} {options : Options} {c : Component}
    (hdata : options.data.WellFormed) (hmount : w.mount document options = (.ok c, w'))
    (name : String) :
    Wired (w.mountAs name document options).2 c.bindings c.state c.collector ∧
      Exact (w.mountAs name document options).2 c.bindings c.state ∧
      (((w.mountAs name document options).2.bindings c.bindings).map Binding.node).Sublist
        (textsBelow (w.document document) c.el) := by
  obtain ⟨w₁, event, hdocument, hcompiled, rfl, -, hstate, hcollector, -⟩ :=
    compile_of_mount hmount
  -- The state is new, so nobody has read it, and the collector is new and not busy.
  have hstate' : (w.begun options).state c.state = State.observe options.data :=
    hstate ▸ state_begun w options
  have hmade : c.state < (w.begun options).states.size := by
    rw [states_begun, Array.size_push, hstate]
    exact Nat.lt_succ_self _
  have hidle : ((w.begun options).collector c.collector).active = none := by
    rw [hcollector, collector_begun]
  obtain ⟨w₂, hcompile, hnames, hwired, hexact, hsub⟩ :=
    compile_of_unread (w.begun options) document c.el c.state c.collector
      (documents_begun w options ▸ hdocument) hmade hidle
      ⟨_, hstate' ▸ State.represents_observe hdata⟩
      (fun q => by rw [hstate', State.publisherAt_observe])
  obtain ⟨hset, rfl⟩ := Prod.mk.inj (hcompiled.symm.trans hcompile)
  rw [← Except.ok.inj hset] at hwired hexact hsub
  rw [document_congr (documents_begun w options)] at hsub
  -- What the making of a component tells at the end is no part of what is wired.
  have htold : Wired ((w₁.emit event).hold [.bindings c.bindings]) c.bindings c.state
      c.collector := { hwired with }
  obtain ⟨labelled, hstart, hcallbacks⟩ := snd_mountAs hmount name
  rw [hstart]
  exact ⟨Wired.mounted (w := w₁.emit event) rfl htold hcallbacks, hexact, hsub⟩

/-! ## Operations -/

/-- What is done with a component: writes to its state, and refreshes of its bindings. -/
inductive Operation where
  | write (path : Path) (value : Value)
  | refresh (index : Nat)

/-- No written value holds a key twice. -/
def Operation.WellFormed : Operation → Prop
  | .write _ v => v.WellFormed
  | .refresh _ => True

/-- The session after an operation. -/
def operate (telling : Telling) (c : Component) (w : Session) : Operation → Session
  | .write path v => (write telling ⟨c.state, path⟩ v w).2
  | .refresh index =>
    match w.refresh c.bindings index with
    | .ok (_, w) => w
    | .error _ => w

/-- What operations on a component leave: an exact set of the same bindings. -/
structure Operated (w w' : Session) (c : Component) : Prop where
  wired : Wired w' c.bindings c.state c.collector
  exact : Exact w' c.bindings c.state
  wiring : (w'.bindings c.bindings).map Binding.wiring =
    (w.bindings c.bindings).map Binding.wiring

theorem operated_operate (depth : Nat) {c : Component} (h : Wired w c.bindings c.state c.collector)
    (hexact : Exact w c.bindings c.state) {op : Operation} (hop : op.WellFormed) :
    Operated w (operate (telling depth) c w op) c := by
  cases op with
  | write p v =>
    cases hp : (w.state c.state).contains p with
    | true =>
      obtain ⟨w', hwrite, htold, hexact'⟩ := told_write depth h hexact hop hp
      rw [operate, hwrite]
      exact ⟨htold.wired, hexact', htold.wiring_eq⟩
    | false =>
      rw [operate, write_of_not_contains (telling depth) (h := ⟨c.state, p⟩) v hp]
      exact ⟨h, hexact, rfl⟩
  | refresh i =>
    rw [operate, refresh]
    cases hb : w.binding? c.bindings i with
    | none => exact ⟨h, hexact, rfl⟩
    | some b =>
      have htold := told_renderBinding h hb
      refine ⟨htold.wired, htold.exact hexact ?_, htold.wiring_eq⟩
      intro b' hb'
      rw [List.mem_singleton] at hb'
      exact ⟨b, mem_bindings_iff.mpr ⟨i, hb⟩, hb' ▸ rfl⟩

theorem operated_foldl (depth : Nat) {c : Component} (h : Wired w c.bindings c.state c.collector)
    (hexact : Exact w c.bindings c.state) {ops : List Operation}
    (hops : ∀ op ∈ ops, op.WellFormed) :
    Operated w (ops.foldl (operate (telling depth) c) w) c := by
  -- On the operations, each of which leaves an exact set for the next one.
  induction ops generalizing w with
  | nil => exact ⟨h, hexact, rfl⟩
  | cons op rest ih =>
    have hfirst := operated_operate depth h hexact (hops op (List.mem_cons_self ..))
    have hrest := ih hfirst.wired hfirst.exact fun x hx => hops x (List.mem_cons_of_mem _ hx)
    exact ⟨hrest.wired, hrest.exact, hrest.wiring.trans hfirst.wiring⟩

/-- Each binding is told once if it depends on the property, and otherwise not at all. -/
theorem count_dependents (h : Wired w set state collector) (p : Path) {b : Binding}
    (hb : b ∈ w.bindings set) :
    ((dependents (w.bindings set) p).map Binding.subscriber).count b.subscriber =
      if b.DependsOn p then 1 else 0 := by
  have hnodup : ((dependents (w.bindings set) p).map Binding.subscriber).Nodup :=
    h.nodup_subscribers.sublist (List.Sublist.map _ List.filter_sublist)
  split
  · next hdep =>
    apply List.count_eq_one_of_mem hnodup
    exact List.mem_map_of_mem (mem_dependents.mpr ⟨hb, hdep⟩)
  · next hdep =>
    -- Two bindings with one subscriber are the same.
    refine List.count_eq_zero_of_not_mem fun hmem => hdep ?_
    obtain ⟨b', hb', hsame⟩ := List.mem_map.mp hmem
    obtain ⟨hmem', hdep'⟩ := mem_dependents.mp hb'
    exact List.inj_on_of_nodup_map h.nodup_subscribers hmem' hb hsame ▸ hdep'

/-- Dependency exactness: whatever has been written and refreshed since a component was made, the
live subscribers of each property are the bindings with a path at it or below it, once each and in
document order. A write to a property has exactly these tried once each, in that order, and a write
to anything else is a fault that has none tried. -/
theorem dependents_are_told (depth : Nat) {document : DocumentId} {options : Options}
    {c : Component} (hdata : options.data.WellFormed)
    (hmount : w.mount document options = (.ok c, w')) (name : String) {ops : List Operation}
    (hops : ∀ op ∈ ops, op.WellFormed) :
    let now := ops.foldl (operate (telling depth) c) (w.mountAs name document options).2
    (∀ p, (now.state c.state).contains p = true →
      (now.state c.state).readers now.isLive p =
        (dependents (now.bindings c.bindings) p).map Binding.subscriber ∧
      ((now.state c.state).readers now.isLive p).Nodup) ∧
    ((now.bindings c.bindings).map Binding.node).Sublist
      (textsBelow (w.document document) c.el) ∧
    ∀ p v, v.WellFormed →
      ((now.state c.state).contains p = true → ∃ next,
        write (telling depth) ⟨c.state, p⟩ v now = (.returned .done, next) ∧
        (next.bindings c.bindings).map (fun b => (b.wiring, b.attempts)) =
          (now.bindings c.bindings).map (fun b =>
            (b.wiring, b.attempts + if b.DependsOn p then 1 else 0)) ∧
        (∀ set, set ≠ c.bindings → next.bindings set = now.bindings set) ∧
        next.trace.filterMap TraceEvent.triedNode? =
          now.trace.filterMap TraceEvent.triedNode? ++
            (dependents (now.bindings c.bindings) p).map Binding.node) ∧
      ((now.state c.state).contains p = false →
        write (telling depth) ⟨c.state, p⟩ v now =
          (.returned (.fault (.unknownProperty p)), now)) := by
  obtain ⟨hwired₀, hexact₀, hnodes₀⟩ := exact_mountAs hdata hmount name
  obtain ⟨hwired, hexact, hwiring⟩ := operated_foldl depth hwired₀ hexact₀ hops
  intro now
  refine ⟨fun p hp => ?readers, ?inOrder, fun p v hv => ⟨fun hp => ?write, fun hp => ?fault⟩⟩
  case readers =>
    rw [hwired.readers_isLive]
    refine ⟨hexact p hp, ?_⟩
    rw [hexact p hp]
    exact hwired.nodup_subscribers.sublist (List.Sublist.map _ List.filter_sublist)
  case inOrder =>
    have hnodes := congrArg (List.map Binding.node) hwiring
    rw [List.map_map, List.map_map] at hnodes
    exact (show (now.bindings c.bindings).map Binding.node = _ from hnodes) ▸ hnodes₀
  case write =>
    obtain ⟨next, hwrite, htold, -⟩ := told_write depth hwired hexact hv hp
    refine ⟨next, hwrite, ?_, htold.others, ?_⟩
    · rw [htold.tried]
      apply List.map_congr_left
      intro b hb
      rw [count_dependents hwired p hb]
    · rw [htold.inOrder]
      refine congrArg (· ++ _) ?_
      exact (List.filterMap_append ..).trans (List.append_nil _)
  case fault => exact write_of_not_contains (telling depth) (h := ⟨c.state, p⟩) v hp

/-- A component whose only template cannot be rendered until a write has put an object in place of
a leaf. -/
theorem readers_after_growth :
    let page : Document := ⟨#[{ data := .fragment, children := [1] },
      { data := .element "p" [], parent := some 0, children := [2] },
      { data := .text "\x7b\x7ba.b\x7d\x7d", parent := some 1 }]⟩
    let w : Session := { documents := #[{ document := page }] }
    let options : Options := ⟨"p", .object [("a", .null)]⟩
    ∃ c w', w.mount 0 options = (.ok c, w') ∧
      let now := [Operation.write ⟨["a"]⟩ (.object [("b", .null)])].foldl
        (operate (telling 0) c) (w.mountAs "app" 0 options).2
      (now.state c.state).contains ⟨["a", "b"]⟩ = true ∧
      (now.state c.state).readers now.isLive ⟨["a", "b"]⟩ =
        (dependents (now.bindings c.bindings) ⟨["a", "b"]⟩).map Binding.subscriber ∧
      (dependents (now.bindings c.bindings) ⟨["a", "b"]⟩).length = 1 := by
  intro page w options
  have hall : (match w.mount 0 options with
      | (.ok c, _) =>
        let now := [Operation.write ⟨["a"]⟩ (.object [("b", .null)])].foldl
          (operate (telling 0) c) (w.mountAs "app" 0 options).2
        (now.state c.state).contains ⟨["a", "b"]⟩ &&
          (dependents (now.bindings c.bindings) ⟨["a", "b"]⟩).length == 1
      | (.error _, _) => false) = true := by decide +kernel
  have hinner : ∀ key, (Value.object [(key, .null)]).WellFormed :=
    fun key => .object _ (List.nodup_singleton key) (by simpa using .null)
  have hops : ∀ op ∈ [Operation.write ⟨["a"]⟩ (.object [("b", .null)])], op.WellFormed :=
    fun op hop => List.mem_singleton.mp hop ▸ hinner "b"
  cases hmount : w.mount 0 options with
  | mk result w' =>
    rw [hmount] at hall
    cases result with
    | error fault => cases hall
    | ok c =>
      simp only [Bool.and_eq_true, beq_iff_eq] at hall
      have htold := dependents_are_told 0 (hinner "a") hmount "app" hops
      exact ⟨c, w', rfl, hall.1, (htold.1 _ hall.1).1, hall.2⟩

end LiveText.Session
