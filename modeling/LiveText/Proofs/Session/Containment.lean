import Mathlib
import LiveText.Proofs.Session.BoundTexts
import LiveText.Proofs.Session.Outcomes

/-!
# Faults that stay where they are

A binding whose template cannot be rendered keeps its fault and its text to itself. After each write
and each refresh, the record of a binding tells whether its own template comes out for the data as
it is, and if it does not, why; the node shows what has come out last.

## Main definitions

- `Binding.InStep`: the record of a binding and its text agree with an outcome.
- `Session.InStep`: all bindings of a component do, for the data as it is.
- `Session.TriedOnce`: all bindings of a component have tried to render once.
- `Session.LastShown`: a text that a binding has shown last, over a run of operations.

## Main statements

- `triedOnce_mountAs`: what has become of the bindings of a new component.
- `TriedOnce.inStep`, `inStep_operate`: a new component is in step, and operations keep it so.
- `lastShown_succ`: what has been shown last is followed through an operation.
- `failures_are_contained`: what faults do, and what they do not.
-/

namespace LiveText

/-- The record of a binding and the text of its node agree with an outcome of its template. -/
def Binding.InStep (b : Binding) (text : String) : Except Fault String → Prop
  | .ok shown => b.lastFault = none ∧ text = shown
  | .error fault => b.lastFault = some fault

/-- A rendering brings a binding in step with what has come of it. -/
theorem Binding.inStep_conclude (b : Binding) (before : String) (result : Except Fault String) :
    (b.conclude result).InStep (result.toOption.getD before) result := by
  cases result with
  | ok text => exact ⟨rfl, rfl⟩
  | error fault => rfl

namespace Session

variable {w w' : Session} {c : Component} {depth : Nat}

/-! ## In step -/

/-- All bindings of a component are in step with the data as it is. Each has a text node to
itself. -/
structure InStep (w : Session) (c : Component) : Prop where
  sole : ((w.bindings c.bindings).map Binding.node).Nodup
  document : ∀ b ∈ w.bindings c.bindings, b.document = c.document
  text : ∀ b ∈ w.bindings c.bindings,
    (w.document c.document).data b.node = .text ((w.document c.document).text b.node)
  inStep : ∀ b ∈ w.bindings c.bindings, b.InStep ((w.document c.document).text b.node)
    (b.template.shown (w.state c.state).snapshot)

/-- The text of a binding after some bindings of the component have been told. -/
theorem InStep.data_of_settled {tree : Value} {bs : List Binding} (h : InStep w c)
    (hsettled : Settled w w' c.bindings tree bs) (hbs : bs.Sublist (w.bindings c.bindings))
    {b : Binding} (hb : b ∈ w.bindings c.bindings) :
    (w'.document c.document).data b.node = .text
      (if b ∈ bs then (b.template.shown tree).toOption.getD ((w.document c.document).text b.node)
        else (w.document c.document).text b.node) := by
  have htext := h.text b hb
  split
  · next hmem =>
    have hnodes : (bs.map Binding.node).Nodup := h.sole.sublist (hbs.map Binding.node)
    rw [← h.document b hb] at htext ⊢
    exact hsettled.displays.data_of_sole hmem hnodes htext
  · next hmem =>
    -- Whoever has been told has another node.
    rw [← htext]
    apply hsettled.displays.data_of_ne
    rintro b' hb' ⟨-, hsame⟩
    exact hmem (List.inj_on_of_nodup_map h.sole (hbs.subset hb') hb hsame ▸ hb')

/-- An operation keeps a component in step. -/
theorem inStep_operate (hwired : Wired w c.bindings c.state c.collector)
    (hexact : Exact w c.bindings c.state) (h : InStep w c) {op : Operation}
    (hop : op.WellFormed) : InStep (operate (telling depth) c w op) c := by
  obtain ⟨hsettled, hsame⟩ := settled_operate depth hwired hexact hop
  have hbs := op.rendered_sublist c w
  have hbindings := hsettled.bindings_eq hwired hbs.subset
  -- Each binding is an old one at its node, which has been told or not.
  refine ⟨?sole, ?document, ?text, ?inStep⟩
  case sole =>
    rw [hbindings, List.map_map]
    refine (List.map_congr_left fun b _ => ?_) ▸ h.sole
    simp only [Function.comp_apply, apply_ite Binding.node, Binding.node_conclude, ite_self]
  all_goals
    intro b' hb'
    rw [hbindings, List.mem_map] at hb'
    obtain ⟨b, hb, rfl⟩ := hb'
    have hdata := h.data_of_settled hsettled hbs hb
  case document =>
    rw [apply_ite Binding.document, Binding.document_conclude, ite_self]
    exact h.document b hb
  case text =>
    rw [apply_ite Binding.node, Binding.node_conclude, ite_self, hdata, Document.text_of_data hdata]
  case inStep =>
    rw [apply_ite Binding.node, Binding.node_conclude, ite_self, Document.text_of_data hdata]
    by_cases htold : b ∈ op.rendered c w
    · simp only [htold, if_true, Binding.template_conclude]
      exact b.inStep_conclude _ _
    · simp only [htold, if_false]
      rw [hsame b hb htold]
      exact h.inStep b hb

/-! ## New components -/

/-- The bindings of a component have tried to render once each, for a tree, and each node shows what
has come out or else the text that has been there. -/
structure TriedOnce (w : Session) (c : Component) (tree : Value) (bs : List Binding) : Prop where
  snapshot : (w.state c.state).snapshot = tree
  bindings : w.bindings c.bindings = bs.map fun b => b.conclude (b.template.shown tree)
  sole : (bs.map Binding.node).Nodup
  document : ∀ b ∈ bs, b.document = c.document
  untried : ∀ b ∈ bs, b.renders = 0
  data : ∀ b ∈ bs, (w.document c.document).data b.node =
    .text ((b.template.shown tree).toOption.getD b.template.source)

namespace TriedOnce

variable {tree : Value} {bs : List Binding}

theorem text (h : TriedOnce w c tree bs) {b : Binding} (hb : b ∈ bs) :
    (w.document c.document).text b.node = (b.template.shown tree).toOption.getD b.template.source :=
  Document.text_of_data (h.data b hb)

/-- Each binding is one of those that have tried. -/
theorem exists_of_mem (h : TriedOnce w c tree bs) {b : Binding} (hb : b ∈ w.bindings c.bindings) :
    ∃ b₀ ∈ bs, b = b₀.conclude (b₀.template.shown tree) := by
  rw [h.bindings, List.mem_map] at hb
  obtain ⟨b₀, hb₀, rfl⟩ := hb
  exact ⟨b₀, hb₀, rfl⟩

theorem inStep (h : TriedOnce w c tree bs) : InStep w c := by
  refine ⟨?sole, fun b hb => ?document, fun b hb => ?text, fun b hb => ?inStep⟩
  case sole =>
    rw [h.bindings, map_node_conclude]
    exact h.sole
  case document =>
    obtain ⟨b₀, hb₀, rfl⟩ := h.exists_of_mem hb
    rw [Binding.document_conclude, h.document b₀ hb₀]
  case text =>
    obtain ⟨b₀, hb₀, rfl⟩ := h.exists_of_mem hb
    rw [Binding.node_conclude, h.text hb₀, h.data b₀ hb₀]
  case inStep =>
    obtain ⟨b₀, hb₀, rfl⟩ := h.exists_of_mem hb
    rw [Binding.node_conclude, h.snapshot, Binding.template_conclude, h.text hb₀]
    exact b₀.inStep_conclude _ _

/-- What a node shows is either what has come out or what has been there before. -/
theorem shown (h : TriedOnce w c tree bs) {b : Binding} (hb : b ∈ w.bindings c.bindings) :
    b.renders = 0 ∧ (w.document c.document).text b.node = b.template.source ∨
      0 < b.renders ∧ b.template.shown (w.state c.state).snapshot =
        .ok ((w.document c.document).text b.node) := by
  obtain ⟨b₀, hb₀, rfl⟩ := h.exists_of_mem hb
  rw [Binding.node_conclude, h.snapshot, Binding.template_conclude, h.text hb₀]
  cases hresult : b₀.template.shown tree with
  | ok text => exact .inr ⟨Nat.succ_pos _, rfl⟩
  | error fault => exact .inl ⟨h.untried b₀ hb₀, rfl⟩

end TriedOnce

/-- Mounting a component has its bindings try once, if each has a node to itself. -/
theorem triedOnce_mountAs {document : DocumentId} {options : Options}
    (hdata : options.data.WellFormed) (hmount : w.mount document options = (.ok c, w'))
    (hsole : ((w'.bindings c.bindings).map Binding.node).Nodup) (name : String) :
    ∃ bs, TriedOnce (w.mountAs name document options).2 c (State.treeOf options.data) bs := by
  obtain ⟨labelled, hstart, -⟩ := snd_mountAs hmount name
  obtain ⟨w₁, event, hdocument, hcompiled, rfl, rfl, hstate, hcollector, -⟩ :=
    compile_of_mount hmount
  have hstate' : (w.begun options).state c.state = State.observe options.data :=
    hstate ▸ state_begun w options
  have hidle : ((w.begun options).collector c.collector).active = none := by
    rw [hcollector, collector_begun]
  have hpage : c.document < (w.begun options).documents.size :=
    documents_begun w options ▸ hdocument
  obtain ⟨_, after, bs, hcompile, hdocuments₁, hstates₁, -, hbindings, hbound, -, hparsed⟩ :=
    compile_of_idle hpage hidle (hstate' ▸ State.represents_observe hdata) c.el
  obtain ⟨hset, rfl⟩ := Prod.mk.inj (hcompiled.symm.trans hcompile)
  rw [← Except.ok.inj hset] at hbound hbindings
  have hmounted : (w₁.emit event).bindings c.bindings =
      bs.map fun b => b.conclude (b.template.shown (State.treeOf options.data)) := hbindings
  have hnodes : (bs.map Binding.node).Nodup := by
    rwa [hmounted, map_node_conclude] at hsole
  -- Names and labels are no part of what is looked at.
  have hdocuments : (w.mountAs name c.document options).2.documents =
      ((w.begun options).closed after c.document c.el).documents := by
    rw [hstart]
    exact hdocuments₁
  have hstates : (w.mountAs name c.document options).2.states = after.states := by
    rw [hstart]
    exact hstates₁
  refine ⟨bs, ?snapshot, ?bindings, hnodes, fun b hb => (hbound.made b hb).1,
    fun b hb => (hbound.made b hb).2.2.2, fun b hb => ?data⟩
  case snapshot => rw [state_congr hstates, hbound.represents.snapshot_eq]
  case bindings =>
    rw [hstart]
    exact hmounted
  case data =>
    -- What the node shows has been set by its own binding, or is what it has been bound with.
    have hparse := hparsed hnodes b hb
    have hplace := (hbound.made b hb).1
    have hbefore := Document.data_of_text_ne (Template.ne_empty_of_parse hparse)
    have hdisplayed := hbound.displays.data_of_sole hb hnodes (by
      rw [hplace]
      exact hbefore)
    rw [hplace, ← Template.source_of_parse hparse] at hdisplayed
    rw [document_congr hdocuments,
      document_closed (hbound.displays.size.trans (size_documents_opened _ c.document c.el)) hpage]
    exact Document.keepsTexts_moveChildren _ _ _ _ _ hdisplayed

/-! ## What has been shown last -/

/-- How often the binding at a place has been rendered successfully. -/
def rendersAt (w : Session) (set : BindingSetId) (index : Nat) : Nat :=
  ((w.binding? set index).map Binding.renders).getD 0

/-- A text is what the binding at a place has shown last, as things stand at the last of several
moments: its template came to it at the moment at which the successful renderings reached their
number; if there have been none, it is the text that the template has been made of. -/
def LastShown (moments : Nat → Session) (n : Nat) (c : Component) (index : Nat) (b : Binding)
    (text : String) : Prop :=
  (b.renders = 0 ∧ text = b.template.source) ∨
  0 < b.renders ∧ ∃ k ≤ n,
    b.template.shown ((moments k).state c.state).snapshot = .ok text ∧
    rendersAt (moments k) c.bindings index = b.renders ∧
    ∀ j < k, rendersAt (moments j) c.bindings index < b.renders

variable {moments : Nat → Session} {n index : Nat} {b b' : Binding} {text : String}

/-- Where nothing has been rendered successfully, the text is still the one shown last. -/
theorem LastShown.stays (h : LastShown moments n c index b text) (hrenders : b'.renders = b.renders)
    (htemplate : b'.template = b.template) : LastShown moments (n + 1) c index b' text := by
  rw [LastShown, hrenders, htemplate]
  rcases h with h | ⟨hpos, k, hk, h⟩
  · exact .inl h
  · exact .inr ⟨hpos, k, Nat.le_succ_of_le hk, h⟩

/-- What has been shown last, after a moment at which the binding has been rendered or not. -/
theorem lastShown_succ (h : LastShown moments n c index b text)
    (hcount : ∀ j ≤ n, rendersAt (moments j) c.bindings index ≤ b.renders)
    {told : Prop} [Decidable told]
    (hb' : (moments (n + 1)).binding? c.bindings index = some b')
    (heq : b' = if told then
      b.conclude (b.template.shown ((moments (n + 1)).state c.state).snapshot) else b) :
    LastShown moments (n + 1) c index b'
        (if told then
          (b.template.shown ((moments (n + 1)).state c.state).snapshot).toOption.getD text
        else text) ∧
      ∀ j ≤ n + 1, rendersAt (moments j) c.bindings index ≤ b'.renders := by
  have hnow : rendersAt (moments (n + 1)) c.bindings index = b'.renders := by
    rw [rendersAt, hb']
    rfl
  have hless : b.renders ≤ b'.renders →
      ∀ j ≤ n + 1, rendersAt (moments j) c.bindings index ≤ b'.renders := by
    intro hle j hj
    rcases Nat.le_succ_iff.mp hj with hj | rfl
    · exact (hcount j hj).trans hle
    · exact hnow.le
  by_cases htold : told
  · simp only [htold, if_true] at heq ⊢
    cases hresult : b.template.shown ((moments (n + 1)).state c.state).snapshot with
    | ok shown =>
      -- The count has just grown, so this is the moment at which it got there.
      rw [hresult] at heq
      have hrenders : b'.renders = b.renders + 1 := congrArg Binding.renders heq
      refine ⟨.inr ⟨hrenders ▸ Nat.succ_pos _, n + 1, le_rfl, ?_, hnow, ?_⟩, hless (by omega)⟩
      · rw [show b'.template = b.template from heq ▸ rfl]
        exact hresult
      · intro j hj
        have hj' := hcount j (Nat.le_of_lt_succ hj)
        omega
    | error fault =>
      rw [hresult] at heq
      have hrenders : b'.renders = b.renders := heq ▸ rfl
      exact ⟨h.stays hrenders (heq ▸ rfl), hless hrenders.ge⟩
  · simp only [htold, if_false] at heq ⊢
    have hrenders : b'.renders = b.renders := congrArg Binding.renders heq
    exact ⟨h.stays hrenders (congrArg Binding.template heq), hless hrenders.ge⟩

/-! ## Runs of operations -/

/-- What a run of operations leaves: a component in step, whose bindings show what they have shown
last. -/
structure Followed (moments : Nat → Session) (n : Nat) (c : Component) : Prop where
  operated : Operated (moments 0) (moments n) c
  inStep : InStep (moments n) c
  lastShown : ∀ i b, (moments n).binding? c.bindings i = some b →
    LastShown moments n c i b (((moments n).document c.document).text b.node) ∧
    ∀ j ≤ n, rendersAt (moments j) c.bindings i ≤ b.renders

/-- One more operation. -/
theorem Followed.succ (h : Followed moments n c) {op : Operation} (hop : op.WellFormed)
    (hnext : moments (n + 1) = operate (telling depth) c (moments n) op) :
    Followed moments (n + 1) c := by
  have hwired := h.operated.wired
  have hexact := h.operated.exact
  have hoperated := operated_operate depth hwired hexact hop
  obtain ⟨hsettled, -⟩ := settled_operate depth hwired hexact hop
  have hbs := op.rendered_sublist c (moments n)
  have hbindings := hsettled.bindings_eq hwired hbs.subset
  rw [← hnext] at hoperated hsettled hbindings
  refine ⟨⟨hoperated.wired, hoperated.exact, hoperated.wiring.trans h.operated.wiring⟩,
    hnext ▸ inStep_operate hwired hexact h.inStep hop, fun i b' hb' => ?_⟩
  -- The binding at the place is the old one, told or not.
  have hplace := hb'
  rw [binding?, hbindings, List.getElem?_map] at hplace
  obtain ⟨b, hb, heq⟩ := Option.map_eq_some_iff.mp hplace
  obtain ⟨hlast, hcount⟩ := h.lastShown i b hb
  have hdata := h.inStep.data_of_settled hsettled hbs (mem_bindings_iff.mpr ⟨i, hb⟩)
  have hnode : b'.node = b.node := by
    rw [← heq, apply_ite Binding.node, Binding.node_conclude, ite_self]
  rw [hnode, Document.text_of_data hdata]
  exact lastShown_succ hlast hcount hb' heq.symm

/-- The sessions after the first so many of some operations on a component. -/
def afterOperations (depth : Nat) (c : Component) (start : Session) (ops : List Operation)
    (n : Nat) : Session :=
  (ops.take n).foldl (operate (telling depth) c) start

/-- A component that has just been made has tried to render each of its bindings once. -/
theorem followed_zero {start : Session} (hzero : moments 0 = start)
    (hwired : Wired start c.bindings c.state c.collector) (hexact : Exact start c.bindings c.state)
    {tree : Value} {bs : List Binding} (htried : TriedOnce start c tree bs) :
    Followed moments 0 c := by
  subst hzero
  refine ⟨⟨hwired, hexact, rfl⟩, htried.inStep, fun i b hb => ?_⟩
  have hnow : rendersAt (moments 0) c.bindings i = b.renders := by
    rw [rendersAt, hb]
    rfl
  refine ⟨?_, fun j hj => Nat.le_zero.mp hj ▸ hnow.le⟩
  rcases htried.shown (mem_bindings_iff.mpr ⟨i, hb⟩) with h | ⟨hpos, hshown⟩
  · exact .inl h
  · exact .inr ⟨hpos, 0, le_rfl, hshown, hnow, fun j hj => absurd hj (Nat.not_lt_zero j)⟩

theorem followed_afterOperations {start : Session} {ops : List Operation}
    (hops : ∀ op ∈ ops, op.WellFormed)
    (hzero : Followed (afterOperations depth c start ops) 0 c) {n : Nat} (hn : n ≤ ops.length) :
    Followed (afterOperations depth c start ops) n c := by
  -- On the number of operations.
  induction n with
  | zero => exact hzero
  | succ n ih =>
    have hlt : n < ops.length := hn
    apply Followed.succ (ih hlt.le) (hops _ (List.getElem_mem hlt))
    rw [afterOperations, afterOperations, List.take_succ_eq_append_getElem hlt, List.foldl_append]
    rfl

/-! ## Containment -/

/-- Containment of faults. Whatever has been written and refreshed since a component was made, whose
bindings have a node each: a binding whose template comes out has no fault and shows what comes
out. Any other has the fault of its first placeholder that leads nowhere, with the first key that is
missing there, and its node shows what has been shown last, or what the template has been made of.
An operation has some bindings rendered, each of which comes to what its own template shows for the
new data, whatever becomes of the others; and a binding that could not be rendered is among them if
its template comes out for the new data. -/
theorem failures_are_contained (depth : Nat) {document : DocumentId} {options : Options}
    (hdata : options.data.WellFormed) (hmount : w.mount document options = (.ok c, w'))
    (hsole : ((w'.bindings c.bindings).map Binding.node).Nodup) (name : String)
    {ops : List Operation} (hops : ∀ op ∈ ops, op.WellFormed) :
    let after := afterOperations depth c (w.mountAs name document options).2 ops
    let now := after ops.length
    let tree := (now.state c.state).snapshot
    (∀ i b, now.binding? c.bindings i = some b →
      let text := (now.document c.document).text b.node
      (b.template.unresolved? tree = none →
        b.lastFault = none ∧ b.template.shown tree = .ok text) ∧
      (∀ path, b.template.unresolved? tree = some path → ∃ before key behind,
        path.segments = before ++ key :: behind ∧ (tree.walk? before).isSome = true ∧
        tree.walk? (before ++ [key]) = none ∧ b.lastFault = some (.missingDataPath path key)) ∧
      LastShown after ops.length c i b text) ∧
    ∀ op, op.WellFormed →
      let next := operate (telling depth) c now op
      let tree' := (next.state c.state).snapshot
      ∀ i b, now.binding? c.bindings i = some b →
        let text := (now.document c.document).text b.node
        next.binding? c.bindings i =
          some (if b ∈ op.rendered c now then b.conclude (b.template.shown tree') else b) ∧
        (next.document c.document).text b.node =
          (if b ∈ op.rendered c now then (b.template.shown tree').toOption.getD text else text) ∧
        (b.lastFault ≠ none → ∀ shown, b.template.shown tree' = .ok shown →
          next.binding? c.bindings i = some b.succeed ∧
          (next.document c.document).text b.node = shown) := by
  intro after now tree
  obtain ⟨hwired₀, hexact₀, -⟩ := exact_mountAs hdata hmount name
  obtain ⟨bs, htried⟩ := triedOnce_mountAs hdata hmount hsole name
  have hfollowed : Followed after ops.length c :=
    followed_afterOperations hops (followed_zero rfl hwired₀ hexact₀ htried) le_rfl
  have hwired := hfollowed.operated.wired
  refine ⟨fun i b hb => ?record, ?operation⟩
  case record =>
    have hinStep := hfollowed.inStep.inStep b (mem_bindings_iff.mpr ⟨i, hb⟩)
    refine ⟨fun hnone => ?_, fun path hpath => ?_, (hfollowed.lastShown i b hb).1⟩
    · obtain ⟨shown, hshown⟩ := Template.exists_shown_of_unresolved?_eq_none hnone
      rw [hshown] at hinStep
      exact ⟨hinStep.1, hinStep.2 ▸ hshown⟩
    · obtain ⟨key, hkey, hshown⟩ := Template.shown_of_unresolved? hpath
      rw [hshown] at hinStep
      obtain ⟨before, behind, hsegments, hbefore, hmissing⟩ := Value.absent?_eq_some_iff.mp hkey
      exact ⟨before, key, behind, hsegments, hbefore, hmissing, hinStep⟩
  case operation =>
    intro op hop next tree' i b hb text
    have hmem := mem_bindings_iff.mpr ⟨i, hb⟩
    obtain ⟨hsettled, hsame⟩ := settled_operate depth hwired hfollowed.operated.exact hop
    have hbs := op.rendered_sublist c now
    have hplace : next.binding? c.bindings i =
        some (if b ∈ op.rendered c now then b.conclude (b.template.shown tree') else b) := by
      rw [binding?, hsettled.bindings_eq hwired hbs.subset, List.getElem?_map,
        show (now.bindings c.bindings)[i]? = some b from hb]
      rfl
    have htext := Document.text_of_data (hfollowed.inStep.data_of_settled hsettled hbs hmem)
    refine ⟨hplace, htext, fun hfault shown hshown => ?_⟩
    -- A binding that is not rendered would come to the same as before, which was a fault.
    have htold : b ∈ op.rendered c now := by
      by_contra hnot
      have hinStep := hfollowed.inStep.inStep b hmem
      rw [← hsame b hmem hnot, hshown] at hinStep
      exact hfault hinStep.1
    rw [if_pos htold, hshown] at hplace htext
    exact ⟨hplace, htext⟩

/-- A text that has come out once and cannot be rendered any more keeps what it has shown. -/
theorem text_after_loss :
    let page : Document := ⟨#[{ data := .fragment, children := [1] },
      { data := .element "p" [], parent := some 0, children := [2, 3] },
      { data := .text "\x7b\x7ba.b\x7d\x7d", parent := some 1 },
      { data := .text "\x7b\x7ba\x7d\x7d", parent := some 1 }]⟩
    let w : Session := { documents := #[{ document := page }] }
    let options : Options := ⟨"p", .object [("a", .object [("b", .bool true)])]⟩
    ∃ c w', w.mount 0 options = (.ok c, w') ∧
      let after := afterOperations 0 c (w.mountAs "app" 0 options).2 [.write ⟨["a"]⟩ .null]
      ∃ b key, (after 1).binding? c.bindings 0 = some b ∧
        b.lastFault = some (.missingDataPath ⟨["a", "b"]⟩ key) ∧
        LastShown after 1 c 0 b "true" := by
  intro page w options
  have hall : (match w.mount 0 options with
      | (.ok c, w') =>
        let now := afterOperations 0 c (w.mountAs "app" 0 options).2 [.write ⟨["a"]⟩ .null] 1
        decide ((w'.bindings c.bindings).map Binding.node).Nodup &&
          (now.binding? c.bindings 0).any fun b =>
            (b.template.unresolved? (now.state c.state).snapshot == some ⟨["a", "b"]⟩) &&
              (now.document c.document).text b.node == "true"
      | (.error _, _) => false) = true := by decide +kernel
  have hinner : (Value.object [("b", .bool true)]).WellFormed :=
    .object _ (List.nodup_singleton _) (by simpa using .bool true)
  have hdata : options.data.WellFormed :=
    .object _ (List.nodup_singleton _) (by simpa using hinner)
  have hops : ∀ op ∈ [Operation.write ⟨["a"]⟩ .null], op.WellFormed :=
    fun op hop => List.mem_singleton.mp hop ▸ .null
  cases hmount : w.mount 0 options with
  | mk result w' =>
    rw [hmount] at hall
    cases result with
    | error fault => cases hall
    | ok c =>
      simp only [Bool.and_eq_true, decide_eq_true_eq, Option.any_eq_true, beq_iff_eq] at hall
      obtain ⟨hsole, b, hb, hpath, htext⟩ := hall
      have hcontained := failures_are_contained 0 hdata hmount hsole "app" hops
      obtain ⟨-, hfault, hlast⟩ := hcontained.1 0 b hb
      obtain ⟨before, key, behind, -, -, -, hkey⟩ := hfault _ hpath
      exact ⟨c, w', rfl, b, key, hb, hkey, htext ▸ hlast⟩

end Session

end LiveText
