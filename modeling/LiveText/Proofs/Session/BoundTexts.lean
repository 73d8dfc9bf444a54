import Mathlib
import LiveText.Proofs.Session.Compilation
import LiveText.Proofs.Session.Display

/-!
# Texts that are bound

What a compilation makes of the texts that it meets, whoever else reads the state: each text with a
placeholder gets one binding, which is rendered at once. The collector must not be busy. A rendering
that fails is the fault of its binding alone, and the next text has its turn.

## Main definitions

- `NodeData.bound`: what a node holds that has been bound to a tree.
- `Session.BoundTo`: a session in which texts have got bindings.

## Main statements

- `exists_binding_iff_of_texts`: which nodes have bindings.
- `boundTo_bindText`, `boundTo_bindTexts`: one text, and texts one after the other.
- `BoundTo.data`: what the nodes hold afterwards.
- `compile_of_idle`: a compilation as a whole.
-/

namespace LiveText

/-! ## Nodes -/

/-- What a node holds after it has been bound to a tree: a text with placeholders gives way to what
the template comes to, unless that is a fault. -/
def NodeData.bound (tree : Value) : NodeData → NodeData
  | .text s => .text (((Template.parse s).bind fun t => (t.shown tree).toOption).getD s)
  | data => data

theorem NodeData.bound_of_parse {tree : Value} {s : String} {t : Template}
    (h : Template.parse s = some t) :
    (NodeData.text s).bound tree = .text ((t.shown tree).toOption.getD s) := by
  rw [bound, h, Option.bind_some]

theorem NodeData.bound_of_not_parse {tree : Value} {data : NodeData}
    (h : ∀ s, data = .text s → Template.parse s = none) : data.bound tree = data := by
  cases data with
  | text s => rw [bound, h s rfl, Option.bind_none, Option.getD_none]
  | element tag attributes => rfl
  | fragment => rfl

/-! ## Bindings and their texts -/

section Texts

variable {bs : List Binding} {nodes : List NodeId} {parse : NodeId → Option Template}

/-- Firsts that come of a list have the order of the list. -/
theorem sublist_map_fst_filterMap {α β : Type} (g : α → Option β) (xs : List α) :
    ((xs.filterMap fun x => (g x).map (x, ·)).map Prod.fst).Sublist xs := by
  induction xs with
  | nil => exact .slnil
  | cons x rest ih =>
    rw [List.filterMap_cons]
    cases g x with
    | none => exact ih.cons x
    | some y => exact ih.cons_cons x

/-- If the bindings are those of some texts, no node comes twice unless one does among the texts. -/
theorem nodup_nodes_of_texts
    (h : bs.map (fun b => (b.node, b.template)) = nodes.filterMap fun k => (parse k).map (k, ·))
    (hnodup : nodes.Nodup) : (bs.map Binding.node).Nodup := by
  have hfirsts := congrArg (List.map Prod.fst) h
  rw [List.map_map] at hfirsts
  have hsub := sublist_map_fst_filterMap parse nodes
  rw [← hfirsts] at hsub
  exact hsub.nodup hnodup

/-- A node has a binding exactly if it is among the texts and its own one is a template. -/
theorem exists_binding_iff_of_texts
    (h : bs.map (fun b => (b.node, b.template)) = nodes.filterMap fun k => (parse k).map (k, ·))
    (k : NodeId) (t : Template) :
    (∃ b ∈ bs, b.node = k ∧ b.template = t) ↔ k ∈ nodes ∧ parse k = some t := by
  have hpair : (k, t) ∈ bs.map (fun b => (b.node, b.template)) ↔
      (k, t) ∈ nodes.filterMap fun k => (parse k).map (k, ·) := by
    rw [h]
  simp only [List.mem_map, List.mem_filterMap, Option.map_eq_some_iff, Prod.mk.injEq] at hpair
  rw [hpair]
  constructor
  · rintro ⟨k', hk', t', ht', rfl, rfl⟩
    exact ⟨hk', ht'⟩
  · rintro ⟨hk, ht⟩
    exact ⟨k, hk, t, ht, rfl, rfl⟩

end Texts

namespace Session

variable {w w' : Session} {set : BindingSetId} {document : DocumentId} {state : StateId}
  {collector : CollectorId} {tree : Value}

/-- Changing the last of a list. -/
theorem modify_length_concat {α : Type} (xs : List α) (x : α) (f : α → α) :
    (xs ++ [x]).modify xs.length f = xs ++ [f x] := by
  induction xs with
  | nil => rfl
  | cons y ys ih =>
    rw [List.cons_append, List.length_cons, List.modify_succ_cons, ih]
    rfl

/-- New bindings have been added to a set and rendered for a tree, which the state stands for. The
bindings are given as they were before. -/
structure BoundTo (w w' : Session) (set : BindingSetId) (document : DocumentId) (state : StateId)
    (collector : CollectorId) (tree : Value) (bs : List Binding) : Prop where
  displays : Displays w w' tree bs
  bindings : w'.bindings set = w.bindings set ++ bs.map fun b => b.conclude (b.template.shown tree)
  sets : w'.bindingSets.size = w.bindingSets.size
  collectors : w'.collectors = w.collectors
  represents : (w'.state state).Represents tree
  states : ∀ i, i ≠ state → w'.state i = w.state i
  made : ∀ b ∈ bs, b.document = document ∧ b.state = state ∧ b.collector = collector ∧
    b.renders = 0

/-- A text with a placeholder is bound and rendered; any other is passed over. -/
theorem boundTo_bindText (hset : set < w.bindingSets.size)
    (hidle : (w.collector collector).active = none) (hrep : (w.state state).Represents tree)
    (document : DocumentId) (node : NodeId) :
    ∃ w' bs, bindText set document state collector node w = (.ok (), w') ∧
      BoundTo w w' set document state collector tree bs ∧
      bs.map (fun b => (b.node, b.template)) = [node].filterMap fun k =>
        (Template.parse ((w.document document).text k)).map (k, ·) := by
  cases hparse : Template.parse ((w.document document).text node) with
  | none =>
    refine ⟨w, [], by rw [bindText, hparse], ?_, by simp [hparse]⟩
    refine ⟨.refl w tree, ?_, rfl, rfl, hrep, fun _ _ => rfl, fun b hb => by cases hb⟩
    rw [List.map_nil, List.append_nil]
  | some template =>
    let b : Binding :=
      { document, node, template, state, collector, subscriber := w.subscribers.size }
    have hbindings := bindings_withBinding hset b
    have hb : (w.withBinding set b).binding? set (w.bindings set).length = some b := by
      rw [binding?, hbindings, List.getElem?_concat_length]
    -- The rendering sees the session as it was, apart from the binding itself.
    obtain ⟨st, hread, hrender⟩ := renderBinding_of_idle hb hidle hrep
    have hdisplays : Displays (w.withBinding set b) _ tree [b] :=
      displays_afterReading _ set (w.bindings set).length b st tree
    refine ⟨_, [b], by rw [bindText_of_template hparse, hrender], ?_, by simp [hparse, b]⟩
    refine ⟨hdisplays.of_documents rfl rfl, ?bindings, ?sets, ?collectors, ?represents,
      ?states, ?made⟩
    case bindings =>
      rw [bindings_afterReading, if_pos rfl, hbindings, modify_length_concat, List.map_singleton]
    case sets => rw [size_bindingSets_afterReading]; exact Array.size_modify
    case collectors => rw [collectors_afterReading]; rfl
    case represents =>
      rw [state_afterReading, state_setState]
      split
      · exact hread.represents hrep
      · exact hrep
    case states =>
      intro i hi
      rw [state_afterReading, state_setState, if_neg fun h => hi h.1.symm]
      rfl
    case made =>
      intro b' hb'
      obtain rfl := List.mem_singleton.mp hb'
      exact ⟨rfl, rfl, rfl, rfl⟩

/-- Texts that are bound one after the other. -/
theorem BoundTo.append {w'' : Session} {bs bs' : List Binding}
    (h : BoundTo w w' set document state collector tree bs)
    (h' : BoundTo w' w'' set document state collector tree bs') :
    BoundTo w w'' set document state collector tree (bs ++ bs') where
  displays := h.displays.append h'.displays
  bindings := by rw [h'.bindings, h.bindings, List.map_append, List.append_assoc]
  sets := h'.sets.trans h.sets
  collectors := h'.collectors.trans h.collectors
  represents := h'.represents
  states i hi := (h'.states i hi).trans (h.states i hi)
  made b hb := by
    rcases List.mem_append.mp hb with hb | hb
    · exact h.made b hb
    · exact h'.made b hb

/-- The text of a node that no new binding has stays. -/
theorem BoundTo.text_of_ne {bs : List Binding}
    (h : BoundTo w w' set document state collector tree bs) {node : NodeId}
    (hne : node ∉ bs.map Binding.node) :
    (w'.document document).text node = (w.document document).text node := by
  apply Document.text_eq_of_data_eq
  apply h.displays.data_of_ne
  rintro b hb ⟨-, rfl⟩
  exact hne (List.mem_map_of_mem hb)

/-- If no node comes twice, each node of a list of texts holds afterwards what binding makes of it,
and all others hold what they have held. -/
theorem BoundTo.data {bs : List Binding} {nodes : List NodeId}
    (h : BoundTo w w' set document state collector tree bs) (hnodup : nodes.Nodup)
    (htexts : bs.map (fun b => (b.node, b.template)) = nodes.filterMap fun k =>
      (Template.parse ((w.document document).text k)).map (k, ·)) (k : NodeId) :
    (w'.document document).data k =
      if k ∈ nodes then ((w.document document).data k).bound tree
      else (w.document document).data k := by
  have hnodes := nodup_nodes_of_texts htexts hnodup
  have hbound := exists_binding_iff_of_texts htexts
  by_cases hhas : ∃ b ∈ bs, b.node = k
  · obtain ⟨b, hb, rfl⟩ := hhas
    obtain ⟨hmem, hparse⟩ := (hbound b.node b.template).mp ⟨b, hb, rfl, rfl⟩
    have htext := Document.data_of_text_ne (Template.ne_empty_of_parse hparse)
    have hdocument := (h.made b hb).1
    rw [if_pos hmem, htext, NodeData.bound_of_parse hparse]
    have hsole := h.displays.data_of_sole hb hnodes (hdocument.symm ▸ htext)
    rwa [hdocument] at hsole
  · -- Nobody writes to the node, and if it is among the texts its own one is no template.
    have hother : ∀ b ∈ bs, ¬ (b.document = document ∧ b.node = k) :=
      fun b hb hplace => hhas ⟨b, hb, hplace.2⟩
    rw [h.displays.data_of_ne hother]
    split
    · next hk =>
      symm
      apply NodeData.bound_of_not_parse
      intro s hs
      rw [← Document.text_of_data hs, Option.eq_none_iff_forall_ne_some]
      intro t ht
      obtain ⟨b, hb, hnode, -⟩ := (hbound k t).mpr ⟨hk, ht⟩
      exact hhas ⟨b, hb, hnode⟩
    · rfl

/-- All texts of a list are bound that have a placeholder. If no node comes twice, each is bound
with the text that it had at the beginning; and in any case, if no node has got two bindings. -/
theorem boundTo_bindTexts (hset : set < w.bindingSets.size)
    (hidle : (w.collector collector).active = none) (hrep : (w.state state).Represents tree)
    (document : DocumentId) (nodes : List NodeId) :
    ∃ w' bs, bindTexts set document state collector nodes w = (.ok (), w') ∧
      BoundTo w w' set document state collector tree bs ∧
      (nodes.Nodup → bs.map (fun b => (b.node, b.template)) = nodes.filterMap fun k =>
        (Template.parse ((w.document document).text k)).map (k, ·)) ∧
      ((bs.map Binding.node).Nodup → ∀ b ∈ bs,
        Template.parse ((w.document document).text b.node) = some b.template) := by
  -- On the texts. What the first one displays cannot be seen from the others.
  induction nodes generalizing w with
  | nil =>
    refine ⟨w, [], rfl, ⟨.refl w tree, ?_, rfl, rfl, hrep, fun _ _ => rfl, ?_⟩, ?_, ?_⟩
    · rw [List.map_nil, List.append_nil]
    all_goals simp
  | cons node rest ih =>
    obtain ⟨w₁, first, hbind₁, hbound₁, hfirst⟩ :=
      boundTo_bindText hset hidle hrep document node
    have hidle₁ : (w₁.collector collector).active = none := by
      rw [Session.collector, hbound₁.collectors]
      exact hidle
    obtain ⟨w₂, others, hbind₂, hbound₂, hothers, hparsed⟩ :=
      ih (hbound₁.sets ▸ hset) hidle₁ hbound₁.represents
    -- The first text has one binding at most, and that one is at the node.
    have hnode : ∀ b ∈ first, b.node = node ∧
        Template.parse ((w.document document).text node) = some b.template := by
      intro b hb
      obtain ⟨hmem, hparse⟩ :=
        (exists_binding_iff_of_texts hfirst b.node b.template).mp ⟨b, hb, rfl, rfl⟩
      have heq := List.mem_singleton.mp hmem
      exact ⟨heq, heq ▸ hparse⟩
    refine ⟨w₂, first ++ others, by rw [bindTexts, hbind₁]; exact hbind₂,
      hbound₁.append hbound₂, ?texts, ?parsed⟩
    case texts =>
      intro hnodup
      rw [List.nodup_cons] at hnodup
      have hsame : ∀ k ∈ rest, (w₁.document document).text k = (w.document document).text k := by
        intro k hk
        apply hbound₁.text_of_ne
        intro hmem
        obtain ⟨b, hb, rfl⟩ := List.mem_map.mp hmem
        exact hnodup.1 ((hnode b hb).1 ▸ hk)
      have hrest := hothers hnodup.2
      rw [List.filterMap_congr fun k hk => by rw [hsame k hk]] at hrest
      rw [List.map_append, hfirst, hrest, ← List.filterMap_append]
      rfl
    case parsed =>
      intro hnodup b hb
      rw [List.map_append] at hnodup
      rcases List.mem_append.mp hb with hb | hb
      · rw [(hnode b hb).1]
        exact (hnode b hb).2
      · have hne : b.node ∉ first.map Binding.node := fun hmem =>
          List.disjoint_of_nodup_append hnodup hmem (List.mem_map_of_mem hb)
        rw [← hbound₁.text_of_ne hne]
        exact hparsed (List.Nodup.of_append_right hnodup) b hb

/-! ## Compilations -/

/-- A compilation with a collector that is not busy binds the texts that it meets, and then the
children of the node go back. -/
theorem compile_of_idle (hdocument : document < w.documents.size)
    (hidle : (w.collector collector).active = none) (hrep : (w.state state).Represents tree)
    (node : NodeId) :
    let opened := (w.opened document node).hold [.bindings w.bindingSets.size]
    let texts := textsBelow (w.document document) node
    ∃ w' after bs,
      w.compile document node state collector = (.ok w.bindingSets.size, w') ∧
      w'.documents = (w.closed after document node).documents ∧ w'.states = after.states ∧
      w'.collectors = after.collectors ∧
      w'.bindings w.bindingSets.size = bs.map (fun b => b.conclude (b.template.shown tree)) ∧
      BoundTo opened after w.bindingSets.size document state collector tree bs ∧
      (texts.Nodup → bs.map (fun b => (b.node, b.template)) = texts.filterMap fun k =>
        (Template.parse ((opened.document document).text k)).map (k, ·)) ∧
      ((bs.map Binding.node).Nodup → ∀ b ∈ bs,
        Template.parse ((opened.document document).text b.node) = some b.template) := by
  intro opened texts
  have hset : w.bindingSets.size < opened.bindingSets.size :=
    (Nat.lt_succ_self _).trans_eq (size_bindingSets_opened w document node).symm
  obtain ⟨after, bs, hbind, hbound, htexts, hparsed⟩ :=
    boundTo_bindTexts (w := opened) hset hidle hrep document texts
  have hcompile := compile_eq w document node state collector
  rw [outerTexts_opened hdocument, hbind] at hcompile
  refine ⟨_, after, bs, hcompile, rfl, rfl, rfl, ?_, hbound, htexts, hparsed⟩
  -- The new set is empty before, and moving children back is no business of it.
  have hnone : opened.bindings w.bindingSets.size = [] :=
    (bindings_opened w document node _).trans (bindings_of_size_le (Nat.le_refl _))
  have hadded := hbound.bindings
  rw [hnone, List.nil_append] at hadded
  exact hadded

end Session

end LiveText
