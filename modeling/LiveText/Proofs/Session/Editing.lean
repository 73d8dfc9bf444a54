import Mathlib
import LiveText.Proofs.Session.Effects
import LiveText.Proofs.Session.FreshBindings

/-!
# Edits and freshness

No edit makes a subscriber wait, and all of them keep what is promised of bindings.

## Main definitions

- `Edit.Harmless`: edits that bring in data as it should be and keep off the node.

## Main statements

- `fresh_rename`: names are given to states that are there, and to sets that live anyway.
- `fresh_named`: compilations whose set gets a name.
- `fresh_editDocument`: nodes are made and moved without a change to texts.
- `fresh_perform`: edits keep what is promised.
-/

namespace LiveText.Session

variable {document : DocumentId} {node : NodeId} {w w' : Session} {waiting : List SubscriberId}

/-! ## Names and documents -/

/-- Names go to states that are there, and to sets that live anyway. The next set is as if it were
held still. -/
theorem fresh_rename (h : Fresh document node (w'.hold [.bindings w.bindingSets.size]) waiting)
    {f : Names → Names} (hnames : Renames w w' f)
    (hsize : w'.bindingSets.size ≤ w.bindingSets.size + 1) :
    Fresh document node (w'.rename f) waiting := by
  refine h.keeps_texts rfl rfl (fun e he => ?_) (fun set => hnames.isAlive hsize)
    (fun _ _ _ hs => hs) fun _ => .refl _
  rcases hnames.states e he with ⟨e', he', heq⟩ | hthere
  · exact heq ▸ h.named e' he'
  · exact hthere

/-- The same where no set is new. -/
theorem fresh_rename_of_size (h : Fresh document node w' waiting) {f : Names → Names}
    (hnames : Renames w w' f) (hsize : w'.bindingSets.size = w.bindingSets.size) :
    Fresh document node (w'.rename f) waiting := by
  refine fresh_rename (h.hold fun set hset => .inr ?_) hnames (by omega)
  rw [Holding.bindings.inj (List.mem_singleton.mp hset)]
  exact bindings_of_size_le hsize.le

/-- What has been made gets a name, which keeps its bindings alive from then on. -/
theorem fresh_named {w₁ : Session} {name : String}
    (h : Fresh document node (w₁.hold [.bindings w.bindingSets.size]) waiting)
    (hnamed : Named w w₁ name w') : Fresh document node w' waiting := by
  cases hnamed with
  | failed => exact h.of_hold
  | named hnames hsize => exact fresh_rename (fresh_labelBindings h name _) hnames hsize.le

/-- An edit of a document that may set the text of the node only if no binding is there. -/
theorem fresh_editDocument (h : Fresh document node w waiting) {i : DocumentId}
    {edit : DocumentEdit}
    (hspared : ∀ number text, edit = .setText number text → i = document →
      w.requireNode document number = .ok node →
        ∀ set index b, w.binding? set index = some b → b.document = document → b.node ≠ node)
    (heffect : DocumentEffect w i edit w') : Fresh document node w' waiting := by
  cases heffect with
  | same => exact h
  | told event => exact fresh_emit h event
  | moved hkeeps => exact fresh_modifyDocument h hkeeps
  | @setText number text k hk =>
    refine fresh_setText h i k text ?_
    -- The one edit that changes a text: it must keep off the node.
    rintro set index b hb hdocument hnode - ⟨rfl, rfl⟩
    exact hspared number text rfl rfl hk set index b hb.there hdocument hnode

/-! ## All edits -/

theorem fresh_readTracked (h : Fresh document node w waiting) (i : StateId) (p : Path)
    (collector : CollectorId) : Fresh document node (w.readTracked i p collector).2 waiting := by
  obtain ⟨tree, hrep⟩ := h.represents i
  exact fresh_read h (hrep.readBy_readTracked w.isLive (w.collector collector).active p)

/-- The data that the edit brings in has no key twice, and it does not set the text of the node if
a binding is there. -/
def Edit.Harmless (document : DocumentId) (node : NodeId) (w : Session) : Edit → Prop
  | .observe _ data => data.WellFormed
  | .mount _ _ (.given _ data) => data.WellFormed
  | .document name (.setText number _) =>
    w.names.documents.lookup name = some document → w.requireNode document number = .ok node →
      ∀ set index b, w.binding? set index = some b → b.document = document → b.node ≠ node
  | _ => True

/-- Edits make nobody wait. -/
theorem fresh_perform (h : Fresh document node w waiting) {edit : Edit}
    (hharmless : edit.Harmless document node w) {answer : Answer}
    (hedit : w.perform edit = .ok (answer, w')) : Fresh document node w' waiting := by
  cases effect_of_perform hedit with
  | same => exact h
  | renamed hnames => exact fresh_rename_of_size h hnames rfl
  | collector hnames =>
    have hnew : Fresh document node w.newCollector.2 waiting :=
      h.of_eq rfl rfl rfl rfl rfl rfl
    exact fresh_rename_of_size hnew hnames rfl
  | @observed name data _ hnames =>
    have hobserved : Fresh document node (w.observe data).2 waiting := fresh_observe h hharmless
    obtain ⟨trace, hobserve⟩ := observe_eq w data
    rw [hobserve] at hobserved hnames ⊢
    exact fresh_rename_of_size hobserved hnames rfl
  | read i p collector => exact fresh_readTracked h i p collector
  | rendered t i c =>
    obtain ⟨tree, hrep⟩ := h.represents i
    exact fresh_read h (hrep.readBy_renderWith w.isLive (w.collector c).active t)
  | mounted hread i =>
    have hdata := wellFormed_read (fun el data hsource => ?_) hread
    · exact fresh_named (fresh_mount h i hdata) (named_mountAs ..)
    · subst hsource
      exact hharmless
  | compiled hstate name i k collector =>
    obtain ⟨e, he, rfl⟩ := hstate
    exact fresh_named (fresh_compile h i k (h.named e he) collector) (named_compileAs ..)
  | @refreshed _ set index b _ hb =>
    have hwaits : Fresh document node w (b.subscriber :: waiting) :=
      h.mono fun s hs => List.mem_cons_of_mem _ hs
    exact fresh_renderBinding hwaits hb
  | document hi heffect =>
    apply fresh_editDocument h _ heffect
    rintro number text rfl rfl hnumber
    exact hharmless hi hnumber
  | opened d hnames => exact fresh_rename_of_size (fresh_newDocument h d) hnames rfl

end LiveText.Session
