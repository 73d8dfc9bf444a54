import Mathlib
import LiveText.Document.Basic
import LiveText.Proofs.Markup.Forest

/-!
# Forests that grow in document order

Whoever builds trees out of markup, and whoever copies trees into a document, makes nodes in
document order: a node gets the next number, then what is below it is made, then what comes after
it. Both only ever put something new at the end of the children of a node. What has been made is
therefore told by the next number alone, and what is made later leaves it as it is.

## Main definitions

- `Numbering`: nodes by their numbers.
- `Numbering.Numbers`: a forest stands in document order from a number on.
- `Numbering.Grown`: a forest has been put at the end of the children of a node.

## Main statements

- `Grown.append`: one forest after the other.
- `Grown.inside`: a forest inside a new element.
-/

namespace LiveText.Markup

/-! ## Numbers -/

/-- What can be told of nodes by their numbers. -/
structure Numbering where
  /-- The next number. -/
  size : Nat
  data : Nat → NodeData
  children : Nat → List Nat

/-- The numbers of the outermost nodes of a forest that begins at a number. -/
def roots (n : Nat) : List Tree → List Nat
  | [] => []
  | t :: ts => n :: roots (n + t.size) ts

theorem Tree.size_text (s : String) : (Tree.text s).size = 1 := rfl

theorem Tree.size_other : Tree.other.size = 1 := rfl

theorem Tree.size_element (name : String) (attributes : List (String × String))
    (children : List Tree) :
    (Tree.element name attributes children).size = forestSize children + 1 := rfl

/-- Going down as many levels as there are nodes takes one of them for a text. -/
theorem exists_levels_of_text {s : String} {ts : List Tree} {depth : Nat}
    (h : forestSize (.text s :: ts) ≤ depth) :
    ∃ levels, depth = levels + 1 ∧ forestSize ts ≤ levels := by
  rw [forestSize, Tree.size_text] at h
  exact ⟨depth - 1, by omega, by omega⟩

/-- Going down as many levels as there are nodes takes one of them for an element, and the rest is
enough for what is inside and for what comes after it. -/
theorem exists_levels_of_element {name : String} {attributes : List (String × String)}
    {children ts : List Tree} {depth : Nat}
    (h : forestSize (.element name attributes children :: ts) ≤ depth) :
    ∃ levels, depth = levels + 1 ∧ forestSize children ≤ levels ∧
      forestSize ts ≤ levels - forestSize children := by
  rw [forestSize, Tree.size_element] at h
  exact ⟨depth - 1, by omega, by omega, by omega⟩

theorem forestSize_append (ts us : List Tree) :
    forestSize (ts ++ us) = forestSize ts + forestSize us := by
  induction ts with
  | nil => rw [List.nil_append, forestSize, Nat.zero_add]
  | cons t ts ih => rw [List.cons_append, forestSize, forestSize, ih, Nat.add_assoc]

theorem roots_append (n : Nat) (ts us : List Tree) :
    roots n (ts ++ us) = roots n ts ++ roots (n + forestSize ts) us := by
  induction ts generalizing n with
  | nil => rw [List.nil_append, roots, List.nil_append, forestSize, Nat.add_zero]
  | cons t ts ih => rw [List.cons_append, roots, roots, ih, forestSize, Nat.add_assoc,
      List.cons_append]

namespace Numbering

variable {a b c : Numbering} {n p : Nat} {ts us : List Tree}

/-- The nodes of a forest stand in document order from a number on. -/
def Numbers (a : Numbering) (n : Nat) : List Tree → Prop
  | [] => True
  | .text s :: ts => (a.data n = .text s ∧ a.children n = []) ∧ a.Numbers (n + 1) ts
  | .element name attributes children :: ts =>
    (a.data n = .element name attributes ∧ a.children n = roots (n + 1) children ∧
      a.Numbers (n + 1) children) ∧ a.Numbers (n + (forestSize children + 1)) ts
  | .other :: _ => False

/-- A forest hangs on the nodes with its own numbers only. -/
theorem Numbers.congr (h : a.Numbers n ts)
    (hsame : ∀ i, n ≤ i → i < n + forestSize ts →
      b.data i = a.data i ∧ b.children i = a.children i) :
    b.Numbers n ts := by
  induction ts using forest_induction generalizing n with
  | nil => rw [Numbers]; trivial
  | text s ts ih =>
    rw [Numbers] at h ⊢
    rw [forestSize, Tree.size_text] at hsame
    obtain ⟨hdata, hchildren⟩ := hsame n (Nat.le_refl n) (by omega)
    rw [hdata, hchildren]
    exact ⟨h.1, ih h.2 fun i hlow hhigh => hsame i (by omega) (by omega)⟩
  | element name attributes children ts inside ih =>
    rw [Numbers] at h ⊢
    rw [forestSize, Tree.size_element] at hsame
    obtain ⟨⟨hnode, hroots, hinside⟩, hafter⟩ := h
    obtain ⟨hdata, hchildren⟩ := hsame n (Nat.le_refl n) (by omega)
    rw [hdata, hchildren]
    refine ⟨⟨hnode, hroots, ?_⟩, ?_⟩
    · exact inside hinside fun i hlow hhigh => hsame i (by omega) (by omega)
    · exact ih hafter fun i hlow hhigh => hsame i (by omega) (by omega)
  | other ts ih => rw [Numbers] at h; exact h.elim

theorem Numbers.append (h : a.Numbers n ts) (h' : a.Numbers (n + forestSize ts) us) :
    a.Numbers n (ts ++ us) := by
  induction ts using forest_induction generalizing n with
  | nil => rwa [List.nil_append]
  | text s ts ih =>
    rw [forestSize, Tree.size_text, ← Nat.add_assoc] at h'
    rw [Numbers] at h
    rw [List.cons_append, Numbers]
    exact ⟨h.1, ih h.2 h'⟩
  | element name attributes children ts inside ih =>
    rw [forestSize, Tree.size_element, ← Nat.add_assoc] at h'
    rw [Numbers] at h
    rw [List.cons_append, Numbers]
    exact ⟨h.1, ih h.2 h'⟩
  | other ts ih => rw [Numbers] at h; exact h.elim

/-! ## Growth -/

/-- A forest has been put at the end of the children of a node, in new nodes. -/
structure Grown (a b : Numbering) (p : Nat) (ts : List Tree) : Prop where
  size : b.size = a.size + forestSize ts
  data : ∀ i, i < a.size → b.data i = a.data i
  children : ∀ i, i < a.size →
    b.children i = a.children i ++ if i = p then roots a.size ts else []
  numbers : b.Numbers a.size ts

theorem Grown.nil (a : Numbering) (p : Nat) : Grown a a p [] where
  size := rfl
  data _ _ := rfl
  children i _ := by simp [roots]
  numbers := by rw [Numbers]; trivial

/-- One forest after the other. -/
theorem Grown.append (h : Grown a b p ts) (h' : Grown b c p us) (hp : p < a.size) :
    Grown a c p (ts ++ us) where
  size := by rw [h'.size, h.size, forestSize_append, Nat.add_assoc]
  data i hi := by
    have hib : i < b.size := h.size ▸ Nat.lt_add_right _ hi
    rw [h'.data i hib, h.data i hi]
  children i hi := by
    have hib : i < b.size := h.size ▸ Nat.lt_add_right _ hi
    rw [h'.children i hib, h.children i hi, roots_append, h.size]
    split
    · rw [List.append_assoc]
    · simp
  numbers := by
    -- The second forest hangs on the same node, which is none of the first one.
    refine (h.numbers.congr fun i hlow hhigh => ?_).append (h.size ▸ h'.numbers)
    have hib : i < b.size := h.size ▸ hhigh
    have hne : i ≠ p := by omega
    rw [h'.data i hib, h'.children i hib, if_neg hne, List.append_nil]
    exact ⟨rfl, rfl⟩

/-- A forest inside a new element. -/
theorem Grown.inside {name : String} {attributes : Entries String} {children : List Tree}
    (h : Grown a b p [.element name attributes []]) (h' : Grown b c a.size children) :
    Grown a c p [.element name attributes children] := by
  have hsize : b.size = a.size + 1 := by
    rw [h.size, forestSize, Tree.size_element, forestSize]
  have hnode := h.numbers
  simp only [Numbers, roots, and_true] at hnode
  refine ⟨?hsize, fun i hi => ?hdata, fun i hi => ?hchildren, ?hnumbers⟩
  case hsize =>
    rw [h'.size, hsize, forestSize, Tree.size_element, forestSize]
    omega
  case hdata => rw [h'.data i (by omega), h.data i hi]
  case hchildren =>
    have hne : i ≠ a.size := Nat.ne_of_lt hi
    rw [h'.children i (by omega), if_neg hne, List.append_nil, h.children i hi]
    rfl
  case hnumbers =>
    -- The element had no children, so that those of the forest are all it has.
    have hlt : a.size < b.size := by omega
    have hchildren := h'.children a.size hlt
    have hinside := h'.numbers
    rw [hnode.2, if_pos rfl, List.nil_append, hsize] at hchildren
    rw [hsize] at hinside
    rw [Numbers, Numbers, h'.data a.size hlt]
    exact ⟨⟨hnode.1, hchildren, hinside⟩, trivial⟩

end Numbering

end LiveText.Markup
