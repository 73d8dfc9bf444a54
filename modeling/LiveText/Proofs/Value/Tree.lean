import Mathlib
import LiveText.Proofs.Value.Entries
import LiveText.State.Slot

/-!
# Nested values as trees

A value is a tree whose inner nodes are objects. This file has the plain operations on such a
tree, without slots or subscribers: walking down along keys, and replacing the subtree at the end
of a way in place. States are measured against them.

## Main definitions

- `Value.walk?`: the subtree at the end of a way of keys.
- `Value.absent?`: the first key of a way that is not there.
- `Value.replaceAt`: the tree with another subtree there.

## Main statements

- `walk?_replaceAt_append`: what is found inside the new subtree.
- `content_walk?_replaceAt`: everywhere else the contents stay.
- `WellFormed.walk?`, `WellFormed.replaceAt`: no object gets a key twice.
-/

namespace LiveText

namespace Value

/-- Induction along objects: to prove something of every tree, prove it of the values that are not
objects, and of an object whose contents have it. -/
@[elab_as_elim]
theorem treeInduction {motive : Value → Prop} (leaf : ∀ v, v.isObject = false → motive v)
    (object : ∀ entries, (∀ e ∈ entries, motive e.2) → motive (.object entries)) :
    ∀ v, motive v
  | .object entries =>
    object entries fun e he => by
      -- The content of an entry is smaller than the list that holds it.
      have hmem := List.sizeOf_lt_of_mem he
      have hcontent : sizeOf e.2 < sizeOf e := by
        obtain ⟨key, x⟩ := e
        simp
      exact treeInduction leaf object e.2
  | .null => leaf _ rfl
  | .bool _ => leaf _ rfl
  | .int _ => leaf _ rfl
  | .float _ => leaf _ rfl
  | .str _ => leaf _ rfl
  | .list _ => leaf _ rfl
termination_by v => sizeOf v
decreasing_by
  simp only [Value.object.sizeOf_spec]
  omega

/-! ## Walking down -/

/-- The subtree at the end of a way of keys. -/
def walk? (v : Value) : List String → Option Value
  | [] => some v
  | key :: keys => (v.get? key).bind (walk? · keys)

@[simp] theorem walk?_nil (v : Value) : v.walk? [] = some v := rfl

theorem walk?_cons (v : Value) (key : String) (keys : List String) :
    v.walk? (key :: keys) = (v.get? key).bind (walk? · keys) := rfl

theorem walk?_append (v : Value) (p q : List String) :
    v.walk? (p ++ q) = (v.walk? p).bind (walk? · q) := by
  induction p generalizing v with
  | nil => rfl
  | cons key keys ih =>
    rw [List.cons_append, walk?_cons, walk?_cons, Option.bind_assoc]
    congr 1
    funext x
    exact ih x

theorem walk?_concat (v : Value) (p : List String) (key : String) :
    v.walk? (p ++ [key]) = (v.walk? p).bind (·.get? key) := by
  rw [walk?_append]
  congr 1
  funext x
  rw [walk?_cons]
  cases x.get? key <;> rfl

/-- What is above a subtree is there too. -/
theorem walk?_isSome_of_prefix {v : Value} {p q : List String} (h : p <+: q)
    (hq : (v.walk? q).isSome) : (v.walk? p).isSome := by
  obtain ⟨r, rfl⟩ := h
  rw [walk?_append] at hq
  exact Option.isSome_of_isSome_bind hq

theorem get?_object (entries : List (String × Value)) (key : String) :
    (object entries).get? key = entries.lookup key := rfl

/-- The first key of a way that is not there. -/
def absent? (v : Value) : List String → Option String
  | [] => none
  | key :: keys =>
    match v.get? key with
    | none => some key
    | some x => x.absent? keys

theorem absent?_eq_none_iff {v : Value} {keys : List String} :
    v.absent? keys = none ↔ (v.walk? keys).isSome = true := by
  induction keys generalizing v with
  | nil => simp [absent?]
  | cons key keys ih =>
    rw [absent?, walk?_cons]
    cases v.get? key with
    | none => simp
    | some x => exact ih

/-! ## Replacing a subtree -/

/-- The tree with a new subtree at the end of a way of keys. A way that leads nowhere changes
nothing. -/
def replaceAt (new : Value) : List String → Value → Value
  | [], _ => new
  | key :: keys, .object entries =>
    .object (entries.map fun (k, x) => (k, if k = key then replaceAt new keys x else x))
  | _ :: _, v => v

@[simp] theorem replaceAt_nil (new v : Value) : replaceAt new [] v = new := by
  cases v <;> rfl

theorem get?_replaceAt_self (new v : Value) (key : String) (keys : List String) :
    (replaceAt new (key :: keys) v).get? key = (v.get? key).map (replaceAt new keys) := by
  cases v with
  | object entries =>
    rw [replaceAt, get?_object, get?_object]
    rw [Entries.lookup_map (fun k x => if k = key then replaceAt new keys x else x)]
    simp
  | _ => rfl

theorem get?_replaceAt_of_ne (new v : Value) {key k : String} (keys : List String) (h : k ≠ key) :
    (replaceAt new (key :: keys) v).get? k = v.get? k := by
  cases v with
  | object entries =>
    rw [replaceAt, get?_object, get?_object]
    rw [Entries.lookup_map (fun k x => if k = key then replaceAt new keys x else x)]
    simp [h]
  | _ => rfl

/-- Below the end of the way the new subtree is found. -/
theorem walk?_replaceAt_append {v : Value} {p : List String} (new : Value) (q : List String)
    (hp : (v.walk? p).isSome) : (replaceAt new p v).walk? (p ++ q) = new.walk? q := by
  -- On the way, which exists in the tree.
  induction p generalizing v with
  | nil => rw [replaceAt_nil, List.nil_append]
  | cons key keys ih =>
    rw [walk?_cons] at hp
    obtain ⟨x, hx⟩ := Option.isSome_iff_exists.mp (Option.isSome_of_isSome_bind hp)
    rw [hx, Option.bind_some] at hp
    rw [List.cons_append, walk?_cons, get?_replaceAt_self, hx]
    exact ih hp

/-- A new subtree below a value changes neither its kind nor its keys. -/
theorem content_replaceAt_cons (new v : Value) (key : String) (keys : List String) :
    SlotContent.ofValue (replaceAt new (key :: keys) v) = SlotContent.ofValue v := by
  cases v with
  | object entries =>
    rw [replaceAt, SlotContent.ofValue, SlotContent.ofValue]
    rw [Entries.keys_map (fun k x => if k = key then replaceAt new keys x else x)]
  | _ => rfl

/-- Everywhere but below the end of the way the same contents are found. -/
theorem content_walk?_replaceAt (new v : Value) {p q : List String} (h : ¬ p <+: q) :
    ((replaceAt new p v).walk? q).map SlotContent.ofValue =
      (v.walk? q).map SlotContent.ofValue := by
  -- On the way to the new subtree; the other way parts from it somewhere.
  induction p generalizing v q with
  | nil => exact absurd List.nil_prefix h
  | cons key keys ih =>
    cases q with
    | nil => simp [content_replaceAt_cons]
    | cons k ks =>
      rw [walk?_cons, walk?_cons]
      -- The ways part at this key or later.
      by_cases hk : k = key
      · subst hk
        have hks : ¬ keys <+: ks := fun hpre => h (List.cons_prefix_cons.mpr ⟨rfl, hpre⟩)
        rw [get?_replaceAt_self]
        cases v.get? k with
        | none => rfl
        | some x => exact ih x hks
      · rw [get?_replaceAt_of_ne new v keys hk]

/-! ## Well-formed trees -/

theorem WellFormed.get? {v x : Value} {key : String} (hv : v.WellFormed)
    (h : v.get? key = some x) : x.WellFormed := by
  cases hv with
  | object entries _ hx => exact hx _ (Entries.mem_of_lookup h)
  | _ => simp [Value.get?] at h

theorem WellFormed.walk? {v x : Value} {p : List String} (hv : v.WellFormed)
    (h : v.walk? p = some x) : x.WellFormed := by
  induction p generalizing v with
  | nil =>
    rw [walk?_nil, Option.some.injEq] at h
    exact h ▸ hv
  | cons key keys ih =>
    rw [walk?_cons] at h
    obtain ⟨y, hy, hyx⟩ := Option.bind_eq_some_iff.mp h
    exact ih (hv.get? hy) hyx

theorem WellFormed.replaceAt {new v : Value} {p : List String} (hnew : new.WellFormed)
    (hv : v.WellFormed) : (replaceAt new p v).WellFormed := by
  induction p generalizing v with
  | nil => simpa using hnew
  | cons key keys ih =>
    cases hv with
    | object entries hk hx =>
      rw [Value.replaceAt]
      refine .object _ ?nodup ?contents
      case nodup =>
        rwa [Entries.keys_map (fun k x => if k = key then Value.replaceAt new keys x else x)]
      case contents =>
        intro e he
        obtain ⟨⟨k, x⟩, hmem, rfl⟩ := List.mem_map.mp he
        have hwf : x.WellFormed := hx (k, x) hmem
        dsimp only
        split
        · exact ih hwf
        · exact hwf
    | null => exact .null
    | bool b => exact .bool b
    | int n => exact .int n
    | float x => exact .float x
    | str s => exact .str s
    | list items hi => exact .list items hi

end Value

end LiveText
