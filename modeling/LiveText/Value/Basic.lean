/-!
# Values

The data that states are made of. Objects are the only composite kind that a state takes apart;
lists are carried whole.

## Main definitions

- `Value`, `Value.kind`, `Value.get?`.
- `Value.same`: equality of values, in which the order of an object's entries does not count and
  floating-point numbers compare as such, so that a NaN differs from itself.
- `Entries.insert`: an entry replaces the one with its key in place, or goes to the end.
- `Value.WellFormed`: no object holds a key twice.
-/

namespace LiveText

/-- A dynamically typed value. The entries of an object are in the order in which they were made. -/
inductive Value where
  | null
  | bool (b : Bool)
  | int (n : Int64)
  | float (x : Float)
  | str (s : String)
  | list (items : List Value)
  | object (entries : List (String × Value))
deriving Inhabited, Repr

/-! ## Entries of an object -/

/-- Key and content pairs in a fixed order. -/
abbrev Entries (α : Type) := List (String × α)

namespace Entries

variable {α : Type}

/-- The keys in order. -/
def keys (entries : Entries α) : List String :=
  entries.map Prod.fst

/-- An entry replaces the one with its key where that stands, or goes to the end. -/
def insert (key : String) (content : α) : Entries α → Entries α
  | [] => [(key, content)]
  | (k, c) :: rest =>
    if k = key then (key, content) :: rest else (k, c) :: insert key content rest

/-- The entries that a sequence of insertions leaves: a repeated key keeps its first place and
takes its last content. -/
def ofList (pairs : List (String × α)) : Entries α :=
  pairs.foldl (fun entries (k, c) => entries.insert k c) []

/-- The entries without the one of a key. -/
def erase (key : String) (entries : Entries α) : Entries α :=
  entries.filter fun (k, _) => k ≠ key

end Entries

namespace Value

/-- The word for a value's kind. -/
def kind : Value → String
  | .null => "null"
  | .bool _ => "bool"
  | .int _ => "int"
  | .float _ => "float"
  | .str _ => "string"
  | .list _ => "list"
  | .object _ => "object"

/-- Whether the value is an object. -/
def isObject : Value → Bool
  | .object _ => true
  | _ => false

/-- The text of a text value. -/
def asStr? : Value → Option String
  | .str s => some s
  | _ => none

/-- The content under a key; a value other than an object has none. -/
def get? (v : Value) (key : String) : Option Value :=
  match v with
  | .object entries => entries.lookup key
  | _ => none

/-- The contents met on the way down along keys, one for each key. Past a missing key there is
nothing. -/
def along (v : Option Value) : List String → List (Option Value)
  | [] => []
  | key :: keys =>
    let next := v.bind (·.get? key)
    next :: along next keys

/-- The object whose entries are inserted one after the other. -/
def ofPairs (pairs : List (String × Value)) : Value :=
  .object (Entries.ofList pairs)

/-! ## Equality -/

mutual
/-- Equality of values. The order of entries does not count; floating-point numbers compare as
numbers, and an integer never equals one. -/
def same : Value → Value → Bool
  | .null, .null => true
  | .bool a, .bool b => a == b
  | .int a, .int b => a == b
  | .float a, .float b => a == b
  | .str a, .str b => a == b
  | .list xs, .list ys => sameItems xs ys
  | .object xs, .object ys => xs.length == ys.length && sameEntries xs ys
  | _, _ => false
termination_by structural v => v

/-- Two lists of values agree place by place. -/
def sameItems : List Value → List Value → Bool
  | [], [] => true
  | x :: xs, y :: ys => x.same y && sameItems xs ys
  | _, _ => false
termination_by structural xs => xs

/-- Each entry has an equal one with its key among the others. -/
def sameEntries : List (String × Value) → List (String × Value) → Bool
  | [], _ => true
  | (k, x) :: xs, ys =>
    (match ys.lookup k with
      | some y => x.same y
      | none => false) && sameEntries xs ys
termination_by structural xs => xs
end

/-! ## Well-formedness and depth -/

/-- No object inside the value holds a key twice. -/
inductive WellFormed : Value → Prop where
  | null : WellFormed .null
  | bool (b : Bool) : WellFormed (.bool b)
  | int (n : Int64) : WellFormed (.int n)
  | float (x : Float) : WellFormed (.float x)
  | str (s : String) : WellFormed (.str s)
  | list (items : List Value) : (∀ v ∈ items, WellFormed v) → WellFormed (.list items)
  | object (entries : List (String × Value)) :
      (Entries.keys entries).Nodup → (∀ e ∈ entries, WellFormed e.2) → WellFormed (.object entries)

mutual
/-- How deep lists and objects are nested: zero for a value that is neither. -/
def depth : Value → Nat
  | .list items => depthItems items + 1
  | .object entries => depthEntries entries + 1
  | _ => 0
termination_by structural v => v

/-- The greatest depth among values. -/
def depthItems : List Value → Nat
  | [] => 0
  | x :: xs => max x.depth (depthItems xs)
termination_by structural xs => xs

/-- The greatest depth among the contents of entries. -/
def depthEntries : List (String × Value) → Nat
  | [] => 0
  | (_, x) :: xs => max x.depth (depthEntries xs)
termination_by structural xs => xs
end

end Value

end LiveText
