import LiveText.Reactive.Publisher
import LiveText.Value.Basic

/-!
# Slots

A state is kept flat: there is one slot for each property at every depth. The slot of an object
holds its keys; what is under them is in slots of its own.

## Main definitions

- `Slot`, `SlotContent`.
- `Slot.ofValue`: the slots of a value, each one before those below it.
-/

namespace LiveText

/-- What a slot holds. -/
inductive SlotContent where
  /-- A value that is not an object. -/
  | leaf (value : Value)
  /-- An object, by its keys. -/
  | branch (keys : List String)
deriving Inhabited, Repr

/-- The content of the slot of a value. -/
def SlotContent.ofValue : Value → SlotContent
  | .object entries => .branch (Entries.keys entries)
  | v => .leaf v

/-- A property: where it is, what it holds, and who is told when it is written. -/
structure Slot where
  path : Path
  content : SlotContent
  publisher : Publisher := {}
deriving Inhabited, Repr

namespace Slot

mutual
/-- The slots of a value at a path: its own, then those below it. Nobody is registered with them. -/
def ofValue (path : Path) : Value → List Slot
  | .object entries => ⟨path, .branch (Entries.keys entries), {}⟩ :: ofEntries path entries
  | v => [⟨path, .leaf v, {}⟩]
termination_by structural v => v

/-- The slots of the entries of an object at a path. -/
def ofEntries (path : Path) : List (String × Value) → List Slot
  | [] => []
  | (key, v) :: rest => ofValue (path.child key) v ++ ofEntries path rest
termination_by structural entries => entries
end

/-- The slots strictly below a value at a path. -/
def belowValue (path : Path) : Value → List Slot
  | .object entries => ofEntries path entries
  | _ => []

end Slot

end LiveText
