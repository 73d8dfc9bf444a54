import LiveText.State.Slot

/-!
# States

A state holds nested data as a flat list of slots, one for each property, and tells for each
property who has read it. The data as a whole is not a property: only its keys are, and what is
below them.

## Main definitions

- `State.observe`: the state of a value.
- `State.valueAt?`, `State.snapshot`: the data put together again.
- `State.assign?`: a write to a property.
- `State.readTracked`: a read that registers whoever is collecting.
-/

namespace LiveText

/-- Slots in the order in which they were made, and the keys of the data. -/
structure State where
  slots : List Slot := []
  roots : List String := []
deriving Inhabited, Repr

namespace State

/-- The state of a value. Data that is not an object has no properties. -/
def observe : Value → State
  | .object entries => ⟨Slot.ofEntries Path.root entries, Entries.keys entries⟩
  | _ => {}

/-! ## Reading -/

/-- The slot of a property. -/
def slot? (st : State) (p : Path) : Option Slot :=
  st.slots.find? (·.path = p)

/-- Whether there is a property at a path. -/
def contains (st : State) (p : Path) : Bool :=
  (st.slot? p).isSome

/-- The paths of all properties, in the order of their slots. -/
def paths (st : State) : List Path :=
  st.slots.map Slot.path

/-- The number of properties. -/
def size (st : State) : Nat :=
  st.slots.length

/-- The keys on the way to the deepest property. -/
def depth (st : State) : Nat :=
  st.slots.foldr (fun s n => max s.path.length n) 0

/-- The value at a property, put together from slots at most `levels` deep. -/
def assemble? (st : State) : Nat → Path → Option Value
  | 0, _ => none
  | levels + 1, p =>
    match st.slot? p with
    | none => none
    | some s =>
      match s.content with
      | .leaf v => some v
      | .branch keys => some (.object (keys.filterMap fun key =>
          (assemble? st levels (p.child key)).map (key, ·)))

/-- The whole data. -/
def snapshot (st : State) : Value :=
  .object (st.roots.filterMap fun key =>
    (st.assemble? st.depth (Path.root.child key)).map (key, ·))

/-- The value at a path; at the root, the whole data. -/
def valueAt? (st : State) (p : Path) : Option Value :=
  if p.isRoot then some st.snapshot else st.assemble? st.depth p

/-- The number of live subscribers of the property at a path. -/
def subscriberCount (live : Liveness) (st : State) (p : Path) : Nat :=
  match st.slot? p with
  | some s => s.publisher.count live
  | none => 0

/-! ## Writing -/

/-- Changes the slot of a property. -/
def modifySlot (st : State) (p : Path) (f : Slot → Slot) : State :=
  { st with slots := st.slots.map fun s => if s.path = p then f s else s }

/-- A new slot, with the subscribers of the slot that had its path before. -/
def carryOver (live : Liveness) (old : List Slot) (fresh : Slot) : Slot :=
  match old.find? (·.path = fresh.path) with
  | some s => { fresh with publisher := fresh.publisher.inherit live s.publisher }
  | none => fresh

/-- The state after a write to a property, and the publisher to be notified. The slot of the
property stays where it is; the slots below it are replaced by those of the new value, at the end.
A path that had a slot before keeps the subscribers. A path that names no property is not written
to. -/
def assign? (live : Liveness) (st : State) (p : Path) (v : Value) : Option (Publisher × State) :=
  (st.slot? p).map fun target =>
    let removed := st.slots.filter (·.path.isBelow p)
    let kept := st.slots.filter (!·.path.isBelow p)
    let written := kept.map fun s => if s.path = p then { s with content := .ofValue v } else s
    let fresh := (Slot.belowValue p v).map (carryOver live removed)
    (target.publisher, { st with slots := written ++ fresh })

/-! ## Tracked reading -/

/-- Registers whoever is collecting with the properties on the way down, until one is missing; the
answer is the key that is. -/
def trackAlong (live : Liveness) (active : Option SubscriberId) :
    List Path → State → Option String × State
  | [], st => (none, st)
  | p :: rest, st =>
    if st.contains p then
      trackAlong live active rest
        (st.modifySlot p fun s => { s with publisher := s.publisher.track live active })
    else (some (p.last?.getD ""), st)

/-- The value at a path, read on behalf of whoever is collecting. -/
def readTracked (live : Liveness) (active : Option SubscriberId) (p : Path) (st : State) :
    Except Fault Value × State :=
  match trackAlong live active p.prefixes st with
  | (some key, st) => (.error (.missingDataPath p key), st)
  | (none, st) =>
    match st.valueAt? p with
    | some v => (.ok v, st)
    | none => (.error (.missingDataPath p (p.last?.getD "")), st)

end State

end LiveText
