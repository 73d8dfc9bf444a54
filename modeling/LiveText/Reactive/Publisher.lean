import LiveText.Fault

/-!
# Publishers

A publisher remembers who has asked to be told of changes. It does not keep its subscribers alive:
every operation is given the subscribers that live, and the ones that do not are as good as absent.
They are cleared away when the next subscriber is registered.

## Main definitions

- `Publisher`, `Publisher.subscribers`: the live subscribers in order of arrival.
- `Publisher.register`, `Publisher.inherit`: arrivals.
- `Publisher.track`: registration of whoever is collecting.

## Main statements

- `subscribers_register`: a registration adds its subscriber at the end, unless it is there.
-/

namespace LiveText

/-- Which subscribers live. -/
abbrev Liveness := SubscriberId → Bool

/-- Who has asked to be told, in order of arrival. -/
structure Publisher where
  arrivals : List SubscriberId := []
deriving DecidableEq, Repr, Inhabited

namespace Publisher

variable (live : Liveness)

/-- The live subscribers in order of arrival. -/
def subscribers (p : Publisher) : List SubscriberId :=
  p.arrivals.filter live

/-- Whether a live subscriber is registered. -/
def contains (p : Publisher) (s : SubscriberId) : Bool :=
  (p.subscribers live).contains s

/-- The number of live subscribers. -/
def count (p : Publisher) : Nat :=
  (p.subscribers live).length

/-- Registers a subscriber that is not registered yet, after the ones that live. -/
def register (p : Publisher) (s : SubscriberId) : Publisher :=
  ⟨if s ∈ p.subscribers live then p.subscribers live else p.subscribers live ++ [s]⟩

/-- Registers the live subscribers of another publisher, in its order. -/
def inherit (p other : Publisher) : Publisher :=
  (other.subscribers live).foldl (register live) p

/-- Registers whoever is collecting. -/
def track (p : Publisher) : Option SubscriberId → Publisher
  | some s => p.register live s
  | none => p

/-- Whether tracking makes a new registration. -/
def isNewTo (p : Publisher) : Option SubscriberId → Bool
  | some s => !p.contains live s
  | none => false

/-! ## Live subscribers after an operation -/

theorem subscribers_register (p : Publisher) {s : SubscriberId} (h : live s = true) :
    (p.register live s).subscribers live =
      if s ∈ p.subscribers live then p.subscribers live else p.subscribers live ++ [s] := by
  unfold register
  split <;> simp [subscribers, h]

end Publisher

end LiveText
