import LiveText.Fault

/-!
# Handles on states

A proxy offers the top-level properties that a state had when the proxy was made. A property handle
names one property by its path; it can be older or younger than the property.

## Main definitions

- `Proxy`, `Proxy.property`.
- `PropertyHandle`, `PropertyHandle.field`.
-/

namespace LiveText

/-- The identity of a state: the order in which states were made. -/
abbrev StateId := Nat

/-- One property of a state, by its path. -/
structure PropertyHandle where
  state : StateId
  path : Path
deriving DecidableEq, Repr

/-- The property one key further down. -/
def PropertyHandle.field (h : PropertyHandle) (key : String) : PropertyHandle :=
  { h with path := h.path.child key }

/-- A state and the keys that its data had. -/
structure Proxy where
  state : StateId
  keys : List String
deriving DecidableEq, Repr

namespace Proxy

/-- Whether a key was there when the proxy was made. -/
def has (p : Proxy) (key : String) : Bool :=
  p.keys.contains key

/-- The top-level property of a key. The key is taken whole, points included. -/
def property (p : Proxy) (key : String) : Except Fault PropertyHandle :=
  let path : Path := ⟨[key]⟩
  if p.has key then .ok ⟨p.state, path⟩ else .error (.unknownProperty path)

end Proxy

end LiveText
