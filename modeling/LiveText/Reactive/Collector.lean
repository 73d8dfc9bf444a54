import LiveText.Reactive.Publisher

/-!
# Collectors

A collector has one place for the subscriber on whose behalf properties are being read. While the
place is taken, another collection is refused.

## Main definitions

- `Collector`, `Collector.start`, `Collector.finish`.
-/

namespace LiveText

/-- The subscriber for whom properties are being read, if any. -/
structure Collector where
  active : Option SubscriberId := none
deriving DecidableEq, Repr, Inhabited

namespace Collector

/-- The collector while it collects for a subscriber; one that is collecting already refuses. -/
def start (c : Collector) (s : SubscriberId) : Except Fault Collector :=
  match c.active with
  | some active => .error (.reentrantCollection active s)
  | none => .ok ⟨some s⟩

/-- The collector when a collection is over. -/
def finish (_ : Collector) : Collector :=
  ⟨none⟩

end Collector

end LiveText
