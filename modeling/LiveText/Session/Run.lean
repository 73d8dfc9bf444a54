import LiveText.Session.Basic

/-!
# Runs

A run works on a session and either returns or is abandoned on the way; what it has done until then
stays done. Things that hold only during a run are put back when it is over, however it ends.

## Main definitions

- `Outcome`, `Run`.
- `Run.holding`: a run during which things are kept alive.
- `Run.collecting`: a run during which a collector is busy.

## Main statements

- `bind_returned`, `bind_abandoned`: a run goes on after another exactly if that one returns.
-/

namespace LiveText.Session

/-- How a run ends. -/
inductive Outcome (α : Type) where
  | returned (a : α)
  | abandoned
deriving Repr

/-- Work on a session. -/
def Run (α : Type) : Type :=
  Session → Outcome α × Session

namespace Run

variable {α β : Type}

/-- Returns at once. -/
def done (a : α) : Run α :=
  fun w => (.returned a, w)

/-- Goes on with what a run returns. -/
def andThen (run : Run α) (next : α → Run β) : Run β :=
  fun w =>
    match run w with
    | (.returned a, w) => next a w
    | (.abandoned, w) => (.abandoned, w)

instance : Monad Run where
  pure := done
  bind := andThen

@[simp] theorem pure_apply (a : α) (w : Session) : (pure a : Run α) w = (.returned a, w) := rfl

theorem bind_returned {run : Run α} {next : α → Run β} {w w' : Session} {a : α}
    (h : run w = (.returned a, w')) : (run >>= next) w = next a w' := by
  show andThen run next w = _
  simp [andThen, h]

theorem bind_abandoned {run : Run α} {next : α → Run β} {w w' : Session}
    (h : run w = (.abandoned, w')) : (run >>= next) w = (.abandoned, w') := by
  show andThen run next w = _
  simp [andThen, h]

/-- Changes the session. -/
def change (f : Session → Session) : Run Unit :=
  fun w => (.returned (), f w)

/-- A run during which things are kept alive. -/
def holding (holdings : List Holding) (run : Run α) : Run α :=
  fun w =>
    let (outcome, after) := run (w.hold holdings)
    (outcome, after.holdAs w)

/-- A run during which a collector is busy. -/
def collecting (c : CollectorId) (busy : Collector) (run : Run α) : Run α :=
  fun w =>
    let (outcome, after) := run (w.setCollector c busy)
    (outcome, after.setCollector c (after.collector c).finish)

end Run

end LiveText.Session
