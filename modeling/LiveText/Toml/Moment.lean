import LiveText.Decimal.Integer

/-!
# Dates and times

Dates, times of day and both together, with or without an offset, as they are written in TOML.

## Main definitions

- `Moment`, `Moment.read?`, `Moment.text`.
-/

namespace LiveText.Toml

open Decimal

/-- A day of the calendar. -/
structure Day where
  year : Nat
  month : Nat
  day : Nat
deriving DecidableEq, Repr

/-- A time of day. -/
structure DayTime where
  hour : Nat
  minute : Nat
  second : Nat
  nanosecond : Nat
deriving DecidableEq, Repr

/-- The distance to universal time. -/
inductive Offset where
  | zulu
  | minutes (n : Int)
deriving DecidableEq, Repr

/-- A day, a time of day, or both. -/
structure Moment where
  day : Option Day
  time : Option DayTime
  offset : Option Offset
deriving DecidableEq, Repr

/-! ## Reading -/

/-- That many digits. -/
def readDigits? (width : Nat) (cs : List Char) : Option (Nat × List Char) :=
  let digits := cs.take width
  if digits.length = width ∧ digits.all isDigit then some (natOfDigits digits, cs.drop width)
  else none

/-- A character that must stand here. -/
def readChar? (c : Char) : List Char → Option (List Char)
  | d :: rest => if c = d then some rest else none
  | [] => none

/-- The number of days of a month. -/
def daysOf (year month : Nat) : Nat :=
  if month = 2 then
    if year % 4 = 0 ∧ (year % 100 ≠ 0 ∨ year % 400 = 0) then 29 else 28
  else if [4, 6, 9, 11].contains month then 30
  else 31

/-- A day that the calendar has. -/
def Day.read? (cs : List Char) : Option (Day × List Char) := do
  let (year, rest) ← readDigits? 4 cs
  let (month, rest) ← readDigits? 2 (← readChar? '-' rest)
  let (day, rest) ← readDigits? 2 (← readChar? '-' rest)
  if 1 ≤ month ∧ month ≤ 12 ∧ 1 ≤ day ∧ day ≤ daysOf year month then
    some (⟨year, month, day⟩, rest)
  else none

/-- The fraction of a second in nanoseconds; digits past the ninth do not count. -/
def readFraction (cs : List Char) : Nat × List Char :=
  match cs with
  | '.' :: rest =>
    let digits := rest.takeWhile isDigit
    if digits.isEmpty then (0, cs)
    else
      let kept := digits.take 9
      (natOfDigits kept * Nat.pow 10 (9 - kept.length), rest.dropWhile isDigit)
  | _ => (0, cs)

/-- A time of day; a minute may have a leap second. -/
def DayTime.read? (cs : List Char) : Option (DayTime × List Char) := do
  let (hour, rest) ← readDigits? 2 cs
  let (minute, rest) ← readDigits? 2 (← readChar? ':' rest)
  let (second, rest) ← readDigits? 2 (← readChar? ':' rest)
  let (nanosecond, rest) := readFraction rest
  if hour ≤ 23 ∧ minute ≤ 59 ∧ second ≤ 60 then some (⟨hour, minute, second, nanosecond⟩, rest)
  else none

/-- An offset with its sign. -/
def readOffset? (sign : Int) (cs : List Char) : Option (Option Offset × List Char) := do
  let (hour, rest) ← readDigits? 2 cs
  let (minute, rest) ← readDigits? 2 (← readChar? ':' rest)
  if hour ≤ 23 ∧ minute ≤ 59 then some (some (.minutes (sign * (60 * hour + minute))), rest)
  else none

/-- The offset after a time, if one stands here. -/
def Offset.read? (cs : List Char) : Option (Option Offset × List Char) :=
  match cs with
  | 'Z' :: rest | 'z' :: rest => some (some .zulu, rest)
  | '+' :: rest => readOffset? 1 rest
  | '-' :: rest => readOffset? (-1) rest
  | _ => some (none, cs)

/-- A day with the time after it, if there is one. -/
def readFromDay? (cs : List Char) : Option (Moment × List Char) := do
  let (day, rest) ← Day.read? cs
  let time? := match rest with
    | 'T' :: rest | 't' :: rest | ' ' :: rest => DayTime.read? rest
    | _ => none
  match time? with
  | some (time, rest) =>
    let (offset, rest) ← Offset.read? rest
    some ({ day := some day, time := some time, offset }, rest)
  | none => some ({ day := some day, time := none, offset := none }, rest)

/-- A day, a time of day, or both. -/
def Moment.read? (cs : List Char) : Option (Moment × List Char) :=
  match readFromDay? cs with
  | some found => some found
  | none =>
    (DayTime.read? cs).map fun (time, rest) =>
      ({ day := none, time := some time, offset := none }, rest)

/-! ## Writing -/

/-- A day. -/
def Day.chars (d : Day) : List Char :=
  padded 4 d.year ++ '-' :: (padded 2 d.month ++ '-' :: padded 2 d.day)

/-- A time of day; the fraction of the second is written without zeros at its end. -/
def DayTime.chars (t : DayTime) : List Char :=
  let fraction := if t.nanosecond = 0 then [] else
    '.' :: ((padded 9 t.nanosecond).reverse.dropWhile (· == '0')).reverse
  padded 2 t.hour ++ ':' :: (padded 2 t.minute ++ ':' :: (padded 2 t.second ++ fraction))

/-- An offset. -/
def Offset.chars : Offset → List Char
  | .zulu => ['Z']
  | .minutes n =>
    (if n < 0 then '-' else '+') :: (padded 2 (n.natAbs / 60) ++ ':' :: padded 2 (n.natAbs % 60))

/-- The text of a moment. -/
def Moment.text (m : Moment) : String :=
  let day := match m.day with
    | some d => d.chars
    | none => []
  let time := match m.time with
    | some t => (if m.day.isSome then ['T'] else []) ++ t.chars
    | none => []
  let offset := match m.offset with
    | some o => o.chars
    | none => []
  String.ofList (day ++ time ++ offset)

end LiveText.Toml
