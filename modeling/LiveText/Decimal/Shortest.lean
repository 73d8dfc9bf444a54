/-!
# Shortest decimal digits of a binary fraction

A binary64 number is `m · 2^q` with natural `m`. The reals that round to it form an interval whose
ends belong to it exactly when `m` is even. Among the decimal grids with 1, 2, …, 17 digits the
first that has a point in the interval fixes the number of digits, and of its points the one nearest
to the number is taken. Everything is exact arithmetic on natural numbers.

## Main definitions

- `Binary`: a positive finite binary64 number; `Binary.ofBits` reads it off its bits.
- `Numeral`: `digits · 10^exponent`.
- `Binary.shortest`: the digits described above.
-/

namespace LiveText.Decimal

/-- A positive number `mantissa · 2^exponent` together with the distance to its lower neighbour. -/
structure Binary where
  mantissa : Nat
  exponent : Int
  /-- The lower neighbour is at half the distance of the upper one: the mantissa is the least one
  of its binade, and the binade is not the lowest. -/
  narrowBelow : Bool
deriving DecidableEq, Repr

/-- The leading bit of a mantissa of 53 bits, which is not stored. -/
def hiddenBit : Nat := 0x10000000000000

/-- The magnitude that the low 63 bits of a binary64 number spell, when these are not the bits of
an infinity or of a number that is not one. -/
def Binary.ofBits (bits : UInt64) : Binary :=
  let fraction : Nat := bits.toNat % hiddenBit
  let biased : Nat := bits.toNat / hiddenBit % 2048
  if biased = 0 then
    { mantissa := fraction, exponent := -1074, narrowBelow := false }
  else
    { mantissa := hiddenBit + fraction
      exponent := (biased : Int) - 1075
      narrowBelow := fraction == 0 && biased != 1 }

/-- What is done with a number that lies exactly between two points of the decimal grid. -/
inductive Tie where
  /-- The larger point is taken. -/
  | up
  /-- The point with the even last digit is taken. -/
  | even
deriving DecidableEq, Repr

/-- The number `digits · 10^exponent`. -/
structure Numeral where
  digits : Nat
  exponent : Int
deriving DecidableEq, Repr

/-- The digits, most significant first. -/
def Numeral.figures (d : Numeral) : List Char :=
  Nat.toDigits 10 d.digits

/-- The exponent of the leading digit. -/
def Numeral.leading (d : Numeral) : Int :=
  d.exponent + d.figures.length - 1

/-- The same number without zeros at the end of its digits. -/
def Numeral.trimmed (digits : Nat) (exponent : Int) : Numeral :=
  if h : digits ≠ 0 ∧ digits % 10 = 0 then
    Numeral.trimmed (digits / 10) (exponent + 1)
  else
    ⟨digits, exponent⟩
termination_by digits
decreasing_by omega

namespace Binary

/-- The number and the ends of its rounding interval, in quarters of the distance to the upper
neighbour: `(low, number, high)`. -/
def quarters (x : Binary) : Nat × Nat × Nat :=
  (4 * x.mantissa - (if x.narrowBelow then 1 else 2), 4 * x.mantissa, 4 * x.mantissa + 2)

/-- Numerator factor of one quarter of the upper distance. -/
def unitNum (x : Binary) : Nat := Nat.pow 2 (x.exponent - 2).toNat

/-- Denominator of one quarter of the upper distance. -/
def unitDen (x : Binary) : Nat := Nat.pow 2 (2 - x.exponent).toNat

/-- The exponent `e` with `10^e ≤ x < 10^(e+1)`. -/
def leading (x : Binary) : Int :=
  let num := x.quarters.2.1 * x.unitNum
  let den := x.unitDen
  if den ≤ num then
    ((Nat.toDigits 10 (num / den)).length : Int) - 1
  else
    -((Nat.toDigits 10 (den / num)).length : Int)

/-- The point of the grid `10^k · ℕ` that lies in the rounding interval and is nearest to the
number, if there is one. -/
def onGrid (tie : Tie) (x : Binary) (k : Int) : Option Nat :=
  let scale := x.unitNum * Nat.pow 10 (-k).toNat
  let step := x.unitDen * Nat.pow 10 k.toNat
  let (low, number, high) := x.quarters
  let inside (c : Nat) : Bool :=
    if x.mantissa % 2 = 0 then
      low * scale ≤ c * step && c * step ≤ high * scale
    else
      low * scale < c * step && c * step < high * scale
  let below := number * scale / step
  let rest := number * scale % step
  match inside below, inside (below + 1) with
  | false, false => none
  | true, false => some below
  | false, true => some (below + 1)
  | true, true =>
    if 2 * rest < step then some below
    else if step < 2 * rest then some (below + 1)
    else match tie with
      | .up => some (below + 1)
      | .even => if below % 2 = 0 then some below else some (below + 1)

/-- The fewest digits that read back as the number, and of those the nearest to it. Seventeen
digits always suffice. -/
def shortest (tie : Tie) (x : Binary) : Numeral :=
  let grid (n : Nat) : Int := x.leading - n
  match (List.range 17).findSome? fun n => (x.onGrid tie (grid n)).map fun c => (c, grid n) with
  | some (c, k) => Numeral.trimmed c k
  | none => ⟨0, 0⟩

end Binary

end LiveText.Decimal
