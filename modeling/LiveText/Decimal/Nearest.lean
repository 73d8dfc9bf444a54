import LiveText.Decimal.Shortest

/-!
# The binary fraction nearest to a decimal number

A positive rational number is rounded to the nearest binary64 number, and a number halfway between
two goes to the one with the even mantissa. Numbers too large become infinite.

## Main definitions

- `roundHalfEven`: a quotient rounded to a natural number.
- `nearestBits`: the bits of the nearest binary64 number.
- `nearestFloat`: the number nearest to `digits · 10^exponent`.
-/

namespace LiveText.Decimal

/-- A quotient rounded to the nearest natural number, halves to the even one. -/
def roundHalfEven (num den : Nat) : Nat :=
  let below := num / den
  let twice := 2 * (num % den)
  if twice < den then below
  else if den < twice then below + 1
  else if below % 2 = 0 then below
  else below + 1

/-- The exponent `e` with `2^e ≤ num / den < 2^(e+1)`, for positive numbers. -/
def binaryLeading (num den : Nat) : Int :=
  let guess : Int := (num.log2 : Int) - den.log2
  let reached := den * Nat.pow 2 guess.toNat ≤ num * Nat.pow 2 (-guess).toNat
  if reached then guess else guess - 1

/-- The bits of infinity. -/
def infinityBits : Nat := 2047 * hiddenBit

/-- The bits of the binary64 number nearest to `num / den`. -/
def nearestBits (num den : Nat) : Nat :=
  if num = 0 then 0
  else
    let exponent := max (binaryLeading num den - 52) (-1074)
    let mantissa :=
      roundHalfEven (num * Nat.pow 2 (-exponent).toNat) (den * Nat.pow 2 exponent.toNat)
    -- A mantissa below 2^52 occurs at the least exponent alone; one of 2^53 moves on by itself.
    let bits := (exponent + 1074).toNat * hiddenBit + mantissa
    min bits infinityBits

/-- The number nearest to `digits · 10^exponent`. -/
def nearestFloat (digits : Nat) (exponent : Int) : Float :=
  let num := digits * Nat.pow 10 exponent.toNat
  Float.ofBits (UInt64.ofNat (nearestBits num (Nat.pow 10 (-exponent).toNat)))

end LiveText.Decimal
