import LiveText.Decimal.Shortest

/-!
# Layout of decimal numbers

A number is written positionally (`1250`, `0.00025`) or with an exponent (`1.25e-9`). A `Layout`
says where the one ends and the other begins, what marks a whole number, and how an exact tie
between two shortest digit strings goes.
-/

namespace LiveText.Decimal

/-- The choices of a written form. -/
structure Layout where
  tie : Tie
  /-- The least exponent of the leading digit that is still written positionally. -/
  positionalFrom : Int
  /-- The first exponent of the leading digit that is no longer written positionally. -/
  positionalBelow : Int
  /-- What follows a whole number that is written positionally. -/
  wholeMark : List Char
deriving Repr

/-- The positional form. -/
def Numeral.positional (wholeMark : List Char) (d : Numeral) : List Char :=
  let point := d.figures.length + d.exponent
  if 0 ≤ d.exponent then
    d.figures ++ List.replicate d.exponent.toNat '0' ++ wholeMark
  else if 0 < point then
    d.figures.take point.toNat ++ '.' :: d.figures.drop point.toNat
  else
    '0' :: '.' :: (List.replicate (-point).toNat '0' ++ d.figures)

/-- The form with an exponent: one digit, the others after a point, the exponent with its sign. -/
def Numeral.scientific (d : Numeral) : List Char :=
  let mantissa := match d.figures with
    | [] => []
    | [c] => [c]
    | c :: cs => c :: '.' :: cs
  let sign := if d.leading < 0 then '-' else '+'
  mantissa ++ 'e' :: sign :: Nat.toDigits 10 d.leading.natAbs

/-- The written form of a number above zero. -/
def Layout.write (l : Layout) (d : Numeral) : List Char :=
  if l.positionalFrom ≤ d.leading ∧ d.leading < l.positionalBelow then
    d.positional l.wholeMark
  else
    d.scientific

/-- The written form of a finite number other than zero, with its sign. -/
def Layout.writeFloat (l : Layout) (x : Float) : List Char :=
  let magnitude := l.write ((Binary.ofBits x.toBits).shortest l.tie)
  if x < 0 then '-' :: magnitude else magnitude

end LiveText.Decimal
