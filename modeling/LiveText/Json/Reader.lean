import LiveText.Decimal.Nearest
import LiveText.Json.Syntax
import LiveText.Value.Basic

/-!
# Values from JSON

What a JSON tree stands for. A tree stands for no value when it is nested too deeply, when a number
lies beyond the floating-point range, or when an escaped surrogate has no partner.

## Main definitions

- `NumberText.value?`: integers of 64 bits stay integers, every other number is floating-point.
- `decodePieces`: surrogate pairs are joined.
- `Tree.value?`, `Value.ofJson?`.
-/

namespace LiveText.Json

open Decimal

/-! ## Numbers

The digits are gathered into one 64-bit significand. Once a further digit would not fit, the
remaining digits before the point only count as powers of ten, and digits after the point are no
longer read. The significand is then scaled by a power of ten in floating point.
-/

/-- The largest significand. -/
def maxSignificand : Nat := UInt64.size - 1

/-- Appends digits to a significand while it fits; the rest are the digits not read. -/
def gather (significand : Nat) : List Char → Nat × List Char
  | [] => (significand, [])
  | c :: cs =>
    let next := 10 * significand + (c.toNat - '0'.toNat)
    if next ≤ maxSignificand then gather next cs else (significand, c :: cs)

/-- The power of ten nearest to `10^n` in floating point. -/
def powerOfTen (n : Nat) : Float :=
  nearestFloat 1 n

/-- A number divided by `10^n`, in steps of at most `10^308`. -/
def scaleDown (x : Float) (n : Nat) : Float :=
  if n ≤ 308 then x / powerOfTen n
  else if x == 0 then x
  else scaleDown (x / powerOfTen 308) (n - 308)
termination_by n
decreasing_by omega

/-- A significand times a power of ten, unless that is out of range. -/
def scale? (significand : Nat) (exponent : Int) : Option Float :=
  let x := nearestFloat significand 0
  if exponent < 0 then some (scaleDown x exponent.natAbs)
  else if 308 < exponent then
    if significand = 0 then some x else none
  else
    let y := x * powerOfTen exponent.natAbs
    if y.isInf then none else some y

/-- The number that the digits of the exponent spell, with its sign. -/
def NumberText.exponentValue (n : NumberText) : Int :=
  match n.exponent with
  | some (true, digits) => -(natOfDigits digits : Int)
  | some (false, digits) => natOfDigits digits
  | none => 0

/-- A number's value in floating point. -/
def NumberText.float? (n : NumberText) : Option Float :=
  let (whole, unread) := gather 0 n.whole
  let (significand, rest) := gather whole n.fraction
  let places : Int := n.fraction.length - rest.length
  (scale? significand (unread.length - places + n.exponentValue)).map fun x =>
    if n.negative then -x else x

/-- Integers that fit into 64 bits with a sign are integers. All other numbers, and zero with a
minus sign, are floating-point numbers. -/
def NumberText.value? (n : NumberText) : Option Value :=
  let magnitude := natOfDigits n.whole
  if n.fraction.isEmpty && n.exponent.isNone && magnitude ≤ maxSignificand then
    if n.negative then
      if magnitude ≠ 0 ∧ Int64.minValue.toInt ≤ -magnitude then
        some (.int (Int64.ofInt (-magnitude)))
      else some (.float (-(nearestFloat magnitude 0)))
    else if magnitude ≤ Int64.maxValue.toInt then some (.int (Int64.ofInt magnitude))
    else some (.float (nearestFloat magnitude 0))
  else n.float?.map .float

/-! ## Texts -/

/-- Whether a UTF-16 unit is the first of a pair. -/
def isHighSurrogate (u : Nat) : Bool := 0xD800 ≤ u && u < 0xDC00

/-- Whether a UTF-16 unit is the second of a pair. -/
def isLowSurrogate (u : Nat) : Bool := 0xDC00 ≤ u && u < 0xE000

/-- The characters of a quoted text, unless a surrogate stands alone. -/
def decodePieces : List TextPiece → Option (List Char)
  | [] => some []
  | .char c :: rest => (decodePieces rest).map (c :: ·)
  | .unit u :: .unit v :: rest =>
    if isHighSurrogate u then
      if isLowSurrogate v then
        let code := 0x10000 + (u - 0xD800) * 0x400 + (v - 0xDC00)
        (decodePieces rest).map (Char.ofNat code :: ·)
      else none
    else if isLowSurrogate u then none
    else (decodePieces (.unit v :: rest)).map (Char.ofNat u :: ·)
  | .unit u :: rest =>
    if isHighSurrogate u || isLowSurrogate u then none
    else (decodePieces rest).map (Char.ofNat u :: ·)

/-- The string of a quoted text. -/
def decodeText (pieces : List TextPiece) : Option String :=
  (decodePieces pieces).map String.ofList

/-! ## Trees -/

mutual
/-- The value of a tree in which at most `levels` lists and objects are nested. -/
def Tree.value? (levels : Nat) : Tree → Option Value
  | .null => some .null
  | .bool b => some (.bool b)
  | .number n => n.value?
  | .text pieces => (decodeText pieces).map .str
  | .list items =>
    match levels with
    | 0 => none
    | l + 1 => (itemValues? l items).map .list
  | .object entries =>
    match levels with
    | 0 => none
    | l + 1 => (entryValues? l entries).map .ofPairs
termination_by structural t => t

/-- The values of the elements of a list. -/
def itemValues? (levels : Nat) : List Tree → Option (List Value)
  | [] => some []
  | t :: ts => do
    let v ← t.value? levels
    let vs ← itemValues? levels ts
    some (v :: vs)
termination_by structural ts => ts

/-- The keys and contents of the entries of an object. -/
def entryValues? (levels : Nat) : List (List TextPiece × Tree) → Option (List (String × Value))
  | [] => some []
  | (key, t) :: rest => do
    let k ← decodeText key
    let v ← t.value? levels
    let others ← entryValues? levels rest
    some ((k, v) :: others)
termination_by structural es => es
end

/-- How many lists and objects may be nested. -/
def maxLevels : Nat := 127

end LiveText.Json

namespace LiveText

/-- The value that a JSON text stands for. -/
def Value.ofJson? (text : String) : Option Value := do
  let tree ← Json.Tree.ofChars? text.toList
  tree.value? Json.maxLevels

end LiveText
