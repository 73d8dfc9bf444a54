import LiveText.Decimal.Integer
import LiveText.Decimal.Layout
import LiveText.Value.Basic

/-!
# The text of a value

What a placeholder shows. Lists show their elements with commas between them, an object shows one
fixed text whatever it holds.
-/

namespace LiveText

open Decimal

/-- Numbers in placeholders are positional from `0.000001` up to below `10^21`, whole numbers have
no point, and a number halfway between two shortest digit strings takes the larger. -/
def placeholderLayout : Layout where
  tie := .up
  positionalFrom := -6
  positionalBelow := 21
  wholeMark := []

/-- The text of a floating-point number in a placeholder; both zeros are `0`. -/
def placeholderNumber (x : Float) : List Char :=
  if x.isNaN then "NaN".toList
  else if x.isInf then (if x < 0 then "-Infinity" else "Infinity").toList
  else if x == 0 then ['0']
  else placeholderLayout.writeFloat x

namespace Value

mutual
/-- The characters that a placeholder shows for a value. -/
def chars : Value → List Char
  | .null => "null".toList
  | .bool b => (if b then "true" else "false").toList
  | .int n => Decimal.ofInt n.toInt
  | .float x => placeholderNumber x
  | .str s => s.toList
  | .list items => charsItems items
  | .object _ => "[object Object]".toList
termination_by structural v => v

/-- The characters of values with commas between them. -/
def charsItems : List Value → List Char
  | [] => []
  | [x] => x.chars
  | x :: y :: rest => x.chars ++ ',' :: charsItems (y :: rest)
termination_by structural xs => xs
end

/-- What a placeholder shows for a value. -/
def text (v : Value) : String :=
  String.ofList v.chars

end Value

end LiveText
