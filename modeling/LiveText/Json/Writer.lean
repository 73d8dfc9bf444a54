import LiveText.Decimal.Integer
import LiveText.Decimal.Layout
import LiveText.Value.Basic

/-!
# JSON of values

The compact JSON text of a value: no blanks, entries in their order, floating-point numbers always
with a point or an exponent, and `null` for those that JSON cannot write.
-/

namespace LiveText

namespace Json

open Decimal

/-- Numbers in JSON are positional from `0.00001` up to below `10^16`, whole numbers end in `.0`,
and a number halfway between two shortest digit strings takes the even one. -/
def numberLayout : Layout where
  tie := .even
  positionalFrom := -5
  positionalBelow := 16
  wholeMark := ['.', '0']

/-- The JSON text of a floating-point number. -/
def writeFloat (x : Float) : List Char :=
  if x.isNaN || x.isInf then "null".toList
  else if x == 0 then (if x.toBits == 0 then "0.0" else "-0.0").toList
  else numberLayout.writeFloat x

/-- A hexadecimal digit, in small letters. -/
def hexDigit (n : Nat) : Char :=
  if n < 10 then Char.ofNat ('0'.toNat + n) else Char.ofNat ('a'.toNat + (n - 10))

/-- A character inside quotes. -/
def escape (c : Char) : List Char :=
  if c = '"' then ['\\', '"']
  else if c = '\\' then ['\\', '\\']
  else if c = '\x08' then ['\\', 'b']
  else if c = '\x0c' then ['\\', 'f']
  else if c = '\n' then ['\\', 'n']
  else if c = '\r' then ['\\', 'r']
  else if c = '\t' then ['\\', 't']
  else if c.toNat < 0x20 then
    ['\\', 'u', '0', '0', hexDigit (c.toNat / 16), hexDigit (c.toNat % 16)]
  else [c]

/-- A text in quotes. -/
def quote (s : String) : List Char :=
  '"' :: (s.toList.flatMap escape ++ ['"'])

end Json

namespace Value

mutual
/-- The characters of the JSON text. -/
def jsonChars : Value → List Char
  | .null => "null".toList
  | .bool b => (if b then "true" else "false").toList
  | .int n => Decimal.ofInt n.toInt
  | .float x => Json.writeFloat x
  | .str s => Json.quote s
  | .list items => '[' :: (jsonItems items ++ [']'])
  | .object entries => '\x7b' :: (jsonEntries entries ++ ['\x7d'])
termination_by structural v => v

/-- Elements with commas between them. -/
def jsonItems : List Value → List Char
  | [] => []
  | [x] => x.jsonChars
  | x :: y :: rest => x.jsonChars ++ ',' :: jsonItems (y :: rest)
termination_by structural xs => xs

/-- Entries with commas between them. -/
def jsonEntries : List (String × Value) → List Char
  | [] => []
  | [(k, x)] => Json.quote k ++ ':' :: x.jsonChars
  | (k, x) :: e :: rest => Json.quote k ++ ':' :: (x.jsonChars ++ ',' :: jsonEntries (e :: rest))
termination_by structural es => es
end

/-- The compact JSON text. -/
def json (v : Value) : String :=
  String.ofList v.jsonChars

end Value

end LiveText
