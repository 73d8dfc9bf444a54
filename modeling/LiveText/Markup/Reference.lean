import LiveText.Decimal.Integer
import LiveText.Markup.Names

/-!
# Character references

`&amp;`, `&#38;`, `&#x26;` and their like. Some names may stand without a semicolon; of those the
longest that fits is taken, and inside attribute values it is left alone when a letter, a digit or
an equals sign follows.

## Main definitions

- `reference?`: the reference at the front of a text, after its ampersand.
- `decodeValue`: an attribute value with its references replaced.
-/

namespace LiveText.Markup

open Decimal

/-! ## Numbers -/

/-- What the code points from U+0080 on stand for, as far as they stand for something other than
themselves; zero marks those that do not. -/
def replacedControls : List Nat :=
  [ 0x20AC, 0, 0x201A, 0x0192, 0x201E, 0x2026, 0x2020, 0x2021, 0x02C6, 0x2030, 0x0160, 0x2039,
    0x0152, 0, 0x017D, 0, 0, 0x2018, 0x2019, 0x201C, 0x201D, 0x2022, 0x2013, 0x2014, 0x02DC, 0x2122,
    0x0161, 0x203A, 0x0153, 0, 0x017E, 0x0178 ]

/-- The character that a number stands for. Zero, surrogates and numbers beyond the last code point
stand for the replacement character. -/
def numbered (code : Nat) : Char :=
  if code = 0 ∨ 0x10FFFF < code ∨ (0xD800 ≤ code ∧ code < 0xE000) then '\ufffd'
  else if 0x80 ≤ code then
    match replacedControls[code - 0x80]? with
    | some 0 | none => Char.ofNat code
    | some other => Char.ofNat other
  else Char.ofNat code

/-! ## References -/

/-- What a reference stands for, and whether it ended in a semicolon. -/
structure Reference where
  chars : List Char
  closed : Bool
deriving DecidableEq, Repr

/-- A reference by number, after the digits. -/
def closeNumber (code : Nat) (cs : List Char) : Reference × List Char :=
  match cs with
  | ';' :: rest => (⟨[numbered code], true⟩, rest)
  | _ => (⟨[numbered code], false⟩, cs)

/-- Whether a character is a hexadecimal digit. -/
def isHexDigit (c : Char) : Bool :=
  (hexValue? c).isSome

/-- A reference by number, after the number sign. -/
def numeric? (cs : List Char) : Option (Reference × List Char) :=
  match cs with
  | 'x' :: rest | 'X' :: rest =>
    let digits := rest.takeWhile isHexDigit
    if digits.isEmpty then none
    else (natOfHex? digits).map fun code => closeNumber code (rest.dropWhile isHexDigit)
  | _ =>
    let digits := cs.takeWhile isDigit
    if digits.isEmpty then none
    else some (closeNumber (natOfDigits digits) (cs.dropWhile isDigit))

/-- The longest name without a semicolon that a run of letters and digits begins with: its length
and what it stands for. -/
def openName? (run : List Char) : Option (Nat × List Char) :=
  (List.range run.length).reverse.findSome? fun n =>
    let name := String.ofList (run.take (n + 1))
    if name ∈ openNames then (named? name).map fun chars => (n + 1, chars) else none

/-- Whether what follows a name without a semicolon keeps it from being a reference inside an
attribute value. -/
def staysLiteral (cs : List Char) : Bool :=
  match cs with
  | c :: _ => c == '=' || c.isAlphanum
  | [] => false

/-- The reference at the front of a text, after its ampersand. -/
def reference? (inValue : Bool) (cs : List Char) : Option (Reference × List Char) :=
  match cs with
  | '#' :: rest => numeric? rest
  | _ =>
    let run := cs.takeWhile Char.isAlphanum
    let found : Option (Reference × List Char) := match cs.dropWhile Char.isAlphanum with
      | ';' :: rest => (named? (String.ofList run)).map fun chars => (⟨chars, true⟩, rest)
      | _ => none
    found.or <|
      match openName? run with
      | some (n, chars) =>
        if inValue && staysLiteral (cs.drop n) then none else some (⟨chars, false⟩, cs.drop n)
      | none => none

/-- A text with its references replaced, for attribute values. The fuel bounds the characters. -/
def decodeValueWithin : Nat → List Char → List Char
  | 0, _ => []
  | _ + 1, [] => []
  | fuel + 1, '&' :: rest =>
    match reference? true rest with
    | some (r, after) => r.chars ++ decodeValueWithin fuel after
    | none => '&' :: decodeValueWithin fuel rest
  | fuel + 1, c :: rest => c :: decodeValueWithin fuel rest

/-- An attribute value with its references replaced. -/
def decodeValue (cs : List Char) : List Char :=
  decodeValueWithin cs.length cs

end LiveText.Markup
