/-!
# Blank characters

The characters with the Unicode property `White_Space`, and trimming by them. The property holds
of twenty-five code points; the ASCII ones among them are the six usual ones without any other
control character.

## Main definitions

- `isBlank`: membership in the property.
- `trim`: a text without its leading and trailing blanks.
-/

namespace LiveText.Text

/-- The ranges of code points with the property `White_Space`, in ascending order. -/
def blankRanges : List (Nat × Nat) :=
  [ (0x09, 0x0D), (0x20, 0x20), (0x85, 0x85), (0xA0, 0xA0), (0x1680, 0x1680), (0x2000, 0x200A),
    (0x2028, 0x2029), (0x202F, 0x202F), (0x205F, 0x205F), (0x3000, 0x3000) ]

/-- Whether a character has the property `White_Space`. -/
def isBlank (c : Char) : Bool :=
  blankRanges.any fun (first, last) => first ≤ c.toNat && c.toNat ≤ last

/-- A text without its leading blanks. -/
def trimStart (cs : List Char) : List Char :=
  cs.dropWhile isBlank

/-- A text without its trailing blanks. -/
def trimEnd (cs : List Char) : List Char :=
  (trimStart cs.reverse).reverse

/-- A text without its leading and trailing blanks. -/
def trim (cs : List Char) : List Char :=
  trimEnd (trimStart cs)

/-- The maximal stretches of a text that hold no blank, in order. -/
def words (cs : List Char) : List (List Char) :=
  (cs.splitBy fun a b => isBlank a == isBlank b).filter fun w => w.any fun c => !isBlank c

/-- An ASCII capital letter becomes small; every other character stays. -/
def lowerAscii (s : String) : String :=
  String.ofList (s.toList.map Char.toLower)

/-- Two texts agree up to the case of ASCII letters. -/
def sameUpToAsciiCase (a b : String) : Bool :=
  lowerAscii a == lowerAscii b

example : (blankRanges.map fun (first, last) => last + 1 - first).sum = 25 := by decide

end LiveText.Text
