import LiveText.Decimal.Integer

/-!
# JSON syntax

JSON texts as trees that keep numbers and escapes as they were written, and the reader of such
trees. What a number or an escape stands for, and whether it stands for anything, is settled by
whoever uses the tree; a part that is never used is checked for its syntax only.

## Main definitions

- `Tree`: a JSON text; `NumberText` and `TextPiece` are its leaves.
- `Tree.ofChars?`: the tree of a whole text.
-/

namespace LiveText.Json

open Decimal

/-- A number as written. -/
structure NumberText where
  negative : Bool
  /-- The digits before the point: a lone zero, or no zero in front. -/
  whole : List Char
  /-- The digits after the point; empty when there is no point. -/
  fraction : List Char
  /-- The sign and the digits of the exponent. -/
  exponent : Option (Bool × List Char)
deriving DecidableEq, Repr

/-- One character of a quoted text, or one UTF-16 unit that was written as `\u` and four digits. -/
inductive TextPiece where
  | char (c : Char)
  | unit (u : Nat)
deriving DecidableEq, Repr

/-- A JSON text. -/
inductive Tree where
  | null
  | bool (b : Bool)
  | number (n : NumberText)
  | text (pieces : List TextPiece)
  | list (items : List Tree)
  | object (entries : List (List TextPiece × Tree))
deriving Inhabited, Repr

/-! ## Blanks and leaves -/

/-- The four characters that may stand between the parts of a JSON text. -/
def isBlank (c : Char) : Bool :=
  c == ' ' || c == '\n' || c == '\t' || c == '\r'

/-- What follows the blanks in front. -/
def skipBlanks (cs : List Char) : List Char :=
  cs.dropWhile isBlank

/-- The exponent of a number, if one starts here. -/
def readExponent (cs : List Char) : Option (Option (Bool × List Char) × List Char) :=
  match cs with
  | c :: rest =>
    if c = 'e' ∨ c = 'E' then
      let (negative, rest) := match rest with
        | '+' :: rest => (false, rest)
        | '-' :: rest => (true, rest)
        | rest => (false, rest)
      let digits := rest.takeWhile isDigit
      if digits.isEmpty then none else some (some (negative, digits), rest.dropWhile isDigit)
    else some (none, cs)
  | [] => some (none, [])

/-- The digits after a point, if one stands here; a point needs at least one digit. -/
def readFraction (cs : List Char) : Option (List Char × List Char) :=
  match cs with
  | '.' :: rest =>
    let digits := rest.takeWhile isDigit
    if digits.isEmpty then none else some (digits, rest.dropWhile isDigit)
  | _ => some ([], cs)

/-- A number without its sign. -/
def readUnsigned (negative : Bool) (cs : List Char) : Option (NumberText × List Char) := do
  let whole := cs.takeWhile isDigit
  let rest := cs.dropWhile isDigit
  if whole.isEmpty || (whole.head? == some '0' && whole.length != 1) then none
  else
    let (fraction, rest) ← readFraction rest
    let (exponent, rest) ← readExponent rest
    some ({ negative, whole, fraction, exponent }, rest)

/-- A number. -/
def readNumber (cs : List Char) : Option (NumberText × List Char) :=
  match cs with
  | '-' :: rest => readUnsigned true rest
  | _ => readUnsigned false cs

/-- The character that a one-letter escape stands for. -/
def unescape? : Char → Option Char
  | '"' => some '"'
  | '\\' => some '\\'
  | '/' => some '/'
  | 'b' => some '\x08'
  | 'f' => some '\x0c'
  | 'n' => some '\n'
  | 'r' => some '\r'
  | 't' => some '\t'
  | _ => none

/-- The rest of a quoted text, after the opening quote. Control characters must be escaped. -/
def readQuoted : List Char → Option (List TextPiece × List Char)
  | [] => none
  | '"' :: rest => some ([], rest)
  | '\\' :: 'u' :: a :: b :: c :: d :: rest =>
    match natOfHex? [a, b, c, d] with
    | some u => (readQuoted rest).map fun (ps, after) => (.unit u :: ps, after)
    | none => none
  | '\\' :: e :: rest =>
    match unescape? e with
    | some c => (readQuoted rest).map fun (ps, after) => (.char c :: ps, after)
    | none => none
  | c :: rest =>
    if c = '\\' ∨ c.toNat < 0x20 then none
    else (readQuoted rest).map fun (ps, after) => (.char c :: ps, after)

/-! ## Trees -/

/-- What stands between two parts of a list or an object: a comma, after which another part
follows, or the closing bracket. The answer tells which, with the rest after it. -/
def readSeparator (close : Char) (cs : List Char) : Option (Bool × List Char) :=
  match skipBlanks cs with
  | c :: rest =>
    if c = ',' then some (true, rest)
    else if c = close then some (false, rest)
    else none
  | [] => none

/-- The key of an entry and the colon after it. -/
def readKey (cs : List Char) : Option (List TextPiece × List Char) :=
  match skipBlanks cs with
  | '"' :: rest =>
    match readQuoted rest with
    | some (key, rest) =>
      match skipBlanks rest with
      | ':' :: rest => some (key, rest)
      | _ => none
    | none => none
  | _ => none

mutual
/-- A JSON text at the front. The fuel bounds the parts still to be entered. -/
def readTree : Nat → List Char → Option (Tree × List Char)
  | 0, _ => none
  | fuel + 1, cs =>
    match skipBlanks cs with
    | 'n' :: 'u' :: 'l' :: 'l' :: rest => some (.null, rest)
    | 't' :: 'r' :: 'u' :: 'e' :: rest => some (.bool true, rest)
    | 'f' :: 'a' :: 'l' :: 's' :: 'e' :: rest => some (.bool false, rest)
    | '"' :: rest => (readQuoted rest).map fun (ps, rest) => (.text ps, rest)
    | '[' :: rest =>
      match skipBlanks rest with
      | ']' :: rest => some (.list [], rest)
      | _ => (readItems fuel rest).map fun (items, rest) => (.list items, rest)
    | '\x7b' :: rest =>
      match skipBlanks rest with
      | '\x7d' :: rest => some (.object [], rest)
      | _ => (readEntries fuel rest).map fun (entries, rest) => (.object entries, rest)
    | rest => (readNumber rest).map fun (n, rest) => (.number n, rest)

/-- One or more elements of a list, up to its closing bracket. -/
def readItems : Nat → List Char → Option (List Tree × List Char)
  | 0, _ => none
  | fuel + 1, cs => do
    let (item, rest) ← readTree fuel cs
    let (more, rest) ← readSeparator ']' rest
    if more then
      let (items, rest) ← readItems fuel rest
      some (item :: items, rest)
    else some ([item], rest)

/-- One or more entries of an object, up to its closing bracket. -/
def readEntries : Nat → List Char → Option (List (List TextPiece × Tree) × List Char)
  | 0, _ => none
  | fuel + 1, cs => do
    let (key, rest) ← readKey cs
    let (content, rest) ← readTree fuel rest
    let (more, rest) ← readSeparator '\x7d' rest
    if more then
      let (entries, rest) ← readEntries fuel rest
      some ((key, content) :: entries, rest)
    else some ([(key, content)], rest)
end

/-- The tree of a whole text: one JSON text with blanks around it and nothing else. Two parts are
entered for each character at most, which is what the fuel counts. -/
def Tree.ofChars? (cs : List Char) : Option Tree :=
  match readTree (2 * cs.length + 2) cs with
  | some (tree, rest) => if (skipBlanks rest).isEmpty then some tree else none
  | none => none

end LiveText.Json
