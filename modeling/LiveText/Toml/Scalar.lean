import LiveText.Decimal.Nearest
import LiveText.Toml.Moment
import LiveText.Value.Basic

/-!
# TOML scalars

Texts, numbers, dates and truth values, and the blanks and comments between them.

## Main definitions

- `skipBlanks`, `endLine?`: what may stand between the parts.
- `readString?`: a text in one of its four notations.
- `readScalar?`: any value that holds no others.
-/

namespace LiveText.Toml

open Decimal

/-! ## Between the parts -/

/-- A blank inside a line. -/
def isBlank (c : Char) : Bool :=
  c == ' ' || c == '\t'

/-- What follows the blanks in front. -/
def skipBlanks (cs : List Char) : List Char :=
  cs.dropWhile isBlank

/-- A character that may stand in a text or a comment: no control character but the tab. -/
def isPlain (c : Char) : Bool :=
  c == '\t' || (0x20 ≤ c.toNat && c.toNat ≤ 0x7E) || 0x80 ≤ c.toNat

/-- What follows the end of a line. -/
def newline? : List Char → Option (List Char)
  | '\n' :: rest => some rest
  | '\r' :: '\n' :: rest => some rest
  | _ => none

/-- What follows a comment, if one stands here. -/
def skipComment (cs : List Char) : List Char :=
  match cs with
  | '#' :: rest => rest.dropWhile isPlain
  | _ => cs

/-- What follows the rest of a line that holds nothing but blanks and a comment. -/
def endLine? (cs : List Char) : Option (List Char) :=
  match skipComment (skipBlanks cs) with
  | [] => some []
  | rest => newline? rest

/-- What follows blanks, ends of lines and comments. The fuel bounds the lines. -/
def skipLinesWithin : Nat → List Char → List Char
  | 0, cs => cs
  | fuel + 1, cs =>
    let rest := skipBlanks cs
    match newline? (skipComment rest) with
    | some rest => skipLinesWithin fuel rest
    | none => rest

/-- What follows blanks, ends of lines and comments. -/
def skipLines (cs : List Char) : List Char :=
  skipLinesWithin cs.length cs

/-! ## Texts -/

/-- A text with what follows it. -/
abbrev TextRead := Option (List Char × List Char)

/-- One more character in front of a text that has been read. -/
def TextRead.cons (c : Char) (r : TextRead) : TextRead :=
  r.map fun (text, rest) => (c :: text, rest)

/-- The character that hexadecimal digits stand for; surrogates stand for none. -/
def hexChar? (digits : List Char) : Option Char := do
  let code ← natOfHex? digits
  if h : code.isValidChar then some (Char.ofNatAux code h) else none

/-- The character that a letter after a backslash stands for. -/
def unescape? : Char → Option Char
  | 'b' => some '\x08'
  | 't' => some '\t'
  | 'n' => some '\n'
  | 'f' => some '\x0c'
  | 'r' => some '\r'
  | '"' => some '"'
  | '\\' => some '\\'
  | _ => none

/-- A character after a backslash, with what follows it. -/
def readEscape? (cs : List Char) : Option (Char × List Char) :=
  match cs with
  | 'u' :: rest =>
    if rest.length < 4 then none else (hexChar? (rest.take 4)).map (·, rest.drop 4)
  | 'U' :: rest =>
    if rest.length < 8 then none else (hexChar? (rest.take 8)).map (·, rest.drop 8)
  | c :: rest => (unescape? c).map (·, rest)
  | [] => none

/-- The rest of a text between double quotes on one line. The fuel bounds the characters. -/
def readBasic : Nat → List Char → TextRead
  | 0, _ => none
  | fuel + 1, cs =>
    match cs with
    | [] => none
    | '"' :: rest => some ([], rest)
    | '\\' :: rest =>
      match readEscape? rest with
      | some (c, rest) => TextRead.cons c (readBasic fuel rest)
      | none => none
    | c :: rest => if isPlain c then TextRead.cons c (readBasic fuel rest) else none

/-- The rest of a text between single quotes on one line. -/
def readLiteral : List Char → TextRead
  | [] => none
  | '\'' :: rest => some ([], rest)
  | c :: rest => if isPlain c then TextRead.cons c (readLiteral rest) else none

/-- What follows blanks and line breaks. -/
def skipBreaks : List Char → List Char
  | '\r' :: '\n' :: rest => skipBreaks rest
  | c :: rest => if isBlank c || c == '\n' then skipBreaks rest else c :: rest
  | [] => []

/-- What follows a line break that a backslash hides, and the blanks and line breaks after it. -/
def hiddenBreak? (cs : List Char) : Option (List Char) :=
  (newline? (skipBlanks cs)).map skipBreaks

/-- The quotes at the end of a text on several lines: three end it, and up to two more belong to
it. Fewer than three do not end it. -/
def closingQuotes? (quote : Char) (cs : List Char) : Option (List Char × List Char) :=
  let quotes := cs.takeWhile (· == quote)
  if quotes.length < 3 then none
  else some (List.replicate (min quotes.length 5 - 3) quote, cs.drop (min quotes.length 5))

/-- The rest of a text on several lines. In one between double quotes a backslash has its meaning.
The fuel bounds the characters. -/
def readLong (quote : Char) : Nat → List Char → TextRead
  | 0, _ => none
  | fuel + 1, cs =>
    match closingQuotes? quote cs with
    | some found => some found
    | none =>
      match cs with
      | [] => none
      | c :: rest =>
        if c = '\\' ∧ quote = '"' then
          match hiddenBreak? rest with
          | some rest => readLong quote fuel rest
          | none =>
            match readEscape? rest with
            | some (c, rest) => TextRead.cons c (readLong quote fuel rest)
            | none => none
        else if isPlain c then TextRead.cons c (readLong quote fuel rest)
        else match newline? cs with
          | some rest => TextRead.cons '\n' (readLong quote fuel rest)
          | none => none

/-- The rest of a text on several lines, without a line break at its start. -/
def readLongAfterBreak (quote : Char) (cs : List Char) : TextRead :=
  readLong quote (cs.length + 1) ((newline? cs).getD cs)

/-- A text on one line. -/
def readShort? (cs : List Char) : TextRead :=
  match cs with
  | '"' :: rest => readBasic (rest.length + 1) rest
  | '\'' :: rest => readLiteral rest
  | _ => none

/-- A text in any notation. -/
def readString? (cs : List Char) : TextRead :=
  match cs with
  | '"' :: '"' :: '"' :: rest => readLongAfterBreak '"' rest
  | '\'' :: '\'' :: '\'' :: rest => readLongAfterBreak '\'' rest
  | _ => readShort? cs

/-! ## Numbers -/

/-- The sign in front of a number: whether it is a minus. -/
def readSign (cs : List Char) : Bool × List Char :=
  match cs with
  | '+' :: rest => (false, rest)
  | '-' :: rest => (true, rest)
  | _ => (false, cs)

/-- Digits of some kind, between which single underscores may stand; at least one. -/
def readRun? (isPart : Char → Bool) (cs : List Char) : Option (List Char × List Char) :=
  let run := cs.takeWhile fun c => isPart c || c == '_'
  let groups := run.splitOn '_'
  if groups.any List.isEmpty then none else some (groups.flatten, cs.drop run.length)

/-- A whole number without a sign: no zero stands in front of other digits. -/
def readWhole? (cs : List Char) : Option (List Char × List Char) :=
  match cs with
  | '0' :: rest => some (['0'], rest)
  | _ => readRun? isDigit cs

/-- An exponent, if one stands here. -/
def readExponent? (cs : List Char) : Option (Int × List Char) :=
  match cs with
  | c :: rest =>
    if c = 'e' ∨ c = 'E' then
      let (negative, rest) := readSign rest
      (readRun? isDigit rest).map fun (digits, rest) =>
        (if negative then -(natOfDigits digits : Int) else natOfDigits digits, rest)
    else none
  | [] => none

/-- The number nearest to digits times a power of ten. Exponents out of all proportion are cut. -/
def floatOf (digits : List Char) (exponent : Int) : Float :=
  let n := natOfDigits digits
  let leading : Int := exponent + (Nat.toDigits 10 n).length
  if n = 0 ∨ leading < -400 then 0
  else if 400 < leading then nearestFloat 1 400
  else nearestFloat n exponent

/-- A number with a point or an exponent. One above the largest is refused; one below the least is
infinite. -/
def readFloat? (cs : List Char) : Option (Float × List Char) := do
  let (negative, rest) := readSign cs
  let (whole, rest) ← readWhole? rest
  let (fraction, exponent, rest) ← match rest with
    | '.' :: rest => do
      let (fraction, rest) ← readRun? isDigit rest
      let (exponent, rest) := (readExponent? rest).getD (0, rest)
      some (fraction, exponent, rest)
    | _ => do
      let (exponent, rest) ← readExponent? rest
      some ([], exponent, rest)
  let x := floatOf (whole ++ fraction) (exponent - fraction.length)
  if negative then some (-x, rest) else if x.isInf then none else some (x, rest)

/-- The numbers that are not finite. -/
def readSpecial? (cs : List Char) : Option (Float × List Char) :=
  let (negative, rest) := readSign cs
  match rest with
  | 'i' :: 'n' :: 'f' :: rest =>
    some (if negative then -(nearestFloat 1 400) else nearestFloat 1 400, rest)
  | 'n' :: 'a' :: 'n' :: rest => some (0 / 0, rest)
  | _ => none

/-- An integer of 64 bits. -/
def int64? (n : Int) : Option Int64 :=
  if Int64.minValue.toInt ≤ n ∧ n ≤ Int64.maxValue.toInt then some (Int64.ofInt n) else none

/-- The value that digits spell in a base. -/
def natOfBase (base : Nat) (digits : List Char) : Nat :=
  digits.foldl (fun n c => base * n + (hexValue? c).getD 0) 0

/-- An integer in a base, after its mark. -/
def readInBase? (base : Nat) (cs : List Char) : Option (Int64 × List Char) := do
  let (digits, rest) ← readRun? (fun c => (hexValue? c).any (· < base)) cs
  some (← int64? (natOfBase base digits), rest)

/-- An integer. -/
def readInt? (cs : List Char) : Option (Int64 × List Char) :=
  match cs with
  | '0' :: 'x' :: rest => readInBase? 16 rest
  | '0' :: 'o' :: rest => readInBase? 8 rest
  | '0' :: 'b' :: rest => readInBase? 2 rest
  | _ => do
    let (negative, rest) := readSign cs
    let (digits, rest) ← readWhole? rest
    let n := (natOfDigits digits : Int)
    some (← int64? (if negative then -n else n), rest)

/-! ## Scalars -/

/-- A floating-point number as a value; those that are not finite have none. -/
def ofFloat (x : Float) : Value :=
  if x.isNaN || x.isInf then .null else .float x

/-- The key under which a date or a time is kept. -/
def momentKey : String := "$__toml_private_datetime"

/-- A date or a time as a value: an object that holds its text. -/
def ofMoment (m : Moment) : Value :=
  .object [(momentKey, .str m.text)]

/-- A number, a date or a time. -/
def readNumeric? (cs : List Char) : Option (Value × List Char) :=
  ((Moment.read? cs).map fun (m, rest) => (ofMoment m, rest)).or <|
    ((readFloat? cs).or (readSpecial? cs)).map (fun (x, rest) => (ofFloat x, rest)) |>.or <|
      (readInt? cs).map fun (n, rest) => (.int n, rest)

/-- A value that holds no others. -/
def readScalar? (cs : List Char) : Option (Value × List Char) :=
  match cs with
  | 't' :: 'r' :: 'u' :: 'e' :: rest => some (.bool true, rest)
  | 'f' :: 'a' :: 'l' :: 's' :: 'e' :: rest => some (.bool false, rest)
  | '"' :: _ | '\'' :: _ =>
    (readString? cs).map fun (text, rest) => (.str (String.ofList text), rest)
  | _ => readNumeric? cs

end LiveText.Toml
