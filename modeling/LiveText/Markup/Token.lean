import LiveText.Markup.Reference
import LiveText.Text.Blank

/-!
# Tokens of markup

Markup is read token by token: tags, stretches of text, comments. How text is read depends on the
element that it is in, which whoever takes the tokens knows: inside a `script` nothing but its own
end tag counts as one, inside a `title` references count as well.

## Main definitions

- `Tag`, `Token`, `Lexing`.
- `readTag?`: the name and the attributes of a tag.
- `nextTokens?`: the next tokens of a text.
-/

namespace LiveText.Markup

/-- A start tag. Attribute names are distinct. -/
structure Tag where
  name : String
  attributes : List (String × String)
  selfClosing : Bool
deriving DecidableEq, Repr, Inhabited

/-- A token. -/
inductive Token where
  | start (tag : Tag)
  | close (name : String)
  /-- Characters that are all blank or all not blank. -/
  | text (blank : Bool) (chars : List Char)
  /-- A null character. -/
  | nul
  | comment
  /-- A document type, or a mistake in the markup that is worth nothing else. -/
  | fault
deriving DecidableEq, Repr, Inhabited

/-- How the text of the element at hand is read. -/
inductive Lexing where
  /-- With tags and references. -/
  | data
  /-- With references and with the end tag of the element. -/
  | replaceable (tag : String)
  /-- With the end tag of the element. -/
  | raw (tag : String)
  /-- As the text of a script. -/
  | script
  /-- Without an end. -/
  | plain
deriving DecidableEq, Repr

/-! ## Characters -/

/-- The characters that separate the parts of a tag. -/
def isSpace (c : Char) : Bool :=
  c == ' ' || c == '\n' || c == '\t' || c == '\x0c'

/-- The characters that count as blank in a text. -/
def isBlankInText (c : Char) : Bool :=
  isSpace c || c == '\r'

/-- A null character becomes the replacement character. -/
def replaceNul (c : Char) : Char :=
  if c = '\x00' then '\ufffd' else c

/-- What follows the first occurrence of a character. -/
def after (c : Char) (cs : List Char) : List Char :=
  (cs.dropWhile (· ≠ c)).drop 1

/-- Carriage returns, alone or with the line feed after them, become line feeds. -/
def normalizeNewlines : List Char → List Char
  | [] => []
  | '\r' :: '\n' :: rest => '\n' :: normalizeNewlines rest
  | '\r' :: rest => '\n' :: normalizeNewlines rest
  | c :: rest => c :: normalizeNewlines rest

/-- Text as tokens: stretches of blanks and of other characters, and null characters by
themselves. -/
def textTokens (cs : List Char) : List Token :=
  (cs.splitBy fun a b => a ≠ '\x00' && b ≠ '\x00' && isBlankInText a == isBlankInText b).map
    fun run =>
      match run with
      | ['\x00'] => .nul
      | c :: _ => .text (isBlankInText c) run
      | [] => .fault

/-! ## Tags -/

/-- Whether a character can stand inside the name of a tag. -/
def isTagNamePart (c : Char) : Bool :=
  !isSpace c && c ≠ '/' && c ≠ '>'

/-- Whether a character can stand inside the name of an attribute, past its first character. -/
def isAttributeNamePart (c : Char) : Bool :=
  isTagNamePart c && c ≠ '='

/-- A name in small ASCII letters, without null characters. -/
def nameOf (cs : List Char) : String :=
  String.ofList (cs.map fun c => replaceNul c.toLower)

/-- The value of an attribute, after the equals sign. -/
def readValue? (cs : List Char) : Option (String × List Char) :=
  let value (cs : List Char) : String := String.ofList (decodeValue (cs.map replaceNul))
  let quoted (quote : Char) (cs : List Char) : Option (String × List Char) :=
    match cs.dropWhile (· ≠ quote) with
    | _ :: rest => some (value (cs.takeWhile (· ≠ quote)), rest)
    | [] => none
  let isPart (c : Char) : Bool := !isSpace c && c ≠ '>'
  match cs.dropWhile isSpace with
  | '"' :: rest => quoted '"' rest
  | '\'' :: rest => quoted '\'' rest
  | rest => some (value (rest.takeWhile isPart), rest.dropWhile isPart)

/-- The attributes of a tag, and whether a slash stands before its end. A tag that does not end is
none. The fuel bounds the characters. -/
def readAttributes? : Nat → List Char → Option (List (String × String) × Bool × List Char)
  | 0, _ => none
  | fuel + 1, cs =>
    match cs.dropWhile isSpace with
    | [] => none
    | '>' :: rest => some ([], false, rest)
    | '/' :: '>' :: rest => some ([], true, rest)
    | '/' :: rest => readAttributes? fuel rest
    | c :: rest =>
      let name := nameOf (c :: rest.takeWhile isAttributeNamePart)
      let rest := rest.dropWhile isAttributeNamePart
      let value? := match rest.dropWhile isSpace with
        | '=' :: rest => readValue? rest
        | _ => some ("", rest)
      match value? with
      | some (value, rest) =>
        (readAttributes? fuel rest).map fun (others, selfClosing, rest) =>
          ((name, value) :: others.filter (·.1 ≠ name), selfClosing, rest)
      | none => none

/-- A tag from its name on. A tag that does not end is none. -/
def readTag? (cs : List Char) : Option (Tag × List Char) :=
  let rest := cs.dropWhile isTagNamePart
  (readAttributes? (rest.length + 1) rest).map fun (attributes, selfClosing, rest) =>
    ({ name := nameOf (cs.takeWhile isTagNamePart), attributes, selfClosing }, rest)

/-- A tag as a token. One that does not end leaves nothing behind. -/
def tagToken (toToken : Tag → Token) (cs : List Char) : List Token × List Char :=
  match readTag? cs with
  | some (tag, rest) => ([toToken tag], rest)
  | none => ([], [])

/-- The token of an end tag. -/
def closeToken (tag : Tag) : Token :=
  .close tag.name

/-- Whether a text begins with a word, up to the case of ASCII letters. -/
def beginsWith (word : String) (cs : List Char) : Bool :=
  (cs.take word.length).map Char.toLower == word.toList

/-- Whether a text begins with a tag name that ends there. -/
def beginsWithName (name : String) (cs : List Char) : Bool :=
  beginsWith name cs && match cs.drop name.length with
    | c :: _ => !isTagNamePart c
    | [] => false

/-! ## Comments and other declarations -/

/-- How far the end of a comment has been read. -/
inductive CommentEnd where
  /-- Nothing but the opening, or the opening and a hyphen. -/
  | opening (hyphen : Bool)
  /-- That many hyphens, two at most. -/
  | hyphens (n : Nat)
  /-- Two hyphens and an exclamation mark. -/
  | bang
deriving DecidableEq, Repr

/-- What follows a comment, after its opening. A comment that does not end takes all. -/
def afterComment : CommentEnd → List Char → List Char
  | _, [] => []
  | .opening hyphen, c :: rest =>
    if c = '>' then rest
    else if c = '-' then afterComment (if hyphen then .hyphens 2 else .opening true) rest
    else afterComment (.hyphens 0) rest
  | .hyphens n, c :: rest =>
    if c = '-' then afterComment (.hyphens (min (n + 1) 2)) rest
    else if n = 2 ∧ c = '>' then rest
    else if n = 2 ∧ c = '!' then afterComment .bang rest
    else afterComment (.hyphens 0) rest
  | .bang, c :: rest =>
    if c = '>' then rest
    else if c = '-' then afterComment (.hyphens 1) rest
    else afterComment (.hyphens 0) rest

/-- A text up to the end of a section of plain characters, and what follows that end. -/
def readSection : List Char → List Char × List Char
  | [] => ([], [])
  | ']' :: ']' :: '>' :: rest => ([], rest)
  | c :: rest =>
    let (inside, rest) := readSection rest
    (c :: inside, rest)

/-- A declaration, after its exclamation mark. Sections of plain characters are known inside foreign
elements alone. -/
def declaration (inForeign : Bool) (cs : List Char) : List Token × List Char :=
  match cs with
  | '-' :: '-' :: rest => ([.comment], afterComment (.opening false) rest)
  | _ =>
    if beginsWith "doctype" cs then ([.fault], after '>' cs)
    else if inForeign && "[CDATA[".toList.isPrefixOf cs then
      let (inside, rest) := readSection (cs.drop 7)
      (textTokens inside, rest)
    else ([.comment], after '>' cs)

/-- What follows a less-than sign, where tags are known. -/
def afterLessThan (inForeign : Bool) (cs : List Char) : List Token × List Char :=
  match cs with
  | '!' :: rest => declaration inForeign rest
  | '?' :: rest => ([.comment], after '>' rest)
  | '/' :: [] => ([.text false ['<', '/']], [])
  | '/' :: '>' :: rest => ([.fault], rest)
  | '/' :: c :: rest =>
    if c.isAlpha then tagToken closeToken (c :: rest) else ([.comment], after '>' (c :: rest))
  | c :: rest =>
    if c.isAlpha then tagToken .start (c :: rest) else ([.text false ['<']], c :: rest)
  | [] => ([.text false ['<']], [])

/-! ## Scripts -/

/-- Where in the text of a script the reader is. -/
inductive ScriptPlace where
  | outside
  /-- Inside a comment, after that many hyphens, two at most. -/
  | comment (hyphens : Nat)
  /-- Inside a script inside a comment. -/
  | nested (hyphens : Nat)
deriving DecidableEq, Repr

/-- The number of hyphens just read, after one more character. -/
def hyphensAfter (n : Nat) (c : Char) : Nat :=
  if c = '-' then min (n + 1) 2 else 0

/-- The text of a script up to its end tag, and what follows from there. -/
def readScript : ScriptPlace → List Char → List Char × List Char
  | _, [] => ([], [])
  | .outside, '<' :: '!' :: '-' :: '-' :: rest =>
    let (inside, rest) := readScript (.comment 2) rest
    ('<' :: '!' :: '-' :: '-' :: inside, rest)
  | place, c :: rest =>
    let ends := c == '<' && beginsWithName "/script" rest
    let go (place : ScriptPlace) : List Char × List Char :=
      let (inside, rest) := readScript place rest
      (replaceNul c :: inside, rest)
    match place with
    | .outside => if ends then ([], c :: rest) else go .outside
    | .comment n =>
      if ends then ([], c :: rest)
      else if c = '<' ∧ beginsWithName "script" rest then go (.nested 0)
      else if n = 2 ∧ c = '>' then go .outside
      else go (.comment (hyphensAfter n c))
    | .nested n =>
      if ends then go (.comment 0)
      else if n = 2 ∧ c = '>' then go .outside
      else go (.nested (hyphensAfter n c))

/-! ## The next tokens -/

/-- What follows an ampersand, where references are known. -/
def afterAmpersand (cs : List Char) : List Token × List Char :=
  match reference? false cs with
  | some (r, rest) =>
    let text := Token.text (r.chars.all isBlankInText) r.chars
    (if r.closed then [text] else [.fault, text], rest)
  | none => ([.text false ['&']], cs)

/-- A stretch of plain text: null characters are replaced, and the characters in `stops` end it. -/
def plainText (stops : List Char) (cs : List Char) : List Token × List Char :=
  let isPart (c : Char) : Bool := !stops.contains c
  (textTokens ((cs.takeWhile isPart).map replaceNul), cs.dropWhile isPart)

/-- The next tokens of a text that is not empty, with what follows them. -/
def nextTokens? (lexing : Lexing) (inForeign : Bool) (cs : List Char) :
    Option (List Token × List Char) :=
  match cs with
  | [] => none
  | c :: rest =>
    some <| match lexing with
    | .data =>
      if c = '<' then afterLessThan inForeign rest
      else if c = '&' then afterAmpersand rest
      else
        let isPart (c : Char) : Bool := c ≠ '<' && c ≠ '&'
        (textTokens (cs.takeWhile isPart), cs.dropWhile isPart)
    | .replaceable tag =>
      if c = '<' then
        if beginsWithName ("/" ++ tag) rest then tagToken closeToken (rest.drop 1)
        else ([.text false ['<']], rest)
      else if c = '&' then afterAmpersand rest
      else plainText ['<', '&'] cs
    | .raw tag =>
      if c = '<' then
        if beginsWithName ("/" ++ tag) rest then tagToken closeToken (rest.drop 1)
        else ([.text false ['<']], rest)
      else plainText ['<'] cs
    | .script =>
      if c = '<' ∧ beginsWithName "/script" rest then tagToken closeToken (rest.drop 1)
      else
        let (inside, rest) := readScript .outside cs
        (textTokens inside, rest)
    | .plain => plainText [] cs

end LiveText.Markup
