import LiveText.Text.Mark
import LiveText.Toml.Scalar
import LiveText.Toml.Table

/-!
# Reading TOML

A text is read line by line, and the lines are then put together to tables.

## Main definitions

- `readValue?`: any value on the right of an equals sign.
- `Line`, `readLines?`: the lines of a document.
- `Draft`: the tables so far, and the one that entries go into.
- `Value.ofToml?`: the value of a document.
-/

namespace LiveText

namespace Toml

/-! ## Keys -/

/-- A character of a key without quotes. -/
def isBareKey (c : Char) : Bool :=
  c.isAlphanum || c == '-' || c == '_'

/-- One key. -/
def readKeyPart? (cs : List Char) : Option (String × List Char) :=
  match cs with
  | '"' :: _ | '\'' :: _ => (readShort? cs).map fun (text, rest) => (String.ofList text, rest)
  | _ =>
    let name := cs.takeWhile isBareKey
    if name.isEmpty then none else some (String.ofList name, cs.dropWhile isBareKey)

/-- Keys with points between them, and the blanks around them. The fuel bounds the keys. -/
def readKeyWithin : Nat → List Char → Option (List String × List Char)
  | 0, _ => none
  | fuel + 1, cs => do
    let (part, rest) ← readKeyPart? (skipBlanks cs)
    match skipBlanks rest with
    | '.' :: rest =>
      let (parts, rest) ← readKeyWithin fuel rest
      some (part :: parts, rest)
    | rest => some ([part], rest)

/-- How deep lists and inline tables may be nested, and how many keys may be dotted together. -/
def maxDepth : Nat := 79

/-- A dotted key: the keys before the last, and the last. -/
def readKey? (cs : List Char) : Option (List String × String × List Char) := do
  let (parts, rest) ← readKeyWithin (cs.length + 1) cs
  if maxDepth < parts.length then none
  else some (parts.dropLast, parts.getLastD "", rest)

/-! ## Values -/

mutual
/-- A value. The fuel bounds the parts still to be entered, and `levels` how deep they may be. -/
def readValueWithin : Nat → Nat → List Char → Option (Value × List Char)
  | 0, _, _ => none
  | fuel + 1, levels, cs =>
    match cs, levels with
    | '[' :: _, 0 => none
    | '\x7b' :: _, 0 => none
    | '[' :: rest, levels + 1 =>
      (readItems fuel levels (skipLines rest)).map fun (items, rest) => (.list items, rest)
    | '\x7b' :: rest, levels + 1 =>
      match skipBlanks rest with
      | '\x7d' :: rest => some (.object [], rest)
      | rest => (readInline fuel levels [] rest).map fun (table, rest) => (tableValue table, rest)
    | _, _ => readScalar? cs

/-- The elements of a list up to its end, with blanks and comments skipped. -/
def readItems : Nat → Nat → List Char → Option (List Value × List Char)
  | 0, _, _ => none
  | fuel + 1, levels, cs =>
    match cs with
    | ']' :: rest => some ([], rest)
    | _ => do
      let (item, rest) ← readValueWithin fuel levels cs
      match skipLines rest with
      | ',' :: rest =>
        let (items, rest) ← readItems fuel levels (skipLines rest)
        some (item :: items, rest)
      | ']' :: rest => some ([item], rest)
      | _ => none

/-- The entries of an inline table up to its end. -/
def readInline : Nat → Nat → Table → List Char → Option (Table × List Char)
  | 0, _, _, _ => none
  | fuel + 1, levels, table, cs => do
    let (path, key, rest) ← readKey? cs
    let rest ← readChar? '=' rest
    let (v, rest) ← readValueWithin fuel levels (skipBlanks rest)
    let table ← addPair? path key v table
    match skipBlanks rest with
    | ',' :: rest => readInline fuel levels table rest
    | '\x7d' :: rest => some (table, rest)
    | _ => none
end

/-- A value on the right of an equals sign. Two parts are entered for each character at most, which
is what the fuel counts. -/
def readValue? (cs : List Char) : Option (Value × List Char) :=
  readValueWithin (2 * cs.length + 2) maxDepth cs

/-! ## Lines -/

/-- A line that says something. -/
inductive Line where
  /-- The header of a table. -/
  | table (path : List String) (key : String)
  /-- The header of one more table of a list. -/
  | row (path : List String) (key : String)
  | entry (path : List String) (key : String) (v : Value)
deriving Repr

/-- What a line says, if anything, and what follows it. The text starts with no blank. -/
def readLine? (cs : List Char) : Option (Option Line × List Char) :=
  match cs with
  | '[' :: '[' :: rest => do
    let (path, key, rest) ← readKey? rest
    let rest ← readChar? ']' (← readChar? ']' rest)
    some (some (.row path key), ← endLine? rest)
  | '[' :: rest => do
    let (path, key, rest) ← readKey? rest
    let rest ← readChar? ']' rest
    some (some (.table path key), ← endLine? rest)
  | '#' :: _ | '\n' :: _ | '\r' :: _ => do
    some (none, ← endLine? cs)
  | _ => do
    let (path, key, rest) ← readKey? cs
    let (v, rest) ← readValue? (skipBlanks (← readChar? '=' rest))
    some (some (.entry path key v), ← endLine? rest)

/-- The lines of a text. The fuel bounds their number. -/
def readLines? : Nat → List Char → Option (List Line)
  | 0, _ => none
  | fuel + 1, cs =>
    match skipBlanks cs with
    | [] => some []
    | rest => do
      let (line, rest) ← readLine? rest
      let lines ← readLines? fuel rest
      some (line.toList ++ lines)

/-! ## Documents -/

/-- The tables that are finished, and the one that entries go into with its place. -/
structure Draft where
  root : Table
  /-- Where the open table goes: the keys before the last, the last, and whether it is one more
  table of a list. The table at the start goes nowhere. -/
  place : Option (List String × String × Bool)
  entries : Table

/-- Puts the open table into its place. A table goes behind all that its parent has so far. -/
def Draft.close? (d : Draft) : Option Table :=
  match d.place with
  | none => some d.entries
  | some (path, key, isRow) =>
    let put (_ : Bool) (parent : Table) : Option Table :=
      match parent.lookup key with
      | none =>
        if isRow then none else some (parent ++ [(key, .table false false d.entries)])
      | some (.tables rows) =>
        if isRow then some (Entries.insert key (.tables (rows ++ [d.entries])) parent) else none
      | some _ => none
    modifyAt? false put path false d.root

/-- Opens a table. One that keys have led through already is taken out with what it holds; any other
that is there already is an error. -/
def openTable? (path : List String) (key : String) (root : Table) : Option Draft := do
  let found ← match ← lookupAt? path root key with
    | none => some []
    | some (.table true false entries) => some entries
    | some _ => none
  let root ← modifyAt? false (fun _ parent => some (Entries.erase key parent)) path false root
  some { root, place := some (path, key, false), entries := found }
where
  /-- What stands under a key at the end of a way; nothing where the way would be made. -/
  lookupAt? : List String → Table → String → Option (Option Node)
    | [], table, key => some (table.lookup key)
    | k :: ks, table, key =>
      match table.lookup k with
      | none => some none
      | some (.leaf _) => none
      | some (.table _ _ inner) => lookupAt? ks inner key
      | some (.tables rows) => lookupAt? ks (rows.getLastD []) key

/-- Opens one more table of a list. -/
def openRow? (path : List String) (key : String) (root : Table) : Option Draft := do
  let make (_ : Bool) (parent : Table) : Option Table :=
    match parent.lookup key with
    | none => some (parent ++ [(key, .tables [])])
    | some (.tables _) => some parent
    | some _ => none
  let root ← modifyAt? false make path false root
  some { root, place := some (path, key, true), entries := [] }

/-- What a line does. -/
def Draft.step? (d : Draft) (line : Line) : Option Draft :=
  match line with
  | .entry path key v => (addPair? path key v d.entries).map fun entries => { d with entries }
  | .table path key => do openTable? path key (← d.close?)
  | .row path key => do openRow? path key (← d.close?)

/-- The table that lines make. -/
def build? (lines : List Line) : Option Table := do
  let d ← lines.foldlM Draft.step? { root := [], place := none, entries := [] }
  d.close?

end Toml

/-- The value of a TOML text. -/
def Value.ofToml? (text : String) : Option Value := do
  let cs := Text.withoutMark text.toList
  let lines ← Toml.readLines? (cs.length + 1) cs
  (Toml.build? lines).map Toml.tableValue

end LiveText
