import LiveText.Fault
import LiveText.Json.Reader
import LiveText.Toml.Reader

/-!
# Options of components

Where a component goes and what it starts with, from JSON or from TOML. In JSON the options are an
object, or a list of the selector and, if wanted, the data.

## Main definitions

- `Options`, `Options.validated`.
- `Options.ofJson`, `Options.ofToml`.
-/

namespace LiveText

/-- The selector of the mount element, and the data of the state. -/
structure Options where
  el : String
  data : Value
deriving Inhabited, Repr

namespace Options

/-- Options whose selector is not blank. -/
def validated (o : Options) : Except Fault Options :=
  if (Text.trim o.el.toList).isEmpty then .error (.invalidOptions .blankSelector) else .ok o

/-! ## From JSON -/

/-- The levels of lists and objects that the data may have: the options themselves take one. -/
def dataLevels : Nat := Json.maxLevels - 1

/-- The text of a JSON text. -/
def textOf? : Json.Tree → Option String
  | .text pieces => Json.decodeText pieces
  | _ => none

/-- The one entry with a key; two are an error, and none is null. -/
def only? (key : String) (entries : List (String × Json.Tree)) : Option Json.Tree :=
  match entries.filter (·.1 == key) with
  | [] => some .null
  | [(_, content)] => some content
  | _ => none

/-- The entries of an object with their keys as strings. -/
def keyed? : List (List Json.TextPiece × Json.Tree) → Option (List (String × Json.Tree))
  | [] => some []
  | (key, content) :: rest => do
    let k ← Json.decodeText key
    let others ← keyed? rest
    some ((k, content) :: others)

/-- The options that a JSON tree spells. Other entries of an object do not count. -/
def ofTree? : Json.Tree → Option Options
  | .object entries => do
    let entries ← keyed? entries
    let el ← textOf? (← only? "el" entries)
    let data ← (← only? "data" entries).value? dataLevels
    some { el, data }
  | .list [el] => do
    some { el := ← textOf? el, data := .null }
  | .list [el, data] => do
    some { el := ← textOf? el, data := ← data.value? dataLevels }
  | _ => none

/-- The options that a JSON text spells. -/
def ofJson (text : String) : Except Fault Options :=
  match (Json.Tree.ofChars? text.toList).bind ofTree? with
  | some o => o.validated
  | none => .error (.invalidOptions .json)

/-! ## From TOML -/

/-- The options that a TOML table spells. Other entries do not count. -/
def ofTable? (table : Value) : Option Options := do
  let el ← (← table.get? "el").asStr?
  some { el, data := (table.get? "data").getD .null }

/-- The options that a TOML text spells. -/
def ofToml (text : String) : Except Fault Options :=
  match (Value.ofToml? text).bind ofTable? with
  | some o => o.validated
  | none => .error (.invalidOptions .toml)

end Options

end LiveText
