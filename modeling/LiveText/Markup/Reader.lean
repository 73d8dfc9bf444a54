import LiveText.Markup.Builder.Table
import LiveText.Markup.Portion

/-!
# Reading markup

Markup is read as content of a `body`. Whatever the text, trees come out: mistakes are mended the
way browsers mend them. Reading pauses where a script ends, since in a browser the script would run
there; what is left is then taken in as at a start.

## Main definitions

- `Builder.feed`: what one token does.
- `Markup.parse`: the trees of a text.
-/

namespace LiveText.Markup

namespace Builder

/-! ## Tokens -/

/-- A token in ordinary text: the end tag ends it. -/
def textStep (b : Builder) (token : Token) : Builder :=
  match token with
  | .text _ chars => b.insertText chars
  | .close _ => { b.pop with mode := b.modeAfterText, lexing := .data }
  | _ => b

/-- A token by the rules of the mode. -/
def modeStep (b : Builder) (token : Token) : Outcome :=
  match b.mode with
  | .body => .done (b.bodyToken token)
  | .text => .done (b.textStep token)
  | .table => b.tableStep token
  | .tableText => b.tableTextStep token
  | .caption => b.captionStep token
  | .columnGroup => b.columnGroupStep token
  | .tableBody => b.tableBodyStep token
  | .row => b.rowStep token
  | .cell => b.cellStep token
  | .select => b.selectStep token
  | .selectInTable => b.selectInTableStep token
  | .template => b.templateStep token

/-- A token by the rules for foreign elements. -/
def foreignStep (b : Builder) (token : Token) : Outcome :=
  match token with
  | .nul => .done (b.insertText ['\ufffd'])
  | .text _ chars => .done (b.insertText chars)
  | .comment => .done b.insertComment
  | .start tag =>
    if tag.breaksOut then b.leaveForeign.modeStep token
    else .done (b.openForeign (b.labelOf b.current).vocabulary tag)
  | .close name =>
    if name = "br" ∨ name = "p" then b.leaveForeign.modeStep token
    else match b.foreignClosed? name true b.stack with
      | some stack => .done { b with stack }
      | none => b.modeStep token
  | .fault => .done b

/-- Reads a token until it is settled. Whenever it is read again, an element has been closed or
opened for it, so that the fuel, which counts the open elements, does not run out. -/
def settle : Nat → Builder → Token → Builder
  | 0, b, _ => b
  | fuel + 1, b, token =>
    match if b.isForeign token then b.foreignStep token else b.modeStep token with
    | .done b => b
    | .again b => settle fuel b token

/-- A text without the line feed at its start, if that is to be left out. -/
def withoutNewline (token : Token) : Option Token :=
  match token with
  | .text _ ['\n'] => none
  | .text blank ('\n' :: rest) => some (.text blank rest)
  | _ => some token

/-- What one token does. A mistake does nothing but that a line feed after it is kept. -/
def feed (b : Builder) (token : Token) : Builder :=
  let token? := if b.dropsNewline then withoutNewline token else some token
  let b := { b with dropsNewline := false }
  match token? with
  | none | some .fault => b
  | some token => settle (4 * b.stack.length + 16) b token

/-- What the end of the markup does: text that waits inside a table gets its place. -/
def finish (b : Builder) : Builder :=
  match b.mode with
  | .tableText => b.placeTableText
  | _ => b

/-! ## Texts -/

/-- Whether a script has ended between two states: reading pauses there. -/
def scriptEnds (b next : Builder) : Bool :=
  b.lexing == .script && next.lexing == .data

/-- Reads what is left of a text token by token. Every round takes characters away, and the fuel
counts them. -/
def read (intake : Intake) : Nat → Builder → List Char → Builder
  | 0, b, _ => b
  | fuel + 1, b, cs =>
    match nextTokens? b.lexing b.inForeign cs with
    | some (tokens, rest) =>
      let next := tokens.foldl feed b
      read intake fuel next (if b.scriptEnds next then intake.afterPause rest else rest)
    | none => b

end Builder

/-- The trees that a text of markup stands for. -/
def parse (source : String) : List Tree :=
  let intake := Intake.ofText source
  ((Builder.read intake intake.chars.length Builder.start intake.chars).finish).forest

end LiveText.Markup
