import LiveText.Markup.Token
import LiveText.Text.Mark

/-!
# Markup by portions

Markup is taken in as it would come out of a file: in blocks of 4096 bytes. A character that the end
of a block cuts is put together first, and it is taken in with whatever else has room in four bytes.
A byte order mark in front of a portion is no part of the markup.

## Main definitions

- `portions`: the parts in which a text is taken in.
- `Intake`, `Intake.ofText`: the characters that are read, and where portions begin.

## Main statements

- `flatten_portions`: the portions of a text make up the text.
-/

namespace LiveText.Markup

/-! ## Portions -/

/-- The number of bytes in a block. -/
def blockSize : Nat :=
  4096

/-- The number of bytes that a character takes at most. -/
def longestCharacter : Nat :=
  4

/-- The number of bytes of a text. -/
def byteCount (cs : List Char) : Nat :=
  cs.foldl (fun n c => n + c.utf8Size) 0

/-- The longest start of a text that has room in a number of bytes. -/
def fitting : Nat → List Char → List Char
  | _, [] => []
  | room, c :: rest => if c.utf8Size ≤ room then c :: fitting (room - c.utf8Size) rest else []

/-- The portions of a text, with the room that is left in the first block. The fuel bounds the
characters. -/
def portionsWithin : Nat → Nat → List Char → List (List Char)
  | 0, _, cs => [cs]
  | fuel + 1, room, cs =>
    let whole := fitting room cs
    let rest := cs.drop whole.length
    let left := room - byteCount whole
    if rest.isEmpty then [whole]
    else if left = 0 then whole :: portionsWithin fuel blockSize rest
    else
      -- the next character lies across the end of the block
      let cut := fitting longestCharacter rest
      let room := blockSize + left - byteCount cut
      whole :: cut :: portionsWithin fuel room (rest.drop cut.length)

/-- The parts in which a text is taken in. -/
def portions (cs : List Char) : List (List Char) :=
  portionsWithin cs.length blockSize cs

/-- The fitting start of a text is the start of its length. -/
theorem fitting_append_drop (room : Nat) (cs : List Char) :
    fitting room cs ++ cs.drop (fitting room cs).length = cs := by
  induction cs generalizing room with
  | nil => rfl
  | cons c rest ih =>
    rw [fitting]
    split
    · simp [ih]
    · rfl

/-- Nothing is lost between the portions, whatever room there is. -/
theorem flatten_portionsWithin (fuel room : Nat) (cs : List Char) :
    (portionsWithin fuel room cs).flatten = cs := by
  induction fuel generalizing room cs with
  | zero => simp [portionsWithin]
  | succ fuel ih =>
    have whole := fitting_append_drop room cs
    simp only [portionsWithin]
    split
    · next h =>
      rw [List.isEmpty_iff.1 h, List.append_nil] at whole
      simpa using whole
    · split
      · simp [ih, whole]
      · rw [List.flatten_cons, List.flatten_cons, ih, fitting_append_drop, whole]

/-- The portions of a text make up the text. -/
theorem flatten_portions (cs : List Char) : (portions cs).flatten = cs :=
  flatten_portionsWithin _ _ _

/-! ## Intake -/

/-- Markup as it is taken in. -/
structure Intake where
  chars : List Char
  /-- How many characters are left where a portion begins. -/
  joints : List Nat
deriving DecidableEq, Repr

namespace Intake

/-- What is read of some portions. -/
def textOf (portions : List (List Char)) : List Char :=
  normalizeNewlines (portions.flatMap Text.withoutMark)

/-- A text as it is taken in. -/
def ofText (text : String) : Intake :=
  let parts := portions text.toList
  { chars := textOf parts
    joints := (List.range parts.length).map fun n => (textOf (parts.drop n)).length }

/-- What is read on after a pause. The text that is left counts as a portion: it loses a mark at its
start, except where a portion begins that has lost its own. -/
def afterPause (intake : Intake) (rest : List Char) : List Char :=
  if intake.joints.contains rest.length then rest else Text.withoutMark rest

end Intake

end LiveText.Markup
