import LiveText.Template.Basic

/-!
# Rendering from a table

A template rendered with the values of a table whose keys are the texts of paths.

## Main definitions

- `Template.renderFrom`.
-/

namespace LiveText.Template

/-- The value that a table has for a path, and the paths asked for so far with this one. The first
entry for the text of the path counts; without one the last key of the path is missing. -/
def lookupIn (table : List (String × Value)) (path : Path) (seen : List Path) :
    Except Fault Value × List Path :=
  let found := match table.lookup path.text with
    | some v => .ok v
    | none => .error (.missingDataPath path (path.last?.getD ""))
  (found, seen ++ [path])

/-- The template rendered with the values of a table, and the paths asked for, in order. -/
def renderFrom (table : List (String × Value)) (t : Template) :
    Except Fault String × List Path :=
  t.renderWith (lookupIn table) []

end LiveText.Template
