/-!
# Markup as trees

What a reader of markup hands over: elements, texts, and nodes that stand for nothing in a
document, such as comments. Those still keep the texts around them apart.
-/

namespace LiveText.Markup

/-- A node of read markup. Attribute names may repeat. -/
inductive Tree where
  | element (name : String) (attributes : List (String × String)) (children : List Tree)
  | text (text : String)
  | other
deriving Inhabited, Repr

mutual
/-- The number of nodes of a tree. -/
def Tree.size : Tree → Nat
  | .element _ _ children => forestSize children + 1
  | _ => 1
termination_by structural t => t

/-- The number of nodes of several trees. -/
def forestSize : List Tree → Nat
  | [] => 0
  | t :: ts => t.size + forestSize ts
termination_by structural ts => ts
end

end LiveText.Markup
