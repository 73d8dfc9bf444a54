import LiveText.Text.Blank

/-!
# Paths into a state

A path is the list of keys walked from the root of a state. Its text joins the keys with points;
since a key may itself hold a point, the keys are kept apart.

## Main definitions

- `Path.parse`: the path that a text with points names.
- `Path.text`: the keys with points between them.
- `Path.prefixes`, `Path.isBelow`: the tree order.
- `Path.compare`: lexicographic order of the keys.
-/

namespace LiveText

/-- The keys walked from the root. -/
structure Path where
  segments : List String
deriving DecidableEq, Repr, Inhabited

namespace Path

/-- The root itself. -/
def root : Path := ⟨[]⟩

/-- The path that a text names: its pieces between points without blanks around them, and without
the pieces of which nothing is left. -/
def parse (dotted : String) : Path :=
  ⟨(((dotted.toList.splitOn '.').map Text.trim).filter fun s => !s.isEmpty).map String.ofList⟩

/-- The keys with points between them. -/
def text (p : Path) : String :=
  String.intercalate "." p.segments

/-- The path one key further down. -/
def child (p : Path) (key : String) : Path :=
  ⟨p.segments ++ [key]⟩

/-- The path without its last key; the root has none. -/
def parent? (p : Path) : Option Path :=
  if p.segments.isEmpty then none else some ⟨p.segments.dropLast⟩

/-- The last key. -/
def last? (p : Path) : Option String :=
  p.segments.getLast?

/-- The number of keys. -/
def length (p : Path) : Nat :=
  p.segments.length

/-- Whether this is the root. -/
def isRoot (p : Path) : Bool :=
  p.segments.isEmpty

/-- Whether the first path lies strictly below the second. -/
def isBelow (p ancestor : Path) : Bool :=
  ancestor.segments.length < p.segments.length && ancestor.segments.isPrefixOf p.segments

/-- The paths on the way down, from the first key to the whole path; the root is not among them. -/
def prefixes (p : Path) : List Path :=
  (List.range p.segments.length).map fun n => ⟨p.segments.take (n + 1)⟩

/-- Order of keys by their UTF-8 bytes, which is the order of their code points. -/
def compareKeys (a b : String) : Ordering :=
  compare (a.toList.map Char.toNat) (b.toList.map Char.toNat)

/-- Lexicographic order, key by key. -/
def compare (p q : Path) : Ordering :=
  go p.segments q.segments
where
  /-- The same for lists of keys. -/
  go : List String → List String → Ordering
    | [], [] => .eq
    | [], _ :: _ => .lt
    | _ :: _, [] => .gt
    | a :: as, b :: bs => (compareKeys a b).then (go as bs)

end Path

end LiveText
