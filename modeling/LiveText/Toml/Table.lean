import LiveText.Value.Basic

/-!
# TOML tables under construction

Tables grow entry by entry and header by header. A table that only stands for the way to another
may be filled later; one that has been written out may not be opened again.

## Main definitions

- `Node`: a value, a table, or a list of tables.
- `modifyAt?`: changes the table at the end of a way of keys.
- `addPair?`: an entry of a table, with a dotted key.
- `Node.value`: the finished value.
-/

namespace LiveText.Toml

/-- A part of a document under construction. -/
inductive Node where
  | leaf (v : Value)
  /-- A table; `implied` says that nothing but keys through it has been written, and `dotted` that
  these were dotted keys of entries. -/
  | table (implied dotted : Bool) (entries : List (String × Node))
  /-- A list of tables that grows table by table. -/
  | tables (rows : List (List (String × Node)))
deriving Inhabited, Repr

/-- The entries of a table under construction. -/
abbrev Table := List (String × Node)

/-- Changes the table at the end of a way of keys. Tables on the way that are missing are made; of a
list of tables the last one is entered. The change is told whether its table is a dotted one. Dotted
keys of entries do not enter tables that have been written out. -/
def modifyAt? (dotted : Bool) (change : Bool → Table → Option Table) :
    List String → Bool → Table → Option Table
  | [], isDotted, table => change isDotted table
  | key :: keys, _, table =>
    match table.lookup key with
    | none =>
      (modifyAt? dotted change keys dotted []).map fun inner =>
        Entries.insert key (.table true dotted inner) table
    | some (.leaf _) => none
    | some (.table implied isDotted inner) =>
      if dotted && !implied then none
      else (modifyAt? dotted change keys isDotted inner).map fun inner =>
        Entries.insert key (.table implied isDotted inner) table
    | some (.tables rows) =>
      (modifyAt? dotted change keys false (rows.getLastD [])).map fun inner =>
        Entries.insert key (.tables (rows.dropLast ++ [inner])) table

/-- A new entry; a key may be used once. -/
def addFresh? (key : String) (v : Value) (table : Table) : Option Table :=
  match table.lookup key with
  | none => some (table ++ [(key, .leaf v)])
  | some _ => none

/-- An entry with a dotted key. The keys before the last lead through tables of dotted keys only. -/
def addPair? (path : List String) (key : String) (v : Value) (table : Table) : Option Table :=
  let add (isDotted : Bool) (inner : Table) : Option Table :=
    if isDotted == path.isEmpty then none else addFresh? key v inner
  modifyAt? true add path false table

/-! ## Finished values -/

mutual
/-- The value of a finished part. -/
def Node.value : Node → Value
  | .leaf v => v
  | .table _ _ entries => .object (entryValues entries)
  | .tables rows => .list (rowValues rows)
termination_by structural n => n

/-- The values of the entries of a table. -/
def entryValues : List (String × Node) → List (String × Value)
  | [] => []
  | (key, n) :: rest => (key, n.value) :: entryValues rest
termination_by structural es => es

/-- The values of tables in a list. -/
def rowValues : List (List (String × Node)) → List Value
  | [] => []
  | row :: rest => .object (entryValues row) :: rowValues rest
termination_by structural rows => rows
end

/-- The object of a finished table. -/
def tableValue (table : Table) : Value :=
  .object (entryValues table)

end LiveText.Toml
