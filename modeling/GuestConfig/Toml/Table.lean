import GuestConfig.Value.Basic

/-!
# The tables of TOML

The tables of a document are built up line by line, and what a line may add to a table depends on
how the table came to be.  A header opens a table once, also one that was only passed through on
the way to another; a dotted key makes tables that only dotted keys may add to; a list of tables
grows by a header of its own, and all that follows goes into its last table.

## What is here

* `Node` — a table under construction, with the way in which it came to be.
* `Entries.update` — a change somewhere below a table, on a path of keys.
* `Entries.openTable`, `Entries.openItem`, `Entries.assign` — what a header, a header of a list and
  a line with a value do.
* `Entries.toValue` — the table when all is read.
-/

set_option autoImplicit false

namespace GuestConfig.Toml

/-- How a table came to be. -/
inductive TableOrigin where
  /-- By a header. -/
  | header
  /-- On the way to the table of a header. -/
  | passage
  /-- By a dotted key. -/
  | dotted
  deriving DecidableEq, Repr

/-- What a key holds while a document is read. -/
inductive Node where
  /-- A value that nothing can be added to. -/
  | value (v : Value)
  /-- A table. -/
  | table (origin : TableOrigin) (entries : List (String × Node))
  /-- A list of tables, the last one first. -/
  | tables (items : List (List (String × Node)))

/-- The entries of a table while a document is read. -/
abbrev Entries : Type :=
  List (String × Node)

namespace Entries

/-- What a key holds. -/
def find? (key : String) (entries : Entries) : Option Node :=
  (List.find? (fun e ↦ e.1 = key) entries).map (·.2)

/-- The entries with one key set. -/
def put (key : String) (node : Node) : Entries → Entries
  | [] => [(key, node)]
  | e :: rest => if e.1 = key then (key, node) :: rest else e :: put key node rest

/-- Changes the table at the end of a path, from the table where `origin` is known.  A path of a
dotted key makes tables of its own and does not lead through tables that have a header; other paths
lead through all tables. -/
def update (dotted : Bool) (change : TableOrigin → Entries → Option Entries)
    (origin : TableOrigin) : List String → Entries → Option Entries
  | [], entries => change origin entries
  | key :: path, entries =>
    match find? key entries with
    | none => do
      let made := if dotted then .dotted else .passage
      let below ← update dotted change made path []
      some (put key (.table made below) entries)
    | some (.table made below) =>
      if dotted ∧ made = .header then none
      else do
        let below ← update dotted change made path below
        some (put key (.table made below) entries)
    | some (.tables (last :: others)) => do
      let last ← update dotted change .header path last
      some (put key (.tables (last :: others)) entries)
    | some (.tables []) => none
    | some (.value _) => none

/-- Opens a table that has no header yet. -/
def openTable (key : String) (entries : Entries) : Option Entries :=
  match find? key entries with
  | none => some (put key (.table .header []) entries)
  | some (.table .passage below) => some (put key (.table .header below) entries)
  | _ => none

/-- Opens one more table of a list. -/
def openItem (key : String) (entries : Entries) : Option Entries :=
  match find? key entries with
  | none => some (put key (.tables [[]]) entries)
  | some (.tables items) => some (put key (.tables ([] :: items)) entries)
  | _ => none

/-- Gives a key a value, once.  A table that was made by dotted keys grows by dotted keys only, and
no other table does. -/
def assignKey (isDotted : Bool) (key : String) (v : Value) (origin : TableOrigin)
    (entries : Entries) : Option Entries :=
  if isDotted ≠ (origin = .dotted : Bool) then none
  else if (find? key entries).isSome then none
  else some (put key (.value v) entries)

/-- Gives the key at the end of a path a value. -/
def assign (path : List String) (key : String) (v : Value) (entries : Entries) : Option Entries :=
  update true (assignKey (!path.isEmpty) key v) .header path entries

end Entries

/-! ## The tree of values -/

mutual

/-- The value that a key holds. -/
def Node.toValue : Node → Value
  | .value v => v
  | .table _ entries => .table (members entries)
  | .tables items => .list (itemValues items).reverse

/-- The keys of a table with their values. -/
def Node.members : List (String × Node) → List (String × Value)
  | [] => []
  | (key, node) :: rest => (key, node.toValue) :: members rest

/-- The values of a list of tables. -/
def Node.itemValues : List (List (String × Node)) → List Value
  | [] => []
  | entries :: rest => .table (members entries) :: itemValues rest

end

/-- The value of a table; its keys stay in the order in which they came up. -/
def Entries.toValue (entries : Entries) : Value :=
  .table (Node.members entries)

end GuestConfig.Toml
