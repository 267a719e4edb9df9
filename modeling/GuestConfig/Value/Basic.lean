import GuestConfig.Sorted.Map

/-!
# Values

The API answers with objects of loosely typed values, operators write descriptions in formats of
their own, and a typed configuration can be stored as a document.  All of these are trees of the
same few kinds of value.

## What is here

* `Value` — the trees.  Whole numbers and floating point numbers are different values, even where
  they are equal as numbers: a setting that counts something refuses `2.0`.
* `Value.object` — a table from entries in any order: its keys ascend, and of two entries with
  one key the later one counts.
* `Value.ofOption`, `Value.ofWord`, `Value.ofFlag` and their neighbours — how the parts of typed
  data become values.
-/

set_option autoImplicit false

namespace GuestConfig

/-- A tree of loosely typed data. -/
inductive Value where
  /-- The absent value. -/
  | null
  /-- A truth value. -/
  | bool (b : Bool)
  /-- A whole number. -/
  | int (n : Int)
  /-- A floating point number. -/
  | float (x : Float)
  /-- A text. -/
  | text (s : String)
  /-- A list of values. -/
  | list (items : List Value)
  /-- Values by key. -/
  | table (entries : List (String × Value))

namespace Value

instance : Inhabited Value := ⟨null⟩

instance : Coe String Value := ⟨text⟩

/-- A table with ascending keys; of two entries with one key the later one counts. -/
def object (entries : List (String × Value)) : Value :=
  table (SortedMap.ofList entries).toList

/-- A value that may be absent. -/
def ofOption {α : Type} (f : α → Value) : Option α → Value
  | none => null
  | some a => f a

/-- A natural number as a value. -/
def ofNat (n : Nat) : Value :=
  int n

/-- A number of fixed width as a value. -/
def ofWord {α : Type} [Word α] (a : α) : Value :=
  ofNat (Word.toNat a)

/-- A number of fixed width as a value, unless it is zero. -/
def ofNonzero {α : Type} [Word α] (a : α) : Option Value :=
  if Word.toNat a = 0 then none else some (ofWord a)

/-- A text as a value, unless it is empty. -/
def ofNonempty (s : String) : Option Value :=
  if s = "" then none else some (text s)

/-- A list as a value. -/
def ofList {α : Type} (f : α → Value) (items : List α) : Value :=
  list (items.map f)

/-- A map by text as a value. -/
def ofMap {α : Type} (f : α → Value) (m : SortedMap String α) : Value :=
  table (m.toList.map fun (key, a) ↦ (key, f a))

/-- A map by slot as a value; a slot is keyed by its number. -/
def ofSlotMap {kind : SlotKind} {α : Type} (f : α → Value) (m : SlotMap kind α) : Value :=
  object (m.toList.map fun (slot, a) ↦ (slot.text, f a))

/-- The numbers 0 and 1, as which the API takes truth values. -/
def ofFlag (b : Bool) : Value :=
  ofNat (if b then 1 else 0)

end Value

end GuestConfig
