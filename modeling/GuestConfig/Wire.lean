import GuestConfig.Error.Wire
import GuestConfig.Number.Floating
import GuestConfig.OptionList
import GuestConfig.Value.Basic

/-!
# The stored configuration of a guest

The API keeps a guest's configuration as one flat object: keys such as `memory`, `scsi0` or `net1`
with single values.  Numbers arrive as whole numbers, as floating point numbers or as digits in a
text, depending on where the object comes from, and the readers here take all three.

## What is here

* `Wire` — the object, its keys in ascending order.
* `Wire.text?`, `Wire.word?`, `Wire.flag?` — the value of a key.  A key that is missing or null has
  none; a value of the wrong kind is reported together with its key.
* `Wire.slots` — all devices of a family: every key that is a slot of the family, decoded in
  ascending order of the keys.
-/

set_option autoImplicit false

namespace GuestConfig

open Text (trim)

/-- The stored configuration of a guest. -/
abbrev Wire : Type :=
  SortedMap String Value

namespace Wire

/-! ## Kinds of value -/

/-- A value as a text; numbers are written out. -/
def readText : Value → Except WireError String
  | .text s => .ok s
  | .int n => .ok (Text.integer n)
  | .float x => .ok (Number.floatingText x)
  | _ => .error (.unexpectedType "string")

/-- A value as a number of 64 bits.  A floating point number counts if it is whole and not
negative; one that is too large gives the largest number. -/
def readNat (v : Value) : Except WireError UInt64 :=
  let result : Option UInt64 :=
    match v with
    | .int n => if n < 0 then none else Word.ofNat? n.toNat
    | .float x => if x.isFinite && 0 ≤ x && x.floor == x then some x.toUInt64 else none
    | .text s => Text.word? (trim s.toList)
    | _ => none
  match result with
  | some n => .ok n
  | none => .error (.unexpectedType "unsigned integer")

/-- A value as a number of fixed width. -/
def readWord {α : Type} [Word α] (key : String) (v : Value) : Except WireError α := do
  let n ← readNat v
  match Word.ofNat? n.toNat with
  | some a => .ok a
  | none => .error (.invalidOption key (Word.text n))

/-- A value as a truth value; a number is true unless it is zero. -/
def readFlag (key : String) : Value → Except WireError Bool
  | .bool b => .ok b
  | .text s =>
    match parseFlag? s with
    | some b => .ok b
    | none => .error (.invalidOption key s)
  | v => (readNat v).map (· ≠ 0)

/-! ## The value of a key -/

/-- The value of a key as `read` takes it.  A key that is missing or null has none. -/
def field? {α : Type} (w : Wire) (key : String) (read : Value → Except WireError α) :
    Except WireError (Option α) :=
  match w.get? key with
  | none => .ok none
  | some .null => .ok none
  | some v => WireError.within key ((read v).map some)

/-- The text of a key. -/
def text? (w : Wire) (key : String) : Except WireError (Option String) :=
  w.field? key readText

/-- The number of a key. -/
def word? {α : Type} [Word α] (w : Wire) (key : String) : Except WireError (Option α) :=
  w.field? key (readWord key)

/-- The truth value of a key. -/
def flag? (w : Wire) (key : String) : Except WireError (Option Bool) :=
  w.field? key (readFlag key)

/-- The text of a key, decoded further by `decode`. -/
def decoded? {α : Type} (w : Wire) (key : String) (decode : String → Except WireError α) :
    Except WireError (Option α) :=
  w.field? key fun v ↦ readText v >>= decode

/-! ## Families of devices -/

/-- The entries of a family: every key that is one of its slots, in ascending order of the keys. -/
def family (w : Wire) (kind : SlotKind) (stem : String) : List (Slot kind × String × Value) :=
  w.toList.filterMap fun (key, v) ↦ (Slot.ofKey? stem key).map fun slot ↦ (slot, key, v)

/-- One device of a family, unless its value is null. -/
def device {kind : SlotKind} {α : Type} (decode : String → Except WireError α) :
    Slot kind × String × Value → Except WireError (Option (Slot kind × α))
  | (_, _, .null) => .ok none
  | (slot, key, v) =>
    WireError.within key ((readText v >>= decode).map fun a ↦ some (slot, a))

/-- The devices of a family, by slot.  The first key that cannot be decoded is reported; of two
spellings of one slot the later key counts; a family without devices has no map. -/
def slots {α : Type} (w : Wire) (kind : SlotKind) (stem : String)
    (decode : String → Except WireError α) : Except WireError (Option (SlotMap kind α)) := do
  let found ← (w.family kind stem).mapM (device decode)
  let devices := found.filterMap id
  return if devices.isEmpty then none else some (.ofList devices)

end Wire

end GuestConfig
