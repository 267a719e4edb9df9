import GuestConfig.Checked
import GuestConfig.Sorted.Map

/-!
# Why a description cannot be used

A description that is well-formed can still ask for something that is no configuration.  Whatever
is wrong with it is told in the words of the description: the key of a device, the text of a size.

## What is here

* `DescriptionError` and its `message`.
* `Described` — a result, or the reason that there is none.
* `Described.checked` — a text with a grammar.
* `Described.slots` — a family of devices from the entries of a description.
-/

set_option autoImplicit false

namespace GuestConfig

open Text (quoted)

/-- Why a description cannot be used. -/
inductive DescriptionError where
  /-- The key of a device is no slot of its family. -/
  | slot (family key : String) (cause : SlotError)
  /-- A size is malformed. -/
  | size (field value : String) (cause : UnitError)
  /-- An amount of memory is no number of mebibytes. -/
  | memorySize (value : String)
  /-- An affinity is malformed. -/
  | affinity (value : String) (cause : WireError)
  /-- A device of a mapping has the type of a mediated device. -/
  | mediatedMapping (device : String)
  /-- A rule of configurations is broken. -/
  | rule (cause : RuleError)
  deriving DecidableEq, Repr

/-- The cause in words, without what stands behind it; a broken rule speaks for itself. -/
def DescriptionError.message : DescriptionError → String
  | slot family key _ => "invalid " ++ family ++ " slot " ++ quoted key
  | size field value _ => "invalid size " ++ quoted value ++ " for " ++ field
  | memorySize value => "memory size " ++ quoted value ++ " isn't a whole number of mebibytes"
  | affinity value _ => "invalid CPU affinity " ++ quoted value
  | mediatedMapping device =>
    "PCI device " ++ device ++ " has a mediated device type but no raw address"
  | rule cause => cause.message

/-- A part of a configuration, or why a description has none. -/
abbrev Described (α : Type) : Type :=
  Except DescriptionError α

namespace Described

/-- A failure to follow a rule. -/
def broken {α : Type} (rule : RuleError) : Described α :=
  .error (.rule rule)

/-- A text with a grammar. -/
def checked {g : Grammar} (s : String) : Described (Checked g) :=
  (Checked.parse s).mapError .rule

/-- A part of a configuration that may be absent. -/
def optional {α β : Type} (convert : α → Described β) : Option α → Described (Option β)
  | none => .ok none
  | some a => (convert a).map some

/-- One device of a family.  It is converted under its name: the family and the number of its
slot. -/
def device {kind : SlotKind} {α β : Type} (family : String) (convert : String → α → Described β)
    (entry : String × α) : Described (Slot kind × β) := do
  let slot ← (Slot.parse entry.1).mapError (.slot family entry.1)
  return (slot, ← convert (slot.key family) entry.2)

/-- The devices of a family.  They are converted in ascending order of their keys, and the first
one that cannot be used is reported; of two spellings of one slot the later key counts. -/
def slots {kind : SlotKind} {α β : Type} (family : String) (convert : String → α → Described β)
    (entries : SortedMap String α) : Described (SlotMap kind β) :=
  (entries.toList.mapM (device family convert)).map .ofList

@[simp] theorem checked_text {g : Grammar} (a : Checked g) : checked a.text = .ok a := by
  rw [checked, Checked.parse_text]
  rfl

end Described

end GuestConfig
