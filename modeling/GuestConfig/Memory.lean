import GuestConfig.Plan.Step
import GuestConfig.Value.Reader

/-!
# Memory

A guest has a capacity of memory and, if it has a balloon, a smaller amount that the host may
shrink it to.  The shares weigh the guest against others when the host does so; without a balloon
they mean nothing.  All amounts are mebibytes.

## What is here

* `Memory` — the settings; `Memory.laidOver` combines them with those in effect, and
  `Memory.canShrink` says whether there is a balloon.
* `Memory.validate` — the rules: ranges, a minimum within the capacity, shares only with a balloon.
* `Memory.plan` — the steps.  Capacity can be added to a running guest but not taken away, and
  shares are cleared with the balloon.
-/

set_option autoImplicit false

namespace GuestConfig

/-- The memory settings of a guest. -/
structure Memory where
  /-- The capacity. -/
  capacity : Option UInt32 := none
  /-- The amount that the host may shrink it to. -/
  minimum : Option UInt32 := none
  /-- The weight against other guests; zero is the usual weight. -/
  shares : Option UInt16 := none
  deriving DecidableEq, Repr

namespace Memory

/-- The capacity of a guest that does not say. -/
def defaultCapacity : UInt32 := 512

/-- The smallest capacity. -/
def leastCapacity : UInt32 := 16

/-- The largest capacity. -/
def greatestCapacity : UInt32 := 4178944

/-- The largest weight. -/
def greatestShares : UInt16 := 50000

/-- The settings that result when `memory` is asked for where `base` is in effect. -/
def laidOver (memory base : Memory) : Memory where
  capacity := memory.capacity.or base.capacity
  minimum := memory.minimum.or base.minimum
  shares := memory.shares.or base.shares

/-- The capacity in effect. -/
def effectiveCapacity (memory : Memory) : UInt32 :=
  memory.capacity.getD defaultCapacity

/-- Whether the host may shrink the guest. -/
def canShrink (memory : Memory) : Bool :=
  memory.minimum.any (· < memory.effectiveCapacity)

@[simp] theorem laidOver_self (memory : Memory) : memory.laidOver memory = memory := by
  simp [laidOver]

/-! ## Rules -/

/-- Checks the settings that are asked for, on top of those in effect. -/
def validate (current : Option Memory) (desired : Memory) : Except RuleError Unit := do
  let after := desired.laidOver (current.getD { })
  requireOf desired.capacity fun capacity ↦
    require (leastCapacity ≤ capacity && capacity ≤ greatestCapacity) (.memoryCapacity capacity)
  requireOf desired.shares fun shares ↦
    require (shares ≤ greatestShares) (.memoryShares shares)
  requireOf after.minimum fun minimum ↦
    require (minimum ≤ after.effectiveCapacity) (.memoryMinimum minimum after.effectiveCapacity)
  requireOf desired.shares fun shares ↦
    require (shares == 0 || after.canShrink) .sharesWithoutBalloon

/-! ## The stored settings -/

/-- The key of the capacity. -/
def capacityKey : String :=
  "memory"

/-- The key of the minimum. -/
def minimumKey : String :=
  "balloon"

/-- The key of the weight. -/
def sharesKey : String :=
  "shares"

/-- A capacity in a text, which stands first or under the name `current`. -/
def decodeCapacity (s : String) : Except WireError UInt32 :=
  let options := OptionList.parse s
  match options.leading?.or (options.get? "current") with
  | none => .error (.missingOption "current")
  | some size =>
    match Text.word? size.toList with
    | some n => .ok n
    | none => .error (.invalidOption "current" size)

/-- The capacity of a guest. -/
def capacityOfWire (w : Wire) : Except WireError (Option UInt32) :=
  match w.get? capacityKey with
  | some (.text s) => WireError.within capacityKey ((decodeCapacity s).map some)
  | _ => w.word? capacityKey

/-- The settings of a guest, if it has any. -/
def ofWire (w : Wire) : Except WireError (Option Memory) := do
  let memory : Memory := {
    capacity := ← capacityOfWire w
    minimum := ← w.word? minimumKey
    shares := ← w.word? sharesKey }
  return if memory = { } then none else some memory

/-! ## Planning -/

/-- Whether a capacity is replaced by a smaller one. -/
def isShrinking : Option UInt32 → Option UInt32 → Bool
  | some before, some after => after < before
  | _, _ => false

/-- The steps for the settings that are asked for. -/
def plan (current : Option Memory) (desired : Memory) : Draft :=
  let base := current.getD { }
  Draft.setting capacityKey (fun n ↦ some (.ofWord n))
      (isShrinking base.capacity desired.capacity) base.capacity desired.capacity ++
    Draft.setting minimumKey (fun n ↦ some (.ofWord n)) false base.minimum desired.minimum ++
    match desired.shares with
    | some _ => Draft.setting sharesKey Value.ofNonzero false base.shares desired.shares
    | none =>
      if base.shares.any (0 < ·) && !(desired.laidOver base).canShrink then
        [.delete sharesKey false]
      else []

/-! ## As a document -/

/-- Reads the settings. -/
def ofValue? (v : Value) : Option Memory := do
  let fields ← v.fields? ["capacity_mib", "minimum_capacity_mib", "shares"]
  return {
    capacity := ← fields.optional "capacity_mib" Value.word?
    minimum := ← fields.optional "minimum_capacity_mib" Value.word?
    shares := ← fields.optional "shares" Value.word? }

/-- Writes the settings. -/
def toValue (memory : Memory) : Value :=
  .object [
    ("capacity_mib", .ofOption .ofWord memory.capacity),
    ("minimum_capacity_mib", .ofOption .ofWord memory.minimum),
    ("shares", .ofOption .ofWord memory.shares)]

end Memory

end GuestConfig
