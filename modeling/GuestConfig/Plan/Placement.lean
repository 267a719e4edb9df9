import GuestConfig.Plan.Step

/-!
# Planning a family of devices

A device occupies one slot, and a slot is one key.  A family is replaced as a whole: a device is
placed into every slot that the desired map names, over the device that is there already, and every
other device is removed.

## What is here

* `Placement` — how one kind of device is placed and removed.
* `Placement.plan` — the steps for a whole family: first the desired slots in ascending order, then
  the ones to clear.
* `Placement.byText` — the placement of devices that are compared by the text that the API holds.
-/

set_option autoImplicit false

namespace GuestConfig

/-- How devices of a kind are put into a slot and taken out of it. -/
structure Placement (α : Type) where
  /-- The steps that put a device under a key, over the device that is there already. -/
  place (key : String) (existing : Option α) (device : α) : Draft
  /-- The steps that take a device away from a key. -/
  remove (key : String) (device : α) : Draft

namespace Placement

variable {α : Type} {kind : SlotKind}

/-- The steps that put the desired devices into their slots. -/
def placeAll (p : Placement α) (stem : String) (current desired : SlotMap kind α) : Draft :=
  desired.toList.flatMap fun (slot, device) ↦ p.place (slot.key stem) (current.get? slot) device

/-- The steps that take the devices away whose slots are not desired. -/
def removeOthers (p : Placement α) (stem : String) (current desired : SlotMap kind α) : Draft :=
  current.toList.flatMap fun (slot, device) ↦
    if desired.contains slot then [] else p.remove (slot.key stem) device

/-- The steps for a family, if it is asked for. -/
def plan (p : Placement α) (stem : String) (current desired : Option (SlotMap kind α)) : Draft :=
  match desired with
  | none => []
  | some desired =>
    let current := current.getD .empty
    p.placeAll stem current desired ++ p.removeOthers stem current desired

@[simp] theorem plan_none (p : Placement α) (stem : String) (current : Option (SlotMap kind α)) :
    p.plan stem current none = [] := rfl

/-- Devices that are written as a whole whenever their text changes; `plugReboot` if attaching and
detaching needs a reboot, `changeReboot` if replacing does. -/
def byText (text : α → String) (plugReboot changeReboot : Bool) : Placement α where
  place key existing device :=
    match existing with
    | none => [.set key (text device) plugReboot]
    | some other => if text device = text other then [] else [.set key (text device) changeReboot]
  remove key _ := [.delete key plugReboot]

end Placement

end GuestConfig
