import GuestConfig.Proofs.Plan.Steps
import GuestConfig.Proofs.Settling.Device
import GuestConfig.Proofs.Settling.Network

/-!
# What is written can be read

A stored object is read as a whole or not at all: a single value that cannot be decoded makes the
guest unreadable.  A change leaves a key readable if it was readable before and whatever is written
under it can be read.  For a family that has to be said of all of its keys, since a slot that is
spelled with zeros in front is decoded as well.

How a setting reads after a change is not the question here, and so nothing is asked of the way in
which slots are spelled.

## What is here

* `Draft.exists_set_of_effect` — what is left under a key was set by a step.
* `Wire.exists_field?_of_writes` — **a key stays readable.**
* `Wire.exists_slots_iff` — **a family is decoded exactly if all of its keys are.**
* `Draft.WritesReadable` and `Wire.exists_slots_of_writes` — **a family stays readable.**
* `Placement.exists_slots_byText`, `NetworkInterface.exists_ofWire` — devices and interfaces.
-/

set_option autoImplicit false

namespace GuestConfig

theorem Draft.exists_set_of_effect {draft : Draft} {key : String} {value : Value}
    (h : draft.effect key = .set value) : ∃ reboot, Step.set key value reboot ∈ draft := by
  rw [← effect_change, Change.effect] at h
  split at h
  · cases h
  · split at h
    · next hget =>
      obtain rfl := Effect.set.inj h
      exact exists_set_of_get?_change hget
    · cases h

/-! ## One key -/

namespace Wire

variable {α : Type} {w w' : Wire}

/-- **A key stays readable** if what is written under it can be read. -/
theorem exists_field?_of_writes {key : String} {read : Value → Except WireError α}
    {before : Option α} {draft : Draft} (h : w.field? key read = .ok before)
    (hafter : w'.get? key = (draft.effect key).applyTo (w.get? key))
    (hwrites : ∀ value reboot, Step.set key value reboot ∈ draft → ∃ a, read value = .ok a) :
    ∃ after, w'.field? key read = .ok after := by
  cases heffect : draft.effect key with
  | keep =>
    rw [heffect] at hafter
    exact ⟨before, (field?_congr hafter).trans h⟩
  | delete =>
    rw [heffect] at hafter
    exact ⟨none, field?_of_get?_none hafter⟩
  | set value =>
    rw [heffect] at hafter
    obtain ⟨reboot, hset⟩ := Draft.exists_set_of_effect heffect
    obtain ⟨a, ha⟩ := hwrites value reboot hset
    by_cases hnull : value = .null
    · exact ⟨none, field?_eq_none_iff.2 (.inr (hnull ▸ hafter))⟩
    · exact ⟨some a, field?_eq_some_iff.2 ⟨value, hafter, hnull, ha⟩⟩

/-! ## Families -/

variable {kind : SlotKind} {stem : String} {decode : String → Except WireError α}

/-- **A family is decoded exactly if all of its keys are**, however they are spelled. -/
theorem exists_slots_iff :
    (∃ m, w.slots kind stem decode = .ok m) ↔
      ∀ (slot : Slot kind) (key : String), Slot.ofKey? stem key = some slot →
        ∃ o, w.decoded? key decode = .ok o := by
  constructor
  · rintro ⟨m, hm⟩ slot key hslot
    obtain ⟨found, hfound, -⟩ := exists_of_slots_eq_ok hm
    cases hv : w.get? key with
    | none => exact ⟨none, field?_of_get?_none hv⟩
    | some v =>
      have hread := List.mem_map_of_mem (f := device decode) (mem_family_iff.2 ⟨hv, hslot⟩)
      rw [hfound, device_eq hv] at hread
      obtain ⟨_, -, hdevice⟩ := List.mem_map.1 hread
      obtain ⟨o, ho, -⟩ := map_eq_ok_iff.1 hdevice.symm
      exact ⟨o, ho⟩
  · intro h
    have hfound : (w.family kind stem).map (device decode) =
        ((w.family kind stem).map fun e ↦ (device decode e).toOption.join).map .ok := by
      rw [List.map_map]
      refine List.map_congr_left fun e he ↦ ?_
      obtain ⟨slot, key, v⟩ := e
      obtain ⟨hv, hslot⟩ := mem_family_iff.1 he
      obtain ⟨o, ho⟩ := h slot key hslot
      rw [Function.comp_apply, device_eq hv, ho]
      rfl
    exact ⟨_, slots_eq_ok hfound⟩

end Wire

/-- Every value that a draft writes is a text that can be decoded. -/
def Draft.WritesReadable {α : Type} (decode : String → Except WireError α) (draft : Draft) : Prop :=
  ∀ key value reboot, Step.set key value reboot ∈ draft →
    ∃ s a, value = .text s ∧ decode s = .ok a

/-- **A family stays readable** if what is written under its keys can be decoded. -/
theorem Wire.exists_slots_of_writes {α : Type} {w w' : Wire} {kind : SlotKind} {stem : String}
    {decode : String → Except WireError α} {before : Option (SlotMap kind α)} {draft : Draft}
    (h : w.slots kind stem decode = .ok before)
    (hafter : ∀ key, (Slot.ofKey? stem key : Option (Slot kind)).isSome →
      w'.get? key = (draft.effect key).applyTo (w.get? key))
    (hwrites : draft.WritesReadable decode) : ∃ after, w'.slots kind stem decode = .ok after := by
  refine exists_slots_iff.2 fun slot key hslot ↦ ?_
  obtain ⟨o, ho⟩ := exists_slots_iff.1 ⟨before, h⟩ slot key hslot
  refine exists_field?_of_writes ho (hafter key (by rw [hslot]; rfl)) fun value reboot hset ↦ ?_
  obtain ⟨s, a, rfl, ha⟩ := hwrites key value reboot hset
  exact ⟨a, ha⟩

namespace Draft

variable {α : Type} {decode : String → Except WireError α}

theorem writesReadable_nil : WritesReadable decode [] :=
  fun _ _ _ h ↦ absurd h List.not_mem_nil

theorem writesReadable_set {s : String} {a : α} (h : decode s = .ok a) (key : String)
    (reboot : Bool) : WritesReadable decode [.set key (.text s) reboot] := by
  intro key' value reboot' hmem
  obtain ⟨-, rfl, -⟩ := Step.set.inj (List.mem_singleton.1 hmem)
  exact ⟨s, a, rfl, h⟩

theorem writesReadable_delete (key : String) (reboot : Bool) :
    WritesReadable decode [.delete key reboot] :=
  fun _ _ _ h ↦ Step.noConfusion (List.mem_singleton.1 h)

theorem writesReadable_rendered {after : String} {a : α} (h : decode after = .ok a) (key : String)
    (before : Option String) : (rendered key before after).WritesReadable decode := by
  intro key' value reboot hmem
  obtain ⟨-, ⟨-, hset⟩ | ⟨-, -, hdelete⟩⟩ := mem_rendered_iff.1 hmem
  · obtain ⟨-, rfl, -⟩ := Step.set.inj hset
    exact ⟨after, a, rfl, h⟩
  · cases hdelete

end Draft

namespace Placement

variable {α : Type} {kind : SlotKind} {p : Placement α} {stem : String}
  {decode : String → Except WireError α}

/-- The steps for a family write what can be decoded if the steps for each of its devices do. -/
theorem writesReadable_plan {current : Option (SlotMap kind α)} {desired : SlotMap kind α}
    (hplace : ∀ slot device, desired.get? slot = some device →
      (p.place (slot.key stem) ((current.getD .empty).get? slot) device).WritesReadable decode)
    (hremove : ∀ key device, (p.remove key device).WritesReadable decode) :
    (p.plan stem current (some desired)).WritesReadable decode := by
  intro key value reboot hmem
  obtain ⟨_, hsome, ⟨slot, device, hdevice, hset⟩ | ⟨slot, device, -, -, hset⟩⟩ :=
    mem_plan_iff.1 hmem
  · obtain rfl := Option.some.inj hsome
    exact hplace slot device hdevice key value reboot hset
  · exact hremove _ device key value reboot hset

variable {w w' : Wire}

/-- **Devices that are compared by their text stay readable.** -/
theorem exists_slots_byText {text : α → String}
    (hdecode : ∀ device, decode (text device) = .ok device) {plugReboot changeReboot : Bool}
    {current desired : Option (SlotMap kind α)} (h : w.slots kind stem decode = .ok current)
    (hafter : ∀ key, (Slot.ofKey? stem key : Option (Slot kind)).isSome → w'.get? key =
      (((byText text plugReboot changeReboot).plan stem current desired).effect key).applyTo
        (w.get? key)) :
    ∃ after, w'.slots kind stem decode = .ok after := by
  refine Wire.exists_slots_of_writes h hafter ?_
  cases desired with
  | none => exact Draft.writesReadable_nil
  | some desired =>
    refine writesReadable_plan (fun slot device _ ↦ ?_) fun key _ ↦
      Draft.writesReadable_delete key plugReboot
    simp only [byText]
    repeat' split
    all_goals
      first
      | exact Draft.writesReadable_nil
      | exact Draft.writesReadable_set (hdecode device) _ _

end Placement

/-- **The interfaces of a guest stay readable.** -/
theorem NetworkInterface.exists_ofWire {w w' : Wire}
    {current desired : Option (SlotMap .network NetworkInterface)} (h : ofWire w = .ok current)
    (hafter : w'.Follows .networks (placement.plan stem current desired) w) :
    ∃ after, ofWire w' = .ok after := by
  refine Wire.exists_slots_of_writes h
    (fun key hkey ↦ hafter key (Setting.owner?_of_ofKey? rfl rfl hkey)) ?_
  cases desired with
  | none => exact Draft.writesReadable_nil
  | some interfaces =>
    refine Placement.writesReadable_plan (fun slot interface _ ↦ ?_) fun key _ ↦
      Draft.writesReadable_delete key false
    simp only [placement, place]
    repeat' split
    all_goals
      first
      | exact Draft.writesReadable_nil
      | exact Draft.writesReadable_delete _ _
      | exact Draft.writesReadable_set (decode_text _) _ _

end GuestConfig
