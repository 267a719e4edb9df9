import GuestConfig.Proofs.Convergence
import GuestConfig.Proofs.WellFormed

/-!
# Addresses and the interfaces that an update leaves

Cloud-init gives addresses to interfaces by their slots, and an address without an interface means
nothing.  Interfaces and addresses are two families that are updated independently of each other.
The rule is checked for the addresses that are asked for: each of them needs an interface once the
update is in effect.  It is not checked for those that stay because nothing is asked for about
addresses, and an update of the interfaces alone may take theirs away.

## What is here

* `Configuration.AddressesInterfaces` — every slot with addresses has an interface.
* `Configuration.isSome_networks_eq` — the interfaces that are there after an update, and
  `Configuration.isSome_addressing_of_asked`, the addresses.
* `Configuration.StrandsAddressing` — an interface is taken away whose addresses stay.
* `planUpdate_addressesInterfaces_iff` — **an update leaves addresses for interfaces only exactly if
  it strands none**, and `planUpdate_strands_addressing`, an update that does.
-/

set_option autoImplicit false

namespace GuestConfig

namespace Configuration

/-- Every slot with addresses has an interface. -/
def AddressesInterfaces (c : Configuration) : Prop :=
  ∀ slot : Slot .network, ((c.addressing.getD .empty).get? slot).isSome →
    ((c.networks.getD .empty).get? slot).isSome

instance (c : Configuration) : Decidable c.AddressesInterfaces :=
  decidable_of_iff (∀ e ∈ (c.addressing.getD .empty).toList,
      ((c.networks.getD .empty).get? e.1).isSome) <| by
    simp only [AddressesInterfaces, Prod.forall, SortedMap.mem_toList_iff,
      Option.isSome_iff_exists, forall_exists_index]

/-- Interfaces are asked for, of which none stays in a slot with addresses, and nothing is asked for
about addresses. -/
structure StrandsAddressing (desired current : Configuration) : Prop where
  /-- The addresses stay. -/
  addressing_eq : desired.addressing = none
  /-- An interface does not stay. -/
  exists_slot : ∃ interfaces, desired.networks = some interfaces ∧ ∃ slot : Slot .network,
    ((current.addressing.getD .empty).get? slot).isSome ∧
      (interfaces.get? slot).all (·.delete) = true

/-- Only the interfaces that are asked for and the addresses that are there need to be looked at. -/
theorem strandsAddressing_iff {desired current : Configuration} :
    desired.StrandsAddressing current ↔ desired.addressing = none ∧
      ∃ interfaces ∈ desired.networks, ∃ e ∈ (current.addressing.getD .empty).toList,
        (interfaces.get? e.1).all (·.delete) = true := by
  simp only [Option.mem_def, Prod.exists, SortedMap.mem_toList_iff]
  constructor
  · rintro ⟨hnone, interfaces, hinterfaces, slot, hslot, hgone⟩
    obtain ⟨a, ha⟩ := Option.isSome_iff_exists.1 hslot
    exact ⟨hnone, interfaces, hinterfaces, slot, a, ha, hgone⟩
  · rintro ⟨hnone, interfaces, hinterfaces, slot, a, ha, hgone⟩
    exact ⟨hnone, interfaces, hinterfaces, slot, by rw [ha]; rfl, hgone⟩

instance (desired current : Configuration) : Decidable (desired.StrandsAddressing current) :=
  decidable_of_iff _ strandsAddressing_iff.symm

/-! ## What is there after an update -/

theorem hasInterface_eq_isSome {current desired : Configuration} (h : desired.networks = none)
    (slot : Slot .network) :
    hasInterface (some current) desired slot =
      ((current.networks.getD .empty).get? slot).isSome := by
  rw [hasInterface, h]
  dsimp only
  rw [Option.bind_some]
  cases current.networks <;> rfl

section updates

variable {version : Version} {guest : GuestId} {w w' : Wire} {current desired after : Configuration}
  (hcurrent : Holds w current)
  (hwrite : ∀ key, w'.get? key =
    ((desired.plan version (some guest) (some current)).effect key).applyTo (w.get? key))
  (hafter : Holds w' after)
include hcurrent hwrite hafter

theorem addressing_eq_of_none (hdesired : desired.addressing = none) :
    after.addressing = current.addressing := by
  have hsame : w'.slots .network CloudInit.addressingStem Addressing.decode =
      w.slots .network CloudInit.addressingStem Addressing.decode :=
    Wire.slots_congr fun key hkey ↦ by
      rw [hwrite, effect_plan_addressing version (some guest) current desired hkey, hdesired]
      rfl
  exact Except.ok.inj <|
    hafter.slots_addressing.symm.trans (hsame.trans hcurrent.slots_addressing)

variable (hvalid : desired.validate version (some current) = .ok ())
include hvalid

/-- **The interfaces after an update** are in the slots that the rule for addresses looks for. -/
theorem isSome_networks_eq (hplain : w.HasPlainKeys .network NetworkInterface.stem)
    (slot : Slot .network) :
    ((after.networks.getD .empty).get? slot).isSome = hasInterface (some current) desired slot := by
  have hfollows := follows hwrite .networks
  rw [planOnly_eq] at hfollows
  dsimp only at hfollows
  cases hdesired : desired.networks with
  | none =>
    rw [hdesired] at hfollows
    have hsame : after.networks = current.networks := Except.ok.inj <|
      hafter.networks.symm.trans <|
        (NetworkInterface.ofWire_of_follows_nil hfollows).trans hcurrent.networks
    rw [hasInterface_eq_isSome hdesired, hsame]
  | some interfaces =>
    obtain ⟨found, hfound, hplan, -⟩ := NetworkInterface.settles hplain hcurrent.networks
      (validate_eq_ok_iff.1 hvalid).networks hfollows
    obtain rfl : found = after.networks := Except.ok.inj (hfound.symm.trans hafter.networks)
    rw [hdesired] at hplan
    rw [NetworkInterface.isSome_get?_of_plan_eq_nil hplan, hasInterface, hdesired]

/-- **The addresses after an update** that asks for any are in slots that it asks for. -/
theorem isSome_addressing_of_asked (hplain : w.HasPlainKeys .network CloudInit.addressingStem)
    {asked : SlotMap .network Addressing} (hdesired : desired.addressing = some asked)
    {slot : Slot .network} (hslot : ((after.addressing.getD .empty).get? slot).isSome) :
    (asked.get? slot).isSome := by
  obtain ⟨settings, hsettings, haddressing⟩ := Option.bind_eq_some_iff.1 hdesired
  have hrules (a : SlotMap .network Addressing) (ha : desired.addressing = some a) :=
    CloudInit.addressing_of_validate ((validate_eq_ok_iff.1 hvalid).cloudInit settings hsettings) a
      (haddressing.trans (hdesired.symm.trans ha))
  obtain ⟨found, hfound, hplan⟩ := CloudInit.exists_addressing hcurrent.slots_addressing hplain
    hrules fun key hkey ↦ by
      rw [hwrite, effect_plan_addressing version (some guest) current desired hkey]
  obtain rfl : found = after.addressing :=
    Except.ok.inj (hfound.symm.trans hafter.slots_addressing)
  rw [hdesired] at hplan
  exact Placement.isSome_of_plan_eq_nil hplan (fun _ _ ↦ List.cons_ne_nil _ _) hslot

/-- An update leaves addresses for interfaces only exactly if it strands none. -/
theorem addressesInterfaces_iff (hplain : w.HasPlainSlots)
    (haddresses : current.AddressesInterfaces) :
    after.AddressesInterfaces ↔ ¬desired.StrandsAddressing current := by
  have hnetworks := isSome_networks_eq hcurrent hwrite hafter hvalid hplain.networks
  constructor
  · rintro hall ⟨hnone, interfaces, hinterfaces, slot, hslot, hgone⟩
    have hkept := addressing_eq_of_none hcurrent hwrite hafter hnone
    have hthere := hall slot (hkept ▸ hslot)
    rw [hnetworks, hasInterface, hinterfaces] at hthere
    cases hget : interfaces.get? slot <;> simp_all
  · intro hstrands slot hslot
    rw [hnetworks]
    cases hdesired : desired.addressing with
    | some asked =>
      -- the rule was checked for every slot that is asked for
      have hasked := isSome_addressing_of_asked hcurrent hwrite hafter hvalid hplain.addressing
        hdesired hslot
      obtain ⟨settings, hsettings, haddressing⟩ := Option.bind_eq_some_iff.1 hdesired
      obtain ⟨a, ha⟩ := Option.isSome_iff_exists.1 hasked
      exact (validate_eq_ok_iff.1 hvalid).addressing settings hsettings asked haddressing slot
        (List.mem_map.2 ⟨(slot, a), asked.mem_toList_iff.2 ha, rfl⟩)
    | none =>
      rw [addressing_eq_of_none hcurrent hwrite hafter hdesired] at hslot
      cases hinterfaces : desired.networks with
      | none =>
        rw [hasInterface_eq_isSome hinterfaces]
        exact haddresses slot hslot
      | some interfaces =>
        refine Decidable.byContradiction fun hnot ↦
          hstrands ⟨hdesired, interfaces, hinterfaces, slot, hslot, ?_⟩
        rw [hasInterface, hinterfaces] at hnot
        cases hget : interfaces.get? slot <;> simp_all

end updates

end Configuration

/-- **An update leaves addresses for interfaces only exactly if it strands none.** -/
theorem planUpdate_addressesInterfaces_iff {version : Version} {guest : GuestId} {w : Wire}
    {current desired after : Configuration} {change : Change} (hplain : w.HasPlainSlots)
    (hcurrent : Configuration.ofWire w = .ok current) (haddresses : current.AddressesInterfaces)
    (hchange : (planUpdate version guest current desired).result = .ok change)
    (hafter : Configuration.ofWire (change.applyTo w) = .ok after) :
    after.AddressesInterfaces ↔ ¬desired.StrandsAddressing current := by
  obtain ⟨hvalid, -, rfl⟩ := planUpdate_eq_ok_iff.1 hchange
  exact Configuration.addressesInterfaces_iff (Configuration.ofWire_eq_ok_iff.1 hcurrent)
    (Draft.get?_applyTo_change _ w) (Configuration.ofWire_eq_ok_iff.1 hafter) hvalid hplain
    haddresses

/-- A guest with two interfaces, one of which has addresses. -/
def addressedGuest : Wire :=
  .ofList [("ipconfig0", .text "ip=dhcp"),
    ("net0", .text "virtio=BC:24:11:AA:00:00,bridge=vmbr0"),
    ("net1", .text "virtio=BC:24:11:AA:00:01,bridge=vmbr0")]

theorem hasPlainSlots_addressedGuest : addressedGuest.HasPlainSlots where
  drives bus := by cases bus <;> decide +kernel
  networks := by decide +kernel
  addressing := by decide +kernel
  pciDevices := by decide +kernel
  serials := by decide +kernel
  usbs := by decide +kernel

/-- What is asked for to put the interface with addresses behind the firewall, and to take the other
one away. -/
def narrowedGuest : Configuration where
  networks := some (.ofList [(.first .network, { firewall := some true })])

/-- The addresses keep their interface. -/
theorem planUpdate_addressesInterfaces_iff_of_narrowed :
    ∃ current change after,
      addressedGuest.HasPlainSlots ∧
      Configuration.ofWire addressedGuest = .ok current ∧ current.AddressesInterfaces ∧
      (planUpdate ⟨8, 1, 0⟩ ⟨100, by decide, by decide⟩ current narrowedGuest).result =
        .ok change ∧
      change.params.keys = ["net0"] ∧ change.deleted = ["net1"] ∧
      Configuration.ofWire (change.applyTo addressedGuest) = .ok after ∧
      after.AddressesInterfaces := by
  have h : ((Configuration.ofWire addressedGuest).toOption.bind fun current ↦
      (planUpdate ⟨8, 1, 0⟩ ⟨100, by decide, by decide⟩ current
        narrowedGuest).result.toOption.bind fun change ↦
          (Configuration.ofWire (change.applyTo addressedGuest)).toOption.bind fun _ ↦
            some (decide current.AddressesInterfaces,
              decide (narrowedGuest.StrandsAddressing current), change.params.keys,
              change.deleted)) =
      some (true, false, ["net0"], ["net1"]) := by
    decide +kernel
  obtain ⟨current, hcurrent, h⟩ := exists_of_toOption_bind h
  obtain ⟨change, hchange, h⟩ := exists_of_toOption_bind h
  obtain ⟨after, hafter, h⟩ := exists_of_toOption_bind h
  simp only [Option.some.injEq, Prod.mk.injEq, decide_eq_true_eq, decide_eq_false_iff_not] at h
  obtain ⟨haddresses, hstrands, hkeys, hdeleted⟩ := h
  exact ⟨current, change, after, hasPlainSlots_addressedGuest, hcurrent, haddresses, hchange, hkeys,
    hdeleted, hafter, (planUpdate_addressesInterfaces_iff hasPlainSlots_addressedGuest hcurrent
      haddresses hchange hafter).2 hstrands⟩

/-- What is asked for to take all interfaces away. -/
def disconnectedGuest : Configuration where
  networks := some .empty

/-- The interfaces are taken away, and the addresses stay. -/
theorem planUpdate_strands_addressing :
    ∃ current change after,
      addressedGuest.HasPlainSlots ∧
      Configuration.ofWire addressedGuest = .ok current ∧ current.AddressesInterfaces ∧
      (planUpdate ⟨8, 1, 0⟩ ⟨100, by decide, by decide⟩ current disconnectedGuest).result =
        .ok change ∧
      change.params.keys = [] ∧ change.deleted = ["net0", "net1"] ∧
      Configuration.ofWire (change.applyTo addressedGuest) = .ok after ∧
      ¬after.AddressesInterfaces := by
  have h : ((Configuration.ofWire addressedGuest).toOption.bind fun current ↦
      (planUpdate ⟨8, 1, 0⟩ ⟨100, by decide, by decide⟩ current
        disconnectedGuest).result.toOption.bind fun change ↦
          (Configuration.ofWire (change.applyTo addressedGuest)).toOption.bind fun after ↦
            some (decide current.AddressesInterfaces, decide after.AddressesInterfaces,
              change.params.keys, change.deleted)) =
      some (true, false, [], ["net0", "net1"]) := by
    decide +kernel
  obtain ⟨current, hcurrent, h⟩ := exists_of_toOption_bind h
  obtain ⟨change, hchange, h⟩ := exists_of_toOption_bind h
  obtain ⟨after, hafter, h⟩ := exists_of_toOption_bind h
  simp only [Option.some.injEq, Prod.mk.injEq, decide_eq_true_eq, decide_eq_false_iff_not] at h
  obtain ⟨haddresses, hnot, hkeys, hdeleted⟩ := h
  exact ⟨current, change, after, hasPlainSlots_addressedGuest, hcurrent, haddresses, hchange, hkeys,
    hdeleted, hafter, hnot⟩

end GuestConfig
