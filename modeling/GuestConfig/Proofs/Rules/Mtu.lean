import GuestConfig.Proofs.Convergence
import GuestConfig.Proofs.Plan.Distinct
import GuestConfig.Proofs.Plan.Parts

/-!
# MTUs and the cards that an update writes

Only a VirtIO card has an MTU of its own.  What is written for an interface is what is asked for
laid over what is in effect, so that the card and the MTU may come from different sides.  The rule
looks at the card after the two were laid over, but only if an MTU is asked for: an update that asks
for another card, and says nothing about the MTU, writes the MTU that is in effect with that card.

## What is here

* `NetworkInterface.MtuFits` — an MTU only on a VirtIO card.
* `NetworkInterface.ExchangesCard` — another card is asked for under the MTU in effect.
* `NetworkInterface.mtuFits_plan_iff` — what is written for the interfaces of a guest.
* `planUpdate_mtuFits_iff` — **an update writes MTUs for VirtIO cards only exactly if it exchanges
  no card under an MTU**, and `planUpdate_exchanges_card`, an update that does.
-/

set_option autoImplicit false

namespace GuestConfig

namespace NetworkInterface

/-- An interface has an MTU only if it has a VirtIO card. -/
def MtuFits (interface : NetworkInterface) : Prop :=
  interface.mtu.isSome → interface.card = .virtio

instance (interface : NetworkInterface) : Decidable interface.MtuFits :=
  inferInstanceAs (Decidable (_ → _))

/-- Another card than VirtIO is written for an MTU that is in effect, and no other MTU is asked
for. -/
structure ExchangesCard (desired current : NetworkInterface) : Prop where
  /-- The interface stays. -/
  delete_eq : desired.delete = false
  /-- No MTU is asked for. -/
  asked_none : desired.mtu = none
  /-- There is an MTU. -/
  isSome : current.mtu.isSome
  /-- It is written with another card. -/
  card_ne : (desired.laidOver current).card ≠ .virtio

/-! ## One interface -/

theorem mtuFits_stored_iff {interface : NetworkInterface} :
    interface.stored.MtuFits ↔ interface.MtuFits := by
  simp [MtuFits, stored, card]

theorem card_of_validate {slot : Slot .network} {existing : Option NetworkInterface}
    {desired : NetworkInterface} (h : desired.validate slot existing = .ok ())
    (hdelete : desired.delete = false) (hmtu : desired.mtu.isSome) :
    (desired.laidOver (existing.getD { })).card = .virtio := by
  obtain ⟨mtu, hmtu⟩ := Option.isSome_iff_exists.1 hmtu
  have hcard : (desired.laidOver (existing.getD { })).card =
      (desired.model.or (existing.bind model)).getD .standard := by
    cases existing <;> rfl
  simp only [validate, hdelete, Bool.false_eq_true, if_false, bind_unit_eq_ok_iff,
    requireOf_eq_ok_iff] at h
  have hrule := h.1 mtu hmtu
  rw [hcard]
  -- a number of bytes has to be in range first
  cases mtu with
  | inherit => exact of_decide_eq_true (require_eq_ok_iff.1 hrule)
  | bytes n => exact of_decide_eq_true (require_eq_ok_iff.1 (bind_unit_eq_ok_iff.1 hrule).2)

/-- What is laid over an interface has a fitting MTU, unless it exchanges the card under one. -/
theorem mtuFits_laidOver_iff {slot : Slot .network} {existing : Option NetworkInterface}
    {desired : NetworkInterface} (h : desired.validate slot existing = .ok ())
    (hdelete : desired.delete = false) :
    (desired.laidOver (existing.getD { })).MtuFits ↔
      ¬desired.ExchangesCard (existing.getD { }) := by
  cases hasked : desired.mtu with
  | some mtu =>
    refine iff_of_true (fun _ ↦ card_of_validate h hdelete ?_) fun hexchange ↦ ?_
    · rw [hasked]
      rfl
    · exact absurd (hasked.symm.trans hexchange.asked_none) (Option.some_ne_none mtu)
  | none =>
    have hmtu : (desired.laidOver (existing.getD { })).mtu = (existing.getD { }).mtu := by
      simp only [laidOver, hasked, Option.none_or]
    rw [MtuFits, hmtu]
    constructor
    · exact fun hfits hexchange ↦ hexchange.card_ne (hfits hexchange.isSome)
    · exact fun hkeeps hsome ↦ Decidable.byContradiction fun hne ↦
        hkeeps ⟨hdelete, hasked, hsome, hne⟩

/-- What is written into a slot reads as what is asked for, laid over what is there. -/
theorem decode_of_mem_place {key key' : String} {existing : Option NetworkInterface}
    {desired : NetworkInterface} {v : Value} {reboot : Bool}
    (h : Step.set key' v reboot ∈ placement.place key existing desired) :
    desired.delete = false ∧
      ∃ s, v = .text s ∧ decode s = .ok (desired.laidOver (existing.getD { })).stored := by
  simp only [placement, place] at h
  split at h
  · split at h
    · cases h
    · next hkeeps =>
      obtain ⟨-, rfl, -⟩ := Step.set.inj (List.mem_singleton.1 h)
      refine ⟨by simpa using hkeeps, _, rfl, ?_⟩
      rw [Option.getD_none, stored_laidOver_empty]
      exact decode_text desired
  · split at h
    · cases List.mem_singleton.1 h
    · next hkeeps =>
      split at h
      · cases h
      · obtain ⟨-, rfl, -⟩ := Step.set.inj (List.mem_singleton.1 h)
        exact ⟨by simpa using hkeeps, _, rfl, decode_text _⟩

theorem set_mem_place (key : String) {current desired : NetworkInterface}
    (hfits : current.MtuFits) (h : desired.ExchangesCard current) :
    Step.set key (.text (desired.laidOver current).text)
      (needsReboot current (desired.laidOver current)) ∈
        placement.place key (some current) desired := by
  have hne : (desired.laidOver current).text ≠ current.text := by
    intro heq
    -- one text reads as one card
    have hstored : (desired.laidOver current).stored = current.stored :=
      Except.ok.inj ((decode_text _).symm.trans (heq ▸ decode_text current))
    have hcard : (desired.laidOver current).card = current.card :=
      Option.some.inj (congrArg model hstored)
    exact h.card_ne (hcard.trans (hfits h.isSome))
  simp [placement, place, h.delete_eq, hne]

/-! ## The interfaces of a guest -/

/-- A value that reads as an interface with a fitting MTU. -/
def WritesFitting (v : Value) : Prop :=
  ∃ s interface, v = .text s ∧ decode s = .ok interface ∧ interface.MtuFits

/-- **What is written for the interfaces of a guest has fitting MTUs, unless a card is exchanged
under one.** -/
theorem mtuFits_plan_iff {current desired : Option (SlotMap .network NetworkInterface)}
    (hfits : ∀ slot interface, (current.getD .empty).get? slot = some interface →
      interface.MtuFits)
    (hvalid : ∀ interfaces, desired = some interfaces → ∀ slot interface,
      interfaces.get? slot = some interface →
        interface.validate slot ((current.getD .empty).get? slot) = .ok ()) :
    (∀ key v reboot, Step.set key v reboot ∈ placement.plan stem current desired →
      WritesFitting v) ↔
      ∀ interfaces, desired = some interfaces → ∀ slot asked before,
        interfaces.get? slot = some asked → (current.getD .empty).get? slot = some before →
          ¬asked.ExchangesCard before := by
  constructor
  · intro hwrites interfaces hdesired slot asked before hasked hbefore hexchange
    have hmem := set_mem_place (slot.key stem) (hfits slot before hbefore) hexchange
    rw [← hbefore] at hmem
    obtain ⟨s, interface, hs, hdecode, hinterface⟩ := hwrites _ _ _
      (Placement.mem_plan_iff.2 ⟨interfaces, hdesired, .inl ⟨slot, asked, hasked, hmem⟩⟩)
    obtain rfl := Value.text.inj hs
    obtain rfl := Except.ok.inj ((decode_text _).symm.trans hdecode)
    have hrules := hvalid interfaces hdesired slot asked hasked
    rw [hbefore] at hrules
    exact (mtuFits_laidOver_iff hrules hexchange.delete_eq).1 (mtuFits_stored_iff.1 hinterface)
      hexchange
  · intro hkeeps key v reboot hmem
    obtain ⟨interfaces, hdesired, ⟨slot, asked, hasked, hplace⟩ | ⟨slot, before, -, -, hremove⟩⟩ :=
      Placement.mem_plan_iff.1 hmem
    · obtain ⟨hdelete, s, rfl, hdecode⟩ := decode_of_mem_place hplace
      refine ⟨s, _, rfl, hdecode, mtuFits_stored_iff.2 <|
        (mtuFits_laidOver_iff (hvalid interfaces hdesired slot asked hasked) hdelete).2 ?_⟩
      intro hexchange
      cases hbefore : (current.getD .empty).get? slot with
      | none =>
        rw [hbefore] at hexchange
        cases hexchange.isSome
      | some before =>
        rw [hbefore] at hexchange
        exact hkeeps interfaces hdesired slot asked before hasked hbefore hexchange
    · cases List.mem_singleton.1 hremove

end NetworkInterface

/-! ## Updates -/

theorem Configuration.networks_of_validate {version : Version} {current desired : Configuration}
    (h : desired.validate version (some current) = .ok ()) :
    ∀ interfaces, desired.networks = some interfaces → ∀ slot interface,
      interfaces.get? slot = some interface →
        interface.validate slot ((current.networks.getD .empty).get? slot) = .ok () := by
  intro interfaces hinterfaces slot interface hget
  rw [SortedMap.get?_getD_empty]
  exact (validate_eq_ok_iff.1 h).networks interfaces hinterfaces slot interface hget

/-- **An update writes MTUs for VirtIO cards only exactly if it exchanges no card under an MTU.** -/
theorem planUpdate_mtuFits_iff {version : Version} {guest : GuestId}
    {current desired : Configuration} {change : Change}
    (hfits : ∀ slot interface, (current.networks.getD .empty).get? slot = some interface →
      interface.MtuFits)
    (hchange : (planUpdate version guest current desired).result = .ok change) :
    (∀ (slot : Slot .network) (key : String) (v : Value),
      Slot.ofKey? NetworkInterface.stem key = some slot → change.params.get? key = some v →
        NetworkInterface.WritesFitting v) ↔
      ∀ interfaces, desired.networks = some interfaces → ∀ slot asked before,
        interfaces.get? slot = some asked →
          (current.networks.getD .empty).get? slot = some before → ¬asked.ExchangesCard before := by
  obtain ⟨hvalid, -, rfl⟩ := planUpdate_eq_ok_iff.1 hchange
  rw [← NetworkInterface.mtuFits_plan_iff hfits (Configuration.networks_of_validate hvalid)]
  have hplan : Configuration.planOnly version (some guest) current desired .networks =
      NetworkInterface.placement.plan NetworkInterface.stem current.networks desired.networks :=
    Configuration.planOnly_eq ..
  have hnodup := Configuration.nodup_keys_plan version (some guest) current desired
  constructor
  · intro hwrites key v reboot hmem
    obtain ⟨slot, rfl⟩ := Placement.touchesOnly_plan NetworkInterface.isLocal_placement _ _ _ hmem
      key rfl
    have hmem := Configuration.mem_plan_iff.2 ⟨.networks, hplan ▸ hmem⟩
    exact hwrites slot _ v (Slot.ofKey?_key ..)
      ((Draft.get?_change_eq_some_iff hnodup).2 ⟨reboot, hmem⟩)
  · intro hwrites slot key v hkey hget
    obtain ⟨reboot, hmem⟩ := Draft.exists_set_of_get?_change hget
    have hmem := Configuration.mem_planOnly_of_owner? hmem rfl
      (Setting.owner?_of_ofKey? rfl rfl (by rw [hkey]; rfl))
    exact hwrites key v reboot (hplan ▸ hmem)

/-- A guest with an MTU on its VirtIO card. -/
def jumboGuest : Wire :=
  .ofList [("net1", .text "virtio=BC:24:11:AA:00:01,bridge=vmbr0,mtu=9000")]

/-- The interface of that guest. -/
def jumboInterface : NetworkInterface where
  bridge := some ⟨"vmbr0", by decide +kernel⟩
  mac := some ⟨"BC:24:11:AA:00:01", by decide +kernel⟩
  model := some .virtio
  mtu := some (.bytes 9000)

theorem eq_jumboInterface {networks : Option (SlotMap .network NetworkInterface)}
    (h : networks.map (·.toList) = some [(⟨1, by decide⟩, jumboInterface)]) {slot : Slot .network}
    {interface : NetworkInterface} (hget : (networks.getD .empty).get? slot = some interface) :
    slot = ⟨1, by decide⟩ ∧ interface = jumboInterface := by
  obtain ⟨devices, rfl, hlist⟩ := Option.map_eq_some_iff.1 h
  rw [Option.getD_some, ← SortedMap.mem_toList_iff, hlist] at hget
  exact Prod.mk.inj (List.mem_singleton.1 hget)

/-- What is asked for to move the interface to another bridge, and to add one with another card. -/
def rebridgedGuest : Configuration where
  networks := some (.ofList [
    (⟨1, by decide⟩, { bridge := some ⟨"vmbr1", by decide +kernel⟩ }),
    (⟨2, by decide⟩, { model := some .e1000, bridge := some ⟨"vmbr1", by decide +kernel⟩ })])

/-- The MTU is written again with its card, and the other card is written without one. -/
theorem planUpdate_mtuFits_iff_of_rebridged :
    ∃ (current : Configuration) (change : Change),
      Configuration.ofWire jumboGuest = .ok current ∧
      (planUpdate ⟨8, 1, 0⟩ ⟨100, by decide, by decide⟩ current rebridgedGuest).result =
        .ok change ∧
      change.params.keys = ["net1", "net2"] ∧
      ∀ (slot : Slot .network) (key : String) (v : Value),
        Slot.ofKey? NetworkInterface.stem key = some slot → change.params.get? key = some v →
          NetworkInterface.WritesFitting v := by
  have h : ((Configuration.ofWire jumboGuest).toOption.bind fun current ↦
      (planUpdate ⟨8, 1, 0⟩ ⟨100, by decide, by decide⟩ current
        rebridgedGuest).result.toOption.bind fun change ↦
          some (current.networks.map (·.toList), change.params.keys)) =
      some (some [(⟨1, by decide⟩, jumboInterface)], ["net1", "net2"]) := by
    decide +kernel
  have hasked : (rebridgedGuest.networks.getD .empty).get? ⟨1, by decide⟩ =
      some { bridge := some ⟨"vmbr1", by decide +kernel⟩ } := by decide +kernel
  obtain ⟨current, hcurrent, h⟩ := exists_of_toOption_bind h
  obtain ⟨change, hchange, h⟩ := exists_of_toOption_bind h
  obtain ⟨hnetworks, hkeys⟩ := Prod.mk.inj (Option.some.inj h)
  have hfits (slot : Slot .network) (interface : NetworkInterface)
      (hget : (current.networks.getD .empty).get? slot = some interface) : interface.MtuFits := by
    obtain ⟨-, rfl⟩ := eq_jumboInterface hnetworks hget
    decide
  refine ⟨current, change, hcurrent, hchange, hkeys, (planUpdate_mtuFits_iff hfits hchange).2
    fun interfaces hdesired slot asked before hget hbefore hexchange ↦ hexchange.card_ne ?_⟩
  obtain ⟨rfl, rfl⟩ := eq_jumboInterface hnetworks hbefore
  rw [hdesired, Option.getD_some, hget] at hasked
  rw [Option.some.inj hasked]
  decide

/-- What is asked for to exchange the card of an interface. -/
def otherCardGuest : Configuration where
  networks := some (.ofList [(⟨1, by decide⟩, { model := some .e1000 })])

/-- The MTU of the VirtIO card is written with the card that takes its place. -/
theorem planUpdate_exchanges_card :
    ∃ (current : Configuration) (change : Change) (v : Value),
      Configuration.ofWire jumboGuest = .ok current ∧
      (∀ slot interface, (current.networks.getD .empty).get? slot = some interface →
        interface.MtuFits) ∧
      (planUpdate ⟨8, 1, 0⟩ ⟨100, by decide, by decide⟩ current otherCardGuest).result =
        .ok change ∧
      change.params.get? "net1" = some v ∧
      Wire.readText v = .ok "e1000=BC:24:11:AA:00:01,bridge=vmbr0,mtu=9000" ∧
      ¬NetworkInterface.WritesFitting v := by
  have h : ((Configuration.ofWire jumboGuest).toOption.bind fun current ↦
      (planUpdate ⟨8, 1, 0⟩ ⟨100, by decide, by decide⟩ current
        otherCardGuest).result.toOption.bind fun change ↦
          (change.params.get? "net1").bind fun v ↦ (Wire.readText v).toOption.bind fun s ↦
            some (current.networks.map (·.toList), s)) =
      some (some [(⟨1, by decide⟩, jumboInterface)],
        "e1000=BC:24:11:AA:00:01,bridge=vmbr0,mtu=9000") := by
    decide +kernel
  have hdecode : NetworkInterface.decode "e1000=BC:24:11:AA:00:01,bridge=vmbr0,mtu=9000" =
      .ok { jumboInterface with model := some .e1000 } := by decide +kernel
  obtain ⟨current, hcurrent, h⟩ := exists_of_toOption_bind h
  obtain ⟨change, hchange, h⟩ := exists_of_toOption_bind h
  obtain ⟨v, hv, h⟩ := Option.bind_eq_some_iff.1 h
  obtain ⟨s, hs, h⟩ := exists_of_toOption_bind h
  obtain ⟨hnetworks, rfl⟩ := Prod.mk.inj (Option.some.inj h)
  refine ⟨current, change, v, hcurrent, fun slot interface hget ↦ ?_, hchange, hv, hs, ?_⟩
  · obtain ⟨-, rfl⟩ := eq_jumboInterface hnetworks hget
    decide
  · rintro ⟨s, interface, rfl, hinterface, hfits⟩
    obtain rfl := Except.ok.inj hs
    obtain rfl := Except.ok.inj (hdecode.symm.trans hinterface)
    exact absurd (hfits rfl) (by decide)

end GuestConfig
