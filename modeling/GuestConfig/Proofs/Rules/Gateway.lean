import GuestConfig.Proofs.Convergence
import GuestConfig.Proofs.Plan.Distinct

/-!
# Gateways and the ways of getting an address

DHCP hands out a gateway together with the address, and a guest that makes its own address of
version 6 finds its gateway by itself, so that no gateway may stand beside an automatic way.  The
rule looks at the settings that are asked for.  What is written is what is asked for laid over what
is in effect, though, and the two may come from different sides: a gateway that is asked for, with
nothing said about the address, joins whatever way is in effect.

Everything is the same for both versions of addresses, and is said once for both.

## What is here

* `Addressing.Way` — how an interface gets its address of one version, and
  `Addressing.Way.laidOver`, what results from a change.
* `Addressing.validate_eq_ok_iff` — the rules, version by version.
* `Addressing.JoinsGateway` — a gateway is asked for where an automatic way is in effect.
* `Addressing.validate_laidOver_iff` — what results from addressing that is in order, and
  `Addressing.validate_stored_iff`: it is in order as it was written if it is in order.
* `planUpdate_addressing_inOrder_iff` — **an update writes addressing that is in order exactly if it
  joins no gateway to an automatic way**, and `planUpdate_joins_gateway`, an update that does.
-/

set_option autoImplicit false

namespace GuestConfig

open Text (isIpv4 isIpv6 isNetwork)

namespace Addressing

/-! ## One version of addresses -/

/-- How an interface gets its address of one version. -/
structure Way where
  /-- Whether the address comes by itself. -/
  automatic : Bool
  /-- The address, with the size of its network. -/
  address : Option String
  /-- The gateway. -/
  gateway : Option String

/-- A setting that is well formed, and that is not there if the address comes by itself. -/
def IsManual (automatic : Bool) (isWellFormed : List Char → Bool) (setting : Option String) : Prop :=
  ∀ s, nonempty? setting = some s → automatic = false ∧ isWellFormed s.toList = true

theorem isManual_iff {automatic : Bool} {isWellFormed : List Char → Bool}
    {setting : Option String} :
    IsManual automatic isWellFormed setting ↔ (automatic && (nonempty? setting).isSome) = false ∧
      ∀ s, nonempty? setting = some s → isWellFormed s.toList = true := by
  rw [IsManual]
  cases nonempty? setting <;> simp

namespace Way

/-- The way that results when `desired` is asked for where `current` is in effect. -/
def laidOver (desired current : Way) : Way :=
  if desired.automatic then ⟨true, none, none⟩
  else ⟨current.automatic && desired.address.isNone, desired.address.or current.address,
    desired.gateway.or current.gateway⟩

/-- The address of a way is well formed, and there is none if it comes by itself. -/
def HasAddress (isAddress : List Char → Bool) (way : Way) : Prop :=
  IsManual way.automatic isAddress way.address

/-- The gateway of a way is well formed, and there is none if the address comes by itself. -/
def HasGateway (isGateway : List Char → Bool) (way : Way) : Prop :=
  IsManual way.automatic isGateway way.gateway

/-- A gateway is asked for where the address comes by itself, and no address is asked for that
would take the place of that. -/
structure JoinsGateway (desired current : Way) : Prop where
  /-- The address comes by itself. -/
  automatic : current.automatic = true
  /-- No address is asked for. -/
  address_eq : desired.address = none
  /-- A gateway is asked for. -/
  isSome_gateway : (nonempty? desired.gateway).isSome

variable {isAddress isGateway : List Char → Bool} {desired current : Way}

theorem HasAddress.mono {isAddress' : List Char → Bool} {way : Way} (h : way.HasAddress isAddress)
    (himp : ∀ cs, isAddress cs = true → isAddress' cs = true) : way.HasAddress isAddress' :=
  fun s hs ↦ ⟨(h s hs).1, himp _ (h s hs).2⟩

/-- **An address that results is in order** if the two that it results from are. -/
theorem HasAddress.laidOver (hdesired : desired.HasAddress isAddress)
    (hcurrent : current.HasAddress isAddress) :
    (desired.laidOver current).HasAddress isAddress := by
  unfold Way.laidOver
  split
  · exact nofun
  · intro s hs
    cases haddress : desired.address with
    | some address =>
      rw [haddress] at hs
      exact ⟨Bool.and_false _, (hdesired s (haddress ▸ hs)).2⟩
    | none =>
      rw [haddress] at hs
      obtain ⟨hmanual, hwellFormed⟩ := hcurrent s hs
      exact ⟨by rw [hmanual]; rfl, hwellFormed⟩

/-- A gateway that results is in order exactly if it does not join an automatic way, if the two
that it results from are in order. -/
theorem hasGateway_laidOver_iff (hdesired : desired.HasGateway isGateway)
    (hcurrent : current.HasGateway isGateway) :
    (desired.laidOver current).HasGateway isGateway ↔ ¬desired.JoinsGateway current := by
  constructor
  · intro hresult hjoins
    obtain ⟨s, hs⟩ := Option.isSome_iff_exists.1 hjoins.isSome_gateway
    obtain ⟨gateway, hgateway⟩ : ∃ gateway, desired.gateway = some gateway :=
      ⟨s, (Option.filter_eq_some_iff.1 hs).1⟩
    -- what is asked for is not automatic beside its gateway, so that the current way stays
    have hmanual := (hdesired s hs).1
    have hautomatic : (desired.laidOver current).automatic = true := by
      simp [Way.laidOver, hmanual, hjoins.automatic, hjoins.address_eq]
    have hkept : nonempty? (desired.laidOver current).gateway = some s := by
      rw [← hs, hgateway]
      simp [Way.laidOver, hmanual, hgateway]
    exact Bool.false_ne_true ((hresult s hkept).1.symm.trans hautomatic)
  · intro hjoins
    unfold Way.laidOver
    split
    · exact nofun
    · intro s hs
      cases hgateway : desired.gateway with
      | some gateway =>
        rw [hgateway] at hs
        have hasked : nonempty? desired.gateway = some s := hgateway ▸ hs
        refine ⟨?_, (hdesired s hasked).2⟩
        cases hautomatic : current.automatic with
        | false => rfl
        | true =>
          cases haddress : desired.address with
          | some address => rfl
          | none => exact absurd ⟨hautomatic, haddress, by rw [hasked]; rfl⟩ hjoins
      | none =>
        rw [hgateway] at hs
        obtain ⟨hmanual, hwellFormed⟩ := hcurrent s hs
        exact ⟨by rw [hmanual]; rfl, hwellFormed⟩

end Way

/-! ## Both versions -/

/-- The way of version 4. -/
def way4 (a : Addressing) : Way :=
  ⟨a.ipv4Dhcp, a.ipv4Address, a.ipv4Gateway⟩

/-- The way of version 6. -/
def way6 (a : Addressing) : Way :=
  ⟨a.ipv6Dhcp || a.ipv6Slaac, a.ipv6Address, a.ipv6Gateway⟩

/-- The addresses of both versions are in order, and there are not two automatic ways at once. -/
structure HasAddresses (a : Addressing) : Prop where
  way4 : a.way4.HasAddress (isNetwork isIpv4 32)
  way6 : a.way6.HasAddress (isNetwork isIpv6 128)
  slaac : a.ipv6Dhcp = true → a.ipv6Slaac = false

/-- The gateways of both versions are in order. -/
structure HasGateways (a : Addressing) : Prop where
  way4 : a.way4.HasGateway isIpv4
  way6 : a.way6.HasGateway isIpv6

/-- A gateway is asked for where the address of its version comes by itself, and no address is asked
for that would take the place of that. -/
def JoinsGateway (desired current : Addressing) : Prop :=
  desired.way4.JoinsGateway current.way4 ∨ desired.way6.JoinsGateway current.way6

/-- At most one way of getting an address of version 6 is asked for if there are not two automatic
ways, and no address beside one of them. -/
theorem ipv6Modes_le_one_iff (a : Addressing) :
    a.ipv6Modes ≤ 1 ↔
      ((a.ipv6Dhcp || a.ipv6Slaac) && (nonempty? a.ipv6Address).isSome) = false ∧
        (a.ipv6Dhcp = true → a.ipv6Slaac = false) := by
  rw [ipv6Modes]
  cases a.ipv6Dhcp <;> cases a.ipv6Slaac <;> cases (nonempty? a.ipv6Address).isSome <;> decide

/-- **The rules, version by version.** -/
theorem validate_eq_ok_iff {a : Addressing} :
    a.validate = .ok () ↔ a.HasAddresses ∧ a.HasGateways := by
  simp only [validate, bind_unit_eq_ok_iff, requireOf_eq_ok_iff, require_eq_ok_iff,
    Bool.not_eq_true', decide_eq_true_eq, ipv6Modes_le_one_iff]
  constructor
  · rintro ⟨haddress4, hgateway4, ⟨haddress6, hslaac⟩, hgateway6, hip4, hgw4, hip6, hgw6⟩
    exact ⟨⟨isManual_iff.2 ⟨haddress4, hip4⟩, isManual_iff.2 ⟨haddress6, hip6⟩, hslaac⟩,
      ⟨isManual_iff.2 ⟨hgateway4, hgw4⟩, isManual_iff.2 ⟨hgateway6, hgw6⟩⟩⟩
  · rintro ⟨⟨haddress4, haddress6, hslaac⟩, hgateway4, hgateway6⟩
    obtain ⟨haddress4, hip4⟩ := isManual_iff.1 haddress4
    obtain ⟨haddress6, hip6⟩ := isManual_iff.1 haddress6
    obtain ⟨hgateway4, hgw4⟩ := isManual_iff.1 hgateway4
    obtain ⟨hgateway6, hgw6⟩ := isManual_iff.1 hgateway6
    exact ⟨haddress4, hgateway4, ⟨haddress6, hslaac⟩, hgateway6, hip4, hgw4, hip6, hgw6⟩

/-! ## What results -/

theorem way4_laidOver (desired current : Addressing) :
    (desired.laidOver current).way4 = desired.way4.laidOver current.way4 := by
  have h6 (a b : Addressing) : (a.over6 b).way4 = b.way4 := by
    unfold over6
    split <;> rfl
  rw [laidOver, h6]
  unfold over4 Way.laidOver
  split <;> simp_all [way4]

theorem way6_laidOver (desired current : Addressing) :
    (desired.laidOver current).way6 = desired.way6.laidOver current.way6 := by
  have h4 (a b c : Addressing) : (a.over6 (b.over4 c)).way6 = (a.over6 c).way6 := by
    unfold over6 over4
    repeat' split
    all_goals rfl
  rw [laidOver, h4]
  unfold over6 Way.laidOver
  split <;> simp_all [way6, Bool.and_or_distrib_right]

/-- There are not two automatic ways that result if there are not two on either side. -/
theorem slaac_laidOver {desired current : Addressing}
    (hdesired : desired.ipv6Dhcp = true → desired.ipv6Slaac = false)
    (hcurrent : current.ipv6Dhcp = true → current.ipv6Slaac = false) :
    (desired.laidOver current).ipv6Dhcp = true → (desired.laidOver current).ipv6Slaac = false := by
  have h4 : (desired.over4 current).ipv6Dhcp = current.ipv6Dhcp ∧
      (desired.over4 current).ipv6Slaac = current.ipv6Slaac := by
    unfold over4
    split <;> exact ⟨rfl, rfl⟩
  unfold Addressing.laidOver over6
  split
  · exact hdesired
  · rw [h4.1, h4.2]
    intro hdhcp
    rw [hcurrent (Bool.and_eq_true_iff.1 hdhcp).1, Bool.false_and]

/-- **The addresses that result are in order** if those that they result from are. -/
theorem HasAddresses.laidOver {desired current : Addressing} (hdesired : desired.HasAddresses)
    (hcurrent : current.HasAddresses) : (desired.laidOver current).HasAddresses where
  way4 := way4_laidOver desired current ▸ hdesired.way4.laidOver hcurrent.way4
  way6 := way6_laidOver desired current ▸ hdesired.way6.laidOver hcurrent.way6
  slaac := slaac_laidOver hdesired.slaac hcurrent.slaac

/-- The gateways that result are in order exactly if none joins an automatic way, if those that
they result from are in order. -/
theorem hasGateways_laidOver_iff {desired current : Addressing} (hdesired : desired.HasGateways)
    (hcurrent : current.HasGateways) :
    (desired.laidOver current).HasGateways ↔ ¬desired.JoinsGateway current := by
  rw [JoinsGateway, not_or, ← Way.hasGateway_laidOver_iff hdesired.way4 hcurrent.way4,
    ← Way.hasGateway_laidOver_iff hdesired.way6 hcurrent.way6, ← way4_laidOver, ← way6_laidOver]
  exact ⟨fun h ↦ ⟨h.way4, h.way6⟩, fun h ↦ ⟨h.1, h.2⟩⟩

/-- **What results from addressing that is in order is in order exactly if it joins no gateway to an
automatic way.** -/
theorem validate_laidOver_iff {desired current : Addressing} (hdesired : desired.validate = .ok ())
    (hcurrent : current.validate = .ok ()) :
    (desired.laidOver current).validate = .ok () ↔ ¬desired.JoinsGateway current := by
  rw [validate_eq_ok_iff] at *
  rw [hasGateways_laidOver_iff hdesired.2 hcurrent.2]
  exact and_iff_right (hdesired.1.laidOver hcurrent.1)

/-! ## What is written -/

/-- A word that stands for a way is no address. -/
theorem ne_of_isAddress {isAddress : List Char → Bool} {s word : String}
    (h : isAddress s.toList = true) (hword : isAddress word.toList = false) : s ≠ word := by
  rintro rfl
  exact Bool.false_ne_true (hword.symm.trans h)

/-- The way of version 4 reads back if its address is not taken for a word. -/
theorem way4_stored {a : Addressing} {isAddress : List Char → Bool}
    (hdhcp : isAddress "dhcp".toList = false) (h : a.way4.HasAddress isAddress) :
    a.stored.way4 = ⟨a.ipv4Dhcp, nonempty? a.ipv4Address, nonempty? a.ipv4Gateway⟩ := by
  have hmanual (s : String) (hs : nonempty? a.ipv4Address = some s) :
      a.ipv4Dhcp = false ∧ s ≠ "dhcp" :=
    ⟨(h s hs).1, ne_of_isAddress (h s hs).2 hdhcp⟩
  simp only [way4, stored, ofOptions, get?_entries, ipv4Mode?]
  cases hdhcp : a.ipv4Dhcp with
  | true =>
    have hnone : nonempty? a.ipv4Address = none :=
      Option.eq_none_iff_forall_ne_some.2 fun s hs ↦ by
        cases hdhcp.symm.trans (hmanual s hs).1
    rw [hnone]
    rfl
  | false =>
    cases haddress : nonempty? a.ipv4Address with
    | none => rfl
    | some s => simp [Option.filter_some, (hmanual s haddress).2]

/-- The way of version 6 reads back if its address is not taken for a word. -/
theorem way6_stored {a : Addressing} {isAddress : List Char → Bool}
    (hdhcp : isAddress "dhcp".toList = false) (hauto : isAddress "auto".toList = false)
    (h : a.way6.HasAddress isAddress) :
    a.stored.way6 =
      ⟨a.ipv6Dhcp || a.ipv6Slaac, nonempty? a.ipv6Address, nonempty? a.ipv6Gateway⟩ := by
  have hmanual (s : String) (hs : nonempty? a.ipv6Address = some s) :
      (a.ipv6Dhcp || a.ipv6Slaac) = false ∧ s ≠ "dhcp" ∧ s ≠ "auto" :=
    ⟨(h s hs).1, ne_of_isAddress (h s hs).2 hdhcp, ne_of_isAddress (h s hs).2 hauto⟩
  simp only [way6, stored, ofOptions, get?_entries, ipv6Mode?]
  cases haddress : nonempty? a.ipv6Address with
  | none => cases a.ipv6Dhcp <;> cases a.ipv6Slaac <;> rfl
  | some s =>
    obtain ⟨hway, hdhcp, hauto⟩ := hmanual s haddress
    obtain ⟨hnotDhcp, hnotSlaac⟩ := Bool.or_eq_false_iff.1 hway
    simp [hnotDhcp, hnotSlaac, Option.filter_some, hdhcp, hauto]

theorem slaac_stored (a : Addressing) (h : a.stored.ipv6Dhcp = true) :
    a.stored.ipv6Slaac = false := by
  simp only [stored, ofOptions, beq_iff_eq] at h ⊢
  rw [h]
  rfl

/-- Whether a setting is in order does not depend on whether it is empty or absent. -/
theorem isManual_nonempty?_iff {automatic : Bool} {isWellFormed : List Char → Bool}
    {setting : Option String} :
    IsManual automatic isWellFormed (nonempty? setting) ↔
      IsManual automatic isWellFormed setting := by
  rw [IsManual, IsManual, nonempty?_nonempty?]

/-- **Addressing is in order as it was written exactly if it is in order**, unless its addresses are
not. -/
theorem validate_stored_iff {a : Addressing} (h : a.HasAddresses) :
    a.stored.validate = .ok () ↔ a.validate = .ok () := by
  rw [validate_eq_ok_iff, validate_eq_ok_iff]
  have h4 := way4_stored (by decide) h.way4
  have h6 := way6_stored (by decide) (by decide) h.way6
  constructor
  · rintro ⟨-, hgateway4, hgateway6⟩
    rw [h4] at hgateway4
    rw [h6] at hgateway6
    exact ⟨h, isManual_nonempty?_iff.1 hgateway4, isManual_nonempty?_iff.1 hgateway6⟩
  · rintro ⟨-, hgateway4, hgateway6⟩
    refine ⟨⟨?_, ?_, slaac_stored a⟩, ?_, ?_⟩
    · rw [h4]
      exact isManual_nonempty?_iff.2 h.way4
    · rw [h6]
      exact isManual_nonempty?_iff.2 h.way6
    · rw [h4]
      exact isManual_nonempty?_iff.2 hgateway4
    · rw [h6]
      exact isManual_nonempty?_iff.2 hgateway6

/-- A value that reads as addressing that is in order. -/
def WritesInOrder (v : Value) : Prop :=
  ∃ s a, v = .text s ∧ decode s = .ok a ∧ a.validate = .ok ()

section changed

variable {s : String} {before asked : Addressing} (hbefore : decode s = .ok before)
  (hvalid : before.validate = .ok ()) (hasked : asked.validate = .ok ())
include hbefore hvalid hasked

theorem writesInOrder_text_iff :
    WritesInOrder (.text (asked.laidOver before).text) ↔ ¬asked.JoinsGateway before := by
  have hclean := ((isStorable_of_validate hasked).laidOver
    (isStorable_of_decode hbefore)).isClean_entries
  have hstored := validate_stored_iff <|
    (validate_eq_ok_iff.1 hasked).1.laidOver (validate_eq_ok_iff.1 hvalid).1
  rw [← validate_laidOver_iff hasked hvalid, ← hstored]
  constructor
  · rintro ⟨s', a, hs, hdecode, ha⟩
    obtain rfl := Value.text.inj hs
    obtain rfl := Except.ok.inj ((decode_text hclean).symm.trans hdecode)
    exact ha
  · exact fun ha ↦ ⟨_, _, rfl, decode_text hclean, ha⟩

theorem effect_rendered_of_joinsGateway (key : String) (h : asked.JoinsGateway before) :
    Draft.effect key (.rendered key (some before.text) (asked.laidOver before).text) =
      .set (.text (asked.laidOver before).text) := by
  have hwrites := mt (writesInOrder_text_iff hbefore hvalid hasked).1 (not_not_intro h)
  -- neither what is in effect nor nothing at all is out of order
  have hnonempty : (asked.laidOver before).text ≠ "" := fun heq ↦
    hwrites ⟨"", { }, congrArg _ heq, by decide, by decide⟩
  have hchanged : before.text ≠ (asked.laidOver before).text := fun heq ↦
    hwrites ⟨_, _, congrArg _ heq.symm, decode_text (isStorable_of_decode hbefore).isClean_entries,
      (validate_stored_iff (validate_eq_ok_iff.1 hvalid).1).2 hvalid⟩
  rw [Draft.effect_rendered, if_neg, if_pos hnonempty]
  exact fun heq ↦ hchanged (Option.some.inj (Option.filter_eq_some_iff.1 heq).1)

/-- What is written for an interface is in order exactly if it joins no gateway to an automatic
way. -/
theorem writesInOrder_rendered_iff (key : String) :
    (∀ v, Draft.effect key (.rendered key (some before.text) (asked.laidOver before).text) =
      .set v → WritesInOrder v) ↔ ¬asked.JoinsGateway before := by
  have hiff := writesInOrder_text_iff hbefore hvalid hasked
  constructor
  · intro hwrites hjoins
    have hset := effect_rendered_of_joinsGateway hbefore hvalid hasked key hjoins
    exact hiff.1 (hwrites _ hset) hjoins
  · intro hjoins v hv
    rw [Draft.eq_of_effect_rendered hv]
    exact hiff.2 hjoins

end changed

end Addressing

/-! ## Updates -/

/-- **An update writes addressing that is in order exactly if it joins no gateway to an automatic
way.**  What results from addressing that is in order, on either side, is in order under that
condition, and it is what an update that asks for it in a slot writes there, if it writes at all. -/
theorem planUpdate_addressing_inOrder_iff {s : String} {before asked : Addressing}
    (hbefore : Addressing.decode s = .ok before) (hvalid : before.validate = .ok ())
    (hasked : asked.validate = .ok ()) :
    ((asked.laidOver before).validate = .ok () ↔ ¬asked.JoinsGateway before) ∧
    ∀ (version : Version) (guest : GuestId) (current desired : Configuration) (change : Change)
      (slot : Slot .network),
      (planUpdate version guest current desired).result = .ok change →
      current.addressing.bind (·.get? slot) = some before →
      desired.addressing.bind (·.get? slot) = some asked →
        (∀ v, change.params.get? (slot.key CloudInit.addressingStem) = some v →
          v = .text (asked.laidOver before).text) ∧
        ((∀ v, change.params.get? (slot.key CloudInit.addressingStem) = some v →
          Addressing.WritesInOrder v) ↔ ¬asked.JoinsGateway before) := by
  refine ⟨Addressing.validate_laidOver_iff hasked hvalid, ?_⟩
  intro version guest current desired change slot hchange hcurrent hdesired
  obtain ⟨-, -, rfl⟩ := planUpdate_eq_ok_iff.1 hchange
  have heffect : (desired.plan version (some guest) (some current)).effect
      (slot.key CloudInit.addressingStem) =
        Draft.effect (slot.key CloudInit.addressingStem)
          (.rendered (slot.key CloudInit.addressingStem) (some before.text)
            (asked.laidOver before).text) := by
    obtain ⟨interfaces, hinterfaces, hget⟩ := Option.bind_eq_some_iff.1 hdesired
    rw [Configuration.effect_plan_addressing version (some guest) current desired
      (by rw [Slot.ofKey?_key]; rfl), hinterfaces,
      Placement.effect_plan CloudInit.isLocal_addressingPlacement, hget,
      SortedMap.get?_getD_empty, hcurrent]
    rfl
  simp only [Draft.get?_change_eq_some_iff_effect
    (Configuration.nodup_keys_plan version (some guest) current desired), heffect]
  exact ⟨fun v ↦ Draft.eq_of_effect_rendered,
    Addressing.writesInOrder_rendered_iff hbefore hvalid hasked _⟩

/-- A guest that gets its address by DHCP. -/
def dhcpGuest : Wire :=
  .ofList [("ipconfig0", .text "ip=dhcp"),
    ("net0", .text "virtio=BC:24:11:AA:00:00,bridge=vmbr0")]

/-- The addressing of that guest. -/
def dhcpAddressing : Addressing where
  ipv4Dhcp := true

/-- An address of its own for the interface, and the gateway in its network. -/
def ownAddressing : Addressing where
  ipv4Address := some "10.0.0.2/24"
  ipv4Gateway := some "10.0.0.1"

/-- What is asked for to give the interface that address. -/
def readdressedGuest : Configuration where
  cloudInit := some { addressing := some (.ofList [(.first .network, ownAddressing)]) }

/-- An address takes the place of DHCP, and its gateway is written beside it. -/
theorem planUpdate_addressing_inOrder_iff_of_address :
    ∃ (current : Configuration) (change : Change) (v : Value),
      Configuration.ofWire dhcpGuest = .ok current ∧
      (planUpdate ⟨8, 1, 0⟩ ⟨100, by decide, by decide⟩ current readdressedGuest).result =
        .ok change ∧
      change.params.get? "ipconfig0" = some v ∧
      Wire.readText v = .ok "ip=10.0.0.2/24,gw=10.0.0.1" ∧
      (ownAddressing.laidOver dhcpAddressing).validate = .ok () ∧
      Addressing.WritesInOrder v := by
  have h : ((Configuration.ofWire dhcpGuest).toOption.bind fun current ↦
      (planUpdate ⟨8, 1, 0⟩ ⟨100, by decide, by decide⟩ current
        readdressedGuest).result.toOption.bind fun change ↦
          (change.params.get? "ipconfig0").bind fun v ↦ (Wire.readText v).toOption.bind fun s ↦
            some (current.addressing.bind (·.get? (.first .network)), s)) =
      some (some dhcpAddressing, "ip=10.0.0.2/24,gw=10.0.0.1") := by
    decide +kernel
  have hdesired : readdressedGuest.addressing.bind (·.get? (.first .network)) =
      some ownAddressing := by decide +kernel
  have hkeeps : ¬ownAddressing.JoinsGateway dhcpAddressing := by
    rintro (hjoins | hjoins)
    · cases hjoins.address_eq
    · cases hjoins.isSome_gateway
  obtain ⟨current, hcurrent, h⟩ := exists_of_toOption_bind h
  obtain ⟨change, hchange, h⟩ := exists_of_toOption_bind h
  obtain ⟨v, hv, h⟩ := Option.bind_eq_some_iff.1 h
  obtain ⟨s, hs, h⟩ := exists_of_toOption_bind h
  obtain ⟨haddressing, rfl⟩ := Prod.mk.inj (Option.some.inj h)
  have hdecode : Addressing.decode "ip=dhcp" = .ok dhcpAddressing := by decide +kernel
  have hvalid : dhcpAddressing.validate = .ok () := by decide +kernel
  have hasked : ownAddressing.validate = .ok () := by decide +kernel
  obtain ⟨hmerged, hwritten⟩ := planUpdate_addressing_inOrder_iff hdecode hvalid hasked
  obtain ⟨-, hwrites⟩ := hwritten _ _ _ _ _ _ hchange haddressing hdesired
  exact ⟨current, change, v, hcurrent, hchange, hv, hs, hmerged.2 hkeeps, hwrites.2 hkeeps v hv⟩

/-- A gateway alone. -/
def gatewayOnly : Addressing where
  ipv4Gateway := some "10.0.0.1"

/-- What is asked for to give the interface a gateway. -/
def gatewayGuest : Configuration where
  cloudInit := some { addressing := some (.ofList [(.first .network, gatewayOnly)]) }

/-- A gateway that is asked for alone is written beside DHCP. -/
theorem planUpdate_joins_gateway :
    ∃ (current : Configuration) (change : Change) (v : Value),
      Configuration.ofWire dhcpGuest = .ok current ∧
      Addressing.decode "ip=dhcp" = .ok dhcpAddressing ∧
      dhcpAddressing.validate = .ok () ∧ gatewayOnly.validate = .ok () ∧
      current.addressing.bind (·.get? (.first .network)) = some dhcpAddressing ∧
      (planUpdate ⟨8, 1, 0⟩ ⟨100, by decide, by decide⟩ current gatewayGuest).result =
        .ok change ∧
      change.params.get? "ipconfig0" = some v ∧
      Wire.readText v = .ok "ip=dhcp,gw=10.0.0.1" ∧
      (gatewayOnly.laidOver dhcpAddressing).validate = .error .ipv4DhcpAndGateway ∧
      ¬Addressing.WritesInOrder v := by
  have h : ((Configuration.ofWire dhcpGuest).toOption.bind fun current ↦
      (planUpdate ⟨8, 1, 0⟩ ⟨100, by decide, by decide⟩ current
        gatewayGuest).result.toOption.bind fun change ↦
          (change.params.get? "ipconfig0").bind fun v ↦ (Wire.readText v).toOption.bind fun s ↦
            some (current.addressing.bind (·.get? (.first .network)), s)) =
      some (some dhcpAddressing, "ip=dhcp,gw=10.0.0.1") := by
    decide +kernel
  have hdecode : Addressing.decode "ip=dhcp,gw=10.0.0.1" =
      .ok { dhcpAddressing with ipv4Gateway := some "10.0.0.1" } := by decide +kernel
  obtain ⟨current, hcurrent, h⟩ := exists_of_toOption_bind h
  obtain ⟨change, hchange, h⟩ := exists_of_toOption_bind h
  obtain ⟨v, hv, h⟩ := Option.bind_eq_some_iff.1 h
  obtain ⟨s, hs, h⟩ := exists_of_toOption_bind h
  obtain ⟨haddressing, rfl⟩ := Prod.mk.inj (Option.some.inj h)
  refine ⟨current, change, v, hcurrent, by decide +kernel, by decide +kernel, by decide +kernel,
    haddressing, hchange, hv, hs, by decide +kernel, ?_⟩
  rintro ⟨s, a, rfl, ha, hvalid⟩
  obtain rfl := Except.ok.inj hs
  obtain rfl := Except.ok.inj (hdecode.symm.trans ha)
  revert hvalid
  decide +kernel

end GuestConfig
