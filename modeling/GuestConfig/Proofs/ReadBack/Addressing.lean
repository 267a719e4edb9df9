import GuestConfig.Proofs.Rules.Gateway

/-!
# Addressing reads back as what was asked for

An update of the addressing is read back as what was asked for in each slot, laid over what was
there.  An address and the words for the automatic ways share an option, so that addressing reads
back only if no address is one of these words and no two ways are asked for at once.  What was read
is of that kind, and so is what the rules let be asked for, and what results from the two.

Not every difference survives: an empty text is not written, and an option without a value is read
as an empty text.  Empty texts count as absent here, and addressing in which nothing is set counts
as none, since nothing is stored for it.

## What is here

* `Addressing.IsDistinct` — addressing that can be told from the words for ways.
* `Addressing.normal`, `Addressing.effective` — addressing without differences that make none.
* `Addressing.IsFaithful` and `Addressing.decode_text_eq_normal` — **addressing that was read or
  asked for reads back in its normal form.**
* `Addressing.mergesInto_place` — what is in a slot after something was asked for in it.
* `planUpdate_merges_addressing` — **the addressing of a guest after an update.**
-/

set_option autoImplicit false

namespace GuestConfig

namespace Addressing

/-! ## Addresses and words -/

/-- Whether a text is not the word for the automatic way of version 4. -/
def isOwn4 (cs : List Char) : Bool :=
  cs != "dhcp".toList

/-- Whether a text is none of the words for the automatic ways of version 6. -/
def isOwn6 (cs : List Char) : Bool :=
  cs != "dhcp".toList && cs != "auto".toList

/-- No address is the word for a way, none stands beside one, and no two ways stand together. -/
structure IsDistinct (a : Addressing) : Prop where
  way4 : a.way4.HasAddress isOwn4
  way6 : a.way6.HasAddress isOwn6
  slaac : a.ipv6Dhcp = true → a.ipv6Slaac = false

theorem isDistinct_empty : IsDistinct { } :=
  ⟨nofun, nofun, nofun⟩

/-- What the rules let be asked for is told from the words: none of them is an address. -/
theorem isDistinct_of_validate {a : Addressing} (h : a.validate = .ok ()) : a.IsDistinct := by
  obtain ⟨⟨h4, h6, hslaac⟩, -⟩ := validate_eq_ok_iff.1 h
  have hne {isAddress : List Char → Bool} {cs word : List Char} (hcs : isAddress cs = true)
      (hword : isAddress word = false) : (cs != word) = true := by
    refine bne_iff_ne.2 ?_
    rintro rfl
    exact Bool.false_ne_true (hword.symm.trans hcs)
  exact ⟨h4.mono fun cs hcs ↦ hne hcs (by decide),
    h6.mono fun cs hcs ↦ Bool.and_eq_true_iff.2 ⟨hne hcs (by decide), hne hcs (by decide)⟩, hslaac⟩

/-- What was read is told from the words: they were not read as addresses. -/
theorem isDistinct_of_decode {s : String} {a : Addressing} (h : decode s = .ok a) :
    a.IsDistinct := by
  obtain rfl := Except.ok.inj h
  have hne {s word : String} (h : s ≠ word) : (s.toList != word.toList) = true :=
    bne_iff_ne.2 fun heq ↦ h (String.toList_inj.1 heq)
  refine ⟨fun s hs ↦ ?_, fun s hs ↦ ?_, fun hdhcp ↦ ?_⟩
  · obtain ⟨hip, hdhcp⟩ := Option.filter_eq_some_iff.1 (Option.filter_eq_some_iff.1 hs).1
    have hdhcp : s ≠ "dhcp" := by simpa using hdhcp
    exact ⟨by simp [way4, ofOptions, hip, hdhcp], hne hdhcp⟩
  · obtain ⟨hip, hwords⟩ := Option.filter_eq_some_iff.1 (Option.filter_eq_some_iff.1 hs).1
    obtain ⟨hdhcp, hauto⟩ : s ≠ "dhcp" ∧ s ≠ "auto" := by simpa using hwords
    exact ⟨by simp [way6, ofOptions, hip, hdhcp, hauto],
      Bool.and_eq_true_iff.2 ⟨hne hdhcp, hne hauto⟩⟩
  · simp only [ofOptions, beq_iff_eq] at hdhcp ⊢
    rw [hdhcp]
    rfl

theorem IsDistinct.laidOver {desired current : Addressing} (hdesired : desired.IsDistinct)
    (hcurrent : current.IsDistinct) : (desired.laidOver current).IsDistinct where
  way4 := way4_laidOver desired current ▸ hdesired.way4.laidOver hcurrent.way4
  way6 := way6_laidOver desired current ▸ hdesired.way6.laidOver hcurrent.way6
  slaac := slaac_laidOver hdesired.slaac hcurrent.slaac

/-! ## Normal forms -/

/-- Addressing in the form in which empty texts are absent. -/
def normal (a : Addressing) : Addressing :=
  { a with
    ipv4Address := nonempty? a.ipv4Address
    ipv4Gateway := nonempty? a.ipv4Gateway
    ipv6Address := nonempty? a.ipv6Address
    ipv6Gateway := nonempty? a.ipv6Gateway }

@[simp] theorem normal_normal (a : Addressing) : a.normal.normal = a.normal := by
  simp [normal, nonempty?_nonempty?]

/-- What the addressing in a slot comes to: its normal form, or nothing if nothing is set in it. -/
def effective (found : Option Addressing) : Option Addressing :=
  (found.map normal).filter (· ≠ { })

/-- Addressing consists of the ways of both versions, of which the second may be two. -/
theorem eq_of_ways {a b : Addressing} (h4 : a.way4 = b.way4) (h6 : a.way6 = b.way6)
    (hdhcp : a.ipv6Dhcp = b.ipv6Dhcp) (hslaac : a.ipv6Slaac = b.ipv6Slaac) : a = b := by
  obtain ⟨h4Dhcp, h4Address, h4Gateway⟩ := Way.mk.inj h4
  obtain ⟨-, h6Address, h6Gateway⟩ := Way.mk.inj h6
  cases a
  cases b
  congr

theorem automatic6_stored {a : Addressing} (h : a.IsDistinct) :
    a.stored.ipv6Dhcp = a.ipv6Dhcp ∧ a.stored.ipv6Slaac = a.ipv6Slaac := by
  simp only [stored, ofOptions, get?_entries, ipv6Mode?]
  cases hdhcp : a.ipv6Dhcp with
  | true => simp [h.slaac hdhcp]
  | false =>
    cases hslaac : a.ipv6Slaac with
    | true => simp
    | false =>
      cases haddress : nonempty? a.ipv6Address with
      | none => simp
      | some s =>
        have hown := (h.way6 s haddress).2
        have hdhcp : s ≠ "dhcp" := ne_of_isAddress hown (by decide)
        have hauto : s ≠ "auto" := ne_of_isAddress hown (by decide)
        simp [hdhcp, hauto]

/-- What is left of addressing when it was written and read is its normal form. -/
theorem stored_eq_normal {a : Addressing} (h : a.IsDistinct) : a.stored = a.normal :=
  eq_of_ways (way4_stored (by decide) h.way4) (way6_stored (by decide) (by decide) h.way6)
    (automatic6_stored h).1 (automatic6_stored h).2

/-- Addressing that can be stored, and that can be told from the words for ways. -/
structure IsFaithful (a : Addressing) : Prop where
  storable : a.IsStorable
  distinct : a.IsDistinct

namespace IsFaithful

theorem empty : IsFaithful { } :=
  ⟨isStorable_empty, isDistinct_empty⟩

theorem of_validate {a : Addressing} (h : a.validate = .ok ()) : a.IsFaithful :=
  ⟨isStorable_of_validate h, isDistinct_of_validate h⟩

theorem of_decode {s : String} {a : Addressing} (h : decode s = .ok a) : a.IsFaithful :=
  ⟨isStorable_of_decode h, isDistinct_of_decode h⟩

theorem laidOver {desired current : Addressing} (hdesired : desired.IsFaithful)
    (hcurrent : current.IsFaithful) : (desired.laidOver current).IsFaithful :=
  ⟨hdesired.storable.laidOver hcurrent.storable, hdesired.distinct.laidOver hcurrent.distinct⟩

end IsFaithful

variable {a b : Addressing}

/-- **Addressing reads back in its normal form.** -/
theorem decode_text_eq_normal (h : a.IsFaithful) : decode a.text = .ok a.normal := by
  rw [decode_text h.storable.isClean_entries, stored_eq_normal h.distinct]

theorem normal_eq_of_text_eq (ha : a.IsFaithful) (hb : b.IsFaithful) (h : a.text = b.text) :
    a.normal = b.normal :=
  Except.ok.inj ((decode_text_eq_normal ha).symm.trans (h ▸ decode_text_eq_normal hb))

theorem effective_eq_none_of_text_eq (h : a.IsFaithful) (htext : a.text = "") :
    effective (some a) = none := by
  have hnormal : a.normal = { } := normal_eq_of_text_eq h .empty htext
  rw [effective, Option.map_some, hnormal]
  rfl

/-! ## One slot -/

/-- What is in a slot after something was asked for in it: that laid over what there was, as far as
anything is set in the two. -/
structure MergesInto (asked existing found : Option Addressing) : Prop where
  /-- What it comes to. -/
  effective_eq : effective found = effective (asked.map (·.laidOver (existing.getD { })))
  /-- There is no empty text in it, unless it is what there was. -/
  eq_or_normal (a : Addressing) : found = some a → existing = some a ∨ a.normal = a
  /-- Nothing at all is in a slot in which nothing was asked for. -/
  eq_none : asked = none → found = none

theorem mergesInto_none {asked existing : Option Addressing}
    (h : effective (asked.map (·.laidOver (existing.getD { }))) = none) :
    MergesInto asked existing none :=
  ⟨h.symm, nofun, fun _ ↦ rfl⟩

theorem mergesInto_kept {desired : Addressing} {existing : Option Addressing}
    (h : effective existing = effective (some (desired.laidOver (existing.getD { })))) :
    MergesInto (some desired) existing existing :=
  ⟨h, fun _ ↦ .inl, nofun⟩

theorem mergesInto_written (desired : Addressing) (existing : Option Addressing) :
    MergesInto (some desired) existing (some (desired.laidOver (existing.getD { })).normal) where
  effective_eq := by simp [effective]
  eq_or_normal a ha := .inr (by rw [← Option.some.inj ha, normal_normal])
  eq_none := nofun

/-- **What is in a slot after addressing was asked for in it**: nothing is written if the text stays
as it is, and nothing is kept of an empty text. -/
theorem mergesInto_place (key : String) {desired : Addressing} {existing : Option Addressing}
    (hdesired : desired.IsFaithful) (hexisting : ∀ current ∈ existing, current.IsFaithful) :
    ((CloudInit.addressingPlacement.place key existing desired).effect key).Settles decode existing
      (MergesInto (some desired) existing) := by
  have hcurrent : (existing.getD { }).IsFaithful := by
    cases existing with
    | none => exact .empty
    | some current => exact hexisting current rfl
  have hmerged := hdesired.laidOver hcurrent
  simp only [CloudInit.addressingPlacement]
  rw [Draft.effect_rendered]
  split
  · next hsame =>
    obtain ⟨current, rfl, htext⟩ := Option.map_eq_some_iff.1 (Option.filter_eq_some_iff.1 hsame).1
    refine mergesInto_kept ?_
    rw [effective, effective, Option.map_some, Option.map_some,
      normal_eq_of_text_eq (hexisting current rfl) hmerged htext]
  · split
    · exact ⟨_, _, rfl, decode_text_eq_normal hmerged, mergesInto_written desired existing⟩
    · next hnone =>
      have hnothing := effective_eq_none_of_text_eq hmerged (Decidable.not_not.1 hnone)
      split
      · exact mergesInto_none hnothing
      · next hkept =>
        -- what there was had no text either
        refine mergesInto_kept (hnothing.symm ▸ ?_)
        cases existing with
        | none => rfl
        | some current =>
          exact effective_eq_none_of_text_eq (hexisting current rfl)
            (by simpa [Option.filter_some] using hkept)

/-! ## All slots -/

/-- What is in the slots after addressing was asked for in some of them. -/
theorem mergesInto_of_effect {w w' : Wire} {current : Option (SlotMap .network Addressing)}
    {asked : SlotMap .network Addressing}
    (hplain : w.HasPlainKeys .network CloudInit.addressingStem)
    (h : w.slots .network CloudInit.addressingStem decode = .ok current)
    (hvalid : ∀ slot a, asked.get? slot = some a → a.validate = .ok ())
    (hafter : ∀ key, (Slot.ofKey? CloudInit.addressingStem key : Option (Slot .network)).isSome →
      w'.get? key = ((CloudInit.addressingPlacement.plan CloudInit.addressingStem current
        (some asked)).effect key).applyTo (w.get? key)) :
    ∃ after, w'.slots .network CloudInit.addressingStem decode = .ok after ∧
      ∀ slot, MergesInto (asked.get? slot) ((current.getD .empty).get? slot)
        ((after.getD .empty).get? slot) := by
  have hcurrent (slot : Slot .network) (a : Addressing)
      (ha : (current.getD .empty).get? slot = some a) : a.IsFaithful := by
    obtain ⟨s, hs⟩ := Wire.exists_decode_of_slots h ha
    exact .of_decode hs
  have hplain' := hplain.of_effect hafter
    (Placement.touchesOnly_plain CloudInit.isLocal_addressingPlacement _ _)
  refine Wire.exists_slots hplain hplain' h (fun slot ↦ hafter _ (by rw [Slot.ofKey?_key]; rfl))
    fun slot ↦ ?_
  rw [Placement.effect_plan CloudInit.isLocal_addressingPlacement]
  cases hasked : asked.get? slot with
  | some desired =>
    exact mergesInto_place _ (.of_validate (hvalid slot desired hasked)) (hcurrent slot)
  | none =>
    cases (current.getD .empty).get? slot with
    | none => exact mergesInto_none rfl
    | some found =>
      have hnothing : MergesInto none (some found) none := mergesInto_none rfl
      simpa [CloudInit.addressingPlacement, Step.effect, Effect.Settles] using hnothing

end Addressing

/-! ## Updates -/

/-- **After an update the addressing of a guest is what was asked for**, each laid over what was in
its slot as far as anything is set in the two, and there is nothing else. -/
theorem planUpdate_merges_addressing {version : Version} {guest : GuestId} {w : Wire}
    {current desired : Configuration} {change : Change} {asked : SlotMap .network Addressing}
    (hplain : w.HasPlainKeys .network CloudInit.addressingStem)
    (hcurrent : Configuration.ofWire w = .ok current)
    (hdesired : desired.addressing = some asked)
    (hchange : (planUpdate version guest current desired).result = .ok change) :
    ∃ after,
      (change.applyTo w).slots .network CloudInit.addressingStem Addressing.decode = .ok after ∧
        ∀ slot, Addressing.MergesInto (asked.get? slot)
          ((current.addressing.getD .empty).get? slot) ((after.getD .empty).get? slot) := by
  obtain ⟨hvalid, -, rfl⟩ := planUpdate_eq_ok_iff.1 hchange
  obtain ⟨settings, hsettings, haddressing⟩ := Option.bind_eq_some_iff.1 hdesired
  have hrules := CloudInit.addressing_of_validate
    ((Configuration.validate_eq_ok_iff.1 hvalid).cloudInit settings hsettings) asked haddressing
  refine Addressing.mergesInto_of_effect hplain
    (Configuration.ofWire_eq_ok_iff.1 hcurrent).slots_addressing hrules fun key hkey ↦ ?_
  rw [Draft.get?_applyTo_change _ w,
    Configuration.effect_plan_addressing version (some guest) current desired hkey, hdesired]

/-- A guest with four interfaces, one of which has addressing in which nothing is set. -/
def routedGuest : Wire :=
  .ofList [("ipconfig20", .text "ip=dhcp,gw6=fe80::1"),
    ("ipconfig21", .text "ip=10.0.0.2/24,gw=10.0.0.1"),
    ("ipconfig22", .text "ip=,ip6=auto"),
    ("ipconfig23", .text ""),
    ("net20", .text "virtio=BC:24:11:AA:00:00,bridge=vmbr0"),
    ("net21", .text "virtio=BC:24:11:AA:00:01,bridge=vmbr0"),
    ("net22", .text "virtio=BC:24:11:AA:00:02,bridge=vmbr0"),
    ("net23", .text "virtio=BC:24:11:AA:00:03,bridge=vmbr0")]

/-- What is asked for to replace DHCP by an address, to clear the second interface, and to keep the
third as it is. -/
def reroutedAddressing : SlotMap .network Addressing :=
  .ofList [
    (⟨20, by decide⟩, { ipv4Address := some "10.0.0.5/24" }),
    (⟨21, by decide⟩, { ipv4Address := some "", ipv4Gateway := some "" }),
    (⟨22, by decide⟩, { ipv6Slaac := true })]

/-- The addressing is asked for and nothing else. -/
def reroutedGuest : Configuration where
  cloudInit := some { addressing := some reroutedAddressing }

/-- What is cleared is deleted, and so is what is not asked for. -/
theorem planUpdate_merges_reroutedAddressing :
    ∃ (current : Configuration) (change : Change) (after : Option (SlotMap .network Addressing)),
      Configuration.ofWire routedGuest = .ok current ∧
      (planUpdate ⟨8, 1, 0⟩ ⟨100, by decide, by decide⟩ current reroutedGuest).result =
        .ok change ∧
      (change.params.keys, change.deleted) = (["ipconfig20"], ["ipconfig21", "ipconfig23"]) ∧
      (change.applyTo routedGuest).slots .network CloudInit.addressingStem Addressing.decode =
        .ok after ∧
      ∀ slot, Addressing.MergesInto (reroutedAddressing.get? slot)
        ((current.addressing.getD .empty).get? slot) ((after.getD .empty).get? slot) := by
  have h : ((Configuration.ofWire routedGuest).toOption.bind fun current ↦
      (planUpdate ⟨8, 1, 0⟩ ⟨100, by decide, by decide⟩ current
        reroutedGuest).result.toOption.bind
          fun change ↦ some (change.params.keys, change.deleted)) =
      some (["ipconfig20"], ["ipconfig21", "ipconfig23"]) := by decide +kernel
  obtain ⟨current, hcurrent, h⟩ := exists_of_toOption_bind h
  obtain ⟨change, hchange, hkeys⟩ := exists_of_toOption_bind h
  obtain ⟨after, hafter, hslots⟩ := planUpdate_merges_addressing (by decide +kernel) hcurrent rfl
    hchange
  exact ⟨current, change, after, hcurrent, hchange, Option.some.inj hkeys, hafter, hslots⟩

end GuestConfig
