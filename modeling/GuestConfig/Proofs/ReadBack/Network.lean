import GuestConfig.Proofs.Rules.Mtu
import GuestConfig.Proofs.Unchanged

/-!
# Network interfaces read back as what was asked for

An update of the interfaces is read back as the interfaces that were asked for, each laid over the
one that was in its slot.  Not every difference survives: a link that is up, a firewall that is off,
a zero and an empty set are not written, and neither are they told from what is absent when the
texts are compared.  Up to this normal form nothing is lost and nothing is added, also where the
texts are equal and nothing is written at all.

An MTU of one byte would be the exception, since the number one stands for the MTU of the bridge.
The rules do not let it be asked for, and it is never read.

## What is here

* `NetworkInterface.normal` — an interface without differences that make none.
* `NetworkInterface.Merges` — what an interface has to be, setting by setting, after another one
  was asked for in its place.
* `NetworkInterface.merges_place` — **what is in a slot after an interface was placed in it.**
* `planUpdate_merges_networks` — **the interfaces of a guest after an update.**
-/

set_option autoImplicit false

namespace GuestConfig

namespace NetworkInterface

/-! ## Normal forms -/

/-- An interface in the form in which settings that make no difference are absent. -/
def normal (interface : NetworkInterface) : NetworkInterface :=
  { interface with
    connected := interface.connected.filter (!·)
    firewall := interface.firewall.filter fun on ↦ on
    model := some interface.card
    queues := interface.queues.filter (· ≠ 0)
    rateLimit := interface.rateLimit.filter (· ≠ 0)
    nativeVlan := interface.nativeVlan.filter (· ≠ 0)
    taggedVlans := interface.taggedVlans.filter (!·.isEmpty) }

@[simp] theorem normal_normal (interface : NetworkInterface) :
    interface.normal.normal = interface.normal := by
  simp [normal, card]

/-- What is left of an interface when it was written and read is its normal form. -/
theorem stored_eq_normal {interface : NetworkInterface} (hdelete : interface.delete = false)
    (hmtu : interface.mtu ≠ some (.bytes 1)) : interface.stored = interface.normal := by
  have hconnected (connected : Option Bool) :
      (OptionList.whenSet (connected == some false)).map not = connected.filter (!·) := by
    rcases connected with _ | _ | _ <;> rfl
  have hfirewall (firewall : Option Bool) :
      OptionList.whenSet (firewall == some true) = firewall.filter fun on ↦ on := by
    rcases firewall with _ | _ | _ <;> rfl
  have hcode : (interface.mtu.map fun mtu ↦ Mtu.ofCode mtu.code) = interface.mtu := by
    cases h : interface.mtu with
    | none => rfl
    | some mtu =>
      rw [Option.map_some, Mtu.ofCode_code fun heq ↦ hmtu (h.trans (congrArg some heq))]
  rw [stored, normal, hconnected, hfirewall, hcode, hdelete]

/-! ## MTUs of one byte -/

theorem mtu_ne_of_decode {s : String} {interface : NetworkInterface}
    (h : decode s = .ok interface) : interface.mtu ≠ some (.bytes 1) := by
  simp only [decode, ofOptions, bind_eq_ok_iff, pure_eq_ok_iff] at h
  obtain ⟨card, -, vlans, -, rate, -, bridge, -, link, -, firewall, -, mtu, -, queues, -, vlan, -,
    rfl⟩ := h
  intro heq
  obtain ⟨n, -, hn⟩ := Option.map_eq_some_iff.1 heq
  unfold Mtu.ofCode at hn
  split at hn
  · cases hn
  · next hne => exact hne (Mtu.bytes.inj hn)

theorem mtu_ne_of_validate {slot : Slot .network} {existing : Option NetworkInterface}
    {desired : NetworkInterface} (h : desired.validate slot existing = .ok ())
    (hdelete : desired.delete = false) : desired.mtu ≠ some (.bytes 1) := by
  simp only [validate, hdelete, Bool.false_eq_true, if_false, bind_unit_eq_ok_iff,
    requireOf_eq_ok_iff] at h
  intro heq
  have hrange := require_eq_ok_iff.1 (bind_unit_eq_ok_iff.1 (h.1 _ heq)).1
  exact absurd hrange (by decide)

/-! ## Merging -/

/-- What an interface has to be after `desired` was asked for where `current` was: every setting is
the one that was asked for, and where none was, the one that there was. -/
structure Merges (desired current merged : NetworkInterface) : Prop where
  /-- It stays. -/
  delete : merged.delete = false
  /-- The bridge. -/
  bridge : merged.bridge = desired.bridge.or current.bridge
  /-- The link; one that is up is like one of which nothing is said. -/
  connected : merged.connected.filter (!·) = (desired.connected.or current.connected).filter (!·)
  /-- The firewall; one that is off is like one of which nothing is said. -/
  firewall : (merged.firewall.filter fun on ↦ on) =
    (desired.firewall.or current.firewall).filter fun on ↦ on
  /-- The address; one with the same octets keeps its spelling. -/
  mac : merged.mac =
    match desired.mac, current.mac with
    | some a, some b => if a.sameAs b then some b else some a
    | some a, none => some a
    | none, kept => kept
  /-- The card; a VirtIO card is like one of which nothing is said. -/
  model : merged.model.getD .virtio = (desired.model.or current.model).getD .virtio
  /-- The MTU. -/
  mtu : merged.mtu = desired.mtu.or current.mtu
  /-- The queues; zero is like none. -/
  queues : merged.queues.filter (· ≠ 0) = (desired.queues.or current.queues).filter (· ≠ 0)
  /-- The rate; zero is like none. -/
  rateLimit :
    merged.rateLimit.filter (· ≠ 0) = (desired.rateLimit.or current.rateLimit).filter (· ≠ 0)
  /-- The VLAN of untagged frames; zero is like none. -/
  nativeVlan :
    merged.nativeVlan.filter (· ≠ 0) = (desired.nativeVlan.or current.nativeVlan).filter (· ≠ 0)
  /-- The VLANs with tags; none of them is like nothing said. -/
  taggedVlans : merged.taggedVlans.filter (!·.isEmpty) =
    (desired.taggedVlans.or current.taggedVlans).filter (!·.isEmpty)

/-- An interface that has the normal form of what was laid over merges the two. -/
theorem merges_of_normal {desired current merged : NetworkInterface}
    (h : merged.normal = (desired.laidOver current).normal) : desired.Merges current merged where
  delete := congrArg NetworkInterface.delete h
  bridge := congrArg NetworkInterface.bridge h
  connected := congrArg NetworkInterface.connected h
  firewall := congrArg NetworkInterface.firewall h
  mac := by
    have hmac : merged.mac = MacAddress.laidOver desired.mac current.mac :=
      congrArg NetworkInterface.mac h
    rw [hmac]
    cases desired.mac <;> cases current.mac <;> rfl
  model := Option.some.inj (congrArg NetworkInterface.model h)
  mtu := congrArg NetworkInterface.mtu h
  queues := congrArg NetworkInterface.queues h
  rateLimit := congrArg NetworkInterface.rateLimit h
  nativeVlan := congrArg NetworkInterface.nativeVlan h
  taggedVlans := congrArg NetworkInterface.taggedVlans h

/-! ## One slot -/

/-- What is in a slot after something was asked for in it: an interface exactly if one was asked for
that stays, and then the two merged. -/
structure MergesInto (asked existing found : Option NetworkInterface) : Prop where
  /-- Whether there is an interface. -/
  isSome : found.isSome = asked.any (!·.delete)
  /-- What it is. -/
  merges (desired merged : NetworkInterface) :
    asked = some desired → found = some merged → desired.Merges (existing.getD { }) merged

theorem mergesInto_none {asked existing : Option NetworkInterface}
    (h : asked.any (!·.delete) = false) : MergesInto asked existing none :=
  ⟨h.symm, fun _ _ _ hfound ↦ (Option.some_ne_none _ hfound.symm).elim⟩

/-- What was written for an interface that was laid over another one, or was there before in the
same words, merges the two. -/
theorem mergesInto_some {desired merged : NetworkInterface} {existing : Option NetworkInterface}
    (hdelete : desired.delete = false)
    (h : merged.normal = (desired.laidOver (existing.getD { })).normal) :
    MergesInto (some desired) existing (some merged) where
  isSome := by simp [hdelete]
  merges _ _ hdesired hmerged := by
    rw [← Option.some.inj hdesired, ← Option.some.inj hmerged]
    exact merges_of_normal h

/-- An MTU of one byte comes neither from what is asked for nor from what was read. -/
theorem mtu_laidOver_ne {desired : NetworkInterface} {existing : Option NetworkInterface}
    (hdesired : desired.mtu ≠ some (.bytes 1))
    (hexisting : ∀ current, existing = some current → ∃ s, decode s = .ok current) :
    (desired.laidOver (existing.getD { })).mtu ≠ some (.bytes 1) := by
  cases hasked : desired.mtu with
  | some mtu => simpa [laidOver, hasked] using hdesired
  | none =>
    cases hexists : existing with
    | none => simp [laidOver, hasked]
    | some current =>
      obtain ⟨s, hs⟩ := hexisting current hexists
      simpa [laidOver, hasked] using mtu_ne_of_decode hs

/-- **What is in a slot after an interface was placed in it.** -/
theorem merges_place (slot : Slot .network) (key : String) {existing : Option NetworkInterface}
    (hexisting : ∀ current, existing = some current → ∃ s, decode s = .ok current)
    {desired : NetworkInterface} (hvalid : desired.validate slot existing = .ok ()) :
    ((placement.place key existing desired).effect key).Settles decode existing
      (MergesInto (some desired) existing) := by
  simp only [placement]
  cases hdelete : desired.delete with
  | true =>
    cases existing with
    | none => simp [place, hdelete, Effect.Settles, mergesInto_none]
    | some current => simp [place, hdelete, Effect.Settles, Step.effect, mergesInto_none]
  | false =>
    have hstored := stored_eq_normal rfl
      (mtu_laidOver_ne (mtu_ne_of_validate hvalid hdelete) hexisting)
    have hwritten : MergesInto (some desired) existing
        (some (desired.laidOver (existing.getD { })).stored) :=
      mergesInto_some hdelete (by rw [hstored, normal_normal])
    cases existing with
    | none =>
      have heffect : (place key none desired).effect key = .set (.text desired.text) := by
        simp [place, hdelete, Step.effect]
      rw [Option.getD_none, stored_laidOver_empty] at hwritten
      rw [heffect]
      exact ⟨_, _, rfl, decode_text desired, hwritten⟩
    | some current =>
      by_cases hsame : (desired.laidOver current).text = current.text
      · obtain ⟨s, hs⟩ := hexisting current rfl
        -- one text reads as one interface
        have hread : (desired.laidOver current).stored = current.stored :=
          Except.ok.inj ((decode_text _).symm.trans (hsame ▸ decode_text current))
        have hcurrent := stored_eq_normal (delete_of_decode hs) (mtu_ne_of_decode hs)
        have hkept : MergesInto (some desired) (some current) (some current) :=
          mergesInto_some hdelete (hcurrent.symm.trans (hread.symm.trans hstored))
        simpa [place, hdelete, hsame, Effect.Settles] using hkept
      · have heffect : (place key (some current) desired).effect key =
            .set (.text (desired.laidOver current).text) := by
          simp [place, hdelete, hsame, Step.effect]
        rw [heffect]
        exact ⟨_, _, rfl, decode_text _, hwritten⟩

/-! ## All slots -/

/-- What is in the slots after interfaces were placed in them, and the others were removed. -/
theorem mergesInto_of_follows {w w' : Wire} {current : Option (SlotMap .network NetworkInterface)}
    {interfaces : SlotMap .network NetworkInterface} (hplain : w.HasPlainKeys .network stem)
    (h : ofWire w = .ok current)
    (hvalid : ∀ slot interface, interfaces.get? slot = some interface →
      interface.validate slot ((current.getD .empty).get? slot) = .ok ())
    (hafter : w'.Follows .networks (placement.plan stem current (some interfaces)) w) :
    ∃ after, ofWire w' = .ok after ∧ ∀ slot, MergesInto (interfaces.get? slot)
      ((current.getD .empty).get? slot) ((after.getD .empty).get? slot) := by
  have hfamily (key : String) (hkey : (Slot.ofKey? stem key : Option (Slot .network)).isSome) :
      w'.get? key =
        ((placement.plan stem current (some interfaces)).effect key).applyTo (w.get? key) :=
    hafter key (Setting.owner?_of_ofKey? rfl rfl hkey)
  have hdecoded (slot : Slot .network) (found : NetworkInterface)
      (hfound : (current.getD .empty).get? slot = some found) : ∃ s, decode s = .ok found :=
    Wire.exists_decode_of_slots h hfound
  refine Wire.exists_slots hplain
    (hplain.of_effect hfamily (Placement.touchesOnly_plain isLocal_placement _ _)) h
    (fun slot ↦ hfamily _ (by rw [Slot.ofKey?_key]; rfl)) fun slot ↦ ?_
  rw [Placement.effect_plan isLocal_placement]
  cases hasked : interfaces.get? slot with
  | some desired => exact merges_place slot _ (hdecoded slot) (hvalid slot desired hasked)
  | none =>
    cases (current.getD .empty).get? slot with
    | none => exact mergesInto_none rfl
    | some found => simp [placement, Step.effect, Effect.Settles, mergesInto_none]

end NetworkInterface

/-! ## Updates -/

/-- **After an update the interfaces of a guest are those that were asked for**, each merged with
the one that was in its slot, and there are no others. -/
theorem planUpdate_merges_networks {version : Version} {guest : GuestId} {w : Wire}
    {current desired : Configuration} {change : Change}
    {interfaces : SlotMap .network NetworkInterface}
    (hplain : w.HasPlainKeys .network NetworkInterface.stem)
    (hcurrent : Configuration.ofWire w = .ok current)
    (hdesired : desired.networks = some interfaces)
    (hchange : (planUpdate version guest current desired).result = .ok change) :
    ∃ after, NetworkInterface.ofWire (change.applyTo w) = .ok after ∧
      ∀ slot, NetworkInterface.MergesInto (interfaces.get? slot)
        ((current.networks.getD .empty).get? slot) ((after.getD .empty).get? slot) := by
  have hfollows := Configuration.follows_applyTo hchange w .networks
  rw [Configuration.planOnly_eq] at hfollows
  dsimp only at hfollows
  rw [hdesired] at hfollows
  exact NetworkInterface.mergesInto_of_follows hplain
    (Configuration.ofWire_eq_ok_iff.1 hcurrent).networks
    (Configuration.networks_of_validate (planUpdate_eq_ok_iff.1 hchange).1 interfaces hdesired)
    hfollows

/-- A guest with three interfaces, one of them with a rate of zero. -/
def cabledGuest : Wire :=
  .ofList [("net3", .text "virtio=BC:24:11:AA:00:01,bridge=vmbr0,firewall=0,rate=0"),
    ("net4", .text "e1000=BC:24:11:AA:00:02,bridge=vmbr0,mtu=1400"),
    ("net5", .text "virtio=BC:24:11:AA:00:03,bridge=vmbr1")]

/-- What is asked for to keep the first interface, to remove the others, and to add one. -/
def recabledGuest : Configuration where
  networks := some (.ofList [
    (⟨3, by decide⟩, {
      connected := some true
      mac := some ⟨"bc:24:11:aa:00:01", by decide +kernel⟩
      queues := some 0 }),
    (⟨4, by decide⟩, { delete := true }),
    (⟨7, by decide⟩, { bridge := some ⟨"vmbr7", by decide +kernel⟩, mtu := some .inherit })])

/-- Nothing is written for an interface that is asked for in other words. -/
theorem planUpdate_merges_recabledGuest :
    ∃ (current : Configuration) (change : Change)
        (after : Option (SlotMap .network NetworkInterface)),
      Configuration.ofWire cabledGuest = .ok current ∧
      (planUpdate ⟨8, 1, 0⟩ ⟨100, by decide, by decide⟩ current recabledGuest).result =
        .ok change ∧
      (change.params.keys, change.deleted) = (["net7"], ["net4", "net5"]) ∧
      NetworkInterface.ofWire (change.applyTo cabledGuest) = .ok after ∧
      ∀ slot, NetworkInterface.MergesInto
        ((recabledGuest.networks.getD .empty).get? slot)
        ((current.networks.getD .empty).get? slot) ((after.getD .empty).get? slot) := by
  have h : ((Configuration.ofWire cabledGuest).toOption.bind fun current ↦
      (planUpdate ⟨8, 1, 0⟩ ⟨100, by decide, by decide⟩ current
        recabledGuest).result.toOption.bind
          fun change ↦ some (change.params.keys, change.deleted)) =
      some (["net7"], ["net4", "net5"]) := by decide +kernel
  obtain ⟨current, hcurrent, h⟩ := exists_of_toOption_bind h
  obtain ⟨change, hchange, hkeys⟩ := exists_of_toOption_bind h
  obtain ⟨after, hafter, hslots⟩ := planUpdate_merges_networks (by decide +kernel) hcurrent rfl
    hchange
  exact ⟨current, change, after, hcurrent, hchange, Option.some.inj hkeys, hafter, hslots⟩

end GuestConfig
