import GuestConfig.Proofs.CloudInit.Addressing
import GuestConfig.Proofs.CloudInit.Keys
import GuestConfig.Proofs.CloudInit.Snippet
import GuestConfig.Proofs.Frame
import GuestConfig.Proofs.Wire.Settling

/-!
# Cloud-init settings that were planned are settled

Nearly every setting of cloud-init has a key and a way of being read of its own.  What is asked for
has to survive the way it is stored: name servers are stored between blanks, keys in lines, and
references to files in a list of options.

## What is here

* `CloudInit.IsStorable` — the settings that survive being stored.
* `CloudInit.effect_plan` — every setting is planned under its key.
* `CloudInit.settled` — the settings after they were planned, with `CloudInit.exists_settled`.
* `CloudInit.settles` — **the settings of cloud-init are settled.**
* `Configuration.addressing` — the addresses of a guest, and `Configuration.effect_plan_addressing`:
  what a plan does to them.
-/

set_option autoImplicit false

namespace GuestConfig

open Text (isBlank)

namespace CloudInit

/-! ## What survives being stored -/

/-- The settings that survive being stored: references with plain names and paths, name servers
without blanks, and keys that are lines of their own. -/
structure IsStorable (settings : CloudInit) : Prop where
  custom (sections : CustomSections) (snippet : Snippet) : settings.custom = some sections →
    (sections.metadata = some snippet ∨ sections.network = some snippet ∨
      sections.user = some snippet ∨ sections.vendor = some snippet) →
        Text.isPlainName snippet.storage = true ∧ Text.isPathName snippet.path = true
  nameServers (dns : NameResolution) (servers : List String) : settings.dns = some dns →
    dns.nameServers = some servers →
      ∀ server ∈ servers, server.toList ≠ [] ∧ ∀ c ∈ server.toList, isBlank c = false
  publicKeys (keys : PublicKeys) : settings.publicKeys = some keys →
    ∀ key ∈ keys, PublicKeys.IsStorable key

/-- Name servers as they are stored. -/
def renderNameServers (servers : List String) : Option Value :=
  if servers.isEmpty then none else some (.text (String.intercalate " " servers))

/-- Name servers as they are read. -/
def readServers (v : Value) : Except WireError (List String) :=
  (Wire.readText v).map readNameServers

/-- Name servers read back. -/
theorem readServers_of_renderNameServers {servers : List String} {v : Value}
    (h : renderNameServers servers = some v)
    (hwords : ∀ server ∈ servers, server.toList ≠ [] ∧ ∀ c ∈ server.toList, isBlank c = false) :
    v ≠ .null ∧ readServers v = .ok servers := by
  unfold renderNameServers at h
  split at h
  · cases h
  · obtain rfl := Option.some.inj h
    refine ⟨nofun, congrArg Except.ok ?_⟩
    have hpieces : ∀ piece ∈ servers.map String.toList,
        piece ≠ [] ∧ ∀ c ∈ piece, isBlank c = false := by
      intro piece hpiece
      obtain ⟨server, hserver, rfl⟩ := List.mem_map.1 hpiece
      exact hwords server hserver
    have hblank : " ".toList = [' '] := rfl
    rw [readNameServers, String.toList_intercalate, hblank, Text.words_intercalate hpieces,
      List.map_map]
    simp

/-- Public keys as they are stored. -/
def renderKeys (keys : PublicKeys) : Option Value :=
  if keys.isEmpty then none else some (.text (PublicKeys.text keys))

/-! ## The settings one by one -/

theorem dnsOfWire_eq_ok_iff {w : Wire} {r : Option NameResolution} :
    dnsOfWire w = .ok r ↔ (w.text? searchDomainKey = .ok (r.getD { }).searchDomain ∧
      w.field? nameServersKey readServers = .ok (r.getD { }).nameServers) ∧ r ≠ some { } := by
  have hservers : w.field? nameServersKey readServers =
      (w.text? nameServersKey).map (Option.map readNameServers) :=
    Wire.field?_map readNameServers
  simp only [dnsOfWire, bind_eq_ok_iff, pure_eq_ok_iff, ite_none_eq_iff, hservers, map_eq_ok_iff]
  constructor
  · rintro ⟨domain, hdomain, servers, hservers, hr, hne⟩
    rw [← hr]
    exact ⟨⟨hdomain, servers, hservers, rfl⟩, hne⟩
  · rintro ⟨⟨hdomain, servers, hservers, hr⟩, hne⟩
    refine ⟨_, hdomain, servers, hservers, ?_, hne⟩
    rw [hr]

/-- The settings of a stored object, one by one. -/
structure Holds (w : Wire) (settings : CloudInit) : Prop where
  custom : w.decoded? customKey (fun s ↦ CustomSections.ofOptions (.parse s)) = .ok settings.custom
  dns : dnsOfWire w = .ok settings.dns
  publicKeys : w.decoded? PublicKeys.key PublicKeys.decode = .ok settings.publicKeys
  addressing : w.slots .network addressingStem Addressing.decode = .ok settings.addressing
  password : w.text? passwordKey = .ok settings.password
  upgradePackages : w.flag? upgradeKey = .ok settings.upgradePackages
  username : w.text? usernameKey = .ok settings.username

theorem ofWire_eq_ok_iff {w : Wire} {r : Option CloudInit} :
    ofWire w = .ok r ↔ Holds w (r.getD { }) ∧ r ≠ some { } := by
  simp only [ofWire, bind_eq_ok_iff, pure_eq_ok_iff, ite_none_eq_iff]
  constructor
  · rintro ⟨custom, hcustom, dns, hdns, keys, hkeys, addressing, haddressing, password, hpassword,
      upgrade, hupgrade, username, husername, hr, hne⟩
    rw [← hr]
    exact ⟨⟨hcustom, hdns, hkeys, haddressing, hpassword, hupgrade, husername⟩, hne⟩
  · rintro ⟨h, hne⟩
    exact ⟨_, h.custom, _, h.dns, _, h.publicKeys, _, h.addressing, _, h.password, _,
      h.upgradePackages, _, h.username, rfl, hne⟩

/-- **Every setting is planned under its key.** -/
theorem effect_plan (current : Option CloudInit) (desired : CloudInit) :
    let base := current.getD { }
    let dns := desired.dns.getD { }
    let draft := plan current desired
    draft.effect customKey = (planCustom base.custom desired.custom).effect customKey ∧
      draft.effect searchDomainKey = Draft.effect searchDomainKey
        (.setting searchDomainKey Value.ofNonempty false (base.dns.getD { }).searchDomain
          dns.searchDomain) ∧
      draft.effect nameServersKey = Draft.effect nameServersKey
        (.setting nameServersKey renderNameServers false (base.dns.getD { }).nameServers
          dns.nameServers) ∧
      draft.effect PublicKeys.key = Draft.effect PublicKeys.key
        (.setting PublicKeys.key renderKeys false base.publicKeys desired.publicKeys) ∧
      draft.effect usernameKey = Draft.effect usernameKey
        (.setting usernameKey Value.ofNonempty false base.username desired.username) ∧
      draft.effect passwordKey = Draft.effect passwordKey
        (.setting passwordKey Value.ofNonempty false base.password desired.password) ∧
      draft.effect upgradeKey = Draft.effect upgradeKey
        (.setting upgradeKey (fun b ↦ some (.ofFlag b)) false base.upgradePackages
          desired.upgradePackages) ∧
      ∀ key, (Slot.ofKey? addressingStem key : Option (Slot .network)).isSome →
        draft.effect key = (addressingPlacement.plan addressingStem base.addressing
          desired.addressing).effect key := by
  have hcustom (key : String) (h : key ≠ customKey) :
      (planCustom (current.getD { }).custom desired.custom).effect key = .keep :=
    Draft.effect_eq_keep (p := (· = customKey)) (touchesOnly_planCustom _ _ rfl) h
  have haddressing (key : String)
      (h : (Slot.ofKey? addressingStem key : Option (Slot .network)) = none) :
      (addressingPlacement.plan addressingStem (current.getD { }).addressing
        desired.addressing).effect key = .keep :=
    Draft.effect_eq_keep (Placement.touchesOnly_plan isLocal_addressingPlacement _ _)
      fun ⟨slot, hslot⟩ ↦ by
        rw [hslot, Slot.ofKey?_key] at h
        cases h
  refine ⟨?_, ?_, ?_, ?_, ?_, ?_, ?_, fun key hkey ↦ ?_⟩
  case refine_8 =>
    have hne {key' : String}
        (h : (Slot.ofKey? addressingStem key' : Option (Slot .network)) = none) : key ≠ key' := by
      rintro rfl
      rw [h] at hkey
      cases hkey
    have hneCustom : key ≠ customKey := hne (by decide)
    have hneDomain : key ≠ searchDomainKey := hne (by decide)
    have hneServers : key ≠ nameServersKey := hne (by decide)
    have hneKeys : key ≠ PublicKeys.key := hne (by decide)
    have hneUsername : key ≠ usernameKey := hne (by decide)
    have hnePassword : key ≠ passwordKey := hne (by decide)
    have hneUpgrade : key ≠ upgradeKey := hne (by decide)
    simp (disch := assumption) only [plan, planDns, Draft.effect_append, Draft.effect_setting_of_ne,
      hcustom, Effect.keep_andThen, Effect.andThen_keep]
  all_goals
    simp (disch := decide) only [plan, planDns, Draft.effect_append, Draft.effect_setting_of_ne,
      hcustom, haddressing, Effect.keep_andThen, Effect.andThen_keep]
  all_goals rfl

/-! ## The settings settle -/

/-- The references to files are settled. -/
theorem exists_custom {w w' : Wire} {current desired : Option CustomSections}
    (h : w.decoded? customKey (fun s ↦ CustomSections.ofOptions (.parse s)) = .ok current)
    (hstorable : ∀ sections, desired = some sections → sections.IsStorable)
    (hafter : w'.get? customKey =
      ((planCustom current desired).effect customKey).applyTo (w.get? customKey)) :
    ∃ after, w'.decoded? customKey (fun s ↦ CustomSections.ofOptions (.parse s)) = .ok after ∧
      planCustom after desired = [] := by
  refine Wire.exists_decoded? h hafter ?_
  cases desired with
  | none => exact rfl
  | some desired =>
    have hcurrent : (current.getD { }).IsStorable := by
      cases current with
      | none => exact CustomSections.isStorable_empty
      | some sections =>
        obtain ⟨_, _, _, _, _, hs⟩ := Wire.decoded?_eq_some_iff.1 h
        exact CustomSections.isStorable_of_ofOptions hs
    have hmerged := (hstorable desired rfl).laidOver hcurrent
    exact Draft.settles_rendered customKey CustomSections.text desired.laidOver { }
      (CustomSections.ofOptions_text hmerged) rfl (CustomSections.text_stored _)
      (CustomSections.text_laidOver_stored _ _)

/-- What was in a slot can be stored, and so can nothing. -/
theorem isStorable_of_slots {w : Wire} {current : Option (SlotMap .network Addressing)}
    (h : w.slots .network addressingStem Addressing.decode = .ok current) (slot : Slot .network) :
    (((current.getD .empty).get? slot).getD { }).IsStorable := by
  cases hexisting : (current.getD .empty).get? slot with
  | none => exact Addressing.isStorable_empty
  | some existing =>
    -- the slot may have been read from a key with zeros in front
    obtain ⟨_, hs⟩ := Wire.exists_decode_of_slots h hexisting
    exact Addressing.isStorable_of_decode hs

/-- The addresses of the interfaces are settled. -/
theorem exists_addressing {w w' : Wire} {current desired : Option (SlotMap .network Addressing)}
    (h : w.slots .network addressingStem Addressing.decode = .ok current)
    (hplain : w.HasPlainKeys .network addressingStem)
    (hvalid : ∀ addressing, desired = some addressing →
      ∀ slot a, addressing.get? slot = some a → a.validate = .ok ())
    (hafter : ∀ key, (Slot.ofKey? addressingStem key : Option (Slot .network)).isSome →
      w'.get? key = ((addressingPlacement.plan addressingStem current desired).effect key).applyTo
        (w.get? key)) :
    ∃ after, w'.slots .network addressingStem Addressing.decode = .ok after ∧
      addressingPlacement.plan addressingStem after desired = [] := by
  cases desired with
  | none => exact ⟨current, (Wire.slots_congr hafter).trans h, rfl⟩
  | some desired =>
    have hplace (slot : Slot .network) (a : Addressing) (ha : desired.get? slot = some a) :
        ((addressingPlacement.place (slot.key addressingStem) ((current.getD .empty).get? slot)
          a).effect (slot.key addressingStem)).Settles Addressing.decode
            ((current.getD .empty).get? slot) fun after ↦
              addressingPlacement.place (slot.key addressingStem) after a = [] ∧ True := by
      have hmerged := (Addressing.isStorable_of_validate (hvalid desired rfl slot a ha)).laidOver
        (isStorable_of_slots h slot)
      simp only [and_true]
      exact Draft.settles_rendered _ Addressing.text a.laidOver { }
        (Addressing.decode_text hmerged.isClean_entries) rfl (Addressing.text_stored _)
        (Addressing.text_laidOver_stored _ _)
    obtain ⟨after, hok, hplan, -⟩ := Placement.settles isLocal_addressingPlacement hplain h hafter
      hplace fun key a ↦ by simp [addressingPlacement, Step.effect]
    exact ⟨after, hok, hplan⟩

/-- What resolves names is settled. -/
theorem exists_dns {w w' : Wire} {current desired : Option NameResolution}
    (h : dnsOfWire w = .ok current)
    (hwords : ∀ dns servers, desired = some dns → dns.nameServers = some servers →
      ∀ server ∈ servers, server.toList ≠ [] ∧ ∀ c ∈ server.toList, isBlank c = false)
    (hdomain : w'.get? searchDomainKey = (Draft.effect searchDomainKey
      (.setting searchDomainKey Value.ofNonempty false (current.getD { }).searchDomain
        (desired.getD { }).searchDomain)).applyTo (w.get? searchDomainKey))
    (hservers : w'.get? nameServersKey = (Draft.effect nameServersKey
      (.setting nameServersKey renderNameServers false (current.getD { }).nameServers
        (desired.getD { }).nameServers)).applyTo (w.get? nameServersKey)) :
    ∃ after, dnsOfWire w' = .ok after ∧ planDns after desired = [] := by
  obtain ⟨⟨hdomain₀, hservers₀⟩, -⟩ := dnsOfWire_eq_ok_iff.1 h
  have hdomain' := Wire.text?_settled hdomain₀ hdomain
  have hservers' := Wire.field?_settled (fun servers v hdesired hv ↦ by
    cases desired with
    | none => cases hdesired
    | some dns => exact readServers_of_renderNameServers hv (hwords dns servers rfl hdesired))
    hservers₀ hservers
  obtain ⟨after, hgetD, hne⟩ := exists_getD_eq { } (⟨
    Draft.settled Value.ofNonempty (current.getD { }).searchDomain (desired.getD { }).searchDomain,
    Draft.settled renderNameServers (current.getD { }).nameServers (desired.getD { }).nameServers⟩ :
      NameResolution)
  refine ⟨after, dnsOfWire_eq_ok_iff.2 ⟨⟨?_, ?_⟩, hne⟩, ?_⟩
  · rw [hgetD]
    exact hdomain'
  · rw [hgetD]
    exact hservers'
  · have hrender : planDns after desired = Draft.setting _ _ _ _ _ ++
        Draft.setting nameServersKey renderNameServers _ _ _ := rfl
    rw [hrender, hgetD, Draft.setting_settled, Draft.setting_settled]
    rfl

/-- The public keys are settled. -/
theorem exists_keys {w w' : Wire} {current desired : Option PublicKeys}
    (h : w.decoded? PublicKeys.key PublicKeys.decode = .ok current)
    (hstorable : ∀ keys, desired = some keys → ∀ key ∈ keys, PublicKeys.IsStorable key)
    (hafter : w'.get? PublicKeys.key = (Draft.effect PublicKeys.key
      (.setting PublicKeys.key renderKeys false current desired)).applyTo (w.get? PublicKeys.key)) :
    ∃ after, w'.decoded? PublicKeys.key PublicKeys.decode = .ok after ∧
      Draft.setting PublicKeys.key renderKeys false after desired = [] := by
  refine ⟨_, Wire.field?_settled (fun keys v hdesired hv ↦ ?_) h hafter,
    Draft.setting_settled _ _ _ _ _⟩
  unfold renderKeys at hv
  split at hv
  · cases hv
  · obtain rfl := Option.some.inj hv
    exact ⟨nofun, PublicKeys.decode_text (hstorable keys hdesired)⟩

theorem addressing_of_validate {version : Version} {settings : CloudInit}
    (h : settings.validate version = .ok ()) (addressing : SlotMap .network Addressing)
    (haddressing : settings.addressing = some addressing) (slot : Slot .network) (a : Addressing)
    (ha : addressing.get? slot = some a) : a.validate = .ok () := by
  simp only [validate, bind_unit_eq_ok_iff, requireOf_eq_ok_iff, requireEach_eq_ok_iff] at h
  exact h.2.1 addressing haddressing (slot, a) (addressing.mem_toList_iff.2 ha)

/-- The settings after they were planned, given what the parts with a form of their own are read
as. -/
def settled (base desired : CloudInit) (custom : Option CustomSections)
    (dns : Option NameResolution) (keys : Option PublicKeys)
    (addressing : Option (SlotMap .network Addressing)) : CloudInit where
  custom := custom
  dns := dns
  addressing := addressing
  password := Draft.settled Value.ofNonempty base.password desired.password
  publicKeys := keys
  upgradePackages :=
    Draft.settled (fun b ↦ some (.ofFlag b)) base.upgradePackages desired.upgradePackages
  username := Draft.settled Value.ofNonempty base.username desired.username

/-- **The settings of a stored object after they were planned**, if the parts with a form of their
own can be read. -/
theorem exists_settled {w w' : Wire} {current : Option CloudInit} {desired : CloudInit}
    (h : ofWire w = .ok current) (hafter : w'.Follows .cloudInit (plan current desired) w)
    {custom : Option CustomSections} {dns : Option NameResolution} {keys : Option PublicKeys}
    {addressing : Option (SlotMap .network Addressing)}
    (hcustom : w'.decoded? customKey (fun s ↦ CustomSections.ofOptions (.parse s)) = .ok custom)
    (hdns : dnsOfWire w' = .ok dns) (hkeys : w'.decoded? PublicKeys.key PublicKeys.decode = .ok keys)
    (haddressing : w'.slots .network addressingStem Addressing.decode = .ok addressing) :
    ∃ after, ofWire w' = .ok after ∧
      after.getD { } = settled (current.getD { }) desired custom dns keys addressing := by
  obtain ⟨hw, -⟩ := ofWire_eq_ok_iff.1 h
  obtain ⟨-, -, -, -, husername, hpassword, hupgrade, -⟩ := effect_plan current desired
  have husername' := Wire.text?_settled hw.username (hafter.get?_eq rfl husername)
  have hpassword' := Wire.text?_settled hw.password (hafter.get?_eq rfl hpassword)
  have hupgrade' := Wire.flag?_settled hw.upgradePackages (hafter.get?_eq rfl hupgrade)
  have hholds : Holds w' (settled (current.getD { }) desired custom dns keys addressing) :=
    ⟨hcustom, hdns, hkeys, haddressing, hpassword', hupgrade', husername'⟩
  obtain ⟨after, hgetD, hne⟩ :=
    exists_getD_eq { } (settled (current.getD { }) desired custom dns keys addressing)
  exact ⟨after, ofWire_eq_ok_iff.2 ⟨hgetD.symm ▸ hholds, hne⟩, hgetD⟩

/-- **The settings of cloud-init are settled.** -/
theorem settles {w w' : Wire} {version : Version} {current desired : Option CloudInit}
    (h : ofWire w = .ok current) (hplain : w.HasPlainKeys .network addressingStem)
    (hstorable : ∀ settings, desired = some settings → settings.IsStorable)
    (hvalid : ∀ settings, desired = some settings → settings.validate version = .ok ())
    (hafter : w'.Follows .cloudInit (desired.elim [] (plan current)) w) :
    ∃ after, ofWire w' = .ok after ∧ desired.elim [] (plan after) = [] := by
  cases desired with
  | none => exact ⟨current, (ofWire_congr hafter).trans h, rfl⟩
  | some desired =>
    have hstorable := hstorable desired rfl
    obtain ⟨hw, -⟩ := ofWire_eq_ok_iff.1 h
    obtain ⟨hcustom, hdomain, hservers, hkeys, -, -, -, haddressing⟩ := effect_plan current desired
    have hsections (sections : CustomSections) (hsome : desired.custom = some sections) :
        sections.IsStorable := fun snippet hsnippet _ ↦
      have hnames := hstorable.custom sections snippet hsome hsnippet
      Snippet.isStorable_of_isPlain hnames.1 hnames.2
    obtain ⟨custom, hcustom', hplanCustom⟩ :=
      exists_custom hw.custom hsections (hafter.get?_eq rfl hcustom)
    obtain ⟨dns, hdns', hplanDns⟩ := exists_dns hw.dns hstorable.nameServers
      (hafter.get?_eq rfl hdomain) (hafter.get?_eq rfl hservers)
    obtain ⟨keys, hkeys', hplanKeys⟩ :=
      exists_keys hw.publicKeys hstorable.publicKeys (hafter.get?_eq rfl hkeys)
    obtain ⟨addressing, haddressing', hplanAddressing⟩ := exists_addressing hw.addressing hplain
      (addressing_of_validate (hvalid desired rfl)) fun key hslot ↦
        hafter.get?_eq (Setting.owner?_of_ofKey? rfl rfl hslot) (haddressing key hslot)
    obtain ⟨after, hok, hgetD⟩ := exists_settled h hafter hcustom' hdns' hkeys' haddressing'
    refine ⟨after, hok, ?_⟩
    have hplan : plan after desired = _ ++ _ ++ _ ++
        Draft.setting PublicKeys.key renderKeys false (after.getD { }).publicKeys
          desired.publicKeys ++ _ ++ _ ++ _ := rfl
    rw [Option.elim_some, hplan, hgetD]
    simp only [settled, hplanCustom, hplanDns, hplanKeys, hplanAddressing, Draft.setting_settled,
      List.append_nil]

end CloudInit

/-! ## The addressing of a configuration -/

namespace Configuration

/-- The addresses of the interfaces of a guest, by slot. -/
def addressing (c : Configuration) : Option (SlotMap .network Addressing) :=
  c.cloudInit.bind CloudInit.addressing

theorem addressing_eq (c : Configuration) : c.addressing = (c.cloudInit.getD { }).addressing := by
  rw [addressing]
  cases c.cloudInit <;> rfl

theorem Holds.slots_addressing {w : Wire} {c : Configuration} (h : Holds w c) :
    w.slots .network CloudInit.addressingStem Addressing.decode = .ok c.addressing := by
  rw [addressing_eq]
  exact (CloudInit.ofWire_eq_ok_iff.1 h.cloudInit).1.addressing

/-- **What a plan does to the addresses** is what their own steps do. -/
theorem effect_plan_addressing (version : Version) (guest : Option GuestId)
    (current desired : Configuration) {key : String}
    (hkey : (Slot.ofKey? CloudInit.addressingStem key : Option (Slot .network)).isSome) :
    (desired.plan version guest (some current)).effect key =
      (CloudInit.addressingPlacement.plan CloudInit.addressingStem current.addressing
        desired.addressing).effect key := by
  rw [effect_plan, Setting.owner?_of_ofKey? (s := .cloudInit) rfl rfl hkey]
  dsimp only
  rw [planOnly_eq]
  rw [current.addressing_eq, addressing]
  cases desired.cloudInit with
  | none => rfl
  | some settings =>
    exact (CloudInit.effect_plan current.cloudInit settings).2.2.2.2.2.2.2 key hkey

end Configuration

end GuestConfig
