import GuestConfig.CloudInit.Addressing
import GuestConfig.CloudInit.Keys
import GuestConfig.CloudInit.Snippet
import GuestConfig.Plan.Placement

/-!
# Cloud-init

What a guest learns when it boots from an image that was prepared for many guests: users and keys,
name servers, the addresses of its interfaces.  All of this reaches the guest through a drive that
is made anew, so that no change needs a reboot of its own.

## What is here

* `CloudInit` — the settings; an absent one keeps its current value.
* `CloudInit.validate` — the rules that concern these settings alone.
* `CloudInit.plan` — the steps.
-/

set_option autoImplicit false

namespace GuestConfig

open Text (words)

/-- Where the guest resolves names. -/
structure NameResolution where
  /-- The search domain; an empty one removes it. -/
  searchDomain : Option String := none
  /-- The name servers; an empty list removes them. -/
  nameServers : Option (List String) := none
  deriving DecidableEq, Repr

/-- The cloud-init settings of a guest. -/
structure CloudInit where
  /-- The files that take the place of generated documents. -/
  custom : Option CustomSections := none
  /-- Where the guest resolves names. -/
  dns : Option NameResolution := none
  /-- The addresses of its interfaces, by the slots of the interfaces. -/
  addressing : Option (SlotMap .network Addressing) := none
  /-- The password; an empty one removes it. -/
  password : Option String := none
  /-- The public keys; an empty list removes them. -/
  publicKeys : Option PublicKeys := none
  /-- Whether packages are upgraded at the first boot. -/
  upgradePackages : Option Bool := none
  /-- The user; an empty name removes it. -/
  username : Option String := none
  deriving DecidableEq

namespace CloudInit

/-- The first version that can upgrade packages. -/
def upgradeVersion : Version :=
  ⟨8, 0, 0⟩

/-! ## Stored settings -/

/-- The key of the files. -/
def customKey : String :=
  "cicustom"

/-- The key of the search domain. -/
def searchDomainKey : String :=
  "searchdomain"

/-- The key of the name servers. -/
def nameServersKey : String :=
  "nameserver"

/-- The stem of the keys of addresses. -/
def addressingStem : String :=
  "ipconfig"

/-- The key of the password. -/
def passwordKey : String :=
  "cipassword"

/-- The key of the setting for upgrades. -/
def upgradeKey : String :=
  "ciupgrade"

/-- The key of the user. -/
def usernameKey : String :=
  "ciuser"

/-- Name servers in a stored text, between blanks. -/
def readNameServers (s : String) : List String :=
  (words s.toList).map String.ofList

/-- Where the guest resolves names, if it says. -/
def dnsOfWire (w : Wire) : Except WireError (Option NameResolution) := do
  let dns : NameResolution := {
    searchDomain := ← w.text? searchDomainKey
    nameServers := (← w.text? nameServersKey).map readNameServers }
  return if dns = { } then none else some dns

/-- The settings of a guest, if it has any. -/
def ofWire (w : Wire) : Except WireError (Option CloudInit) := do
  let custom ← w.decoded? customKey fun s ↦ CustomSections.ofOptions (.parse s)
  let dns ← dnsOfWire w
  let publicKeys ← w.decoded? PublicKeys.key PublicKeys.decode
  let settings : CloudInit := {
    custom := custom
    dns := dns
    addressing := ← w.slots .network addressingStem Addressing.decode
    password := ← w.text? passwordKey
    publicKeys := publicKeys
    upgradePackages := ← w.flag? upgradeKey
    username := ← w.text? usernameKey }
  return if settings = { } then none else some settings

/-! ## Rules -/

/-- Checks the settings that are asked for. -/
def validate (version : Version) (settings : CloudInit) : Except RuleError Unit := do
  requireOf settings.custom CustomSections.validate
  requireOf settings.addressing fun addressing ↦
    requireEach addressing.toList fun e ↦ e.2.validate
  requireOf settings.upgradePackages fun _ ↦
    require (version.atLeast upgradeVersion) (.upgradeUnsupported version)

/-! ## Planning -/

/-- The steps for the files that are asked for. -/
def planCustom (current desired : Option CustomSections) : Draft :=
  match desired with
  | none => []
  | some sections =>
    Draft.rendered customKey (current.map CustomSections.text)
      (sections.laidOver (current.getD { })).text

/-- The steps for resolving names. -/
def planDns (current desired : Option NameResolution) : Draft :=
  let before := current.getD { }
  let after := desired.getD { }
  Draft.setting searchDomainKey Value.ofNonempty false before.searchDomain after.searchDomain ++
    Draft.setting nameServersKey (fun servers ↦
        if servers.isEmpty then none else some (.text (String.intercalate " " servers)))
      false before.nameServers after.nameServers

/-- How the addresses of an interface are put into a slot and taken out of it. -/
def addressingPlacement : Placement Addressing where
  place key existing desired :=
    Draft.rendered key (existing.map Addressing.text) (desired.laidOver (existing.getD { })).text
  remove key _ := [.delete key false]

/-- The steps for the settings that are asked for. -/
def plan (current : Option CloudInit) (desired : CloudInit) : Draft :=
  let base := current.getD { }
  planCustom base.custom desired.custom ++
    planDns base.dns desired.dns ++
    addressingPlacement.plan addressingStem base.addressing desired.addressing ++
    Draft.setting PublicKeys.key (fun keys ↦
        if keys.isEmpty then none else some (.text (PublicKeys.text keys)))
      false base.publicKeys desired.publicKeys ++
    Draft.setting usernameKey Value.ofNonempty false base.username desired.username ++
    Draft.setting passwordKey Value.ofNonempty false base.password desired.password ++
    Draft.setting upgradeKey (fun b ↦ some (.ofFlag b)) false base.upgradePackages
      desired.upgradePackages

/-! ## As a document -/

/-- Reads where the guest resolves names. -/
def dnsOfValue? (v : Value) : Option NameResolution := do
  let fields ← v.fields? ["search_domain", "name_servers"]
  return {
    searchDomain := ← fields.optional "search_domain" Value.text?
    nameServers := ← fields.optional "name_servers" (Value.list? Value.text?) }

/-- Writes where the guest resolves names. -/
def dnsToValue (dns : NameResolution) : Value :=
  .object [
    ("search_domain", .ofOption .text dns.searchDomain),
    ("name_servers", .ofOption (.ofList .text) dns.nameServers)]

/-- Reads the settings. -/
def ofValue? (v : Value) : Option CloudInit := do
  let fields ← v.fields? ["custom", "dns", "ipconfig", "password", "public_ssh_keys",
    "upgrade_packages", "username"]
  return {
    custom := ← fields.optional "custom" CustomSections.ofValue?
    dns := ← fields.optional "dns" dnsOfValue?
    addressing := ← fields.optional "ipconfig" (Value.slotMap? Addressing.ofValue?)
    password := ← fields.optional "password" Value.text?
    publicKeys := ← fields.optional "public_ssh_keys" (Value.list? Value.text?)
    upgradePackages := ← fields.optional "upgrade_packages" Value.flag?
    username := ← fields.optional "username" Value.text? }

/-- Writes the settings. -/
def toValue (settings : CloudInit) : Value :=
  .object [
    ("custom", .ofOption CustomSections.toValue settings.custom),
    ("dns", .ofOption dnsToValue settings.dns),
    ("ipconfig", .ofOption (.ofSlotMap Addressing.toValue) settings.addressing),
    ("password", .ofOption .text settings.password),
    ("public_ssh_keys", .ofOption (.ofList .text) settings.publicKeys),
    ("upgrade_packages", .ofOption .bool settings.upgradePackages),
    ("username", .ofOption .text settings.username)]

end CloudInit

end GuestConfig
