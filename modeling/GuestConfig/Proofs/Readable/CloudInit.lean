import GuestConfig.Proofs.Readable.Wire
import GuestConfig.Proofs.Settling.CloudInit

/-!
# Cloud-init settings stay readable

Nearly all of what cloud-init is told is stored as it is, and any text can be read as a name, a
password, a list of name servers or an encoded list of keys.  The exceptions are the references to
files, which are options of one list, and the addresses of the interfaces.  The rules see to the
addresses; the references need plain names.

## What is here

* `CustomSections.HasPlainNames` — references with plain names and paths.
* `CloudInit.exists_dnsOfWire`, `CloudInit.exists_publicKeys`, `CloudInit.exists_slots_addressing` —
  parts that stay readable.
* `CloudInit.exists_ofWire` — **the settings of cloud-init stay readable.**
-/

set_option autoImplicit false

namespace GuestConfig

/-- References to files with plain names and paths. -/
def CustomSections.HasPlainNames (sections : CustomSections) : Prop :=
  ∀ snippet, (sections.metadata = some snippet ∨ sections.network = some snippet ∨
    sections.user = some snippet ∨ sections.vendor = some snippet) →
      Text.isPlainName snippet.storage = true ∧ Text.isPathName snippet.path = true

namespace CloudInit

variable {w w' : Wire}

/-- What resolves names stays readable, whatever the name servers are. -/
theorem exists_dnsOfWire {current desired : Option NameResolution}
    (h : dnsOfWire w = .ok current)
    (hdomain : w'.get? searchDomainKey = (Draft.effect searchDomainKey
      (.setting searchDomainKey Value.ofNonempty false (current.getD { }).searchDomain
        (desired.getD { }).searchDomain)).applyTo (w.get? searchDomainKey))
    (hservers : w'.get? nameServersKey = (Draft.effect nameServersKey
      (.setting nameServersKey renderNameServers false (current.getD { }).nameServers
        (desired.getD { }).nameServers)).applyTo (w.get? nameServersKey)) :
    ∃ after, dnsOfWire w' = .ok after := by
  obtain ⟨⟨hdomain₀, hservers₀⟩, -⟩ := dnsOfWire_eq_ok_iff.1 h
  have hdomain' := Wire.text?_settled hdomain₀ hdomain
  obtain ⟨servers, hservers'⟩ := Wire.exists_field?_of_writes hservers₀ hservers
    fun value reboot hset ↦ by
      obtain ⟨names, -, -, ⟨v, hv, hstep⟩ | ⟨-, -, hstep⟩⟩ := Draft.mem_setting_iff.1 hset
      · obtain ⟨-, rfl, -⟩ := Step.set.inj hstep
        unfold renderNameServers at hv
        split at hv
        · cases hv
        · obtain rfl := Option.some.inj hv
          exact ⟨_, rfl⟩
      · cases hstep
  obtain ⟨after, hgetD, hne⟩ := exists_getD_eq { } (⟨
    Draft.settled Value.ofNonempty (current.getD { }).searchDomain (desired.getD { }).searchDomain,
    servers⟩ : NameResolution)
  refine ⟨after, dnsOfWire_eq_ok_iff.2 ⟨⟨?_, ?_⟩, hne⟩⟩
  · rw [hgetD]
    exact hdomain'
  · rw [hgetD]
    exact hservers'

theorem exists_publicKeys {current desired : Option PublicKeys}
    (h : w.decoded? PublicKeys.key PublicKeys.decode = .ok current)
    (hafter : w'.get? PublicKeys.key = (Draft.effect PublicKeys.key
      (.setting PublicKeys.key renderKeys false current desired)).applyTo (w.get? PublicKeys.key)) :
    ∃ after, w'.decoded? PublicKeys.key PublicKeys.decode = .ok after := by
  refine Wire.exists_field?_of_writes h hafter fun value reboot hset ↦ ?_
  obtain ⟨keys, -, -, ⟨v, hv, hstep⟩ | ⟨-, -, hstep⟩⟩ := Draft.mem_setting_iff.1 hset
  · obtain ⟨-, rfl, -⟩ := Step.set.inj hstep
    unfold renderKeys at hv
    split at hv
    · cases hv
    · obtain rfl := Option.some.inj hv
      exact PublicKeys.exists_decode_text keys
  · cases hstep

theorem exists_slots_addressing {current desired : Option (SlotMap .network Addressing)}
    (h : w.slots .network addressingStem Addressing.decode = .ok current)
    (hvalid : ∀ addressing, desired = some addressing →
      ∀ slot a, addressing.get? slot = some a → a.validate = .ok ())
    (hafter : ∀ key, (Slot.ofKey? addressingStem key : Option (Slot .network)).isSome →
      w'.get? key = ((addressingPlacement.plan addressingStem current desired).effect key).applyTo
        (w.get? key)) :
    ∃ after, w'.slots .network addressingStem Addressing.decode = .ok after := by
  refine Wire.exists_slots_of_writes h hafter ?_
  cases desired with
  | none => exact Draft.writesReadable_nil
  | some desired =>
    refine Placement.writesReadable_plan (fun slot a ha ↦ ?_) fun key _ ↦
      Draft.writesReadable_delete key false
    have hmerged := (Addressing.isStorable_of_validate (hvalid desired rfl slot a ha)).laidOver
      (isStorable_of_slots h slot)
    exact Draft.writesReadable_rendered (Addressing.decode_text hmerged.isClean_entries) _ _

/-- **The settings of cloud-init stay readable.** -/
theorem exists_ofWire {version : Version} {current desired : Option CloudInit}
    (h : ofWire w = .ok current)
    (hnames : ∀ settings sections, desired = some settings → settings.custom = some sections →
      sections.HasPlainNames)
    (hvalid : ∀ settings, desired = some settings → settings.validate version = .ok ())
    (hafter : w'.Follows .cloudInit (desired.elim [] (plan current)) w) :
    ∃ after, ofWire w' = .ok after := by
  cases desired with
  | none => exact ⟨current, (ofWire_congr hafter).trans h⟩
  | some desired =>
    obtain ⟨hw, -⟩ := ofWire_eq_ok_iff.1 h
    obtain ⟨hcustom, hdomain, hservers, hkeys, -, -, -, haddressing⟩ := effect_plan current desired
    have hsections (sections : CustomSections) (hsome : desired.custom = some sections) :
        sections.IsStorable := fun snippet hsnippet _ ↦
      have hplain := hnames desired sections rfl hsome snippet hsnippet
      Snippet.isStorable_of_isPlain hplain.1 hplain.2
    obtain ⟨custom, hcustom', -⟩ := exists_custom hw.custom hsections (hafter.get?_eq rfl hcustom)
    obtain ⟨dns, hdns'⟩ :=
      exists_dnsOfWire hw.dns (hafter.get?_eq rfl hdomain) (hafter.get?_eq rfl hservers)
    obtain ⟨keys, hkeys'⟩ := exists_publicKeys hw.publicKeys (hafter.get?_eq rfl hkeys)
    obtain ⟨addressing, haddressing'⟩ := exists_slots_addressing hw.addressing
      (addressing_of_validate (hvalid desired rfl)) fun key hslot ↦
        hafter.get?_eq (Setting.owner?_of_ofKey? rfl rfl hslot) (haddressing key hslot)
    obtain ⟨after, hok, -⟩ := exists_settled h hafter hcustom' hdns' hkeys' haddressing'
    exact ⟨after, hok⟩

end CloudInit

end GuestConfig
