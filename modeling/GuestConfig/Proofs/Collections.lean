import GuestConfig.Proofs.Convergence
import GuestConfig.Proofs.WellFormed

/-!
# Collections are applied exactly

PCI devices, USB devices, serial ports and tags are asked for as a whole: what is there afterwards
is what was asked for, neither more nor less.  An update does not write the collection as a whole,
though.  It compares the texts of what is there and of what is asked for, member by member, and
writes where they differ.  A member would be left behind if it shared its text with the one that is
to take its place; no two do, because every text reads back.

## What is here

* `applied` — what a collection is after an update.
* `Placement.getD_eq_of_plan_byText` — devices that leave nothing to do are those that are asked
  for, if no two of them share a text.
* `Wire.slots_applied`, `Tags.ofWire_applied` — a collection after an update.
* `planUpdate_applies_collections` — **collections are applied exactly.**
-/

set_option autoImplicit false

namespace GuestConfig

/-! ## What is asked for -/

/-- What a collection is after an update: what is asked for, where an empty collection counts as
none, or what is there already if nothing is asked for. -/
def applied {γ : Type} [DecidableEq γ] (empty : γ) (current desired : Option γ) : Option γ :=
  match desired with
  | none => current
  | some a => if a = empty then none else some a

/-! ## Families -/

/-- **Where there is nothing to do, there is what is asked for**, if no two devices share a text. -/
theorem Placement.getD_eq_of_plan_byText {α : Type} {kind : SlotKind} {text : α → String}
    (hinj : Function.Injective text) {plugReboot changeReboot : Bool} {stem : String}
    {current : Option (SlotMap kind α)} {desired : SlotMap kind α}
    (h : (byText text plugReboot changeReboot).plan stem current (some desired) = []) :
    current.getD .empty = desired := by
  refine SortedMap.ext fun slot ↦ ?_
  cases hdesired : desired.get? slot with
  | some device =>
    have hplace := place_eq_nil_of_plan h hdesired
    cases hcurrent : (current.getD .empty).get? slot with
    | none => simp [byText, hcurrent] at hplace
    | some other =>
      by_cases htext : text device = text other
      · rw [hinj htext]
      · simp [byText, hcurrent, htext] at hplace
  | none =>
    refine Option.not_isSome_iff_eq_none.1 fun hsome ↦ ?_
    have hkept := isSome_of_plan_eq_nil h (fun _ _ ↦ List.cons_ne_nil _ _) hsome
    rw [hdesired] at hkept
    cases hkept

/-- **A family of devices whose text reads back is applied exactly.** -/
theorem Wire.slots_applied {α : Type} [DecidableEq α] {kind : SlotKind} {stem : String}
    {w w' : Wire} {decode : String → Except WireError α} {text : α → String}
    (hdecode : ∀ device, decode (text device) = .ok device) {plugReboot changeReboot : Bool}
    (hplain : w.HasPlainKeys kind stem) {current desired : Option (SlotMap kind α)}
    (h : w.slots kind stem decode = .ok current)
    (hafter : ∀ key, (Slot.ofKey? stem key : Option (Slot kind)).isSome → w'.get? key =
      (((Placement.byText text plugReboot changeReboot).plan stem current desired).effect
        key).applyTo (w.get? key)) :
    w'.slots kind stem decode = .ok (applied .empty current desired) := by
  cases desired with
  | none => exact (slots_congr hafter).trans h
  | some desired =>
    have hinj : Function.Injective text := fun a b heq ↦
      Except.ok.inj ((hdecode a).symm.trans (heq ▸ hdecode b))
    obtain ⟨after, hok, hplan⟩ := Placement.settles_byText hdecode hplain h hafter
    have hne : after ≠ some .empty := fun heq ↦ slots_ne_empty (heq ▸ hok)
    rw [hok, applied, ite_none_eq_iff.2 ⟨(Placement.getD_eq_of_plan_byText hinj hplan).symm, hne⟩]

section families

variable {w w' : Wire}

/-- **PCI devices are applied exactly.** -/
theorem PciDevice.ofWire_applied {current desired : Option (SlotMap .pci PciDevice)}
    (hplain : w.HasPlainKeys .pci stem) (h : ofWire w = .ok current)
    (hafter : w'.Follows .pciDevices (placement.plan stem current desired) w) :
    ofWire w' = .ok (applied .empty current desired) :=
  Wire.slots_applied decode_text hplain h fun key hkey ↦
    hafter key (Setting.owner?_of_ofKey? rfl rfl hkey)

/-- **USB devices are applied exactly.** -/
theorem UsbDevice.ofWire_applied {current desired : Option (SlotMap .usb UsbDevice)}
    (hplain : w.HasPlainKeys .usb stem) (h : ofWire w = .ok current)
    (hafter : w'.Follows .usbs (placement.plan stem current desired) w) :
    ofWire w' = .ok (applied .empty current desired) :=
  Wire.slots_applied decode_text hplain h fun key hkey ↦
    hafter key (Setting.owner?_of_ofKey? rfl rfl hkey)

/-- **Serial ports are applied exactly.** -/
theorem SerialPort.ofWire_applied {current desired : Option (SlotMap .serial SerialPort)}
    (hplain : w.HasPlainKeys .serial stem) (h : ofWire w = .ok current)
    (hafter : w'.Follows .serials (placement.plan stem current desired) w) :
    ofWire w' = .ok (applied .empty current desired) :=
  Wire.slots_applied decode_text hplain h fun key hkey ↦
    hafter key (Setting.owner?_of_ofKey? rfl rfl hkey)

end families

/-! ## Tags -/

namespace Tags

/-- Where there is nothing to do, there are the tags that are asked for. -/
theorem getD_eq_of_plan {current : Option Tags} {desired : Tags}
    (h : plan current (some desired) = []) : current.getD .empty = desired := by
  simp only [plan] at h
  split at h
  · assumption
  · split at h <;> cases h

theorem ofWire_ne_empty {w : Wire} : ofWire w ≠ .ok (some .empty) := by
  intro h
  obtain ⟨tags, -, hfilter⟩ := map_eq_ok_iff.1 h
  cases (Option.filter_eq_some_iff.1 hfilter).2

/-- **Tags are applied exactly.** -/
theorem ofWire_applied {w w' : Wire} {current desired : Option Tags} (h : ofWire w = .ok current)
    (hafter : w'.Follows .tags (plan current desired) w) :
    ofWire w' = .ok (applied .empty current desired) := by
  cases desired with
  | none => exact (ofWire_congr (hafter key rfl)).trans h
  | some tags =>
    obtain ⟨after, hok, hplan⟩ := settles h hafter
    have hne : after ≠ some .empty := fun heq ↦ ofWire_ne_empty (heq ▸ hok)
    rw [hok, applied, ite_none_eq_iff.2 ⟨(getD_eq_of_plan hplan).symm, hne⟩]

end Tags

/-! ## Updates -/

/-- **PCI devices, USB devices, serial ports and tags are applied exactly.**  After an update, the
stored object has what was asked for, and where nothing was asked for, it has what it had. -/
theorem planUpdate_applies_collections {version : Version} {guest : GuestId} {w : Wire}
    {current desired : Configuration} {change : Change} (hplain : w.HasPlainSlots)
    (hcurrent : Configuration.ofWire w = .ok current)
    (hchange : (planUpdate version guest current desired).result = .ok change) :
    PciDevice.ofWire (change.applyTo w) =
        .ok (applied .empty current.pciDevices desired.pciDevices) ∧
      UsbDevice.ofWire (change.applyTo w) = .ok (applied .empty current.usbs desired.usbs) ∧
      SerialPort.ofWire (change.applyTo w) =
        .ok (applied .empty current.serials desired.serials) ∧
      Tags.ofWire (change.applyTo w) = .ok (applied .empty current.tags desired.tags) := by
  obtain ⟨-, -, rfl⟩ := planUpdate_eq_ok_iff.1 hchange
  have hw := Configuration.ofWire_eq_ok_iff.1 hcurrent
  have hfollows (s : Setting) := Configuration.follows (fun key ↦
    Draft.get?_applyTo_change (desired.plan version (some guest) (some current)) w key) s
  simp only [Configuration.planOnly_eq] at hfollows
  exact ⟨PciDevice.ofWire_applied hplain.pciDevices hw.pciDevices (hfollows .pciDevices),
    UsbDevice.ofWire_applied hplain.usbs hw.usbs (hfollows .usbs),
    SerialPort.ofWire_applied hplain.serials hw.serials (hfollows .serials),
    Tags.ofWire_applied hw.tags (hfollows .tags)⟩

/-- A guest with a PCI device, two USB devices, a serial port and tags. -/
def connectedGuest : Wire :=
  .ofList [("hostpci0", .text "0000:01:00.0,pcie=1"), ("serial0", .text "socket"),
    ("tags", .text "db web"), ("usb0", .text "host=1-2"), ("usb1", .text "spice")]

/-- What is asked for to add a PCI device, to take a USB device and the serial port away, and to
leave the tags alone. -/
def reconnectedGuest : Configuration where
  pciDevices := some (.ofList [
    (⟨0, by decide⟩, .raw ⟨"0000:01:00.0", by decide +kernel⟩ none { pcie := true }),
    (⟨1, by decide⟩, .mapping ⟨"gpu", by decide +kernel⟩ { primaryGpu := true })])
  usbs := some (.ofList [(⟨1, by decide⟩, ⟨.spice, false⟩)])
  serials := some .empty

theorem hasPlainSlots_connectedGuest : connectedGuest.HasPlainSlots where
  drives bus := by cases bus <;> decide +kernel
  networks := by decide +kernel
  addressing := by decide +kernel
  pciDevices := by decide +kernel
  serials := by decide +kernel
  usbs := by decide +kernel

/-- Only what differs is written, and yet everything is as it was asked for. -/
theorem planUpdate_applies_collections_of_reconnected :
    ∃ (current : Configuration) (change : Change),
      connectedGuest.HasPlainSlots ∧
      Configuration.ofWire connectedGuest = .ok current ∧
      (planUpdate ⟨8, 1, 0⟩ ⟨100, by decide, by decide⟩ current reconnectedGuest).result =
        .ok change ∧
      change.params.keys = ["hostpci1"] ∧ change.deleted = ["serial0", "usb0"] ∧
      PciDevice.ofWire (change.applyTo connectedGuest) = .ok reconnectedGuest.pciDevices ∧
      UsbDevice.ofWire (change.applyTo connectedGuest) = .ok reconnectedGuest.usbs ∧
      SerialPort.ofWire (change.applyTo connectedGuest) = .ok none ∧
      Tags.ofWire (change.applyTo connectedGuest) = .ok current.tags := by
  have h : ((Configuration.ofWire connectedGuest).toOption.bind fun current ↦
      (planUpdate ⟨8, 1, 0⟩ ⟨100, by decide, by decide⟩ current
        reconnectedGuest).result.toOption.bind fun change ↦
          some (change.params.keys, change.deleted)) =
      some (["hostpci1"], ["serial0", "usb0"]) := by decide +kernel
  obtain ⟨current, hcurrent, h⟩ := exists_of_toOption_bind h
  obtain ⟨change, hchange, hkeys⟩ := exists_of_toOption_bind h
  obtain ⟨hparams, hdeleted⟩ := Prod.mk.inj (Option.some.inj hkeys)
  obtain ⟨hpci, husbs, hserials, htags⟩ :=
    planUpdate_applies_collections hasPlainSlots_connectedGuest hcurrent hchange
  exact ⟨current, change, hasPlainSlots_connectedGuest, hcurrent, hchange, hparams, hdeleted, hpci,
    husbs, hserials, htags⟩

end GuestConfig
