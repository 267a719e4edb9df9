import GuestConfig.Proofs.Convergence
import GuestConfig.Proofs.Disk.Attachment
import GuestConfig.Proofs.Readable.CloudInit
import GuestConfig.Proofs.Readable.Drive

/-!
# Updates keep a guest readable, but for one kind of device

A stored object is read as a whole, and one value that cannot be read makes the guest unreadable:
no further update could be planned for it.  So the values that an update writes have to be readable,
and what is allowed into them is narrow enough for that nearly everywhere.  The exception is the
path of a block device of the host.  It may have a `=`, and it stands first in a list of options,
where an entry with a `=` is an option with a name.

Names of storages, image files and snippets are not checked, and here they are assumed to be plain.
The lists of options that are there already are assumed to have no second `=` in an option, since
such a value could be written again as what stands first.

## What is here

* `Wire.HasPlainLists`, `Configuration.HasPlainNames` — what is assumed.
* `Configuration.HasPlainPaths` — no device with a `=` in its path is asked for.
* `Configuration.exists_ofWire_iff` — **every setting stays readable exactly if that is so.**
* `planUpdate_readable_iff` — **an update leaves a guest readable exactly if it asks for no device
  with a `=` in its path**, and `planUpdate_loses_device`, an update that does ask for one.
-/

set_option autoImplicit false

namespace GuestConfig

open Text (isPathName isPlainName)

/-! ## What is assumed -/

/-- A stored object whose lists of options for the CPU and the drives have no second `=` in an
option, however the slots of the drives are spelled. -/
structure Wire.HasPlainLists (w : Wire) : Prop where
  cpu : w.HasPlainOptions Cpu.modelKey
  drive (bus : Bus) (slot : Slot bus.kind) (key : String) :
    Slot.ofKey? bus.stem key = some slot → w.HasPlainOptions key

/-- Only the keys that are there need to be looked at. -/
theorem Wire.hasPlainLists_of_forall {w : Wire} (h : ∀ e ∈ w.toList, w.HasPlainOptions e.1) :
    w.HasPlainLists := by
  have hplain (key : String) : w.HasPlainOptions key := by
    cases hv : w.get? key with
    | some v => exact h (key, v) (w.mem_toList_iff.2 hv)
    | none =>
      intro s hs
      obtain ⟨v, hv', -⟩ := field?_eq_some_iff.1 hs
      rw [hv] at hv'
      cases hv'
  exact ⟨hplain _, fun _ _ key _ ↦ hplain key⟩

namespace Configuration

/-- A configuration whose storages, image files and snippets have plain names. -/
structure HasPlainNames (desired : Configuration) : Prop where
  drive (bus : Bus) (slot : Slot bus.kind) (drive : Drive) :
    (((desired.disks.getD { }).onBus bus).getD .empty).get? slot = some drive →
      drive.HasPlainNames
  iso (image : IsoImage) : desired.iso = some image →
    isPlainName image.storage = true ∧ isPathName image.file = true
  custom (settings : CloudInit) (sections : CustomSections) :
    desired.cloudInit = some settings → settings.custom = some sections → sections.HasPlainNames
  tpm (tpm : Tpm) : desired.tpm = some tpm → isPlainName tpm.storage = true

/-- A configuration that asks for no device of the host with a `=` in its path. -/
def HasPlainPaths (desired : Configuration) : Prop :=
  ∀ (bus : Bus) (slot : Slot bus.kind) (device : Passthrough),
    (((desired.disks.getD { }).onBus bus).getD .empty).get? slot = some (.passthrough device) →
      '=' ∉ device.path.text.toList

/-! ## Settings that stay readable -/

/-- Devices of the host are asked for by their bus alone. -/
theorem hasPlainPaths_iff {version : Version} {current : Option Configuration}
    {desired : Configuration} (h : desired.validate version current = .ok ()) :
    desired.HasPlainPaths ↔ ∀ (bus : Bus) (slot : Slot bus.kind) (device : Passthrough),
      (desired.disks.getD { }).asked desired.iso bus slot = some (some (.passthrough device)) →
        '=' ∉ device.path.text.toList := by
  have hmedia := usesMediaSlot_of_validate h
  refine forall_congr' fun bus ↦ forall_congr' fun slot ↦ forall_congr' fun device ↦
    imp_congr_left ⟨fun hget ↦ ?_, fun hasked ↦ ?_⟩
  · rw [SortedMap.get?_getD_empty] at hget
    exact Disks.asked_of_get? hget hmedia
  · rcases Disks.asked_cases hasked with ⟨_, _, himage⟩ | hget
    · cases himage
    · exact hget

section settings

variable {version : Version} {guest : GuestId} {w w' : Wire} {current desired : Configuration}

/-- **Every setting stays readable exactly if no device with a `=` in its path is asked for.** -/
theorem exists_ofWire_iff (hcurrent : Holds w current) (hplain : w.HasPlainLists)
    (hnames : desired.HasPlainNames) (hvalid : desired.validate version (some current) = .ok ())
    (hafter : ∀ key, w'.get? key =
      ((desired.plan version (some guest) (some current)).effect key).applyTo (w.get? key)) :
    (∃ after, ofWire w' = .ok after) ↔ desired.HasPlainPaths := by
  have hfollows (s : Setting) := follows hafter s
  simp only [planOnly_eq] at hfollows
  have hdisks : (∃ after, Disks.ofWire w' = .ok after) ↔ desired.HasPlainPaths :=
    (Disks.exists_ofWire_iff hplain.drive hcurrent.disks (fun bus slot drive hasked ↦ by
      rcases Disks.asked_cases hasked with ⟨image, himage, rfl⟩ | hdrive
      · exact hnames.iso image himage
      · exact hnames.drive bus slot drive hdrive) (hfollows .disks)).trans
        (hasPlainPaths_iff hvalid).symm
  rw [← hdisks]
  constructor
  · rintro ⟨after, hafter⟩
    exact ⟨_, (ofWire_eq_ok_iff.1 hafter).disks⟩
  rintro ⟨disks, hdisks'⟩
  -- all other settings can be read in any case
  have hrules := validate_eq_ok_iff.1 hvalid
  obtain ⟨agent, hagent', -⟩ := Agent.settles hcurrent.agent (hfollows .agent)
  obtain ⟨cpu, hcpu', -⟩ := Cpu.settles hcurrent.cpu hplain.cpu hrules.cpu (hfollows .cpu)
  obtain ⟨memory, hmemory', -⟩ := Memory.settles hcurrent.memory hrules.memory (hfollows .memory)
  obtain ⟨tags, htags', -⟩ := Tags.settles hcurrent.tags (hfollows .tags)
  obtain ⟨tpm, htpm', -⟩ := Tpm.settles hcurrent.tpm hnames.tpm hrules.tpm (hfollows .tpm)
  obtain ⟨networks, hnetworks'⟩ := NetworkInterface.exists_ofWire hcurrent.networks
    (hfollows .networks)
  obtain ⟨cloudInit, hcloudInit'⟩ := CloudInit.exists_ofWire hcurrent.cloudInit hnames.custom
    hrules.cloudInit (hfollows .cloudInit)
  obtain ⟨pciDevices, hpciDevices'⟩ := Placement.exists_slots_byText PciDevice.decode_text
    hcurrent.pciDevices fun key hkey ↦
      hfollows .pciDevices key (Setting.owner?_of_ofKey? rfl rfl hkey)
  obtain ⟨serials, hserials'⟩ := Placement.exists_slots_byText SerialPort.decode_text
    hcurrent.serials fun key hkey ↦ hfollows .serials key (Setting.owner?_of_ofKey? rfl rfl hkey)
  obtain ⟨usbs, husbs'⟩ := Placement.exists_slots_byText UsbDevice.decode_text
    hcurrent.usbs fun key hkey ↦ hfollows .usbs key (Setting.owner?_of_ofKey? rfl rfl hkey)
  have hdescription := Wire.text?_settled hcurrent.description (hfollows .description _ rfl)
  have hname := Wire.checked?_settled hcurrent.name (hfollows .name _ rfl)
  have honBoot := Wire.flag?_settled hcurrent.onBoot (hfollows .onBoot _ rfl)
  have hisProtected := Wire.flag?_settled hcurrent.isProtected (hfollows .isProtected _ rfl)
  exact ⟨{
      agent := agent
      cloudInit := cloudInit
      cpu := cpu
      description := Draft.settled Value.ofNonempty current.description desired.description
      disks := disks
      memory := memory
      name := Draft.settled (fun name ↦ some (.ofChecked name)) current.name desired.name
      networks := networks
      onBoot := Draft.settled (fun b ↦ some (.ofFlag b)) current.onBoot desired.onBoot
      pciDevices := pciDevices
      isProtected :=
        Draft.settled (fun b ↦ some (.ofFlag b)) current.isProtected desired.isProtected
      serials := serials
      tags := tags
      tpm := tpm
      usbs := usbs },
    ofWire_eq_ok_iff.2 ⟨hagent', hcloudInit', hcpu', hdescription, hdisks', rfl, hmemory', hname,
      hnetworks', honBoot, hpciDevices', rfl, hisProtected, hserials', htags', htpm', husbs'⟩⟩

end settings

end Configuration

/-! ## Updates -/

/-- **An update leaves a guest readable exactly if it asks for no device of the host with a `=` in
its path.** -/
theorem planUpdate_readable_iff {version : Version} {guest : GuestId} {w : Wire}
    {current desired : Configuration} {change : Change} (hw : w.HasPlainLists)
    (hcurrent : Configuration.ofWire w = .ok current) (hdesired : desired.HasPlainNames)
    (hchange : (planUpdate version guest current desired).result = .ok change) :
    (∃ after, Configuration.ofWire (change.applyTo w) = .ok after) ↔ desired.HasPlainPaths := by
  obtain ⟨hvalid, -, rfl⟩ := planUpdate_eq_ok_iff.1 hchange
  exact Configuration.exists_ofWire_iff (Configuration.ofWire_eq_ok_iff.1 hcurrent) hw hdesired
    hvalid fun key ↦ Draft.get?_applyTo_change _ w key

/-- A guest whose disk is in a slot that is spelled with a zero in front. -/
def paddedGuest : Wire :=
  .ofList [("cpu", .text "cputype=host,flags=+aes"),
    ("scsi00", .text "local-lvm:vm-100-disk-0,size=32G")]

/-- What is asked for to give a guest one device of the host. -/
def deviceGuest (slot : Slot Bus.scsi.kind) (device : Passthrough) : Configuration where
  disks := some { scsi := some (.ofList [(slot, .passthrough device)]) }

theorem hasPlainLists_paddedGuest : paddedGuest.HasPlainLists :=
  Wire.hasPlainLists_of_forall (by decide +kernel)

theorem eq_passthrough_of_deviceGuest {own : Slot Bus.scsi.kind} {device : Passthrough} {bus : Bus}
    {slot : Slot bus.kind} {drive : Drive}
    (h : ((((deviceGuest own device).disks.getD { }).onBus bus).getD .empty).get? slot =
      some drive) :
    drive = .passthrough device := by
  cases bus with
  | scsi =>
    have hget : (SortedMap.ofList [(own, Drive.passthrough device)]).get? slot = some drive := h
    rw [SortedMap.get?_ofList] at hget
    obtain ⟨e, he, rfl⟩ := Option.map_eq_some_iff.1 hget
    obtain rfl := List.mem_singleton.1 (List.mem_reverse.1 (List.mem_of_find?_eq_some he))
    rfl
  | ide | sata | virtio => cases h

theorem hasPlainNames_deviceGuest (slot : Slot Bus.scsi.kind) (device : Passthrough) :
    (deviceGuest slot device).HasPlainNames where
  drive _ _ _ h := by
    rw [eq_passthrough_of_deviceGuest h]
    exact trivial
  iso _ h := (Option.some_ne_none _ h.symm).elim
  custom _ _ h := (Option.some_ne_none _ h.symm).elim
  tpm _ h := (Option.some_ne_none _ h.symm).elim

/-- A device by its number, without a `=`. -/
def plainDevice : Passthrough where
  path := ⟨"/dev/disk/by-id/ata-WDC_1", by decide +kernel⟩

/-- A device by its partition, with a `=`. -/
def partitionDevice : Passthrough where
  path := ⟨"/dev/disk/by-partlabel/role=data", by decide +kernel⟩

/-- A guest is still readable after its disk was replaced with a device. -/
theorem planUpdate_readable_iff_of_device :
    ∃ (current : Configuration) (change : Change) (after : Configuration),
      Configuration.ofWire paddedGuest = .ok current ∧
      (planUpdate ⟨8, 1, 0⟩ ⟨100, by decide, by decide⟩ current
        (deviceGuest ⟨0, by decide⟩ plainDevice)).result = .ok change ∧
      change.params.keys = ["scsi0"] ∧
      Configuration.ofWire (change.applyTo paddedGuest) = .ok after := by
  have h : ((Configuration.ofWire paddedGuest).toOption.bind fun current ↦
      (planUpdate ⟨8, 1, 0⟩ ⟨100, by decide, by decide⟩ current
        (deviceGuest ⟨0, by decide⟩ plainDevice)).result.toOption.bind fun change ↦
          some change.params.keys) =
      some ["scsi0"] := by decide +kernel
  obtain ⟨current, hcurrent, h⟩ := exists_of_toOption_bind h
  obtain ⟨change, hchange, hkeys⟩ := exists_of_toOption_bind h
  have hpaths : (deviceGuest ⟨0, by decide⟩ plainDevice).HasPlainPaths := by
    intro bus slot device hdevice
    rw [Drive.passthrough.inj (eq_passthrough_of_deviceGuest hdevice)]
    decide +kernel
  obtain ⟨after, hafter⟩ := (planUpdate_readable_iff hasPlainLists_paddedGuest hcurrent
    (hasPlainNames_deviceGuest _ _) hchange).2 hpaths
  exact ⟨current, change, after, hcurrent, hchange, Option.some.inj hkeys, hafter⟩

/-- A guest that has nothing yet cannot be read any more after it was given a device with a `=` in
its path. -/
theorem planUpdate_loses_device :
    Wire.HasPlainLists .empty ∧ (deviceGuest ⟨0, by decide⟩ partitionDevice).HasPlainNames ∧
      ∃ (current : Configuration) (change : Change),
        Configuration.ofWire .empty = .ok current ∧
        (planUpdate ⟨8, 1, 0⟩ ⟨100, by decide, by decide⟩ current
          (deviceGuest ⟨0, by decide⟩ partitionDevice)).result = .ok change ∧
        ¬∃ after, Configuration.ofWire (change.applyTo .empty) = .ok after := by
  have h : ((Configuration.ofWire .empty).toOption.bind fun current ↦
      (planUpdate ⟨8, 1, 0⟩ ⟨100, by decide, by decide⟩ current
        (deviceGuest ⟨0, by decide⟩ partitionDevice)).result.toOption.bind fun change ↦
          some (Configuration.ofWire (change.applyTo .empty)).toOption.isSome) =
      some false := by decide +kernel
  obtain ⟨current, hcurrent, h⟩ := exists_of_toOption_bind h
  obtain ⟨change, hchange, hnone⟩ := exists_of_toOption_bind h
  refine ⟨Wire.hasPlainLists_of_forall (by decide +kernel), hasPlainNames_deviceGuest _ _, current,
    change, hcurrent, hchange, ?_⟩
  rintro ⟨after, hafter⟩
  rw [hafter] at hnone
  cases hnone

end GuestConfig
