import GuestConfig.Proofs.Commutation
import GuestConfig.Proofs.Settling.CloudInit
import GuestConfig.Proofs.Settling.Cpu
import GuestConfig.Proofs.Settling.Device
import GuestConfig.Proofs.Settling.Drive
import GuestConfig.Proofs.Settling.Guest
import GuestConfig.Proofs.Settling.Network

/-!
# Updates converge in one step

Once an update is stored, what is stored can be decoded again, and asking for the same configuration
once more changes nothing.  This is not a matter of course: what is written is compared with what is
read, and a value that reads back as another one would be written again with every update.

Every setting is settled on its own, since an update stores under the keys of a setting what that
setting asks for.  What is left here is to put the settings together, and to see that what was in
order on top of the old configuration is in order on top of the new one.

## What is here

* `Wire.IsPlain` — stored objects whose slots are spelled plainly, and whose lists of options have
  no second `=` in an option.
* `Configuration.IsStorable` — configurations that can be stored as they are.
* `Configuration.exists_settled` — **every setting is settled**, and as much in order as before.
* `planUpdate_converges` — **updates converge in one step.**
-/

set_option autoImplicit false

namespace GuestConfig

open Text (isPlainName)

/-- A stored object whose slots are spelled plainly, and whose lists of options for the CPU and the
drives have no second `=` in an option. -/
structure Wire.IsPlain (w : Wire) : Prop where
  drives (bus : Bus) : w.HasPlainKeys bus.kind bus.stem
  networks : w.HasPlainKeys .network NetworkInterface.stem
  addressing : w.HasPlainKeys .network CloudInit.addressingStem
  pciDevices : w.HasPlainKeys .pci PciDevice.stem
  serials : w.HasPlainKeys .serial SerialPort.stem
  usbs : w.HasPlainKeys .usb UsbDevice.stem
  cpuOptions : w.HasPlainOptions Cpu.modelKey
  driveOptions (bus : Bus) (slot : Slot bus.kind) : w.HasPlainOptions (slot.key bus.stem)

namespace Configuration

/-- A configuration that can be stored as it is on top of another one. -/
structure IsStorable (desired current : Configuration) : Prop where
  cloudInit (settings : CloudInit) : desired.cloudInit = some settings → settings.IsStorable
  disks : (desired.disks.getD { }).IsStorable desired.iso (current.disks.getD { })
  tpm (tpm : Tpm) : desired.tpm = some tpm → isPlainName tpm.storage = true

/-- Nothing is done about the pool of a guest that exists. -/
theorem planPool_some (guest : GuestId) (pool : Option PoolName) :
    (planPool (some guest) pool).refusal? = none ∧
      (planPool (some guest) pool).change = ⟨.empty, [], false⟩ := by
  cases pool <;> exact ⟨rfl, rfl⟩

/-- Which slots have an interface depends on the current interfaces only where none are asked
for. -/
theorem hasInterface_congr {current after desired : Configuration}
    (h : desired.networks = none → after.networks = current.networks) (slot : Slot .network) :
    hasInterface (some after) desired slot = hasInterface (some current) desired slot := by
  unfold hasInterface
  cases hnetworks : desired.networks with
  | none => simp [h hnetworks]
  | some networks => rfl

/-- What the rules say about a configuration on top of another one: all that depends on the
other one is said by the rules of the CPU, the memory, the interfaces and the TPM, and by which
slots have interfaces. -/
theorem validate_congr {version : Version} {current after desired : Configuration}
    (hvalid : desired.validate version (some current) = .ok ())
    (hcpu : ∀ cpu, desired.cpu = some cpu → cpu.validate version after.cpu = .ok ())
    (hmemory : ∀ memory, desired.memory = some memory → memory.validate after.memory = .ok ())
    (hnetworks : ∀ networks, desired.networks = some networks → ∀ slot interface,
      networks.get? slot = some interface →
        interface.validate slot (after.networks.bind (·.get? slot)) = .ok ())
    (hinterfaces : desired.networks = none → after.networks = current.networks)
    (htpm : ∀ tpm, desired.tpm = some tpm → tpm.validate after.tpm = .ok ()) :
    desired.validate version (some after) = .ok () := by
  have hrules := validate_eq_ok_iff.1 hvalid
  refine validate_eq_ok_iff.2 { hrules with
    cpu := hcpu
    memory := hmemory
    networks := hnetworks
    addressing := fun settings hsettings addressing haddressing slot hslot ↦ ?_
    tpm := htpm }
  rw [hasInterface_congr hinterfaces]
  exact hrules.addressing settings hsettings addressing haddressing slot hslot

section settling

variable {version : Version} {guest : GuestId} {w w' : Wire} {current desired : Configuration}

/-- The keys of every setting are as its steps leave them. -/
theorem follows (hafter : ∀ key, w'.get? key =
      ((desired.plan version (some guest) (some current)).effect key).applyTo (w.get? key))
    (s : Setting) : w'.Follows s (planOnly version (some guest) current desired s) w :=
  fun key hkey ↦ by rw [hafter key, effect_plan, hkey]

theorem follows_applyTo {change : Change}
    (hchange : (planUpdate version guest current desired).result = .ok change) (w : Wire)
    (s : Setting) :
    (change.applyTo w).Follows s (planOnly version (some guest) current desired s) w := by
  obtain ⟨-, -, rfl⟩ := planUpdate_eq_ok_iff.1 hchange
  exact follows (Draft.get?_applyTo_change _ w) s

theorem refusal?_planOnly
    (h : (desired.plan version (some guest) (some current)).refusal? = none) (s : Setting) :
    (planOnly version (some guest) current desired s).refusal? = none := by
  rw [plan_eq_flatMap, Draft.refusal?_flatMap_eq_none_iff] at h
  exact h s s.mem_all

/-- **Every setting is settled**, and what is asked for is as much in order as before. -/
theorem exists_settled (hcurrent : Holds w current) (hplain : w.IsPlain)
    (hstorable : desired.IsStorable current)
    (hvalid : desired.validate version (some current) = .ok ())
    (hrefusal : (desired.plan version (some guest) (some current)).refusal? = none)
    (hafter : ∀ key, w'.get? key =
      ((desired.plan version (some guest) (some current)).effect key).applyTo (w.get? key)) :
    ∃ after, Holds w' after ∧ desired.validate version (some after) = .ok () ∧
      desired.plan version (some guest) (some after) = planPool (some guest) desired.pool := by
  have hfollows (s : Setting) := follows hafter s
  simp only [planOnly_eq] at hfollows
  have hrules := validate_eq_ok_iff.1 hvalid
  obtain ⟨agent, hagent', hagentNil⟩ := Agent.settles hcurrent.agent (hfollows .agent)
  obtain ⟨cpu, hcpu', hcpuNil, hcpuRules⟩ := Cpu.settles hcurrent.cpu hplain.cpuOptions
    hrules.cpu (hfollows .cpu)
  obtain ⟨memory, hmemory', hmemoryNil, hmemoryRules⟩ := Memory.settles hcurrent.memory
    hrules.memory (hfollows .memory)
  obtain ⟨tags, htags', htagsNil⟩ := Tags.settles hcurrent.tags (hfollows .tags)
  obtain ⟨tpm, htpm', htpmNil, htpmRules⟩ := Tpm.settles hcurrent.tpm hstorable.tpm
    hrules.tpm (hfollows .tpm)
  obtain ⟨networks, hnetworks', hnetworksNil, hnetworksRules⟩ := NetworkInterface.settles
    hplain.networks hcurrent.networks hrules.networks (hfollows .networks)
  obtain ⟨cloudInit, hcloudInit', hcloudInitNil⟩ := CloudInit.settles hcurrent.cloudInit
    hplain.addressing hstorable.cloudInit hrules.cloudInit (hfollows .cloudInit)
  obtain ⟨disks, hdisks', hdisksNil⟩ := Disks.settles hplain.drives hplain.driveOptions
    hcurrent.disks hstorable.disks hrules.disks
    (by simpa only [planOnly_eq] using refusal?_planOnly hrefusal .disks) (hfollows .disks)
  obtain ⟨pciDevices, hpciDevices', hpciDevicesNil⟩ :=
    PciDevice.settles hplain.pciDevices hcurrent.pciDevices (hfollows .pciDevices)
  obtain ⟨serials, hserials', hserialsNil⟩ :=
    SerialPort.settles hplain.serials hcurrent.serials (hfollows .serials)
  obtain ⟨usbs, husbs', husbsNil⟩ := UsbDevice.settles hplain.usbs hcurrent.usbs (hfollows .usbs)
  have hdescription := Wire.text?_settled hcurrent.description (hfollows .description _ rfl)
  have hname := Wire.checked?_settled hcurrent.name (hfollows .name _ rfl)
  have honBoot := Wire.flag?_settled hcurrent.onBoot (hfollows .onBoot _ rfl)
  have hisProtected := Wire.flag?_settled hcurrent.isProtected (hfollows .isProtected _ rfl)
  have hinterfaces (hnone : desired.networks = none) : networks = current.networks := by
    have hkeys := hfollows .networks
    dsimp only at hkeys
    rw [hnone] at hkeys
    have hsame := NetworkInterface.ofWire_of_follows_nil hkeys
    exact Except.ok.inj (hnetworks'.symm.trans (hsame.trans hcurrent.networks))
  refine ⟨{
      agent := agent
      cloudInit := cloudInit
      cpu := cpu
      description := Draft.settled Value.ofNonempty current.description desired.description
      disks := disks
      memory := memory
      name := Draft.settled (fun name ↦ some (.ofChecked name)) current.name desired.name
      networks := networks
      onBoot := Draft.settled (fun b ↦ some (.ofFlag b)) current.onBoot desired.onBoot
      pciDevices := pciDevices
      isProtected :=
        Draft.settled (fun b ↦ some (.ofFlag b)) current.isProtected desired.isProtected
      serials := serials
      tags := tags
      tpm := tpm
      usbs := usbs },
    ⟨hagent', hcloudInit', hcpu', hdescription, hdisks', rfl, hmemory', hname, hnetworks', honBoot,
      hpciDevices', rfl, hisProtected, hserials', htags', htpm', husbs'⟩,
    validate_congr hvalid hcpuRules hmemoryRules hnetworksRules hinterfaces htpmRules, ?_⟩
  simp only [plan, Option.getD_some, hagentNil, hcloudInitNil, hcpuNil, Draft.setting_settled,
    hdisksNil, hmemoryNil, hnetworksNil, hpciDevicesNil, hserialsNil, htagsNil, htpmNil, husbsNil,
    List.nil_append, List.append_nil]

end settling

end Configuration

/-! ## Updates -/

/-- **Updates converge in one step.**  What is stored by an update can be decoded, and asking for
the same configuration once more sets nothing, deletes nothing and needs no reboot. -/
theorem planUpdate_converges {version : Version} {guest : GuestId} {w : Wire}
    {current desired : Configuration} {change : Change} (hw : w.IsPlain)
    (hcurrent : Configuration.ofWire w = .ok current) (hdesired : desired.IsStorable current)
    (hchange : (planUpdate version guest current desired).result = .ok change) :
    ∃ after, Configuration.ofWire (change.applyTo w) = .ok after ∧
      (planUpdate version guest after desired).result = .ok ⟨.empty, [], false⟩ := by
  obtain ⟨hvalid, hrefusal, rfl⟩ := planUpdate_eq_ok_iff.1 hchange
  obtain ⟨after, hafter, hvalidAfter, hplan⟩ := Configuration.exists_settled
    (Configuration.ofWire_eq_ok_iff.1 hcurrent) hw hdesired hvalid hrefusal
    fun key ↦ Draft.get?_applyTo_change _ w key
  refine ⟨after, Configuration.ofWire_eq_ok_iff.2 hafter, planUpdate_eq_ok_iff.2 ⟨hvalidAfter, ?_⟩⟩
  rw [hplan]
  exact Configuration.planPool_some guest desired.pool

/-- A guest with a disk, an interface and cloud-init settings. -/
def storedGuest : Wire :=
  .ofList [("agent", .text "1"), ("cpu", .text "cputype=host"), ("ipconfig0", .text "ip=dhcp"),
    ("memory", .int 512), ("net0", .text "virtio=AA:BB:CC:DD:EE:FF,bridge=vmbr0"),
    ("scsi1", .text "local-lvm:vm-100-disk-0,size=32G")]

/-- A disk of 16 GiB that is write-protected. -/
def shrunkDisk : Disk where
  storage := "local-lvm"
  size := 16777216
  options := { readOnly := true }

/-- What is asked for to shrink and write-protect the disk, and to give the guest more memory. -/
def shrunkGuest : Configuration where
  disks := some { scsi := some (.ofList [(⟨1, by decide⟩, .disk shrunkDisk)]) }
  memory := some { capacity := some 1024 }
  isProtected := some true

theorem isPlain_storedGuest : storedGuest.IsPlain where
  drives bus := by cases bus <;> decide +kernel
  networks := by decide +kernel
  addressing := by decide +kernel
  pciDevices := by decide +kernel
  serials := by decide +kernel
  usbs := by decide +kernel
  cpuOptions := by decide +kernel
  driveOptions bus slot := by
    have h : ∀ bus ∈ Bus.all, ∀ slot ∈ Slot.all bus.kind,
        storedGuest.HasPlainOptions (slot.key bus.stem) := by decide +kernel
    exact h bus (by cases bus <;> decide) slot slot.mem_all

theorem isStorable_shrunkGuest (current : Configuration) : shrunkGuest.IsStorable current := by
  have hdrives : (shrunkGuest.disks.getD { }).drives = [(.scsi, "scsi1", .disk shrunkDisk)] := by
    decide +kernel
  have hdrive {bus : Bus} {slot : Slot bus.kind} {drive : Drive}
      (h : (((shrunkGuest.disks.getD { }).onBus bus).getD .empty).get? slot = some drive) :
      drive = .disk shrunkDisk := by
    have hmem := Disks.mem_drives h
    rw [hdrives, List.mem_singleton] at hmem
    exact (Prod.mk.inj (Prod.mk.inj hmem).2).2
  refine ⟨fun _ h ↦ (Option.some_ne_none _ h.symm).elim,
    ⟨fun bus slot drive h ↦ ?_, fun _ h ↦ (Option.some_ne_none _ h.symm).elim,
      fun bus slot image h hid ↦ ?_⟩,
    fun _ h ↦ (Option.some_ne_none _ h.symm).elim⟩
  · have hplain : isPlainName shrunkDisk.storage = true := by decide +kernel
    rw [hdrive h]
    exact hplain
  · rw [Drive.disk.inj (hdrive h)] at hid
    cases hid

/-- A disk is shrunk and write-protected, and a guest is given more memory. -/
theorem planUpdate_converges_of_shrink :
    ∃ (current : Configuration) (change : Change) (after : Configuration),
      Configuration.ofWire storedGuest = .ok current ∧
      (planUpdate ⟨8, 1, 0⟩ ⟨100, by decide, by decide⟩ current shrunkGuest).result = .ok change ∧
      change.params.keys = ["memory", "protection", "scsi1"] ∧
      Configuration.ofWire (change.applyTo storedGuest) = .ok after ∧
      (planUpdate ⟨8, 1, 0⟩ ⟨100, by decide, by decide⟩ after shrunkGuest).result =
        .ok ⟨.empty, [], false⟩ := by
  have h : ((Configuration.ofWire storedGuest).toOption.bind fun current ↦
      (planUpdate ⟨8, 1, 0⟩ ⟨100, by decide, by decide⟩ current shrunkGuest).result.toOption.bind
        fun change ↦ some change.params.keys) =
      some ["memory", "protection", "scsi1"] := by decide +kernel
  obtain ⟨current, hcurrent, h⟩ := exists_of_toOption_bind h
  obtain ⟨change, hchange, hkeys⟩ := exists_of_toOption_bind h
  obtain ⟨after, hafter, hnothing⟩ := planUpdate_converges isPlain_storedGuest hcurrent
    (isStorable_shrunkGuest current) hchange
  exact ⟨current, change, after, hcurrent, hchange, Option.some.inj hkeys, hafter, hnothing⟩

end GuestConfig
