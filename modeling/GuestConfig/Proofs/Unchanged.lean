import GuestConfig.Proofs.CloudInit.Addressing
import GuestConfig.Proofs.Cpu.Flag
import GuestConfig.Proofs.Disk.Attachment
import GuestConfig.Proofs.Settling.CloudInit
import GuestConfig.Proofs.Settling.Cpu

/-!
# Nothing to do

A configuration that was decoded from a stored object is in effect already: asking for it plans
nothing.  What is compared differs from setting to setting, and so does the reason.  Most settings
are laid over themselves without a change.  The addressing of an interface is not, since asking for
DHCP drops the gateway; but the rules have no gateway beside DHCP.  Interfaces and the TPM are not
asked to go away by what was decoded, and a disk knows its volume.

## What is here

* `Addressing.text_laidOver_self` — addressing that is in order keeps its text.
* `Disk.isAttached_of_ofVolume`, `NetworkInterface.delete_of_decode`, `Tpm.delete_of_decode` — what
  holds of everything that was decoded.
* `Drive.replace_self` and one such lemma for every setting — a setting stays as it is.
* `planUpdate_self` — **a decoded configuration has no difference to itself.**
-/

set_option autoImplicit false

namespace GuestConfig

/-! ## Settings without a condition -/

theorem CpuFlags.laidOver_self (flags : CpuFlags) : flags.laidOver flags = flags :=
  SortedMap.ext fun flag ↦ by rw [get?_laidOver, Option.or_self]

@[simp] theorem Placement.byText_place_self {α : Type} (text : α → String)
    (plugReboot changeReboot : Bool) (key : String) (device : α) :
    (byText text plugReboot changeReboot).place key (some device) device = [] := by
  simp [byText]

theorem Agent.plan_self (agent : Agent) : plan (some agent) agent = [] := by
  simp [plan]

theorem Memory.plan_self (memory : Memory) : plan (some memory) memory = [] := by
  cases hshares : memory.shares <;> simp [plan, hshares]

theorem Tags.plan_self (tags : Option Tags) : plan tags tags = [] := by
  cases tags <;> simp [plan]

theorem CloudInit.planCustom_self (sections : Option CustomSections) :
    planCustom sections sections = [] := by
  cases sections <;> simp [planCustom]

/-- A model whose name is known, and features, stay as they are. -/
theorem Cpu.planModel_self {version : Version} {cpu : Cpu}
    (h : ∀ name, cpu.model = some name → ∃ proper, CpuModel.canonical name version = .ok proper) :
    planModel version cpu cpu = [] := by
  have hflags : (cpu.flags.getD .empty).laidOver (cpu.flags.getD .empty) = cpu.flags.getD .empty :=
    CpuFlags.laidOver_self _
  unfold planModel
  cases hmodel : cpu.model with
  | none =>
    dsimp only
    split
    · rfl
    · simp [planModelText, hmodel, hflags]
  | some name =>
    obtain ⟨proper, hproper⟩ := h name hmodel
    have hname : properModel version name = proper := by rw [properModel, hproper]
    simp [planModelText, hmodel, hproper, hname, hflags]

theorem Cpu.planAffinity_self (affinity : Option Affinity) :
    planAffinity affinity affinity = [] := by
  cases affinity <;> simp [planAffinity]

/-! ## Settings that the rules keep from changing -/

/-- **Addressing that is in order keeps its text** when it is laid over itself. -/
theorem Addressing.text_laidOver_self {a : Addressing} (h : a.validate = .ok ()) :
    (a.laidOver a).text = a.text := by
  simp only [validate, bind_unit_eq_ok_iff, require_eq_ok_iff, Bool.not_eq_true',
    Bool.and_eq_false_iff, Option.isSome_eq_false_iff, Option.isNone_iff_eq_none] at h
  obtain ⟨-, hgateway4, -, hgateway6, -⟩ := h
  -- an automatic way drops the gateway, but beside it the rules have none
  have h4 : (a.over4 a).ipv4Mode? = a.ipv4Mode? ∧
      nonempty? (a.over4 a).ipv4Gateway = nonempty? a.ipv4Gateway := by
    unfold over4
    split
    · next hdhcp =>
      have hnone := hgateway4.resolve_left (by simp [hdhcp])
      exact ⟨by simp [ipv4Mode?, hdhcp], by rw [hnone]; rfl⟩
    · next hdhcp => simp [ipv4Mode?, hdhcp]
  have h6 : (a.over6 a).ipv6Mode? = a.ipv6Mode? ∧
      nonempty? (a.over6 a).ipv6Gateway = nonempty? a.ipv6Gateway := by
    unfold over6
    split
    · next hauto =>
      have hnone := hgateway6.resolve_left (by simp [hauto])
      refine ⟨?_, by rw [hnone]; rfl⟩
      cases hdhcp : a.ipv6Dhcp <;> cases hslaac : a.ipv6Slaac <;> simp_all [ipv6Mode?]
    · next hauto =>
      have hauto : a.ipv6Dhcp = false ∧ a.ipv6Slaac = false := by simpa using hauto
      simp [ipv6Mode?, hauto]
  exact text_congr ((ipv4Mode?_over6 a _).trans h4.1)
    ((congrArg nonempty? (ipv4Gateway_over6 a _)).trans h4.2)
    ((ipv6Mode?_over6_over4 a a a).trans h6.1)
    ((congrArg nonempty? (ipv6Gateway_over6_over4 a a a)).trans h6.2)

/-! ## What was decoded -/

theorem NetworkInterface.delete_of_decode {s : String} {interface : NetworkInterface}
    (h : decode s = .ok interface) : interface.delete = false := by
  simp only [decode, ofOptions, bind_eq_ok_iff, pure_eq_ok_iff] at h
  obtain ⟨card, -, vlans, -, rate, -, bridge, -, link, -, firewall, -, mtu, -, queues, -, vlan, -,
    rfl⟩ := h
  rfl

theorem Tpm.delete_of_decode {s : String} {tpm : Tpm} (h : decode s = .ok tpm) :
    tpm.delete = false := by
  simp only [decode] at h
  split at h
  · cases h
  · obtain ⟨version, -, h⟩ := bind_eq_ok_iff.1 h
    obtain rfl := pure_eq_ok_iff.1 h
    rfl

/-- An interface that is not asked to go away stays as it is. -/
theorem NetworkInterface.place_self {key : String} {interface : NetworkInterface}
    (h : interface.delete = false) : placement.place key (some interface) interface = [] := by
  have hself : interface.laidOver interface = interface := by
    rw [laidOver, MacAddress.laidOver_self, ← h]
    simp
  simp [placement, place, h, hself]

/-- **A drive of an existing guest stays as it is**, if it knows its volume in case it is a
disk. -/
theorem Drive.replace_self {bus : Bus} {guest : GuestId} {key : String} {drive : Drive}
    (h : ∀ disk, drive = .disk disk → disk.volume.isSome ∨ disk.id.isSome) :
    replace bus (some guest) key drive drive = [] := by
  cases drive with
  | cdrom media => simp [replace]
  | cloudInit drive => simp [replace]
  | passthrough device => simp [replace]
  | disk disk =>
    obtain ⟨volume, hvolume⟩ : ∃ volume,
        disk.attached? (some guest) (disk.namingOver disk) = some volume := by
      cases hv : disk.volume with
      | some volume => exact ⟨volume, by simp [Disk.attached?, hv]⟩
      | none =>
        obtain ⟨id, hid⟩ := Option.isSome_iff_exists.1 ((h disk rfl).resolve_left (by simp [hv]))
        exact ⟨_, by simp [Disk.attached?, hv, hid]; rfl⟩
    have hsize : min disk.size disk.size = disk.size := ite_self _
    simp [replace, Disk.revise, Disk.volumes?, hvolume, hsize, setIf]

theorem Tpm.plan_self {tpm : Tpm} (h : tpm.delete = false) : plan (some tpm) tpm = [] := by
  simp [plan, h]

/-! ## Settings with several parts -/

theorem CloudInit.plan_self {settings : CloudInit}
    (h : ∀ addressing, settings.addressing = some addressing →
      ∀ slot a, addressing.get? slot = some a → a.validate = .ok ()) :
    plan (some settings) settings = [] := by
  have haddressing : addressingPlacement.plan addressingStem settings.addressing
      settings.addressing = [] :=
    Placement.plan_self fun addressing hsome slot a ha ↦ by
      have htext := Addressing.text_laidOver_self (h addressing hsome slot a ha)
      simp [addressingPlacement, htext]
  simp [plan, planDns, planCustom_self, haddressing]

theorem Cpu.plan_self {version : Version} {cpu : Cpu}
    (h : ∀ name, cpu.model = some name → ∃ proper, CpuModel.canonical name version = .ok proper) :
    plan version (some cpu) cpu = [] := by
  simp [plan, planAffinity_self, planModel_self h]

theorem Disks.plan_self {w : Wire} {disks : Option Disks} (h : ofWire w = .ok disks)
    (guest : GuestId) : plan (some guest) disks disks none = [] := by
  have hbus (bus : Bus) : (Drive.placement bus (some guest)).plan bus.stem
      ((disks.getD { }).onBus bus) ((disks.getD { }).onBus bus) = [] := by
    refine Placement.plan_self fun drives hdrives slot drive hdrive ↦ ?_
    have hslots := (ofWire_eq_ok_iff.1 h).1 bus
    rw [hdrives] at hslots
    obtain ⟨s, hs⟩ := Wire.exists_decode_of_slots hslots hdrive
    refine Drive.replace_self fun disk hdisk ↦ ?_
    obtain ⟨volume, -, -, -, hvolume⟩ := Drive.ofOptions_eq_disk_iff.1 (hdisk ▸ hs)
    exact Disk.isAttached_of_ofVolume hvolume
  have hide : planIde (some guest) (disks.getD { }).ide (disks.getD { }).ide none = [] :=
    (planIde_none _ _ _).trans (hbus .ide)
  rw [plan, hide, List.nil_append, List.flatMap_eq_nil_iff]
  exact fun bus _ ↦ hbus bus

/-! ## The whole configuration -/

namespace Configuration

private theorem elim_plan_self {α : Type} {setting : Option α} {plan : Option α → α → Draft}
    (h : ∀ a, setting = some a → plan (some a) a = []) : setting.elim [] (plan setting) = [] := by
  cases setting with
  | none => rfl
  | some a => exact h a rfl

/-- There are no steps from a configuration that was decoded and is in order to itself. -/
theorem plan_self {version : Version} {guest : GuestId} {w : Wire} {c : Configuration}
    (hc : ofWire w = .ok c) (hvalid : c.validate version (some c) = .ok ()) :
    c.plan version (some guest) (some c) = [] := by
  have hc := ofWire_eq_ok_iff.1 hc
  have hvalid := validate_eq_ok_iff.1 hvalid
  have hcpu : c.cpu.elim [] (Cpu.plan version c.cpu) = [] := elim_plan_self fun cpu hsome ↦
    Cpu.plan_self fun _ ↦ Cpu.exists_canonical_of_validate (hvalid.cpu cpu hsome)
  have hcloudInit : c.cloudInit.elim [] (CloudInit.plan c.cloudInit) = [] :=
    elim_plan_self fun settings hsome ↦
      CloudInit.plan_self (CloudInit.addressing_of_validate (hvalid.cloudInit settings hsome))
  have hnetworks : NetworkInterface.placement.plan NetworkInterface.stem c.networks c.networks =
      [] :=
    Placement.plan_self fun devices hsome slot interface hget ↦ by
      have hslots := hc.networks
      rw [hsome] at hslots
      obtain ⟨s, hs⟩ := Wire.exists_decode_of_slots hslots hget
      exact NetworkInterface.place_self (NetworkInterface.delete_of_decode hs)
  have htpm : c.tpm.elim [] (Tpm.plan c.tpm) = [] := elim_plan_self fun tpm hsome ↦ by
    have hdecoded := hc.tpm
    rw [hsome] at hdecoded
    obtain ⟨v, s, -, -, -, hs⟩ := Wire.decoded?_eq_some_iff.1 hdecoded
    exact Tpm.plan_self (Tpm.delete_of_decode hs)
  have hagent : c.agent.elim [] (Agent.plan c.agent) = [] :=
    elim_plan_self fun agent _ ↦ agent.plan_self
  have hmemory : c.memory.elim [] (Memory.plan c.memory) = [] :=
    elim_plan_self fun memory _ ↦ memory.plan_self
  have hpci : PciDevice.placement.plan PciDevice.stem c.pciDevices c.pciDevices = [] :=
    Placement.plan_self fun _ _ _ _ _ ↦ Placement.byText_place_self _ _ _ _ _
  have hserials : SerialPort.placement.plan SerialPort.stem c.serials c.serials = [] :=
    Placement.plan_self fun _ _ _ _ _ ↦ Placement.byText_place_self _ _ _ _ _
  have husbs : UsbDevice.placement.plan UsbDevice.stem c.usbs c.usbs = [] :=
    Placement.plan_self fun _ _ _ _ _ ↦ Placement.byText_place_self _ _ _ _ _
  have hdisks : Disks.plan (some guest) c.disks c.disks c.iso = [] := by
    rw [hc.iso]
    exact Disks.plan_self hc.disks guest
  simp only [plan, Option.getD_some, hagent, hcloudInit, hcpu, Draft.setting_self, hdisks, hmemory,
    hnetworks, hpci, hc.pool, planPool_none, hserials, Tags.plan_self, htpm, husbs,
    List.append_nil]

end Configuration

/-- **A decoded configuration has no difference to itself.**  If it is in order on top of itself,
asking for it sets nothing, deletes nothing and needs no reboot. -/
theorem planUpdate_self {version : Version} {guest : GuestId} {w : Wire} {c : Configuration}
    (hc : Configuration.ofWire w = .ok c) (hvalid : c.validate version (some c) = .ok ()) :
    (planUpdate version guest c c).result = .ok ⟨.empty, [], false⟩ := by
  refine planUpdate_eq_ok_iff.2 ⟨hvalid, ?_⟩
  rw [Configuration.plan_self hc hvalid]
  exact ⟨rfl, rfl⟩

/-- A guest with an agent, an interface that DHCP sets up, a disk and a TPM. -/
theorem planUpdate_self_of_dhcp :
    ∃ c : Configuration,
      Configuration.ofWire (.ofList [("agent", .text "enabled=1"), ("cpu", .text "cputype=host"),
        ("ipconfig0", .text "ip=dhcp,ip6=auto"), ("net0", .text "virtio=AA:BB:CC:DD:EE:FF,rate=0"),
        ("scsi0", .text "local-lvm:vm-101-disk-0,size=32G"),
        ("tpmstate0", .text "local-lvm:vm-100-disk-1")]) = .ok c ∧
      c.validate ⟨8, 1, 0⟩ (some c) = .ok () ∧
      (planUpdate ⟨8, 1, 0⟩ ⟨100, by decide, by decide⟩ c c).result = .ok ⟨.empty, [], false⟩ := by
  have h : ((Configuration.ofWire (.ofList [("agent", .text "enabled=1"),
        ("cpu", .text "cputype=host"), ("ipconfig0", .text "ip=dhcp,ip6=auto"),
        ("net0", .text "virtio=AA:BB:CC:DD:EE:FF,rate=0"),
        ("scsi0", .text "local-lvm:vm-101-disk-0,size=32G"),
        ("tpmstate0", .text "local-lvm:vm-100-disk-1")])).toOption.bind fun c ↦
      (c.validate ⟨8, 1, 0⟩ (some c)).toOption) = some () := by decide +kernel
  obtain ⟨c, hc, h⟩ := exists_of_toOption_bind h
  have hvalid := toOption_eq_some_iff.1 h
  exact ⟨c, hc, hvalid, planUpdate_self hc hvalid⟩

end GuestConfig
