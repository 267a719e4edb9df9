import GuestConfig.Configuration
import GuestConfig.Proofs.Unread.OptionList

/-!
# The options that are read

Each field is decoded from its first entry and from the options with certain names.  Two lists of
options that agree on these decode to the same, or fail alike.

## What is here

* `Agent.optionNames` and so on — the names that the codec of a field asks for.
* `Agent.ofOptions_congr` and so on — **a field is decoded from these only.**
-/

set_option autoImplicit false

namespace GuestConfig

open OptionList (AgreesOn)

variable {a b : OptionList}

/-! ## Settings with a key of their own -/

/-- The options of the agent. -/
def Agent.optionNames : List String :=
  ["enabled", "type", "freeze-fs-on-backup", "fstrim_cloned_disks"]

theorem Agent.ofOptions_congr (h : AgreesOn optionNames a b) : ofOptions a = ofOptions b := by
  have henabled : readEnabled a = readEnabled b := by
    rw [readEnabled, readEnabled, h.leading?, h.flag? (by decide)]
  simp (disch := decide) only [ofOptions, henabled, h.token?, h.flag?]

/-- The options of the model of a CPU. -/
def Cpu.optionNames : List String :=
  ["cputype", "flags"]

theorem Cpu.readModel_congr (h : AgreesOn optionNames a b) : readModel a = readModel b := by
  rw [readModel, readModel, h.leading?, h.get? (by decide)]

/-- The options of the capacity of the memory. -/
def Memory.optionNames : List String :=
  ["current"]

theorem Memory.decodeCapacity_congr {s s' : String}
    (h : AgreesOn optionNames (.parse s) (.parse s')) : decodeCapacity s = decodeCapacity s' := by
  simp only [decodeCapacity, h.leading?, h.get? (by decide : "current" ∈ optionNames)]

/-- The options of the cloud-init documents. -/
def CustomSections.optionNames : List String :=
  ["meta", "network", "user", "vendor"]

theorem CustomSections.ofOptions_congr (h : AgreesOn optionNames a b) :
    ofOptions a = ofOptions b := by
  simp (disch := decide) only [ofOptions, decodeSection, h.decoded?]

/-- The options of the TPM. -/
def Tpm.optionNames : List String :=
  ["version"]

/-- A TPM that cannot be decoded is reported with its text, and so only one that can be is
decoded alike. -/
theorem Tpm.decode_congr {s s' : String} {tpm : Tpm}
    (h : AgreesOn optionNames (.parse s) (.parse s')) (hs : decode s' = .ok tpm) :
    decode s = .ok tpm := by
  simp only [decode, h.leading?, h.token? (by decide : "version" ∈ optionNames)] at hs ⊢
  split at hs
  · cases hs
  · exact hs

/-! ## Families -/

/-- The options of addresses. -/
def Addressing.optionNames : List String :=
  ["ip", "gw", "ip6", "gw6"]

theorem Addressing.ofOptions_congr (h : AgreesOn optionNames a b) : ofOptions a = ofOptions b := by
  simp (disch := decide) only [ofOptions, h.get?]

/-- The options of a network interface. -/
def NetworkInterface.optionNames : List String :=
  ["bridge", "firewall", "link_down", "mtu", "queues", "rate", "tag", "trunks"]

theorem NetworkInterface.decodeCard_congr (h : a.entries.head? = b.entries.head?) :
    decodeCard a = decodeCard b := by
  obtain ⟨as⟩ := a
  obtain ⟨bs⟩ := b
  cases as with
  | nil =>
    obtain rfl : bs = [] := List.head?_eq_none_iff.1 h.symm
    rfl
  | cons e as =>
    obtain ⟨bs, rfl⟩ := List.head?_eq_some_iff.1 h.symm
    obtain ⟨_ | _, _⟩ := e <;> rfl

theorem NetworkInterface.ofOptions_congr (h : AgreesOn optionNames a b) :
    ofOptions a = ofOptions b := by
  have hcard : decodeCard a = decodeCard b := decodeCard_congr h.head?_eq
  simp (disch := decide) only [ofOptions, hcard, h.read?, h.decoded?, h.flag?, h.word?]

/-- The options of a PCI device. -/
def PciDevice.optionNames : List String :=
  ["mapping", "host", "mdev", "device-id", "pcie", "x-vga", "rombar", "sub-device-id",
    "sub-vendor-id", "vendor-id"]

theorem PciDevice.ofOptions_congr (h : AgreesOn optionNames a b) : ofOptions a = ofOptions b := by
  simp (disch := decide) only [ofOptions, PciOptions.ofOptions, h.get?, h.leading?, h.checked?,
    h.flag?]

/-- The options of a USB device. -/
def UsbDevice.optionNames : List String :=
  ["mapping", "host", "usb3"]

theorem UsbDevice.ofOptions_congr (h : AgreesOn optionNames a b) : ofOptions a = ofOptions b := by
  simp (disch := decide) only [ofOptions, UsbSource.ofOptions, h.get?, h.leading?, h.flag?]

/-! ## Drives -/

/-- The options of the limits of a drive. -/
def Bandwidth.optionNames : List String :=
  ["iops_rd", "iops_rd_max", "iops_rd_max_length", "iops_wr", "iops_wr_max", "iops_wr_max_length",
    "mbps_rd", "mbps_rd_max", "mbps_wr", "mbps_wr_max"]

theorem Bandwidth.ofOptions_congr (h : ∀ name ∈ optionNames, a.get? name = b.get? name) :
    ofOptions a = ofOptions b := by
  simp (disch := decide) only [ofOptions, throughput?, OptionList.word?, OptionList.read?, h]

/-- The options that all drives with an image of their own have. -/
def DriveOptions.optionNames : List String :=
  ["aio", "backup", "cache", "discard", "ssd", "iothread", "ro", "replicate", "serial", "wwn"] ++
    Bandwidth.optionNames

/-- These options have names, so that it does not matter what stands first. -/
theorem DriveOptions.ofOptions_congr (h : ∀ name ∈ optionNames, a.get? name = b.get? name) :
    ofOptions a = ofOptions b := by
  have hbandwidth : Bandwidth.ofOptions a = Bandwidth.ofOptions b :=
    Bandwidth.ofOptions_congr fun name hname ↦ h name (List.mem_append_right _ hname)
  simp (disch := decide) only [ofOptions, hbandwidth, OptionList.token?, OptionList.flag?,
    OptionList.checked?, OptionList.read?, h]

/-- The options of a drive. -/
def Drive.optionNames : List String :=
  ["file", "media", "size", "format"] ++ DriveOptions.optionNames

theorem Drive.ofOptions_congr (h : AgreesOn optionNames a b) : ofOptions a = ofOptions b := by
  have hoptions : DriveOptions.ofOptions a = DriveOptions.ofOptions b :=
    DriveOptions.ofOptions_congr fun name hname ↦ h.get? (List.mem_append_right _ hname)
  have hformat : Disk.format? a = Disk.format? b := by
    rw [Disk.format?, Disk.format?, h.token? (by decide)]
  have hsize : IsoImage.size? a = IsoImage.size? b := h.decoded? (by decide) _
  have hcdrom (volume : String) : CdRom.ofVolume volume a = CdRom.ofVolume volume b := by
    simp only [CdRom.ofVolume, IsoImage.ofVolume, hsize]
  have hmedia (volume : String) : ofMedia volume a = ofMedia volume b := by
    simp only [ofMedia, hcdrom, Disk.formatOf, hformat]
  have hdisk (volume : String) : Disk.ofVolume volume a = Disk.ofVolume volume b := by
    simp (disch := decide) only [Disk.ofVolume, Disk.formatOf, hformat, hoptions, h.decoded?]
  simp (disch := decide) only [ofOptions, h.get?, h.leading?, hmedia, hdisk, hoptions]

end GuestConfig
