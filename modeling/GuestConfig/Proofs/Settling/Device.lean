import GuestConfig.Pci
import GuestConfig.Proofs.OptionList
import GuestConfig.Proofs.Outcome
import GuestConfig.Proofs.Wire.Settling
import GuestConfig.Serial
import GuestConfig.Usb

/-!
# Devices that were planned are settled

PCI devices, USB devices and serial ports are written as a whole and compared by their text.  Every
text that can occur in such a device is a word, so that the device decodes to itself.

## What is here

* `isWord_pciAddress`, `isWord_mappingName`, … — the texts in a device are words.
* `PciDevice.decode_text`, `UsbDevice.decode_text` — **a device reads back.**
* `PciDevice.settles`, `SerialPort.settles`, `UsbDevice.settles` — **the devices are settled.**
-/

set_option autoImplicit false

namespace GuestConfig

open OptionList (get?_append get?_flag get?_nil get?_optional get?_pair get?_positional
  get?_unsetFlag isCleanValue_of_isWord isClean_append isClean_flag isClean_optional_map
  isClean_pair isClean_positional isClean_unsetFlag parse_text_of_isClean)
open Text (all_of_splitOn all_of_splitOnce isHexNumber isWord isWordChar isWordChar_of_isAlphanum
  isWordChar_of_isHexDigit isWordChar_of_isHexNumber isWordChar_of_isNameChar isWord_of_all splitOn
  splitOnce)

/-! ## Words -/

theorem isWord_mappingName (name : MappingName) : isWord name.text = true := by
  have h := name.passes
  simp only [isMappingName, Bool.and_eq_true] at h
  exact isWord_of_all h.2 fun c hc ↦ isWordChar_of_isNameChar hc

theorem isWord_mediatedDevice (device : MediatedDevice) : isWord device.text = true := by
  have h := device.passes
  simp only [isMediatedDevice, Bool.and_eq_true] at h
  exact isWord_of_all h.2 fun c hc ↦ isWordChar_of_isNameChar hc

theorem isWord_pciNumber (number : PciNumber) : isWord number.text = true := by
  obtain ⟨digits, hdigits, hnumber⟩ := (Option.any_eq_true _ _).1 number.passes
  rw [isWord, Text.dropStart_eq_some_iff.1 hdigits, List.all_append, Bool.and_eq_true]
  exact ⟨by decide, isWordChar_of_isHexNumber hnumber⟩

theorem isWordChar_of_isPciPosition {cs : List Char} (h : isPciPosition cs = true) :
    cs.all isWordChar = true := by
  have hcolon : isWordChar ':' = true := by decide
  refine all_of_splitOn hcolon fun piece hpiece ↦ ?_
  unfold isPciPosition at h
  split at h
  · next bus device heq =>
    rw [Bool.and_eq_true] at h
    simp only [heq, List.mem_cons, List.not_mem_nil, or_false] at hpiece
    rcases hpiece with rfl | rfl
    · exact isWordChar_of_isHexNumber h.1
    · exact isWordChar_of_isHexNumber h.2
  · next domain bus device heq =>
    simp only [Bool.and_eq_true] at h
    simp only [heq, List.mem_cons, List.not_mem_nil, or_false] at hpiece
    rcases hpiece with rfl | rfl | rfl
    · exact isWordChar_of_isHexNumber h.1.1
    · exact isWordChar_of_isHexNumber h.1.2
    · exact isWordChar_of_isHexNumber h.2
  · cases h

theorem isWordChar_of_isPciFunction {cs : List Char} (h : isPciFunction cs = true) :
    cs.all isWordChar = true := by
  unfold isPciFunction at h
  split at h
  · next c =>
    simp only [Bool.and_eq_true, decide_eq_true_eq] at h
    have hc : c.isDigit = true := by
      have hhigh : c ≤ '9' := Char.le_trans h.2 (by decide)
      simpa [Char.isDigit] using ⟨h.1, hhigh⟩
    simp [isWordChar_of_isAlphanum (Text.isAlphanum_of_isDigit hc)]
  · cases h

theorem isWord_pciAddress (address : PciAddress) : isWord address.text = true := by
  have hsemicolon : isWordChar ';' = true := by decide
  refine all_of_splitOn hsemicolon fun piece hpiece ↦ ?_
  have h := List.all_eq_true.1 address.passes piece hpiece
  unfold isPciAddress at h
  split at h
  · next position function hsplit =>
    rw [Bool.and_eq_true] at h
    exact all_of_splitOnce hsplit (by decide) (isWordChar_of_isPciPosition h.2)
      (isWordChar_of_isPciFunction h.1)
  · exact isWordChar_of_isPciPosition h

theorem isWord_usbDeviceId (id : UsbDeviceId) : isWord id.text = true := by
  have h := id.passes
  unfold isUsbDeviceId at h
  split at h
  · next vendor product hsplit =>
    rw [Bool.and_eq_true] at h
    exact all_of_splitOnce hsplit (by decide) (isWordChar_of_isHexNumber h.1)
      (isWordChar_of_isHexNumber h.2)
  · cases h

theorem all_usbPort (port : UsbPort) :
    port.text.toList.all (fun c ↦ c.isDigit || c == '-' || c == '.') = true := by
  have hnumber {cs : List Char} (h : isPortNumber cs = true) :
      cs.all (fun c ↦ c.isDigit || c == '-' || c == '.') = true := by
    rw [isPortNumber, Bool.and_eq_true] at h
    exact List.all_eq_true.2 fun c hc ↦ by simp [List.all_eq_true.1 h.2 c hc]
  have h := port.passes
  unfold isUsbPort at h
  split at h
  · next bus ports hsplit =>
    rw [Bool.and_eq_true] at h
    have hpoint : (fun c : Char ↦ c.isDigit || c == '-' || c == '.') '.' = true := by decide
    exact all_of_splitOnce hsplit (by decide) (hnumber h.1) (all_of_splitOn hpoint
      fun piece hpiece ↦ hnumber (List.all_eq_true.1 h.2 piece hpiece))
  · cases h

theorem isWord_usbPort (port : UsbPort) : isWord port.text = true :=
  isWord_of_all (all_usbPort port) fun c hc ↦ by
    simp only [Bool.or_eq_true, beq_iff_eq] at hc
    rcases hc with (hc | rfl) | rfl
    · exact isWordChar_of_isAlphanum (Text.isAlphanum_of_isDigit hc)
    · decide
    · decide

/-! ## PCI devices -/

theorem PciOptions.isClean_entries (options : PciOptions) (mediated : Option MediatedDevice) :
    OptionList.IsClean (options.entries mediated) := by
  have hnumber (name : String) (hname : isWord name = true) (number : Option PciNumber) :
      OptionList.IsClean (OptionList.optional name (number.map Checked.text)) :=
    isClean_optional_map hname number isWord_pciNumber
  simp only [entries, isClean_append]
  exact ⟨⟨⟨⟨⟨⟨⟨hnumber _ (by decide) _,
    isClean_optional_map (by decide) mediated isWord_mediatedDevice⟩,
    isClean_flag (by decide) _⟩, isClean_unsetFlag (by decide) _⟩,
    hnumber _ (by decide) _⟩, hnumber _ (by decide) _⟩,
    hnumber _ (by decide) _⟩, isClean_flag (by decide) _⟩

/-- The options of a PCI device are read from any list in which they are found. -/
theorem PciOptions.ofOptions_of_get? (options : PciOptions) (mediated : Option MediatedDevice)
    {list : OptionList}
    (hget : ∀ name ∈ ["device-id", "pcie", "rombar", "sub-device-id", "sub-vendor-id", "vendor-id",
      "x-vga"], list.get? name = (OptionList.mk (options.entries mediated)).get? name) :
    ofOptions list = .ok options := by
  simp only [List.mem_cons, List.not_mem_nil, or_false, forall_eq_or_imp, forall_eq] at hget
  obtain ⟨hdevice, hpcie, hrombar, hsubDevice, hsubVendor, hvendor, hvga⟩ := hget
  have hdevice : list.checked? "device-id" = .ok options.deviceId :=
    OptionList.checked?_of_get? (by simp [hdevice, entries, get?_append, get?_optional, get?_flag,
      get?_unsetFlag])
  have hpcie : list.flag? "pcie" = .ok (OptionList.whenSet options.pcie) :=
    OptionList.flag?_of_get? (by simp [hpcie, entries, get?_append, get?_optional, get?_flag,
      get?_unsetFlag])
  have hvga : list.flag? "x-vga" = .ok (OptionList.whenSet options.primaryGpu) :=
    OptionList.flag?_of_get? (by simp [hvga, entries, get?_append, get?_optional, get?_flag,
      get?_unsetFlag])
  have hrombar : list.flag? "rombar" = .ok (OptionList.unlessSet options.romBar) :=
    OptionList.flag?_of_get? (by simp [hrombar, entries, get?_append, get?_optional, get?_flag,
      get?_unsetFlag])
  have hsubDevice : list.checked? "sub-device-id" = .ok options.subDeviceId :=
    OptionList.checked?_of_get? (by simp [hsubDevice, entries, get?_append, get?_optional,
      get?_flag, get?_unsetFlag])
  have hsubVendor : list.checked? "sub-vendor-id" = .ok options.subVendorId :=
    OptionList.checked?_of_get? (by simp [hsubVendor, entries, get?_append, get?_optional,
      get?_flag, get?_unsetFlag])
  have hvendor : list.checked? "vendor-id" = .ok options.vendorId :=
    OptionList.checked?_of_get? (by simp [hvendor, entries, get?_append, get?_optional, get?_flag,
      get?_unsetFlag])
  simp [ofOptions, bind, Except.bind, pure, Except.pure, hdevice, hpcie, hvga, hrombar, hsubDevice,
    hsubVendor, hvendor]

/-- **A PCI device reads back.** -/
theorem PciDevice.decode_text (device : PciDevice) : decode device.text = .ok device := by
  have hmapping : isWord "mapping" = true := by decide
  cases device with
  | mapping name options =>
    have hclean : OptionList.IsClean (mapping name options).entries :=
      isClean_append.2 ⟨isClean_pair hmapping (isCleanValue_of_isWord (isWord_mappingName name)),
        options.isClean_entries none⟩
    have hoptions : PciOptions.ofOptions (.mk (mapping name options).entries) = .ok options :=
      options.ofOptions_of_get? none (by simp [entries, get?_append, get?_pair])
    rw [decode, text, parse_text_of_isClean hclean, ofOptions, hoptions]
    simp [entries, bind, Except.bind, get?_append, get?_pair, pure, Except.pure]
  | raw address mediated options =>
    have hne : address.text ≠ "" := fun hempty ↦ by
      have hpasses := address.passes
      rw [hempty] at hpasses
      exact absurd hpasses (by decide)
    have hclean : OptionList.IsClean (raw address mediated options).entries :=
      isClean_append.2 ⟨isClean_positional (isCleanValue_of_isWord (isWord_pciAddress address))
        (Text.equals_not_mem_of_isWord (isWord_pciAddress address)) hne,
        options.isClean_entries mediated⟩
    have hoptions : PciOptions.ofOptions (.mk (raw address mediated options).entries) =
        .ok options :=
      options.ofOptions_of_get? mediated (by simp [entries, get?_append, get?_positional])
    have hmediated : (OptionList.mk (raw address mediated options).entries).checked? "mdev" =
        .ok mediated :=
      OptionList.checked?_of_get? (by simp [entries, PciOptions.entries, get?_append,
        get?_positional, get?_optional, get?_flag, get?_unsetFlag])
    have hleading : (OptionList.mk (raw address mediated options).entries).leading? =
        some address.text := OptionList.leading?_positional _ _
    have hnone : ∀ name ∈ ["mapping", "host"],
        (OptionList.mk (raw address mediated options).entries).get? name = none := by
      simp [entries, PciOptions.entries, get?_append, get?_positional, get?_optional, get?_flag,
        get?_unsetFlag]
    rw [decode, text, parse_text_of_isClean hclean, ofOptions, hoptions, hleading,
      hnone "mapping" (by simp), hnone "host" (by simp)]
    simp [bind, Except.bind, pure, Except.pure, hmediated]

/-! ## USB devices -/

/-- The number of a device is told apart from a port by its colon. -/
theorem UsbSource.decodeHost_device (id : UsbDeviceId) : decodeHost id.text = .ok (device id) := by
  have hcolon : ':' ∈ id.text.toList := by
    have h := id.passes
    unfold isUsbDeviceId at h
    split at h
    · next vendor product hsplit =>
      rw [(Text.splitOnce_eq_some_iff.1 hsplit).1]
      simp
    · cases h
  have hspice : id.text ≠ "spice" := fun heq ↦ by
    rw [heq] at hcolon
    exact absurd hcolon (by decide)
  rw [decodeHost, if_neg hspice, if_pos hcolon, Checked.decode_text]
  rfl

theorem UsbSource.decodeHost_port (path : UsbPort) : decodeHost path.text = .ok (port path) := by
  have hcolon : ':' ∉ path.text.toList := fun hc ↦
    absurd (List.all_eq_true.1 (all_usbPort path) ':' hc) (by decide)
  have hspice : path.text ≠ "spice" := fun heq ↦ by
    have hpasses := path.passes
    rw [heq] at hpasses
    exact absurd hpasses (by decide)
  rw [decodeHost, if_neg hspice, if_neg hcolon, Checked.decode_text]
  rfl

theorem UsbSource.ofOptions_append (source : UsbSource) {rest : List Entry}
    (hrest : (OptionList.mk rest).get? "mapping" = none) :
    ofOptions (.mk (source.entries ++ rest)) = .ok source := by
  cases source with
  | device id =>
    simp [ofOptions, entries, get?_append, get?_pair, hrest, decodeHost_device]
  | mapping name => simp [ofOptions, entries, get?_append, get?_pair, Except.map]
  | port path =>
    simp [ofOptions, entries, get?_append, get?_pair, hrest, decodeHost_port]
  | spice => simp [ofOptions, entries, get?_append, get?_pair, hrest, decodeHost]

/-- **A USB device reads back.** -/
theorem UsbDevice.decode_text (device : UsbDevice) : decode device.text = .ok device := by
  obtain ⟨source, usb3⟩ := device
  have hhost : isWord "host" = true := by decide
  have hsource : OptionList.IsClean source.entries := by
    cases source with
    | device id => exact isClean_pair hhost (isCleanValue_of_isWord (isWord_usbDeviceId id))
    | mapping name =>
      exact isClean_pair (by decide) (isCleanValue_of_isWord (isWord_mappingName name))
    | port path => exact isClean_pair hhost (isCleanValue_of_isWord (isWord_usbPort path))
    | spice => exact isClean_pair hhost (isCleanValue_of_isWord (by decide))
  have hclean : OptionList.IsClean (UsbDevice.mk source usb3).entries :=
    isClean_append.2 ⟨hsource, isClean_flag (by decide) usb3⟩
  have husb3 : (OptionList.mk (UsbDevice.mk source usb3).entries).flag? "usb3" =
      .ok (OptionList.whenSet usb3) :=
    OptionList.flag?_of_get? (by
      cases source <;> simp [entries, UsbSource.entries, get?_append, get?_pair, get?_flag])
  have hread : UsbSource.ofOptions (.mk (UsbDevice.mk source usb3).entries) = .ok source :=
    source.ofOptions_append (by simp [get?_flag])
  rw [decode, text, parse_text_of_isClean hclean, ofOptions, hread]
  simp [bind, Except.bind, pure, Except.pure, husb3]

/-! ## Families -/

section families

variable {w w' : Wire}

/-- **PCI devices are settled.** -/
theorem PciDevice.settles {current desired : Option (SlotMap .pci PciDevice)}
    (hplain : w.HasPlainKeys .pci stem) (h : ofWire w = .ok current)
    (hafter : w'.Follows .pciDevices (placement.plan stem current desired) w) :
    ∃ after, ofWire w' = .ok after ∧ placement.plan stem after desired = [] :=
  Placement.settles_byText decode_text hplain h fun key hkey ↦
    hafter key (Setting.owner?_of_ofKey? rfl rfl hkey)

/-- **Serial ports are settled.** -/
theorem SerialPort.settles {current desired : Option (SlotMap .serial SerialPort)}
    (hplain : w.HasPlainKeys .serial stem) (h : ofWire w = .ok current)
    (hafter : w'.Follows .serials (placement.plan stem current desired) w) :
    ∃ after, ofWire w' = .ok after ∧ placement.plan stem after desired = [] :=
  Placement.settles_byText decode_text hplain h fun key hkey ↦
    hafter key (Setting.owner?_of_ofKey? rfl rfl hkey)

/-- **USB devices are settled.** -/
theorem UsbDevice.settles {current desired : Option (SlotMap .usb UsbDevice)}
    (hplain : w.HasPlainKeys .usb stem) (h : ofWire w = .ok current)
    (hafter : w'.Follows .usbs (placement.plan stem current desired) w) :
    ∃ after, ofWire w' = .ok after ∧ placement.plan stem after desired = [] :=
  Placement.settles_byText decode_text hplain h fun key hkey ↦
    hafter key (Setting.owner?_of_ofKey? rfl rfl hkey)

end families

end GuestConfig
