import GuestConfig.Disk.Image
import GuestConfig.Disk.Media
import GuestConfig.Plan.Placement

/-!
# Drives

A slot of a bus holds a CD-ROM drive, the drive that hands the guest its cloud-init settings, a
disk, or a block device of the host.

## What is here

* `Drive` — the four kinds of drive.
* `Drive.decode` — a stored drive.
* `Drive.validate` — the rules for one drive.
* `Drive.placement` — how drives are planned.  Media are swapped while the guest runs; other
  changes depend on the bus and on the options that change.
-/

set_option autoImplicit false

namespace GuestConfig

open Text (dropEnd dropStart isBlank isDigits splitLast splitOnce)

/-! ## Kinds of drive -/

/-- The path of a block device: absolute, more than the root, without commas and blanks. -/
def isDevicePath (cs : List Char) : Bool :=
  1 < cs.length && cs.head? == some '/' && cs.all fun c ↦ c != ',' && !isBlank c

/-- The path of a block device of the host. -/
abbrev DevicePath : Type :=
  Checked (.of isDevicePath .passthroughPath)

/-- The drive that hands a guest its cloud-init settings. -/
structure CloudInitDrive where
  /-- The storage that keeps it. -/
  storage : String
  /-- The format of its image. -/
  format : DiskFormat := .raw
  deriving DecidableEq, Repr

/-- A block device of the host. -/
structure Passthrough where
  /-- The path of the device. -/
  path : DevicePath
  /-- The options of the drive. -/
  options : DriveOptions := { }
  deriving DecidableEq

/-- A drive of a guest. -/
inductive Drive where
  /-- A CD-ROM drive. -/
  | cdrom (cdrom : CdRom)
  /-- The drive with the cloud-init settings. -/
  | cloudInit (drive : CloudInitDrive)
  /-- A disk. -/
  | disk (disk : Disk)
  /-- A block device of the host. -/
  | passthrough (device : Passthrough)
  deriving DecidableEq

/-- A cloud-init drive as it is asked for. -/
def CloudInitDrive.text (drive : CloudInitDrive) : String :=
  (OptionList.mk (
    OptionList.positional (drive.storage ++ ":cloudinit") ++
      OptionList.pair "format" (Token.name drive.format))).text

/-- A block device as it is stored. -/
def Passthrough.text (device : Passthrough) : String :=
  (OptionList.mk (
    OptionList.positional device.path.text ++ device.options.entries none none)).text

namespace Drive

/-- Whether a drive holds the cloud-init settings. -/
def isCloudInit : Drive → Bool
  | cloudInit _ => true
  | _ => false

/-! ## Stored drives -/

/-- Whether a path names an image with cloud-init settings: `vm-`, the number of the guest,
`-cloudinit` and perhaps an extension. -/
def isCloudInitImage (path : List Char) : Bool :=
  let image := ((splitLast '/' path).map (·.2)).getD path
  let stem := ((splitOnce '.' image).map (·.1)).getD image
  ((dropStart "vm-".toList stem).bind (dropEnd "-cloudinit".toList)).any fun guest ↦
    !guest.isEmpty && isDigits guest

/-- The CD-ROM drive that holds a volume, which may turn out to be the one with the cloud-init
settings. -/
def ofMedia (volume : String) (options : OptionList) : Except WireError Drive :=
  if volume = "none" ∨ volume = "cdrom" then (CdRom.ofVolume volume options).map cdrom
  else
    match splitOnce ':' volume.toList with
    | some (storage, name) =>
      if isCloudInitImage name then
        (Disk.formatOf name options).map fun format ↦
          cloudInit ⟨String.ofList storage, format⟩
      else (CdRom.ofVolume volume options).map cdrom
    | none => (CdRom.ofVolume volume options).map cdrom

/-- The drive in a list of options. -/
def ofOptions (options : OptionList) : Except WireError Drive :=
  match (options.get? "file").or options.leading? with
  | none => .error (.missingOption "file")
  | some volume =>
    if options.get? "media" = some "cdrom" then ofMedia volume options
    else if volume.toList.head? = some '/' then do
      let path ← Checked.decode volume
      return passthrough ⟨path, ← DriveOptions.ofOptions options⟩
    else (Disk.ofVolume volume options).map disk

/-- Reads a stored drive. -/
def decode (s : String) : Except WireError Drive :=
  ofOptions (.parse s)

/-- A drive for an empty slot. -/
def newText : Drive → String
  | cdrom media => media.text
  | cloudInit drive => drive.text
  | disk image => image.newText
  | passthrough device => device.text

/-! ## Rules -/

/-- Checks a drive that is asked for. -/
def validate (bus : Bus) (key : String) : Drive → Except RuleError Unit
  | cdrom (.iso image) => image.validate key
  | cdrom _ => .ok ()
  | cloudInit drive => require (drive.storage ≠ "") (.cloudInitDriveStorage key)
  | disk image => image.validate bus key
  | passthrough device => device.options.validate bus key

/-! ## Planning -/

/-- The steps that set a key, if there is something to set it to. -/
def setIf (key : String) : Option (String × Bool) → Draft
  | none => []
  | some (text, reboot) => [.set key (.text text) reboot]

/-- The steps that turn one drive into another. -/
def replace (bus : Bus) (guest : Option GuestId) (key : String) (current desired : Drive) :
    Draft :=
  match desired, current with
  | cdrom after, cdrom before =>
    if after.sameMedia before then [] else [.set key (.text after.text) false]
  | disk after, disk before =>
    match Disk.revise bus guest after before with
    | some update => setIf key update
    | none => [.refuse (.diskVolume key)]
  | passthrough after, passthrough before =>
    if after.text = before.text then []
    else [.set key (.text after.text) (!bus.canHotplug || after.path ≠ before.path ||
      !after.options.differOnlyLive before.options)]
  | cloudInit after, cloudInit before =>
    if after = before then [] else [.set key (.text after.text) true]
  | after, _ => [.set key (.text after.newText) true]

/-- How drives are put into the slots of a bus and taken out of them. -/
def placement (bus : Bus) (guest : Option GuestId) : Placement Drive where
  place key existing desired :=
    match existing with
    | none => [.set key (.text desired.newText) (!bus.canHotplug)]
    | some current => replace bus guest key current desired
  remove key _ := [.delete key (!bus.canHotplug)]

/-! ## As a document -/

/-- Reads a cloud-init drive. -/
def cloudInitOfValue? (d : Dialect) (v : Value) : Option CloudInitDrive := do
  let fields ← v.fields? ["storage", "format"]
  return {
    storage := ← fields.required "storage" Value.text?
    format := ← fields.withDefault "format" .raw (Value.token? d) }

/-- Writes a cloud-init drive. -/
def cloudInitToValue (drive : CloudInitDrive) : Value :=
  .object [("storage", drive.storage), ("format", .ofToken drive.format)]

/-- Reads a block device. -/
def passthroughOfValue? (d : Dialect) (v : Value) : Option Passthrough := do
  let fields ← v.fields? ["path", "options"]
  return {
    path := ← fields.required "path" Value.checked?
    options := ← fields.withDefault "options" { } (DriveOptions.ofValue? d) }

/-- Writes a block device. -/
def passthroughToValue (device : Passthrough) : Value :=
  .object [("path", .ofChecked device.path), ("options", device.options.toValue)]

/-- Reads a drive. -/
def ofValue? (d : Dialect) (v : Value) : Option Drive := do
  match ← v.tagged? d "type" "drive" with
  | ("cdrom", some content) => (CdRom.ofValue? .content content).map cdrom
  | ("cloud_init", some content) => (cloudInitOfValue? .content content).map cloudInit
  | ("disk", some content) => (Disk.ofValue? .content content).map disk
  | ("passthrough", some content) => (passthroughOfValue? .content content).map passthrough
  | _ => none

/-- Writes a drive. -/
def toValue : Drive → Value
  | cdrom media => .ofTagged "type" "cdrom" "drive" media.toValue
  | cloudInit drive => .ofTagged "type" "cloud_init" "drive" (cloudInitToValue drive)
  | disk image => .ofTagged "type" "disk" "drive" image.toValue
  | passthrough device => .ofTagged "type" "passthrough" "drive" (passthroughToValue device)

end Drive

end GuestConfig
