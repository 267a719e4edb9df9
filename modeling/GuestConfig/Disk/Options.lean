import GuestConfig.Disk.Kind
import GuestConfig.Disk.Throughput
import GuestConfig.Text.Hex
import GuestConfig.Unit.Size

/-!
# The options of drives

What can be said of every drive that holds data, whether it is an image or a device of the host.
Taking part in backups and replication is what a drive does unless it says otherwise, so these two
are written out when they are off.

## What is here

* `DiskSerial`, `WorldWideName` — the two numbers that a drive can show to the guest.
* `DriveOptions` — the options; `DriveOptions.entries` and `DriveOptions.ofOptions` are the two
  directions.
* `DriveOptions.validate` — what a bus does not offer.
* `DriveOptions.differOnlyLive` — whether a running guest sees a change of options.
-/

set_option autoImplicit false

namespace GuestConfig

open Text (dropStart isHexNumber)

/-! ## Numbers of a drive -/

/-- A serial number: 1 to 60 letters, digits, hyphens and underscores. -/
def isDiskSerial (cs : List Char) : Bool :=
  !cs.isEmpty && cs.length ≤ 60 && cs.all fun c ↦ c.isAlphanum || c == '-' || c == '_'

/-- A world wide name: sixteen hexadecimal digits after `0x`. -/
def isWorldWideName (cs : List Char) : Bool :=
  (dropStart "0x".toList cs).any (isHexNumber 16)

/-- The serial number of a drive. -/
abbrev DiskSerial : Type :=
  Checked (.of isDiskSerial .diskSerial)

/-- The world wide name of a drive. -/
abbrev WorldWideName : Type :=
  Checked (.of isWorldWideName .worldWideName)

/-! ## Options -/

/-- The options of a drive that holds data. -/
structure DriveOptions where
  /-- How the host does input and output. -/
  asyncIo : Option AsyncIo := none
  /-- Whether the drive is part of backups. -/
  backup : Bool := false
  /-- The limits of its throughput. -/
  bandwidth : Bandwidth := { }
  /-- How the host caches it. -/
  cache : Option DiskCache := none
  /-- Whether the storage learns what the guest no longer needs. -/
  discard : Bool := false
  /-- Whether the guest takes it for a solid state drive. -/
  emulateSsd : Bool := false
  /-- Whether it has a thread of its own. -/
  ioThread : Bool := false
  /-- Whether the guest cannot write to it. -/
  readOnly : Bool := false
  /-- Whether the drive is part of replication. -/
  replicate : Bool := false
  /-- Its serial number. -/
  serial : Option DiskSerial := none
  /-- Its world wide name. -/
  wwn : Option WorldWideName := none
  deriving DecidableEq

namespace DriveOptions

/-- The options in alphabetical order, with a format and a size where they sort. -/
def entries (o : DriveOptions) (format : Option DiskFormat) (size : Option UInt64) : List Entry :=
  OptionList.optional "aio" (o.asyncIo.map Token.name) ++
    OptionList.unsetFlag "backup" o.backup ++
    OptionList.optional "cache" (o.cache.map Token.name) ++
    OptionList.optional "discard" (if o.discard then some "on" else none) ++
    OptionList.optional "format" (format.map Token.name) ++
    o.bandwidth.operations ++
    OptionList.flag "iothread" o.ioThread ++
    o.bandwidth.megabytes ++
    OptionList.unsetFlag "replicate" o.replicate ++
    OptionList.flag "ro" o.readOnly ++
    OptionList.optional "serial" (o.serial.map Checked.text) ++
    OptionList.optional "size" ((size.filter (· ≠ 0)).map formatSize) ++
    OptionList.flag "ssd" o.emulateSsd ++
    OptionList.optional "wwn" (o.wwn.map Checked.text)

/-- The options in a list. -/
def ofOptions (options : OptionList) : Except WireError DriveOptions := do
  return {
    asyncIo := ← options.token? "aio"
    backup := (← options.flag? "backup").getD true
    bandwidth := ← Bandwidth.ofOptions options
    cache := ← options.token? "cache"
    discard := options.get? "discard" == some "on"
    emulateSsd := (← options.flag? "ssd").getD false
    ioThread := (← options.flag? "iothread").getD false
    readOnly := (← options.flag? "ro").getD false
    replicate := (← options.flag? "replicate").getD true
    serial := ← options.checked? "serial"
    wwn := ← options.checked? "wwn" }

/-- Checks that a bus offers the options. -/
def validate (bus : Bus) (drive : String) (o : DriveOptions) : Except RuleError Unit := do
  require (!(o.emulateSsd && bus = .virtio)) (.diskOption drive "ssd")
  require (!(o.ioThread && !bus.canHotplug)) (.diskOption drive "iothread")
  require (!(o.readOnly && !bus.canHotplug)) (.diskOption drive "ro")

/-- The options without those that can change while the guest runs. -/
def settled (o : DriveOptions) : DriveOptions :=
  { o with backup := false, bandwidth := { }, replicate := false }

/-- Whether a running guest sees all that is different between two sets of options. -/
def differOnlyLive (a b : DriveOptions) : Bool :=
  a.settled = b.settled

@[simp] theorem differOnlyLive_self (o : DriveOptions) : o.differOnlyLive o = true := by
  simp [differOnlyLive]

/-! ## As a document -/

/-- Reads the options. -/
def ofValue? (d : Dialect) (v : Value) : Option DriveOptions := do
  let fields ← v.fields? ["async_io", "backup", "bandwidth", "cache", "discard", "emulate_ssd",
    "io_thread", "read_only", "replicate", "serial", "wwn"]
  return {
    asyncIo := ← fields.optional "async_io" (Value.token? d)
    backup := ← fields.withDefault "backup" false Value.flag?
    bandwidth := ← fields.withDefault "bandwidth" { } Bandwidth.ofValue?
    cache := ← fields.optional "cache" (Value.token? d)
    discard := ← fields.withDefault "discard" false Value.flag?
    emulateSsd := ← fields.withDefault "emulate_ssd" false Value.flag?
    ioThread := ← fields.withDefault "io_thread" false Value.flag?
    readOnly := ← fields.withDefault "read_only" false Value.flag?
    replicate := ← fields.withDefault "replicate" false Value.flag?
    serial := ← fields.optional "serial" Value.checked?
    wwn := ← fields.optional "wwn" Value.checked? }

/-- Writes the options. -/
def toValue (o : DriveOptions) : Value :=
  .object [
    ("async_io", .ofOption .ofToken o.asyncIo),
    ("backup", .bool o.backup),
    ("bandwidth", o.bandwidth.toValue),
    ("cache", .ofOption .ofToken o.cache),
    ("discard", .bool o.discard),
    ("emulate_ssd", .bool o.emulateSsd),
    ("io_thread", .bool o.ioThread),
    ("read_only", .bool o.readOnly),
    ("replicate", .bool o.replicate),
    ("serial", .ofOption .ofChecked o.serial),
    ("wwn", .ofOption .ofChecked o.wwn)]

end DriveOptions

end GuestConfig
