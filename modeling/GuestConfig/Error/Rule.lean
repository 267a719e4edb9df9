import GuestConfig.Slot
import GuestConfig.Tpm.Version
import GuestConfig.Version

/-!
# The rules of a configuration

A desired configuration has to satisfy rules of three sorts: grammars of names and addresses,
ranges of numbers, and rules that span several settings.  Every rule has a constructor of its own,
which carries what an operator needs to see, and a message that can be shown as it is.

## What is here

* `RuleError` and its `message`.
* `require`, `requireOf`, `requireEach` — checking one rule, the rules of a setting that may be
  absent, and the rules of several settings in turn.
-/

set_option autoImplicit false

namespace GuestConfig

open Text (quoted natural)

/-- The rule that a configuration breaks. -/
inductive RuleError where
  /-- A guest name is malformed. -/
  | guestName (text : String)
  /-- A pool name is malformed. -/
  | poolName (text : String)
  /-- A tag is malformed. -/
  | tag (text : String)
  /-- A tag is too long. -/
  | tagLength (text : String)
  /-- Both an ISO image and a drive claim the slot for installation media. -/
  | isoAndMediaDrive
  /-- The number of cores is out of range. -/
  | cores (n : UInt16)
  /-- The number of sockets is out of range. -/
  | sockets (n : UInt8)
  /-- The CPU limit is out of range. -/
  | cpuLimit (n : UInt8)
  /-- The CPU weight is out of range. -/
  | cpuUnits (n : UInt32)
  /-- There are more virtual cores than the topology has. -/
  | virtualCores (vcpus : UInt16) (total : Nat)
  /-- There is no such CPU model. -/
  | cpuTypeUnknown (name : String)
  /-- The CPU model came with a later version. -/
  | cpuTypeTooNew (name : String) (version : Version)
  /-- The memory capacity is out of range. -/
  | memoryCapacity (mebibytes : UInt32)
  /-- The balloon may not shrink to more than the capacity. -/
  | memoryMinimum (minimum capacity : UInt32)
  /-- The weight of the memory is out of range. -/
  | memoryShares (shares : UInt16)
  /-- The memory has a weight although it cannot shrink. -/
  | sharesWithoutBalloon
  /-- A disk has no storage. -/
  | diskStorage (drive : String)
  /-- A disk is smaller than the API allocates. -/
  | diskSize (drive : String) (size : UInt64) (minimum : Nat)
  /-- A disk has an option that its bus does not offer. -/
  | diskOption (drive option : String)
  /-- A serial number is malformed. -/
  | diskSerial (text : String)
  /-- A world wide name is malformed. -/
  | worldWideName (text : String)
  /-- The volume of a disk cannot be named. -/
  | diskVolume (drive : String)
  /-- The path of a host device is malformed. -/
  | passthroughPath (text : String)
  /-- An ISO image has no storage. -/
  | isoStorage (drive : String)
  /-- An ISO image has no file name. -/
  | isoFile (drive : String)
  /-- A cloud-init drive has no storage. -/
  | cloudInitDriveStorage (drive : String)
  /-- There are several cloud-init drives. -/
  | cloudInitDriveRepeated
  /-- A drive is described as several kinds of drive, or as none. -/
  | driveKinds (drive : String) (count : Nat)
  /-- A CD-ROM drive is described with several media. -/
  | cdRomMedia (drive : String) (count : Nat)
  /-- A MAC address is malformed. -/
  | macAddress (text : String)
  /-- An MTU is out of range. -/
  | mtu (n : UInt16)
  /-- An MTU is set for a model that has none. -/
  | mtuModel (interface : String)
  /-- A number of queues is out of range. -/
  | queues (n : UInt8)
  /-- A rate limit is out of range. -/
  | rateLimit (n : UInt32)
  /-- A VLAN is out of range. -/
  | vlan (n : UInt16)
  /-- The name of a bridge is malformed. -/
  | bridge (text : String)
  /-- An IPv4 address is malformed. -/
  | ipv4Address (text : String)
  /-- An IPv4 gateway is malformed. -/
  | ipv4Gateway (text : String)
  /-- An IPv6 address is malformed. -/
  | ipv6Address (text : String)
  /-- An IPv6 gateway is malformed. -/
  | ipv6Gateway (text : String)
  /-- IPv4 is configured both by DHCP and with an address. -/
  | ipv4DhcpAndAddress
  /-- IPv4 is configured both by DHCP and with a gateway. -/
  | ipv4DhcpAndGateway
  /-- IPv6 is configured in several ways. -/
  | ipv6Modes
  /-- IPv6 is configured automatically and with a gateway. -/
  | ipv6AutoAndGateway
  /-- There is addressing for an interface that the guest does not have. -/
  | addressingWithoutInterface (slot : Slot .network)
  /-- The path of a snippet is not absolute. -/
  | snippetRelative (path : String)
  /-- The path of a snippet is too long. -/
  | snippetLength (path : String)
  /-- A snippet has no storage. -/
  | snippetStorage
  /-- Package upgrades came with a later version. -/
  | upgradeUnsupported (version : Version)
  /-- A PCI vendor or device number is malformed. -/
  | pciNumber (text : String)
  /-- The address of a PCI device is malformed. -/
  | pciAddress (text : String)
  /-- The type of a mediated device is malformed. -/
  | mediatedDevice (text : String)
  /-- The name of a resource mapping is malformed. -/
  | mappingName (text : String)
  /-- A PCI device is described by several sources, or by none. -/
  | pciSources (slot : String) (count : Nat)
  /-- The number of a USB device is malformed. -/
  | usbDeviceId (text : String)
  /-- A USB port is malformed. -/
  | usbPort (text : String)
  /-- A USB device is described by several sources, or by none. -/
  | usbSources (slot : String) (count : Nat)
  /-- The path of a serial device is malformed. -/
  | serialPath (text : String)
  /-- A serial port is described with both backends, or with none. -/
  | serialBackends (slot : String) (count : Nat)
  /-- A TPM has no storage. -/
  | tpmStorage
  /-- The version of an existing TPM is changed. -/
  | tpmVersion (current desired : TpmVersion)
  deriving DecidableEq, Repr

/-- The broken rule in words. -/
def RuleError.message : RuleError → String
  | guestName s =>
    "guest name " ++ quoted s ++ " must be 1-128 characters of letters, digits, '-' and '.', and " ++
      "must start and end with a letter or digit"
  | poolName s =>
    "pool name " ++ quoted s ++ " must be 1-64 characters of letters, digits, '-' and '_'"
  | tag s => "tag " ++ quoted s ++ " must start with a letter, digit or '_' and contain only " ++
      "letters, digits and '_', '-', '+', '.'"
  | tagLength s => "tag " ++ quoted s ++ " is longer than 124 characters"
  | isoAndMediaDrive => "an ISO image and disk ide2 can't both be configured"
  | cores n => "CPU core count " ++ Word.text n ++ " outside range of 1-128"
  | sockets n => "CPU socket count " ++ Word.text n ++ " outside range of 1-4"
  | cpuLimit n => "CPU limit " ++ Word.text n ++ " outside range of 0-128"
  | cpuUnits n => "CPU units " ++ Word.text n ++ " outside range of 0-262144"
  | virtualCores vcpus total =>
    Word.text vcpus ++ " virtual cores exceed the " ++ natural total ++ " available cores"
  | cpuTypeUnknown name => "unknown CPU type " ++ quoted name
  | cpuTypeTooNew name version =>
    "CPU type " ++ quoted name ++ " requires a newer version than " ++ version.text
  | memoryCapacity n => "memory capacity " ++ Word.text n ++ " MiB outside range of 16-4178944 MiB"
  | memoryMinimum minimum capacity => "minimum memory capacity " ++ Word.text minimum ++
      " MiB exceeds capacity " ++ Word.text capacity ++ " MiB"
  | memoryShares n => "memory shares " ++ Word.text n ++ " outside range of 0-50000"
  | sharesWithoutBalloon => "memory shares have no effect unless the minimum capacity is set " ++
      "below the capacity"
  | diskStorage drive => "disk " ++ drive ++ " requires a storage"
  | diskSize drive size minimum => "disk " ++ drive ++ " size " ++ Word.text size ++
      " KiB is below the minimum of " ++ natural minimum ++ " KiB"
  | diskOption drive option => "disk " ++ drive ++ " doesn't support option " ++ quoted option
  | diskSerial s =>
    "disk serial " ++ quoted s ++ " must be 1-60 characters of letters, digits, '-' and '_'"
  | worldWideName s => "world wide name " ++ quoted s ++ " must be '0x' followed by 16 hex digits"
  | diskVolume drive => "disk " ++ drive ++ " has no volume id to update"
  | passthroughPath s => "passthrough disk path " ++ quoted s ++ " must be an absolute path"
  | isoStorage drive => "CD-ROM " ++ drive ++ " ISO image requires a storage"
  | isoFile drive => "CD-ROM " ++ drive ++ " ISO image requires a file name"
  | cloudInitDriveStorage drive => "cloud-init disk " ++ drive ++ " requires a storage"
  | cloudInitDriveRepeated => "only one cloud-init disk may be configured"
  | driveKinds drive count => "disk slot " ++ drive ++
      " must populate exactly one variant, found " ++ natural count
  | cdRomMedia drive count => "CD-ROM " ++ drive ++
      " must use at most one media source, found " ++ natural count
  | macAddress s => "MAC address " ++ quoted s ++ " must be six ':'-separated hex octets"
  | mtu n => "MTU " ++ Word.text n ++ " outside range of 576-65520"
  | mtuModel interface => "network interface " ++ interface ++
      " may only set an MTU with the virtio model"
  | queues n => "network queue count " ++ Word.text n ++ " outside range of 0-64"
  | rateLimit n => "network rate limit " ++ Word.text n ++ " KB/s exceeds 10240000 KB/s"
  | vlan n => "VLAN " ++ Word.text n ++ " outside range of 1-4094"
  | bridge s =>
    "bridge name " ++ quoted s ++ " must be 1-15 characters of letters, digits, '_', '-' and '.'"
  | ipv4Address s => quoted s ++ " is not an IPv4 address in CIDR notation"
  | ipv4Gateway s => quoted s ++ " is not an IPv4 gateway address"
  | ipv6Address s => quoted s ++ " is not an IPv6 address in CIDR notation"
  | ipv6Gateway s => quoted s ++ " is not an IPv6 gateway address"
  | ipv4DhcpAndAddress => "IPv4 DHCP and a static IPv4 address are mutually exclusive"
  | ipv4DhcpAndGateway => "an IPv4 gateway can't be combined with IPv4 DHCP"
  | ipv6Modes => "IPv6 DHCP, SLAAC and a static IPv6 address are mutually exclusive"
  | ipv6AutoAndGateway => "an IPv6 gateway can't be combined with IPv6 DHCP or SLAAC"
  | addressingWithoutInterface slot =>
    "cloud-init network settings for slot " ++ slot.text ++ " have no interface"
  | snippetRelative path => "snippet path " ++ quoted path ++ " must be absolute"
  | snippetLength path => "snippet path " ++ quoted path ++ " is longer than 256 characters"
  | snippetStorage => "snippet requires a storage"
  | upgradeUnsupported version => "upgrading packages through cloud-init requires version 8.0.0 " ++
      "or newer, found " ++ version.text
  | pciNumber s => "PCI ID " ++ quoted s ++ " must be '0x' followed by 4 hex digits"
  | pciAddress s => "PCI host ID " ++ quoted s ++ " must look like '0000:01:00.0' or '01:00' " ++
      "(domain and function optional)"
  | mediatedDevice s => "mediated device type " ++ quoted s ++ " is invalid"
  | mappingName s => "mapping name " ++ quoted s ++ " must start with a letter and contain only " ++
      "letters, digits, '-' and '_' (at most 128 characters)"
  | pciSources slot count => "PCI device " ++ slot ++
      " must use exactly one source, found " ++ natural count
  | usbDeviceId s => "USB device ID " ++ quoted s ++ " must be 'vendor:product' in hex"
  | usbPort s => "USB port " ++ quoted s ++ " must look like 'bus-port(.port)*'"
  | usbSources slot count => "USB device " ++ slot ++
      " must use exactly one source, found " ++ natural count
  | serialPath s => "serial device path " ++ quoted s ++ " must be a device under /dev/"
  | serialBackends slot count => "serial port " ++ slot ++
      " must use exactly one backend, found " ++ natural count
  | tpmStorage => "TPM state requires a storage"
  | tpmVersion current desired =>
    "TPM version can't change from " ++ Token.name current ++ " to " ++ Token.name desired

/-! ## Checking rules -/

/-- Checks one rule. -/
def require (holds : Bool) (rule : RuleError) : Except RuleError Unit :=
  if holds then .ok () else .error rule

/-- Checks the rules of a setting, if it is there. -/
def requireOf {α : Type} (setting : Option α) (rules : α → Except RuleError Unit) :
    Except RuleError Unit :=
  match setting with
  | none => .ok ()
  | some a => rules a

/-- Checks the rules of several settings; the first one that is broken is reported. -/
def requireEach {α : Type} : List α → (α → Except RuleError Unit) → Except RuleError Unit
  | [], _ => .ok ()
  | a :: rest, rules => rules a >>= fun _ ↦ requireEach rest rules

@[simp] theorem require_eq_ok_iff {holds : Bool} {rule : RuleError} {u : Unit} :
    require holds rule = .ok u ↔ holds = true := by
  cases holds <;> simp [require]

@[simp] theorem requireOf_none {α : Type} (rules : α → Except RuleError Unit) :
    requireOf none rules = .ok () := rfl

@[simp] theorem requireOf_some {α : Type} (a : α) (rules : α → Except RuleError Unit) :
    requireOf (some a) rules = rules a := rfl

/-- Several settings are in order exactly if each of them is. -/
theorem requireEach_eq_ok_iff {α : Type} {items : List α} {rules : α → Except RuleError Unit} :
    requireEach items rules = .ok () ↔ ∀ a ∈ items, rules a = .ok () := by
  induction items with
  | nil => simp [requireEach]
  | cons a rest ih =>
    rw [requireEach]
    cases h : rules a with
    | error e => simp [h, bind, Except.bind]
    | ok u => simp [h, bind, Except.bind, ih]

end GuestConfig
