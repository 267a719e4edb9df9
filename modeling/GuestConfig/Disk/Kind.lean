import GuestConfig.Slot
import GuestConfig.Token

/-!
# Kinds of drives

The buses that drives sit on, and the words that drives are described with: image formats, cache
modes, ways of doing input and output, and ways of naming volumes.
-/

set_option autoImplicit false

namespace GuestConfig

/-! ## Buses -/

/-- The bus of a drive. -/
inductive Bus where
  /-- IDE. -/
  | ide
  /-- SATA. -/
  | sata
  /-- SCSI. -/
  | scsi
  /-- VirtIO. -/
  | virtio
  deriving DecidableEq, Repr

namespace Bus

/-- The buses, in the order in which their drives are planned. -/
def all : List Bus :=
  [ide, sata, scsi, virtio]

/-- The kind of the slots of a bus. -/
def kind : Bus → SlotKind
  | ide => .ide
  | sata => .sata
  | scsi => .scsi
  | virtio => .virtio

/-- The stem of the keys of the drives on a bus. -/
def stem : Bus → String
  | ide => "ide"
  | sata => "sata"
  | scsi => "scsi"
  | virtio => "virtio"

/-- Whether drives can be attached and detached while the guest runs. -/
def canHotplug : Bus → Bool
  | ide => false
  | sata => false
  | scsi => true
  | virtio => true

end Bus

/-! ## Words -/

/-- The format of an image. -/
inductive DiskFormat where
  /-- The first version of the QEMU format. -/
  | cow
  /-- The second version of the QEMU format. -/
  | qcow
  /-- The current version of the QEMU format. -/
  | qcow2
  /-- The enhanced QEMU format. -/
  | qed
  /-- No format at all. -/
  | raw
  /-- The format of VirtualBox. -/
  | vdi
  /-- The format of VMware. -/
  | vmdk
  deriving DecidableEq, Repr

instance : Token DiskFormat where
  members := [.cow, .qcow, .qcow2, .qed, .raw, .vdi, .vmdk]
  name
    | .cow => "cow"
    | .qcow => "qcow"
    | .qcow2 => "qcow2"
    | .qed => "qed"
    | .raw => "raw"
    | .vdi => "vdi"
    | .vmdk => "vmdk"
  complete a := by cases a <;> decide
  distinct a b h := by cases a <;> cases b <;> simp_all

/-- How the host caches a drive. -/
inductive DiskCache where
  /-- No cache, and every write is flushed. -/
  | directSync
  /-- No cache. -/
  | none
  /-- A cache that is never flushed. -/
  | noFlush
  /-- A cache for reads and writes. -/
  | writeBack
  /-- A cache for reads. -/
  | writeThrough
  deriving DecidableEq, Repr

instance : Token DiskCache where
  members := [.directSync, .none, .noFlush, .writeBack, .writeThrough]
  name
    | .directSync => "directsync"
    | .none => "none"
    | .noFlush => "unsafe"
    | .writeBack => "writeback"
    | .writeThrough => "writethrough"
  complete a := by cases a <;> decide
  distinct a b h := by cases a <;> cases b <;> simp_all

/-- How the host does the input and output of a drive. -/
inductive AsyncIo where
  /-- By rings shared with the kernel. -/
  | ioUring
  /-- By the kernel. -/
  | native
  /-- By threads. -/
  | threads
  deriving DecidableEq, Repr

instance : Token AsyncIo where
  members := [.ioUring, .native, .threads]
  name
    | .ioUring => "io_uring"
    | .native => "native"
    | .threads => "threads"
  complete a := by cases a <;> decide
  distinct a b h := by cases a <;> cases b <;> simp_all

/-- How a storage names its images. -/
inductive VolumeNaming where
  /-- By a path, with the format as an extension. -/
  | file
  /-- By a plain name. -/
  | volume
  deriving DecidableEq, Repr

instance : Token VolumeNaming where
  members := [.file, .volume]
  name
    | .file => "file"
    | .volume => "volume"
  complete a := by cases a <;> decide
  distinct a b h := by cases a <;> cases b <;> simp_all

end GuestConfig
