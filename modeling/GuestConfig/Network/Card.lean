import GuestConfig.Text.Natural
import GuestConfig.Value.Reader

/-!
# Emulated network cards

The model of card that a guest sees, and the size of the frames that it may send.
-/

set_option autoImplicit false

namespace GuestConfig

/-- A model of network card. -/
inductive NetworkModel where
  /-- Intel 8254x. -/
  | e1000
  /-- Intel 82540EM. -/
  | e1000_82540em
  /-- Intel 82544GC. -/
  | e1000_82544gc
  /-- Intel 82545EM. -/
  | e1000_82545em
  /-- Intel 82574L. -/
  | e1000e
  /-- Intel 82551. -/
  | i82551
  /-- Intel 82557B. -/
  | i82557b
  /-- Intel 82559ER. -/
  | i82559er
  /-- NE2000 on an ISA bus. -/
  | ne2kIsa
  /-- NE2000 on a PCI bus. -/
  | ne2kPci
  /-- AMD PCnet. -/
  | pcnet
  /-- Realtek 8139. -/
  | rtl8139
  /-- A paravirtual card. -/
  | virtio
  /-- VMware's paravirtual card. -/
  | vmxnet3
  deriving DecidableEq, Repr

namespace NetworkModel

instance : Token NetworkModel where
  members := [.e1000, .e1000_82540em, .e1000_82544gc, .e1000_82545em, .e1000e, .i82551, .i82557b,
    .i82559er, .ne2kIsa, .ne2kPci, .pcnet, .rtl8139, .virtio, .vmxnet3]
  name
    | .e1000 => "e1000"
    | .e1000_82540em => "e1000-82540em"
    | .e1000_82544gc => "e1000-82544gc"
    | .e1000_82545em => "e1000-82545em"
    | .e1000e => "e1000e"
    | .i82551 => "i82551"
    | .i82557b => "i82557b"
    | .i82559er => "i82559er"
    | .ne2kIsa => "ne2k_isa"
    | .ne2kPci => "ne2k_pci"
    | .pcnet => "pcnet"
    | .rtl8139 => "rtl8139"
    | .virtio => "virtio"
    | .vmxnet3 => "vmxnet3"
  complete a := by cases a <;> decide
  distinct a b h := by cases a <;> cases b <;> simp_all

/-- The model of an interface that does not say. -/
def standard : NetworkModel :=
  virtio

end NetworkModel

/-- The largest frame that an interface sends. -/
inductive Mtu where
  /-- As large as the bridge takes. -/
  | inherit
  /-- A number of bytes. -/
  | bytes (n : UInt16)
  deriving DecidableEq, Repr

namespace Mtu

/-- The smallest number of bytes. -/
def leastBytes : UInt16 := 576

/-- The largest number of bytes. -/
def greatestBytes : UInt16 := 65520

/-- The number that stands for an MTU in an option list. -/
def code : Mtu → UInt16
  | inherit => 1
  | bytes n => n

/-- The MTU that a number stands for. -/
def ofCode (n : UInt16) : Mtu :=
  if n = 1 then inherit else bytes n

/-- Only one byte is not read back as such. -/
theorem ofCode_code {mtu : Mtu} (h : mtu ≠ bytes 1) : ofCode mtu.code = mtu := by
  cases mtu with
  | inherit => rfl
  | bytes n =>
    have : n ≠ 1 := fun e ↦ h (e ▸ rfl)
    simp [ofCode, code, this]

/-- Reads an MTU: the word `inherit`, or a number, also as a text. -/
def ofValue? : Value → Option Mtu
  | .text "inherit" => some inherit
  | .text s => (Text.word? s.toList).map bytes
  | v => v.word?.map bytes

/-- Writes an MTU. -/
def toValue : Mtu → Value
  | inherit => "inherit"
  | bytes n => .ofWord n

end Mtu

end GuestConfig
