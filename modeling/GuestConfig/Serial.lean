import GuestConfig.Plan.Placement
import GuestConfig.Value.Reader

/-!
# Serial ports

A serial port of a guest ends in a socket on the host, which the console uses, or in a character
device of the host.
-/

set_option autoImplicit false

namespace GuestConfig

open Text (dropStart isBlank trimmed)

/-- The path of a host device can stand in an option list: it has no comma and no blank. -/
def isPlainPath (cs : List Char) : Bool :=
  cs.all fun c ↦ c != ',' && !isBlank c

/-- The path of a character device: a plain path below `/dev/`. -/
def isSerialPath (cs : List Char) : Bool :=
  ((dropStart "/dev/".toList cs).any (!·.isEmpty)) && isPlainPath cs

/-- The path of a character device of the host. -/
abbrev SerialPath : Type :=
  Checked (.of isSerialPath .serialPath)

/-- Where a serial port ends. -/
inductive SerialPort where
  /-- In a socket. -/
  | socket
  /-- In a device of the host. -/
  | device (path : SerialPath)
  deriving DecidableEq

namespace SerialPort

/-- The stem of the keys of serial ports. -/
def stem : String :=
  "serial"

/-- A serial port as it is stored. -/
def text : SerialPort → String
  | socket => "socket"
  | device path => path.text

/-- Reads a stored serial port. -/
def decode (s : String) : Except WireError SerialPort :=
  match trimmed s with
  | "socket" => .ok socket
  | path => (Checked.decode path).map device

@[simp] theorem decode_text (port : SerialPort) : decode port.text = .ok port := by
  cases port with
  | socket => rfl
  | device path =>
    have hpath := path.passes
    simp only [isSerialPath, Bool.and_eq_true] at hpath
    have hplain : ∀ c ∈ path.text.toList, isBlank c = false := by
      intro c hc
      have := List.all_eq_true.1 hpath.2 c hc
      simp_all
    have htrim : trimmed path.text = path.text := by
      rw [trimmed, Text.trim_eq_self_of_all hplain, String.ofList_toList]
    simp only [decode, text, htrim]
    split
    · next h =>
      rw [h] at hpath
      exact absurd hpath.1 (by decide +kernel)
    · simp [Except.map]

/-- The serial ports of a guest. -/
def ofWire (w : Wire) : Except WireError (Option (SlotMap .serial SerialPort)) :=
  w.slots .serial stem decode

/-- Every change of a serial port needs a reboot. -/
def placement : Placement SerialPort :=
  .byText text true true

/-- Reads a serial port. -/
def ofValue? (d : Dialect) (v : Value) : Option SerialPort := do
  match ← v.tagged? d "type" "path" with
  | ("socket", content) => if Value.isAbsent content then some socket else none
  | ("device", some content) => content.checked?.map device
  | _ => none

/-- Writes a serial port. -/
def toValue : SerialPort → Value
  | socket => .ofTag "type" "socket"
  | device path => .ofTagged "type" "device" "path" (.ofChecked path)

end SerialPort

end GuestConfig
