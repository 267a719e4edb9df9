import GuestConfig.Number.Floating
import GuestConfig.OptionList
import GuestConfig.Unit.FixedPoint
import GuestConfig.Value.Reader

/-!
# Limits of throughput

A drive can be limited in megabytes per second and in operations per second, for reads and for
writes, with a higher limit for bursts.  A limit of zero is no limit.

## What is here

* `Throughput` — megabytes per second with two places, as a whole number of hundredths.
* `Bandwidth` — the limits of a drive; `Bandwidth.operations` and `Bandwidth.megabytes` are the
  options that they are stored as, and `Bandwidth.ofOptions` reads them.
-/

set_option autoImplicit false

namespace GuestConfig

open Text (trim)

/-! ## One limit -/

/-- Megabytes per second, in hundredths. -/
structure Throughput where
  /-- The hundredths of a megabyte. -/
  hundredths : UInt64
  deriving DecidableEq, Repr

namespace Throughput

/-- The places of a limit. -/
def places : Nat := 2

/-- The limit nearest to a number of megabytes. -/
def ofFloat? (x : Float) : Option Throughput :=
  (scaleFloat x places).map mk

/-- A limit as a number of megabytes. -/
def toFloat (t : Throughput) : Float :=
  t.hundredths.toFloat / 100.0

/-- Reads a limit.  Two places are taken exactly; anything else that is a number is rounded. -/
def parse (s : String) : Except UnitError Throughput :=
  match parseDecimal s places with
  | .ok n => .ok ⟨n⟩
  | .error e =>
    match (Number.floating? (trim s.toList)).bind ofFloat? with
    | some t => .ok t
    | none => .error e

/-- Writes a limit. -/
def text (t : Throughput) : String :=
  formatDecimal t.hundredths.toNat places

/-- Reads a limit from a document: any number that is not negative. -/
def ofValue? (v : Value) : Option Throughput :=
  v.float?.bind ofFloat?

/-- Writes a limit to a document. -/
def toValue (t : Throughput) : Value :=
  .float t.toFloat

end Throughput

/-! ## All limits -/

/-- The limits of a drive. -/
structure Bandwidth where
  /-- Read operations per second. -/
  readOperations : Option UInt32 := none
  /-- Read operations per second in a burst. -/
  readBurst : Option UInt32 := none
  /-- The seconds that a burst of reads may last. -/
  readBurstSeconds : Option UInt32 := none
  /-- Write operations per second. -/
  writeOperations : Option UInt32 := none
  /-- Write operations per second in a burst. -/
  writeBurst : Option UInt32 := none
  /-- The seconds that a burst of writes may last. -/
  writeBurstSeconds : Option UInt32 := none
  /-- The throughput of reads. -/
  readMegabytes : Option Throughput := none
  /-- The throughput of reads in a burst. -/
  readMegabytesBurst : Option Throughput := none
  /-- The throughput of writes. -/
  writeMegabytes : Option Throughput := none
  /-- The throughput of writes in a burst. -/
  writeMegabytesBurst : Option Throughput := none
  deriving DecidableEq, Repr

namespace Bandwidth

/-- A limit of operations as an option, unless it is none. -/
def operationLimit (name : String) (limit : Option UInt32) : List Entry :=
  OptionList.optional name ((limit.filter (· ≠ 0)).map Word.text)

/-- A limit of throughput as an option, unless it is none. -/
def throughputLimit (name : String) (limit : Option Throughput) : List Entry :=
  OptionList.optional name ((limit.filter (·.hundredths ≠ 0)).map Throughput.text)

/-- The limits of operations as options. -/
def operations (b : Bandwidth) : List Entry :=
  operationLimit "iops_rd" b.readOperations ++
    operationLimit "iops_rd_max" b.readBurst ++
    operationLimit "iops_rd_max_length" b.readBurstSeconds ++
    operationLimit "iops_wr" b.writeOperations ++
    operationLimit "iops_wr_max" b.writeBurst ++
    operationLimit "iops_wr_max_length" b.writeBurstSeconds

/-- The limits of throughput as options. -/
def megabytes (b : Bandwidth) : List Entry :=
  throughputLimit "mbps_rd" b.readMegabytes ++
    throughputLimit "mbps_rd_max" b.readMegabytesBurst ++
    throughputLimit "mbps_wr" b.writeMegabytes ++
    throughputLimit "mbps_wr_max" b.writeMegabytesBurst

/-- A limit of throughput in a list of options. -/
def throughput? (options : OptionList) (name : String) : Except WireError (Option Throughput) :=
  options.read? name fun s ↦ (Throughput.parse s).toOption

/-- The limits in a list of options. -/
def ofOptions (options : OptionList) : Except WireError Bandwidth := do
  return {
    readOperations := ← options.word? "iops_rd"
    readBurst := ← options.word? "iops_rd_max"
    readBurstSeconds := ← options.word? "iops_rd_max_length"
    writeOperations := ← options.word? "iops_wr"
    writeBurst := ← options.word? "iops_wr_max"
    writeBurstSeconds := ← options.word? "iops_wr_max_length"
    readMegabytes := ← throughput? options "mbps_rd"
    readMegabytesBurst := ← throughput? options "mbps_rd_max"
    writeMegabytes := ← throughput? options "mbps_wr"
    writeMegabytesBurst := ← throughput? options "mbps_wr_max" }

/-- Reads the limits from a document. -/
def ofValue? (v : Value) : Option Bandwidth := do
  let fields ← v.fields? ["iops_read", "iops_read_burst", "iops_read_burst_secs", "iops_write",
    "iops_write_burst", "iops_write_burst_secs", "mbps_read", "mbps_read_burst", "mbps_write",
    "mbps_write_burst"]
  return {
    readOperations := ← fields.optional "iops_read" Value.word?
    readBurst := ← fields.optional "iops_read_burst" Value.word?
    readBurstSeconds := ← fields.optional "iops_read_burst_secs" Value.word?
    writeOperations := ← fields.optional "iops_write" Value.word?
    writeBurst := ← fields.optional "iops_write_burst" Value.word?
    writeBurstSeconds := ← fields.optional "iops_write_burst_secs" Value.word?
    readMegabytes := ← fields.optional "mbps_read" Throughput.ofValue?
    readMegabytesBurst := ← fields.optional "mbps_read_burst" Throughput.ofValue?
    writeMegabytes := ← fields.optional "mbps_write" Throughput.ofValue?
    writeMegabytesBurst := ← fields.optional "mbps_write_burst" Throughput.ofValue? }

/-- Writes the limits to a document. -/
def toValue (b : Bandwidth) : Value :=
  .object [
    ("iops_read", .ofOption .ofWord b.readOperations),
    ("iops_read_burst", .ofOption .ofWord b.readBurst),
    ("iops_read_burst_secs", .ofOption .ofWord b.readBurstSeconds),
    ("iops_write", .ofOption .ofWord b.writeOperations),
    ("iops_write_burst", .ofOption .ofWord b.writeBurst),
    ("iops_write_burst_secs", .ofOption .ofWord b.writeBurstSeconds),
    ("mbps_read", .ofOption Throughput.toValue b.readMegabytes),
    ("mbps_read_burst", .ofOption Throughput.toValue b.readMegabytesBurst),
    ("mbps_write", .ofOption Throughput.toValue b.writeMegabytes),
    ("mbps_write_burst", .ofOption Throughput.toValue b.writeMegabytesBurst)]

end Bandwidth

end GuestConfig
