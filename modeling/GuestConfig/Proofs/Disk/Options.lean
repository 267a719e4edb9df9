import GuestConfig.Disk.Options
import GuestConfig.Proofs.OptionList
import GuestConfig.Proofs.Outcome

/-!
# Options of drives read back

A limit of zero is no limit and is not written.  Everything else that is written for a drive is read
as it was.

## What is here

* `Bandwidth.stored`, `DriveOptions.stored` — what the options are read as.
* `DriveOptions.isClean_entries` — what is written for a drive.
* `DriveOptions.ofOptions_of_get?` — **the options read back**, and
  `DriveOptions.entries_stored` — they are written as before.
* `DriveOptions.size?_of_get?`, `DriveOptions.get?_file_media` — the other options of a drive.
-/

set_option autoImplicit false

namespace GuestConfig

open OptionList (get?_append get?_flag get?_optional get?_unsetFlag isClean_append isClean_flag
  isClean_optional isClean_optional_map isClean_unsetFlag isCleanValue_of_isWord unlessSet whenSet)
open Text (isWord isWord_formatDecimal isWord_formatSize isWord_name isWord_of_all isWord_wordText)

/-! ## Words -/

theorem isWord_diskSerial (serial : DiskSerial) : isWord serial.text = true := by
  have h := serial.passes
  simp only [isDiskSerial, Bool.and_eq_true] at h
  exact isWord_of_all h.2 fun c hc ↦ Text.isWordChar_of_isNameChar hc

theorem isWord_worldWideName (wwn : WorldWideName) : isWord wwn.text = true := by
  obtain ⟨digits, hdigits, hnumber⟩ := (Option.any_eq_true _ _).1 wwn.passes
  rw [isWord, Text.dropStart_eq_some_iff.1 hdigits, List.all_append, Bool.and_eq_true]
  exact ⟨by decide, Text.isWordChar_of_isHexNumber hnumber⟩

theorem Throughput.parse_text (t : Throughput) : parse t.text = .ok t := by
  rw [parse, text, parseDecimal_formatDecimal (by decide) _]

/-! ## Limits -/

namespace Bandwidth

/-- What the limits are read as: a limit of zero is no limit. -/
def stored (b : Bandwidth) : Bandwidth where
  readOperations := b.readOperations.filter (· ≠ 0)
  readBurst := b.readBurst.filter (· ≠ 0)
  readBurstSeconds := b.readBurstSeconds.filter (· ≠ 0)
  writeOperations := b.writeOperations.filter (· ≠ 0)
  writeBurst := b.writeBurst.filter (· ≠ 0)
  writeBurstSeconds := b.writeBurstSeconds.filter (· ≠ 0)
  readMegabytes := b.readMegabytes.filter (·.hundredths ≠ 0)
  readMegabytesBurst := b.readMegabytesBurst.filter (·.hundredths ≠ 0)
  writeMegabytes := b.writeMegabytes.filter (·.hundredths ≠ 0)
  writeMegabytesBurst := b.writeMegabytesBurst.filter (·.hundredths ≠ 0)

theorem operations_stored (b : Bandwidth) : b.stored.operations = b.operations := by
  simp [operations, operationLimit, stored, Option.filter_filter]

theorem megabytes_stored (b : Bandwidth) : b.stored.megabytes = b.megabytes := by
  simp [megabytes, throughputLimit, stored, Option.filter_filter]

theorem isClean_operations (b : Bandwidth) : OptionList.IsClean b.operations := by
  simp only [operations, operationLimit, isClean_append]
  refine ⟨⟨⟨⟨⟨?_, ?_⟩, ?_⟩, ?_⟩, ?_⟩, ?_⟩ <;>
  exact isClean_optional_map (by decide) _ isWord_wordText

theorem isClean_megabytes (b : Bandwidth) : OptionList.IsClean b.megabytes := by
  simp only [megabytes, throughputLimit, isClean_append]
  refine ⟨⟨⟨?_, ?_⟩, ?_⟩, ?_⟩ <;>
  exact isClean_optional_map (by decide) _ fun _ ↦ isWord_formatDecimal _ _

end Bandwidth

/-! ## All options -/

namespace DriveOptions

/-- What the options are read as. -/
def stored (o : DriveOptions) : DriveOptions :=
  { o with bandwidth := o.bandwidth.stored }

@[simp] theorem stored_stored (o : DriveOptions) : o.stored.stored = o.stored := by
  simp [stored, Bandwidth.stored, Option.filter_filter]

/-- **Options that were read are written as before.** -/
theorem entries_stored (o : DriveOptions) (format : Option DiskFormat) (size : Option UInt64) :
    o.stored.entries format size = o.entries format size := by
  simp only [entries, stored, Bandwidth.operations_stored, Bandwidth.megabytes_stored]
  rfl

theorem isClean_entries (o : DriveOptions) (format : Option DiskFormat) (size : Option UInt64) :
    OptionList.IsClean (o.entries format size) := by
  have hdiscard (s : String) (hs : (if o.discard then some "on" else none) = some s) :
      OptionList.IsCleanValue s := by
    split at hs
    · obtain rfl := Option.some.inj hs
      exact isCleanValue_of_isWord (by decide)
    · cases hs
  simp only [entries, isClean_append]
  exact ⟨⟨⟨⟨⟨⟨⟨⟨⟨⟨⟨⟨⟨isClean_optional_map (by decide) _ (isWord_name (by decide)),
    isClean_unsetFlag (by decide) _⟩,
    isClean_optional_map (by decide) _ (isWord_name (by decide))⟩,
    isClean_optional (by decide) hdiscard⟩,
    isClean_optional_map (by decide) _ (isWord_name (by decide))⟩,
    o.bandwidth.isClean_operations⟩, isClean_flag (by decide) _⟩,
    o.bandwidth.isClean_megabytes⟩, isClean_unsetFlag (by decide) _⟩,
    isClean_flag (by decide) _⟩,
    isClean_optional_map (by decide) _ isWord_diskSerial⟩,
    isClean_optional_map (by decide) _ isWord_formatSize⟩,
    isClean_flag (by decide) _⟩,
    isClean_optional_map (by decide) _ isWord_worldWideName⟩

section reading

variable {o : DriveOptions} {format : Option DiskFormat} {size : Option UInt64}
  {list : OptionList}

theorem bandwidth_of_get?
    (h : ∀ name, list.get? name = (OptionList.mk (o.entries format size)).get? name) :
    Bandwidth.ofOptions list = .ok o.bandwidth.stored := by
  have hwords : list.get? "iops_rd" =
        (o.bandwidth.readOperations.filter (· ≠ 0)).map Word.text ∧
      list.get? "iops_rd_max" = (o.bandwidth.readBurst.filter (· ≠ 0)).map Word.text ∧
      list.get? "iops_rd_max_length" =
        (o.bandwidth.readBurstSeconds.filter (· ≠ 0)).map Word.text ∧
      list.get? "iops_wr" = (o.bandwidth.writeOperations.filter (· ≠ 0)).map Word.text ∧
      list.get? "iops_wr_max" = (o.bandwidth.writeBurst.filter (· ≠ 0)).map Word.text ∧
      list.get? "iops_wr_max_length" =
        (o.bandwidth.writeBurstSeconds.filter (· ≠ 0)).map Word.text := by
    simp [h, entries, Bandwidth.operations, Bandwidth.operationLimit, Bandwidth.megabytes,
      Bandwidth.throughputLimit, get?_append, get?_flag, get?_optional, get?_unsetFlag]
  have hlimits : list.get? "mbps_rd" =
        (o.bandwidth.readMegabytes.filter (·.hundredths ≠ 0)).map Throughput.text ∧
      list.get? "mbps_rd_max" =
        (o.bandwidth.readMegabytesBurst.filter (·.hundredths ≠ 0)).map Throughput.text ∧
      list.get? "mbps_wr" =
        (o.bandwidth.writeMegabytes.filter (·.hundredths ≠ 0)).map Throughput.text ∧
      list.get? "mbps_wr_max" =
        (o.bandwidth.writeMegabytesBurst.filter (·.hundredths ≠ 0)).map Throughput.text := by
    simp [h, entries, Bandwidth.operations, Bandwidth.operationLimit, Bandwidth.megabytes,
      Bandwidth.throughputLimit, get?_append, get?_flag, get?_optional, get?_unsetFlag]
  obtain ⟨hrd, hrdMax, hrdLength, hwr, hwrMax, hwrLength⟩ := hwords
  obtain ⟨hread, hreadMax, hwrite, hwriteMax⟩ := hlimits
  have hthroughput {name : String} {limit : Option Throughput}
      (hget : list.get? name = limit.map Throughput.text) :
      Bandwidth.throughput? list name = .ok limit :=
    OptionList.read?_of_get? hget fun t _ ↦ by rw [Throughput.parse_text]; rfl
  simp only [Bandwidth.ofOptions, OptionList.word?_of_get? hrd, OptionList.word?_of_get? hrdMax,
    OptionList.word?_of_get? hrdLength, OptionList.word?_of_get? hwr,
    OptionList.word?_of_get? hwrMax, OptionList.word?_of_get? hwrLength, hthroughput hread,
    hthroughput hreadMax, hthroughput hwrite, hthroughput hwriteMax, bind, Except.bind, pure,
    Except.pure]
  rfl

/-- **The options of a drive read back.** -/
theorem ofOptions_of_get?
    (h : ∀ name, list.get? name = (OptionList.mk (o.entries format size)).get? name) :
    ofOptions list = .ok o.stored := by
  have hnames : list.get? "aio" = o.asyncIo.map Token.name ∧
      list.get? "backup" = (unlessSet o.backup).map flagText ∧
      list.get? "cache" = o.cache.map Token.name ∧
      list.get? "discard" = (if o.discard then some "on" else none) ∧
      list.get? "ssd" = (whenSet o.emulateSsd).map flagText ∧
      list.get? "iothread" = (whenSet o.ioThread).map flagText ∧
      list.get? "ro" = (whenSet o.readOnly).map flagText ∧
      list.get? "replicate" = (unlessSet o.replicate).map flagText ∧
      list.get? "serial" = o.serial.map Checked.text ∧
      list.get? "wwn" = o.wwn.map Checked.text := by
    simp [h, entries, Bandwidth.operations, Bandwidth.operationLimit, Bandwidth.megabytes,
      Bandwidth.throughputLimit, get?_append, get?_flag, get?_optional, get?_unsetFlag]
  obtain ⟨haio, hbackup, hcache, hdiscard, hssd, hthread, hro, hreplicate, hserial, hwwn⟩ := hnames
  have hon : (list.get? "discard" == some "on") = o.discard := by
    rw [hdiscard]
    cases o.discard <;> decide
  simp only [ofOptions, OptionList.token?_of_get? haio, OptionList.flag?_of_get? hbackup,
    bandwidth_of_get? h, OptionList.token?_of_get? hcache, hon, OptionList.flag?_of_get? hssd,
    OptionList.flag?_of_get? hthread, OptionList.flag?_of_get? hro,
    OptionList.flag?_of_get? hreplicate, OptionList.checked?_of_get? hserial,
    OptionList.checked?_of_get? hwwn, bind, Except.bind, pure, Except.pure,
    OptionList.getD_whenSet, OptionList.getD_unlessSet]
  rfl

/-- The size of a drive reads back, unless it is zero. -/
theorem size?_of_get?
    (h : ∀ name, list.get? name = (OptionList.mk (o.entries format size)).get? name) :
    list.decoded? "size" (fun s ↦ (parseSize s).mapError .size) = .ok (size.filter (· ≠ 0)) := by
  have hsize : list.get? "size" = (size.filter (· ≠ 0)).map formatSize := by
    simp [h, entries, Bandwidth.operations, Bandwidth.operationLimit, Bandwidth.megabytes,
      Bandwidth.throughputLimit, get?_append, get?_flag, get?_optional, get?_unsetFlag]
  exact OptionList.decoded?_of_get? hsize fun n _ ↦ by rw [parseSize_formatSize]; rfl

/-- What else could be said of a drive is not among its options. -/
theorem get?_file_media
    (h : ∀ name, list.get? name = (OptionList.mk (o.entries format size)).get? name) :
    list.get? "file" = none ∧ list.get? "media" = none := by
  simp [h, entries, Bandwidth.operations, Bandwidth.operationLimit, Bandwidth.megabytes,
    Bandwidth.throughputLimit, get?_append, get?_flag, get?_optional, get?_unsetFlag]

end reading

end DriveOptions

end GuestConfig
