import GuestConfig.Disk.Basic
import GuestConfig.Proofs.Outcome

/-!
# What a stored drive decodes to

A stored drive is told apart by its volume and by its medium.  The lemmas here say, for a drive that
was decoded, which volume it was decoded from and what that volume has become.

## What is here

* `Drive.token?` — the volume of a stored drive, as it is written.
* `Drive.ofOptions_eq_disk_iff` — when a drive is a disk.
* `Disk.ofVolume_eq_ok_iff` — **the two forms of a disk**: with a usual name in its parts, or with
  any other name as it is.
* `Disks.ofWire_eq_ok_iff` — the drives of a guest, bus by bus.
-/

set_option autoImplicit false

namespace GuestConfig

open Text (splitOnce)

namespace Drive

/-- The volume of a stored drive: the option for it, or else what stands first. -/
def token? (options : OptionList) : Option String :=
  (options.get? "file").or options.leading?

/-- No disk is found where a medium is asked for. -/
theorem ofMedia_ne_disk {volume : String} {options : OptionList} {disk : Disk} :
    ofMedia volume options ≠ .ok (.disk disk) := by
  intro h
  unfold ofMedia at h
  repeat' split at h
  all_goals
    obtain ⟨_, -, h⟩ := map_eq_ok_iff.1 h
    cases h

/-- **A drive is a disk exactly if it is no medium and its volume is no path.** -/
theorem ofOptions_eq_disk_iff {options : OptionList} {disk : Disk} :
    ofOptions options = .ok (.disk disk) ↔
      ∃ volume, token? options = some volume ∧ options.get? "media" ≠ some "cdrom" ∧
        volume.toList.head? ≠ some '/' ∧ Disk.ofVolume volume options = .ok disk := by
  rw [ofOptions, token?]
  cases htoken : (options.get? "file").or options.leading? with
  | none => simp
  | some volume =>
    simp only [Option.some.injEq, exists_eq_left']
    by_cases hmedia : options.get? "media" = some "cdrom"
    · rw [if_pos hmedia]
      exact ⟨fun h ↦ absurd h ofMedia_ne_disk, fun h ↦ absurd hmedia h.1⟩
    · rw [if_neg hmedia]
      by_cases hpath : volume.toList.head? = some '/'
      · rw [if_pos hpath]
        simp [bind_eq_ok_iff, functorMap_eq_ok_iff, hpath]
      · rw [if_neg hpath, map_eq_ok_iff]
        simp [hmedia, hpath]

end Drive

namespace Disk

/-- The format of an image: the one that the name of its volume tells, or else an option. -/
def partsFormat (v : Volume) (list : OptionList) : Except WireError DiskFormat :=
  match v.format with
  | some format => .ok format
  | none => format? list

/-- The disk that a volume with a usual name becomes. -/
def ofParts (v : Volume) (size : UInt64) (format : DiskFormat) (options : DriveOptions) : Disk where
  storage := v.storage
  size := size
  format := format
  id := some v.diskId
  linked := v.linked
  naming := some v.naming
  isBase := v.isBase
  options := options

/-- The disk that a volume with any other name becomes. -/
def verbatim (volume : String) (storage : List Char) (size : UInt64) (format : DiskFormat)
    (options : DriveOptions) : Disk where
  storage := String.ofList storage
  size := size
  format := format
  volume := some volume
  options := options

/-- **The two forms of a disk.**  A volume with a usual name is kept in its parts, and any other
volume that has a storage is kept as it is. -/
theorem ofVolume_eq_ok_iff {volume : String} {list : OptionList} {disk : Disk} :
    ofVolume volume list = .ok disk ↔
      ∃ size options, list.decoded? "size" (fun s ↦ (parseSize s).mapError .size) = .ok size ∧
        DriveOptions.ofOptions list = .ok options ∧
        ((∃ v format, Volume.parse? volume = some v ∧ partsFormat v list = .ok format ∧
            ofParts v (size.getD 0) format options = disk) ∨
          (∃ storage name format, Volume.parse? volume = none ∧
            splitOnce ':' volume.toList = some (storage, name) ∧ formatOf name list = .ok format ∧
            verbatim volume storage (size.getD 0) format options = disk)) := by
  simp only [ofVolume, bind_eq_ok_iff, exists_and_left]
  refine exists_congr fun size ↦ and_congr_right fun _ ↦
    exists_congr fun options ↦ and_congr_right fun _ ↦ ?_
  cases hparse : Volume.parse? volume with
  | some v =>
    cases hformat : v.format with
    | some format => simp [partsFormat, hformat, pure, Except.pure, bind, Except.bind, ofParts]
    | none => simp [partsFormat, hformat, functorMap_eq_ok_iff, ofParts]
  | none =>
    cases hsplit : splitOnce ':' volume.toList with
    | none => simp
    | some pieces =>
      obtain ⟨storage, name⟩ := pieces
      simp [functorMap_eq_ok_iff, verbatim, and_assoc]

/-- A disk that was decoded knows its volume: by its name, or by its number. -/
theorem isAttached_of_ofVolume {volume : String} {list : OptionList} {disk : Disk}
    (h : ofVolume volume list = .ok disk) : disk.volume.isSome ∨ disk.id.isSome := by
  obtain ⟨size, options, -, -, h⟩ := ofVolume_eq_ok_iff.1 h
  rcases h with ⟨v, format, -, -, rfl⟩ | ⟨storage, name, format, -, -, -, rfl⟩
  · exact .inr rfl
  · exact .inl rfl

end Disk

/-- **The drives of a guest, bus by bus.** -/
theorem Disks.ofWire_eq_ok_iff {w : Wire} {r : Option Disks} :
    ofWire w = .ok r ↔
      (∀ bus : Bus, w.slots bus.kind bus.stem Drive.decode = .ok ((r.getD { }).onBus bus)) ∧
        r ≠ some { } := by
  simp only [ofWire, bind_eq_ok_iff, pure_eq_ok_iff, ite_none_eq_iff]
  constructor
  · rintro ⟨ide, hide, sata, hsata, scsi, hscsi, virtio, hvirtio, hr, hne⟩
    refine ⟨fun bus ↦ ?_, hne⟩
    rw [← hr]
    cases bus <;> assumption
  · rintro ⟨h, hne⟩
    exact ⟨_, h .ide, _, h .sata, _, h .scsi, _, h .virtio, rfl, hne⟩

end GuestConfig
