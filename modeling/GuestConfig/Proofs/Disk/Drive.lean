import GuestConfig.Proofs.Disk.Decode
import GuestConfig.Proofs.Disk.Options
import GuestConfig.Proofs.Disk.Volume

/-!
# Drives read back

A drive is written as the name of its volume and its options.  What it is read as depends on the
name alone: a name that could be a path, a medium or the name of an image is taken for one.  A disk
that is to be made is written with its size in place of a name, and no storage names images that
way.

## What is here

* `Drive.IsVolumeText` — the texts that can stand for a volume, and `Disk.decode_text`, the disk
  that is read from such a text and from options.
* `Disk.ofVolume_parts`, `Disk.exists_ofVolume_verbatim` — the two forms of a disk that was written.
* `Disk.exists_decode_newText`, `CdRom.decode_text`, `Passthrough.decode_text` — **drives read
  back**.
* `Passthrough.exists_decode_text_iff` — a device of the host can be read exactly if its path has no
  `=`.
-/

set_option autoImplicit false

namespace GuestConfig

open OptionList (IsCleanValue get?_append get?_flag get?_optional get?_pair get?_positional
  get?_unsetFlag isClean_append isClean_optional_map isClean_pair isClean_positional
  isCleanValue_of_isWord parse_text_of_isClean positional)
open Text (dropStart_append isPathName isPlainName isWord isWord_append isWord_of_isPathName
  isWord_of_isPlainName splitOnce splitOnce_append)

/-! ## Entries -/

namespace Drive

/-- A text that can stand for a volume in front of options. -/
structure IsVolumeText (volume : String) : Prop where
  clean : IsCleanValue volume
  equals : '=' ∉ volume.toList
  nonempty : volume ≠ ""

theorem isVolumeText_of_isWord {volume : String} (h : isWord volume = true) (hne : volume ≠ "") :
    IsVolumeText volume :=
  ⟨isCleanValue_of_isWord h, Text.equals_not_mem_of_isWord h, hne⟩

section entries

variable (volume : String) (o : DriveOptions) (format : Option DiskFormat) (size : Option UInt64)

theorem parse_text (h : IsVolumeText volume) :
    OptionList.parse (OptionList.mk (positional volume ++ o.entries format size)).text =
      .mk (positional volume ++ o.entries format size) :=
  parse_text_of_isClean
    (isClean_append.2
      ⟨isClean_positional h.clean h.equals h.nonempty, o.isClean_entries format size⟩)

theorem get?_entries (name : String) :
    (OptionList.mk (positional volume ++ o.entries format size)).get? name =
      (OptionList.mk (o.entries format size)).get? name := by
  rw [get?_append, get?_positional, Option.none_or]

theorem token?_entries :
    token? (.mk (positional volume ++ o.entries format size)) = some volume := by
  rw [token?, (DriveOptions.get?_file_media (get?_entries volume o format size)).1]
  rfl

end entries

end Drive

/-! ## Disks -/

namespace Disk

variable {volume : String} (o : DriveOptions) (format : Option DiskFormat) (size : Option UInt64)

/-- A written format reads back; a raw image needs none. -/
theorem format?_entries :
    format? (.mk (positional volume ++ o.entries format size)) = .ok (format.getD .raw) := by
  have hformat : (OptionList.mk (positional volume ++ o.entries format size)).get? "format" =
      format.map Token.name := by
    simp [DriveOptions.entries, Bandwidth.operations, Bandwidth.operationLimit, Bandwidth.megabytes,
      Bandwidth.throughputLimit, get?_append, get?_flag, get?_optional, get?_positional,
      get?_unsetFlag]
  rw [format?, OptionList.token?_of_get? hformat]
  rfl

/-- **An entry is read as a disk** if its volume is no path. -/
theorem decode_text {disk : Disk} (h : Drive.IsVolumeText volume)
    (hpath : volume.toList.head? ≠ some '/')
    (hdisk : ofVolume volume (.mk (positional volume ++ o.entries format size)) = .ok disk) :
    Drive.decode (OptionList.mk (positional volume ++ o.entries format size)).text =
      .ok (.disk disk) := by
  have hmedia := (DriveOptions.get?_file_media (Drive.get?_entries volume o format size)).2
  rw [Drive.decode, Drive.parse_text volume o format size h, Drive.ofOptions_eq_disk_iff]
  exact ⟨volume, Drive.token?_entries volume o format size, by rw [hmedia]; nofun, hpath, hdisk⟩

/-- **A volume with a usual name is read in its parts.** -/
theorem ofVolume_parts {v : Volume} (h : Volume.parse? volume = some v) :
    ofVolume volume (.mk (positional volume ++ o.entries format size)) =
      .ok (ofParts v ((size.filter (· ≠ 0)).getD 0) (v.format.getD (format.getD .raw))
        o.stored) := by
  have hget := Drive.get?_entries volume o format size
  refine ofVolume_eq_ok_iff.2
    ⟨_, _, DriveOptions.size?_of_get? hget, DriveOptions.ofOptions_of_get? hget,
    .inl ⟨v, _, h, ?_, rfl⟩⟩
  rw [partsFormat]
  cases v.format with
  | none => exact format?_entries o format size
  | some kept => rfl

/-- **A volume with any other name is read as it is.** -/
theorem exists_ofVolume_verbatim {storage name : List Char} (h : Volume.parse? volume = none)
    (hsplit : splitOnce ':' volume.toList = some (storage, name)) :
    ∃ kept, ofVolume volume (.mk (positional volume ++ o.entries format size)) =
      .ok (verbatim volume storage ((size.filter (· ≠ 0)).getD 0) kept o.stored) := by
  have hformat : ∃ kept, formatOf name (.mk (positional volume ++ o.entries format size)) =
      .ok kept := by
    unfold formatOf
    split
    · exact ⟨_, rfl⟩
    · exact ⟨_, format?_entries o format size⟩
  obtain ⟨kept, hkept⟩ := hformat
  have hget := Drive.get?_entries volume o format size
  exact ⟨kept, ofVolume_eq_ok_iff.2
    ⟨_, _, DriveOptions.size?_of_get? hget, DriveOptions.ofOptions_of_get? hget,
      .inr ⟨storage, name, kept, h, hsplit, hkept, rfl⟩⟩⟩

/-- A size in gibibytes is not the name of an image. -/
theorem parse?_sized {storage : String} (h : ':' ∉ storage.toList) (kib : UInt64) :
    Volume.parse? (storage ++ ":" ++ formatGibibytes kib) = none := by
  have hchar {c : Char} (hc : c ∈ (formatGibibytes kib).toList) : c.isDigit = true ∨ c = '.' :=
    isDigit_or_of_mem_formatDecimal hc
  have hslash : '/' ∉ (formatGibibytes kib).toList := fun hc ↦ by
    rcases hchar hc with hdigit | hpoint
    · exact absurd hdigit (by decide)
    · exact absurd hpoint (by decide)
  have hword (word : String) (c : Char) (hc : c ∈ (word ++ "-").toList)
      (hletter : c.isDigit = false) (hpoint : c ≠ '.') :
      ImageName.read? word (formatGibibytes kib).toList = none := by
    rw [ImageName.read?, Option.bind_eq_bind, Option.bind_eq_none_iff]
    intro rest hrest
    have hmem := Text.dropStart_eq_some_iff.1 hrest ▸ List.mem_append_left rest hc
    rcases hchar hmem with hdigit | rfl
    · rw [hdigit] at hletter
      cases hletter
    · exact absurd rfl hpoint
  have hsplit : splitOnce ':' (storage ++ ":" ++ formatGibibytes kib).toList =
      some (storage.toList, (formatGibibytes kib).toList) := by
    simpa [List.append_assoc] using splitOnce_append (formatGibibytes kib).toList h
  rw [Volume.parse?, hsplit, Option.bind_eq_bind, Option.bind_some]
  dsimp only
  rw [Text.splitOn_eq_singleton hslash, Volume.readPath?, ImageName.readOwn?,
    hword "vm" 'v' (by decide) (by decide) (by decide),
    hword "base" 'b' (by decide) (by decide) (by decide)]
  rfl

/-- **A disk that is to be made reads back** as one whose volume has no usual name. -/
theorem exists_decode_newText {disk : Disk} (hplain : isPlainName disk.storage = true)
    (hstorage : disk.storage ≠ "") :
    ∃ kept, Drive.decode disk.newText = .ok (.disk (verbatim
      (disk.storage ++ ":" ++ formatGibibytes disk.size) disk.storage.toList 0 kept
      disk.options.stored)) := by
  have hcolon := Text.colon_not_mem_of_isPlainName hplain
  have hword : isWord (disk.storage ++ ":" ++ formatGibibytes disk.size) = true := by
    rw [isWord_append, isWord_append, isWord_of_isPlainName hplain,
      show isWord (formatGibibytes disk.size) = true from Text.isWord_formatDecimal _ _]
    decide
  have hvolume : Drive.IsVolumeText (disk.storage ++ ":" ++ formatGibibytes disk.size) :=
    Drive.isVolumeText_of_isWord hword fun hempty ↦ by
      simpa using congrArg String.toList hempty
  have hpath : (disk.storage ++ ":" ++ formatGibibytes disk.size).toList.head? ≠ some '/' := by
    obtain ⟨c, rest, hc⟩ := List.exists_cons_of_ne_nil (mt String.toList_eq_nil_iff.1 hstorage)
    have hplainChar := List.all_eq_true.1 hplain c (hc ▸ List.mem_cons_self)
    simp only [String.toList_append, hc, List.cons_append, List.head?_cons, ne_eq,
      Option.some.injEq]
    rintro rfl
    exact absurd hplainChar (by decide)
  have hsplit : splitOnce ':' (disk.storage ++ ":" ++ formatGibibytes disk.size).toList =
      some (disk.storage.toList, (formatGibibytes disk.size).toList) := by
    simpa [List.append_assoc] using splitOnce_append (formatGibibytes disk.size).toList hcolon
  obtain ⟨kept, hkept⟩ := exists_ofVolume_verbatim disk.options
    (if disk.format = .raw then none else some disk.format) none (parse?_sized hcolon disk.size)
    hsplit
  exact ⟨kept, decode_text _ _ _ hvolume hpath hkept⟩

end Disk

/-! ## Media -/

/-- A directory in front of a file does not make it an image with cloud-init settings. -/
theorem Drive.isCloudInitImage_append (directory file : List Char) :
    isCloudInitImage (directory ++ '/' :: file) = isCloudInitImage file := by
  simp only [isCloudInitImage, Text.getD_splitLast_append]

namespace IsoImage

/-- An image whose name can be stored, and that is not taken for one with cloud-init settings. -/
structure IsStorable (image : IsoImage) : Prop where
  storage : isPlainName image.storage = true
  file : isPathName image.file = true
  isCloudInitImage : Drive.isCloudInitImage image.file.toList = false

theorem toList_volume (image : IsoImage) :
    image.volume.toList = image.storage.toList ++ ':' :: ("iso/".toList ++ image.file.toList) := by
  simp [volume, List.append_assoc]

theorem isVolumeText_volume {image : IsoImage} (hstorage : isPlainName image.storage = true)
    (hfile : isPathName image.file = true) : Drive.IsVolumeText image.volume := by
  refine Drive.isVolumeText_of_isWord ?_ fun hempty ↦ ?_
  · rw [volume, isWord_append, isWord_append, isWord_of_isPlainName hstorage,
      isWord_of_isPathName hfile]
    decide
  · have hnil := congrArg String.toList hempty
    rw [toList_volume] at hnil
    simp at hnil

/-- The name of an image has a colon, so that it is none of the names for other media. -/
theorem volume_ne {image : IsoImage} {name : String} (h : ':' ∉ name.toList) :
    image.volume ≠ name := fun heq ↦
  h <| heq ▸ by
    rw [toList_volume]
    simp

theorem splitOnce_volume {image : IsoImage} (h : isPlainName image.storage = true) :
    splitOnce ':' image.volume.toList =
      some (image.storage.toList, "iso/".toList ++ image.file.toList) := by
  rw [toList_volume]
  exact splitOnce_append _ (Text.colon_not_mem_of_isPlainName h)

end IsoImage

namespace CdRom

/-- The drives whose media can be stored. -/
def IsStorable : CdRom → Prop
  | iso image => image.IsStorable
  | _ => True

theorem isVolumeText_volume {cdrom : CdRom} (h : cdrom.IsStorable) :
    Drive.IsVolumeText cdrom.volume := by
  cases cdrom with
  | empty => exact Drive.isVolumeText_of_isWord (by decide) (by decide)
  | physical => exact Drive.isVolumeText_of_isWord (by decide) (by decide)
  | iso image => exact IsoImage.isVolumeText_volume h.storage h.file

theorem decode_text_eq {cdrom : CdRom} (h : Drive.IsVolumeText cdrom.volume) :
    Drive.decode cdrom.text = Drive.ofMedia cdrom.volume (.mk cdrom.entries) := by
  have hclean : OptionList.IsClean cdrom.entries :=
    isClean_append.2 ⟨isClean_append.2
      ⟨isClean_positional h.clean h.equals h.nonempty,
        isClean_pair (by decide) (isCleanValue_of_isWord (by decide))⟩,
      isClean_optional_map (by decide) _ Text.isWord_formatSize⟩
  have hfile : (OptionList.mk cdrom.entries).get? "file" = none := by
    simp [entries, get?_append, get?_positional, get?_pair, get?_optional]
  have hmedia : (OptionList.mk cdrom.entries).get? "media" = some "cdrom" := by
    simp [entries, get?_append, get?_positional, get?_pair]
  rw [Drive.decode, text, parse_text_of_isClean hclean, Drive.ofOptions, hfile, hmedia,
    show (OptionList.mk cdrom.entries).leading? = some cdrom.volume from rfl]
  simp only [Option.none_or, if_true]

/-- A drive with an image is the one with the cloud-init settings if the image is named like the one
with the settings. -/
theorem ofMedia_volume {image : IsoImage} (h : isPlainName image.storage = true)
    (options : OptionList) :
    Drive.ofMedia image.volume options =
      if Drive.isCloudInitImage image.file.toList then
        (Disk.formatOf ("iso/".toList ++ image.file.toList) options).map fun format ↦
          .cloudInit ⟨image.storage, format⟩
      else (ofVolume image.volume options).map .cdrom := by
  have himage : Drive.isCloudInitImage ("iso/".toList ++ image.file.toList) =
      Drive.isCloudInitImage image.file.toList :=
    Drive.isCloudInitImage_append "iso".toList image.file.toList
  have hnone : image.volume ≠ "none" := IsoImage.volume_ne (by decide)
  have hcdrom : image.volume ≠ "cdrom" := IsoImage.volume_ne (by decide)
  rw [Drive.ofMedia, if_neg (not_or.2 ⟨hnone, hcdrom⟩), IsoImage.splitOnce_volume h]
  dsimp only
  rw [himage, String.ofList_toList]

theorem ofVolume_volume {image : IsoImage} (h : isPlainName image.storage = true) :
    ofVolume image.volume (.mk (iso image).entries) = .ok (iso image) := by
  have hnone : image.volume ≠ "none" := IsoImage.volume_ne (by decide)
  have hcdrom : image.volume ≠ "cdrom" := IsoImage.volume_ne (by decide)
  have hget : (OptionList.mk (iso image).entries).get? "size" = image.size.map formatSize := by
    simp [entries, size?, get?_append, get?_positional, get?_pair, get?_optional]
  have hsize : IsoImage.size? (.mk (iso image).entries) = .ok image.size :=
    OptionList.decoded?_of_get? hget fun n _ ↦ by rw [parseSize_formatSize]; rfl
  rw [ofVolume, if_neg hnone, if_neg hcdrom, IsoImage.ofVolume, IsoImage.splitOnce_volume h]
  dsimp only
  rw [dropStart_append]
  dsimp only
  rw [hsize]
  simp [bind, Except.bind, pure, Except.pure, Except.map]

/-- **A CD-ROM drive reads back.** -/
theorem decode_text {cdrom : CdRom} (h : cdrom.IsStorable) :
    Drive.decode cdrom.text = .ok (.cdrom cdrom) := by
  rw [decode_text_eq (isVolumeText_volume h)]
  cases cdrom with
  | empty => rfl
  | physical => rfl
  | iso image =>
    have himage : (iso image).volume = image.volume := rfl
    rw [himage, ofMedia_volume h.storage, if_neg (Bool.eq_false_iff.1 h.isCloudInitImage),
      ofVolume_volume h.storage]
    rfl

end CdRom

/-! ## Devices of the host -/

namespace DevicePath

theorem head?_text (path : DevicePath) : path.text.toList.head? = some '/' := by
  have hpasses := path.passes
  simp only [isDevicePath, Bool.and_eq_true, beq_iff_eq] at hpasses
  exact hpasses.1.2

theorem ne_comma_of_mem (path : DevicePath) {c : Char} (hc : c ∈ path.text.toList) :
    c ≠ ',' ∧ Text.isBlank c = false := by
  have hpasses := path.passes
  simp only [isDevicePath, Bool.and_eq_true] at hpasses
  simpa using List.all_eq_true.1 hpasses.2 c hc

theorem comma_not_mem (path : DevicePath) : ',' ∉ path.text.toList :=
  fun hc ↦ (path.ne_comma_of_mem hc).1 rfl

theorem isVolumeText_text {path : DevicePath} (h : '=' ∉ path.text.toList) :
    Drive.IsVolumeText path.text where
  clean := ⟨path.comma_not_mem, Text.trim_eq_self_of_all fun _ hc ↦ (path.ne_comma_of_mem hc).2⟩
  equals := h
  nonempty := fun hempty ↦ by simpa [hempty] using path.head?_text

end DevicePath

namespace Passthrough

variable {device : Passthrough}

/-- **A device of the host reads back**, if its path has no `=`. -/
theorem decode_text (h : '=' ∉ device.path.text.toList) :
    Drive.decode device.text =
      .ok (.passthrough { device with options := device.options.stored }) := by
  have hhead := DevicePath.head?_text device.path
  have hvolume : Drive.IsVolumeText device.path.text := DevicePath.isVolumeText_text h
  have hget := Drive.get?_entries device.path.text device.options none none
  obtain ⟨hfile, hmedia⟩ := DriveOptions.get?_file_media hget
  rw [Drive.decode, text, Drive.parse_text _ _ _ _ hvolume, Drive.ofOptions, hfile, hmedia,
    show (OptionList.mk (positional device.path.text ++
      device.options.entries none none)).leading? = some device.path.text from rfl]
  simp only [Option.none_or, reduceCtorEq, if_false]
  rw [if_pos hhead, Checked.decode_text, DriveOptions.ofOptions_of_get? hget]
  rfl

/-- A device of the host is not found again if its path has a `=`: what stands in front of the
`=` is taken for the name of an option, and then there is no volume. -/
theorem decode_text_of_equals (h : '=' ∈ device.path.text.toList) :
    Drive.decode device.text = .error (.missingOption "file") := by
  obtain ⟨name, value, hpath, hoption⟩ := Entry.exists_isClean_of_equals h fun c hc ↦
    DevicePath.ne_comma_of_mem device.path hc
  have hclean : OptionList.IsClean
      (OptionList.pair name value ++ device.options.entries none none) :=
    isClean_append.2
      ⟨OptionList.isClean_pair_of_isClean hoption, device.options.isClean_entries none none⟩
  have hfile : (OptionList.mk (OptionList.pair name value ++
      device.options.entries none none)).get? "file" = none := by
    -- the path begins with a slash, and so does what is taken for a name
    have hne : name ≠ "file" := fun heq ↦ by
      have hhead := DevicePath.head?_text device.path
      simp [hpath, heq] at hhead
    rw [get?_append, get?_pair, if_neg hne, Option.none_or]
    exact (DriveOptions.get?_file_media fun _ ↦ rfl).1
  have hwritten : device.text =
      (OptionList.mk (OptionList.pair name value ++ device.options.entries none none)).text := by
    rw [text, hpath]
    rfl
  rw [Drive.decode, hwritten, parse_text_of_isClean hclean, Drive.ofOptions, hfile]
  rfl

/-- **A device of the host can be read exactly if its path has no `=`.** -/
theorem exists_decode_text_iff :
    (∃ drive, Drive.decode device.text = .ok drive) ↔ '=' ∉ device.path.text.toList := by
  constructor
  · rintro ⟨drive, hdrive⟩ h
    rw [decode_text_of_equals h] at hdrive
    cases hdrive
  · exact fun h ↦ ⟨_, decode_text h⟩

theorem path_eq_of_text_eq {other : Passthrough} (h : device.text = other.text) :
    device.path = other.path := by
  have hfirst := OptionList.head?_splitOn_text (device.options.entries none none)
    (DevicePath.comma_not_mem device.path)
  have hother := OptionList.head?_splitOn_text (other.options.entries none none)
    (DevicePath.comma_not_mem other.path)
  have htext : (OptionList.mk (positional device.path.text ++
      device.options.entries none none)).text = (OptionList.mk (positional other.path.text ++
        other.options.entries none none)).text := h
  rw [htext, hother] at hfirst
  exact Checked.ext (String.toList_inj.1 (Option.some.inj hfirst)).symm

end Passthrough

end GuestConfig
