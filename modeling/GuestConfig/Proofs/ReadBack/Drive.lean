import GuestConfig.Proofs.Readable.Drive
import GuestConfig.Proofs.Unread.Codec

/-!
# Options and media that are read back

The options of a drive are found by their names.  They read back wherever they are written: alone,
or behind a volume, as long as the volume itself names none of them.  Only limits of zero are lost,
which are no limits.

A CD-ROM drive shares its form with the drive that hands a guest its cloud-init settings.  The two
are told apart by the name of the image, so that a drive with an image that is called like the one
with the settings does not read back as itself; all others do.

## What is here

* `DriveOptions.NamesNoOption` — volumes that can stand in front of options.
* `DriveOptions.namesNoOption_devicePath` — the paths of all devices can, with a `=` or without.
* `DriveOptions.ofOptions_parse_text` — **options read back, with or without a volume in front.**
* `Drive.IsCloudInitPath` — paths whose file is named like the image with the cloud-init settings;
  `Drive.isCloudInitImage_iff` — they are the ones that are taken for it.
* `CdRom.decode_text_eq_iff` — **a CD-ROM drive reads back exactly if its image is not named like
  the one with the cloud-init settings**; if it is, the drive with these settings is read.
-/

set_option autoImplicit false

namespace GuestConfig

open OptionList (get?_append parse_append parse_text_of_isClean positional)
open Text (dropEnd_eq_some_iff dropStart_eq_some_iff isDigits isPathName isPlainName
  splitLast_eq_none splitOnce splitOnce_append splitOnce_eq_none_iff splitOnce_eq_some_iff)

/-! ## Options -/

/-- What is written behind an entry is read behind it, whatever the entry itself is read as. -/
theorem OptionList.parse_text_positional {entries : List Entry} (volume : String)
    (h : IsClean entries) :
    parse (mk (positional volume ++ entries)).text = mk ((parse volume).entries ++ entries) := by
  cases entries with
  | nil =>
    have htext : (mk (positional volume ++ [])).text = volume := by
      simp [text, positional, Entry.text]
    rw [htext, List.append_nil]
  | cons e rest =>
    have htext : (mk (positional volume ++ e :: rest)).text =
        volume ++ "," ++ (mk (e :: rest)).text := by
      rw [← String.toList_inj]
      simp [OptionList.toList_text, positional, Entry.text, List.intercalate_cons_cons]
    rw [htext]
    calc parse (volume ++ "," ++ (mk (e :: rest)).text)
        = mk ((parse volume).entries ++ (parse (mk (e :: rest)).text).entries) :=
          congrArg mk (parse_append volume _)
      _ = mk ((parse volume).entries ++ e :: rest) := by rw [parse_text_of_isClean h]

namespace DriveOptions

/-- What is read of a volume in front of options gives none of them a value. -/
def NamesNoOption (volume : String) : Prop :=
  ∀ e ∈ (OptionList.parse volume).entries, ∀ name ∈ optionNames, e.name ≠ some name

instance (volume : String) : Decidable (NamesNoOption volume) :=
  inferInstanceAs (Decidable (∀ e ∈ (OptionList.parse volume).entries,
    ∀ name ∈ optionNames, e.name ≠ some name))

theorem namesNoOption_of_isVolumeText {volume : String} (h : Drive.IsVolumeText volume) :
    NamesNoOption volume := by
  have hclean : OptionList.IsClean (positional volume) :=
    OptionList.isClean_positional h.clean h.equals h.nonempty
  have hparse : OptionList.parse volume = .mk (positional volume) := by
    simpa [OptionList.text, positional, Entry.text] using parse_text_of_isClean hclean
  intro e he name _
  rw [hparse] at he
  obtain rfl := List.mem_singleton.1 he
  exact (Option.some_ne_none name).symm

/-- The path of a device can stand in front of options, even if it has a `=`: what stands before the
`=` begins with a slash, and no option does. -/
theorem namesNoOption_devicePath (path : DevicePath) : NamesNoOption path.text := by
  by_cases hequals : '=' ∈ path.text.toList
  · obtain ⟨name, value, hpath, hoption⟩ := Entry.exists_isClean_of_equals hequals fun c hc ↦
      path.ne_comma_of_mem hc
    have hclean := OptionList.isClean_pair_of_isClean hoption
    have hparse : OptionList.parse path.text = .mk (OptionList.pair name value) := by
      simpa [OptionList.text, OptionList.pair, Entry.text, hpath] using parse_text_of_isClean hclean
    have hslash : ∀ other ∈ optionNames, other.toList.head?.any (· ≠ '/') = true := by decide
    intro e he other hother heq
    rw [hparse] at he
    obtain rfl := List.mem_singleton.1 he
    obtain rfl := Option.some.inj heq
    obtain ⟨c, hc, hne⟩ := (Option.any_eq_true _ _).1 (hslash name hother)
    have hhead := path.head?_text
    rw [hpath, String.append_assoc, String.toList_append, List.head?_append, hc] at hhead
    exact of_decide_eq_true hne (Option.some.inj hhead)
  · exact namesNoOption_of_isVolumeText (DevicePath.isVolumeText_text hequals)

section reading

variable (o : DriveOptions) (format : Option DiskFormat) (size : Option UInt64)

theorem ofOptions_entries : ofOptions (.mk (o.entries format size)) = .ok o.stored :=
  ofOptions_of_get? fun _ ↦ rfl

/-- What stands in front of options does no harm if it names none of them. -/
theorem ofOptions_parse_text_positional {volume : String} (h : NamesNoOption volume) :
    ofOptions (.parse (OptionList.mk (positional volume ++ o.entries format size)).text) =
      .ok o.stored := by
  rw [OptionList.parse_text_positional volume (o.isClean_entries format size),
    ← ofOptions_entries o format size]
  refine ofOptions_congr fun name hname ↦ ?_
  have hskip : (OptionList.mk (OptionList.parse volume).entries).get? name = none := by
    rw [OptionList.get?, Option.map_eq_none_iff, List.find?_eq_none]
    exact fun e he ↦ by simpa using h e he name hname
  rw [get?_append, hskip, Option.none_or]

/-- **The options of a drive read back**, but for limits of zero, whatever format and size stand
among them, and whatever volume stands in front of them that names none of them. -/
theorem ofOptions_parse_text :
    ofOptions (.parse (OptionList.mk (o.entries format size)).text) = .ok o.stored ∧
      ∀ volume, NamesNoOption volume →
        ofOptions (.parse (OptionList.mk (positional volume ++ o.entries format size)).text) =
          .ok o.stored := by
  refine ⟨?_, fun volume hvolume ↦ ofOptions_parse_text_positional o format size hvolume⟩
  rw [parse_text_of_isClean (o.isClean_entries format size), ofOptions_entries]

/-- The path of a partition that has a label with a `=`. -/
def labelledPath : DevicePath :=
  ⟨"/dev/disk/by-partlabel/use=backup", by decide +kernel⟩

/-- Options read back behind that path, although what stands before the `=` is read as a name. -/
theorem ofOptions_parse_text_device :
    NamesNoOption labelledPath.text ∧
      ofOptions (.parse (OptionList.mk (positional labelledPath.text ++
        entries { cache := some .writeBack, bandwidth := { readOperations := some 0 } }
          none (some 33554432))).text) =
        .ok { cache := some .writeBack } :=
  ⟨namesNoOption_devicePath labelledPath,
    (ofOptions_parse_text _ none (some 33554432)).2 _ (namesNoOption_devicePath labelledPath)⟩

end reading

end DriveOptions

/-! ## Images -/

namespace Drive

/-- Files that are named like the image with the cloud-init settings of a guest: `vm-`, digits,
`-cloudinit`, and then nothing more or an extension. -/
def IsCloudInitFile (file : List Char) : Prop :=
  ∃ guest extension : List Char,
    file = "vm-".toList ++ guest ++ "-cloudinit".toList ++ extension ∧
      guest ≠ [] ∧ (∀ c ∈ guest, c.isDigit = true) ∧ (∀ c ∈ extension.head?, c = '.')

/-- Paths of such files, in a directory or in none. -/
def IsCloudInitPath (path : List Char) : Prop :=
  ∃ file, (path = file ∨ ∃ directory, path = directory ++ '/' :: file) ∧ '/' ∉ file ∧
    IsCloudInitFile file

theorem any_dropEnd_iff {stem : List Char} :
    ((Text.dropStart "vm-".toList stem).bind (Text.dropEnd "-cloudinit".toList)).any
        (fun guest ↦ !guest.isEmpty && isDigits guest) = true ↔
      ∃ guest, stem = "vm-".toList ++ guest ++ "-cloudinit".toList ∧ guest ≠ [] ∧
        ∀ c ∈ guest, c.isDigit = true := by
  simp only [Option.any_eq_true, Option.bind_eq_some_iff, dropStart_eq_some_iff,
    dropEnd_eq_some_iff, Bool.and_eq_true, isDigits, List.all_eq_true, Bool.not_eq_true',
    List.isEmpty_eq_false_iff]
  constructor
  · rintro ⟨guest, ⟨rest, rfl, rfl⟩, hne, hdigits⟩
    exact ⟨guest, (List.append_assoc _ _ _).symm, hne, hdigits⟩
  · rintro ⟨guest, rfl, hne, hdigits⟩
    exact ⟨guest, ⟨_, List.append_assoc _ _ _, rfl⟩, hne, hdigits⟩

theorem isCloudInitImage_iff_file {file : List Char} (h : '/' ∉ file) :
    isCloudInitImage file = true ↔ IsCloudInitFile file := by
  unfold isCloudInitImage
  rw [splitLast_eq_none h]
  dsimp only [Option.map_none, Option.getD_none]
  rw [any_dropEnd_iff]
  constructor
  · rintro ⟨guest, hstem, hne, hdigits⟩
    cases hpoint : splitOnce '.' file with
    | none =>
      rw [hpoint] at hstem
      exact ⟨guest, [], by simpa using hstem, hne, hdigits, by simp⟩
    | some pieces =>
      obtain ⟨stem, extension⟩ := pieces
      rw [hpoint] at hstem
      obtain rfl : stem = _ := hstem
      exact ⟨guest, '.' :: extension, (splitOnce_eq_some_iff.1 hpoint).1, hne, hdigits, by simp⟩
  · rintro ⟨guest, extension, rfl, hne, hdigits, hextension⟩
    have hpoint : '.' ∉ "vm-".toList ++ guest ++ "-cloudinit".toList := fun hc ↦ by
      have hguest : '.' ∉ guest := fun hc ↦ absurd (hdigits _ hc) (by decide)
      simp [hguest] at hc
    refine ⟨guest, ?_, hne, hdigits⟩
    cases extension with
    | nil => rw [List.append_nil, splitOnce_eq_none_iff.2 hpoint, Option.map_none, Option.getD_none]
    | cons c rest =>
      obtain rfl := hextension c rfl
      rw [splitOnce_append _ hpoint, Option.map_some, Option.getD_some]

/-- **The images that are taken for the one with the cloud-init settings.** -/
theorem isCloudInitImage_iff {path : List Char} :
    isCloudInitImage path = true ↔ IsCloudInitPath path := by
  constructor
  · intro h
    by_cases hslash : '/' ∈ path
    · obtain ⟨last, front, hreverse, hlast⟩ :=
        List.eq_append_cons_of_mem (List.mem_reverse.2 hslash)
      have hpath : path = front.reverse ++ '/' :: last.reverse := by
        simpa using congrArg List.reverse hreverse
      have hfile : '/' ∉ last.reverse := by simpa using hlast
      rw [hpath, isCloudInitImage_append, isCloudInitImage_iff_file hfile] at h
      exact ⟨last.reverse, .inr ⟨front.reverse, hpath⟩, hfile, h⟩
    · exact ⟨path, .inl rfl, hslash, (isCloudInitImage_iff_file hslash).1 h⟩
  · rintro ⟨file, rfl | ⟨directory, rfl⟩, hslash, hfile⟩
    · exact (isCloudInitImage_iff_file hslash).2 hfile
    · rw [isCloudInitImage_append]
      exact (isCloudInitImage_iff_file hslash).2 hfile

end Drive

/-! ## Media -/

namespace CdRom

/-- **A CD-ROM drive reads back exactly if its image is not named like the one with the cloud-init
settings.**  If it is, the drive with these settings is read, in the storage of the image. -/
theorem decode_text_eq_iff {cdrom : CdRom} (h : cdrom.HasPlainNames) :
    (Drive.decode cdrom.text = .ok (.cdrom cdrom) ↔
      ∀ image, cdrom = .iso image → ¬Drive.IsCloudInitPath image.file.toList) ∧
    ∀ image, cdrom = .iso image → Drive.IsCloudInitPath image.file.toList →
      ∃ format, Drive.decode cdrom.text = .ok (.cloudInit ⟨image.storage, format⟩) := by
  have htaken : ∀ image, cdrom = .iso image → Drive.IsCloudInitPath image.file.toList →
      ∃ format, Drive.decode cdrom.text = .ok (.cloudInit ⟨image.storage, format⟩) := by
    rintro image rfl hpath
    obtain ⟨hstorage, hfile⟩ := h image rfl
    exact exists_decode_text_cloudInit hstorage hfile (Drive.isCloudInitImage_iff.2 hpath)
  refine ⟨⟨fun hdecode image himage hpath ↦ ?_, fun hother ↦ decode_text ?_⟩, htaken⟩
  · obtain ⟨format, hcloud⟩ := htaken image himage hpath
    rw [hcloud] at hdecode
    cases hdecode
  · cases cdrom with
    | empty => trivial
    | physical => trivial
    | iso image =>
      obtain ⟨hstorage, hfile⟩ := h image rfl
      exact ⟨hstorage, hfile, Bool.eq_false_iff.2 fun hcloud ↦
        hother image rfl (Drive.isCloudInitImage_iff.1 hcloud)⟩

/-- An image of an installer, in a directory for templates. -/
def installer : IsoImage where
  storage := "local"
  file := "vm-templates/debian-13.iso"
  size := some 786432

/-- A CD-ROM drive with an installer reads back. -/
theorem decode_text_installer :
    (iso installer).HasPlainNames ∧
      Drive.decode (iso installer).text = .ok (.cdrom (iso installer)) := by
  have hplain : (iso installer).HasPlainNames := fun image himage ↦ by
    obtain rfl := iso.inj himage
    decide +kernel
  refine ⟨hplain, (decode_text_eq_iff hplain).1.2 fun image himage ↦ ?_⟩
  obtain rfl := iso.inj himage
  rw [← Drive.isCloudInitImage_iff]
  decide +kernel

/-- An image that is named like the one with the cloud-init settings is taken for it. -/
theorem decode_text_namedLikeCloudInit :
    isPlainName "local" = true ∧ isPathName "vm-100-cloudinit.iso" = true ∧
      Drive.decode (iso { storage := "local", file := "vm-100-cloudinit.iso" }).text =
        .ok (.cloudInit { storage := "local", format := .raw }) :=
  ⟨by decide, by decide, toOption_eq_some_iff.1 (by decide +kernel)⟩

end CdRom

end GuestConfig
