import GuestConfig.Proofs.Disk.Attachment
import GuestConfig.Proofs.Disk.Drive

/-!
# Disks that were revised

A disk that is asked for where another one is keeps or changes its volume, shrinks, and has the
options that were asked for.  Whether it does all this in one new text, in one that happens to be
the old one, or without a text, is read back the same way: a text is only left alone if it reads
as the disk that would have been written.

What a disk has to be after it was revised is also all that it takes for the next plan to leave it
alone.

## What is here

* `Disk.IsStored` — a disk that was read from a text that can be written again.
* `Disk.Revises` — what a disk has to be after another one was asked for in its place.
* `Disk.exists_decode_of_volumes?` — **what is written for a disk reads back as that.**
* `Disk.revises_of_revise_eq_none` — a disk for which nothing is written is that already.
* `Disk.Revises.revise_eq_none` — **a disk that was revised is not revised again.**
-/

set_option autoImplicit false

namespace GuestConfig

open Text (isBlank isPlainName splitOnce)

/-! ## Names of storages -/

/-- The names of storages that can stand in front of a volume. -/
structure IsStorageText (storage : String) : Prop where
  comma : ',' ∉ storage.toList
  equals : '=' ∉ storage.toList
  head (c : Char) : storage.toList.head? = some c → isBlank c = false ∧ c ≠ '/'

theorem isStorageText_of_isPlainName {storage : String} (h : isPlainName storage = true) :
    IsStorageText storage := by
  have hword := Text.isWord_of_isPlainName h
  refine ⟨Text.comma_not_mem_of_isWord hword, Text.equals_not_mem_of_isWord hword,
    fun c hc ↦ ⟨?_, ?_⟩⟩
  · have := List.all_eq_true.1 hword c (List.mem_of_mem_head? hc)
    simp_all [Text.isWordChar]
  · rintro rfl
    exact absurd (List.all_eq_true.1 h '/' (List.mem_of_mem_head? hc)) (by decide)

/-- The storage of a volume that was read can stand in front of another one. -/
theorem isStorageText_of_parse? {volume : String} {v : Volume} (h : Volume.parse? volume = some v)
    (hvolume : Drive.IsVolumeText volume) (hpath : volume.toList.head? ≠ some '/') :
    IsStorageText v.storage := by
  obtain ⟨storage, path, hsplit, hread⟩ := Volume.readPath?_of_parse? h
  have hstorage := (Volume.parts_of_readPath? hread).1
  have htext := (Text.splitOnce_eq_some_iff.1 hsplit).1
  rw [hstorage]
  refine ⟨fun hc ↦ hvolume.clean.comma ?_, fun hc ↦ hvolume.equals ?_, fun c hc ↦ ?_⟩
  · rw [htext]
    exact List.mem_append_left _ (by simpa using hc)
  · rw [htext]
    exact List.mem_append_left _ (by simpa using hc)
  · have hhead : volume.toList.head? = some c := by
      rw [htext, List.head?_append]
      simp only [String.toList_ofList] at hc
      rw [hc]
      rfl
    refine ⟨(Text.trim_eq_self_iff.1 hvolume.clean.trimmed).1 c hhead, ?_⟩
    rintro rfl
    exact hpath hhead

namespace Volume

theorem isWordChar_of_isPathChar {c : Char} (h : isPathChar c = true) :
    Text.isWordChar c = true := by
  simp only [isPathChar, Bool.or_eq_true, beq_iff_eq] at h
  rcases h with ((h | rfl) | rfl) | rfl
  · exact Text.isWordChar_of_isAlphanum h
  all_goals decide

/-- The name of a volume can stand in front of options, if its storage can. -/
theorem isVolumeText_text {v : Volume} (h : IsStorageText v.storage) :
    Drive.IsVolumeText v.text := by
  have hpath {c : Char} (hc : c ∈ v.path.toList) : Text.isWordChar c = true :=
    isWordChar_of_isPathChar (List.all_eq_true.1 v.all_isPathChar_path c hc)
  have hequals : '=' ∉ v.path.toList := fun hc ↦ absurd (hpath hc) (by decide)
  refine ⟨⟨comma_not_mem_text h.comma, Text.trim_eq_self_iff.2 ⟨fun c hc ↦ ?_, fun c hc ↦ ?_⟩⟩,
    ?_, fun hempty ↦ ?_⟩
  · rw [toList_text, List.head?_append, Option.or_eq_some_iff] at hc
    rcases hc with hc | ⟨-, hc⟩
    · exact (h.head c hc).1
    · obtain rfl := Option.some.inj hc
      decide
  · have hlast : (':' :: v.path.toList).getLast? = some c := by
      simpa [toList_text, List.getLast?_append] using hc
    rcases List.mem_cons.1 (List.mem_of_getLast? hlast) with rfl | hmem
    · decide
    · have := hpath hmem
      simp_all [Text.isWordChar]
  · simp [toList_text, h.equals, hequals]
  · have hnil := congrArg String.toList hempty
    rw [toList_text] at hnil
    simp at hnil

theorem head?_text_ne {v : Volume} (h : IsStorageText v.storage) :
    v.text.toList.head? ≠ some '/' := by
  rw [toList_text, List.head?_append]
  intro hc
  rcases Option.or_eq_some_iff.1 hc with hc | ⟨-, hc⟩
  · exact (h.head _ hc).2 rfl
  · cases hc

end Volume

/-! ## Disks -/

namespace Disk

theorem getD_filter_size (size : UInt64) : ((some size).filter (· ≠ 0)).getD 0 = size := by
  by_cases h : size = 0 <;> simp [Option.filter, h]

/-- A disk that shrank is not to shrink again. -/
theorem min_min_size (desired current : UInt64) :
    min desired (min desired current) = min desired current := by
  have h (a b : UInt64) : min a b = if a ≤ b then a else b := rfl
  by_cases hle : desired ≤ current
  · simp [h, hle]
  · simp only [h, if_neg hle]

/-- A disk that is there reads back in the parts of its name. -/
theorem decode_existingText {v : Volume} (hv : v.IsNameable) (hstorage : IsStorageText v.storage)
    (size : UInt64) (o : DriveOptions) :
    Drive.decode (existingText v.text size o) = .ok (.disk (ofParts
      { v with format := v.namedFormat } size (v.namedFormat.getD .raw) o.stored)) := by
  have hdisk := ofVolume_parts o none (some size) (Volume.parse?_text hv)
  rw [getD_filter_size] at hdisk
  exact decode_text _ _ _ (Volume.isVolumeText_text hstorage) (Volume.head?_text_ne hstorage) hdisk

/-- A disk that is there reads back with its name, if that follows no usual naming. -/
theorem exists_decode_existingText_verbatim {volume : String} {storage name : List Char}
    (hvolume : Drive.IsVolumeText volume) (hpath : volume.toList.head? ≠ some '/')
    (hparse : Volume.parse? volume = none)
    (hsplit : splitOnce ':' volume.toList = some (storage, name)) (size : UInt64)
    (o : DriveOptions) :
    ∃ kept, Drive.decode (existingText volume size o) =
      .ok (.disk (verbatim volume storage size kept o.stored)) := by
  obtain ⟨kept, hdisk⟩ := exists_ofVolume_verbatim o none (some size) hparse hsplit
  rw [getD_filter_size] at hdisk
  exact ⟨kept, decode_text _ _ _ hvolume hpath hdisk⟩

/-- A disk that was read from a text that can be written again. -/
def IsStored (disk : Disk) : Prop :=
  ∃ volume list, Drive.IsVolumeText volume ∧ volume.toList.head? ≠ some '/' ∧
    ofVolume volume list = .ok disk

/-! ## Revised disks -/

/-- What a disk has to be after `desired` was asked for where `current` was. -/
structure Revises (desired current revised : Disk) : Prop where
  /-- It is on the storage that was asked for. -/
  storage : revised.storage = desired.storage
  /-- It never grows. -/
  size : revised.size = min desired.size current.size
  /-- It has the options that were asked for; a limit of zero is like none. -/
  options : revised.options.stored = desired.options.stored
  /-- It stays in its volume if that is where it was asked for. -/
  kept : desired.storage = current.storage →
    (∀ id, desired.id = some id → current.id = some id) →
      revised.id = current.id ∧ revised.linked = current.linked ∧
        revised.isBase = current.isBase ∧ revised.volume = current.volume
  /-- Otherwise it is in a volume of its own with the number that was asked for. -/
  moved : ¬(desired.storage = current.storage ∧
      ∀ id, desired.id = some id → current.id = some id) →
    revised.id = desired.id.or current.id ∧ revised.linked = none ∧
      revised.isBase = current.isBase ∧ revised.volume = none

theorem Revises.of_moved {desired current revised : Disk} (hmoves : desired.moves current = true)
    (hstorage : revised.storage = desired.storage)
    (hsize : revised.size = min desired.size current.size)
    (hoptions : revised.options = desired.options.stored)
    (hparts : revised.id = desired.id.or current.id ∧ revised.linked = none ∧
      revised.isBase = current.isBase ∧ revised.volume = none) :
    desired.Revises current revised where
  storage := hstorage
  size := hsize
  options := by rw [hoptions, DriveOptions.stored_stored]
  kept hsame hid := by
    rw [moves_eq_false_iff.2 ⟨hsame, hid⟩] at hmoves
    cases hmoves
  moved _ := hparts

theorem Revises.of_kept {desired current revised : Disk} (hmoves : desired.moves current = false)
    (hstorage : revised.storage = current.storage)
    (hsize : revised.size = min desired.size current.size)
    (hoptions : revised.options = desired.options.stored)
    (hparts : revised.id = current.id ∧ revised.linked = current.linked ∧
      revised.isBase = current.isBase ∧ revised.volume = current.volume) :
    desired.Revises current revised where
  storage := hstorage.trans (moves_eq_false_iff.1 hmoves).1.symm
  size := hsize
  options := by rw [hoptions, DriveOptions.stored_stored]
  kept _ _ := hparts
  moved hnot := absurd (moves_eq_false_iff.1 hmoves) hnot

/-- A disk for which the same is written as for what was asked for is what was asked for. -/
theorem Revises.of_unchanged {desired current again : Disk} (h : desired.Revises current again)
    (hagain : current.Revises current again) : desired.Revises current current where
  storage := hagain.storage.symm.trans h.storage
  size := by rw [← h.size, hagain.size, show min current.size current.size = _ from ite_self _]
  options := hagain.options.symm.trans h.options
  kept _ _ := ⟨rfl, rfl, rfl, rfl⟩
  moved hnot := by
    obtain ⟨hid, hlinked, hbase, hvolume⟩ := h.moved hnot
    obtain ⟨hid', hlinked', hbase', hvolume'⟩ := hagain.kept rfl fun _ h ↦ h
    exact ⟨hid'.symm.trans hid, hlinked'.symm.trans hlinked, rfl, hvolume'.symm.trans hvolume⟩

section reading

variable {bus : Bus} {guest : GuestId} {desired current : Disk}

/-- **What is written for a disk reads back as what was asked for.** -/
theorem exists_decode_of_volumes? {before after : String} (hcurrent : current.IsStored)
    (hplain : desired.moves current = true → isPlainName desired.storage = true)
    (h : volumes? (some guest) desired current = some (before, after)) :
    ∃ revised, Drive.decode (existingText after (min desired.size current.size) desired.options) =
        .ok (.disk revised) ∧
      desired.Revises current revised := by
  obtain ⟨hattached, hafter⟩ := volumes?_eq_some_iff.1 h
  cases hmoves : desired.moves current with
  | true =>
    rw [hmoves, if_pos rfl] at hafter
    simp only [moved?, bind, Option.bind_eq_some_iff, Option.bind_some] at hafter
    obtain ⟨diskId, hid, hafter⟩ := hafter
    let v : Volume := ⟨desired.storage, guest, diskId, desired.namingOver current, none,
      current.isBase, some current.format⟩
    have hv : v.IsNameable := ⟨Text.colon_not_mem_of_isPlainName (hplain hmoves),
      fun hlinked ↦ absurd hlinked Bool.false_ne_true⟩
    rw [← Option.some.inj hafter]
    exact ⟨_, decode_existingText hv (isStorageText_of_isPlainName (hplain hmoves)) _ _,
      .of_moved hmoves rfl rfl rfl ⟨hid.symm, rfl, rfl, rfl⟩⟩
  | false =>
    rw [hmoves, if_neg Bool.false_ne_true] at hafter
    obtain rfl := Option.some.inj hafter
    obtain ⟨volume, list, hvolume, hpath, hdisk⟩ := hcurrent
    rw [attached?_of_ofVolume hdisk, Option.some.injEq] at hattached
    subst hattached
    obtain ⟨size, options, -, -, hform⟩ := ofVolume_eq_ok_iff.1 hdisk
    rcases hform with ⟨v, format, hparse, -, rfl⟩ |
      ⟨storage, name, format, hparse, hsplit, -, rfl⟩
    · have htext := isStorageText_of_parse? hparse hvolume hpath
      have hv : ({ v with guest := guest } : Volume).IsNameable :=
        ⟨(Volume.isNameable_of_parse? hparse).storage, (Volume.isNameable_of_parse? hparse).linked⟩
      rw [hparse]
      exact ⟨_, decode_existingText hv htext _ _,
        .of_kept hmoves rfl rfl rfl ⟨rfl, rfl, rfl, rfl⟩⟩
    · rw [hparse]
      obtain ⟨kept, hread⟩ := exists_decode_existingText_verbatim hvolume hpath hparse hsplit
        (min desired.size (size.getD 0)) desired.options
      exact ⟨_, hread, .of_kept hmoves rfl rfl rfl ⟨rfl, rfl, rfl, rfl⟩⟩

/-- **A disk for which nothing is written is what was asked for.** -/
theorem revises_of_revise_eq_none (hcurrent : current.IsStored)
    (hplain : isPlainName desired.storage = true)
    (h : revise bus (some guest) desired current = some none) :
    desired.Revises current current := by
  obtain ⟨⟨before, after⟩, hvolumes, htext⟩ := Option.map_eq_some_iff.1 h
  dsimp only at htext
  split at htext
  · next hsame =>
    -- the disk that is there would be written the same way, with its own size and options
    have hself : volumes? (some guest) current current = some (before, before) := by
      have hattached := (volumes?_eq_some_iff.1 hvolumes).1
      obtain ⟨volume, list, -, -, hdisk⟩ := hcurrent
      rw [attached?_of_ofVolume hdisk] at hattached
      exact volumes?_eq_some_iff.2 ⟨(attached?_of_ofVolume hdisk current guest).trans hattached,
        by rw [moves_self]; rfl⟩
    obtain ⟨revised, hread, hrevises⟩ :=
      exists_decode_of_volumes? hcurrent (fun _ ↦ hplain) hvolumes
    obtain ⟨again, hreadAgain, hagain⟩ := exists_decode_of_volumes? hcurrent
      (fun hmoves ↦ by rw [moves_self] at hmoves; cases hmoves) hself
    rw [show min current.size current.size = current.size from ite_self _, ← hsame,
      hread] at hreadAgain
    obtain rfl := Drive.disk.inj (Except.ok.inj hreadAgain)
    exact hrevises.of_unchanged hagain
  · cases htext

end reading

/-! ## Disks that are not revised again -/

section again

variable {bus : Bus} {guest : GuestId} {desired current : Disk}

theorem exists_attached?_of_decode {s : String} (h : Drive.decode s = .ok (.disk current))
    (guest : GuestId) (desired : Disk) :
    ∃ volume, attached? (some guest) (desired.namingOver current) current = some volume := by
  obtain ⟨_, -, -, -, hdisk⟩ := Drive.ofOptions_eq_disk_iff.1 h
  exact ⟨_, attached?_of_ofVolume hdisk desired guest⟩

/-- **A disk is not revised** if it is where it should be, is no larger than it should be and has
the options as they are read. -/
theorem revise_eq_none {guest : Option GuestId} {volume : String}
    (hmoves : desired.moves current = false)
    (hattached : attached? guest (desired.namingOver current) current = some volume)
    (hsize : min desired.size current.size = current.size)
    (hoptions : current.options.stored = desired.options.stored) :
    revise bus guest desired current = some none := by
  have hvolumes : volumes? guest desired current = some (volume, volume) := by
    simp [volumes?, hattached, hmoves]
  have hentries : desired.options.entries none (some current.size) =
      current.options.entries none (some current.size) := by
    rw [← DriveOptions.entries_stored, ← hoptions, DriveOptions.entries_stored]
  rw [revise, hvolumes, Option.map_some]
  simp [existingText, hsize, hentries]

/-- **A disk that was revised is not revised again.** -/
theorem Revises.revise_eq_none {revised : Disk} {s : String} (h : desired.Revises current revised)
    (hread : Drive.decode s = .ok (.disk revised)) :
    revise bus (some guest) desired revised = some none := by
  obtain ⟨volume, hattached⟩ := exists_attached?_of_decode hread guest desired
  have hstays : desired.moves revised = false := by
    refine moves_eq_false_iff.2 ⟨h.storage.symm, fun id hid ↦ ?_⟩
    by_cases hsame : desired.storage = current.storage ∧
        ∀ id, desired.id = some id → current.id = some id
    · exact (h.kept hsame.1 hsame.2).1.trans (hsame.2 id hid)
    · rw [(h.moved hsame).1, hid, Option.some_or]
  exact Disk.revise_eq_none hstays hattached (by rw [h.size, min_min_size]) h.options

/-- What is written for a disk reads back as a disk that is not revised again. -/
theorem exists_decode_revise {text : String} {reboot : Bool} (hcurrent : current.IsStored)
    (hplain : isPlainName desired.storage = true)
    (h : revise bus (some guest) desired current = some (some (text, reboot))) :
    ∃ revised, Drive.decode text = .ok (.disk revised) ∧ desired.Revises current revised ∧
      revise bus (some guest) desired revised = some none := by
  obtain ⟨before, after, hattached, hafter, rfl⟩ := text_of_revise h
  obtain ⟨revised, hread, hrevises⟩ := exists_decode_of_volumes? hcurrent (fun _ ↦ hplain)
    (volumes?_eq_some_iff.2 ⟨hattached, hafter⟩)
  exact ⟨revised, hread, hrevises, hrevises.revise_eq_none hread⟩

end again

end Disk

end GuestConfig
