import GuestConfig.Proofs.Commutation
import GuestConfig.Proofs.Disk.Plan
import GuestConfig.Proofs.Disk.Volume
import GuestConfig.Proofs.OptionList

/-!
# The volume that a disk is attached to

Updating a disk writes its whole entry anew, and the entry has to name the volume that the disk is
in.  The name is not kept.  It is written from the parts that were read from it, and the guest is
not one of the parts: in its place stands the guest that is planned for.  A disk in a volume of
another guest, as after a disk was reassigned or restored, is thereby attached to a volume of the
same number that belongs to the planned guest.

## What is here

* `Volume.text_withGuest_eq_iff` — the name of a volume tells its guest.
* `Disk.attached?_of_ofVolume` — the name that is written for a disk, given the one it was read
  from.
* `Disk.moves_eq_false_iff` — when a disk stays in its volume.
* `Disk.text_of_revise` — what is written for a disk that is revised.
* `planUpdate_keeps_volume_iff` — **an update that does not move a disk leaves it in its volume
  exactly if the name of the volume tells the planned guest or follows no usual naming.**
-/

set_option autoImplicit false

namespace GuestConfig

open Text (splitOn splitOnce splitOnce_eq_none_iff splitOnce_eq_some_iff)

namespace Volume

/-! ## Names -/

/-- The format does not matter for a name that tells none. -/
theorem text_withFormat {v : Volume} (format : Option DiskFormat)
    (h : v.naming = .file → format = v.format) : { v with format := format }.text = v.text := by
  cases hnaming : v.naming with
  | file => simp [text, path, word, hnaming, h hnaming]
  | volume => simp [text, path, word, hnaming]

/-- **The name of a volume tells its guest.** -/
theorem text_withGuest_eq_iff {v : Volume} (h : v.IsNameable) (guest : GuestId) :
    { v with guest := guest }.text = v.text ↔ v.guest = guest := by
  constructor
  · intro htext
    have hguest : ({ v with guest := guest } : Volume).IsNameable := ⟨h.storage, h.linked⟩
    have hread := (parse?_text hguest).symm.trans ((congrArg parse? htext).trans (parse?_text h))
    exact (congrArg Volume.guest (Option.some.inj hread)).symm
  · rintro rfl
    rfl

theorem comma_not_mem_text {v : Volume} (h : ',' ∉ v.storage.toList) : ',' ∉ v.text.toList := by
  have hpath : ',' ∉ v.path.toList := fun hc ↦
    absurd (List.all_eq_true.1 v.all_isPathChar_path ',' hc) (by decide)
  simp [text, h, hpath]

end Volume

/-! ## Disks -/

namespace Disk

/-- **The name that is written for a disk**: the one that it was read from if that follows no usual
naming, or else the one that it has with the planned guest. -/
theorem attached?_of_ofVolume {volume : String} {list : OptionList} {disk : Disk}
    (h : ofVolume volume list = .ok disk) (desired : Disk) (guest : GuestId) :
    attached? (some guest) (desired.namingOver disk) disk =
      some (match Volume.parse? volume with
        | some v => { v with guest := guest }.text
        | none => volume) := by
  obtain ⟨size, options, -, -, h⟩ := ofVolume_eq_ok_iff.1 h
  rcases h with ⟨v, format, hparse, hformat, rfl⟩ | ⟨storage, name, format, hparse, -, -, rfl⟩
  · have hkept : v.naming = .file → some format = v.format := fun hfile ↦ by
      obtain ⟨kept, hkept⟩ := Option.isSome_iff_exists.1 (Volume.format_of_parse? hparse hfile)
      rw [partsFormat, hkept] at hformat
      rw [hkept, Except.ok.inj hformat]
    rw [hparse]
    exact congrArg some
      (Volume.text_withFormat (v := { v with guest := guest }) (some format) hkept)
  · rw [hparse]
    rfl

/-- **A disk stays where it is exactly if neither another storage nor another number is asked
for.** -/
theorem moves_eq_false_iff {desired current : Disk} :
    moves desired current = false ↔ desired.storage = current.storage ∧
      ∀ id, desired.id = some id → current.id = some id := by
  rw [moves, Bool.or_eq_false_iff]
  refine and_congr (by simp) ?_
  cases desired.id with
  | none => simp
  | some id =>
    simp only [Option.any_some, ne_eq, decide_not, Bool.not_eq_false', decide_eq_true_eq,
      Option.some.injEq, forall_eq']
    exact eq_comm

@[simp] theorem moves_self (disk : Disk) : disk.moves disk = false :=
  moves_eq_false_iff.2 ⟨rfl, fun _ h ↦ h⟩

/-- A disk for which no number is asked for stays on its storage. -/
theorem moves_eq_false_of_none {desired current : Disk}
    (hstorage : desired.storage = current.storage) (hid : desired.id = none) :
    desired.moves current = false :=
  moves_eq_false_iff.2 ⟨hstorage, fun id h ↦ (Option.some_ne_none id (h.symm.trans hid)).elim⟩

theorem volumes?_eq_some_iff {guest : Option GuestId} {desired current : Disk}
    {before after : String} :
    volumes? guest desired current = some (before, after) ↔
      attached? guest (desired.namingOver current) current = some before ∧
        (if desired.moves current then moved? guest (desired.namingOver current) desired current
          else some before) = some after := by
  cases hattached : attached? guest (desired.namingOver current) current with
  | none => simp [volumes?, hattached]
  | some volume =>
    cases hmoves : desired.moves current with
    | false =>
      simp only [volumes?, hattached, hmoves, bind, Option.bind, Bool.false_eq_true, if_false,
        Option.some.injEq, Prod.mk.injEq]
      exact and_congr_right fun h ↦ by rw [h]
    | true =>
      simp only [volumes?, hattached, hmoves, if_true]
      cases moved? guest (desired.namingOver current) desired current <;> simp

/-- **What is written for a disk** starts with the volume that it is in or moves to. -/
theorem text_of_revise {bus : Bus} {guest : Option GuestId} {desired current : Disk} {text : String}
    {reboot : Bool} (h : revise bus guest desired current = some (some (text, reboot))) :
    ∃ before after, attached? guest (desired.namingOver current) current = some before ∧
      (if desired.moves current then moved? guest (desired.namingOver current) desired current
        else some before) = some after ∧
      text = existingText after (min desired.size current.size) desired.options := by
  obtain ⟨⟨before, after⟩, hvolumes, htext⟩ := Option.map_eq_some_iff.1 h
  obtain ⟨hbefore, hafter⟩ := volumes?_eq_some_iff.1 hvolumes
  dsimp only at htext
  split at htext
  · cases htext
  · rw [Option.some.injEq, Prod.mk.injEq] at htext
    exact ⟨before, after, hbefore, hafter, htext.1.symm⟩

/-- A disk that does not move is left in its volume exactly if the planned guest is the one that
the name of the volume tells. -/
theorem head?_text_eq_iff {volume : String} {list : OptionList} {disk : Disk} {guest : GuestId}
    (hdisk : ofVolume volume list = .ok disk) (hcomma : ',' ∉ volume.toList)
    (hcanonical : ∀ v, Volume.parse? volume = some v → v.text = volume) {attached : String}
    {desired : Disk}
    (hattached : attached? (some guest) (desired.namingOver disk) disk = some attached)
    (size : UInt64) (options : DriveOptions) :
    (splitOn ',' (existingText attached size options).toList).head? = some volume.toList ↔
      ∀ v, Volume.parse? volume = some v → v.guest = guest := by
  rw [attached?_of_ofVolume hdisk desired guest, Option.some.injEq] at hattached
  cases hparse : Volume.parse? volume with
  | none =>
    rw [hparse] at hattached
    subst hattached
    simp [existingText, OptionList.head?_splitOn_text _ hcomma]
  | some v =>
    rw [hparse] at hattached
    subst hattached
    have htext := hcanonical v hparse
    have hstorage : ',' ∉ v.storage.toList := fun hc ↦
      hcomma (by rw [← htext, Volume.text]; simp [hc])
    have hattached : ',' ∉ ({ v with guest := guest } : Volume).text.toList :=
      Volume.comma_not_mem_text hstorage
    rw [existingText, OptionList.head?_splitOn_text _ hattached, ← htext, Option.some.injEq,
      String.toList_inj, Volume.text_withGuest_eq_iff (Volume.isNameable_of_parse? hparse)]
    simp

end Disk

/-! ## Updates -/

theorem Drive.comma_not_mem_of_token? {s volume : String} (h : token? (.parse s) = some volume) :
    ',' ∉ volume.toList := by
  rcases Option.or_eq_some_iff.1 h with h | ⟨-, h⟩
  · exact OptionList.comma_not_mem_of_get? h
  · exact OptionList.comma_not_mem_of_leading? h

/-- The slot for installation media is not asked for beside an installation image. -/
theorem Configuration.usesMediaSlot_of_validate {version : Version}
    {current : Option Configuration} {desired : Configuration}
    (h : desired.validate version current = .ok ()) :
    (desired.iso.isSome && (desired.disks.getD { }).usesMediaSlot) = false := by
  cases hdisks : desired.disks with
  | none => simp [Disks.usesMediaSlot]
  | some disks => exact (validate_eq_ok_iff.1 h).media disks hdisks

/-- A disk that is asked for where another one is, and that is planned to be set, is revised. -/
theorem Disks.revise_of_params {version : Version} {guest : GuestId}
    {current desired : Configuration} {change : Change}
    (h : (planUpdate version guest current desired).result = .ok change) {bus : Bus}
    {slot : Slot bus.kind} {disk want : Disk} {value : Value}
    (hcurrent : (current.disks.getD { }).current bus slot = some (.disk disk))
    (hwant : ((desired.disks.getD { }).onBus bus).bind (·.get? slot) = some (.disk want))
    (hset : change.params.get? (slot.key bus.stem) = some value) :
    ∃ text reboot, value = .text text ∧
      Disk.revise bus (some guest) want disk = some (some (text, reboot)) := by
  obtain ⟨hvalid, -, rfl⟩ := planUpdate_eq_ok_iff.1 h
  have hmedia := Configuration.usesMediaSlot_of_validate hvalid
  -- the steps for the slot are those that revise the disk
  have heffect := (desired.plan version (some guest) (some current)).effect_change
    (slot.key bus.stem)
  rw [Configuration.effect_plan, Bus.owner?_key] at heffect
  dsimp only at heffect
  rw [Configuration.planOnly_eq] at heffect
  dsimp only at heffect
  rw [effect_plan _ _ _ _ (bus.keyName_key slot), effect_planOn, asked_of_get? hwant hmedia,
    hcurrent, Change.effect, hset] at heffect
  simp only [slotEffect, Drive.placement, Drive.replace] at heffect
  cases hrevise : Disk.revise bus (some guest) want disk with
  | none =>
    rw [hrevise] at heffect
    split at heffect <;> cases heffect
  | some update =>
    rw [hrevise] at heffect
    cases update with
    | none => split at heffect <;> cases heffect
    | some update =>
      obtain ⟨text, reboot⟩ := update
      simp only [Drive.setIf, Draft.effect_cons, Draft.effect_nil, Step.effect, if_true,
        Effect.andThen_keep] at heffect
      split at heffect
      · cases heffect
      · cases heffect
        exact ⟨text, reboot, rfl, rfl⟩

/-- The disk that a stored object has in a slot with a plain key. -/
theorem Disks.current_of_decoded? {w : Wire} {c : Configuration}
    (hc : Configuration.ofWire w = .ok c) {bus : Bus} {slot : Slot bus.kind}
    (hplain : w.HasPlainKey bus.stem slot) {drive : Drive}
    (hdrive : w.decoded? (slot.key bus.stem) Drive.decode = .ok (some drive)) :
    (c.disks.getD { }).current bus slot = some drive := by
  have hslots := (ofWire_eq_ok_iff.1 (Configuration.ofWire_eq_ok_iff.1 hc).disks).1 bus
  have hread := Wire.decoded?_of_slots hplain hslots
  exact Except.ok.inj (hread.symm.trans hdrive)

/-- **An update that does not move a disk leaves it in its volume exactly if the planned guest is
the one that the name of the volume tells**; a name that tells no guest is always kept. -/
theorem planUpdate_keeps_volume_iff {version : Version} {guest : GuestId} {w : Wire}
    {c desired : Configuration} {change : Change} {bus : Bus} {slot : Slot bus.kind}
    {stored volume : String} {disk want : Disk} {value : Value}
    (hc : Configuration.ofWire w = .ok c) (hplain : w.HasPlainKey bus.stem slot)
    (hstored : w.text? (slot.key bus.stem) = .ok (some stored))
    (hdisk : Drive.decode stored = .ok (.disk disk))
    (hvolume : Drive.token? (.parse stored) = some volume)
    (hcanonical : ∀ v, Volume.parse? volume = some v → v.text = volume)
    (hwant : ((desired.disks.getD { }).onBus bus).bind (·.get? slot) = some (.disk want))
    (hstorage : want.storage = disk.storage) (hid : want.id = none ∨ want.id = disk.id)
    (hplan : (planUpdate version guest c desired).result = .ok change)
    (hset : change.params.get? (slot.key bus.stem) = some value) :
    ∃ text, value = .text text ∧ ((splitOn ',' text.toList).head? = some volume.toList ↔
      ∀ v, Volume.parse? volume = some v → v.guest = guest) := by
  have hcurrent := Disks.current_of_decoded? hc hplain (Wire.decoded?_of_text? hstored hdisk)
  obtain ⟨text, reboot, rfl, hrevise⟩ := Disks.revise_of_params hplan hcurrent hwant hset
  obtain ⟨attached, after, hattached, hafter, htext⟩ := Disk.text_of_revise hrevise
  have hmoves : want.moves disk = false := Disk.moves_eq_false_iff.2
    ⟨hstorage, fun id h ↦ by rcases hid with hnone | hsame <;> simp_all⟩
  rw [hmoves] at hafter
  obtain rfl := Option.some.inj hafter
  obtain ⟨volume', hvolume', -, -, hof⟩ := Drive.ofOptions_eq_disk_iff.1 hdisk
  obtain rfl : volume' = volume := Option.some.inj (hvolume'.symm.trans hvolume)
  refine ⟨text, rfl, ?_⟩
  rw [htext]
  exact Disk.head?_text_eq_iff hof (Drive.comma_not_mem_of_token? hvolume) hcanonical hattached _ _

/-- What is asked for to write-protect a disk of 32 GiB. -/
def writeProtectedDisk : Configuration where
  disks := some { scsi := some (.ofList [(⟨0, by decide⟩,
    .disk { storage := "local-lvm", size := 33554432, options := { readOnly := true } })]) }

/-- A guest that is in its own volume. -/
theorem planUpdate_keeps_volume_of_guest :
    ∃ (c : Configuration) (change : Change) (text : String),
      Configuration.ofWire (.ofList [("scsi0", .text "local-lvm:vm-100-disk-0,size=32G")]) = .ok c ∧
      (planUpdate ⟨8, 1, 0⟩ ⟨100, by decide, by decide⟩ c writeProtectedDisk).result = .ok change ∧
      change.params.get? "scsi0" = some (.text text) ∧
      ((splitOn ',' text.toList).head? = some "local-lvm:vm-100-disk-0".toList ↔
        ∀ v, Volume.parse? "local-lvm:vm-100-disk-0" = some v →
          v.guest = ⟨100, by decide, by decide⟩) := by
  have h : ((Configuration.ofWire
        (.ofList [("scsi0", .text "local-lvm:vm-100-disk-0,size=32G")])).toOption.bind fun c ↦
      (planUpdate ⟨8, 1, 0⟩ ⟨100, by decide, by decide⟩ c writeProtectedDisk).result.toOption.bind
        fun change ↦ (change.params.get? "scsi0").bind Value.text?) =
      some "local-lvm:vm-100-disk-0,backup=0,replicate=0,ro=1,size=32G" := by decide +kernel
  obtain ⟨c, hc, h⟩ := exists_of_toOption_bind h
  obtain ⟨change, hplan, h⟩ := exists_of_toOption_bind h
  obtain ⟨value, hset, -⟩ := Option.bind_eq_some_iff.1 h
  have hparse : Volume.parse? "local-lvm:vm-100-disk-0" =
      some ⟨"local-lvm", ⟨100, by decide, by decide⟩, 0, .volume, none, false, none⟩ := by
    decide +kernel
  have hkey : (⟨0, by decide⟩ : Slot Bus.scsi.kind).key Bus.scsi.stem = "scsi0" := by
    decide +kernel
  have hplain : Wire.HasPlainKey
      (.ofList [("scsi0", .text "local-lvm:vm-100-disk-0,size=32G")]) Bus.scsi.stem
      (⟨0, by decide⟩ : Slot Bus.scsi.kind) := fun key hsome _ ↦ by
    rw [SortedMap.get?_ofList, Option.isSome_map, List.find?_isSome] at hsome
    obtain ⟨e, he, heq⟩ := hsome
    rw [List.mem_reverse, List.mem_singleton] at he
    subst he
    exact hkey ▸ (of_decide_eq_true heq).symm
  have hdisk : Drive.decode "local-lvm:vm-100-disk-0,size=32G" = .ok (.disk
      { storage := "local-lvm", size := 33554432, id := some 0, naming := some .volume,
        options := { backup := true, replicate := true } }) :=
    toOption_eq_some_iff.1 (by decide +kernel)
  have hvolume : Drive.token? (.parse "local-lvm:vm-100-disk-0,size=32G") =
      some "local-lvm:vm-100-disk-0" := by decide +kernel
  have hwant : ((writeProtectedDisk.disks.getD { }).onBus .scsi).bind
      (·.get? (⟨0, by decide⟩ : Slot Bus.scsi.kind)) = some (.disk
        { storage := "local-lvm", size := 33554432, options := { readOnly := true } }) := by
    decide +kernel
  obtain ⟨text, rfl, hkept⟩ := planUpdate_keeps_volume_iff hc hplain
    (by rw [hkey]; exact Wire.text?_of_get? (by simp [SortedMap.get?_ofList])) hdisk hvolume
    (fun v hv ↦ by rw [hparse] at hv; cases hv; decide +kernel) hwant rfl (.inl rfl) hplan
    (hkey ▸ hset)
  exact ⟨c, change, text, hc, hplan, hset, hkept⟩

/-- A guest that is in a volume of another guest is attached to a volume of its own. -/
theorem planUpdate_attaches_other_volume :
    ∃ (c : Configuration) (change : Change) (text : String),
      Configuration.ofWire (.ofList [("scsi0", .text "local-lvm:vm-101-disk-0,size=32G")]) = .ok c ∧
      (planUpdate ⟨8, 1, 0⟩ ⟨100, by decide, by decide⟩ c writeProtectedDisk).result = .ok change ∧
      change.params.get? "scsi0" = some (.text text) ∧
      (splitOn ',' text.toList).head? = some "local-lvm:vm-100-disk-0".toList := by
  have h : ((Configuration.ofWire
        (.ofList [("scsi0", .text "local-lvm:vm-101-disk-0,size=32G")])).toOption.bind fun c ↦
      (planUpdate ⟨8, 1, 0⟩ ⟨100, by decide, by decide⟩ c writeProtectedDisk).result.toOption.bind
        fun change ↦ (change.params.get? "scsi0").bind Value.text?) =
      some "local-lvm:vm-100-disk-0,backup=0,replicate=0,ro=1,size=32G" := by decide +kernel
  obtain ⟨c, hc, h⟩ := exists_of_toOption_bind h
  obtain ⟨change, hplan, h⟩ := exists_of_toOption_bind h
  obtain ⟨value, hset, htext⟩ := Option.bind_eq_some_iff.1 h
  cases value with
  | text text =>
    refine ⟨c, change, text, hc, hplan, hset, ?_⟩
    rw [Option.some.inj htext]
    decide +kernel
  | _ => cases htext

end GuestConfig
