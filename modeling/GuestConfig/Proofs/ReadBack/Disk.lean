import GuestConfig.Proofs.Convergence
import GuestConfig.Proofs.Disk.Exchange

/-!
# Disks read back as what was asked for

An update that asks for a disk where there is one leaves a disk there, on the storage and with the
options that were asked for.  It stays in its volume if nothing else was asked for, and it never
grows.  The volume, the format and the base image that are asked for are not heeded.

## What is here

* `Disks.exists_decoded?_of_planUpdate` — what an update does to one slot decides what is there
  afterwards.
* `planUpdate_revises_disk` — **a disk that is asked for where another one is reads back as what was
  asked for.**
-/

set_option autoImplicit false

namespace GuestConfig

open Text (isPlainName)

/-! ## Updates -/

/-- **What is asked for in a slot with a drive decides what is there after an update.** -/
theorem Disks.exists_decoded?_of_planUpdate {version : Version} {guest : GuestId} {w : Wire}
    {current desired : Configuration} {change : Change} {bus : Bus} {slot : Slot bus.kind}
    {found drive : Drive} {p : Option Drive → Prop}
    (hcurrent : (current.disks.getD { }).current bus slot = some found)
    (hfound : w.decoded? (slot.key bus.stem) Drive.decode = .ok (some found))
    (hdrive : ((desired.disks.getD { }).onBus bus).bind (·.get? slot) = some drive)
    (hchange : (planUpdate version guest current desired).result = .ok change)
    (hreplace : (Drive.replace bus (some guest) (slot.key bus.stem) found drive).refusal? = none →
      ((Drive.replace bus (some guest) (slot.key bus.stem) found drive).effect
        (slot.key bus.stem)).Settles Drive.decode (some found) p) :
    ∃ after,
      (change.applyTo w).decoded? (slot.key bus.stem) Drive.decode = .ok after ∧ p after := by
  have hfollows := Configuration.follows_applyTo hchange w .disks
  obtain ⟨hvalid, hrefusal, -⟩ := planUpdate_eq_ok_iff.1 hchange
  have hrefusal := Configuration.refusal?_planOnly hrefusal .disks
  rw [Configuration.planOnly_eq] at hfollows hrefusal
  dsimp only at hfollows hrefusal
  have hasked := asked_of_get? hdrive (Configuration.usesMediaSlot_of_validate hvalid)
  rw [plan_eq_flatMap, Draft.refusal?_flatMap_eq_none_iff] at hrefusal
  have hplace := refusal?_place_of_planOn (hrefusal bus bus.mem_all) hasked
  have hafter := hfollows (slot.key bus.stem) (bus.owner?_key slot)
  rw [effect_plan _ _ _ _ (bus.keyName_key slot), effect_planOn, hasked, hcurrent] at hafter
  rw [hcurrent] at hplace
  exact Wire.exists_decoded? hfound hafter (hreplace hplace)

/-- **A disk that is asked for where another one is reads back as what was asked for**, in size no
larger than before.  What is said of its base image, its format, its volume, and of whether it
belongs to a template, makes no difference at all. -/
theorem planUpdate_revises_disk {version : Version} {guest : GuestId} {w : Wire}
    {current desired : Configuration} {change : Change} {bus : Bus} {slot : Slot bus.kind}
    {stored volume : String} {before disk : Disk}
    (hcurrent : Configuration.ofWire w = .ok current) (hplain : w.HasPlainKey bus.stem slot)
    (hstored : w.text? (slot.key bus.stem) = .ok (some stored))
    (hbefore : Drive.decode stored = .ok (.disk before))
    (hvolume : Drive.token? (.parse stored) = some volume) (hequals : '=' ∉ volume.toList)
    (hdisk : ((desired.disks.getD { }).onBus bus).bind (·.get? slot) = some (.disk disk))
    (hname : isPlainName disk.storage = true)
    (hchange : (planUpdate version guest current desired).result = .ok change) :
    (∃ revised, (change.applyTo w).decoded? (slot.key bus.stem) Drive.decode =
        .ok (some (.disk revised)) ∧ disk.Revises before revised) ∧
      ∀ linked isBase volume format, planUpdate version guest current
          (desired.exchangeDrive bus slot (.disk { disk with linked, isBase, volume, format })) =
        planUpdate version guest current desired := by
  have hread := Wire.decoded?_of_text? hstored hbefore
  have hfound := Disks.current_of_decoded? hcurrent hplain hread
  constructor
  · obtain ⟨after, hafter, revised, rfl, hrevises, -⟩ := Disks.exists_decoded?_of_planUpdate hfound
      hread hdisk hchange (Drive.settles_replace_disk (slot.key bus.stem)
        (Drive.isStored_of_token? hbefore hvolume hequals) hname)
    exact ⟨revised, hafter, hrevises⟩
  · intro linked isBase volume format
    refine planUpdate_exchangeDrive hdisk rfl rfl ?_
    rw [hfound]
    rfl

/-- A guest with a disk of 32 GiB. -/
def diskGuest : Wire :=
  .ofList [("memory", .int 512), ("virtio3", .text "local-lvm:vm-100-disk-0,size=32G")]

/-- A disk of 64 GiB on another storage, and the volume that it is said to be in there. -/
def movedDisk : Disk where
  storage := "ceph"
  size := 67108864
  volume := some "ceph:vm-100-disk-7"
  options := { readOnly := true, bandwidth := { readOperations := some 0 } }

/-- What is asked for to move a disk to another storage. -/
def movedGuest : Configuration where
  disks := some { virtio := some (.ofList [(⟨3, by decide⟩, .disk movedDisk)]) }

/-- The disk is moved to a storage on which it should have twice the size. -/
theorem planUpdate_revises_movedDisk :
    ∃ (current : Configuration) (change : Change) (before revised : Disk),
      Configuration.ofWire diskGuest = .ok current ∧
      (planUpdate ⟨8, 1, 0⟩ ⟨100, by decide, by decide⟩ current movedGuest).result = .ok change ∧
      change.params.keys = ["virtio3"] ∧
      Drive.decode "local-lvm:vm-100-disk-0,size=32G" = .ok (.disk before) ∧
      (change.applyTo diskGuest).decoded? ((⟨3, by decide⟩ : Slot .virtio).key Bus.virtio.stem)
        Drive.decode = .ok (some (.disk revised)) ∧
      movedDisk.Revises before revised ∧
      ∀ linked isBase volume format,
        planUpdate ⟨8, 1, 0⟩ ⟨100, by decide, by decide⟩ current
            (movedGuest.exchangeDrive .virtio ⟨3, by decide⟩
              (.disk { movedDisk with linked, isBase, volume, format })) =
          planUpdate ⟨8, 1, 0⟩ ⟨100, by decide, by decide⟩ current movedGuest := by
  have h : ((Configuration.ofWire diskGuest).toOption.bind fun current ↦
      (planUpdate ⟨8, 1, 0⟩ ⟨100, by decide, by decide⟩ current movedGuest).result.toOption.bind
        fun change ↦ some change.params.keys) = some ["virtio3"] := by decide +kernel
  obtain ⟨current, hcurrent, h⟩ := exists_of_toOption_bind h
  obtain ⟨change, hchange, hkeys⟩ := exists_of_toOption_bind h
  have hbefore : Drive.decode "local-lvm:vm-100-disk-0,size=32G" = .ok (.disk
      { storage := "local-lvm", size := 33554432, id := some 0, naming := some .volume,
        options := { backup := true, replicate := true } }) :=
    toOption_eq_some_iff.1 (by decide +kernel)
  have hvolume : Drive.token? (.parse "local-lvm:vm-100-disk-0,size=32G") =
      some "local-lvm:vm-100-disk-0" := by decide +kernel
  have hdisk : ((movedGuest.disks.getD { }).onBus .virtio).bind
      (·.get? (⟨3, by decide⟩ : Slot Bus.virtio.kind)) = some (.disk movedDisk) := by decide +kernel
  have hplain : diskGuest.HasPlainKeys .virtio Bus.virtio.stem := by decide +kernel
  obtain ⟨⟨revised, hread, hrevises⟩, hunheeded⟩ := planUpdate_revises_disk hcurrent (hplain _)
    (toOption_eq_some_iff.1 (by decide +kernel)) hbefore hvolume (by decide) hdisk
    (by decide +kernel) hchange
  exact ⟨current, change, _, revised, hcurrent, hchange, Option.some.inj hkeys, hbefore, hread,
    hrevises, hunheeded⟩

end GuestConfig
