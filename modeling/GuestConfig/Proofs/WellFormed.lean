import GuestConfig.Proofs.LeftAlone
import GuestConfig.Proofs.Plan.Distinct
import GuestConfig.Proofs.Settling.CloudInit
import GuestConfig.Proofs.Settling.Cpu
import GuestConfig.Proofs.Settling.Guest

/-!
# Changes are well formed

The API refuses a request that deletes a key which the guest does not have, and what it makes of a
key that is both set and deleted is its own affair.  The keys to delete travel in one text between
commas, under a key that nothing else may be set under.  So a change has to meet a few conditions to
mean what it says, and every change that is planned meets them.

That only keys which are there are deleted depends on how slots are spelled: a guest may have a disk
under `scsi00`, and it would be deleted under `scsi0`.

## What is here

* `Wire.HasValue`, `Wire.HasPlainSlots` — keys that are there, and slots that are spelled plainly.
* `Change.IsWellFormed` — what makes a change mean what it says.
* `Configuration.hasValue_of_delete` — **what is deleted is there.**
* `Configuration.AsksFor.comma_not_mem` — keys have no commas.
* `planUpdate_isWellFormed` — **every change that is planned is well formed.**
-/

set_option autoImplicit false

namespace GuestConfig

/-! ## What is there -/

namespace Wire

variable {w : Wire}

/-- A key is there, and its value is not null. -/
def HasValue (w : Wire) (key : String) : Prop :=
  ∃ v, w.get? key = some v ∧ v ≠ .null

theorem hasValue_of_field? {α : Type} {key : String} {read : Value → Except WireError α}
    {o : Option α} (h : w.field? key read = .ok o) (ho : o.isSome) : w.HasValue key := by
  obtain ⟨a, rfl⟩ := Option.isSome_iff_exists.1 ho
  obtain ⟨v, hv, hnull, -⟩ := field?_eq_some_iff.1 h
  exact ⟨v, hv, hnull⟩

theorem hasValue_of_slots {α : Type} {kind : SlotKind} {stem : String}
    {decode : String → Except WireError α} {devices : Option (SlotMap kind α)}
    (hplain : w.HasPlainKeys kind stem) (h : w.slots kind stem decode = .ok devices)
    {slot : Slot kind} (ho : ((devices.getD .empty).get? slot).isSome) :
    w.HasValue (slot.key stem) :=
  hasValue_of_field? (decoded?_of_slots (hplain slot) h) ho

/-- A stored object whose slots are spelled plainly. -/
structure HasPlainSlots (w : Wire) : Prop where
  drives (bus : Bus) : w.HasPlainKeys bus.kind bus.stem
  networks : w.HasPlainKeys .network NetworkInterface.stem
  addressing : w.HasPlainKeys .network CloudInit.addressingStem
  pciDevices : w.HasPlainKeys .pci PciDevice.stem
  serials : w.HasPlainKeys .serial SerialPort.stem
  usbs : w.HasPlainKeys .usb UsbDevice.stem

end Wire

/-! ## What is deleted is there -/

theorem Cpu.Holds.hasValue_of_delete {w : Wire} {base desired : Cpu} (h : Holds w base)
    {key : String} {reboot : Bool} (hstep : PlanStep base desired (.delete key reboot)) :
    w.HasValue key := by
  cases hstep with
  | cores _ hstep | sockets _ hstep | numa _ hstep | affinity _ hstep =>
    exact hstep.of_delete.2.elim
  | limit _ hstep => exact hstep.of_delete.1 ▸ Wire.hasValue_of_field? h.limit hstep.of_delete.2
  | units _ hstep => exact hstep.of_delete.1 ▸ Wire.hasValue_of_field? h.units hstep.of_delete.2
  | virtualCores _ hstep =>
    exact hstep.of_delete.1 ▸ Wire.hasValue_of_field? h.virtualCores hstep.of_delete.2
  | model _ hstep =>
    -- the model and the features both come from the text under the key
    obtain ⟨s, hs, hmodel, hflags⟩ := h.modelText
    obtain ⟨rfl, hthere⟩ := hstep.of_delete
    refine Wire.hasValue_of_field? hs ?_
    cases s with
    | some s => rfl
    | none =>
      rw [hmodel, hflags] at hthere
      exact hthere.elim id id

theorem CloudInit.Holds.hasValue_of_delete {w : Wire} {base desired : CloudInit} (h : Holds w base)
    (hplain : w.HasPlainKeys .network addressingStem) {key : String} {reboot : Bool}
    (hstep : PlanStep base desired (.delete key reboot)) : w.HasValue key := by
  obtain ⟨⟨hsearchDomain, hnameServers⟩, -⟩ := dnsOfWire_eq_ok_iff.1 h.dns
  cases hstep with
  | custom _ hstep => exact hstep.of_delete.1 ▸ Wire.hasValue_of_field? h.custom hstep.of_delete.2
  | searchDomain _ hstep =>
    exact hstep.of_delete.1 ▸ Wire.hasValue_of_field? hsearchDomain hstep.of_delete.2
  | nameServers _ hstep =>
    exact hstep.of_delete.1 ▸ Wire.hasValue_of_field? hnameServers hstep.of_delete.2
  | addressing _ slot hstep =>
    exact hstep.of_delete.1 ▸ Wire.hasValue_of_slots hplain h.addressing hstep.of_delete.2
  | publicKeys _ hstep =>
    exact hstep.of_delete.1 ▸ Wire.hasValue_of_field? h.publicKeys hstep.of_delete.2
  | username _ hstep =>
    exact hstep.of_delete.1 ▸ Wire.hasValue_of_field? h.username hstep.of_delete.2
  | password _ hstep =>
    exact hstep.of_delete.1 ▸ Wire.hasValue_of_field? h.password hstep.of_delete.2
  | upgradePackages _ hstep => exact hstep.of_delete.2.elim

theorem Memory.hasValue_of_delete {w : Wire} {current : Option Memory} {desired : Memory}
    (h : ofWire w = .ok current) {key : String} {reboot : Bool}
    (hstep : PlanStep (current.getD { }) desired (.delete key reboot)) : w.HasValue key := by
  obtain ⟨⟨-, -, hshares⟩, -⟩ := ofWire_eq_ok_iff.1 h
  cases hstep with
  | minimum _ hstep => exact hstep.of_delete.2.elim
  | shares _ hstep => exact hstep.of_delete.1 ▸ Wire.hasValue_of_field? hshares hstep.of_delete.2
  | leftover _ hbase _ =>
    refine Wire.hasValue_of_field? hshares ?_
    obtain ⟨hsome, -⟩ := (Option.any_eq_true_iff_get _ _).1 hbase
    exact hsome

theorem Drive.not_delete_mem_place {bus : Bus} {guest : Option GuestId} {key key' : String}
    {existing : Option Drive} {drive : Drive} {reboot : Bool} :
    Step.delete key' reboot ∉ (placement bus guest).place key existing drive := by
  rcases place_cases bus guest key existing drive with h | ⟨text, reboot, h⟩ | h
  all_goals simp [h]

namespace Configuration

variable {version : Version} {guest : GuestId} {w : Wire} {current desired : Configuration}

/-- **What is deleted is there.** -/
theorem hasValue_of_delete (hw : Holds w current) (hplain : w.HasPlainSlots) {key : String}
    {reboot : Bool}
    (h : .delete key reboot ∈ desired.plan version (some guest) (some current)) :
    w.HasValue key := by
  obtain ⟨s, hs⟩ := exists_planStep_of_mem_plan h
  cases hs with
  | agent _ hstep | name _ hstep | onBoot _ hstep | isProtected _ hstep =>
    exact hstep.of_delete.2.elim
  | cloudInit _ hstep =>
    exact (CloudInit.ofWire_eq_ok_iff.1 hw.cloudInit).1.hasValue_of_delete hplain.addressing hstep
  | cpu _ hstep => exact (Cpu.ofWire_eq_ok_iff.1 hw.cpu).1.hasValue_of_delete hstep
  | description _ hstep =>
    exact hstep.of_delete.1 ▸ Wire.hasValue_of_field? hw.description hstep.of_delete.2
  | drive bus hstep =>
    cases hstep with
    | place _ hplace => exact absurd hplace Drive.not_delete_mem_place
    | remove _ hcurrent =>
      exact Wire.hasValue_of_slots (hplain.drives bus) ((Disks.ofWire_eq_ok_iff.1 hw.disks).1 bus)
        hcurrent
  | memory _ hstep => exact Memory.hasValue_of_delete hw.memory hstep
  | network _ hstep =>
    cases hstep with
    | remove hcurrent => exact Wire.hasValue_of_slots hplain.networks hw.networks hcurrent
  | pciDevice _ slot hstep =>
    exact hstep.of_delete.1 ▸
      Wire.hasValue_of_slots hplain.pciDevices hw.pciDevices hstep.of_delete.2
  | serial _ slot hstep =>
    exact hstep.of_delete.1 ▸ Wire.hasValue_of_slots hplain.serials hw.serials hstep.of_delete.2
  | tags _ hstep =>
    obtain ⟨rfl, hthere⟩ := hstep.of_delete
    -- what is read counts only if it is not empty
    obtain ⟨tags, htags, hfilter⟩ := map_eq_ok_iff.1 hw.tags
    refine Wire.hasValue_of_field? htags ?_
    cases tags with
    | some tags => rfl
    | none =>
      rw [← hfilter] at hthere
      cases hthere
  | tpm _ hstep => exact hstep.of_delete.1 ▸ Wire.hasValue_of_field? hw.tpm hstep.of_delete.2
  | usb _ slot hstep =>
    exact hstep.of_delete.1 ▸ Wire.hasValue_of_slots hplain.usbs hw.usbs hstep.of_delete.2

end Configuration

/-! ## Keys have no commas -/

theorem Slot.comma_not_mem_key {kind : SlotKind} {stem : String} (h : ',' ∉ stem.toList)
    (slot : Slot kind) : ',' ∉ (slot.key stem).toList := by
  rw [key, text, String.toList_append, Text.toList_natural, List.mem_append]
  exact not_or.2 ⟨h, Text.not_mem_digits (by decide) slot.index⟩

theorem Cpu.AsksFor.comma_not_mem {cpu : Cpu} {key : String} (h : cpu.AsksFor key) :
    ',' ∉ key.toList := by
  cases h <;> decide

theorem Memory.AsksFor.comma_not_mem {memory : Memory} {key : String} (h : memory.AsksFor key) :
    ',' ∉ key.toList := by
  cases h <;> decide

theorem CloudInit.AsksFor.comma_not_mem {settings : CloudInit} {key : String}
    (h : settings.AsksFor key) : ',' ∉ key.toList := by
  cases h with
  | addressing _ slot => exact Slot.comma_not_mem_key (by decide) slot
  | _ => decide

/-- **Keys have no commas.** -/
theorem Configuration.AsksFor.comma_not_mem {desired : Configuration} {key : String}
    (h : desired.AsksFor key) : ',' ∉ key.toList := by
  cases h with
  | cloudInit _ hkey => exact hkey.comma_not_mem
  | cpu _ hkey => exact hkey.comma_not_mem
  | memory _ hkey => exact hkey.comma_not_mem
  | @drive _ _ bus _ slot => exact Slot.comma_not_mem_key (by cases bus <;> decide) slot
  | network _ slot => exact Slot.comma_not_mem_key (by decide) slot
  | pciDevice _ slot => exact Slot.comma_not_mem_key (by decide) slot
  | serial _ slot => exact Slot.comma_not_mem_key (by decide) slot
  | usb _ slot => exact Slot.comma_not_mem_key (by decide) slot
  | _ => decide

/-! ## Changes -/

namespace Change

/-- What makes a change of a stored object mean what it says. -/
structure IsWellFormed (c : Change) (w : Wire) : Prop where
  /-- No key is both set and deleted. -/
  disjoint : ∀ key ∈ c.deleted, c.params.get? key = none
  /-- No key is deleted twice. -/
  nodup : c.deleted.Nodup
  /-- What is deleted is there. -/
  present : ∀ key ∈ c.deleted, w.HasValue key
  /-- A reboot is only needed for something. -/
  reboot : c.reboot = true → c.isEmpty = false
  /-- Nothing is set under the key that lists the keys to delete. -/
  deleteKey : c.params.get? deleteKey = none
  /-- The request lists keys to delete exactly if there are any. -/
  listed : c.body.get? Change.deleteKey = none ↔ c.deleted = []
  /-- The keys to delete can be told apart in the request. -/
  split : ∀ v, c.body.get? Change.deleteKey = some v →
    ∃ s, v = .text s ∧ (Text.splitOn ',' s.toList).map String.ofList = c.deleted

theorem isEmpty_eq_false {c : Change} {key : String}
    (h : (c.params.get? key).isSome ∨ key ∈ c.deleted) : c.isEmpty = false := by
  refine Bool.eq_false_iff.2 fun hempty ↦ ?_
  obtain ⟨hparams, hdeleted⟩ := Bool.and_eq_true_iff.1 hempty
  rcases h with hset | hdelete
  · obtain ⟨v, hv⟩ := Option.isSome_iff_exists.1 hset
    rw [← SortedMap.mem_toList_iff, List.isEmpty_iff.1 hparams] at hv
    cases hv
  · rw [List.isEmpty_iff.1 hdeleted] at hdelete
    cases hdelete

/-- The keys to delete can be read off the request, if they have no commas. -/
theorem get?_body_deleteKey {c : Change} (hdelete : c.params.get? deleteKey = none)
    (hcomma : ∀ key ∈ c.deleted, ',' ∉ key.toList) :
    (c.body.get? deleteKey = none ↔ c.deleted = []) ∧
      ∀ v, c.body.get? deleteKey = some v →
        ∃ s, v = .text s ∧ (Text.splitOn ',' s.toList).map String.ofList = c.deleted := by
  by_cases hnil : c.deleted = []
  · have hbody : c.body = c.params := by simp [body, hnil]
    rw [hbody, hdelete]
    exact ⟨iff_of_true rfl hnil, fun v hv ↦ by cases hv⟩
  · have hbody : c.body.get? deleteKey = some (.text (String.intercalate "," c.deleted)) := by
      rw [body, if_neg (mt List.isEmpty_iff.1 hnil), SortedMap.get?_insert_self]
    rw [hbody]
    refine ⟨iff_of_false (Option.some_ne_none _) hnil,
      fun v hv ↦ ⟨_, (Option.some.inj hv).symm, ?_⟩⟩
    have hpieces : ∀ piece ∈ c.deleted.map String.toList, ',' ∉ piece := by
      intro piece hpiece
      obtain ⟨key, hkey, rfl⟩ := List.mem_map.1 hpiece
      exact hcomma key hkey
    have hsep : ",".toList = [','] := rfl
    rw [String.toList_intercalate, hsep,
      Text.splitOn_intercalate (mt List.map_eq_nil_iff.1 hnil) hpieces, List.map_map]
    simp

end Change

/-- A draft amounts to a well formed change if its keys come once, have no commas and are not the
key that lists the keys to delete, and if those that it deletes are there. -/
theorem Draft.isWellFormed_change {draft : Draft} {w : Wire} (hnodup : draft.keys.Nodup)
    (hcomma : draft.TouchesOnly fun key ↦ ',' ∉ key.toList)
    (hdeleteKey : draft.TouchesOnly (· ≠ Change.deleteKey))
    (hpresent : ∀ key reboot, .delete key reboot ∈ draft → w.HasValue key) :
    draft.change.IsWellFormed w := by
  have hset : draft.change.params.get? Change.deleteKey = none := by
    cases hget : draft.change.params.get? Change.deleteKey with
    | none => rfl
    | some v =>
      obtain ⟨reboot, hset⟩ := exists_set_of_get?_change hget
      exact absurd rfl (hdeleteKey _ hset Change.deleteKey rfl)
  have hdeleted (key : String) (hkey : key ∈ draft.change.deleted) : ',' ∉ key.toList := by
    obtain ⟨reboot, hdelete⟩ := mem_deleted_change_iff.1 hkey
    exact hcomma _ hdelete key rfl
  obtain ⟨hlisted, hsplit⟩ := Change.get?_body_deleteKey hset hdeleted
  refine ⟨fun key hkey ↦ get?_change_of_mem_deleted hnodup hkey, nodup_deleted_change draft,
    fun key hkey ↦ ?_, fun hreboot ↦ ?_, hset, hlisted, hsplit⟩
  · obtain ⟨reboot, hdelete⟩ := mem_deleted_change_iff.1 hkey
    exact hpresent key reboot hdelete
  · obtain ⟨step, hstep, hreboots⟩ := reboot_change_iff.1 hreboot
    cases step with
    | set key value reboot => exact Change.isEmpty_eq_false (.inl (isSome_get?_change hstep))
    | delete key reboot =>
      exact Change.isEmpty_eq_false (.inr (mem_deleted_change_iff.2 ⟨reboot, hstep⟩))
    | ignorePool pool => cases hreboots
    | refuse cause => cases hreboots

/-- **Every change that is planned is well formed**, and no two of its steps are about the same
key. -/
theorem planUpdate_isWellFormed {version : Version} {guest : GuestId} {w : Wire}
    {current desired : Configuration} {change : Change} (hw : w.HasPlainSlots)
    (hcurrent : Configuration.ofWire w = .ok current)
    (hchange : (planUpdate version guest current desired).result = .ok change) :
    (desired.plan version (some guest) (some current)).keys.Nodup ∧ change.IsWellFormed w := by
  obtain ⟨-, -, rfl⟩ := planUpdate_eq_ok_iff.1 hchange
  have hnodup := Configuration.nodup_keys_plan version (some guest) current desired
  refine ⟨hnodup, Draft.isWellFormed_change hnodup (fun step hstep key hkey ↦ ?_)
    (fun step hstep key hkey heq ↦ ?_) fun key reboot hdelete ↦
      Configuration.hasValue_of_delete (Configuration.ofWire_eq_ok_iff.1 hcurrent) hw hdelete⟩
  · rcases Configuration.asksFor_or_of_mem_plan hstep hkey with hasks | ⟨rfl, -⟩
    · exact hasks.comma_not_mem
    · obtain rfl := Option.some.inj hkey
      decide
  · -- the key that lists the keys to delete belongs to no setting
    obtain ⟨s, hs⟩ := Configuration.mem_plan_iff.1 hstep
    have howner : Setting.owner? key = some s :=
      Configuration.touchesOnly_planOnly version (some guest) current desired s step hs key hkey
    rw [heq] at howner
    cases howner

/-- A guest with a CD-ROM drive, an interface and shares. -/
def equippedGuest : Wire :=
  .ofList [("ide2", .text "none,media=cdrom"), ("memory", .int 512),
    ("net0", .text "virtio,bridge=vmbr0"), ("shares", .int 9)]

/-- What is asked for to take the devices and half of the memory away. -/
def bareGuest : Configuration where
  disks := some { ide := some .empty }
  memory := some { capacity := some 256 }
  networks := some .empty

theorem hasPlainSlots_equippedGuest : equippedGuest.HasPlainSlots where
  drives bus := by cases bus <;> decide +kernel
  networks := by decide +kernel
  addressing := by decide +kernel
  pciDevices := by decide +kernel
  serials := by decide +kernel
  usbs := by decide +kernel

/-- A guest loses its devices, half of its memory, and shares that are left over. -/
theorem planUpdate_isWellFormed_of_bare :
    ∃ (current : Configuration) (change : Change),
      equippedGuest.HasPlainSlots ∧
      Configuration.ofWire equippedGuest = .ok current ∧
      (planUpdate ⟨8, 1, 0⟩ ⟨100, by decide, by decide⟩ current bareGuest).result = .ok change ∧
      change.body.keys = ["delete", "memory"] ∧ change.deleted = ["ide2", "shares", "net0"] ∧
      (bareGuest.plan ⟨8, 1, 0⟩ (some ⟨100, by decide, by decide⟩) (some current)).keys.Nodup ∧
      change.IsWellFormed equippedGuest := by
  have h : ((Configuration.ofWire equippedGuest).toOption.bind fun current ↦
      (planUpdate ⟨8, 1, 0⟩ ⟨100, by decide, by decide⟩ current bareGuest).result.toOption.bind
        fun change ↦ some (change.body.keys, change.deleted)) =
      some (["delete", "memory"], ["ide2", "shares", "net0"]) := by decide +kernel
  obtain ⟨current, hcurrent, h⟩ := exists_of_toOption_bind h
  obtain ⟨change, hchange, hkeys⟩ := exists_of_toOption_bind h
  obtain ⟨hbody, hdeleted⟩ := Prod.mk.inj (Option.some.inj hkeys)
  exact ⟨current, change, hasPlainSlots_equippedGuest, hcurrent, hchange, hbody, hdeleted,
    planUpdate_isWellFormed hasPlainSlots_equippedGuest hcurrent hchange⟩

end GuestConfig
