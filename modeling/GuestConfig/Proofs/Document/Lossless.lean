import GuestConfig.Configuration
import GuestConfig.Proofs.Document.Device
import GuestConfig.Proofs.Document.Drive
import GuestConfig.Proofs.Document.Setting

/-!
# Documents lose nothing

A configuration can be written as a document and read again.  This is how it is kept by whoever asks
for it, so that a setting that comes back different would be asked for differently the next time.
Nothing is normalized on the way: an address keeps its spelling, a zero stays a zero, and an empty
list is not an absent one.

## What is here

* `Configuration.HasNoThroughput` — no drive has a limit of throughput.
* `Configuration.ofValue?_toValue_of_hasNoThroughput` — **such a configuration is read from the
  document that it is written as.**
-/

set_option autoImplicit false

namespace GuestConfig

namespace Configuration

/-- Whether no drive has a limit of throughput. -/
def HasNoThroughput (c : Configuration) : Prop :=
  ∀ disks ∈ c.disks, disks.HasNoThroughput

instance (c : Configuration) : Decidable c.HasNoThroughput :=
  inferInstanceAs (Decidable (∀ disks ∈ c.disks, disks.HasNoThroughput))

/-- **A configuration without limits of throughput is read from its document.** -/
theorem ofValue?_toValue_of_hasNoThroughput {c : Configuration} (h : c.HasNoThroughput) :
    ofValue? c.toValue = some c := by
  have hdisks : Value.nullable? (Disks.ofValue? .json) (.ofOption Disks.toValue c.disks) =
      some c.disks :=
    Value.nullable?_ofOption fun disks hd ↦
      ⟨Disks.ofValue?_toValue .json (h disks hd), disks.isNull_toValue⟩
  rw [ofValue?, toValue, Option.bind_eq_bind]
  refine Value.bind_fields?_object rfl (by decide +kernel) fun fields hget ↦ ?_
  simp [hget, List.lookup_cons, Value.nullable?_ofOption, Value.slotMap?_ofSlotMap, hdisks]

end Configuration

/-- A guest whose settings are easily lost: an address in mixed case, limits and numbers of zero,
lists and sets that are empty, choices without content, and a slot with two digits. -/
def documentedGuest : Configuration where
  cloudInit := some { dns := some { nameServers := some [] }, publicKeys := some [] }
  cpu := some { affinity := some .empty, flags := some (.ofList [(.aes, .unset)]), limit := some 0 }
  description := some ""
  disks := some {
    ide := some (.ofList [(⟨1, by decide⟩, .cdrom .empty)])
    sata := some .empty
    scsi := some (.ofList [
      (⟨4, by decide⟩, .disk {
        storage := "local-lvm"
        size := 33554432
        linked := some ⟨⟨999999999, by decide, by decide⟩, 4294967295⟩
        options := { cache := some .none, bandwidth := { readOperations := some 0 } } }),
      (⟨10, by decide⟩, .passthrough { path := ⟨"/dev/sdb", by decide +kernel⟩ })]) }
  networks := some (.ofList [(⟨31, by decide⟩, {
    delete := true
    mac := some ⟨"bc:24:11:Aa:00:01", by decide +kernel⟩
    mtu := some (.bytes 1)
    taggedVlans := some .empty })])
  serials := some (.ofList [(⟨0, by decide⟩, .socket)])
  usbs := some (.ofList [(⟨4, by decide⟩, ⟨.spice, true⟩)])

theorem documentedGuest_readsBack :
    documentedGuest.HasNoThroughput ∧
      Configuration.ofValue? documentedGuest.toValue = some documentedGuest := by
  have h : documentedGuest.HasNoThroughput := by decide +kernel
  exact ⟨h, Configuration.ofValue?_toValue_of_hasNoThroughput h⟩

end GuestConfig
