import GuestConfig.Proofs.Reboot
import GuestConfig.Proofs.Settling.CloudInit

/-!
# Public keys that did not change

Blanks around a key are gone once it is stored, and so they are when the key is read back.  A plan
compares the keys that are asked for with those in effect as they are, though, and not by what is
stored for them: a key with a blank at its end, as it comes out of a file, differs from itself read
back.  Nothing is lost by that, but the same text is sent with every update.

## What is here

* `PublicKeys.IsLine` — a key that is one line once the blanks around it are off.
* `PublicKeys.decode_text_of_isLine`, `PublicKeys.text_map_trimmed` — such keys read back as their
  trimmings, which are stored as the keys are.
* `Configuration.publicKeys` — the keys of a guest, and `Configuration.effect_plan_publicKeys`: what
  a plan does to them.
* `planUpdate_leaves_publicKeys_iff` — **keys are left alone exactly if they have no blanks around
  them**, and `planUpdate_sends_publicKeys_again`, keys that are not.
-/

set_option autoImplicit false

namespace GuestConfig

open Text (trim trim_trim trimmed toList_trimmed)

/-! ## Keys read back -/

namespace PublicKeys

/-- A key that is one line once the blanks around it are off. -/
structure IsLine (key : String) : Prop where
  /-- There is more to it than blanks. -/
  not_blank : trim key.toList ≠ []
  /-- It is not divided. -/
  not_divided : '\n' ∉ trim key.toList

instance (key : String) : Decidable (IsLine key) :=
  decidable_of_iff (trim key.toList ≠ [] ∧ '\n' ∉ trim key.toList)
    ⟨fun h ↦ ⟨h.1, h.2⟩, fun h ↦ ⟨h.1, h.2⟩⟩

theorem decode_text_of_isLine {keys : PublicKeys} (h : ∀ key ∈ keys, IsLine key) :
    decode (text keys) = .ok (keys.map trimmed) := by
  rw [decode_text_eq fun key hkey ↦ (h key hkey).not_divided]
  refine congrArg _ (List.filter_eq_self.2 fun piece hpiece ↦ decide_eq_true fun hnil ↦ ?_)
  obtain ⟨key, hkey, rfl⟩ := List.mem_map.1 hpiece
  exact (h key hkey).not_blank (by rw [← toList_trimmed, hnil]; rfl)

theorem text_map_trimmed (keys : PublicKeys) : text (keys.map trimmed) = text keys := by
  rw [text_eq, text_eq, List.map_map]
  simp only [Function.comp_def, toList_trimmed, trim_trim]

theorem map_trimmed_eq_self_iff {keys : PublicKeys} :
    keys.map trimmed = keys ↔ ∀ key ∈ keys, trimmed key = key := by
  simpa using List.map_inj_left (l := keys) (f := trimmed) (g := id)

end PublicKeys

/-! ## Updates -/

namespace Configuration

/-- The public keys of a guest's operators. -/
def publicKeys (c : Configuration) : Option PublicKeys :=
  c.cloudInit.bind CloudInit.publicKeys

theorem publicKeys_eq (c : Configuration) :
    c.publicKeys = (c.cloudInit.getD { }).publicKeys := by
  rw [publicKeys]
  cases c.cloudInit <;> rfl

/-- **What a plan does to the public keys** is what comparing them does. -/
theorem effect_plan_publicKeys (version : Version) (guest : Option GuestId)
    (current desired : Configuration) :
    (desired.plan version guest (some current)).effect PublicKeys.key =
      Draft.effect PublicKeys.key (.setting PublicKeys.key CloudInit.renderKeys false
        current.publicKeys desired.publicKeys) := by
  have howner : Setting.owner? PublicKeys.key = some .cloudInit := by decide
  rw [effect_plan, howner]
  dsimp only
  rw [planOnly_eq, current.publicKeys_eq, publicKeys]
  cases desired.cloudInit with
  | none => rfl
  | some settings => exact (CloudInit.effect_plan current.cloudInit settings).2.2.2.1

end Configuration

/-- **Keys are left alone exactly if they have no blanks around them**, where they are asked for
again once they were stored and read back.  Whatever is sent for them is what is stored for them
already. -/
theorem planUpdate_leaves_publicKeys_iff {version : Version} {guest : GuestId}
    {current desired : Configuration} {change : Change} {keys found : PublicKeys}
    (hkeys : keys ≠ []) (hlines : ∀ key ∈ keys, PublicKeys.IsLine key)
    (hdesired : desired.publicKeys = some keys)
    (hfound : PublicKeys.decode (PublicKeys.text keys) = .ok found)
    (hcurrent : current.publicKeys = some found)
    (hchange : (planUpdate version guest current desired).result = .ok change) :
    (change.params.get? PublicKeys.key = none ∧ PublicKeys.key ∉ change.deleted ↔
        ∀ key ∈ keys, trimmed key = key) ∧
      ∀ v, change.params.get? PublicKeys.key = some v → v = .text (PublicKeys.text found) := by
  obtain ⟨-, -, rfl⟩ := planUpdate_eq_ok_iff.1 hchange
  obtain rfl : keys.map trimmed = found :=
    Except.ok.inj ((PublicKeys.decode_text_of_isLine hlines).symm.trans hfound)
  have hrender : CloudInit.renderKeys keys = some (.text (PublicKeys.text keys)) := by
    rw [CloudInit.renderKeys, if_neg (by simpa using hkeys)]
  have heffect : (desired.plan version (some guest) (some current)).effect PublicKeys.key =
      if keys.map trimmed = keys then .keep else .set (.text (PublicKeys.text keys)) := by
    rw [Configuration.effect_plan_publicKeys, hcurrent, hdesired, Draft.effect_setting]
    simp only [hrender, Option.some.injEq]
  constructor
  · rw [← Change.effect_eq_keep_iff, Draft.effect_change, heffect,
      ← PublicKeys.map_trimmed_eq_self_iff]
    split <;> simp [*]
  · intro v hv
    have hnodup := Configuration.nodup_keys_plan version (some guest) current desired
    rw [Draft.get?_change_eq_some_iff_effect hnodup, heffect] at hv
    split at hv
    · cases hv
    · rw [PublicKeys.text_map_trimmed]
      exact (Effect.set.inj hv).symm

/-- A guest with two public keys. -/
def sharedGuest : Wire :=
  .ofList [("sshkeys", .text "ssh-ed25519%20AAAA%0Assh-rsa%20AAAB%20bob")]

/-- What is asked for to give that guest a user and the same keys. -/
def renamedUserGuest : Configuration where
  cloudInit := some {
    publicKeys := some ["ssh-ed25519 AAAA", "ssh-rsa AAAB bob"]
    username := some "bob" }

/-- The keys are not sent along with the user. -/
theorem planUpdate_leaves_publicKeys_of_user :
    ∃ (current : Configuration) (change : Change) (keys : PublicKeys),
      Configuration.ofWire sharedGuest = .ok current ∧
      (planUpdate ⟨8, 1, 0⟩ ⟨100, by decide, by decide⟩ current renamedUserGuest).result =
        .ok change ∧
      renamedUserGuest.publicKeys = some keys ∧ (∀ key ∈ keys, PublicKeys.IsLine key) ∧
      PublicKeys.decode (PublicKeys.text keys) = .ok keys ∧ current.publicKeys = some keys ∧
      change.params.keys = ["ciuser"] ∧
      change.params.get? "sshkeys" = none ∧ "sshkeys" ∉ change.deleted := by
  have h : ((Configuration.ofWire sharedGuest).toOption.bind fun current ↦
      (planUpdate ⟨8, 1, 0⟩ ⟨100, by decide, by decide⟩ current
        renamedUserGuest).result.toOption.bind fun change ↦
          some (current.publicKeys, change.params.keys)) =
      some (some ["ssh-ed25519 AAAA", "ssh-rsa AAAB bob"], ["ciuser"]) := by decide +kernel
  obtain ⟨current, hcurrent, h⟩ := exists_of_toOption_bind h
  obtain ⟨change, hchange, h⟩ := exists_of_toOption_bind h
  obtain ⟨hfound, hparams⟩ := Prod.mk.inj (Option.some.inj h)
  have hlines : ∀ key ∈ ["ssh-ed25519 AAAA", "ssh-rsa AAAB bob"], PublicKeys.IsLine key := by
    decide
  have hread := PublicKeys.decode_text_of_isLine hlines
  have hleft := (planUpdate_leaves_publicKeys_iff (by decide) hlines rfl hread hfound hchange).1.2
    (by decide +kernel)
  exact ⟨current, change, _, hcurrent, hchange, rfl, hlines, hread, hfound, hparams, hleft⟩

/-- What is asked for to give a guest the keys that it has, as they come out of a file. -/
def rekeyedGuest : Configuration where
  cloudInit := some { publicKeys := some ["ssh-ed25519 AAAA\n", "ssh-rsa AAAB bob\n"] }

/-- Keys that end with a newline are sent again, although they are in effect. -/
theorem planUpdate_sends_publicKeys_again :
    ∃ (current : Configuration) (change : Change) (keys found : PublicKeys),
      Configuration.ofWire sharedGuest = .ok current ∧
      rekeyedGuest.publicKeys = some keys ∧ keys ≠ [] ∧ (∀ key ∈ keys, PublicKeys.IsLine key) ∧
      PublicKeys.decode (PublicKeys.text keys) = .ok found ∧ current.publicKeys = some found ∧
      (planUpdate ⟨8, 1, 0⟩ ⟨100, by decide, by decide⟩ current rekeyedGuest).result =
        .ok change ∧
      change.params.keys = ["sshkeys"] := by
  have h : ((Configuration.ofWire sharedGuest).toOption.bind fun current ↦
      (planUpdate ⟨8, 1, 0⟩ ⟨100, by decide, by decide⟩ current
        rekeyedGuest).result.toOption.bind fun change ↦
          some (current.publicKeys, change.params.keys)) =
      some (some ["ssh-ed25519 AAAA", "ssh-rsa AAAB bob"], ["sshkeys"]) := by decide +kernel
  obtain ⟨current, hcurrent, h⟩ := exists_of_toOption_bind h
  obtain ⟨change, hchange, h⟩ := exists_of_toOption_bind h
  obtain ⟨hfound, hparams⟩ := Prod.mk.inj (Option.some.inj h)
  have hlines : ∀ key ∈ ["ssh-ed25519 AAAA\n", "ssh-rsa AAAB bob\n"], PublicKeys.IsLine key := by
    decide
  have htrimmed : ["ssh-ed25519 AAAA\n", "ssh-rsa AAAB bob\n"].map trimmed =
      ["ssh-ed25519 AAAA", "ssh-rsa AAAB bob"] := by decide +kernel
  exact ⟨current, change, _, _, hcurrent, rfl, by decide, hlines,
    (PublicKeys.decode_text_of_isLine hlines).trans (congrArg _ htrimmed), hfound, hchange,
    hparams⟩

end GuestConfig
