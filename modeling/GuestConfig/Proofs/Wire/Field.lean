import GuestConfig.Proofs.Outcome
import GuestConfig.Proofs.Plan.Effect
import GuestConfig.Value.Reader
import Mathlib.Algebra.Group.Nat.Defs

/-!
# Reading back one key

A setting is planned by comparing its value, stored under its key, and read from there again.  What
makes the three fit together is that the reader of the key takes every value that the plan writes.
Then a setting that was planned once is *settled*: what is stored reads as the value that the plan
was after, and planning again finds nothing to do.

## What is here

* `Wire.field?_congr` — a reader looks at its key only.
* `Wire.field?_eq_some_iff`, `Wire.field?_eq_none_iff` — what it takes for a key to have a value.
* `Wire.text?_of_get?`, `Wire.readWord_ofWord`, `Wire.readFlag_ofFlag` — written values read back.
* `Draft.settled` — the value of a setting after it was planned, with `Draft.setting_settled` and
  `Wire.field?_settled`.
-/

set_option autoImplicit false

namespace GuestConfig

namespace Wire

variable {α : Type} {w w' : Wire} {key : String} {read : Value → Except WireError α}

/-! ## Values of a key -/

/-- **A reader looks at its key only.** -/
theorem field?_congr (h : w'.get? key = w.get? key) : w'.field? key read = w.field? key read := by
  rw [field?, field?, h]

theorem text?_congr (h : w'.get? key = w.get? key) : w'.text? key = w.text? key :=
  field?_congr h

theorem word?_congr [Word α] (h : w'.get? key = w.get? key) :
    (w'.word? key : Except WireError (Option α)) = w.word? key :=
  field?_congr h

theorem flag?_congr (h : w'.get? key = w.get? key) : w'.flag? key = w.flag? key :=
  field?_congr h

theorem decoded?_congr {decode : String → Except WireError α} (h : w'.get? key = w.get? key) :
    w'.decoded? key decode = w.decoded? key decode :=
  field?_congr h

/-- A key has no value exactly if it is missing or null. -/
theorem field?_eq_none_iff :
    w.field? key read = .ok none ↔ w.get? key = none ∨ w.get? key = some .null := by
  cases hv : w.get? key with
  | none => simp [field?, hv]
  | some v =>
    cases v with
    | null => simp [field?, hv]
    | _ => simp [field?, hv, within_eq_ok_iff, map_eq_ok_iff]

theorem field?_eq_some_iff {a : α} :
    w.field? key read = .ok (some a) ↔ ∃ v, w.get? key = some v ∧ v ≠ .null ∧ read v = .ok a := by
  cases hv : w.get? key with
  | none => simp [field?, hv]
  | some v =>
    cases v with
    | null => simp [field?, hv]
    | _ => simp [field?, hv, within_eq_ok_iff, map_eq_ok_iff]

theorem field?_of_get?_none (h : w.get? key = none) : w.field? key read = .ok none :=
  field?_eq_none_iff.2 (.inl h)

theorem field?_map {β : Type} (f : α → β) :
    w.field? key (fun v ↦ (read v).map f) = (w.field? key read).map (Option.map f) := by
  have hwithin (x : Except WireError α) :
      WireError.within key ((x.map f).map some) =
        (WireError.within key (x.map some)).map (Option.map f) := by
    cases x <;> rfl
  unfold field?
  split <;> first | rfl | exact hwithin _

theorem decoded?_eq_some_iff {decode : String → Except WireError α} {a : α} :
    w.decoded? key decode = .ok (some a) ↔
      ∃ v s, w.get? key = some v ∧ v ≠ .null ∧ readText v = .ok s ∧ decode s = .ok a := by
  rw [decoded?, field?_eq_some_iff]
  simp only [bind_eq_ok_iff]
  constructor
  · rintro ⟨v, hv, hnull, s, hs, ha⟩
    exact ⟨v, s, hv, hnull, hs, ha⟩
  · rintro ⟨v, s, hv, hnull, hs, ha⟩
    exact ⟨v, hv, hnull, s, hs, ha⟩

/-- What a key decodes to is what its text decodes to, with the key around a cause. -/
theorem decoded?_eq_of_text? {decode : String → Except WireError α} {s : String}
    (h : w.text? key = .ok (some s)) :
    w.decoded? key decode = WireError.within key ((decode s).map some) := by
  obtain ⟨v, hv, hnull, hs⟩ := field?_eq_some_iff.1 h
  rw [decoded?, field?, hv]
  cases v with
  | null => exact absurd rfl hnull
  | _ =>
    dsimp only
    rw [hs]
    rfl

theorem decoded?_of_text? {decode : String → Except WireError α} {s : String} {a : α}
    (h : w.text? key = .ok (some s)) (ha : decode s = .ok a) :
    w.decoded? key decode = .ok (some a) := by
  rw [decoded?_eq_of_text? h, ha]
  rfl

/-! ## Written values -/

theorem decoded?_of_get? {decode : String → Except WireError α} {s : String} {a : α}
    (h : w.get? key = some (.text s)) (ha : decode s = .ok a) :
    w.decoded? key decode = .ok (some a) :=
  decoded?_eq_some_iff.2 ⟨.text s, s, h, nofun, rfl, ha⟩

theorem text?_of_get? {s : String} (h : w.get? key = some (.text s)) : w.text? key = .ok (some s) :=
  field?_eq_some_iff.2 ⟨.text s, h, nofun, rfl⟩

theorem readNat_ofNat {n : Nat} (h : n < 2 ^ 64) : readNat (.ofNat n) = .ok (UInt64.ofNat n) := by
  have hn : ¬(n : Int) < 0 := by omega
  have hword : (Word.ofNat? n : Option UInt64) = some (UInt64.ofNat n) := if_pos h
  simp [readNat, Value.ofNat, hn, hword]

/-- **A written number of fixed width reads back**, provided that it is no wider than 64 bits. -/
theorem readWord_ofWord [Word α] (hlimit : Word.limit α ≤ 2 ^ 64) (key : String) (a : α) :
    readWord key (.ofWord a) = .ok a := by
  have hlt : Word.toNat a < 2 ^ 64 := Nat.lt_of_lt_of_le (Word.toNat_lt a) hlimit
  have htoNat : (UInt64.ofNat (Word.toNat a)).toNat = Word.toNat a := UInt64.toNat_ofNat_of_lt' hlt
  rw [readWord, Value.ofWord, readNat_ofNat hlt]
  simp [bind, Except.bind, htoNat]

theorem readFlag_ofFlag (key : String) (b : Bool) : readFlag key (.ofFlag b) = .ok b := by
  cases b <;> rfl

end Wire

/-! ## Settings that are compared by their value -/

namespace Draft

section settled

variable {α : Type} [DecidableEq α]

/-- The value of a setting after it was planned. -/
def settled (render : α → Option Value) (current desired : Option α) : Option α :=
  match desired with
  | none => current
  | some a => if current = some a then some a else (render a).map fun _ ↦ a

@[simp] theorem settled_none (render : α → Option Value) (current : Option α) :
    settled render current none = current := rfl

/-- A setting that is always written has its desired value afterwards. -/
theorem settled_eq_or {render : α → Option Value} (h : ∀ a, (render a).isSome)
    (current desired : Option α) : settled render current desired = desired.or current := by
  cases desired with
  | none => rfl
  | some a =>
    obtain ⟨v, hv⟩ := Option.isSome_iff_exists.1 (h a)
    by_cases hc : current = some a <;> simp [settled, hc, hv]

/-- **A setting that was planned is not planned again.** -/
theorem setting_settled (key : String) (render : α → Option Value) (reboot : Bool)
    (current desired : Option α) :
    setting key render reboot (settled render current desired) desired = [] := by
  cases desired with
  | none => rfl
  | some a =>
    by_cases hc : current = some a
    · simp [settled, setting, hc]
    · cases hr : render a <;> simp [settled, setting, hc, hr]

theorem setting_or (key : String) (render : α → Option Value) (reboot : Bool)
    (current desired : Option α) :
    setting key render reboot (desired.or current) desired = [] := by
  cases desired <;> simp [setting]

end settled

end Draft

namespace Wire

variable {α : Type} [DecidableEq α] {w w' : Wire} {key : String}
  {read : Value → Except WireError α} {render : α → Option Value} {current desired : Option α}

/-- **A setting reads as the plan was after**, if the reader takes what is written. -/
theorem field?_settled
    (hread : ∀ a v, desired = some a → render a = some v → v ≠ .null ∧ read v = .ok a)
    {reboot : Bool} (hcurrent : w.field? key read = .ok current)
    (hafter : w'.get? key =
      (Draft.effect key (.setting key render reboot current desired)).applyTo (w.get? key)) :
    w'.field? key read = .ok (Draft.settled render current desired) := by
  rw [Draft.effect_setting] at hafter
  cases desired with
  | none => rw [field?_congr hafter, hcurrent, Draft.settled_none]
  | some a =>
    dsimp only at hafter
    by_cases hc : current = some a
    · rw [if_pos hc] at hafter
      rw [field?_congr hafter, hcurrent, Draft.settled, if_pos hc, hc]
    · rw [if_neg hc] at hafter
      rw [Draft.settled, if_neg hc]
      cases hr : render a with
      | some v =>
        rw [hr] at hafter
        obtain ⟨hnull, ha⟩ := hread a v rfl hr
        exact field?_eq_some_iff.2 ⟨v, hafter, hnull, ha⟩
      | none =>
        rw [hr] at hafter
        cases current with
        | none => rw [field?_congr hafter, hcurrent, Option.map_none]
        | some b => exact field?_of_get?_none hafter

/-! ### Settings of each kind -/

section kinds

variable {w w' : Wire} {key : String} {reboot : Bool}

theorem word?_settled {α : Type} [Word α] [DecidableEq α] (hlimit : Word.limit α ≤ 2 ^ 64)
    {current desired : Option α} (hcurrent : w.word? key = .ok current)
    (hafter : w'.get? key = (Draft.effect key
      (.setting key (fun n ↦ some (.ofWord n)) reboot current desired)).applyTo (w.get? key)) :
    w'.word? key = .ok (Draft.settled (fun n ↦ some (.ofWord n)) current desired) :=
  field?_settled (fun a v _ h ↦ by
    obtain rfl := Option.some.inj h
    exact ⟨nofun, readWord_ofWord hlimit key a⟩) hcurrent hafter

theorem nonzero?_settled {α : Type} [Word α] [DecidableEq α] (hlimit : Word.limit α ≤ 2 ^ 64)
    {current desired : Option α} (hcurrent : w.word? key = .ok current)
    (hafter : w'.get? key = (Draft.effect key
      (.setting key Value.ofNonzero reboot current desired)).applyTo (w.get? key)) :
    w'.word? key = .ok (Draft.settled Value.ofNonzero current desired) :=
  field?_settled (fun a v _ h ↦ by
    unfold Value.ofNonzero at h
    split at h
    · cases h
    · obtain rfl := Option.some.inj h
      exact ⟨nofun, readWord_ofWord hlimit key a⟩) hcurrent hafter

theorem flag?_settled {current desired : Option Bool} (hcurrent : w.flag? key = .ok current)
    (hafter : w'.get? key = (Draft.effect key
      (.setting key (fun b ↦ some (.ofFlag b)) reboot current desired)).applyTo (w.get? key)) :
    w'.flag? key = .ok (Draft.settled (fun b ↦ some (.ofFlag b)) current desired) :=
  field?_settled (fun b v _ h ↦ by
    obtain rfl := Option.some.inj h
    exact ⟨nofun, readFlag_ofFlag key b⟩) hcurrent hafter

theorem text?_settled {current desired : Option String} (hcurrent : w.text? key = .ok current)
    (hafter : w'.get? key = (Draft.effect key
      (.setting key Value.ofNonempty reboot current desired)).applyTo (w.get? key)) :
    w'.text? key = .ok (Draft.settled Value.ofNonempty current desired) :=
  field?_settled (fun s v _ h ↦ by
    unfold Value.ofNonempty at h
    split at h
    · cases h
    · obtain rfl := Option.some.inj h
      exact ⟨nofun, rfl⟩) hcurrent hafter

theorem checked?_settled {g : Grammar} {current desired : Option (Checked g)}
    (hcurrent : w.decoded? key Checked.decode = .ok current)
    (hafter : w'.get? key = (Draft.effect key
      (.setting key (fun a ↦ some (.ofChecked a)) reboot current desired)).applyTo (w.get? key)) :
    w'.decoded? key Checked.decode =
      .ok (Draft.settled (fun a ↦ some (.ofChecked a)) current desired) :=
  field?_settled (fun a v _ h ↦ by
    obtain rfl := Option.some.inj h
    exact ⟨nofun, Checked.decode_text a⟩) hcurrent hafter

end kinds

end Wire

end GuestConfig
