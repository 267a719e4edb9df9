import GuestConfig.Slot

/-!
# Orders for keys and members

Everything that this library stores by key or collects without repetition is kept in ascending
order, so that it has one representation only.  The order has to be strict and total; this module
names that requirement and meets it for the types that serve as keys or members.

Texts are compared character by character, which is also the order of their UTF-8 bytes.
-/

set_option autoImplicit false

namespace GuestConfig

/-- A strict total order. -/
class StrictOrder (α : Type) [LT α] : Prop where
  /-- Nothing comes before itself. -/
  irrefl (a : α) : ¬a < a
  /-- The order is transitive. -/
  trans {a b c : α} : a < b → b < c → a < c
  /-- Of two different members one comes first. -/
  connected {a b : α} : ¬a < b → ¬b < a → a = b

namespace StrictOrder

variable {α : Type} [LT α] [StrictOrder α]

theorem ne_of_lt {a b : α} (h : a < b) : a ≠ b := by
  rintro rfl
  exact irrefl a h

theorem asymm {a b : α} (h : a < b) : ¬b < a :=
  fun h' ↦ irrefl a (trans h h')

end StrictOrder

instance : StrictOrder String where
  irrefl := String.lt_irrefl
  trans := String.lt_trans
  connected h₁ h₂ := String.le_antisymm h₂ h₁

instance {kind : SlotKind} : StrictOrder (Slot kind) where
  irrefl a := Nat.lt_irrefl a.index
  trans h₁ h₂ := Nat.lt_trans (Slot.lt_iff.1 h₁) (Slot.lt_iff.1 h₂)
  connected h₁ h₂ := Slot.ext (Nat.le_antisymm (Nat.not_lt.1 h₂) (Nat.not_lt.1 h₁))

instance : StrictOrder UInt16 where
  irrefl a := by simp
  trans h₁ h₂ := by
    rw [UInt16.lt_iff_toNat_lt] at *
    exact Nat.lt_trans h₁ h₂
  connected h₁ h₂ := by
    rw [UInt16.lt_iff_toNat_lt, Nat.not_lt] at *
    exact UInt16.toNat_inj.1 (Nat.le_antisymm h₂ h₁)

end GuestConfig
