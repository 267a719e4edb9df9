import GuestConfig.Error.Wire
import GuestConfig.Sorted.Order

/-!
# Texts with a grammar

Names, paths and addresses are texts that have to satisfy a grammar.  Such a text is checked once,
when it is taken in, and its type says which grammar it satisfies from then on.

## What is here

* `Grammar` — what is wrong with a text, if anything is.
* `Checked g` — a text with nothing wrong with it under `g`.  `Checked.parse` is the only way to
  one, `Checked.parse_text` says that it takes back every text it gave out.
* Checked texts are ordered as texts.
-/

set_option autoImplicit false

namespace GuestConfig

/-- What a text has to look like. -/
structure Grammar where
  /-- What is wrong with a text. -/
  violation? : String → Option RuleError

/-- The grammar of the texts that pass a test, with the rule that all others break. -/
def Grammar.of (accepts : List Char → Bool) (refusal : String → RuleError) : Grammar :=
  ⟨fun s ↦ if accepts s.toList then none else some (refusal s)⟩

/-- A text that satisfies a grammar. -/
structure Checked (g : Grammar) where
  /-- The text. -/
  text : String
  /-- There is nothing wrong with it. -/
  accepted : g.violation? text = none
  deriving DecidableEq

namespace Checked

variable {g : Grammar}

theorem ext {a b : Checked g} (h : a.text = b.text) : a = b := by
  cases a
  cases b
  simpa using h

/-- Checks a text. -/
def parse (s : String) : Except RuleError (Checked g) :=
  match h : g.violation? s with
  | none => .ok ⟨s, h⟩
  | some e => .error e

/-- **A checked text passes the check again.** -/
@[simp] theorem parse_text (a : Checked g) : parse a.text = .ok a := by
  unfold parse
  split
  · rfl
  · next e h => exact absurd (h.symm.trans a.accepted) (by simp)

theorem text_of_parse {s : String} {a : Checked g} (h : parse s = .ok a) : a.text = s := by
  unfold parse at h
  split at h
  · cases h
    rfl
  · cases h

/-- A text that fails the check breaks the rule that the grammar names. -/
theorem parse_eq_error_iff {s : String} {e : RuleError} :
    (parse s : Except RuleError (Checked g)) = .error e ↔ g.violation? s = some e := by
  unfold parse
  split
  · next h => simp [h]
  · next e' h => simp [h]

theorem passes {accepts : List Char → Bool} {refusal : String → RuleError}
    (a : Checked (.of accepts refusal)) : accepts a.text.toList = true := by
  have h := a.accepted
  simp only [Grammar.of] at h
  split at h
  · assumption
  · cases h

/-- Checks a text that was found in a stored configuration. -/
def decode (s : String) : Except WireError (Checked g) :=
  (parse s).mapError .invalid

@[simp] theorem decode_text (a : Checked g) : decode a.text = .ok a := by
  rw [decode, parse_text]
  rfl

instance : LT (Checked g) := ⟨fun a b ↦ a.text < b.text⟩

instance : DecidableLT (Checked g) := fun a b ↦ String.decidableLT a.text b.text

instance : StrictOrder (Checked g) where
  irrefl a := String.lt_irrefl a.text
  trans h₁ h₂ := String.lt_trans h₁ h₂
  connected h₁ h₂ := ext (String.le_antisymm h₂ h₁)

end Checked

end GuestConfig
