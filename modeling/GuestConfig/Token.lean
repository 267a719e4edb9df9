/-!
# Tokens

Many settings are one of a few fixed words: a disk format, a cache mode, a network card model.
A type whose members have such names is a type of tokens.

## What is here

* `Token` — the members and their names.  Every member is listed, and no two share a name.
* `Token.ofName?` — the member with a given name; `Token.ofName?_name` and
  `Token.ofName?_eq_some_iff` say that this is the inverse of the naming.
-/

set_option autoImplicit false

namespace GuestConfig

/-- A type whose members are named by fixed words. -/
class Token (α : Type) where
  /-- The members. -/
  members : List α
  /-- The name of a member. -/
  name : α → String
  /-- Every member is listed. -/
  complete (a : α) : a ∈ members
  /-- No two members share a name. -/
  distinct (a b : α) : name a = name b → a = b

namespace Token

variable {α : Type} [Token α]

/-- The member with a given name, exactly as it is spelled. -/
def ofName? (s : String) : Option α :=
  members.find? fun a ↦ name a = s

/-- **A name belongs to the member that it was taken from.** -/
theorem ofName?_eq_some_iff {s : String} {a : α} : ofName? s = some a ↔ name a = s := by
  constructor
  · intro h
    simpa using List.find?_some h
  · rintro rfl
    cases h : (ofName? (name a) : Option α) with
    | none =>
      have := List.find?_eq_none.1 h a (complete a)
      simp at this
    | some b =>
      have hb : name b = name a := by simpa using List.find?_some h
      rw [distinct b a hb]

@[simp] theorem ofName?_name (a : α) : ofName? (name a) = some a :=
  ofName?_eq_some_iff.2 rfl

end Token

end GuestConfig
