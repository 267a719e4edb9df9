import GuestConfig.Names
import GuestConfig.Wire

/-!
# The steps of a plan

Planning compares a desired configuration with the current one, setting by setting, and every
setting contributes the steps that it needs.  A plan is the list of these steps in a fixed order.
It is data: the change that it amounts to and the log that it leaves are both read off the list.

## What is here

* `Step` — a key is set, a key is deleted, a pool is passed over, or the plan is refused.
* `Draft` — steps in their order.  A refusal ends a draft: `Draft.taken` are the steps before the
  first refusal and `Draft.refusal?` is its cause; `refusal?_append` says what that means for drafts
  that are made of parts.
* `Draft.setting`, `Draft.rendered` — the two ways of comparing a setting: by its value, and by
  the text that the API holds for it.
-/

set_option autoImplicit false

namespace GuestConfig

/-- One step of a plan. -/
inductive Step where
  /-- The key is given a value; `reboot` if a running guest does not see it. -/
  | set (key : String) (value : Value) (reboot : Bool)
  /-- The key is removed; `reboot` if a running guest does not see it. -/
  | delete (key : String) (reboot : Bool)
  /-- The pool of an existing guest is not for its configuration to change. -/
  | ignorePool (pool : PoolName)
  /-- There is no plan. -/
  | refuse (cause : RuleError)

/-- The steps of a plan, up to a refusal if there is one. -/
abbrev Draft : Type :=
  List Step

namespace Draft

/-! ## Refusals -/

/-- Why there is no plan. -/
def refusal? : Draft → Option RuleError
  | [] => none
  | .refuse cause :: _ => some cause
  | _ :: rest => refusal? rest

/-- The steps before the first refusal. -/
def taken : Draft → List Step
  | [] => []
  | .refuse _ :: _ => []
  | step :: rest => step :: taken rest

@[simp] theorem refusal?_nil : refusal? [] = none := rfl

/-- **The first part that is refused decides.** -/
@[simp] theorem refusal?_append (first second : Draft) :
    refusal? (first ++ second) = (refusal? first).or (refusal? second) := by
  induction first with
  | nil => simp
  | cons step rest ih => cases step <;> simp [refusal?, ih]

theorem taken_eq_self {draft : Draft} (h : draft.refusal? = none) : draft.taken = draft := by
  induction draft with
  | nil => rfl
  | cons step rest ih => cases step <;> simp_all [refusal?, taken]

/-! ## Comparing one setting -/

/-- The steps for a setting that is compared by its value.  What is not asked for is left alone,
and so is what is there already; a value that `render` has nothing to write for clears the key. -/
def setting {α : Type} [DecidableEq α] (key : String) (render : α → Option Value) (reboot : Bool)
    (current desired : Option α) : Draft :=
  match desired with
  | none => []
  | some a =>
    if current = some a then []
    else
      match render a with
      | some v => [.set key v reboot]
      | none => if current.isSome then [.delete key reboot] else []

/-- The steps for a setting that is compared by its text.  An empty text is no text. -/
def rendered (key : String) (before : Option String) (after : String) : Draft :=
  let before := before.filter (· ≠ "")
  if before = some after then []
  else if after ≠ "" then [.set key after false]
  else if before.isSome then [.delete key false]
  else []

@[simp] theorem setting_none {α : Type} [DecidableEq α] (key : String) (render : α → Option Value)
    (reboot : Bool) (current : Option α) : setting key render reboot current none = [] := rfl

@[simp] theorem setting_self {α : Type} [DecidableEq α] (key : String) (render : α → Option Value)
    (reboot : Bool) (a : Option α) : setting key render reboot a a = [] := by
  cases a <;> simp [setting]

@[simp] theorem rendered_self (key s : String) : rendered key (some s) s = [] := by
  by_cases h : s = "" <;> simp [rendered, h]

end Draft

end GuestConfig
