import GuestConfig.Plan.Step

/-!
# Changes

What a plan amounts to for the API: keys to set, keys to delete, and whether the guest has to be
rebooted before it sees everything.

## What is here

* `Change` and `Change.record` — a change, and what one more step adds to it.
* `Draft.change`, `Draft.result` — the change that a draft amounts to, or the cause of its refusal.
* `Change.body` — the body of the request; the keys to delete travel in it under a key of their
  own, between commas.
* `Change.applyTo` — the stored configuration after the change.
-/

set_option autoImplicit false

namespace GuestConfig

/-- What a plan amounts to. -/
structure Change where
  /-- The keys to set. -/
  params : Wire
  /-- The keys to delete, in the order in which they were planned. -/
  deleted : List String
  /-- Whether a running guest has to be rebooted. -/
  reboot : Bool

namespace Change

/-- The change that changes nothing. -/
def empty : Change :=
  ⟨.empty, [], false⟩

instance : Inhabited Change := ⟨empty⟩

/-- Whether nothing is set and nothing is deleted. -/
def isEmpty (c : Change) : Bool :=
  c.params.isEmpty && c.deleted.isEmpty

/-- A change with one more step.  A key is listed for deletion once. -/
def record (c : Change) : Step → Change
  | .set key value reboot =>
    { c with params := c.params.insert key value, reboot := c.reboot || reboot }
  | .delete key reboot =>
    { c with
      deleted := if key ∈ c.deleted then c.deleted else c.deleted ++ [key]
      reboot := c.reboot || reboot }
  | .ignorePool _ => c
  | .refuse _ => c

/-- The key under which a request lists the keys to delete. -/
def deleteKey : String :=
  "delete"

/-- The body of the request. -/
def body (c : Change) : Wire :=
  if c.deleted.isEmpty then c.params
  else c.params.insert deleteKey (String.intercalate "," c.deleted)

/-- The stored configuration after a change: everything is set, and then everything is deleted. -/
def applyTo (c : Change) (w : Wire) : Wire :=
  c.deleted.foldl SortedMap.erase (c.params.toList.foldl (fun w e ↦ w.insert e.1 e.2) w)

end Change

namespace Draft

/-- The change that the steps of a draft amount to. -/
def change (draft : Draft) : Change :=
  draft.foldl Change.record .empty

/-- The change that a draft amounts to, unless it is refused. -/
def result (draft : Draft) : Except RuleError Change :=
  match draft.refusal? with
  | some cause => .error cause
  | none => .ok draft.change

theorem result_eq_ok_iff {draft : Draft} {c : Change} :
    draft.result = .ok c ↔ draft.refusal? = none ∧ draft.change = c := by
  unfold result
  split <;> simp_all

theorem result_eq_error_iff {draft : Draft} {cause : RuleError} :
    draft.result = .error cause ↔ draft.refusal? = some cause := by
  unfold result
  split <;> simp_all

end Draft

end GuestConfig
