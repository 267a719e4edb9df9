import GuestConfig.Configuration
import GuestConfig.Plan.Change

/-!
# Planning a guest

A plan is made for a new guest or for an existing one.  The configuration that is asked for is
checked as a whole first, so that a plan that is made at all is made for a sound configuration.
Every plan leaves a log: a record for every key that is set or deleted, and one for the outcome.

## What is here

* `Plan` — the outcome of planning: a change or the rule that is broken, and the log.
* `planCreation`, `planUpdate` — the two ways to one.  A new guest does not run, so that its
  creation never asks for a reboot.
-/

set_option autoImplicit false

namespace GuestConfig

/-! ## Logs -/

/-- How much a record matters. -/
inductive LogLevel where
  /-- For following every step. -/
  | trace
  /-- For following the outcomes. -/
  | debug
  deriving DecidableEq, Repr

/-- A record of a log. -/
structure LogRecord where
  /-- How much it matters. -/
  level : LogLevel
  /-- What happened. -/
  message : String
  /-- What it happened to. -/
  fields : List (String × String)
  deriving DecidableEq, Repr

/-- The field that says who writes a record. -/
def plannerField : String × String :=
  ("component", "change-planner")

/-- The record that a step leaves, after the fields that all steps of a plan share. -/
def Step.record? (shared : List (String × String)) : Step → Option LogRecord
  | .set key _ _ => some ⟨.trace, "setting wire field", shared ++ [("key", key)]⟩
  | .delete key _ => some ⟨.trace, "deleting wire field", shared ++ [("key", key)]⟩
  | .ignorePool pool =>
    some ⟨.trace, "ignoring pool of existing guest", shared ++ [("pool", pool.text)]⟩
  | .refuse _ => none

/-- The records of the steps that were taken. -/
def Draft.records (shared : List (String × String)) (draft : Draft) : List LogRecord :=
  draft.taken.filterMap (Step.record? shared)

/-! ## Plans -/

/-- The outcome of planning. -/
structure Plan where
  /-- The change, or the rule that is broken. -/
  result : Except RuleError Change
  /-- The log. -/
  log : List LogRecord

namespace Plan

/-- The plan that a draft amounts to, with a last record about its change. -/
def ofDraft (shared : List (String × String)) (outcome : Change → LogRecord) (draft : Draft) :
    Plan :=
  let records := draft.records shared
  match draft.result with
  | .ok change => ⟨.ok change, records ++ [outcome change]⟩
  | .error cause => ⟨.error cause, records⟩

@[simp] theorem result_ofDraft (shared : List (String × String)) (outcome : Change → LogRecord)
    (draft : Draft) : (ofDraft shared outcome draft).result = draft.result := by
  unfold ofDraft
  split <;> simp_all

end Plan

/-- The record about a creation. -/
def creationRecord (change : Change) : LogRecord :=
  ⟨.debug, "planned guest creation",
    [plannerField, ("params", Text.natural change.params.size)]⟩

/-- The record about an update. -/
def updateRecord (guest : GuestId) (change : Change) : LogRecord :=
  ⟨.debug, "planned guest update",
    [plannerField, ("guest", guest.text), ("params", Text.natural change.params.size),
      ("deleted", Text.natural change.deleted.length),
      ("reboot_required", if change.reboot then "true" else "false")]⟩

/-- Plans a new guest. -/
def planCreation (version : Version) (desired : Configuration) : Plan :=
  match desired.validate version none with
  | .error cause => ⟨.error cause, []⟩
  | .ok _ =>
    let shared := [plannerField, ("operation", "create")]
    let plan := Plan.ofDraft shared creationRecord (desired.plan version none none)
    { plan with result := plan.result.map fun change ↦ { change with reboot := false } }

/-- Plans an update of a guest from one configuration to another. -/
def planUpdate (version : Version) (guest : GuestId) (current desired : Configuration) : Plan :=
  match desired.validate version (some current) with
  | .error cause => ⟨.error cause, []⟩
  | .ok _ =>
    let shared := [plannerField, ("operation", "update"), ("guest", guest.text)]
    Plan.ofDraft shared (updateRecord guest) (desired.plan version (some guest) (some current))

end GuestConfig
