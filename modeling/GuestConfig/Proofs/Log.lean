import GuestConfig.Proofs.Refusal

/-!
# The log tells what is planned

An operator who audits a change reads its log.  The log is written step by step while a plan is
made, whereas the change is what is left when all steps are put together: a key that is set twice
would be in the log twice and in the change once.  No two steps are about the same key, so the two
say the same, and a reader of the log can rely on it.

A plan that comes to nothing leaves less: no record at all if a rule is broken, and no record about
an outcome if a step is refused.

## What is here

* `Step.setKey?`, `Step.deletedKey?`, `Step.ignoredPool?` — what a step leaves in a log, by its
  kind.
* `Draft.perm_keys_change`, `Draft.deleted_change_eq` — **a change lists the keys of its steps**,
  each once.
* `Configuration.filterMap_ignoredPool?_plan` — the pool of an existing guest is passed over once,
  and nothing else is.
* `Change.IsToldBy` — what the records of the steps say about a change.
* `Plan.IsFaithful` and `Configuration.plans_areFaithful` — **the log of a plan says what is
  planned.**
-/

set_option autoImplicit false

namespace GuestConfig

/-! ## Steps by their kind -/

namespace Step

/-- The key that a step sets. -/
def setKey? : Step → Option String
  | set key _ _ => some key
  | _ => none

/-- The key that a step deletes. -/
def deletedKey? : Step → Option String
  | delete key _ => some key
  | _ => none

/-- The pool that a step passes over. -/
def ignoredPool? : Step → Option PoolName
  | ignorePool pool => some pool
  | _ => none

theorem ignoredPool?_eq_none {step : Step} (h : step.key?.isSome) : step.ignoredPool? = none := by
  cases step with
  | ignorePool pool => cases h
  | _ => rfl

end Step

namespace Draft

variable {draft : Draft}

theorem filterMap_setKey?_sublist (draft : Draft) :
    (draft.filterMap Step.setKey?).Sublist draft.keys := by
  induction draft with
  | nil => exact List.Sublist.slnil
  | cons step rest ih =>
    cases step with
    | set key value reboot => exact ih.cons_cons key
    | delete key reboot => exact ih.cons key
    | ignorePool pool => exact ih
    | refuse cause => exact ih

/-- **The keys of a change are those that its steps set**, if no two steps are about the same
key. -/
theorem perm_keys_change (h : draft.keys.Nodup) :
    (draft.filterMap Step.setKey?).Perm draft.change.params.keys := by
  have hkeys : draft.change.params.keys.Nodup :=
    List.pairwise_map.2 (draft.change.params.sorted.imp fun {a _} hlt (heq : a.1 = _) ↦
      StrictOrder.irrefl a.1 (heq ▸ hlt))
  refine (List.perm_ext_iff_of_nodup (h.sublist draft.filterMap_setKey?_sublist) hkeys).2
    fun key ↦ ?_
  rw [List.mem_filterMap, SortedMap.keys, List.mem_map]
  constructor
  · rintro ⟨step, hstep, hkey⟩
    cases step with
    | set key' value reboot =>
      obtain rfl := Option.some.inj hkey
      obtain ⟨v, hv⟩ := Option.isSome_iff_exists.1 (isSome_get?_change hstep)
      exact ⟨_, (SortedMap.mem_toList_iff _).2 hv, rfl⟩
    | _ => cases hkey
  · rintro ⟨⟨key, v⟩, hentry, rfl⟩
    obtain ⟨reboot, hset⟩ := exists_set_of_get?_change ((SortedMap.mem_toList_iff _).1 hentry)
    exact ⟨_, hset, rfl⟩

/-- **A change deletes what its steps delete, in their order**, if no two steps are about the same
key. -/
theorem deleted_change_eq (h : draft.keys.Nodup) :
    draft.change.deleted = draft.filterMap Step.deletedKey? := by
  induction draft using List.reverseRecOn with
  | nil => rfl
  | append_singleton draft step ih =>
    rw [keys_append, List.nodup_append] at h
    rw [change_concat, List.filterMap_append, ← ih h.1]
    cases step with
    | set key value reboot => exact (List.append_nil _).symm
    | delete key reboot =>
      -- a key that is listed for deletion already would be one of the keys before
      have hnew : key ∉ (change draft).deleted := fun hmem ↦ by
        obtain ⟨reboot', hdelete⟩ := mem_deleted_change_iff.1 hmem
        exact h.2.2 key (mem_keys_iff.2 ⟨_, hdelete, rfl⟩) key List.mem_cons_self rfl
      rw [Change.record, if_neg hnew]
      rfl
    | ignorePool pool => exact (List.append_nil _).symm
    | refuse cause => exact (List.append_nil _).symm

theorem filter_records {α : Type} (kind : Step → Option α) {shared : List (String × String)}
    {p : LogRecord → Bool} {record : α → LogRecord} (hdraft : draft.refusal? = none)
    (h : ∀ step : Step, (step.record? shared).filter p = (kind step).map record) :
    (draft.records shared).filter p = (draft.filterMap kind).map record := by
  rw [records, taken_eq_self hdraft, List.filter_filterMap, List.map_filterMap]
  exact congrArg (draft.filterMap ·) (funext h)

end Draft

/-! ## The pool -/

theorem Drive.ignoredPool?_of_mem_place {bus : Bus} {guest : Option GuestId} {key : String}
    {existing : Option Drive} {drive : Drive} {step : Step}
    (h : step ∈ (placement bus guest).place key existing drive) : step.ignoredPool? = none := by
  rcases place_cases bus guest key existing drive with hplace | ⟨text, reboot, hplace⟩ | hplace <;>
    rw [hplace] at h
  · cases h
  · exact List.mem_singleton.1 h ▸ rfl
  · exact List.mem_singleton.1 h ▸ rfl

theorem Cpu.PlanStep.ignoredPool?_eq {base desired : Cpu} {step : Step}
    (h : PlanStep base desired step) : step.ignoredPool? = none := by
  cases h with
  | refuse cause => rfl
  | _ _ hstep => exact Step.ignoredPool?_eq_none hstep.isSome_key?

namespace Configuration

variable {version : Version} {guest : Option GuestId} {base desired : Configuration}

/-- Pools are passed over where pools are planned. -/
theorem ignoredPool?_of_mem_planOnly {s : Setting} (hpool : s ≠ .pool) {step : Step}
    (h : step ∈ planOnly version guest base desired s) : step.ignoredPool? = none := by
  by_cases hcpu : s = .cpu
  · subst hcpu
    cases planStep_of_mem_planOnly h with
    | cpu _ hstep => exact hstep.ignoredPool?_eq
  by_cases hdisks : s = .disks
  · subst hdisks
    cases planStep_of_mem_planOnly h with
    | drive bus hstep =>
      cases hstep with
      | place _ hplace => exact Drive.ignoredPool?_of_mem_place hplace
      | remove => rfl
  exact Step.ignoredPool?_eq_none (isSome_key?_of_mem_planOnly hcpu hdisks hpool h)

/-- **The pool of an existing guest is passed over once**, and nothing else is. -/
theorem filterMap_ignoredPool?_plan (version : Version) (guest : Option GuestId)
    (base desired : Configuration) :
    (desired.plan version guest (some base)).filterMap Step.ignoredPool? =
      (planPool guest desired.pool).filterMap Step.ignoredPool? := by
  have hsetting (s : Setting) : (planOnly version guest base desired s).filterMap
      Step.ignoredPool? =
        if s = .pool then (planPool guest desired.pool).filterMap Step.ignoredPool? else [] := by
    split
    · next hs =>
      rw [hs, planOnly_eq]
    · next hs =>
      exact List.filterMap_eq_nil_iff.2 fun step hstep ↦ ignoredPool?_of_mem_planOnly hs hstep
  rw [plan_eq_flatMap, List.filterMap_flatMap, funext hsetting]
  simp [Setting.all]

end Configuration

/-! ## What a log says -/

/-- What the records of its steps say about a change: every key that is set has a record, every key
that is deleted has one, in their order, and besides there is at most one, for a pool.  All of them
have the fields that the steps of a plan share. -/
structure Change.IsToldBy (change : Change) (shared : List (String × String))
    (ignored : Option PoolName) (records : List LogRecord) : Prop where
  /-- All of them follow a step. -/
  level : ∀ record ∈ records, record.level = .trace
  /-- The keys that are set. -/
  set : (records.filter (·.message = "setting wire field")).Perm
    (change.params.keys.map fun key ↦ ⟨.trace, "setting wire field", shared ++ [("key", key)]⟩)
  /-- The keys that are deleted. -/
  deleted : records.filter (·.message = "deleting wire field") =
    change.deleted.map fun key ↦ ⟨.trace, "deleting wire field", shared ++ [("key", key)]⟩
  /-- The pool that is passed over. -/
  others : records.filter (fun record ↦ record.message ≠ "setting wire field" ∧
      record.message ≠ "deleting wire field") =
    ignored.toList.map fun pool ↦
      ⟨.trace, "ignoring pool of existing guest", shared ++ [("pool", pool.text)]⟩

namespace Draft

variable {draft : Draft} {shared : List (String × String)}

theorem level_of_mem_records {record : LogRecord} (h : record ∈ draft.records shared) :
    record.level = .trace := by
  obtain ⟨step, -, hrecord⟩ := List.mem_filterMap.1 h
  cases step with
  | refuse cause => cases hrecord
  | _ => exact Option.some.inj hrecord ▸ rfl

/-- The records of a draft tell the change that it amounts to, if no two of its steps are about
the same key. -/
theorem isToldBy_records {ignored : Option PoolName} (hrefusal : draft.refusal? = none)
    (hnodup : draft.keys.Nodup) (hignored : draft.filterMap Step.ignoredPool? = ignored.toList) :
    draft.change.IsToldBy shared ignored (draft.records shared) where
  level _ := level_of_mem_records
  set := by
    rw [filter_records Step.setKey? hrefusal fun step ↦ by cases step <;> rfl]
    exact (perm_keys_change hnodup).map _
  deleted := by
    rw [deleted_change_eq hnodup]
    exact filter_records Step.deletedKey? hrefusal fun step ↦ by cases step <;> rfl
  others := by
    rw [← hignored]
    exact filter_records Step.ignoredPool? hrefusal fun step ↦ by cases step <;> rfl

end Draft

/-! ## Plans -/

namespace Plan

/-- The log of a plan says what is planned.  `rules` is what the rules say, `ignored` the pool that
is passed over, and `outcome` the record that is due for a change. -/
structure IsFaithful (plan : Plan) (rules : Except RuleError Unit)
    (shared : List (String × String)) (ignored : Option PoolName)
    (outcome : Change → LogRecord) : Prop where
  /-- If a rule is broken, nothing is logged. -/
  broken : ∀ cause, rules = .error cause → plan.result = .error cause ∧ plan.log = []
  /-- If there is no plan, no record is about an outcome. -/
  refused : ∀ cause, plan.result = .error cause → ∀ record ∈ plan.log, record.level ≠ .debug
  /-- If there is a plan, its change is told step by step, and then as a whole. -/
  planned : ∀ change, plan.result = .ok change →
    ∃ records, plan.log = records ++ [outcome change] ∧ change.IsToldBy shared ignored records

variable {rules : Except RuleError Unit} {shared : List (String × String)}
  {ignored : Option PoolName} {outcome : Change → LogRecord}

theorem isFaithful_broken (cause : RuleError) :
    IsFaithful ⟨.error cause, []⟩ (.error cause) shared ignored outcome where
  broken _ h := ⟨Except.error.inj h ▸ rfl, rfl⟩
  refused _ _ _ h := by cases h
  planned _ h := by cases h

/-- The plan that a draft amounts to is faithful, if no two steps are about the same key. -/
theorem isFaithful_ofDraft {draft : Draft} (hnodup : draft.keys.Nodup)
    (hignored : draft.filterMap Step.ignoredPool? = ignored.toList) :
    (ofDraft shared outcome draft).IsFaithful (.ok ()) shared ignored outcome where
  broken _ h := by cases h
  refused cause hcause record hrecord := by
    rw [result_ofDraft] at hcause
    simp only [ofDraft, hcause] at hrecord
    rw [Draft.level_of_mem_records hrecord]
    nofun
  planned change hchange := by
    rw [result_ofDraft] at hchange
    obtain ⟨hrefusal, rfl⟩ := Draft.result_eq_ok_iff.1 hchange
    refine ⟨draft.records shared, ?_, Draft.isToldBy_records hrefusal hnodup hignored⟩
    simp only [ofDraft, hchange]

/-- What is made of a change afterwards does not matter as long as the log does not tell it. -/
theorem IsFaithful.map {plan : Plan} {f : Change → Change}
    (h : plan.IsFaithful rules shared ignored outcome) (houtcome : ∀ c, outcome (f c) = outcome c)
    (hparams : ∀ c, (f c).params = c.params) (hdeleted : ∀ c, (f c).deleted = c.deleted) :
    IsFaithful { plan with result := plan.result.map f } rules shared ignored outcome where
  broken cause hcause := by
    obtain ⟨hresult, hlog⟩ := h.broken cause hcause
    exact ⟨map_eq_error_iff.2 hresult, hlog⟩
  refused cause hcause := h.refused cause (map_eq_error_iff.1 hcause)
  planned change hchange := by
    obtain ⟨change, hresult, rfl⟩ := map_eq_ok_iff.1 hchange
    obtain ⟨records, hlog, htold⟩ := h.planned change hresult
    exact ⟨records, by rw [houtcome, ← hlog], htold.level, by rw [hparams]; exact htold.set,
      by rw [hdeleted]; exact htold.deleted, htold.others⟩

end Plan

/-- **The log of every plan says what is planned**: the plan of a new guest, and that of an existing
one. -/
theorem Configuration.plans_areFaithful (version : Version) (guest : GuestId)
    (current desired : Configuration) :
    (planCreation version desired).IsFaithful (desired.validate version none)
        [("component", "change-planner"), ("operation", "create")] none
        (fun change ↦ ⟨.debug, "planned guest creation",
          [("component", "change-planner"), ("params", Text.natural change.params.size)]⟩) ∧
      (planUpdate version guest current desired).IsFaithful
        (desired.validate version (some current))
        [("component", "change-planner"), ("operation", "update"), ("guest", guest.text)]
        desired.pool
        (fun change ↦ ⟨.debug, "planned guest update",
          [("component", "change-planner"), ("guest", guest.text),
            ("params", Text.natural change.params.size),
            ("deleted", Text.natural change.deleted.length),
            ("reboot_required", if change.reboot then "true" else "false")]⟩) := by
  constructor
  · unfold planCreation
    split
    · next cause h =>
      rw [h]
      exact Plan.isFaithful_broken cause
    · next h =>
      rw [h]
      have hignored := filterMap_ignoredPool?_plan version none { } desired
      refine (Plan.isFaithful_ofDraft (nodup_keys_plan version none { } desired) ?_).map
        (fun _ ↦ rfl) (fun _ ↦ rfl) fun _ ↦ rfl
      rw [hignored]
      cases desired.pool <;> rfl
  · unfold planUpdate
    split
    · next cause h =>
      rw [h]
      exact Plan.isFaithful_broken cause
    · next h =>
      rw [h]
      refine Plan.isFaithful_ofDraft (nodup_keys_plan version (some guest) current desired) ?_
      rw [filterMap_ignoredPool?_plan]
      cases desired.pool <;> rfl

/-- A guest with notes. -/
def annotatedGuest : Configuration where
  description := some "old"

/-- What is asked for to take the notes away and to protect the guest, in a pool. -/
def protectedGuest : Configuration where
  description := some ""
  pool := some ⟨"staging", by decide +kernel⟩
  isProtected := some true

/-- One key is set, one is deleted, and the pool is passed over: all of it is told, and then how
much it is. -/
theorem Configuration.plans_areFaithful_of_pooled :
    ∃ (change : Change) (records : List LogRecord),
      (planUpdate ⟨8, 1, 0⟩ ⟨100, by decide, by decide⟩ annotatedGuest protectedGuest).result =
        .ok change ∧
      change.params.keys = ["protection"] ∧ change.deleted = ["description"] ∧
      (planUpdate ⟨8, 1, 0⟩ ⟨100, by decide, by decide⟩ annotatedGuest protectedGuest).log =
        records ++ [⟨.debug, "planned guest update", [("component", "change-planner"),
          ("guest", "100"), ("params", "1"), ("deleted", "1"), ("reboot_required", "false")]⟩] ∧
      change.IsToldBy
        [("component", "change-planner"), ("operation", "update"), ("guest", "100")]
        (some ⟨"staging", by decide +kernel⟩) records ∧
      records.map (fun record ↦ (record.message, record.fields.getLast?)) =
        [("deleting wire field", some ("key", "description")),
          ("ignoring pool of existing guest", some ("pool", "staging")),
          ("setting wire field", some ("key", "protection"))] := by
  have h : (planUpdate ⟨8, 1, 0⟩ ⟨100, by decide, by decide⟩ annotatedGuest
      protectedGuest).result.toOption.map (fun change ↦
        (change.params.keys, change.deleted, change.reboot)) =
      some (["protection"], ["description"], false) := by decide +kernel
  have hlog : (planUpdate ⟨8, 1, 0⟩ ⟨100, by decide, by decide⟩ annotatedGuest
      protectedGuest).log.dropLast.map (fun record ↦ (record.message, record.fields.getLast?)) =
        [("deleting wire field", some ("key", "description")),
          ("ignoring pool of existing guest", some ("pool", "staging")),
          ("setting wire field", some ("key", "protection"))] := by decide +kernel
  obtain ⟨change, hresult, hchange⟩ := Option.map_eq_some_iff.1 h
  have hok := toOption_eq_some_iff.1 hresult
  obtain ⟨hkeys, hrest⟩ := Prod.mk.inj hchange
  obtain ⟨hdeleted, hreboot⟩ := Prod.mk.inj hrest
  obtain ⟨records, hrecords, htold⟩ := (plans_areFaithful ⟨8, 1, 0⟩ ⟨100, by decide, by decide⟩
    annotatedGuest protectedGuest).2.planned change hok
  rw [hrecords, List.dropLast_concat] at hlog
  have hsize : change.params.size = 1 := by
    simpa [SortedMap.size, SortedMap.keys] using congrArg List.length hkeys
  refine ⟨change, records, hok, hkeys, hdeleted, ?_, htold, hlog⟩
  rw [hrecords, hsize, hdeleted, hreboot]
  rfl

end GuestConfig
