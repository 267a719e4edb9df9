import GuestConfig.Plan.Change
import GuestConfig.Proofs.Sorted

/-!
# What a draft does to one key

The change that a draft amounts to is stored by setting all its keys and then deleting all its
keys.  Seen from a single key this is simple: the key is kept, set or deleted, deleting wins over
setting, and of two values the later one counts.  That view composes over the parts of a draft,
whereas a stored object does not, so everything that is proved about stored changes goes through it.

## What is here

* `Effect` — what happens to a key, and `Effect.andThen`, which puts two effects together.
* `Draft.effect` — the effect of a draft on a key, step by step; `Draft.effect_append` says that
  the parts of a draft can be looked at one by one.
* `Draft.get?_applyTo_change` — the stored object after a change, key by key.
* `Draft.TouchesOnly` — all keys of a draft have a property; no other key is affected.
* `Draft.effect_setting`, `Draft.effect_rendered` — the two ways of comparing a setting.
-/

set_option autoImplicit false

namespace GuestConfig

/-! ## Effects -/

/-- What steps do to one key. -/
inductive Effect where
  /-- The key is left alone. -/
  | keep
  /-- The key has a value afterwards. -/
  | set (value : Value)
  /-- The key is gone afterwards. -/
  | delete

namespace Effect

/-- Two effects on one key together. -/
def andThen : Effect → Effect → Effect
  | delete, _ => delete
  | first, keep => first
  | _, second => second

/-- The value of a key after an effect, given its value before. -/
def applyTo : Effect → Option Value → Option Value
  | keep, before => before
  | set value, _ => some value
  | delete, _ => none

@[simp] theorem keep_andThen (e : Effect) : keep.andThen e = e := by
  cases e <;> rfl

@[simp] theorem andThen_keep (e : Effect) : e.andThen keep = e := by
  cases e <;> rfl

@[simp] theorem delete_andThen (e : Effect) : delete.andThen e = delete := rfl

@[simp] theorem andThen_delete (e : Effect) : e.andThen delete = delete := by
  cases e <;> rfl

@[simp] theorem andThen_set (value value' : Value) :
    (set value).andThen (set value') = set value' := rfl

theorem andThen_assoc (a b c : Effect) : (a.andThen b).andThen c = a.andThen (b.andThen c) := by
  cases a <;> cases b <;> cases c <;> rfl

@[simp] theorem set_applyTo (value : Value) (before : Option Value) :
    (set value).applyTo before = some value := rfl

@[simp] theorem delete_applyTo (before : Option Value) : delete.applyTo before = none := rfl

end Effect

/-! ## Steps, changes and drafts -/

/-- The key that a step is about. -/
def Step.key? : Step → Option String
  | set key _ _ => some key
  | delete key _ => some key
  | ignorePool _ => none
  | refuse _ => none

/-- What a step does to a key. -/
def Step.effect (key : String) : Step → Effect
  | set key' value _ => if key' = key then .set value else .keep
  | delete key' _ => if key' = key then .delete else .keep
  | ignorePool _ => .keep
  | refuse _ => .keep

theorem Step.effect_eq_keep {key : String} {step : Step} (h : step.key? ≠ some key) :
    step.effect key = .keep := by
  cases step <;> simp_all [Step.key?, Step.effect]

namespace Change

/-- What a change does to a key. -/
def effect (c : Change) (key : String) : Effect :=
  if key ∈ c.deleted then .delete
  else
    match c.params.get? key with
    | some value => .set value
    | none => .keep

@[simp] theorem effect_empty (key : String) : empty.effect key = .keep := rfl

theorem effect_eq_keep_iff {c : Change} {key : String} :
    c.effect key = .keep ↔ c.params.get? key = none ∧ key ∉ c.deleted := by
  unfold effect
  split
  · next hmem => simp [hmem]
  · next hmem => cases c.params.get? key <;> simp [hmem]

/-- One more step adds its own effect to that of a change. -/
theorem effect_record (c : Change) (step : Step) (key : String) :
    (c.record step).effect key = (c.effect key).andThen (step.effect key) := by
  cases step with
  | set key' value reboot =>
    by_cases h : key' = key
    · subst h
      by_cases hd : key' ∈ c.deleted
      · simp [effect, record, Step.effect, hd]
      · cases hg : c.params.get? key' <;> simp [effect, record, Step.effect, hd, hg]
    · have hg : (c.params.insert key' value).get? key = c.params.get? key :=
        SortedMap.get?_insert_of_ne _ _ (Ne.symm h)
      simp [effect, record, Step.effect, h, hg]
  | delete key' reboot =>
    have hmem : key ∈ (c.record (.delete key' reboot)).deleted ↔ key = key' ∨ key ∈ c.deleted := by
      by_cases hd : key' ∈ c.deleted
      · simp only [record, if_pos hd]
        exact ⟨.inr, fun h ↦ h.elim (fun e ↦ e ▸ hd) id⟩
      · simp [record, hd, or_comm]
    by_cases h : key' = key
    · subst h
      simp [effect, hmem, Step.effect]
    · have hkeep : (c.record (.delete key' reboot)).effect key = c.effect key :=
        ite_congr (propext (hmem.trans (or_iff_right (Ne.symm h)))) (fun _ ↦ rfl) fun _ ↦ rfl
      rw [hkeep, Step.effect, if_neg h, Effect.andThen_keep]
  | ignorePool pool => exact (Effect.andThen_keep _).symm
  | refuse cause => exact (Effect.andThen_keep _).symm

/-- A change that deletes nothing is known by its effects. -/
theorem eq_of_effect_eq {c c' : Change} (h : ∀ key, c.effect key = c'.effect key)
    (hdeleted : c'.deleted = []) : c.deleted = [] ∧ c.params = c'.params := by
  have hsets (key : String) : c.effect key ≠ .delete := by
    rw [h, effect, hdeleted, if_neg List.not_mem_nil]
    split <;> nofun
  have hnil : c.deleted = [] :=
    List.eq_nil_iff_forall_not_mem.2 fun key hkey ↦ hsets key (if_pos hkey)
  refine ⟨hnil, SortedMap.ext fun key ↦ ?_⟩
  have hkey := h key
  rw [effect, effect, hnil, hdeleted, if_neg List.not_mem_nil, if_neg List.not_mem_nil] at hkey
  cases hc : c.params.get? key <;> cases hc' : c'.params.get? key <;> simp_all

private theorem get?_foldl_erase (deleted : List String) (w : Wire) (key : String) :
    (deleted.foldl SortedMap.erase w).get? key = if key ∈ deleted then none else w.get? key := by
  induction deleted generalizing w with
  | nil => simp
  | cons k rest ih =>
    rw [List.foldl_cons, ih, SortedMap.get?_erase]
    by_cases h : key = k <;> simp [h]

/-- The stored object after a change, key by key. -/
theorem get?_applyTo (c : Change) (w : Wire) (key : String) :
    (c.applyTo w).get? key = (c.effect key).applyTo (w.get? key) := by
  rw [applyTo, get?_foldl_erase, SortedMap.get?_laidOver, effect]
  split
  · rfl
  · cases c.params.get? key <;> rfl

end Change

namespace Draft

/-- What a draft does to a key. -/
def effect (key : String) : Draft → Effect
  | [] => .keep
  | step :: rest => (step.effect key).andThen (effect key rest)

@[simp] theorem effect_nil (key : String) : effect key [] = .keep := rfl

@[simp] theorem effect_cons (key : String) (step : Step) (rest : Draft) :
    effect key (step :: rest) = (step.effect key).andThen (effect key rest) := rfl

/-- **The parts of a draft can be looked at one by one.** -/
@[simp] theorem effect_append (key : String) (first second : Draft) :
    effect key (first ++ second) = (effect key first).andThen (effect key second) := by
  induction first with
  | nil => simp
  | cons step rest ih => rw [List.cons_append, effect_cons, effect_cons, ih, Effect.andThen_assoc]

/-- The change that a draft amounts to has the effect of its steps. -/
theorem effect_change (draft : Draft) (key : String) :
    draft.change.effect key = draft.effect key := by
  have h (c : Change) :
      (draft.foldl Change.record c).effect key = (c.effect key).andThen (draft.effect key) := by
    induction draft generalizing c with
    | nil => simp
    | cons step rest ih =>
      rw [List.foldl_cons, ih, Change.effect_record, effect_cons, Effect.andThen_assoc]
  rw [change, h, Change.effect_empty, Effect.keep_andThen]

/-- **The stored object after the change of a draft, key by key.** -/
theorem get?_applyTo_change (draft : Draft) (w : Wire) (key : String) :
    (draft.change.applyTo w).get? key = (draft.effect key).applyTo (w.get? key) := by
  rw [Change.get?_applyTo, effect_change]

/-! ## The keys of a draft -/

/-- All keys that a draft is about have a property. -/
def TouchesOnly (p : String → Prop) (draft : Draft) : Prop :=
  ∀ step ∈ draft, ∀ key, step.key? = some key → p key

variable {p : String → Prop}

@[simp] theorem touchesOnly_nil : TouchesOnly p [] := by
  simp [TouchesOnly]

@[simp] theorem touchesOnly_append {first second : Draft} :
    TouchesOnly p (first ++ second) ↔ TouchesOnly p first ∧ TouchesOnly p second := by
  simp [TouchesOnly, or_imp, forall_and]

theorem touchesOnly_cons {step : Step} {rest : Draft} :
    TouchesOnly p (step :: rest) ↔ (∀ key, step.key? = some key → p key) ∧ TouchesOnly p rest := by
  simp [TouchesOnly]

theorem touchesOnly_flatMap {α : Type} {items : List α} {f : α → Draft}
    (h : ∀ a ∈ items, TouchesOnly p (f a)) : TouchesOnly p (items.flatMap f) := by
  intro step hstep
  obtain ⟨a, ha, hmem⟩ := List.mem_flatMap.1 hstep
  exact h a ha step hmem

theorem TouchesOnly.mono {q : String → Prop} {draft : Draft} (h : TouchesOnly p draft)
    (himp : ∀ key, p key → q key) : TouchesOnly q draft :=
  fun step hstep key hkey ↦ himp key (h step hstep key hkey)

/-- A key that a draft is not about is left alone. -/
theorem effect_eq_keep {draft : Draft} {key : String} (h : TouchesOnly p draft) (hkey : ¬p key) :
    draft.effect key = .keep := by
  induction draft with
  | nil => rfl
  | cons step rest ih =>
    obtain ⟨hstep, hrest⟩ := touchesOnly_cons.1 h
    have : step.effect key = .keep := Step.effect_eq_keep fun e ↦ hkey (hstep key e)
    rw [effect_cons, this, ih hrest, Effect.keep_andThen]

/-! ## Settings -/

section setting

variable {α : Type} [DecidableEq α] (key : String) (render : α → Option Value) (reboot : Bool)

theorem touchesOnly_setting (current desired : Option α) (h : p key) :
    TouchesOnly p (setting key render reboot current desired) := by
  unfold setting
  repeat' split
  all_goals simp [touchesOnly_cons, Step.key?, h]

@[simp] theorem refusal?_setting (current desired : Option α) :
    refusal? (setting key render reboot current desired) = none := by
  unfold setting
  repeat' split
  all_goals simp [refusal?]

/-- **A setting that is compared by its value.** -/
theorem effect_setting (current desired : Option α) :
    effect key (setting key render reboot current desired) =
      match desired with
      | none => .keep
      | some a =>
        if current = some a then .keep
        else
          match render a with
          | some v => .set v
          | none => if current.isSome then .delete else .keep := by
  unfold setting
  repeat' split
  all_goals simp_all [Step.effect]

theorem effect_setting_of_ne {key' : String} (current desired : Option α) (h : key' ≠ key) :
    effect key' (setting key render reboot current desired) = .keep :=
  effect_eq_keep (p := (· = key)) (touchesOnly_setting _ _ _ _ _ rfl) h

end setting

theorem touchesOnly_rendered (key : String) (before : Option String) (after : String)
    (h : p key) : TouchesOnly p (rendered key before after) := by
  simp only [rendered]
  repeat' split
  all_goals simp [touchesOnly_cons, Step.key?, h]

/-- **A setting that is compared by its text.** -/
theorem effect_rendered (key : String) (before : Option String) (after : String) :
    effect key (rendered key before after) =
      if before.filter (· ≠ "") = some after then .keep
      else if after ≠ "" then .set (.text after)
      else if (before.filter (· ≠ "")).isSome then .delete
      else .keep := by
  simp only [rendered]
  repeat' split
  all_goals simp_all [Step.effect]

/-- What is written when texts are compared is the text that results. -/
theorem eq_of_effect_rendered {key : String} {before : Option String} {after : String} {v : Value}
    (h : effect key (rendered key before after) = .set v) : v = .text after := by
  rw [effect_rendered] at h
  split at h
  · cases h
  · split at h
    · exact (Effect.set.inj h).symm
    · split at h <;> cases h

end Draft

end GuestConfig
