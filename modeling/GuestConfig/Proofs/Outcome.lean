import GuestConfig.Error.Rule
import GuestConfig.Error.Wire

/-!
# Results of readers and rules

Readers and rules are chains of steps that may fail, and what is proved about them starts from the
result of the whole chain.  The lemmas here take a chain that succeeded apart into its steps, and
put it together from steps that succeed.

## What is here

* `bind_eq_ok_iff`, `map_eq_ok_iff`, `mapError_eq_ok_iff`, `within_eq_ok_iff` — what it takes for
  one link of a chain to succeed; `bind_eq_error_iff`, `map_eq_error_iff` and
  `mapError_eq_error_iff` say what it takes to fail.
* `mapM_eq_ok_iff`, `mapM_eq_some_iff` — a list is read exactly if every item is;
  `mapM_eq_some_filterMap` says as what.
* `cause?` — the cause of a failure.  `cause?_bind_append` and `cause?_mapM` say that a chain and a
  list fail for the first of their items that does.
* `ite_none_eq_iff` — records that count as none if they hold nothing.
* `requireOf_eq_ok_iff`, `bind_unit_eq_ok_iff` — the same for rules.
-/

set_option autoImplicit false

namespace GuestConfig

variable {ε ε' α β : Type}

/-! ## Links -/

/-- **A chain succeeds exactly if both of its parts do.** -/
theorem bind_eq_ok_iff {x : Except ε α} {f : α → Except ε β} {b : β} :
    x >>= f = .ok b ↔ ∃ a, x = .ok a ∧ f a = .ok b := by
  cases x <;> simp [bind, Except.bind]

theorem bind_eq_error_iff {x : Except ε α} {f : α → Except ε β} {e : ε} :
    x >>= f = .error e ↔ x = .error e ∨ ∃ a, x = .ok a ∧ f a = .error e := by
  cases x <;> simp [bind, Except.bind]

theorem pure_eq_ok_iff {a b : α} : (pure a : Except ε α) = .ok b ↔ a = b := by
  simp [pure, Except.pure]

theorem pure_ne_error {a : α} {e : ε} : (pure a : Except ε α) ≠ .error e := by
  simp [pure, Except.pure]

theorem map_eq_ok_iff {x : Except ε α} {f : α → β} {b : β} :
    x.map f = .ok b ↔ ∃ a, x = .ok a ∧ f a = b := by
  cases x <;> simp [Except.map]

theorem map_eq_error_iff {x : Except ε α} {f : α → β} {e : ε} :
    x.map f = .error e ↔ x = .error e := by
  cases x <;> simp [Except.map]

theorem functorMap_eq_ok_iff {x : Except ε α} {f : α → β} {b : β} :
    f <$> x = .ok b ↔ ∃ a, x = .ok a ∧ f a = b :=
  map_eq_ok_iff

theorem toOption_eq_some_iff {ε α : Type} {x : Except ε α} {a : α} :
    x.toOption = some a ↔ x = .ok a := by
  cases x <;> simp [Except.toOption]

theorem exists_of_toOption_bind {ε α β : Type} {x : Except ε α} {f : α → Option β} {b : β}
    (h : x.toOption.bind f = some b) : ∃ a, x = .ok a ∧ f a = some b := by
  obtain ⟨a, ha, hb⟩ := Option.bind_eq_some_iff.1 h
  exact ⟨a, toOption_eq_some_iff.1 ha, hb⟩

theorem mapError_eq_ok_iff {x : Except ε α} {f : ε → ε'} {a : α} :
    x.mapError f = .ok a ↔ x = .ok a := by
  cases x with
  | error e =>
    change (Except.error (f e) : Except ε' α) = .ok a ↔ _
    simp
  | ok b =>
    change (Except.ok b : Except ε' α) = .ok a ↔ _
    simp

theorem mapError_eq_error_iff {x : Except ε α} {f : ε → ε'} {e : ε'} :
    x.mapError f = .error e ↔ ∃ cause, x = .error cause ∧ f cause = e := by
  cases x with
  | error cause =>
    change (Except.error (f cause) : Except ε' α) = .error e ↔ _
    simp
  | ok b =>
    change (Except.ok b : Except ε' α) = .error e ↔ _
    simp

theorem within_eq_ok_iff {key : String} {x : Except WireError α} {a : α} :
    WireError.within key x = .ok a ↔ x = .ok a :=
  mapError_eq_ok_iff

/-! ## Lists -/

/-- **A list is read exactly if every item is.** -/
theorem mapM_eq_ok_iff {f : α → Except ε β} {as : List α} {bs : List β} :
    as.mapM f = .ok bs ↔ as.map f = bs.map .ok := by
  induction as generalizing bs with
  | nil => cases bs <;> simp [pure, Except.pure]
  | cons a as ih =>
    rw [List.mapM_cons, bind_eq_ok_iff, List.map_cons]
    constructor
    · rintro ⟨b, hb, h⟩
      obtain ⟨rest, hrest, hbs⟩ := bind_eq_ok_iff.1 h
      obtain rfl := pure_eq_ok_iff.1 hbs
      rw [hb, ih.1 hrest, List.map_cons]
    · intro h
      cases bs with
      | nil => cases h
      | cons b rest =>
        obtain ⟨hb, hrest⟩ := List.cons.inj h
        exact ⟨b, hb, bind_eq_ok_iff.2 ⟨rest, ih.2 hrest, rfl⟩⟩

theorem mapM_eq_some_iff {f : α → Option β} {as : List α} {bs : List β} :
    as.mapM f = some bs ↔ as.map f = bs.map some := by
  induction as generalizing bs with
  | nil => cases bs <;> simp
  | cons a as ih =>
    simp only [List.mapM_cons, List.map_cons, Option.bind_eq_bind, Option.bind_eq_some_iff,
      Option.pure_def, Option.some.injEq]
    constructor
    · rintro ⟨b, hb, rest, hrest, rfl⟩
      rw [hb, ih.1 hrest, List.map_cons]
    · intro h
      cases bs with
      | nil => cases h
      | cons b rest =>
        obtain ⟨hb, hrest⟩ := List.cons.inj h
        exact ⟨b, hb, rest, ih.2 hrest, rfl⟩

theorem mapM_eq_some_filterMap {f : α → Option β} {as : List α} (h : ∀ a ∈ as, (f a).isSome) :
    as.mapM f = some (as.filterMap f) := by
  induction as with
  | nil => rfl
  | cons a as ih =>
    obtain ⟨b, hb⟩ := Option.isSome_iff_exists.1 (h a List.mem_cons_self)
    rw [List.mapM_cons, List.filterMap_cons_some hb, hb,
      ih fun a' ha' ↦ h a' (List.mem_cons_of_mem _ ha')]
    rfl

/-- What is found among the results of a list is found on the way through the list. -/
theorem find?_eq_findSome?_toOption {f : α → Except ε β} {as : List α} {bs : List β}
    (h : as.map f = bs.map .ok) (p : β → Bool) :
    bs.find? p = as.findSome? fun a ↦ (f a).toOption.filter p := by
  induction as generalizing bs with
  | nil =>
    obtain rfl := List.map_eq_nil_iff.1 h.symm
    rfl
  | cons a as ih =>
    cases bs with
    | nil => cases h
    | cons b bs =>
      obtain ⟨ha, has⟩ := List.cons.inj h
      rw [List.find?_cons, List.findSome?_cons, ha, Except.toOption, Option.filter_some, ih has]
      cases p b <;> rfl

/-! ## Causes -/

/-- The cause of a failure. -/
def cause? : Except ε α → Option ε
  | .ok _ => none
  | .error e => some e

theorem cause?_eq_some_iff {x : Except ε α} {e : ε} : cause? x = some e ↔ x = .error e := by
  cases x <;> simp [cause?]

theorem cause?_eq_none_iff {x : Except ε α} : cause? x = none ↔ ∃ a, x = .ok a := by
  cases x <;> simp [cause?]

theorem cause?_map (x : Except ε α) (f : α → β) : cause? (x.map f) = cause? x := by
  cases x <;> rfl

/-- A chain whose second part fails in the same way whatever the first one comes out as. -/
theorem cause?_bind {x : Except ε α} {f : α → Except ε β} {c : Option ε}
    (h : ∀ a, cause? (f a) = c) : cause? (x >>= f) = (cause? x).or c := by
  cases x with
  | ok a => exact h a
  | error e => rfl

theorem cause?_bind_pure {x : Except ε α} {f : α → β} :
    cause? (x >>= fun a ↦ pure (f a)) = cause? x := by
  cases x <;> rfl

/-- **A chain whose parts fail for the first of their items that does** fails for the first of all
items that does. -/
theorem cause?_bind_append {γ : Type} {x : Except ε α} {f : α → Except ε β} {g : γ → Option ε}
    {items items' : List γ} (hx : cause? x = items.findSome? g)
    (hf : ∀ a, cause? (f a) = items'.findSome? g) :
    cause? (x >>= f) = (items ++ items').findSome? g := by
  rw [cause?_bind hf, hx, List.findSome?_append]

/-- **A list fails for the first of its items that does.** -/
theorem cause?_mapM (f : α → Except ε β) (as : List α) :
    cause? (as.mapM f) = as.findSome? fun a ↦ cause? (f a) := by
  induction as with
  | nil => rfl
  | cons a as ih =>
    have hrest (b : β) : cause? (as.mapM f >>= fun bs ↦ pure (b :: bs)) =
        as.findSome? fun a ↦ cause? (f a) :=
      cause?_bind_pure.trans ih
    rw [List.mapM_cons, cause?_bind hrest, List.findSome?_cons]
    cases cause? (f a) <;> rfl

theorem exists_mapM_eq_ok_iff {f : α → Except ε β} {as : List α} :
    (∃ bs, as.mapM f = .ok bs) ↔ ∀ a ∈ as, ∃ b, f a = .ok b := by
  simp only [← cause?_eq_none_iff, cause?_mapM, List.findSome?_eq_none_iff]

/-! ## Records -/

/-- Where a record without any setting counts as none, it is never kept. -/
theorem ite_none_eq_iff [DecidableEq α] {empty a : α} {r : Option α} :
    (if a = empty then none else some a) = r ↔ a = r.getD empty ∧ r ≠ some empty := by
  by_cases h : a = empty
  · cases r <;> simp [h, eq_comm]
  · cases r with
    | none => simp [h]
    | some b =>
      simp only [h, if_false, Option.some.injEq, Option.getD_some, ne_eq]
      exact ⟨fun e ↦ ⟨e, fun hb ↦ h (e.trans hb)⟩, fun e ↦ e.1⟩

/-! ## Rules -/

theorem bind_unit_eq_ok_iff {x : Except ε Unit} {f : Unit → Except ε Unit} :
    x >>= f = .ok () ↔ x = .ok () ∧ f () = .ok () :=
  bind_eq_ok_iff.trans ⟨fun ⟨(), h⟩ ↦ h, fun h ↦ ⟨(), h⟩⟩

theorem requireOf_eq_ok_iff {setting : Option α} {rules : α → Except RuleError Unit} :
    requireOf setting rules = .ok () ↔ ∀ a, setting = some a → rules a = .ok () := by
  cases setting <;> simp

/-- Every value stands for an option that is absent rather than holding the default. -/
theorem exists_getD_eq {α : Type} [DecidableEq α] (default a : α) :
    ∃ r : Option α, r.getD default = a ∧ r ≠ some default := by
  by_cases h : a = default
  · exact ⟨none, h.symm, nofun⟩
  · exact ⟨some a, rfl, fun heq ↦ h (Option.some.inj heq)⟩

end GuestConfig
