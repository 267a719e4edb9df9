import GuestConfig.Sorted.Order

/-!
# Sorted maps

Devices are kept by slot and settings by key.  Both are finite maps whose entries matter in
ascending order of their keys: that is the order in which they are decoded, validated, planned and
reported.

## What is here

* `SortedMap κ α` — the entries in ascending order, each key once.  The order is a field of the
  type, so a map has one representation only and `SortedMap.ext` proves two maps equal from their
  look-ups alone.
* `get?`, `insert`, `erase`, `ofList` — the operations; the latter three have a law each that says
  what they do to `get?`.
* `mem_toList_iff` — an entry is listed exactly when it is found.
-/

set_option autoImplicit false
set_option linter.unusedSectionVars false

namespace GuestConfig

/-- A finite map, its entries in ascending order of their keys. -/
structure SortedMap (κ α : Type) [LT κ] where
  /-- The entries. -/
  toList : List (κ × α)
  /-- The keys ascend. -/
  sorted : toList.Pairwise fun a b ↦ a.1 < b.1

namespace SortedMap

/-! ## Lists of entries -/

namespace Entries

variable {κ α : Type} [LT κ] [DecidableLT κ] [DecidableEq κ]

/-- The value of a key. -/
def get? (k : κ) : List (κ × α) → Option α
  | [] => none
  | (k', v) :: rest => if k = k' then some v else get? k rest

/-- The entries with the value of one key set. -/
def insert (k : κ) (v : α) : List (κ × α) → List (κ × α)
  | [] => [(k, v)]
  | (k', v') :: rest =>
    if k < k' then (k, v) :: (k', v') :: rest
    else if k = k' then (k, v) :: rest
    else (k', v') :: insert k v rest

/-- The entries without one key. -/
def erase (k : κ) (entries : List (κ × α)) : List (κ × α) :=
  entries.filter fun e ↦ e.1 ≠ k

theorem mem_insert {k : κ} {v : α} {entries : List (κ × α)} {e : κ × α}
    (h : e ∈ insert k v entries) : e = (k, v) ∨ e ∈ entries := by
  induction entries with
  | nil => simpa [insert] using h
  | cons head rest ih =>
    rw [insert] at h
    split at h
    · simpa using h
    · split at h
      · rcases List.mem_cons.1 h with h | h
        · exact .inl h
        · exact .inr (List.mem_cons_of_mem _ h)
      · rcases List.mem_cons.1 h with h | h
        · exact .inr (h ▸ List.mem_cons_self)
        · exact (ih h).imp id (List.mem_cons_of_mem _)

theorem sorted_insert [StrictOrder κ] (k : κ) (v : α) {entries : List (κ × α)}
    (h : entries.Pairwise fun a b ↦ a.1 < b.1) :
    (insert k v entries).Pairwise fun a b ↦ a.1 < b.1 := by
  induction entries with
  | nil => simp [insert]
  | cons head rest ih =>
    obtain ⟨hhead, hrest⟩ := List.pairwise_cons.1 h
    rw [insert]
    split
    · next hlt =>
      refine List.pairwise_cons.2 ⟨fun e he ↦ ?_, h⟩
      rcases List.mem_cons.1 he with rfl | he
      · exact hlt
      · exact StrictOrder.trans hlt (hhead e he)
    · next hnlt =>
      split
      · next heq => exact List.pairwise_cons.2 ⟨fun e he ↦ heq ▸ hhead e he, hrest⟩
      · next hne =>
        refine List.pairwise_cons.2 ⟨fun e he ↦ ?_, ih hrest⟩
        rcases mem_insert he with rfl | he
        · exact Decidable.byContradiction fun h' ↦ hne (StrictOrder.connected hnlt h')
        · exact hhead e he

theorem get?_insert_self (k : κ) (v : α) (entries : List (κ × α)) :
    get? k (insert k v entries) = some v := by
  induction entries with
  | nil => simp [insert, get?]
  | cons head rest ih =>
    rw [insert]
    split
    · simp [get?]
    · split
      · simp [get?]
      · next hne => simp [get?, hne, ih]

theorem get?_insert_of_ne {k k' : κ} (v : α) (entries : List (κ × α)) (h : k' ≠ k) :
    get? k' (insert k v entries) = get? k' entries := by
  induction entries with
  | nil => simp [insert, get?, h]
  | cons head rest ih =>
    rw [insert]
    split
    · rw [get?, if_neg h]
    · split
      · next heq => simp [get?, ← heq, h]
      · rw [get?, get?, ih]

theorem get?_erase_self (k : κ) (entries : List (κ × α)) : get? k (erase k entries) = none := by
  induction entries with
  | nil => rfl
  | cons head rest ih =>
    rw [erase, List.filter_cons]
    split
    · next h =>
      rw [get?, if_neg fun e ↦ by simp [e] at h]
      exact ih
    · exact ih

theorem get?_erase_of_ne {k k' : κ} (entries : List (κ × α)) (h : k' ≠ k) :
    get? k' (erase k entries) = get? k' entries := by
  induction entries with
  | nil => rfl
  | cons head rest ih =>
    rw [erase, List.filter_cons]
    split
    · rw [get?, get?]
      exact congrArg (fun r ↦ if k' = head.1 then some head.2 else r) ih
    · next hk =>
      have hk : head.1 = k := by simpa using hk
      rw [get?, if_neg fun e ↦ h (e.trans hk)]
      exact ih

theorem mem_of_get? {k : κ} {v : α} {entries : List (κ × α)} (h : get? k entries = some v) :
    (k, v) ∈ entries := by
  induction entries with
  | nil => cases h
  | cons head rest ih =>
    rw [get?] at h
    split at h
    · next heq =>
      cases h
      exact heq ▸ List.mem_cons_self
    · exact List.mem_cons_of_mem _ (ih h)

theorem get?_of_mem [StrictOrder κ] {k : κ} {v : α} {entries : List (κ × α)}
    (sorted : entries.Pairwise fun a b ↦ a.1 < b.1) (h : (k, v) ∈ entries) :
    get? k entries = some v := by
  induction entries with
  | nil => cases h
  | cons head rest ih =>
    obtain ⟨hhead, hrest⟩ := List.pairwise_cons.1 sorted
    rw [get?]
    rcases List.mem_cons.1 h with rfl | h
    · simp
    · rw [if_neg fun e ↦ StrictOrder.ne_of_lt (hhead _ h) e.symm, ih hrest h]

theorem eq_of_mem_iff [StrictOrder κ] {l₁ l₂ : List (κ × α)}
    (h₁ : l₁.Pairwise fun a b ↦ a.1 < b.1) (h₂ : l₂.Pairwise fun a b ↦ a.1 < b.1)
    (h : ∀ e, e ∈ l₁ ↔ e ∈ l₂) : l₁ = l₂ := by
  induction l₁ generalizing l₂ with
  | nil =>
    cases l₂ with
    | nil => rfl
    | cons b t => exact absurd ((h b).2 List.mem_cons_self) List.not_mem_nil
  | cons a s ih =>
    cases l₂ with
    | nil => exact absurd ((h a).1 List.mem_cons_self) List.not_mem_nil
    | cons b t =>
      obtain ⟨ha, hs⟩ := List.pairwise_cons.1 h₁
      obtain ⟨hb, ht⟩ := List.pairwise_cons.1 h₂
      have hab : a = b := by
        rcases List.mem_cons.1 ((h a).1 List.mem_cons_self) with e | hat
        · exact e
        · rcases List.mem_cons.1 ((h b).2 List.mem_cons_self) with e | hbs
          · exact e.symm
          · exact absurd (ha b hbs) (StrictOrder.asymm (hb a hat))
      subst hab
      refine congrArg (a :: ·) (ih hs ht fun e ↦ ⟨fun he ↦ ?_, fun he ↦ ?_⟩)
      · rcases List.mem_cons.1 ((h e).1 (List.mem_cons_of_mem _ he)) with rfl | h'
        · exact absurd (ha e he) (StrictOrder.irrefl _)
        · exact h'
      · rcases List.mem_cons.1 ((h e).2 (List.mem_cons_of_mem _ he)) with rfl | h'
        · exact absurd (hb e he) (StrictOrder.irrefl _)
        · exact h'

end Entries

/-! ## Maps -/

variable {κ α : Type} [LT κ] [DecidableLT κ] [DecidableEq κ] [StrictOrder κ]

/-- The map without entries. -/
def empty : SortedMap κ α :=
  ⟨[], .nil⟩

instance : Inhabited (SortedMap κ α) := ⟨empty⟩

/-- Whether a map has no entries. -/
def isEmpty (m : SortedMap κ α) : Bool :=
  m.toList.isEmpty

/-- The value of a key. -/
def get? (m : SortedMap κ α) (k : κ) : Option α :=
  Entries.get? k m.toList

/-- Whether a key has a value. -/
def contains (m : SortedMap κ α) (k : κ) : Bool :=
  (m.get? k).isSome

/-- The map with the value of one key set. -/
def insert (m : SortedMap κ α) (k : κ) (v : α) : SortedMap κ α :=
  ⟨Entries.insert k v m.toList, Entries.sorted_insert k v m.sorted⟩

/-- The map without one key. -/
def erase (m : SortedMap κ α) (k : κ) : SortedMap κ α :=
  ⟨Entries.erase k m.toList, m.sorted.sublist List.filter_sublist⟩

/-- The map of a list of entries; of two entries with one key the later one counts. -/
def ofList (entries : List (κ × α)) : SortedMap κ α :=
  entries.foldl (fun m e ↦ m.insert e.1 e.2) empty

/-- The keys, in ascending order. -/
def keys (m : SortedMap κ α) : List κ :=
  m.toList.map (·.1)

/-- The number of entries. -/
def size (m : SortedMap κ α) : Nat :=
  m.toList.length

/-! ## What the operations do to look-ups -/

@[simp] theorem get?_empty (k : κ) : (empty : SortedMap κ α).get? k = none := rfl

@[simp] theorem get?_insert_self (m : SortedMap κ α) (k : κ) (v : α) :
    (m.insert k v).get? k = some v :=
  Entries.get?_insert_self k v m.toList

theorem get?_insert_of_ne (m : SortedMap κ α) {k k' : κ} (v : α) (h : k' ≠ k) :
    (m.insert k v).get? k' = m.get? k' :=
  Entries.get?_insert_of_ne v m.toList h

theorem get?_insert (m : SortedMap κ α) (k k' : κ) (v : α) :
    (m.insert k v).get? k' = if k' = k then some v else m.get? k' := by
  split
  · next h => rw [h, get?_insert_self]
  · next h => exact get?_insert_of_ne m v h

@[simp] theorem get?_erase_self (m : SortedMap κ α) (k : κ) : (m.erase k).get? k = none :=
  Entries.get?_erase_self k m.toList

theorem get?_erase_of_ne (m : SortedMap κ α) {k k' : κ} (h : k' ≠ k) :
    (m.erase k).get? k' = m.get? k' :=
  Entries.get?_erase_of_ne m.toList h

theorem get?_erase (m : SortedMap κ α) (k k' : κ) :
    (m.erase k).get? k' = if k' = k then none else m.get? k' := by
  split
  · next h => rw [h, get?_erase_self]
  · next h => exact get?_erase_of_ne m h

/-- Of several entries with one key the last one counts. -/
theorem get?_ofList (entries : List (κ × α)) (k : κ) :
    (ofList entries).get? k = (entries.reverse.find? fun e ↦ e.1 = k).map (·.2) := by
  rw [ofList, List.foldl_eq_foldr_reverse]
  induction entries.reverse with
  | nil => rfl
  | cons e rest ih =>
    rw [List.foldr_cons, get?_insert, List.find?_cons]
    by_cases h : e.1 = k
    · simp [h]
    · simp [h, Ne.symm h, ih]

/-- **An entry is listed exactly when it is found.** -/
theorem mem_toList_iff (m : SortedMap κ α) {k : κ} {v : α} :
    (k, v) ∈ m.toList ↔ m.get? k = some v :=
  ⟨Entries.get?_of_mem m.sorted, Entries.mem_of_get?⟩

/-- **Two maps with the same look-ups are equal.** -/
theorem ext {m₁ m₂ : SortedMap κ α} (h : ∀ k, m₁.get? k = m₂.get? k) : m₁ = m₂ := by
  have := Entries.eq_of_mem_iff m₁.sorted m₂.sorted fun e ↦ by
    rw [m₁.mem_toList_iff, m₂.mem_toList_iff, h]
  cases m₁
  cases m₂
  simpa using this

instance [DecidableEq α] : DecidableEq (SortedMap κ α) := fun m₁ m₂ ↦
  decidable_of_iff (m₁.toList = m₂.toList)
    ⟨fun h ↦ by cases m₁; cases m₂; simpa using h, fun h ↦ h ▸ rfl⟩

end SortedMap

/-- A map by slot. -/
abbrev SlotMap (kind : SlotKind) (α : Type) : Type :=
  SortedMap (Slot kind) α

end GuestConfig
