import GuestConfig.Sorted.Order

/-!
# Sorted sets

Tags, VLANs and host CPUs are collected without repetition and are always reported in ascending
order.

## What is here

* `SortedSet α` — the members in ascending order, each once, with the order as a field.
* `insert`, `union`, `ofList` — the operations, with what each does to membership.
* `SortedSet.range` — all 16-bit numbers between two ends.
-/

set_option autoImplicit false
set_option linter.unusedSectionVars false

namespace GuestConfig

/-- A finite set, its members in ascending order. -/
structure SortedSet (α : Type) [LT α] where
  /-- The members. -/
  toList : List α
  /-- The members ascend. -/
  sorted : toList.Pairwise (· < ·)

namespace SortedSet

variable {α : Type} [LT α] [DecidableLT α] [DecidableEq α] [StrictOrder α]

/-! ## Lists of members -/

/-- The members of two ascending lists, in ascending order. -/
def merge : List α → List α → List α
  | [], bs => bs
  | as, [] => as
  | a :: as, b :: bs =>
    if a < b then a :: merge as (b :: bs)
    else if a = b then a :: merge as bs
    else b :: merge (a :: as) bs
termination_by as bs => as.length + bs.length

theorem mem_merge {as bs : List α} {x : α} : x ∈ merge as bs ↔ x ∈ as ∨ x ∈ bs := by
  fun_induction merge as bs with
  | case1 => simp
  | case2 => simp
  | case3 a as b bs h ih => simp [ih, or_assoc]
  | case4 a as bs h ih => simp only [List.mem_cons, ih]; grind
  | case5 a as b bs h₁ h₂ ih => simp only [List.mem_cons, ih]; grind

theorem sorted_merge {as bs : List α} (ha : as.Pairwise (· < ·)) (hb : bs.Pairwise (· < ·)) :
    (merge as bs).Pairwise (· < ·) := by
  fun_induction merge as bs with
  | case1 => exact hb
  | case2 => exact ha
  | case3 a as b bs h ih =>
    obtain ⟨ha₁, ha₂⟩ := List.pairwise_cons.1 ha
    refine List.pairwise_cons.2 ⟨fun x hx ↦ ?_, ih ha₂ hb⟩
    rcases mem_merge.1 hx with hx | hx
    · exact ha₁ x hx
    · rcases List.mem_cons.1 hx with rfl | hx
      · exact h
      · exact StrictOrder.trans h ((List.pairwise_cons.1 hb).1 x hx)
  | case4 a as bs h ih =>
    obtain ⟨ha₁, ha₂⟩ := List.pairwise_cons.1 ha
    obtain ⟨hb₁, hb₂⟩ := List.pairwise_cons.1 hb
    refine List.pairwise_cons.2 ⟨fun x hx ↦ ?_, ih ha₂ hb₂⟩
    rcases mem_merge.1 hx with hx | hx
    · exact ha₁ x hx
    · exact hb₁ x hx
  | case5 a as b bs h₁ h₂ ih =>
    obtain ⟨hb₁, hb₂⟩ := List.pairwise_cons.1 hb
    have hba : b < a := Decidable.byContradiction fun h ↦ h₂ (StrictOrder.connected h₁ h)
    refine List.pairwise_cons.2 ⟨fun x hx ↦ ?_, ih ha hb₂⟩
    rcases mem_merge.1 hx with hx | hx
    · rcases List.mem_cons.1 hx with rfl | hx
      · exact hba
      · exact StrictOrder.trans hba ((List.pairwise_cons.1 ha).1 x hx)
    · exact hb₁ x hx

/-! ## Sets -/

/-- The set without members. -/
def empty : SortedSet α :=
  ⟨[], .nil⟩

instance : Inhabited (SortedSet α) := ⟨empty⟩

/-- The set of one member. -/
def singleton (a : α) : SortedSet α :=
  ⟨[a], List.pairwise_singleton _ a⟩

/-- Whether a set has no members. -/
def isEmpty (s : SortedSet α) : Bool :=
  s.toList.isEmpty

/-- The number of members. -/
def size (s : SortedSet α) : Nat :=
  s.toList.length

/-- The members of two sets. -/
def union (s t : SortedSet α) : SortedSet α :=
  ⟨merge s.toList t.toList, sorted_merge s.sorted t.sorted⟩

/-- The set with one more member. -/
def insert (s : SortedSet α) (a : α) : SortedSet α :=
  (singleton a).union s

/-- The set of the members of a list. -/
def ofList (members : List α) : SortedSet α :=
  members.foldr (fun a s ↦ s.insert a) empty

instance : Membership α (SortedSet α) := ⟨fun s a ↦ a ∈ s.toList⟩

theorem mem_iff {s : SortedSet α} {a : α} : a ∈ s ↔ a ∈ s.toList := Iff.rfl

@[simp] theorem not_mem_empty (a : α) : ¬a ∈ (empty : SortedSet α) := List.not_mem_nil

@[simp] theorem mem_union {s t : SortedSet α} {a : α} : a ∈ s.union t ↔ a ∈ s ∨ a ∈ t :=
  mem_merge

@[simp] theorem mem_insert {s : SortedSet α} {a b : α} : b ∈ s.insert a ↔ b = a ∨ b ∈ s := by
  rw [insert, mem_union, mem_iff]
  simp [singleton]

@[simp] theorem mem_ofList {members : List α} {a : α} : a ∈ ofList members ↔ a ∈ members := by
  induction members with
  | nil => simp [ofList]
  | cons b rest ih => rw [ofList, List.foldr_cons, mem_insert, List.mem_cons, ← ih, ofList]

theorem eq_of_mem_iff {l₁ l₂ : List α} (h₁ : l₁.Pairwise (· < ·)) (h₂ : l₂.Pairwise (· < ·))
    (h : ∀ a, a ∈ l₁ ↔ a ∈ l₂) : l₁ = l₂ := by
  induction l₁ generalizing l₂ with
  | nil =>
    cases l₂ with
    | nil => rfl
    | cons b t => exact absurd ((h b).2 List.mem_cons_self) List.not_mem_nil
  | cons a s ih =>
    cases l₂ with
    | nil => exact absurd ((h a).1 List.mem_cons_self) List.not_mem_nil
    | cons b t =>
      obtain ⟨ha, hs⟩ := List.pairwise_cons.1 h₁
      obtain ⟨hb, ht⟩ := List.pairwise_cons.1 h₂
      have hab : a = b := by
        rcases List.mem_cons.1 ((h a).1 List.mem_cons_self) with e | hat
        · exact e
        · rcases List.mem_cons.1 ((h b).2 List.mem_cons_self) with e | hbs
          · exact e.symm
          · exact absurd (ha b hbs) (StrictOrder.asymm (hb a hat))
      subst hab
      refine congrArg (a :: ·) (ih hs ht fun e ↦ ⟨fun he ↦ ?_, fun he ↦ ?_⟩)
      · rcases List.mem_cons.1 ((h e).1 (List.mem_cons_of_mem _ he)) with rfl | h'
        · exact absurd (ha e he) (StrictOrder.irrefl _)
        · exact h'
      · rcases List.mem_cons.1 ((h e).2 (List.mem_cons_of_mem _ he)) with rfl | h'
        · exact absurd (hb e he) (StrictOrder.irrefl _)
        · exact h'

/-- Two sets with the same members are equal. -/
theorem ext {s t : SortedSet α} (h : ∀ a, a ∈ s ↔ a ∈ t) : s = t := by
  have := eq_of_mem_iff s.sorted t.sorted h
  cases s
  cases t
  simpa using this

instance : DecidableEq (SortedSet α) := fun s t ↦
  decidable_of_iff (s.toList = t.toList)
    ⟨fun h ↦ by cases s; cases t; simpa using h, fun h ↦ h ▸ rfl⟩

/-! ## Ranges -/

/-- All 16-bit numbers from `first` to `last`. -/
def range (first last : UInt16) : SortedSet UInt16 where
  toList := (List.range' first.toNat (last.toNat + 1 - first.toNat)).map UInt16.ofNat
  sorted := by
    refine List.pairwise_map.2
      (List.Pairwise.imp_of_mem ?_ (List.pairwise_lt_range' (s := first.toNat)))
    intro a b ha hb hab
    have hlast : last.toNat < 2 ^ 16 := last.toNat_lt
    have ha := List.mem_range'_1.1 ha
    have hb := List.mem_range'_1.1 hb
    rw [UInt16.lt_iff_toNat_lt, UInt16.toNat_ofNat_of_lt' (by simp only [UInt16.size]; omega),
      UInt16.toNat_ofNat_of_lt' (by simp only [UInt16.size]; omega)]
    exact hab

/-- A range holds what lies between its ends. -/
@[simp] theorem mem_range {first last n : UInt16} :
    n ∈ range first last ↔ first ≤ n ∧ n ≤ last := by
  have hlast : last.toNat < 2 ^ 16 := last.toNat_lt
  rw [mem_iff, range, List.mem_map, UInt16.le_iff_toNat_le, UInt16.le_iff_toNat_le]
  constructor
  · rintro ⟨k, hk, rfl⟩
    have hk := List.mem_range'_1.1 hk
    rw [UInt16.toNat_ofNat_of_lt' (by simp only [UInt16.size]; omega)]
    omega
  · intro ⟨h₁, h₂⟩
    exact ⟨n.toNat, List.mem_range'_1.2 (by omega), UInt16.ofNat_toNat⟩

end SortedSet

end GuestConfig
