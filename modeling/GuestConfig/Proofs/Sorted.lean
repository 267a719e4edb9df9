import GuestConfig.Sorted.Map
import GuestConfig.Sorted.Set

/-!
# More about sorted maps and sets

Plans lay one map over another by inserting its entries one by one, and readers collect what they
find into maps and sets.  The lemmas here say what comes out of that, look-up by look-up.

## What is here

* `StrictOrder.findSome?_eq_some_iff` — in an ascending list the least member with an answer
  decides, and `StrictOrder.findSome?_reverse_eq_some_iff`: the greatest, if it is read backwards.
* `SortedMap.get?_foldl_insert`, `SortedMap.get?_laidOver` — **a map that is laid over another
  one**.
* `SortedMap.get?_ofList_eq_some_iff`, `SortedMap.get?_ofList_of_nodup`, `SortedMap.ofList_toList`
  — maps made of lists.
* `SortedMap.get?_filterValues`, `SortedMap.get?_mapValues` — a map without some of its entries, and
  with other values; `SortedMap.insert_eq_mapValues` says that another value of a key is a case of
  the latter.
* `SortedMap.mapValues_insert`, `SortedMap.contains_insert_of_get?` — what is not seen of a value
  that is exchanged.
* `SortedSet.mem_foldl_union`, `SortedSet.ofList_toList` — sets made of sets and of lists.
-/

set_option autoImplicit false
set_option linter.unusedSectionVars false

namespace GuestConfig

/-! ## Ascending lists -/

/-- In a list whose members come one after another the first member with an answer is the one that
comes before every other one with an answer. -/
theorem findSome?_eq_some_iff_of_pairwise {α β : Type} {r : α → α → Prop}
    (hasymm : ∀ {a b}, r a b → ¬r b a) {items : List α} (h : items.Pairwise r) {f : α → Option β}
    {b : β} :
    items.findSome? f = some b ↔
      ∃ a ∈ items, f a = some b ∧ ∀ a' ∈ items, r a' a → f a' = none := by
  induction items with
  | nil => simp
  | cons head rest ih =>
    obtain ⟨hhead, hrest⟩ := List.pairwise_cons.1 h
    rw [List.findSome?_cons]
    cases hf : f head with
    | some c =>
      constructor
      · intro hc
        refine ⟨head, List.mem_cons_self, hf.trans hc, fun a ha hlt ↦ ?_⟩
        -- nothing comes before the head
        rcases List.mem_cons.1 ha with rfl | ha
        · exact absurd hlt (hasymm hlt)
        · exact absurd hlt (hasymm (hhead a ha))
      · rintro ⟨a, ha, hfa, hleast⟩
        rcases List.mem_cons.1 ha with rfl | ha
        · exact hf.symm.trans hfa
        · rw [hleast head List.mem_cons_self (hhead a ha)] at hf
          cases hf
    | none =>
      rw [ih hrest]
      constructor
      · rintro ⟨a, ha, hfa, hleast⟩
        refine ⟨a, List.mem_cons_of_mem _ ha, hfa, fun a' ha' hlt ↦ ?_⟩
        rcases List.mem_cons.1 ha' with rfl | ha'
        · exact hf
        · exact hleast a' ha' hlt
      · rintro ⟨a, ha, hfa, hleast⟩
        rcases List.mem_cons.1 ha with rfl | ha
        · rw [hf] at hfa
          cases hfa
        · exact ⟨a, ha, hfa, fun a' ha' ↦ hleast a' (List.mem_cons_of_mem _ ha')⟩

namespace StrictOrder

variable {κ α β : Type} [LT κ] [StrictOrder κ] {key : α → κ} {items : List α} {f : α → Option β}
  {b : β}

/-- **In an ascending list the least member with an answer decides.** -/
theorem findSome?_eq_some_iff (h : items.Pairwise fun a b ↦ key a < key b) :
    items.findSome? f = some b ↔
      ∃ a ∈ items, f a = some b ∧ ∀ a' ∈ items, key a' < key a → f a' = none :=
  findSome?_eq_some_iff_of_pairwise asymm h

/-- **In an ascending list that is read backwards the greatest member with an answer decides.** -/
theorem findSome?_reverse_eq_some_iff (h : items.Pairwise fun a b ↦ key a < key b) :
    items.reverse.findSome? f = some b ↔
      ∃ a ∈ items, f a = some b ∧ ∀ a' ∈ items, key a < key a' → f a' = none := by
  simpa only [List.mem_reverse] using
    findSome?_eq_some_iff_of_pairwise asymm (List.pairwise_reverse.2 h)

end StrictOrder

/-! ## Maps -/

namespace SortedMap

variable {κ α : Type} [LT κ] [DecidableLT κ] [DecidableEq κ] [StrictOrder κ]

theorem get?_foldl_insert (entries : List (κ × α)) (m : SortedMap κ α) (k : κ) :
    (entries.foldl (fun m e ↦ m.insert e.1 e.2) m).get? k =
      ((entries.reverse.find? fun e ↦ e.1 = k).map (·.2)).or (m.get? k) := by
  rw [List.foldl_eq_foldr_reverse]
  induction entries.reverse with
  | nil => rfl
  | cons e rest ih =>
    rw [List.foldr_cons, get?_insert, List.find?_cons]
    by_cases h : e.1 = k
    · simp [h]
    · simp [h, Ne.symm h, ih]

/-- A map is found again in the list of its entries, read backwards. -/
theorem find?_reverse_toList (m : SortedMap κ α) (k : κ) :
    (m.toList.reverse.find? fun e ↦ e.1 = k).map (·.2) = m.get? k := by
  cases h : m.toList.reverse.find? fun e ↦ e.1 = k with
  | none =>
    cases hg : m.get? k with
    | none => rfl
    | some v =>
      have hmem := List.mem_reverse.2 (m.mem_toList_iff.2 hg)
      simpa using List.find?_eq_none.1 h _ hmem
  | some e =>
    obtain ⟨k', v⟩ := e
    have hk : k' = k := by simpa using List.find?_some h
    have hmem := List.mem_reverse.1 (List.mem_of_find?_eq_some h)
    subst hk
    exact (m.mem_toList_iff.1 hmem).symm

/-- **A map that is laid over another one.** -/
theorem get?_laidOver (m base : SortedMap κ α) (k : κ) :
    (m.toList.foldl (fun m e ↦ m.insert e.1 e.2) base).get? k = (m.get? k).or (base.get? k) := by
  rw [get?_foldl_insert, find?_reverse_toList]

theorem ofList_toList (m : SortedMap κ α) : ofList m.toList = m :=
  ext fun k ↦ by rw [get?_ofList, find?_reverse_toList]

/-- What a map has is what is found first among the entries that it was made of, read backwards. -/
theorem get?_ofList_eq_some_iff_find? {entries : List (κ × α)} {k : κ} {a : α} :
    (ofList entries).get? k = some a ↔
      (entries.reverse.find? fun e ↦ e.1 = k) = some (k, a) := by
  rw [get?_ofList, Option.map_eq_some_iff]
  constructor
  · rintro ⟨⟨k', a'⟩, hfind, rfl⟩
    obtain rfl : k' = k := by simpa using List.find?_some hfind
    exact hfind
  · exact fun hfind ↦ ⟨_, hfind, rfl⟩

theorem mem_of_mem_ofList {entries : List (κ × α)} {e : κ × α}
    (h : e ∈ (ofList entries).toList) : e ∈ entries := by
  rw [mem_toList_iff, get?_ofList_eq_some_iff_find?] at h
  exact List.mem_reverse.1 (List.mem_of_find?_eq_some h)

/-- If no key comes with two values, a map has exactly the entries that it was made of. -/
theorem get?_ofList_eq_some_iff {entries : List (κ × α)} {k : κ} {a : α}
    (h : ∀ b c, (k, b) ∈ entries → (k, c) ∈ entries → b = c) :
    (ofList entries).get? k = some a ↔ (k, a) ∈ entries := by
  constructor
  · exact fun hget ↦ mem_of_mem_ofList ((ofList entries).mem_toList_iff.2 hget)
  · intro hmem
    cases hget : (ofList entries).get? k with
    | none =>
      rw [get?_ofList, Option.map_eq_none_iff] at hget
      simpa using List.find?_eq_none.1 hget _ (List.mem_reverse.2 hmem)
    | some b =>
      have hb := mem_of_mem_ofList ((ofList entries).mem_toList_iff.2 hget)
      exact congrArg some (h b a hb hmem)

theorem lookup_of_mem {entries : List (κ × α)} {k : κ} {a : α} (hmem : (k, a) ∈ entries)
    (h : (entries.map (·.1)).Nodup) : entries.lookup k = some a := by
  induction entries with
  | nil => cases hmem
  | cons e rest ih =>
    obtain ⟨hhead, hrest⟩ := List.nodup_cons.1 h
    rw [List.lookup_cons]
    rcases List.mem_cons.1 hmem with rfl | hmem
    · simp
    · have hne : (k == e.1) = false :=
        beq_false_of_ne fun heq ↦ hhead (List.mem_map.2 ⟨(k, a), hmem, heq⟩)
      rw [hne]
      exact ih hmem hrest

/-- **A map that is made of entries with distinct keys has them all.** -/
theorem get?_ofList_of_nodup {entries : List (κ × α)} (h : (entries.map (·.1)).Nodup) (k : κ) :
    (ofList entries).get? k = entries.lookup k := by
  rw [get?_ofList]
  induction entries with
  | nil => rfl
  | cons e rest ih =>
    obtain ⟨hhead, hrest⟩ := List.nodup_cons.1 h
    rw [List.reverse_cons, List.find?_append, List.lookup_cons]
    by_cases hk : k = e.1
    · -- the key is not in the rest, so that the first entry is the last one to have it
      have hnone : (rest.reverse.find? fun e' ↦ e'.1 = k) = none :=
        List.find?_eq_none.2 fun e' he' heq ↦ hhead <|
          List.mem_map.2 ⟨e', List.mem_reverse.1 he', (of_decide_eq_true heq).trans hk⟩
      rw [hnone, hk]
      simp
    · have hne : (k == e.1) = false := beq_false_of_ne hk
      simp [Ne.symm hk, hne, ih hrest]

/-- The entries of a map whose values have a property. -/
def filterValues (m : SortedMap κ α) (p : α → Bool) : SortedMap κ α :=
  ⟨m.toList.filter fun e ↦ p e.2, m.sorted.sublist List.filter_sublist⟩

/-- **A map without the values that lack a property.** -/
theorem get?_filterValues (m : SortedMap κ α) (p : α → Bool) (k : κ) :
    (m.filterValues p).get? k = (m.get? k).filter p := by
  refine Option.ext fun v ↦ ?_
  rw [← mem_toList_iff, filterValues, List.mem_filter, mem_toList_iff, Option.filter_eq_some_iff]

/-- A map with other values under the same keys. -/
def mapValues {β : Type} (m : SortedMap κ α) (f : κ → α → β) : SortedMap κ β :=
  ⟨m.toList.map fun e ↦ (e.1, f e.1 e.2), List.pairwise_map.2 m.sorted⟩

/-- **A map with other values, look-up by look-up.** -/
theorem get?_mapValues {β : Type} (m : SortedMap κ α) (f : κ → α → β) (k : κ) :
    (m.mapValues f).get? k = (m.get? k).map (f k) := by
  refine Option.ext fun v ↦ ?_
  rw [← mem_toList_iff, mapValues, List.mem_map, Option.map_eq_some_iff]
  constructor
  · rintro ⟨⟨key, a⟩, hmem, h⟩
    obtain ⟨rfl, rfl⟩ := Prod.mk.inj h
    exact ⟨a, m.mem_toList_iff.1 hmem, rfl⟩
  · rintro ⟨a, ha, rfl⟩
    exact ⟨(k, a), m.mem_toList_iff.2 ha, rfl⟩

theorem insert_eq_mapValues {m : SortedMap κ α} {k : κ} {v : α} (h : m.get? k = some v) (v' : α) :
    m.insert k v' = m.mapValues fun k' u ↦ if k' = k then v' else u :=
  ext fun k' ↦ by
    rw [get?_insert, get?_mapValues]
    by_cases hk : k' = k
    · rw [if_pos hk, hk, h, Option.map_some, if_pos rfl]
    · simp [hk]

/-- A value that is exchanged for one that looks the same is not seen. -/
theorem mapValues_insert {β : Type} {m : SortedMap κ α} {k : κ} {v v' : α} (h : m.get? k = some v)
    {f : κ → α → β} (hf : f k v' = f k v) : (m.insert k v').mapValues f = m.mapValues f :=
  ext fun k' ↦ by
    rw [get?_mapValues, get?_mapValues, get?_insert]
    split
    · next heq => rw [heq, h, Option.map_some, Option.map_some, hf]
    · rfl

theorem contains_insert_of_get? {m : SortedMap κ α} {k : κ} {v : α} (h : m.get? k = some v)
    (v' : α) (k' : κ) : (m.insert k v').contains k' = m.contains k' := by
  rw [contains, contains, get?_insert]
  split
  · next heq => rw [heq, h]; rfl
  · rfl

theorem insert_comm (m : SortedMap κ α) {k k' : κ} (h : k ≠ k') (v v' : α) :
    (m.insert k v).insert k' v' = (m.insert k' v').insert k v :=
  ext fun j ↦ by
    rw [get?_insert, get?_insert, get?_insert, get?_insert]
    by_cases hk : j = k
    · have hk' : j ≠ k' := fun heq ↦ h (hk.symm.trans heq)
      simp [hk, hk ▸ hk']
    · simp [hk]

@[simp] theorem insert_insert (m : SortedMap κ α) (k : κ) (v v' : α) :
    (m.insert k v).insert k v' = m.insert k v' :=
  ext fun j ↦ by
    rw [get?_insert, get?_insert, get?_insert]
    split <;> rfl

theorem get?_getD_empty (m : Option (SortedMap κ α)) (k : κ) :
    (m.getD .empty).get? k = m.bind (·.get? k) := by
  cases m <;> rfl

end SortedMap

/-! ## Sets -/

namespace SortedSet

variable {α : Type} [LT α] [DecidableLT α] [DecidableEq α] [StrictOrder α]

/-- **What belongs to the union of some sets.** -/
theorem mem_foldl_union {sets : List (SortedSet α)} {s : SortedSet α} {a : α} :
    a ∈ sets.foldl union s ↔ a ∈ s ∨ ∃ t ∈ sets, a ∈ t := by
  induction sets generalizing s with
  | nil => simp
  | cons t rest ih => simp [ih, or_assoc]

theorem ofList_toList (s : SortedSet α) : ofList s.toList = s :=
  ext fun _ ↦ mem_ofList

theorem singleton_eq_range (n : UInt16) : singleton n = range n n :=
  ext fun m ↦ by
    rw [mem_range, mem_iff, singleton, List.mem_singleton]
    exact ⟨fun h ↦ h ▸ ⟨UInt16.le_refl _, UInt16.le_refl _⟩, fun h ↦ UInt16.le_antisymm h.2 h.1⟩

end SortedSet

end GuestConfig
