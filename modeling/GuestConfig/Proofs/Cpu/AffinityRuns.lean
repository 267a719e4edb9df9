import GuestConfig.Proofs.Cpu.Affinity

/-!
# What an affinity is written as, and what is read as one

An affinity has one text, which lists its maximal runs; many other texts are read as the same
affinity, for the items may come in any order, overlap, and have blanks, plus signs and leading
zeros.  Both directions are described here without the functions that do the work: a run by what
belongs to the affinity and what does not, an item by the numbers in it.

## What is here

* `Affinity.IsRun` — a maximal run of consecutive numbers; two of them that meet are one.
* `Affinity.mem_runs_iff`, `Affinity.gap_runs` — **the runs that are written are the maximal runs**,
  in ascending order.
* `Affinity.Denotes` and `Affinity.item?_eq_some_iff` — the texts that stand for a range.
* `Affinity.text_isExact` — **what is written is minimal, and what is read is what is named.**
-/

set_option autoImplicit false

namespace GuestConfig

open Text (Spells mem_trim_of_not_isBlank splitOn splitOnce_append splitOnce_eq_none_iff
  splitOnce_eq_some_iff trim word?_eq_some_iff)

namespace Affinity

/-! ## Maximal runs -/

/-- A maximal run of consecutive numbers: what lies between its ends belongs to the affinity, and
the numbers next to its ends do not. -/
structure IsRun (affinity : Affinity) (run : UInt16 × UInt16) : Prop where
  le : run.1 ≤ run.2
  mem (n : UInt16) : run.1 ≤ n → n ≤ run.2 → n ∈ affinity
  before (n : UInt16) : n.toNat + 1 = run.1.toNat → n ∉ affinity
  after (n : UInt16) : run.2.toNat + 1 = n.toNat → n ∉ affinity

section runs

variable {affinity : Affinity} {run other : UInt16 × UInt16} {n : UInt16}

/-- A maximal run starts no later than another one that it meets. -/
theorem IsRun.fst_le (h : affinity.IsRun run) (hother : affinity.IsRun other)
    (hfirst : run.1 ≤ n) (hn : n ≤ other.2) : run.1 ≤ other.1 := by
  refine Decidable.byContradiction fun hlt ↦ ?_
  rw [UInt16.le_iff_toNat_le] at hfirst hn hlt
  have hbound : run.1.toNat < 2 ^ 16 := run.1.toNat_lt
  -- the number before the run would belong to the other one
  have hprevious : (UInt16.ofNat (run.1.toNat - 1)).toNat = run.1.toNat - 1 :=
    UInt16.toNat_ofNat_of_lt' (by simp only [UInt16.size]; omega)
  refine h.before (UInt16.ofNat (run.1.toNat - 1)) (by omega) (hother.mem _ ?_ ?_)
  · rw [UInt16.le_iff_toNat_le]
    omega
  · rw [UInt16.le_iff_toNat_le]
    omega

theorem IsRun.le_snd (h : affinity.IsRun run) (hother : affinity.IsRun other)
    (hlast : n ≤ run.2) (hn : other.1 ≤ n) : other.2 ≤ run.2 := by
  refine Decidable.byContradiction fun hlt ↦ ?_
  rw [UInt16.le_iff_toNat_le] at hlast hn hlt
  have hbound : other.2.toNat < 2 ^ 16 := other.2.toNat_lt
  -- the number after the run would belong to the other one
  have hnext : (UInt16.ofNat (run.2.toNat + 1)).toNat = run.2.toNat + 1 :=
    UInt16.toNat_ofNat_of_lt' (by simp only [UInt16.size]; omega)
  refine h.after (UInt16.ofNat (run.2.toNat + 1)) hnext.symm (hother.mem _ ?_ ?_)
  · rw [UInt16.le_iff_toNat_le]
    omega
  · rw [UInt16.le_iff_toNat_le]
    omega

/-- Two maximal runs that meet are one. -/
theorem IsRun.eq_of_meet (h : affinity.IsRun run) (hother : affinity.IsRun other)
    (hfirst : run.1 ≤ n) (hlast : n ≤ run.2) (hfirst' : other.1 ≤ n) (hlast' : n ≤ other.2) :
    run = other :=
  Prod.ext (UInt16.le_antisymm (h.fst_le hother hfirst hlast') (hother.fst_le h hfirst' hlast))
    (UInt16.le_antisymm (hother.le_snd h hlast' hfirst) (h.le_snd hother hlast hfirst'))

/-- **The runs that are written ascend, with a gap between any two.** -/
theorem gap_runs {ns : List UInt16} (h : ns.Pairwise (· < ·)) :
    (runs ns).Pairwise fun a b ↦ a.2.toNat + 1 < b.1.toNat := by
  induction ns with
  | nil => exact .nil
  | cons n rest ih =>
    obtain ⟨hn, hrest⟩ := List.pairwise_cons.1 h
    have ih := ih hrest
    rw [runs]
    split
    · exact List.pairwise_singleton _ _
    · next first last others heq =>
      rw [heq] at ih
      obtain ⟨hfirst, hothers⟩ := List.pairwise_cons.1 ih
      obtain ⟨hhead, hle⟩ := runs_head heq
      split
      · exact List.pairwise_cons.2 ⟨hfirst, hothers⟩
      · next hgap =>
        have hlt := UInt16.lt_iff_toNat_lt.1 (hn first (List.mem_of_head? hhead))
        refine List.pairwise_cons.2 ⟨fun run hrun ↦ ?_, ih⟩
        rcases List.mem_cons.1 hrun with rfl | hrun
        · dsimp only
          omega
        · have := hfirst run hrun
          dsimp only at this ⊢
          omega

/-- Two runs that are written are one, or there is a gap between them. -/
theorem eq_or_gap_of_mem_runs {ns : List UInt16} (h : ns.Pairwise (· < ·)) (hrun : run ∈ runs ns)
    (hother : other ∈ runs ns) :
    run = other ∨ run.2.toNat + 1 < other.1.toNat ∨ other.2.toNat + 1 < run.1.toNat := by
  have hgap := gap_runs h
  exact List.Pairwise.forall_of_forall_of_flip
    (R := fun a b ↦ a = b ∨ a.2.toNat + 1 < b.1.toNat ∨ b.2.toNat + 1 < a.1.toNat)
    (fun _ _ ↦ .inl rfl) (hgap.imp fun hab ↦ .inr (.inl hab))
    (hgap.imp fun hab ↦ .inr (.inr hab)) hrun hother

theorem isRun_of_mem_runs (h : run ∈ runs affinity.toList) : affinity.IsRun run := by
  have hle := le_of_mem_runs h
  have hle' := UInt16.le_iff_toNat_le.1 hle
  refine ⟨hle, fun n hfirst hlast ↦ (mem_iff_exists_run affinity).2 ⟨run, h, hfirst, hlast⟩,
    fun n hn hmem ↦ ?_, fun n hn hmem ↦ ?_⟩ <;>
  · obtain ⟨other, hother, hfirst, hlast⟩ := (mem_iff_exists_run affinity).1 hmem
    rw [UInt16.le_iff_toNat_le] at hfirst hlast
    rcases eq_or_gap_of_mem_runs affinity.sorted h hother with rfl | hgap | hgap <;> omega

/-- **The runs that are written are the maximal runs.** -/
theorem mem_runs_iff : run ∈ runs affinity.toList ↔ affinity.IsRun run := by
  refine ⟨isRun_of_mem_runs, fun h ↦ ?_⟩
  obtain ⟨other, hother, hfirst, hlast⟩ :=
    (mem_iff_exists_run affinity).1 (h.mem run.1 (UInt16.le_refl _) h.le)
  rwa [h.eq_of_meet (isRun_of_mem_runs hother) (UInt16.le_refl _) h.le hfirst hlast]

end runs

/-! ## Items -/

/-- A text stands for the numbers from a first to a last one: it is one number, or two that ascend
around a hyphen, each between blanks. -/
inductive Denotes : List Char → UInt16 × UInt16 → Prop
  /-- One number. -/
  | number {cs : List Char} {n : UInt16} (h : Spells cs n) : Denotes cs (n, n)
  /-- Two numbers around a hyphen. -/
  | range {before after : List Char} {first last : UInt16} (hfirst : Spells (trim before) first)
      (hlast : Spells (trim after) last) (hle : first ≤ last) :
      Denotes (before ++ '-' :: after) (first, last)

theorem hyphen_not_mem_of_spells {cs : List Char} {n : UInt16} (h : Spells cs n) : '-' ∉ cs :=
  fun hc ↦ absurd (h.isDigit_or hc) (by decide)

/-- **The texts that are read as a range.** -/
theorem item?_eq_some_iff {cs : List Char} {affinity : Affinity} :
    item? cs = some affinity ↔
      ∃ run, Denotes cs run ∧ affinity = SortedSet.range run.1 run.2 := by
  constructor
  · intro h
    unfold item? at h
    split at h
    · next before after hsplit =>
      simp only [Option.bind_eq_bind, Option.bind_eq_some_iff] at h
      obtain ⟨first, hfirst, last, hlast, h⟩ := h
      split at h
      · next hle =>
        refine ⟨(first, last), ?_, (Option.some.inj h).symm⟩
        rw [(splitOnce_eq_some_iff.1 hsplit).1]
        exact .range (word?_eq_some_iff.1 hfirst) (word?_eq_some_iff.1 hlast) hle
      · cases h
    · obtain ⟨n, hn, rfl⟩ := Option.map_eq_some_iff.1 h
      exact ⟨(n, n), .number (word?_eq_some_iff.1 hn), SortedSet.singleton_eq_range n⟩
  · rintro ⟨run, h, rfl⟩
    cases h with
    | number h =>
      rw [item?, splitOnce_eq_none_iff.2 (hyphen_not_mem_of_spells h)]
      dsimp only
      rw [word?_eq_some_iff.2 h, Option.map_some, SortedSet.singleton_eq_range]
    | range hfirst hlast hle =>
      -- the first hyphen is the one between the numbers, since the first number has none
      have hbefore := fun hc ↦
        hyphen_not_mem_of_spells hfirst (mem_trim_of_not_isBlank hc (by decide))
      rw [item?, splitOnce_append _ hbefore]
      simp only [word?_eq_some_iff.2 hfirst, word?_eq_some_iff.2 hlast, Option.bind_eq_bind,
        Option.bind_some]
      exact if_pos hle

/-- The items of a text: what stands between commas, without blanks around it, unless nothing is
left. -/
def items (s : String) : List (List Char) :=
  ((splitOn ',' s.toList).map trim).filter (!·.isEmpty)

section reading

variable {s : String} {affinity : Affinity}

theorem parse_eq_ok_iff_mapM :
    parse s = .ok affinity ↔
      ∃ sets, (items s).mapM item? = some sets ∧ sets.foldl .union .empty = affinity := by
  rw [parse, ← items]
  cases (items s).mapM item? <;> simp

/-- The texts that are read: those all of whose items stand for a range. -/
theorem exists_parse_eq_ok_iff :
    (∃ affinity, parse s = .ok affinity) ↔ ∀ item ∈ items s, ∃ run, Denotes item run := by
  simp only [parse_eq_ok_iff_mapM]
  constructor
  · rintro ⟨_, sets, hsets, -⟩ item hitem
    have hread : item? item ∈ sets.map some :=
      mapM_eq_some_iff.1 hsets ▸ List.mem_map_of_mem hitem
    obtain ⟨set, -, hset⟩ := List.mem_map.1 hread
    obtain ⟨run, hrun, -⟩ := item?_eq_some_iff.1 hset.symm
    exact ⟨run, hrun⟩
  · intro h
    refine ⟨_, _, mapM_eq_some_filterMap fun item hitem ↦ ?_, rfl⟩
    obtain ⟨run, hrun⟩ := h item hitem
    rw [item?_eq_some_iff.2 ⟨run, hrun, rfl⟩]
    rfl

/-- What a text is read as: what lies in one of the ranges that its items stand for. -/
theorem mem_iff_of_parse (h : parse s = .ok affinity) {n : UInt16} :
    n ∈ affinity ↔ ∃ item ∈ items s, ∃ run, Denotes item run ∧ run.1 ≤ n ∧ n ≤ run.2 := by
  obtain ⟨sets, hsets, rfl⟩ := parse_eq_ok_iff_mapM.1 h
  rw [SortedSet.mem_foldl_union, or_iff_right (SortedSet.not_mem_empty n)]
  have hmem (set : Affinity) : set ∈ sets ↔ ∃ item ∈ items s, item? item = some set := by
    rw [← List.mem_map, mapM_eq_some_iff.1 hsets, List.mem_map]
    simp
  constructor
  · rintro ⟨set, hset, hn⟩
    obtain ⟨item, hitem, hread⟩ := (hmem set).1 hset
    obtain ⟨run, hrun, rfl⟩ := item?_eq_some_iff.1 hread
    exact ⟨item, hitem, run, hrun, SortedSet.mem_range.1 hn⟩
  · rintro ⟨item, hitem, run, hrun, hn⟩
    exact ⟨.range run.1 run.2, (hmem _).2 ⟨item, hitem, item?_eq_some_iff.2 ⟨run, hrun, rfl⟩⟩,
      SortedSet.mem_range.2 hn⟩

end reading

/-- **What is written is minimal, and what is read is what is named.**  An affinity is read back
from its text, which lists its maximal runs in ascending order.  A text is read if each of its items
stands for a range, and as the numbers in these ranges. -/
theorem text_isExact (affinity : Affinity) (s : String) :
    (parse affinity.text = .ok affinity ∧
      ∃ list : List (UInt16 × UInt16), affinity.text = String.intercalate "," (list.map runText) ∧
        (list.Pairwise fun a b ↦ a.2 < b.1) ∧ ∀ run, run ∈ list ↔ affinity.IsRun run) ∧
    ((∃ read, parse s = .ok read) ↔ ∀ item ∈ items s, ∃ run, Denotes item run) ∧
    ∀ read, parse s = .ok read → ∀ n,
      n ∈ read ↔ ∃ item ∈ items s, ∃ run, Denotes item run ∧ run.1 ≤ n ∧ n ≤ run.2 := by
  refine ⟨⟨parse_text affinity, runs affinity.toList, rfl, ?_, fun run ↦ mem_runs_iff⟩,
    exists_parse_eq_ok_iff, fun read hread n ↦ mem_iff_of_parse hread⟩
  refine (gap_runs affinity.sorted).imp fun hgap ↦ ?_
  rw [UInt16.lt_iff_toNat_lt]
  omega

/-- Items overlap, come in any order, and are spelled generously. -/
theorem text_isExact_of_overlapping :
    ∃ read, parse "+3 , 0 - 01,,1-2" = .ok read ∧ read.text = "0-3" ∧
      ∀ n, n ∈ read ↔ ∃ item ∈ items "+3 , 0 - 01,,1-2", ∃ run,
        Denotes item run ∧ run.1 ≤ n ∧ n ≤ run.2 := by
  have h : (parse "+3 , 0 - 01,,1-2").toOption = some (SortedSet.ofList [0, 1, 2, 3]) := by
    decide +kernel
  have hread := toOption_eq_some_iff.1 h
  exact ⟨_, hread, by decide +kernel, (text_isExact .empty _).2.2 _ hread⟩

/-- Runs reach up to the largest number. -/
example : text (.ofList [65535, 8, 0, 65534, 10, 9]) = "0,8-10,65534-65535" := by
  decide +kernel

end Affinity

end GuestConfig
