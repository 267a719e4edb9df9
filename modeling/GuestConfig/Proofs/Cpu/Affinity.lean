import GuestConfig.Cpu.Affinity
import GuestConfig.Proofs.Outcome
import GuestConfig.Proofs.Sorted
import GuestConfig.Proofs.Text.Word

/-!
# Affinities read back

An affinity is written as the runs of its numbers, and each of them is read as a range of its own.
What holds the two together is the membership: a number belongs to the affinity exactly if it lies
in one of the runs.

## What is here

* `Affinity.le_of_mem_runs`, `Affinity.mem_iff_exists_run` — a number belongs to an affinity exactly
  if it lies in one of the runs.
* `Affinity.item?_runText` — a run is read as a range.
* `Affinity.parse_text` — **an affinity reads back.**
-/

set_option autoImplicit false

namespace GuestConfig

open Text (items_intercalate splitOnce splitOnce_append splitOnce_eq_none_iff trim)

namespace Affinity

/-! ## Runs -/

theorem le_of_mem_runs {ns : List UInt16} {run : UInt16 × UInt16} (h : run ∈ runs ns) :
    run.1 ≤ run.2 := by
  induction ns with
  | nil => cases h
  | cons n rest ih =>
    rw [runs] at h
    split at h
    · obtain rfl := List.mem_singleton.1 h
      exact UInt16.le_refl _
    · next first last others heq =>
      rw [heq] at ih
      split at h
      · next hn =>
        rcases List.mem_cons.1 h with rfl | h
        · have hle := (runs_head heq).2
          rw [UInt16.le_iff_toNat_le]
          dsimp only
          omega
        · exact ih (List.mem_cons_of_mem _ h)
      · rcases List.mem_cons.1 h with rfl | h
        · exact UInt16.le_refl _
        · exact ih h

theorem mem_expand {run : UInt16 × UInt16} {n : UInt16} :
    n.toNat ∈ expand run ↔ run.1 ≤ n ∧ n ≤ run.2 := by
  rw [expand, List.mem_range'_1, UInt16.le_iff_toNat_le, UInt16.le_iff_toNat_le]
  omega

/-- **A number belongs to an affinity exactly if it lies in one of the runs.** -/
theorem mem_iff_exists_run (affinity : Affinity) {n : UInt16} :
    n ∈ affinity ↔ ∃ run ∈ runs affinity.toList, run.1 ≤ n ∧ n ≤ run.2 := by
  have hexpand : n.toNat ∈ (runs affinity.toList).flatMap expand ↔ n ∈ affinity := by
    rw [expand_runs, List.mem_map, SortedSet.mem_iff]
    exact ⟨fun ⟨m, hm, heq⟩ ↦ UInt16.toNat_inj.1 heq ▸ hm, fun h ↦ ⟨n, h, rfl⟩⟩
  rw [← hexpand, List.mem_flatMap]
  simp only [mem_expand]

/-! ## Items -/

/-- **A run is read as a range.** -/
theorem item?_runText {run : UInt16 × UInt16} (h : run.1 ≤ run.2) :
    item? (runText run).toList = some (.range run.1 run.2) := by
  obtain ⟨first, last⟩ := run
  have hhyphen (n : UInt16) : '-' ∉ (Word.text n).toList := by
    rw [Word.toList_text]
    exact Text.not_mem_digits (by decide) _
  have hread (n : UInt16) : Text.word? (trim (Word.text n).toList) = some n := by
    rw [Word.toList_text, Text.trim_digits, Text.word?_digits]
  unfold runText
  split
  · next heq =>
    obtain rfl : first = last := heq
    rw [item?, splitOnce_eq_none_iff.2 (hhyphen first)]
    dsimp only
    rw [Word.toList_text, Text.word?_digits, Option.map_some, SortedSet.singleton_eq_range]
  · have hsplit : splitOnce '-' (Word.text first ++ "-" ++ Word.text last).toList =
        some ((Word.text first).toList, (Word.text last).toList) := by
      rw [String.append_assoc, String.toList_append, String.toList_append]
      exact splitOnce_append _ (hhyphen first)
    rw [item?, hsplit]
    simp only [hread, Option.bind_eq_bind, Option.bind_some]
    exact if_pos h

theorem isWord_runText (run : UInt16 × UInt16) : Text.isWord (runText run) = true := by
  unfold runText
  split
  · exact Text.isWord_wordText _
  · rw [Text.isWord_append, Text.isWord_append, Text.isWord_wordText, Text.isWord_wordText]
    decide

theorem runText_ne_nil (run : UInt16 × UInt16) : (runText run).toList ≠ [] := by
  unfold runText
  split <;> simp [Word.toList_text]

/-! ## Affinities -/

/-- **An affinity reads back.** -/
theorem parse_text (affinity : Affinity) : parse affinity.text = .ok affinity := by
  have hitems : ((Text.splitOn ',' affinity.text.toList).map trim).filter (!·.isEmpty) =
      (runs affinity.toList).map fun run ↦ (runText run).toList := by
    rw [text, String.toList_intercalate, List.map_map]
    refine items_intercalate fun piece hpiece ↦ ?_
    obtain ⟨run, -, rfl⟩ := List.mem_map.1 hpiece
    have hword := isWord_runText run
    exact ⟨Text.comma_not_mem_of_isWord hword, Text.trim_of_isWord hword, runText_ne_nil run⟩
  have hread : ((runs affinity.toList).map fun run ↦ (runText run).toList).mapM item? =
      some ((runs affinity.toList).map fun run ↦ .range run.1 run.2) := by
    rw [mapM_eq_some_iff, List.map_map, List.map_map]
    exact List.map_congr_left fun run hrun ↦ item?_runText (le_of_mem_runs hrun)
  have hunion : ((runs affinity.toList).map fun run ↦ SortedSet.range run.1 run.2).foldl
      SortedSet.union .empty = affinity := by
    refine SortedSet.ext fun n ↦ ?_
    rw [SortedSet.mem_foldl_union, or_iff_right (SortedSet.not_mem_empty n),
      mem_iff_exists_run affinity]
    constructor
    · rintro ⟨_, hset, hn⟩
      obtain ⟨run, hrun, rfl⟩ := List.mem_map.1 hset
      exact ⟨run, hrun, SortedSet.mem_range.1 hn⟩
    · rintro ⟨run, hrun, hn⟩
      exact ⟨_, List.mem_map_of_mem hrun, SortedSet.mem_range.2 hn⟩
  rw [parse, hitems, hread]
  exact congrArg Except.ok hunion

end Affinity

end GuestConfig
