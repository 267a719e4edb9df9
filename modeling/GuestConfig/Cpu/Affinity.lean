import GuestConfig.Error.Wire
import GuestConfig.Sorted.Set
import GuestConfig.Text.Natural
import GuestConfig.Text.Split

/-!
# Affinity

The threads of a guest may be confined to some CPUs of the host.  These are written as a list of
numbers and ranges, `0-3,8,10-11`, where every run of consecutive numbers is one item.

## What is here

* `Affinity` — a set of CPU numbers.
* `Affinity.runs` — the maximal runs of consecutive numbers; `Affinity.expand_runs` says that they
  hold the numbers that they were made of, in the same order.
* `Affinity.text`, `Affinity.parse` — the two directions.  Reading also takes items in any order,
  overlapping ones, and blanks.
-/

set_option autoImplicit false

namespace GuestConfig

open Text (trim splitOn splitOnce)

/-- The host CPUs that a guest may use. -/
abbrev Affinity : Type :=
  SortedSet UInt16

namespace Affinity

/-! ## Writing -/

/-- The maximal runs of consecutive numbers in an ascending list, each by its two ends. -/
def runs : List UInt16 → List (UInt16 × UInt16)
  | [] => []
  | n :: rest =>
    match runs rest with
    | [] => [(n, n)]
    | (first, last) :: others =>
      if n.toNat + 1 = first.toNat then (n, last) :: others
      else (n, n) :: (first, last) :: others

/-- The numbers in a run. -/
def expand (run : UInt16 × UInt16) : List Nat :=
  List.range' run.1.toNat (run.2.toNat + 1 - run.1.toNat)

/-- The first run starts with the first number, and no run ends before it starts. -/
theorem runs_head {ns : List UInt16} {first last : UInt16} {others : List (UInt16 × UInt16)}
    (h : runs ns = (first, last) :: others) : ns.head? = some first ∧ first.toNat ≤ last.toNat := by
  induction ns generalizing first last others with
  | nil => cases h
  | cons n rest ih =>
    rw [runs] at h
    split at h
    · simp only [List.cons.injEq, Prod.mk.injEq] at h
      obtain ⟨⟨rfl, rfl⟩, rfl⟩ := h
      exact ⟨rfl, Nat.le_refl _⟩
    · next first' last' others' heq =>
      have := (ih heq).2
      split at h
      · next hn =>
        simp only [List.cons.injEq, Prod.mk.injEq] at h
        obtain ⟨⟨rfl, rfl⟩, rfl⟩ := h
        exact ⟨rfl, by omega⟩
      · simp only [List.cons.injEq, Prod.mk.injEq] at h
        obtain ⟨⟨rfl, rfl⟩, rfl⟩ := h
        exact ⟨rfl, Nat.le_refl _⟩

/-- **The runs hold the numbers that they were made of.** -/
theorem expand_runs (ns : List UInt16) : (runs ns).flatMap expand = ns.map UInt16.toNat := by
  induction ns with
  | nil => rfl
  | cons n rest ih =>
    rw [runs]
    split
    · next heq =>
      rw [heq] at ih
      simp [← ih, expand]
    · next first last others heq =>
      have hle := (runs_head heq).2
      rw [heq, List.flatMap_cons] at ih
      split
      · next hn =>
        rw [List.flatMap_cons, List.map_cons, ← ih, ← List.cons_append]
        congr 1
        simp only [expand]
        rw [show last.toNat + 1 - n.toNat = last.toNat + 1 - first.toNat + 1 by omega,
          List.range'_succ, hn]
      · rw [List.flatMap_cons, List.flatMap_cons, List.map_cons, ← ih]
        simp [expand]

/-- A run: one number, or the two ends between a hyphen. -/
def runText (run : UInt16 × UInt16) : String :=
  if run.1 = run.2 then Word.text run.1 else Word.text run.1 ++ "-" ++ Word.text run.2

/-- Writes an affinity. -/
def text (affinity : Affinity) : String :=
  String.intercalate "," ((runs affinity.toList).map runText)

/-! ## Reading -/

/-- One item: a number, or a range whose ends ascend. -/
def item? (cs : List Char) : Option Affinity :=
  match splitOnce '-' cs with
  | some (first, last) => do
    let first ← Text.word? (trim first)
    let last ← Text.word? (trim last)
    if first ≤ last then some (.range first last) else none
  | none => (Text.word? cs).map .singleton

/-- Reads an affinity. -/
def parse (s : String) : Except WireError Affinity :=
  let items := ((splitOn ',' s.toList).map trim).filter (!·.isEmpty)
  match items.mapM item? with
  | some sets => .ok (sets.foldl .union .empty)
  | none => .error (.invalidOption "affinity" s)

end Affinity

end GuestConfig
