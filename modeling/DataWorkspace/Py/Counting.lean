import DataWorkspace.Py.Collections

/-!
# Counting in one pass

A loop over some values adds to a `defaultdict(int)` under every key whose test a value
passes.  `count_tally` says that each key then counts the values that pass its test.
-/

namespace Py

variable {κ α : Type} [DecidableEq κ]

/-- `counts[k]` of a `defaultdict(int)`. -/
def count (counts : Dict κ Nat) (k : κ) : Nat := (counts.get? k).getD 0

/-- `counts[k] += 1`. -/
def increment (counts : Dict κ Nat) (k : κ) : Dict κ Nat := counts.set k (count counts k + 1)

/-- Add a value under every key whose test it passes. -/
def tallyOne (tests : List (κ × (α → Bool))) (counts : Dict κ Nat) (a : α) : Dict κ Nat :=
  tests.foldl (fun counts t => if t.2 a then increment counts t.1 else counts) counts

/-- Add the values one after the other. -/
def tally (tests : List (κ × (α → Bool))) (values : List α) : Dict κ Nat :=
  values.foldl (tallyOne tests) .empty

theorem count_increment (counts : Dict κ Nat) (k k' : κ) :
    count (increment counts k') k = if k = k' then count counts k + 1 else count counts k := by
  rw [count, increment, Dict.get?_set]
  by_cases h : k = k'
  · simp [h]
  · simp [h, count]

theorem count_tallyOne_of_not_mem (a : α) {k : κ} : ∀ {tests : List (κ × (α → Bool))}
    (counts : Dict κ Nat), k ∉ tests.map Prod.fst →
    count (tallyOne tests counts a) k = count counts k
  | [], _, _ => rfl
  | t :: tests, counts, h => by
      rw [List.map_cons, List.mem_cons, not_or] at h
      rw [tallyOne, List.foldl_cons]
      change count (tallyOne tests _ a) k = _
      rw [count_tallyOne_of_not_mem a _ h.2]
      cases t.2 a with
      | true => simp [count_increment, h.1]
      | false => simp

theorem count_tallyOne (a : α) {k : κ} {p : α → Bool} : ∀ {tests : List (κ × (α → Bool))}
    (counts : Dict κ Nat), (tests.map Prod.fst).Nodup → (k, p) ∈ tests →
    count (tallyOne tests counts a) k = count counts k + if p a then 1 else 0
  | t :: tests, counts, hn, hmem => by
      rw [List.map_cons, List.nodup_cons] at hn
      rw [tallyOne, List.foldl_cons]
      change count (tallyOne tests _ a) k = _
      rcases List.mem_cons.mp hmem with rfl | hmem
      · rw [count_tallyOne_of_not_mem a _ hn.1]
        cases hp : p a with
        | true => simp [hp, count_increment]
        | false => simp [hp]
      · have hne : k ≠ t.1 := fun he => hn.1 (he ▸ List.mem_map_of_mem hmem)
        rw [count_tallyOne a _ hn.2 hmem]
        cases t.2 a with
        | true => simp [count_increment, hne]
        | false => simp

theorem count_tally {k : κ} {p : α → Bool} {tests : List (κ × (α → Bool))}
    (hn : (tests.map Prod.fst).Nodup) (hmem : (k, p) ∈ tests) (values : List α) :
    count (tally tests values) k = values.countP p := by
  have hfold : ∀ counts : Dict κ Nat, count (values.foldl (tallyOne tests) counts) k =
      count counts k + values.countP p := by
    induction values with
    | nil => simp
    | cons a values ih =>
        intro counts
        rw [List.foldl_cons, ih, count_tallyOne a counts hn hmem, List.countP_cons]
        omega
  rw [tally, hfold]
  simp [count, Dict.get?, Dict.empty]

end Py
