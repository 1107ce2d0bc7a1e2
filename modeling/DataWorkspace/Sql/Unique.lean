import Mathlib.Data.List.Nodup

/-!
# Unique columns

A table is the list of its rows, and a row is known by its place.  A column is unique if no
two rows have one value there.  A row is changed or added only with a value that no other
row has.
-/

namespace Sql

variable {Row κ : Type}

/-- No two rows agree in the column. -/
def UniqueBy (f : Row → κ) (rows : List Row) : Prop :=
  ∀ ⦃i j : Nat⦄ ⦃a b : Row⦄, rows[i]? = some a → rows[j]? = some b → f a = f b → i = j

theorem uniqueBy_of_nodup {f : Row → κ} {rows : List Row} (h : (rows.map f).Nodup) :
    UniqueBy f rows := by
  intro i j a b ha hb hab
  have hi : i < (rows.map f).length := by
    rw [List.length_map]
    exact (List.getElem?_eq_some_iff.mp ha).1
  refine (List.getElem?_inj hi h).mp ?_
  rw [List.getElem?_map, List.getElem?_map, ha, hb]
  exact congrArg some hab

theorem UniqueBy.append {f : Row → κ} {rows : List Row} (h : UniqueBy f rows) {a : Row}
    (hfree : ∀ b ∈ rows, f b ≠ f a) : UniqueBy f (rows ++ [a]) := by
  have hcases : ∀ {j : Nat} {b : Row}, (rows ++ [a])[j]? = some b →
      rows[j]? = some b ∨ j = rows.length ∧ b = a := by
    intro j b hb
    rw [List.getElem?_append] at hb
    split at hb
    next => exact .inl hb
    next hj =>
      rw [List.getElem?_singleton] at hb
      split at hb
      next h0 =>
        cases hb
        exact .inr ⟨by omega, rfl⟩
      next => cases hb
  intro j k b c hb hc hbc
  rcases hcases hb with hb' | ⟨rfl, hba⟩
  · rcases hcases hc with hc' | ⟨rfl, hca⟩
    · exact h hb' hc' hbc
    · exact absurd (hbc.trans (congrArg f hca)) (hfree b (List.mem_of_getElem? hb'))
  · rcases hcases hc with hc' | ⟨rfl, -⟩
    · exact absurd (hbc.symm.trans (congrArg f hba)) (hfree c (List.mem_of_getElem? hc'))
    · rfl

section Taken

variable [DecidableEq κ]

/-- Another row than the one at `i` has the value. -/
def taken (f : Row → κ) (rows : List Row) (i : Nat) (v : κ) : Bool :=
  rows.zipIdx.any fun r => r.2 ≠ i && f r.1 = v

theorem taken_iff {f : Row → κ} {rows : List Row} {i : Nat} {v : κ} :
    taken f rows i v = true ↔ ∃ j b, j ≠ i ∧ rows[j]? = some b ∧ f b = v := by
  simp only [taken, List.any_eq_true, Bool.and_eq_true, decide_eq_true_eq, Prod.exists,
    List.mem_zipIdx_iff_getElem?]
  constructor
  · rintro ⟨b, j, hb, hj, hv⟩
    exact ⟨j, b, hj, hb, hv⟩
  · rintro ⟨j, b, hj, hb, hv⟩
    exact ⟨b, j, hb, hj, hv⟩

theorem UniqueBy.not_taken {f : Row → κ} {rows : List Row} (h : UniqueBy f rows) {i : Nat} {a : Row}
    (ha : rows[i]? = some a) : taken f rows i (f a) = false := by
  rw [← Bool.not_eq_true, taken_iff]
  rintro ⟨j, b, hj, hb, hab⟩
  exact hj (h hb ha hab)

theorem UniqueBy.set {f : Row → κ} {rows : List Row} (h : UniqueBy f rows) {i : Nat} {a : Row}
    (hfree : taken f rows i (f a) = false) : UniqueBy f (rows.set i a) := by
  have hother : ∀ j b, j ≠ i → rows[j]? = some b → f b ≠ f a := by
    intro j b hj hb hab
    rw [taken_iff.mpr ⟨j, b, hj, hb, hab⟩] at hfree
    cases hfree
  intro j k b c hb hc hbc
  rw [List.getElem?_set] at hb hc
  split at hb
  next hij =>
    split at hc
    next hik => rw [← hij, ← hik]
    next hik =>
      split at hb
      next =>
        cases hb
        exact absurd hbc.symm (hother k c (Ne.symm hik) hc)
      next => cases hb
  next hij =>
    split at hc
    next =>
      split at hc
      next =>
        cases hc
        exact absurd hbc (hother j b (Ne.symm hij) hb)
      next => cases hc
    next => exact h hb hc hbc

end Taken

end Sql
