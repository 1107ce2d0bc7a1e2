import Mathlib.Data.List.Nodup
import Mathlib.Order.BooleanAlgebra.Set

/-!
# Objects that rows refer to

A store of objects beside a table whose rows refer to some of them.  A step writes rows and
deletes objects.  It is `Collected` if it deletes no object that is referred to after it, and
every object that it leaves without a reference.

`Collected` is about keys only: those of the objects that are stored, and those that rows refer
to.  The second section says which these are where a row of the table is replaced or removed.
-/

namespace Storage

variable {κ : Type*}

/-! ## Steps -/

section

variable {objects objects' before after : Set κ}

/-- No object that is referred to after a step is deleted, and those that are no longer
referred to are. -/
structure Collected (objects objects' before after : Set κ) : Prop where
  kept : ∀ k ∈ objects, k ∈ after → k ∈ objects'
  freed : ∀ k ∈ objects, k ∈ before → k ∉ after → k ∉ objects'

theorem collected_of_subset (hobjects : objects ⊆ objects') (href : before ⊆ after) :
    Collected objects objects' before after where
  kept _ hk _ := hobjects hk
  freed _ _ hbefore hafter := absurd (href hbefore) hafter

theorem collected_diff_iff {deleted : Set κ} :
    Collected objects (objects \ deleted) before after ↔
      (∀ k ∈ objects, k ∈ deleted → k ∉ after) ∧
        ∀ k ∈ objects, k ∈ before → k ∉ after → k ∈ deleted := by
  constructor
  · intro h
    constructor
    · intro k hk hdeleted hafter
      exact (h.kept k hk hafter).2 hdeleted
    · intro k hk hbefore hafter
      by_contra hdeleted
      exact h.freed k hk hbefore hafter ⟨hk, hdeleted⟩
  · rintro ⟨hkept, hfreed⟩
    constructor
    · intro k hk hafter
      exact ⟨hk, fun hdeleted => hkept k hk hdeleted hafter⟩
    · intro k hk hbefore hafter hk'
      exact hk'.2 (hfreed k hk hbefore hafter)

/-- Some rows give up their references for others, beside rows that keep theirs. -/
theorem collected_union_iff {deleted gone come rest : Set κ} :
    Collected objects (objects \ deleted) (gone ∪ rest) (come ∪ rest) ↔
      (∀ k ∈ objects, k ∈ deleted → k ∉ come ∧ k ∉ rest) ∧
        ∀ k ∈ objects, k ∈ gone → k ∉ come → k ∉ rest → k ∈ deleted := by
  rw [collected_diff_iff]
  simp only [Set.mem_union, not_or]
  refine and_congr_right fun _ => forall₂_congr fun k _ => ?_
  constructor
  · intro h hgone hcome hrest
    exact h (.inl hgone) ⟨hcome, hrest⟩
  · rintro h (hgone | hrest) ⟨hcome, hrest'⟩
    · exact h hgone hcome hrest'
    · exact absurd hrest hrest'

theorem collected_gone_iff {deleted gone rest : Set κ} :
    Collected objects (objects \ deleted) (gone ∪ rest) rest ↔
      (∀ k ∈ objects, k ∈ deleted → k ∉ rest) ∧
        ∀ k ∈ objects, k ∈ gone → k ∉ rest → k ∈ deleted := by
  have h : Collected objects (objects \ deleted) (gone ∪ rest) (∅ ∪ rest) ↔ _ :=
    collected_union_iff
  rw [Set.empty_union] at h
  simpa using h

theorem collected_dropped_iff {gone rest : Set κ} :
    Collected objects objects (gone ∪ rest) rest ↔ ∀ k ∈ objects, k ∈ gone → k ∈ rest := by
  have h : Collected objects (objects \ ∅) (gone ∪ rest) rest ↔ _ := collected_gone_iff
  rw [Set.sdiff_empty] at h
  rw [h]
  simp only [Set.mem_empty_iff_false, false_implies, implies_true, true_and, imp_false, not_not]

end

/-! ## Tables -/

section

variable {ρ ι : Type*} (id : ρ → ι) (refs : ρ → Set κ) (rows : List ρ)

/-- The keys that some row refers to. -/
def referred : Set κ := {k | ∃ r ∈ rows, k ∈ refs r}

/-- The keys that a row with another id refers to. -/
def others (i : ι) : Set κ := {k | ∃ r ∈ rows, id r ≠ i ∧ k ∈ refs r}

variable {id refs rows}

theorem referred_append (rows' : List ρ) :
    referred refs (rows ++ rows') = referred refs rows ∪ referred refs rows' := by
  ext k
  simp only [referred, List.mem_append, Set.mem_union, Set.mem_ofPred_eq]
  constructor
  · rintro ⟨r, hr | hr, hk⟩
    · exact .inl ⟨r, hr, hk⟩
    · exact .inr ⟨r, hr, hk⟩
  · rintro (⟨r, hr, hk⟩ | ⟨r, hr, hk⟩)
    · exact ⟨r, .inl hr, hk⟩
    · exact ⟨r, .inr hr, hk⟩

theorem referred_filter_union (p : ρ → Bool) :
    referred refs (rows.filter fun r => !p r) ∪ referred refs (rows.filter p) =
      referred refs rows := by
  ext k
  simp only [referred, Set.mem_union, Set.mem_ofPred_eq, List.mem_filter, Bool.not_eq_true']
  constructor
  · rintro (⟨r, ⟨hr, -⟩, hk⟩ | ⟨r, ⟨hr, -⟩, hk⟩) <;> exact ⟨r, hr, hk⟩
  · rintro ⟨r, hr, hk⟩
    cases hp : p r with
    | false => exact .inl ⟨r, ⟨hr, hp⟩, hk⟩
    | true => exact .inr ⟨r, ⟨hr, hp⟩, hk⟩

theorem eq_of_id_eq (hnodup : (rows.map id).Nodup) {r r' : ρ} (hr : r ∈ rows) (hr' : r' ∈ rows)
    (hid : id r = id r') : r = r' :=
  List.inj_on_of_nodup_map hnodup hr hr' hid

theorem referred_eq (hnodup : (rows.map id).Nodup) {r : ρ} (hr : r ∈ rows) :
    referred refs rows = refs r ∪ others id refs rows (id r) := by
  ext k
  simp only [referred, others, Set.mem_union, Set.mem_ofPred_eq]
  constructor
  · rintro ⟨r', hr', hk⟩
    by_cases hid : id r' = id r
    · rw [eq_of_id_eq hnodup hr' hr hid] at hk
      exact .inl hk
    · exact .inr ⟨r', hr', hid, hk⟩
  · rintro (hk | ⟨r', hr', -, hk⟩)
    · exact ⟨r, hr, hk⟩
    · exact ⟨r', hr', hk⟩

variable [DecidableEq ι]

theorem referred_remove (i : ι) :
    referred refs (rows.filter fun r => decide (id r ≠ i)) = others id refs rows i := by
  ext k
  simp only [referred, others, Set.mem_ofPred_eq, List.mem_filter, decide_eq_true_eq, and_assoc]

theorem referred_replace {r : ρ} (hr : ∃ r₀ ∈ rows, id r₀ = id r) :
    referred refs (rows.map fun r' => if id r' = id r then r else r') =
      refs r ∪ others id refs rows (id r) := by
  ext k
  simp only [referred, others, Set.mem_union, Set.mem_ofPred_eq, List.mem_map]
  constructor
  · rintro ⟨_, ⟨r', hr', rfl⟩, hk⟩
    split at hk
    next => exact .inl hk
    next hid => exact .inr ⟨r', hr', hid, hk⟩
  · rintro (hk | ⟨r', hr', hid, hk⟩)
    · obtain ⟨r₀, hr₀, hid⟩ := hr
      exact ⟨r, ⟨r₀, hr₀, if_pos hid⟩, hk⟩
    · exact ⟨r', ⟨r', hr', if_neg hid⟩, hk⟩

theorem map_id_replace (r : ρ) :
    (rows.map fun r' => if id r' = id r then r else r').map id = rows.map id := by
  rw [List.map_map]
  refine List.map_congr_left fun r' _ => ?_
  by_cases hid : id r' = id r
  · rw [Function.comp_apply, if_pos hid, hid]
  · rw [Function.comp_apply, if_neg hid]

end

end Storage
