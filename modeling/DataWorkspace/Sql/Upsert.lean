import Mathlib.Logic.Function.Basic
import DataWorkspace.Sql.Rows

/-!
# Rows that are found by a key

The rows of a table have primary keys that a sequence gives out.  A program that takes in
entries by a key of their own looks for the rows of that key: it changes the first of
them, and where there is none it inserts a row.

`Rows` is such a table and `Keyed` what it is for: a map from keys to rows.
`Rows.puts_keyed` says that taking entries in does to the map what one would expect, and
`Keyed.puts_again` that the same entries taken in once more only change rows.
-/

namespace Sql

open Py

/-- What was done with an entry. -/
inductive Mark where
  | added
  | updated
  | rejected
deriving DecidableEq

/-- What becomes of an entry when it is taken in a second time. -/
def Mark.again : Mark → Mark
  | .added => .updated
  | .updated => .updated
  | .rejected => .rejected

/-- How entries make and change rows. -/
structure Upsert (κ ρ δ : Type) where
  key : ρ → κ
  keyOf : δ → κ
  create : Nat → δ → ρ
  change : δ → ρ → ρ
  /-- Whether the table takes a new row. -/
  creates : Bool
  key_create : ∀ n d, key (create n d) = keyOf d
  key_change : ∀ d r, key (change d r) = keyOf d

namespace Rows

variable {κ ρ δ : Type} [DecidableEq κ]

/-- Take in an entry, if it is one: change the first row of its key, or insert one. -/
def put (u : Upsert κ ρ δ) (t : Rows ρ) : Option δ → Rows ρ × Mark
  | none => (t, .rejected)
  | some d =>
      match (matching u.key t (u.keyOf d)).head? with
      | some row => (t.update row.1 (u.change d), .updated)
      | none =>
          if u.creates then (t.insert (u.create t.next_id d), .added) else (t, .rejected)

/-- Take in entries in order. -/
def puts (u : Upsert κ ρ δ) : List (Option δ) → Rows ρ → Rows ρ × List Mark
  | [], t => (t, [])
  | e :: es, t => ((puts u es (t.put u e).1).1, (t.put u e).2 :: (puts u es (t.put u e).1).2)

end Rows

/-! ## The map from keys to rows -/

/-- The row of each key, with its primary key. -/
structure Keyed (κ ρ : Type) where
  find : κ → Option (Nat × ρ)
  next_id : Nat

namespace Keyed

variable {κ ρ δ : Type} [DecidableEq κ]

/-- Take in an entry, if it is one. -/
def put (u : Upsert κ ρ δ) (s : Keyed κ ρ) : Option δ → Keyed κ ρ × Mark
  | none => (s, .rejected)
  | some d =>
      match s.find (u.keyOf d) with
      | some (id, r) =>
          (⟨Function.update s.find (u.keyOf d) (some (id, u.change d r)), s.next_id⟩, .updated)
      | none =>
          if u.creates then
            (⟨Function.update s.find (u.keyOf d) (some (s.next_id, u.create s.next_id d)),
              s.next_id + 1⟩, .added)
          else (s, .rejected)

/-- Take in entries in order. -/
def puts (u : Upsert κ ρ δ) : List (Option δ) → Keyed κ ρ → Keyed κ ρ × List Mark
  | [], s => (s, [])
  | e :: es, s => ((puts u es (s.put u e).1).1, (s.put u e).2 :: (puts u es (s.put u e).1).2)

/-- Whether a key has a row. -/
def has (s : Keyed κ ρ) (k : κ) : Bool := (s.find k).isSome

section

variable (u : Upsert κ ρ δ) (s : Keyed κ ρ)

theorem has_put (e : Option δ) (k : κ) :
    (s.put u e).1.has k = (s.has k || u.creates && e.any fun d => u.keyOf d = k) := by
  cases e with
  | none => simp [put]
  | some d =>
      cases hf : s.find (u.keyOf d) with
      | some row =>
          by_cases hk : k = u.keyOf d
          · simp [put, has, hf, hk]
          · simp [put, has, hf, hk, Ne.symm hk]
      | none =>
          cases hc : u.creates with
          | false => simp [put, has, hf, hc]
          | true =>
              by_cases hk : k = u.keyOf d
              · simp [put, has, hf, hc, hk]
              · simp [put, has, hf, hc, hk, Ne.symm hk]

theorem mark_put_some (d : δ) :
    (s.put u (some d)).2 =
      if s.has (u.keyOf d) then .updated else if u.creates then .added else .rejected := by
  cases hf : s.find (u.keyOf d) with
  | some row => simp [put, has, hf]
  | none =>
      cases hc : u.creates with
      | false => simp [put, has, hf, hc]
      | true => simp [put, has, hf, hc]

theorem has_puts (k : κ) : ∀ (es : List (Option δ)) (s : Keyed κ ρ),
    (puts u es s).1.has k =
      (s.has k || u.creates && es.any fun e => e.any fun d => u.keyOf d = k)
  | [], s => by simp [puts]
  | e :: es, s => by
      rw [puts, has_puts k es, has_put]
      cases u.creates with
      | false => simp
      | true => simp [Bool.or_assoc]

/-- Entries are marked by the keys that have rows: a second table that has those of the
entries, if rows may be added, and else those of the first, marks as updated what the
first marked as added. -/
theorem marks_again : ∀ (es : List (Option δ)) (s t : Keyed κ ρ),
    (u.creates = true → ∀ d, some d ∈ es → t.has (u.keyOf d) = true) →
    (u.creates = false → ∀ k, t.has k = s.has k) →
    (puts u es t).2 = (puts u es s).2.map Mark.again
  | [], _, _, _, _ => rfl
  | e :: es, s, t, hhas, hsame => by
      have hmark : (t.put u e).2 = ((s.put u e).2).again := by
        cases e with
        | none => rfl
        | some d =>
            rw [mark_put_some, mark_put_some]
            cases hc : u.creates with
            | true =>
                rw [hhas hc d List.mem_cons_self]
                cases s.has (u.keyOf d) with
                | true => rfl
                | false => rfl
            | false =>
                rw [hsame hc]
                cases s.has (u.keyOf d) with
                | true => rfl
                | false => rfl
      have hrest : (puts u es (t.put u e).1).2 = (puts u es (s.put u e).1).2.map Mark.again := by
        refine marks_again es _ _ (fun hc d hd => ?_) fun hc k => ?_
        · rw [has_put, hhas hc d (List.mem_cons_of_mem _ hd), Bool.true_or]
        · rw [has_put, has_put, hc, hsame hc, Bool.false_and]
      rw [puts, puts, List.map_cons, hmark, hrest]

/-- The same entries taken in once more change the rows they were taken into before. -/
theorem puts_again (es : List (Option δ)) :
    (puts u es (puts u es s).1).2 = (puts u es s).2.map Mark.again := by
  refine marks_again u es s _ (fun hc d hd => ?_) fun hc k => ?_
  · rw [has_puts, hc, Bool.true_and, Bool.or_eq_true]
    right
    exact List.any_eq_true.mpr ⟨some d, hd, by simp⟩
  · rw [has_puts, hc, Bool.false_and, Bool.or_false]

end

end Keyed

/-! ## The table as a map -/

namespace Rows

variable {κ ρ δ : Type} [DecidableEq κ] (u : Upsert κ ρ δ) (t : Rows ρ)

/-- The first row of each key. -/
def keyed (key : ρ → κ) (t : Rows ρ) : Keyed κ ρ where
  find k := (matching key t k).head?
  next_id := t.next_id

theorem key_changed {d : δ} {row : Nat × ρ} {k : κ}
    (h : (matching u.key t k).head? = some row) (hk : k = u.keyOf d) :
    ∀ row' ∈ t.items.items, row'.1 = row.1 → u.key (u.change d row'.2) = u.key row'.2 := by
  intro row' hrow' hid
  have hmem := List.mem_of_head? h
  rw [row_unique hrow' (mem_matching.mp hmem).1 hid, u.key_change, key_of_mem_matching hmem, hk]

theorem put_keyed (e : Option δ) :
    (t.put u e).1.keyed u.key = ((t.keyed u.key).put u e).1 ∧
      (t.put u e).2 = ((t.keyed u.key).put u e).2 := by
  cases e with
  | none => exact ⟨rfl, rfl⟩
  | some d =>
      cases hm : (matching u.key t (u.keyOf d)).head? with
      | some row =>
          have hkeep := key_changed u t hm rfl
          have hfind : ∀ k, (matching u.key (t.update row.1 (u.change d)) k).head? =
              Function.update (fun k => (matching u.key t k).head?) (u.keyOf d)
                (some (row.1, u.change d row.2)) k := by
            intro k
            rw [matching_update hkeep, List.head?_map]
            by_cases hk : k = u.keyOf d
            · rw [hk, hm, Function.update_self]
              simp [changed]
            · rw [Function.update_of_ne hk]
              cases hk' : (matching u.key t k).head? with
              | none => rfl
              | some row' =>
                  have hne : row'.1 ≠ row.1 := fun hid => hk <| by
                    have hmem' := mem_matching.mp (List.mem_of_head? hk')
                    have hmem := mem_matching.mp (List.mem_of_head? hm)
                    rw [← hmem'.2, ← hmem.2, row_unique hmem'.1 hmem.1 hid]
                  simp [changed, hne]
          simp only [put, hm, Keyed.put, keyed, and_true]
          exact congrArg (fun f => Keyed.mk f t.next_id) (funext hfind)
      | none =>
          cases hc : u.creates with
          | false => simp [put, hm, Keyed.put, keyed, hc]
          | true =>
              have hfind : ∀ k, (matching u.key (t.insert (u.create t.next_id d)) k).head? =
                  Function.update (fun k => (matching u.key t k).head?) (u.keyOf d)
                    (some (t.next_id, u.create t.next_id d)) k := by
                intro k
                rw [matching_insert, u.key_create]
                by_cases hk : k = u.keyOf d
                · rw [hk, Function.update_self, if_pos rfl, List.head?_eq_none_iff.mp hm]
                  rfl
                · rw [Function.update_of_ne hk, if_neg (Ne.symm hk), List.append_nil]
              simp only [put, hm, Keyed.put, keyed, hc, if_true, and_true]
              exact congrArg (fun f => Keyed.mk f (t.next_id + 1)) (funext hfind)

theorem puts_keyed : ∀ (es : List (Option δ)) (t : Rows ρ),
    (puts u es t).1.keyed u.key = (Keyed.puts u es (t.keyed u.key)).1 ∧
      (puts u es t).2 = (Keyed.puts u es (t.keyed u.key)).2
  | [], _ => ⟨rfl, rfl⟩
  | e :: es, t => by
      have hput := put_keyed u t e
      have hrest := puts_keyed es (t.put u e).1
      rw [hput.1] at hrest
      rw [puts, Keyed.puts]
      exact ⟨hrest.1, by rw [hput.2, hrest.2]⟩

theorem matching_put_le_one (e : Option δ) (k : κ) :
    (matching u.key (t.put u e).1 k).length ≤ 1 ↔ (matching u.key t k).length ≤ 1 := by
  cases e with
  | none => exact Iff.rfl
  | some d =>
      cases hm : (matching u.key t (u.keyOf d)).head? with
      | some row =>
          simp only [put, hm]
          rw [matching_update (key_changed u t hm rfl), List.length_map]
      | none =>
          cases hc : u.creates with
          | false => simp [put, hm, hc]
          | true =>
              simp only [put, hm, hc, if_true]
              rw [matching_insert, u.key_create]
              by_cases hk : u.keyOf d = k
              · rw [← hk, List.head?_eq_none_iff.mp hm]
                simp
              · rw [if_neg hk, List.append_nil]

theorem matching_puts_le_one (k : κ) : ∀ (es : List (Option δ)) (t : Rows ρ),
    (matching u.key (puts u es t).1 k).length ≤ 1 ↔ (matching u.key t k).length ≤ 1
  | [], _ => Iff.rfl
  | e :: es, t => by
      rw [puts]
      exact (matching_puts_le_one k es _).trans (matching_put_le_one u t e k)

theorem ids_put_of_ne {e : Option δ} (h : (t.put u e).2 ≠ .added) : (t.put u e).1.ids = t.ids := by
  cases e with
  | none => rfl
  | some d =>
      cases hm : (matching u.key t (u.keyOf d)).head? with
      | some row => simp [put, hm]
      | none =>
          cases hc : u.creates with
          | false => simp [put, hm, hc]
          | true => simp [put, hm, hc] at h

theorem ids_puts_of_not_mem : ∀ {es : List (Option δ)} {t : Rows ρ},
    .added ∉ (puts u es t).2 → (puts u es t).1.ids = t.ids
  | [], _, _ => rfl
  | e :: es, t, h => by
      rw [puts, List.mem_cons, not_or] at h
      rw [puts, ids_puts_of_not_mem h.2, ids_put_of_ne u t (Ne.symm h.1)]

/-- Taking the same entries in once more adds no row and marks as updated what it marked
as added before. -/
theorem puts_again (es : List (Option δ)) :
    (puts u es (puts u es t).1).2 = (puts u es t).2.map Mark.again ∧
      (puts u es (puts u es t).1).1.ids = (puts u es t).1.ids := by
  have hmarks : (puts u es (puts u es t).1).2 = (puts u es t).2.map Mark.again := by
    rw [(puts_keyed u es _).2, (puts_keyed u es t).1, Keyed.puts_again, ← (puts_keyed u es t).2]
  refine ⟨hmarks, ids_puts_of_not_mem u fun hadded => ?_⟩
  rw [hmarks, List.mem_map] at hadded
  obtain ⟨m, -, hm⟩ := hadded
  cases m with
  | added => cases hm
  | updated => cases hm
  | rejected => cases hm

end Rows

end Sql
