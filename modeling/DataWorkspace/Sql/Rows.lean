import DataWorkspace.Py.Collections

/-!
# Rows of a table

The rows of a table have primary keys that a sequence gives out.  `INSERT` adds a row at
the end, `UPDATE` changes the row of a primary key and `DELETE` takes rows out.
-/

namespace Sql

open Py

structure Rows (ρ : Type) where
  items : Dict Nat ρ
  next_id : Nat
  /-- The sequence has given out the keys that are there. -/
  below : ∀ row ∈ items.items, row.1 < next_id

namespace Rows

variable {κ ρ : Type} [DecidableEq κ]

/-- The primary keys. -/
def ids (t : Rows ρ) : List Nat := t.items.items.map Prod.fst

def matching (key : ρ → κ) (t : Rows ρ) (k : κ) : List (Nat × ρ) :=
  t.items.items.filter fun row => key row.2 = k

theorem next_id_not_mem (t : Rows ρ) : t.next_id ∉ t.ids := by
  intro h
  obtain ⟨row, hrow, hid⟩ := List.mem_map.mp h
  have := t.below row hrow
  omega

theorem setItem_of_not_mem {id : Nat} {r : ρ} : ∀ {items : List (Nat × ρ)},
    id ∉ items.map Prod.fst → setItem id r items = items ++ [(id, r)]
  | [], _ => rfl
  | (id', r') :: items, h => by
      rw [List.map_cons, List.mem_cons, not_or] at h
      rw [setItem, if_neg (Ne.symm h.1), setItem_of_not_mem h.2, List.cons_append]

/-- `INSERT`. -/
def insert (t : Rows ρ) (r : ρ) : Rows ρ where
  items := t.items.set t.next_id r
  next_id := t.next_id + 1
  below := by
    intro row hrow
    have hset : (t.items.set t.next_id r).items = t.items.items ++ [(t.next_id, r)] :=
      setItem_of_not_mem t.next_id_not_mem
    rw [hset, List.mem_append, List.mem_singleton] at hrow
    rcases hrow with hrow | rfl
    · have := t.below row hrow
      omega
    · exact Nat.lt_succ_self _

/-- A row that is changed if it has the primary key. -/
def changed (id : Nat) (f : ρ → ρ) (row : Nat × ρ) : Nat × ρ :=
  (row.1, if row.1 = id then f row.2 else row.2)

/-- `UPDATE … WHERE id = …`. -/
def update (t : Rows ρ) (id : Nat) (f : ρ → ρ) : Rows ρ where
  items := ⟨t.items.items.map (changed id f), by
    rw [List.map_map]
    exact t.items.nodup⟩
  next_id := t.next_id
  below := by
    intro row hrow
    obtain ⟨row₀, hrow₀, rfl⟩ := List.mem_map.mp hrow
    exact t.below row₀ hrow₀

section

variable (key : ρ → κ) (t : Rows ρ)

theorem items_insert (r : ρ) : (t.insert r).items.items = t.items.items ++ [(t.next_id, r)] :=
  setItem_of_not_mem t.next_id_not_mem

@[simp] theorem ids_insert (r : ρ) : (t.insert r).ids = t.ids ++ [t.next_id] := by
  simp [ids, items_insert]

@[simp] theorem ids_update (id : Nat) (f : ρ → ρ) : (t.update id f).ids = t.ids := by
  simp [ids, update, changed]

theorem matching_insert (r : ρ) (k : κ) :
    matching key (t.insert r) k =
      matching key t k ++ if key r = k then [(t.next_id, r)] else [] := by
  rw [matching, items_insert, List.filter_append, matching]
  by_cases h : key r = k
  · simp [h]
  · simp [h]

variable {key t}

theorem mem_matching {k : κ} {row : Nat × ρ} :
    row ∈ matching key t k ↔ row ∈ t.items.items ∧ key row.2 = k := by
  simp [matching]

theorem key_of_mem_matching {k : κ} {row : Nat × ρ} (h : row ∈ matching key t k) :
    key row.2 = k :=
  (mem_matching.mp h).2

theorem row_unique {row row' : Nat × ρ} (h : row ∈ t.items.items) (h' : row' ∈ t.items.items)
    (hid : row.1 = row'.1) : row = row' :=
  List.inj_on_of_nodup_map t.items.nodup h h' hid

theorem matching_update {id : Nat} {f : ρ → ρ}
    (hkey : ∀ row ∈ t.items.items, row.1 = id → key (f row.2) = key row.2) (k : κ) :
    matching key (t.update id f) k = (matching key t k).map (changed id f) := by
  have hsame : ∀ row ∈ t.items.items,
      decide (key (changed id f row).2 = k) = decide (key row.2 = k) := by
    intro row hrow
    by_cases hid : row.1 = id
    · simp [changed, hid, hkey row hrow hid]
    · simp [changed, hid]
  rw [matching, update, List.filter_map, matching]
  exact congrArg _ (List.filter_congr hsame)

end

/-! ## Rows that are taken out -/

/-- `DELETE` of the rows that satisfy `p`. -/
def delete (t : Rows ρ) (p : ρ → Bool) : Rows ρ where
  items := ⟨t.items.items.filter fun row => !p row.2,
    t.items.nodup.sublist (List.filter_sublist.map Prod.fst)⟩
  next_id := t.next_id
  below := fun row hrow => t.below row (List.mem_filter.mp hrow).1

section

variable (q : ρ → Bool) (t : Rows ρ)

/-- The rows that satisfy `q`, with their primary keys. -/
def those : List (Nat × ρ) := t.items.items.filter fun row => q row.2

variable {q t}

theorem those_insert {r : ρ} (h : q r = false) : (t.insert r).those q = t.those q := by
  simp [those, items_insert, h]

theorem those_delete {p : ρ → Bool} (h : ∀ r, p r = true → q r = false) :
    (t.delete p).those q = t.those q := by
  rw [those, delete, List.filter_filter, those]
  refine List.filter_congr fun row _ => ?_
  cases hp : p row.2 with
  | false => simp
  | true => simp [h _ hp]

end

end Rows

end Sql
