import Mathlib.Data.List.Nodup

/-!
# Method resolution

Python orders the ancestors of a class by merging the orders of its bases.  The merge
takes the first head that is in no tail.

`mro_pair` is the order of a class with two bases that share nothing but the root.  All
ancestors of the first base come before the second base.  So a method that an ancestor of
the first defines, and that does not call `super`, hides that of the second.
-/

namespace Py

variable {C : Type} [DecidableEq C]

/-- The first head that is in no tail. -/
def candidate (ls : List (List C)) : Option C :=
  (ls.filterMap List.head?).find? fun c => ls.all fun l => !l.tail.contains c

/-- A list without the class that was taken. -/
def taken (c : C) (l : List C) : List C := if l.head? = some c then l.tail else l

/-- The merge, in so many steps at most.  It fails if every head is in a tail. -/
def merge : Nat → List (List C) → Option (List C)
  | 0, ls => if ls.all List.isEmpty then some [] else none
  | n + 1, ls =>
      if ls.all List.isEmpty then some []
      else (candidate ls).bind fun c => (merge n (ls.map (taken c))).map (c :: ·)

/-- The order of a class with bases of these orders. -/
def mro (c : C) (orders : List (List C)) : Option (List C) :=
  let ls := orders ++ [orders.filterMap List.head?]
  (merge ls.flatten.length ls).map (c :: ·)

/-! ## One step of the merge -/

theorem merge_empty (n : Nat) {ls : List (List C)} (h : ls.all List.isEmpty = true) :
    merge n ls = some [] := by
  cases n with
  | zero => rw [merge, if_pos h]
  | succ n => rw [merge, if_pos h]

theorem merge_succ {n : Nat} {ls : List (List C)} {c : C} (h : candidate ls = some c) :
    merge (n + 1) ls = (merge n (ls.map (taken c))).map (c :: ·) := by
  have hne : ¬ ls.all List.isEmpty = true := by
    intro hempty
    obtain ⟨l, hl, hc⟩ := List.mem_filterMap.mp (List.mem_of_find?_eq_some h)
    have hnil := List.all_eq_true.mp hempty l hl
    rw [List.isEmpty_iff.mp hnil] at hc
    cases hc
  rw [merge, if_neg hne, h]
  rfl

theorem candidate_of_head {c : C} {l : List C} {ls : List (List C)}
    (h : ∀ m ∈ (c :: l) :: ls, c ∉ m.tail) : candidate ((c :: l) :: ls) = some c := by
  rw [candidate, List.filterMap_cons_some (f := List.head?) (b := c) rfl, List.find?_cons_of_pos]
  refine List.all_eq_true.mpr fun m hm => ?_
  simpa using h m hm

theorem taken_cons (c : C) (l : List C) : taken c (c :: l) = l := by simp [taken]

theorem taken_of_ne {c d : C} {l : List C} (h : d ≠ c) : taken c (d :: l) = d :: l := by
  simp [taken, h]

theorem taken_nil (c : C) : taken c [] = [] := by simp [taken]

/-! ## One base -/

theorem merge_alone {l : List C} (hl : l.Nodup) : ∀ {n : Nat}, l.length ≤ n →
    merge n [l, []] = some l := by
  induction l with
  | nil => exact fun _ => merge_empty _ rfl
  | cons c l ih =>
      intro n hn
      obtain ⟨n, rfl⟩ : ∃ k, n = k + 1 := ⟨n - 1, by simp at hn; omega⟩
      obtain ⟨hc, hl⟩ := List.nodup_cons.mp hl
      rw [merge_succ (candidate_of_head (by simpa using hc))]
      simp only [List.map_cons, List.map_nil, taken_cons, taken_nil]
      rw [ih hl (by simpa using hn)]
      rfl

theorem mro_single (c : C) {order : List C} (h : order.Nodup) :
    mro c [order] = some (c :: order) := by
  cases order with
  | nil => rfl
  | cons base ancestors =>
      obtain ⟨hbase, hnodup⟩ := List.nodup_cons.mp h
      have hlength : ([base :: ancestors, [base]] : List (List C)).flatten.length =
          ancestors.length + 1 + 1 := by simp
      show (merge ([base :: ancestors, [base]] : List (List C)).flatten.length
        [base :: ancestors, [base]]).map _ = _
      rw [hlength, merge_succ (candidate_of_head (by simpa using hbase))]
      simp only [List.map_cons, List.map_nil, taken_cons]
      rw [merge_alone hnodup (Nat.le_succ _)]
      rfl

/-! ## Two bases -/

theorem merge_second {root : C} {m : List C} (hm : (m ++ [root]).Nodup) : ∀ {n : Nat},
    m.length + 1 ≤ n → merge n [[root], m ++ [root], []] = some (m ++ [root]) := by
  induction m with
  | nil =>
      intro n hn
      obtain ⟨n, rfl⟩ : ∃ k, n = k + 1 := ⟨n - 1, by omega⟩
      rw [merge_succ (candidate_of_head (by simp))]
      simp only [List.map_cons, List.map_nil, List.nil_append, taken_cons, taken_nil]
      rw [merge_empty _ rfl]
      rfl
  | cons c m ih =>
      intro n hn
      obtain ⟨n, rfl⟩ : ∃ k, n = k + 1 := ⟨n - 1, by omega⟩
      obtain ⟨hc, hm⟩ := List.nodup_cons.mp hm
      have hroot : root ≠ c := fun h => hc (by simp [h])
      rw [merge_succ (c := c) (by simp_all [candidate])]
      simp only [List.map_cons, List.map_nil, List.cons_append, taken_cons, taken_nil,
        taken_of_ne hroot]
      rw [ih hm (by simpa using hn)]
      rfl

theorem merge_first {root c : C} {l m : List C} (hl : (l ++ [root]).Nodup)
    (hm : (c :: m ++ [root]).Nodup) (hdisjoint : l.Disjoint (c :: m)) : ∀ {n : Nat},
    l.length + m.length + 2 ≤ n →
      merge n [l ++ [root], c :: m ++ [root], [c]] = some (l ++ c :: m ++ [root]) := by
  induction l with
  | nil =>
      intro n hn
      obtain ⟨n, rfl⟩ : ∃ k, n = k + 1 := ⟨n - 1, by omega⟩
      obtain ⟨hc, hm⟩ := List.nodup_cons.mp hm
      have hroot : root ≠ c := fun h => hc (by simp [h])
      rw [merge_succ (c := c) (by simp_all [candidate])]
      simp only [List.map_cons, List.map_nil, List.nil_append, List.cons_append, taken_cons,
        taken_of_ne hroot]
      rw [merge_second hm (by simp at hn; omega)]
      rfl
  | cons b l ih =>
      intro n hn
      obtain ⟨n, rfl⟩ : ∃ k, n = k + 1 := ⟨n - 1, by omega⟩
      obtain ⟨hb, hl⟩ := List.nodup_cons.mp hl
      have hroot : b ≠ root := fun h => hb (by simp [h])
      obtain ⟨hbm, hdisjoint⟩ := List.disjoint_cons_left.mp hdisjoint
      have hbc : c ≠ b := fun h => hbm (by simp [h])
      have hbm' : b ∉ m := fun h => hbm (List.mem_cons_of_mem _ h)
      rw [List.cons_append, merge_succ (candidate_of_head (by simp_all))]
      simp only [List.map_cons, List.map_nil, List.cons_append, taken_cons, taken_of_ne hbc]
      have hrest := ih hl hdisjoint (n := n) (by simp at hn; omega)
      rw [List.cons_append] at hrest
      rw [hrest]
      rfl

/-- A class with two bases that share nothing but the root: all ancestors of the first
come before the second. -/
theorem mro_pair (d : C) {root b c : C} {l m : List C} (hl : (b :: l ++ [root]).Nodup)
    (hm : (c :: m ++ [root]).Nodup) (hdisjoint : (b :: l).Disjoint (c :: m)) :
    mro d [b :: l ++ [root], c :: m ++ [root]] = some (d :: b :: l ++ c :: m ++ [root]) := by
  obtain ⟨hb, hl⟩ := List.nodup_cons.mp hl
  obtain ⟨hbm, hdisjoint⟩ := List.disjoint_cons_left.mp hdisjoint
  have hroot : b ≠ root := fun h => hb (by simp [h])
  have hbc : c ≠ b := fun h => hbm (by simp [h])
  have hbm' : b ∉ m := fun h => hbm (List.mem_cons_of_mem _ h)
  unfold mro
  simp only [List.cons_append, List.nil_append, List.filterMap_cons, List.head?_cons,
    List.filterMap_nil, List.flatten_cons, List.flatten_nil, List.append_nil,
    List.length_cons, List.length_append, List.length_nil]
  rw [show l.length + (0 + 1) + (m.length + (0 + 1) + (0 + 1 + 1) + 1) + 1 =
    (l.length + m.length + 5) + 1 by omega]
  rw [merge_succ (candidate_of_head (by simp_all))]
  simp only [List.map_cons, List.map_nil, taken_cons, taken_of_ne hbc]
  have hrest := merge_first hl hm hdisjoint (n := l.length + m.length + 5) (by omega)
  rw [List.cons_append] at hrest
  rw [hrest]
  simp

end Py
