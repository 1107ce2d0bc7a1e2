import DataWorkspace.Py.Grouping

/-!
# The first elements in an order

`firsts key n l` are the `n` elements of a list with the smallest keys.  Where no two keys are the
same, an element is one of them if and only if fewer than `n` elements have a smaller key
(`mem_firsts_iff`).
-/

namespace Order

open Py

variable {α κ : Type} [LinearOrder κ] {key : α → κ} {n : Nat} {l : List α}

/-- The first `n` elements by a key. -/
def firsts (key : α → κ) (n : Nat) (l : List α) : List α := (sortedBy key l).take n

theorem nodup_firsts (hnodup : l.Nodup) : (firsts key n l).Nodup :=
  ((sortedBy_perm key l).nodup_iff.mpr hnodup).sublist (List.take_sublist _ _)

theorem mem_of_mem_firsts {x : α} (h : x ∈ firsts key n l) : x ∈ l :=
  (sortedBy_perm key l).mem_iff.mp (List.mem_of_mem_take h)

theorem countP_lt {x : α} {as bs : List α} (hkey : Function.Injective key)
    (hsorted : (as ++ x :: bs).Pairwise fun a b => key a ≤ key b)
    (hnodup : (as ++ x :: bs).Nodup) :
    (as ++ x :: bs).countP (fun y => key y < key x) = as.length := by
  have hfront : ∀ a ∈ as, decide (key a < key x) = true := by
    intro a ha
    have hle : key a ≤ key x := (List.pairwise_append.mp hsorted).2.2 a ha x List.mem_cons_self
    have hne : a ≠ x := (List.nodup_append.mp hnodup).2.2 a ha x List.mem_cons_self
    exact decide_eq_true (lt_of_le_of_ne hle fun h => hne (hkey h))
  have hback : ∀ b ∈ x :: bs, ¬ decide (key b < key x) = true := by
    intro b hb
    rw [decide_eq_true_eq, not_lt]
    rcases List.mem_cons.mp hb with rfl | hb
    · exact le_refl _
    · exact List.rel_of_pairwise_cons (List.pairwise_append.mp hsorted).2.1 hb
  rw [List.countP_append, List.countP_eq_length.mpr hfront, List.countP_eq_zero.mpr hback,
    Nat.add_zero]

theorem mem_firsts_iff (hkey : Function.Injective key) (hnodup : l.Nodup) {x : α} :
    x ∈ firsts key n l ↔ x ∈ l ∧ l.countP (fun y => key y < key x) < n := by
  have hperm := sortedBy_perm key l
  have hsorted := pairwise_sortedBy key l
  have hnodup' : (sortedBy key l).Nodup := hperm.nodup_iff.mpr hnodup
  rw [firsts, ← hperm.countP_eq, ← hperm.mem_iff]
  constructor
  · intro hmem
    have hx := List.mem_of_mem_take hmem
    obtain ⟨as, bs, hsplit⟩ := List.append_of_mem hx
    rw [hsplit] at hsorted hnodup' hmem hx ⊢
    rw [countP_lt hkey hsorted hnodup']
    refine ⟨hx, ?_⟩
    by_contra hlong
    rw [List.take_append_of_le_length (by omega)] at hmem
    exact (List.nodup_append.mp hnodup').2.2 x (List.mem_of_mem_take hmem) x List.mem_cons_self rfl
  · rintro ⟨hx, hcount⟩
    obtain ⟨as, bs, hsplit⟩ := List.append_of_mem hx
    rw [hsplit] at hsorted hnodup' hcount ⊢
    rw [countP_lt hkey hsorted hnodup'] at hcount
    obtain ⟨k, hk⟩ : ∃ k, n - as.length = k + 1 := ⟨n - as.length - 1, by omega⟩
    rw [List.take_append, hk, List.take_succ_cons]
    exact List.mem_append_right _ List.mem_cons_self

end Order
