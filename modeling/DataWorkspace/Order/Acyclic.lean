import Mathlib.Order.WellFoundedSet

/-!
# Acyclic relations

A relation is acyclic when no element reaches itself.  An edge can be added as long
as its target does not reach its source already.  An acyclic relation with finitely
many targets has no infinite path.
-/

namespace Order

open Relation

variable {α : Type} {r r' : α → α → Prop} {a b : α}

/-- No element reaches itself. -/
def Acyclic (r : α → α → Prop) : Prop := ∀ a, ¬ TransGen r a a

namespace Acyclic

theorem mono (h : Acyclic r) (hr : ∀ x y, r' x y → r x y) : Acyclic r' := fun x hx =>
  h x (TransGen.mono hr x x hx)

/-- A path along one more edge is a path without it, or one that comes to its source
and goes on from its target. -/
private theorem path_of_edge (hr : ∀ x y, r' x y → r x y ∨ x = a ∧ y = b)
    (hba : ¬ ReflTransGen r b a) {x y : α} (h : TransGen r' x y) :
    TransGen r x y ∨ ReflTransGen r x a ∧ ReflTransGen r b y := by
  induction h with
  | single hxy =>
      rcases hr _ _ hxy with hxy | ⟨rfl, rfl⟩
      · exact Or.inl (.single hxy)
      · exact Or.inr ⟨.refl, .refl⟩
  | tail _ hyz ih =>
      rcases hr _ _ hyz with hyz | ⟨rfl, rfl⟩
      · rcases ih with ih | ⟨hxa, hby⟩
        · exact Or.inl (ih.tail hyz)
        · exact Or.inr ⟨hxa, hby.tail hyz⟩
      · rcases ih with ih | ⟨_, hby⟩
        · exact Or.inr ⟨ih.to_reflTransGen, .refl⟩
        · exact absurd hby hba

theorem of_edge (h : Acyclic r) (hr : ∀ x y, r' x y → r x y ∨ x = a ∧ y = b)
    (hba : ¬ ReflTransGen r b a) : Acyclic r' := by
  intro x hx
  rcases path_of_edge hr hba hx with hx | ⟨hxa, hbx⟩
  · exact h x hx
  · exact hba (hbx.trans hxa)

theorem not_reaches (h : Acyclic r') (hr : ∀ x y, r x y → r' x y) (hab : r' a b) :
    ¬ ReflTransGen r b a := fun hba =>
  h a (.head' hab (ReflTransGen.mono hr b a hba))

/-- Paths from an element end, if the relation has finitely many targets. -/
theorem acc (h : Acyclic r) (hf : {y | ∃ x, r x y}.Finite) (a : α) :
    Acc (fun y x => r x y) a := by
  have hstrict : IsStrictOrder α (TransGen fun y x => r x y) :=
    { irrefl := fun x hx => h x (by simpa using transGen_swap.mp hx)
      trans := fun _ _ _ => TransGen.trans }
  refine (Set.WellFoundedOn.acc_iff_wellFoundedOn.out 0 2).mpr ?_
  have hsub : {y | TransGen (fun y x => r x y) y a} ⊆ {y | ∃ x, r x y} := by
    intro y hy
    obtain ⟨x, hyx, _⟩ := TransGen.head'_iff.mp hy
    exact ⟨x, hyx⟩
  have hwf : {y | TransGen (fun y x => r x y) y a}.WellFoundedOn
      (TransGen fun y x => r x y) := (hf.subset hsub).wellFoundedOn
  exact hwf.mono (fun _ _ h => TransGen.single h) (le_refl _)

end Acyclic

end Order
