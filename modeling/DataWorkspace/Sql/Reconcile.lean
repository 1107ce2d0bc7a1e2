import Mathlib.Logic.Basic

/-!
# Reconciling rights

A program that brings the rights on an object in line with what is wanted reads
what is held, compares, and revokes and grants the difference.  Two things limit
it.  It may not see every object, and on an object it sees it may only learn that
something is held.  `Reconciled` is the effect on one object of

* revoking everything where something is seen that is not wanted, and
* granting the right `g` where it is wanted and nothing is seen.

`Reconciled.granted_iff` says when that leaves `g` on exactly the wanted objects,
and `Reconciled.idem` that doing it twice is doing it once.
-/

namespace Sql

variable {P : Type} {sees wanted : Prop} {g : P} {has has' has'' : P → Prop}

/-- What is held on one object before and after it was reconciled. -/
def Reconciled (sees wanted : Prop) (g : P) (has has' : P → Prop) : Prop :=
  ∀ p, has' p ↔
    (has p ∧ ¬ (sees ∧ (∃ q, has q) ∧ ¬ wanted)) ∨ (p = g ∧ wanted ∧ ¬ (sees ∧ ∃ q, has q))

namespace Reconciled

/-- The right `g` is held where it is wanted and nowhere else exactly when it was
not missing beside other rights on a seen object, and was not held on an unseen
object that is not wanted. -/
theorem granted_iff (h : Reconciled sees wanted g has has') :
    (has' g ↔ wanted) ↔
      (sees → wanted → (∃ q, has q) → has g) ∧ (¬ sees → has g → wanted) := by
  rw [h g]
  by_cases hs : sees
  · by_cases hw : wanted
    · by_cases hq : ∃ q, has q
      · simp [hs, hw, hq]
      · simp [hs, hw, hq]
    · have hnone : ¬ (has g ∧ ¬ ∃ q, has q) := fun hx => hx.2 ⟨g, hx.1⟩
      simpa [hs, hw] using hnone
  · by_cases hw : wanted
    · simp [hs, hw]
    · simp [hs, hw]

theorem of_unseen (h : Reconciled sees wanted g has has') (hs : ¬ sees) (p : P) :
    has' p ↔ has p ∨ (p = g ∧ wanted) := by
  rw [h p]
  simp [hs]

theorem idem (h : Reconciled sees wanted g has has') (h' : Reconciled sees wanted g has' has'')
    (p : P) : has'' p ↔ has' p := by
  rw [h' p]
  constructor
  · rintro (⟨hp, -⟩ | ⟨rfl, hw, hns⟩)
    · exact hp
    · rw [h p]
      by_cases hseen : sees ∧ ∃ q, has q
      · -- what was seen and wanted is still there, so the second pass sees it too
        obtain ⟨q, hq⟩ := hseen.2
        have hq' : has' q := (h q).mpr (.inl ⟨hq, fun hx => hx.2.2 hw⟩)
        exact absurd ⟨hseen.1, q, hq'⟩ hns
      · exact .inr ⟨rfl, hw, hseen⟩
  · intro hp
    refine .inl ⟨hp, fun hx => ?_⟩
    rcases (h p).mp hp with ⟨hp₀, hkept⟩ | ⟨-, hw, -⟩
    · exact hkept ⟨hx.1, ⟨p, hp₀⟩, hx.2.2⟩
    · exact hx.2.2 hw

end Reconciled

end Sql
