import Mathlib.Logic.Basic

/-!
# Machines that take steps

A machine takes an action where it can.  `Run` counts the steps of a run whose actions are all
allowed.  `Run.invariant` is the rule for what every step keeps, and `Run.add_le` bounds the
length of a run by what every step lowers.  `after` is the state that some actions lead to, with
the same rules.
-/

namespace Async

variable {σ α : Type}

/-- What a state becomes by an action, if it can take it. -/
structure Machine (σ α : Type) where
  step : σ → α → Option σ

namespace Machine

variable {m : Machine σ α} {ok : σ → α → Prop}

/-- Some number of steps, with actions that are allowed where they are taken. -/
inductive Run (m : Machine σ α) (ok : σ → α → Prop) (s₀ : σ) : Nat → σ → Prop where
  | refl : Run m ok s₀ 0 s₀
  | step {n : Nat} {s s' : σ} {a : α} : Run m ok s₀ n s → ok s a → m.step s a = some s' →
      Run m ok s₀ (n + 1) s'

theorem Run.invariant {P : σ → Prop} {s₀ s : σ} {n : Nat} (h : m.Run ok s₀ n s) (h₀ : P s₀)
    (hstep : ∀ {s a s'}, P s → ok s a → m.step s a = some s' → P s') : P s := by
  induction h with
  | refl => exact h₀
  | step _ ha hs ih => exact hstep ih ha hs

theorem Run.add_le {P : σ → Prop} {f : σ → Nat} {s₀ s : σ} {n : Nat} (h : m.Run ok s₀ n s)
    (h₀ : P s₀) (hstep : ∀ {s a s'}, P s → ok s a → m.step s a = some s' → P s' ∧ f s' < f s) :
    n + f s ≤ f s₀ := by
  have hP {n : Nat} {s : σ} (h : m.Run ok s₀ n s) : P s :=
    h.invariant h₀ fun hs ha hs' => (hstep hs ha hs').1
  induction h with
  | refl => simp
  | step hrun ha hs ih =>
      have hlt := (hstep (hP hrun) ha hs).2
      omega

/-- The state that actions lead to, if each can be taken. -/
def after (m : Machine σ α) : σ → List α → Option σ
  | s, [] => some s
  | s, a :: actions => (m.step s a).bind fun s' => m.after s' actions

theorem after_cons {s s' : σ} {a : α} {actions : List α} :
    m.after s (a :: actions) = some s' ↔
      ∃ s₁, m.step s a = some s₁ ∧ m.after s₁ actions = some s' :=
  Option.bind_eq_some_iff

theorem after_invariant {P : σ → Prop} (hstep : ∀ {s a s'}, P s → m.step s a = some s' → P s') :
    ∀ {actions : List α} {s s' : σ}, P s → m.after s actions = some s' → P s'
  | [], _, _, hs, h => by
      cases h
      exact hs
  | a :: actions, s, s', hs, h => by
      obtain ⟨s₁, hs₁, hrest⟩ := after_cons.mp h
      exact after_invariant hstep (hstep hs hs₁) hrest

theorem after_countP_le {kind : α → Bool} {f : σ → Nat}
    (hkind : ∀ (s : σ) (a : α) (s' : σ), kind a = true → m.step s a = some s' → f s' < f s)
    (hother : ∀ (s : σ) (a : α) (s' : σ), kind a = false → m.step s a = some s' → f s' ≤ f s) :
    ∀ {actions : List α} {s s' : σ}, m.after s actions = some s' →
      actions.countP kind + f s' ≤ f s
  | [], _, _, h => by
      cases h
      simp
  | a :: actions, s, s', h => by
      obtain ⟨s₁, hs₁, hrest⟩ := after_cons.mp h
      have ih := after_countP_le hkind hother hrest
      cases ha : kind a with
      | true =>
          have hlt := hkind s a s₁ ha hs₁
          rw [List.countP_cons_of_pos ha]
          omega
      | false =>
          have hle := hother s a s₁ ha hs₁
          rw [List.countP_cons_of_neg (by simp [ha])]
          omega

end Machine

end Async
