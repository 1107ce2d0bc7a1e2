import DataWorkspace.Py.Collections

/-!
# Loops over items with parts of their own

A loop takes its items one after the other and ends at the first one that raises.  Each item
only looks at a part of the state and only changes that part, and the parts of two items are
apart.  So what becomes of an item can be told from the state before the loop.

`Separate.ends_iff` says when every item is reached and done, and `Separate.settles_iff` when
a second loop finds nothing left to do.
-/

namespace Sql

variable {σ α ν ε : Type}

/-- What a loop leaves behind, and what it raised. -/
structure Looped (σ ε : Type) where
  state : σ
  raised : Option ε

/-- Do the items in order until one raises. -/
def loop (step : α → σ → Except ε σ) : List α → σ → Looped σ ε
  | [], s => ⟨s, none⟩
  | a :: items, s =>
      match step a s with
      | .error e => ⟨s, some e⟩
      | .ok s' => loop step items s'

/-- The items have parts of the state of their own: what a step makes of the part of its item
can be told from that part. -/
structure Separate (step : α → σ → Except ε σ) (view : α → σ → ν)
    (outcome : α → ν → Except ε ν) (Apart : α → α → Prop) : Prop where
  own : ∀ a s, (step a s).map (view a) = outcome a (view a s)
  other : ∀ {a a' s s'}, Apart a a' → step a s = .ok s' → view a' s' = view a' s
  symm : ∀ {a a'}, Apart a a' → Apart a' a

namespace Separate

variable {step : α → σ → Except ε σ} {view : α → σ → ν} {outcome : α → ν → Except ε ν}
  {Apart : α → α → Prop}

theorem outcome_of_ok (h : Separate step view outcome Apart) {a : α} {s s' : σ}
    (hstep : step a s = .ok s') : outcome a (view a s) = .ok (view a s') := by
  rw [← h.own, hstep]
  rfl

theorem outcome_of_error (h : Separate step view outcome Apart) {a : α} {s : σ} {e : ε}
    (hstep : step a s = .error e) : outcome a (view a s) = .error e := by
  rw [← h.own, hstep]
  rfl

theorem view_loop_of_apart (h : Separate step view outcome Apart) {a : α} :
    ∀ {items : List α} {s : σ}, (∀ a' ∈ items, Apart a' a) →
      view a (loop step items s).state = view a s
  | [], _, _ => rfl
  | a' :: items, s, hapart => by
      cases hstep : step a' s with
      | error e => simp [loop, hstep]
      | ok s' =>
          simp only [loop, hstep]
          rw [view_loop_of_apart h fun a'' ha => hapart a'' (List.mem_cons_of_mem _ ha)]
          exact h.other (hapart a' List.mem_cons_self) hstep

theorem ends_iff (h : Separate step view outcome Apart) : ∀ {items : List α} {s : σ},
    items.Pairwise Apart →
    ((loop step items s).raised = none ↔ ∀ a ∈ items, ∃ v, outcome a (view a s) = .ok v)
  | [], _, _ => by simp [loop]
  | a :: items, s, hp => by
      rw [List.pairwise_cons] at hp
      rw [List.forall_mem_cons]
      cases hstep : step a s with
      | error e =>
          rw [h.outcome_of_error hstep]
          simp [loop, hstep]
      | ok s' =>
          have hrest : (∀ a' ∈ items, ∃ v, outcome a' (view a' s') = .ok v) ↔
              ∀ a' ∈ items, ∃ v, outcome a' (view a' s) = .ok v :=
            forall₂_congr fun a' ha' => by rw [h.other (hp.1 a' ha') hstep]
          simp only [loop, hstep]
          rw [ends_iff h hp.2, hrest]
          exact ⟨fun hr => ⟨⟨_, h.outcome_of_ok hstep⟩, hr⟩, fun hr => hr.2⟩

theorem outcome_eq (h : Separate step view outcome Apart) {a : α} :
    ∀ {items : List α} {s : σ}, items.Pairwise Apart → (loop step items s).raised = none →
      a ∈ items → outcome a (view a s) = .ok (view a (loop step items s).state)
  | a' :: items, s, hp, hends, hmem => by
      rw [List.pairwise_cons] at hp
      cases hstep : step a' s with
      | error e => simp [loop, hstep] at hends
      | ok s' =>
          simp only [loop, hstep] at hends ⊢
          rcases List.mem_cons.mp hmem with rfl | hmem
          · rw [h.view_loop_of_apart fun b hb => h.symm (hp.1 b hb)]
            exact h.outcome_of_ok hstep
          · rw [← outcome_eq h hp.2 hends hmem, h.other (hp.1 a hmem) hstep]

/-- Both loops do every item, and the second one leaves everything as it is, exactly when this
can be said of each item by itself. -/
theorem settles_iff (h : Separate step view outcome Apart) {items : List α} {s : σ}
    (hp : items.Pairwise Apart) :
    ((loop step items s).raised = none ∧
      (loop step items (loop step items s).state).raised = none ∧
      ∀ a ∈ items, view a (loop step items (loop step items s).state).state =
        view a (loop step items s).state) ↔
    ∀ a ∈ items, ∃ v, outcome a (view a s) = .ok v ∧ outcome a v = .ok v := by
  constructor
  · rintro ⟨hends, hagain, hsame⟩ a ha
    have hsecond := h.outcome_eq hp hagain ha
    rw [hsame a ha] at hsecond
    exact ⟨_, h.outcome_eq hp hends ha, hsecond⟩
  · intro hall
    have hends : (loop step items s).raised = none :=
      (h.ends_iff hp).mpr fun a ha => (hall a ha).imp fun v hv => hv.1
    have hstays : ∀ a ∈ items, outcome a (view a (loop step items s).state) =
        .ok (view a (loop step items s).state) := fun a ha => by
      obtain ⟨v, hv, hv'⟩ := hall a ha
      have heq := h.outcome_eq hp hends ha
      rw [hv] at heq
      rw [← Except.ok.inj heq]
      exact hv'
    have hagain : (loop step items (loop step items s).state).raised = none :=
      (h.ends_iff hp).mpr fun a ha => ⟨_, hstays a ha⟩
    refine ⟨hends, hagain, fun a ha => ?_⟩
    have heq := h.outcome_eq hp hagain ha
    rw [hstays a ha] at heq
    exact (Except.ok.inj heq).symm

end Separate

end Sql
