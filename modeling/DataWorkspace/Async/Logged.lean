import Mathlib.Order.Basic

/-!
# Programs that log what they do

A program gives a value or raises, and leaves a log of the effects that it had on the way.
What comes after an exception has no effect.
-/

namespace Async

/-- The effects of a program, and how it ended. -/
structure Logged (ω ε α : Type) where
  log : List ω
  result : Except ε α

namespace Logged

variable {ω ε α β : Type}

protected def pure (a : α) : Logged ω ε α := ⟨[], .ok a⟩

protected def bind (x : Logged ω ε α) (f : α → Logged ω ε β) : Logged ω ε β :=
  match x.result with
  | .ok a => ⟨x.log ++ (f a).log, (f a).result⟩
  | .error e => ⟨x.log, .error e⟩

instance : Monad (Logged ω ε) where
  pure := Logged.pure
  bind := Logged.bind

/-- An effect, and what it comes to. -/
def perform (o : ω) (answer : Except ε α) : Logged ω ε α := ⟨[o], answer⟩

/-- What has no effect. -/
def quietly (answer : Except ε α) : Logged ω ε α := ⟨[], answer⟩

@[simp] theorem log_pure (a : α) : (pure a : Logged ω ε α).log = [] := rfl

@[simp] theorem result_pure (a : α) : (pure a : Logged ω ε α).result = .ok a := rfl

@[simp] theorem log_perform (o : ω) (answer : Except ε α) : (perform o answer).log = [o] := rfl

@[simp] theorem log_quietly (answer : Except ε α) : (quietly answer : Logged ω ε α).log = [] := rfl

@[simp] theorem result_quietly (answer : Except ε α) :
    (quietly answer : Logged ω ε α).result = answer := rfl

@[simp] theorem result_perform (o : ω) (answer : Except ε α) :
    (perform o answer).result = answer := rfl

@[simp] theorem quietly_ok_bind (a : α) (f : α → Logged ω ε β) :
    (quietly (.ok a) >>= f : Logged ω ε β) = f a := rfl

theorem log_bind_ok {x : Logged ω ε α} {a : α} (h : x.result = .ok a) (f : α → Logged ω ε β) :
    (x >>= f).log = x.log ++ (f a).log := by
  change (Logged.bind x f).log = _
  rw [Logged.bind, h]

theorem log_bind_error {x : Logged ω ε α} {e : ε} (h : x.result = .error e)
    (f : α → Logged ω ε β) : (x >>= f).log = x.log := by
  change (Logged.bind x f).log = _
  rw [Logged.bind, h]

theorem mem_log_bind {x : Logged ω ε α} {f : α → Logged ω ε β} {o : ω} :
    o ∈ (x >>= f).log ↔ o ∈ x.log ∨ ∃ a, x.result = .ok a ∧ o ∈ (f a).log := by
  change o ∈ (Logged.bind x f).log ↔ _
  unfold Logged.bind
  cases hx : x.result with
  | ok a =>
      constructor
      · intro h
        rcases List.mem_append.mp h with h | h
        · exact .inl h
        · exact .inr ⟨a, rfl, h⟩
      · rintro (h | ⟨b, hb, h⟩)
        · exact List.mem_append_left _ h
        · cases hb
          exact List.mem_append_right _ h
  | error e =>
      constructor
      · exact .inl
      · rintro (h | ⟨b, hb, _⟩)
        · exact h
        · cases hb

theorem log_bind_nil {x : Logged ω ε α} {f : α → Logged ω ε β} (hx : x.log = [])
    (hf : ∀ a, (f a).log = []) : (x >>= f).log = [] := by
  refine List.eq_nil_iff_forall_not_mem.mpr fun o h => ?_
  rcases mem_log_bind.mp h with h | ⟨a, _, h⟩
  · rw [hx] at h
    cases h
  · rw [hf a] at h
    cases h

/-- A second part without effects adds none. -/
theorem log_bind_right {x : Logged ω ε α} {f : α → Logged ω ε β} (hf : ∀ a, (f a).log = []) :
    (x >>= f).log = x.log := by
  change (Logged.bind x f).log = _
  unfold Logged.bind
  cases hx : x.result with
  | ok a =>
      show x.log ++ (f a).log = x.log
      rw [hf a, List.append_nil]
  | error e => rfl

theorem result_bind_ok {x : Logged ω ε α} {f : α → Logged ω ε β} {b : β} :
    (x >>= f).result = .ok b ↔ ∃ a, x.result = .ok a ∧ (f a).result = .ok b := by
  change (Logged.bind x f).result = _ ↔ _
  unfold Logged.bind
  cases hx : x.result with
  | ok a =>
      constructor
      · exact fun h => ⟨a, rfl, h⟩
      · rintro ⟨a', ha, h⟩
        cases ha
        exact h
  | error e =>
      constructor
      · exact fun h => by cases h
      · rintro ⟨a, ha, _⟩
        cases ha

end Logged

end Async
