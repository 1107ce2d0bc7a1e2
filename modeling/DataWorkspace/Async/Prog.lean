import Mathlib.Logic.Function.Basic

/-!
# Programs with effects

A coroutine runs until it awaits something: a reply of a database, of another
service, of a source of random numbers.  `Prog Ans ε α` is such a program as the
tree of its awaits.  At a node it performs the operation `o` and goes on with the
answer, of type `Ans o`.  A leaf returns a value or raises an exception.

Nothing here says what an operation does.  An `Interp` says it, as a relation
between a state, an answer and a new state, together with a condition the state
must meet wherever the operation is performed.  `wp` is the weakest precondition
of a program under an interpretation, defined by recursion on the tree, so that
it unfolds along the text of a program.  `Steps` is the partial execution of a
program, and `wp_steps` is the rule that connects the two.
-/

namespace Async

/-- A program: a returned value, a raised exception, or an operation with the
program that awaits its answer. -/
inductive Prog {Op : Type} (Ans : Op → Type) (ε α : Type) : Type where
  | pure (a : α)
  | raise (e : ε)
  | op (o : Op) (k : Ans o → Prog Ans ε α)

section Basic

variable {Op : Type} {Ans : Op → Type} {ε ε' α β : Type}

namespace Prog

/-- Sequencing.  An exception passes by the continuation. -/
def bind : Prog Ans ε α → (α → Prog Ans ε β) → Prog Ans ε β
  | .pure a, f => f a
  | .raise e, _ => .raise e
  | .op o k, f => .op o fun a => (k a).bind f

instance : Monad (Prog Ans ε) where
  pure := .pure
  bind := .bind

/-- The program that performs one operation and returns its answer. -/
def perform (o : Op) : Prog Ans ε (Ans o) := .op o .pure

/-- `try`: the outcome of a program, as a value. -/
def attempt : Prog Ans ε α → Prog Ans ε' (Except ε α)
  | .pure a => .pure (.ok a)
  | .raise e => .pure (.error e)
  | .op o k => .op o fun a => (k a).attempt

/-- Every operation of the program is one of `P`. -/
def Only (P : Op → Prop) : Prog Ans ε α → Prop
  | .pure _ => True
  | .raise _ => True
  | .op o k => P o ∧ ∀ a, (k a).Only P

/-- A value that may be missing, or the exception raised when it is. -/
def ofOption (e : ε) : Option α → Prog Ans ε α
  | some a => .pure a
  | none => .raise e

@[simp] theorem pure_bind (a : α) (f : α → Prog Ans ε β) :
    (Prog.pure a >>= f : Prog Ans ε β) = f a := rfl

@[simp] theorem raise_bind (e : ε) (f : α → Prog Ans ε β) :
    (Prog.raise e >>= f : Prog Ans ε β) = .raise e := rfl

theorem Only.bind {P : Op → Prop} {p : Prog Ans ε α} {f : α → Prog Ans ε β} (hp : p.Only P)
    (hf : ∀ a, (f a).Only P) : (p >>= f : Prog Ans ε β).Only P := by
  induction p with
  | pure a => exact hf a
  | raise e => trivial
  | op o k ih => exact ⟨hp.1, fun a => ih a (hp.2 a)⟩

theorem Only.mono {P P' : Op → Prop} {p : Prog Ans ε α} (hp : p.Only P) (h : ∀ o, P o → P' o) :
    p.Only P' := by
  induction p with
  | pure a => trivial
  | raise e => trivial
  | op o k ih => exact ⟨h o hp.1, fun a => ih a (hp.2 a)⟩

theorem only_true (p : Prog Ans ε α) : p.Only fun _ => True := by
  induction p with
  | pure a => trivial
  | raise e => trivial
  | op o k ih => exact ⟨trivial, ih⟩

theorem Only.attempt {P : Op → Prop} {p : Prog Ans ε α} (hp : p.Only P) :
    (p.attempt : Prog Ans ε' (Except ε α)).Only P := by
  induction p with
  | pure a => trivial
  | raise e => trivial
  | op o k ih => exact ⟨hp.1, fun a => ih a (hp.2 a)⟩

@[simp] theorem op_bind (o : Op) (k : Ans o → Prog Ans ε α) (f : α → Prog Ans ε β) :
    (Prog.op o k >>= f : Prog Ans ε β) = .op o fun a => k a >>= f := rfl

theorem Only.forM {β : Type} {P : Op → Prop} {f : β → Prog Ans ε Unit} :
    ∀ {l : List β}, (∀ b ∈ l, (f b).Only P) → (l.forM f).Only P
  | [], _ => trivial
  | b :: _, h => Only.bind (h b (List.mem_cons_self ..)) fun _ =>
      Only.forM fun b' hb => h b' (List.mem_cons_of_mem _ hb)

/-- A program as a part of one with more operations.  `emb` names its operations there,
and `ret` reads their answers. -/
def lift {Op' : Type} {Ans' : Op' → Type} (emb : Op → Op') (ret : ∀ o, Ans' (emb o) → Ans o)
    (exc : ε → ε') : Prog Ans ε α → Prog Ans' ε' α
  | .pure a => .pure a
  | .raise e => .raise (exc e)
  | .op o k => .op (emb o) fun a => (k (ret o a)).lift emb ret exc

theorem Only.lift {Op' : Type} {Ans' : Op' → Type} {emb : Op → Op'}
    {ret : ∀ o, Ans' (emb o) → Ans o} {exc : ε → ε'} {P : Op' → Prop} {p : Prog Ans ε α}
    (hp : p.Only fun o => P (emb o)) : (p.lift emb ret exc).Only P := by
  induction p with
  | pure a => trivial
  | raise e => trivial
  | op o k ih => exact ⟨hp.1, fun a => ih _ (hp.2 _)⟩

end Prog

/-! ## Weakest preconditions -/

/-- What the operations do to a state `σ`, and what must hold where they are
performed. -/
structure Interp {Op : Type} (Ans : Op → Type) (σ : Type) where
  /-- In state `s` the operation may answer `a` and leave the state `s'`. -/
  step : (o : Op) → σ → Ans o → σ → Prop
  /-- The condition on the state in which the operation is performed. -/
  pre : Op → σ → Prop

variable {σ : Type} {I : Interp Ans σ}

/-- Every operation a program performs from `s` meets its condition, and every
outcome satisfies `Q`. -/
def wp (I : Interp Ans σ) : Prog Ans ε α → (Except ε α → σ → Prop) → σ → Prop
  | .pure a, Q, s => Q (.ok a) s
  | .raise e, Q, s => Q (.error e) s
  | .op o k, Q, s => I.pre o s ∧ ∀ a s', I.step o s a s' → wp I (k a) Q s'

@[simp] theorem wp_pure (a : α) (Q : Except ε α → σ → Prop) (s : σ) :
    wp I (.pure a) Q s = Q (.ok a) s := rfl

@[simp] theorem wp_pure' (a : α) (Q : Except ε α → σ → Prop) (s : σ) :
    wp I (Pure.pure a) Q s = Q (.ok a) s := rfl

@[simp] theorem wp_raise (e : ε) (Q : Except ε α → σ → Prop) (s : σ) :
    wp I (.raise e) Q s = Q (.error e) s := rfl

theorem wp_op (o : Op) (k : Ans o → Prog Ans ε α) (Q : Except ε α → σ → Prop) (s : σ) :
    wp I (.op o k) Q s = (I.pre o s ∧ ∀ a s', I.step o s a s' → wp I (k a) Q s') := rfl

/-- The postcondition a program must establish for its continuation `f`. -/
def andThen (I : Interp Ans σ) (f : α → Prog Ans ε β) (Q : Except ε β → σ → Prop) :
    Except ε α → σ → Prop
  | .ok a, s => wp I (f a) Q s
  | .error e, s => Q (.error e) s

@[simp] theorem andThen_ok (f : α → Prog Ans ε β) (Q : Except ε β → σ → Prop) (a : α) (s : σ) :
    andThen I f Q (.ok a) s = wp I (f a) Q s := rfl

@[simp] theorem andThen_error (f : α → Prog Ans ε β) (Q : Except ε β → σ → Prop) (e : ε) (s : σ) :
    andThen I f Q (.error e) s = Q (.error e) s := rfl

theorem wp_bind (p : Prog Ans ε α) (f : α → Prog Ans ε β) (Q : Except ε β → σ → Prop) :
    ∀ s, wp I (p >>= f) Q s ↔ wp I p (andThen I f Q) s := by
  induction p with
  | pure a => intro s; rfl
  | raise e => intro s; rfl
  | op o k ih =>
      intro s
      rw [Prog.op_bind, wp_op, wp_op]
      exact and_congr_right fun _ => forall_congr' fun a => forall_congr' fun s' =>
        imp_congr_right fun _ => ih a s'

theorem wp_mono {Q Q' : Except ε α → σ → Prop} (h : ∀ r s, Q r s → Q' r s) (p : Prog Ans ε α) :
    ∀ s, wp I p Q s → wp I p Q' s := by
  induction p with
  | pure a => exact fun s => h _ s
  | raise e => exact fun s => h _ s
  | op o k ih => exact fun s hw => ⟨hw.1, fun a s' hs => ih a s' (hw.2 a s' hs)⟩

theorem wp_and {Q Q' : Except ε α → σ → Prop} (p : Prog Ans ε α) :
    ∀ s, wp I p Q s → wp I p Q' s → wp I p (fun r s => Q r s ∧ Q' r s) s := by
  induction p with
  | pure a => exact fun s hq hq' => ⟨hq, hq'⟩
  | raise e => exact fun s hq hq' => ⟨hq, hq'⟩
  | op o k ih => exact fun s hq hq' => ⟨hq.1, fun a s' hs => ih a s' (hq.2 a s' hs) (hq'.2 a s' hs)⟩

/-- What the first part leaves is enough for the second, and for an exception. -/
theorem wp_bind_of {p : Prog Ans ε α} {f : α → Prog Ans ε β} {R : Except ε α → σ → Prop}
    {Q : Except ε β → σ → Prop} {s : σ} (hp : wp I p R s)
    (hok : ∀ a s, R (.ok a) s → wp I (f a) Q s)
    (herror : ∀ e s, R (.error e) s → Q (.error e) s) : wp I (p >>= f) Q s := by
  refine (wp_bind p f Q s).mpr (wp_mono (fun r s hr => ?_) p s hp)
  cases r with
  | ok a => exact hok a s hr
  | error e => exact herror e s hr

theorem wp_attempt (p : Prog Ans ε α) (Q : Except ε' (Except ε α) → σ → Prop) :
    ∀ s, wp I (p.attempt : Prog Ans ε' (Except ε α)) Q s ↔ wp I p (fun r => Q (.ok r)) s := by
  induction p with
  | pure a => intro s; rfl
  | raise e => intro s; rfl
  | op o k ih =>
      intro s
      exact and_congr_right fun _ => forall_congr' fun a => forall_congr' fun s' =>
        imp_congr_right fun _ => ih a s'

theorem wp_ofOption {e : ε} {v : Option α} {Q : Except ε α → σ → Prop} {s : σ}
    (hn : v = none → Q (.error e) s) (hs : ∀ a, v = some a → Q (.ok a) s) :
    wp I (.ofOption e v) Q s := by
  cases v with
  | none => exact hn rfl
  | some a => exact hs a rfl

/-! ## Partial executions -/

/-- From state `s` the program `p` may come to `p'` in state `s'`. -/
inductive Steps (I : Interp Ans σ) : Prog Ans ε α → σ → Prog Ans ε α → σ → Prop where
  | refl {p : Prog Ans ε α} {s : σ} : Steps I p s p s
  | op {o : Op} {k : Ans o → Prog Ans ε α} {a : Ans o} {p' : Prog Ans ε α} {s s' s'' : σ} :
      I.step o s a s' → Steps I (k a) s' p' s'' → Steps I (.op o k) s p' s''

theorem Steps.snoc {p q : Prog Ans ε α} {o : Op} {k : Ans o → Prog Ans ε α} {a : Ans o}
    {s s' s'' : σ} (h : Steps I p s q s') (hq : q = .op o k) (hs : I.step o s' a s'') :
    Steps I p s (k a) s'' := by
  induction h with
  | refl =>
      subst hq
      exact .op hs .refl
  | op hs' _ ih => exact .op hs' (ih hq hs)

theorem Prog.Only.steps {P : Op → Prop} {p p' : Prog Ans ε α} {s s' : σ} (h : Steps I p s p' s') :
    p.Only P → p'.Only P := by
  induction h with
  | refl => exact id
  | op _ _ ih => exact fun hp => ih (hp.2 _)

/-- What is left of a program meets the weakest precondition of the whole. -/
theorem wp_steps {p p' : Prog Ans ε α} {Q : Except ε α → σ → Prop} {s s' : σ}
    (h : Steps I p s p' s') : wp I p Q s → wp I p' Q s' := by
  induction h with
  | refl => exact id
  | op hs _ ih => exact fun hw => ih (hw.2 _ _ hs)

end Basic

/-! ## Traces

The state may be the list of everything a program was answered so far.  No
answer is ruled out, so a fact about all traces holds for every environment. -/

section Trace

variable {Op : Type} {Ans : Op → Type} {ε α : Type}

/-- An operation with the answer it got. -/
abbrev Event (Ans : Op → Type) := (o : Op) × Ans o

/-- The interpretation that records the events, oldest first. -/
def tracing (pre : Op → List (Event Ans) → Prop) : Interp Ans (List (Event Ans)) where
  step o tr a tr' := tr' = tr ++ [⟨o, a⟩]
  pre := pre

/-- After the events `tr` the program performs the operation `o`. -/
def Performs (p : Prog Ans ε α) (tr : List (Event Ans)) (o : Op) : Prop :=
  ∃ k, Steps (tracing fun _ _ => True) p [] (.op o k) tr

theorem steps_tracing {pre pre' : Op → List (Event Ans) → Prop} {p p' : Prog Ans ε α}
    {tr tr' : List (Event Ans)} (h : Steps (tracing pre) p tr p' tr') :
    Steps (tracing pre') p tr p' tr' := by
  induction h with
  | refl => exact .refl
  | op hs _ ih => exact .op hs ih

/-- A program that performs operations of `P` only adds events of `P` to its trace.  It
meets a condition and a postcondition that hold after all such events. -/
theorem wp_of_only {P : Op → Prop} {pre : Op → List (Event Ans) → Prop} {p : Prog Ans ε α}
    {Q : Except ε α → List (Event Ans) → Prop} (hp : p.Only P) {tr : List (Event Ans)}
    (h : ∀ o es, (∀ e ∈ es, P e.1) → P o → pre o (tr ++ es))
    (hQ : ∀ r es, (∀ e ∈ es, P e.1) → Q r (tr ++ es)) : wp (tracing pre) p Q tr := by
  have hnil : ∀ e ∈ ([] : List (Event Ans)), P e.1 := fun e he => absurd he List.not_mem_nil
  induction p generalizing tr with
  | pure a => exact List.append_nil tr ▸ hQ (.ok a) [] hnil
  | raise e => exact List.append_nil tr ▸ hQ (.error e) [] hnil
  | op o k ih =>
      refine ⟨List.append_nil tr ▸ h o [] hnil hp.1, ?_⟩
      rintro a tr' rfl
      have hcons {es : List (Event Ans)} (hes : ∀ e ∈ es, P e.1) :
          ∀ e ∈ (⟨o, a⟩ :: es : List (Event Ans)), P e.1 := by
        intro e he
        rcases List.mem_cons.mp he with rfl | he
        · exact hp.1
        · exact hes e he
      refine ih a (hp.2 a) (fun o' es hes ho => ?_) fun r es hes => ?_
      · rw [List.append_assoc]
        exact h o' _ (hcons hes) ho
      · rw [List.append_assoc]
        exact hQ r _ (hcons hes)

theorem Performs.pre {pre : Op → List (Event Ans) → Prop} {p : Prog Ans ε α}
    {tr : List (Event Ans)} {o : Op} (h : Performs p tr o) {Q : Except ε α → _ → Prop}
    (hw : wp (tracing pre) p Q []) : pre o tr := by
  obtain ⟨k, hk⟩ := h
  exact (wp_steps (steps_tracing hk) hw).1

/-- The program that is over with an outcome. -/
def ended : Except ε α → Prog Ans ε α
  | .ok x => .pure x
  | .error e => .raise e

/-- After the events the program is over. -/
def Returns (p : Prog Ans ε α) (tr : List (Event Ans)) (x : Except ε α) : Prop :=
  Steps (tracing fun _ _ => True) p [] (ended x) tr

section Ended

variable {β ε' σ : Type} {I : Interp Ans σ} {s s' : σ}

theorem steps_pure {a : α} {r : Except ε α} (h : Steps I (.pure a) s (ended r) s') :
    r = .ok a ∧ s' = s := by
  cases r with
  | ok b =>
      cases h
      exact ⟨rfl, rfl⟩
  | error e => cases h

theorem steps_raise {e : ε} {r : Except ε α} (h : Steps I (.raise e) s (ended r) s') :
    r = .error e ∧ s' = s := by
  cases r with
  | ok b => cases h
  | error e =>
      cases h
      exact ⟨rfl, rfl⟩

theorem steps_op {o : Op} {k : Ans o → Prog Ans ε α} {r : Except ε α}
    (h : Steps I (.op o k) s (ended r) s') :
    ∃ a s₁, I.step o s a s₁ ∧ Steps I (k a) s₁ (ended r) s' := by
  cases r with
  | ok b =>
      cases h with
      | op hs hrest => exact ⟨_, _, hs, hrest⟩
  | error e =>
      cases h with
      | op hs hrest => exact ⟨_, _, hs, hrest⟩

/-- An execution of a sequence is one of each part, unless the first raises. -/
theorem steps_bind {p : Prog Ans ε α} {f : α → Prog Ans ε β} {r : Except ε β}
    (h : Steps I (p >>= f) s (ended r) s') :
    (∃ a s₁, Steps I p s (ended (.ok a)) s₁ ∧ Steps I (f a) s₁ (ended r) s') ∨
      ∃ e, r = .error e ∧ Steps I p s (ended (.error e)) s' := by
  induction p generalizing s with
  | pure a => exact .inl ⟨a, s, .refl, h⟩
  | raise e =>
      obtain ⟨rfl, rfl⟩ := steps_raise h
      exact .inr ⟨e, rfl, .refl⟩
  | op o k ih =>
      obtain ⟨a, s₁, hs, hrest⟩ := steps_op h
      rcases ih a hrest with ⟨b, s₂, hp, hf⟩ | ⟨e, hr, hp⟩
      · exact .inl ⟨b, s₂, .op hs hp, hf⟩
      · exact .inr ⟨e, hr, .op hs hp⟩

theorem steps_attempt {p : Prog Ans ε α} {r : Except ε' (Except ε α)}
    (h : Steps I (p.attempt : Prog Ans ε' (Except ε α)) s (ended r) s') :
    ∃ x, r = .ok x ∧ Steps I p s (ended x) s' := by
  induction p generalizing s with
  | pure a =>
      obtain ⟨rfl, rfl⟩ := steps_pure h
      exact ⟨.ok a, rfl, .refl⟩
  | raise e =>
      obtain ⟨rfl, rfl⟩ := steps_pure h
      exact ⟨.error e, rfl, .refl⟩
  | op o k ih =>
      obtain ⟨a, s₁, hs, hrest⟩ := steps_op h
      obtain ⟨x, hr, hp⟩ := ih a hrest
      exact ⟨x, hr, .op hs hp⟩

end Ended

theorem Returns.post {pre : Op → List (Event Ans) → Prop} {p : Prog Ans ε α}
    {tr : List (Event Ans)} {x : Except ε α} (h : Returns p tr x) {Q : Except ε α → _ → Prop}
    (hw : wp (tracing pre) p Q []) : Q x tr := by
  have hend := wp_steps (steps_tracing h) hw
  cases x with
  | ok x => exact hend
  | error e => exact hend

theorem pre_of_mem {pre : Op → List (Event Ans) → Prop} {p p' : Prog Ans ε α}
    {Q : Except ε α → List (Event Ans) → Prop} {tr tr' : List (Event Ans)} {e : Event Ans}
    (h : Steps (tracing fun _ _ => True) p tr p' tr') (he : e ∈ tr') :
    wp (tracing pre) p Q tr → e ∈ tr ∨ ∃ tr₁, pre e.1 tr₁ := by
  induction h with
  | refl => exact fun _ => .inl he
  | op hs _ ih =>
      cases hs
      intro hw
      rcases ih he (hw.2 _ _ rfl) with hmem | hpre
      · rcases List.mem_append.mp hmem with hmem | hmem
        · exact .inl hmem
        · rw [List.mem_singleton.mp hmem]
          exact .inr ⟨_, hw.1⟩
      · exact .inr hpre

theorem Returns.pre_of_mem {pre : Op → List (Event Ans) → Prop} {p : Prog Ans ε α}
    {Q : Except ε α → List (Event Ans) → Prop} {tr : List (Event Ans)} {x : Except ε α}
    {e : Event Ans} (h : Returns p tr x) (he : e ∈ tr) (hw : wp (tracing pre) p Q []) :
    ∃ tr₁, pre e.1 tr₁ :=
  (Async.pre_of_mem h he hw).resolve_left List.not_mem_nil

end Trace

/-! ## Runs against a known environment

Where the environment is known, each operation has one answer and one effect, and
a program has one run.  `run_bind_ok` takes a completed run apart. -/

section Run

variable {Op : Type} {Ans : Op → Type} {ε ε' α β σ : Type} {exec : (o : Op) → σ → Ans o × σ}

namespace Prog

/-- The outcome of a program and the state it leaves. -/
def run (exec : (o : Op) → σ → Ans o × σ) : Prog Ans ε α → σ → Except ε α × σ
  | .pure a, s => (.ok a, s)
  | .raise e, s => (.error e, s)
  | .op o k, s => (k (exec o s).1).run exec (exec o s).2

theorem run_bind (p : Prog Ans ε α) (f : α → Prog Ans ε β) (s : σ) :
    (p >>= f).run exec s =
      match p.run exec s with
      | (.ok a, s') => (f a).run exec s'
      | (.error e, s') => (.error e, s') := by
  induction p generalizing s with
  | pure a => rfl
  | raise e => rfl
  | op o k ih => exact ih _ _

theorem run_bind_ok {p : Prog Ans ε α} {f : α → Prog Ans ε β} {b : β} {s s'' : σ} :
    (p >>= f).run exec s = (.ok b, s'') ↔
      ∃ a s', p.run exec s = (.ok a, s') ∧ (f a).run exec s' = (.ok b, s'') := by
  rw [run_bind]
  rcases p.run exec s with ⟨e | a, s'⟩
  · simp
  · constructor
    · intro h
      exact ⟨a, s', rfl, h⟩
    · rintro ⟨a', s₁, he, h⟩
      cases he
      exact h

theorem run_attempt {p : Prog Ans ε α} {s : σ} :
    (p.attempt : Prog Ans ε' (Except ε α)).run exec s = (.ok (p.run exec s).1, (p.run exec s).2) := by
  induction p generalizing s with
  | pure a => rfl
  | raise e => rfl
  | op o k ih => exact ih _

theorem run_rel {R : σ → σ → Prop} (hrefl : ∀ s, R s s)
    (htrans : ∀ {s s' s''}, R s s' → R s' s'' → R s s'') {p : Prog Ans ε α}
    {ops : Op → Prop} (hops : ∀ o s, ops o → R s (exec o s).2) (hp : p.Only ops) (s : σ) :
    R s (p.run exec s).2 := by
  induction p generalizing s with
  | pure a => exact hrefl s
  | raise e => exact hrefl s
  | op o k ih => exact htrans (hops o s hp.1) (ih _ (hp.2 _) _)

end Prog

end Run

section Follow

variable {Op : Type} {Ans : Op → Type} {ε α σ : Type} {I : Interp Ans σ}
  {pick : (o : Op) → σ → Option (Ans o × σ)}

/-- The outcome of a program and the state it leaves, where the answers are chosen by a
function that may not know one. -/
def Prog.follow (pick : (o : Op) → σ → Option (Ans o × σ)) :
    Prog Ans ε α → σ → Option (Except ε α × σ)
  | .pure a, s => some (.ok a, s)
  | .raise e, s => some (.error e, s)
  | .op o k, s => (pick o s).bind fun r => (k r.1).follow pick r.2

theorem Prog.steps_of_follow (hpick : ∀ o s a s', pick o s = some (a, s') → I.step o s a s')
    {p : Prog Ans ε α} {s s' : σ} {r : Except ε α} (h : p.follow pick s = some (r, s')) :
    Steps I p s (ended r) s' := by
  induction p generalizing s with
  | pure a =>
      obtain ⟨rfl, rfl⟩ := Prod.mk.inj (Option.some.inj h)
      exact .refl
  | raise e =>
      obtain ⟨rfl, rfl⟩ := Prod.mk.inj (Option.some.inj h)
      exact .refl
  | op o k ih =>
      obtain ⟨answer, hanswer, hrest⟩ := Option.bind_eq_some_iff.mp h
      exact .op (hpick o s answer.1 answer.2 hanswer) (ih answer.1 hrest)

end Follow

end Async
