import DataWorkspace.Async.Prog
import Mathlib.Logic.Relation

/-!
# Tasks over a shared store

Any number of tasks run at a time, each with a program of its own, and all of them
read and write one store.  An operation is atomic.  Between two operations of a task
any operations of the others may happen, and a task may stop for good at any point.

`Shared` gives the programs and what an operation may do to the store.  A `Config` is
what is left of every program, the events of every task so far, and the store.
`Shared.Run` are the runs whose steps all meet a condition, which may look at the whole
configuration before the step.

Where a task is in its program is a summary of its events.  `Run.summed` carries a
weakest precondition over a summary to every configuration of a run, so that an
invariant relates the summaries of the tasks to the store and says nothing of programs.
`Config.play` computes a run from a schedule.
-/

namespace Async

variable {Op : Type} {Ans : Op → Type} {ε α ι σ φ : Type}

/-! ## Summaries -/

/-- The interpretation whose state is a summary of the events so far. -/
def summing (adv : φ → Event Ans → φ) (pre : Op → φ → Prop) : Interp Ans φ where
  step o s a s' := s' = adv s ⟨o, a⟩
  pre := pre

theorem steps_summing {adv : φ → Event Ans → φ} {pre : Op → φ → Prop}
    {pre' : Op → List (Event Ans) → Prop} {p p' : Prog Ans ε α} {tr tr' : List (Event Ans)} (s : φ)
    (h : Steps (tracing pre') p tr p' tr') :
    Steps (summing adv pre) p (tr.foldl adv s) p' (tr'.foldl adv s) := by
  induction h with
  | refl => exact .refl
  | op hs _ ih =>
      cases hs
      refine .op ?_ ih
      rw [List.foldl_append]
      rfl

theorem wp_summing {adv : φ → Event Ans → φ} {pre : Op → φ → Prop} {o : Op}
    {k : Ans o → Prog Ans ε α} {Q : Except ε α → φ → Prop} {s : φ} :
    wp (summing adv pre) (.op o k) Q s ↔
      pre o s ∧ ∀ a, wp (summing adv pre) (k a) Q (adv s ⟨o, a⟩) :=
  and_congr_right fun _ => forall_congr' fun _ =>
    ⟨fun h => h _ rfl, fun h s' hs => by rwa [show s' = _ from hs]⟩

theorem wp_summing_of_only {adv : φ → Event Ans → φ} {pre : Op → φ → Prop} {P : Op → Prop}
    {p : Prog Ans ε α} {Q : Except ε α → φ → Prop} {s : φ} (hp : p.Only P)
    (hpre : ∀ o, P o → pre o s) (hadv : ∀ o a, P o → adv s ⟨o, a⟩ = s) (hQ : ∀ r, Q r s) :
    wp (summing adv pre) p Q s := by
  induction p with
  | pure a => exact hQ _
  | raise e => exact hQ _
  | op o k ih =>
      refine wp_summing.mpr ⟨hpre o hp.1, fun a => ?_⟩
      rw [hadv o a hp.1]
      exact ih a (hp.2 a)

/-- Every operation of the program meets its condition. -/
def Meets (I : Interp Ans φ) (p : Prog Ans ε α) (s : φ) : Prop := wp I p (fun _ _ => True) s

namespace Meets

variable {β ε' : Type} {I : Interp Ans φ} {p : Prog Ans ε α} {s : φ}

theorem of_wp {Q : Except ε α → φ → Prop} (h : wp I p Q s) : Meets I p s :=
  wp_mono (fun _ _ _ => trivial) p s h

theorem bind {f : α → Prog Ans ε β} (hp : Meets I p s) (hf : ∀ a s, Meets I (f a) s) :
    Meets I (p >>= f) s :=
  wp_bind_of hp (fun a s _ => hf a s) fun _ _ _ => trivial

theorem perform {adv : φ → Event Ans → φ} {pre : Op → φ → Prop} {o : Op} {f : Ans o → Prog Ans ε β}
    (ho : pre o s) (hf : ∀ a, Meets (summing adv pre) (f a) (adv s ⟨o, a⟩)) :
    Meets (summing adv pre) (Prog.perform o >>= f) s :=
  wp_summing.mpr ⟨ho, hf⟩

theorem attempt (hp : Meets I p s) : Meets I (p.attempt : Prog Ans ε' (Except ε α)) s :=
  (wp_attempt p _ s).mpr hp

theorem of_only {adv : φ → Event Ans → φ} {pre : Op → φ → Prop} {P : Op → Prop} (hp : p.Only P)
    (hpre : ∀ o s, P o → pre o s) : Meets (summing adv pre) p s := by
  induction p generalizing s with
  | pure a => trivial
  | raise e => trivial
  | op o k ih => exact wp_summing.mpr ⟨hpre o s hp.1, fun a => ih a (hp.2 a)⟩

theorem only {P : Op → Prop} {p : Prog Ans ε α} {adv : φ → Event Ans → φ} {s : φ}
    (h : Meets (summing adv fun o _ => P o) p s) : p.Only P := by
  induction p generalizing s with
  | pure a => trivial
  | raise e => trivial
  | op o k ih =>
      obtain ⟨ho, hk⟩ := wp_summing.mp h
      exact ⟨ho, fun a => ih a (hk a)⟩

end Meets

/-- A postcondition of the runs that raise nothing. -/
def onOk (F : α → φ → Prop) : Except ε α → φ → Prop
  | .ok a, s => F a s
  | .error _, _ => True

theorem wp_bind_onOk {β : Type} {I : Interp Ans φ} {p : Prog Ans ε α} {f : α → Prog Ans ε β}
    {F : α → φ → Prop} {G : β → φ → Prop} {s : φ} (hp : wp I p (onOk F) s)
    (hf : ∀ a s, F a s → wp I (f a) (onOk G) s) : wp I (p >>= f) (onOk G) s := by
  refine (wp_bind p f _ s).mpr (wp_mono (fun r s hr => ?_) p s hp)
  cases r with
  | ok a => exact hf a s hr
  | error e => trivial

theorem wp_onOk_and {I : Interp Ans φ} {p : Prog Ans ε α} {F G : α → φ → Prop} {s : φ}
    (hF : wp I p (onOk F) s) (hG : wp I p (onOk G) s) :
    wp I p (onOk fun a s => F a s ∧ G a s) s := by
  refine wp_mono (fun r s hr => ?_) p s (wp_and p s hF hG)
  cases r with
  | ok a => exact hr
  | error e => trivial

theorem wp_forM {β : Type} {I : Interp Ans φ} {f : β → Prog Ans ε Unit} {F : φ → Prop} :
    ∀ {l : List β} {s : φ}, (∀ b ∈ l, ∀ s, F s → wp I (f b) (fun _ s => F s) s) → F s →
      wp I (l.forM f) (fun _ s => F s) s
  | [], _, _, hs => hs
  | b :: _, _, h, hs =>
      wp_bind_of (h b (List.mem_cons_self ..) _ hs)
        (fun _ _ hs => wp_forM (fun b' hb => h b' (List.mem_cons_of_mem _ hb)) hs)
        fun _ _ hs => hs

theorem wp_kept {adv : φ → Event Ans → φ} {pre : Op → φ → Prop} {P : Op → Prop} {F : φ → Prop}
    {p : Prog Ans ε α} {Q : Except ε α → φ → Prop} {s : φ} (hp : p.Only P)
    (hpre : ∀ o s, P o → F s → pre o s) (hkeep : ∀ s o a, P o → F s → F (adv s ⟨o, a⟩))
    (hQ : ∀ r s, F s → Q r s) (hs : F s) : wp (summing adv pre) p Q s := by
  induction p generalizing s with
  | pure a => exact hQ _ s hs
  | raise e => exact hQ _ s hs
  | op o k ih =>
      refine wp_summing.mpr ⟨hpre o s hp.1 hs, fun a => ?_⟩
      exact ih a (hp.2 a) (hkeep s o a hp.1 hs)

theorem wp_onOk_attempt {I : Interp Ans φ} {p : Prog Ans ε α} {F : α → φ → Prop} {s : φ}
    (hp : wp I p (onOk F) s) :
    wp I (p.attempt : Prog Ans ε (Except ε α)) (onOk fun r s => onOk F r s) s :=
  (wp_attempt p _ s).mpr hp

theorem wp_lift {Op' ε' : Type} {Ans' : Op' → Type} {emb : Op → Op'}
    {ret : ∀ o, Ans' (emb o) → Ans o} {exc : ε → ε'} {adv : φ → Event Ans → φ}
    {pre : Op → φ → Prop} {adv' : φ → Event Ans' → φ} {pre' : Op' → φ → Prop} {p : Prog Ans ε α}
    {F : α → φ → Prop} {s : φ} (hadv : ∀ s o a, adv' s ⟨emb o, a⟩ = adv s ⟨o, ret o a⟩)
    (hpre : ∀ o s, pre o s → pre' (emb o) s) (hp : wp (summing adv pre) p (onOk F) s) :
    wp (summing adv' pre') (p.lift emb ret exc) (onOk F) s := by
  induction p generalizing s with
  | pure a => exact hp
  | raise e => trivial
  | op o k ih =>
      obtain ⟨ho, hk⟩ := wp_summing.mp hp
      refine wp_summing.mpr ⟨hpre o s ho, fun a => ?_⟩
      rw [hadv]
      exact ih _ (hk _)

/-! ## Configurations -/

/-- The value of a program that is over. -/
def Prog.value? : Prog Ans ε α → Option α
  | .pure a => some a
  | .raise _ => none
  | .op _ _ => none

/-- The operation that comes next. -/
def Prog.next : Prog Ans ε α → Option Op
  | .pure _ => none
  | .raise _ => none
  | .op o _ => some o

theorem Prog.eq_op_of_next {o : Op} :
    ∀ {p : Prog Ans ε α}, p.next = some o → ∃ k, p = .op o k
  | .op _ k, h => by
      cases h
      exact ⟨k, rfl⟩

theorem Prog.eq_pure_of_value? {a : α} : ∀ {p : Prog Ans ε α}, p.value? = some a → p = .pure a
  | .pure _, h => congrArg Prog.pure (Option.some.inj h)

/-- The programs of the tasks, and what an operation of a task may answer and do to the
store. -/
structure Shared {Op : Type} (Ans : Op → Type) (ε α ι σ : Type) where
  prog : ι → Prog Ans ε α
  act : ι → (o : Op) → σ → Ans o → σ → Prop

/-- What is left of the tasks, what each was answered so far, and the store. -/
structure Config {Op : Type} (Ans : Op → Type) (ε α ι σ : Type) where
  tasks : ι → Prog Ans ε α
  traces : ι → List (Event Ans)
  store : σ

/-- Every task is at its start. -/
def Shared.start (S : Shared Ans ε α ι σ) (s : σ) : Config Ans ε α ι σ := ⟨S.prog, fun _ => [], s⟩

/-- The summary of the events of a task. -/
def Config.summary (adv : φ → Event Ans → φ) (s : φ) (c : Config Ans ε α ι σ) (i : ι) : φ :=
  (c.traces i).foldl adv s

section Runs

variable [DecidableEq ι]

/-- One task goes on after an event. -/
def Config.go (c : Config Ans ε α ι σ) (i : ι) (e : Event Ans) (p : Prog Ans ε α) (s : σ) :
    Config Ans ε α ι σ where
  tasks := Function.update c.tasks i p
  traces := Function.update c.traces i (c.traces i ++ [e])
  store := s

/-- One task performs its next operation. -/
inductive Shared.Step (S : Shared Ans ε α ι σ) (ok : Config Ans ε α ι σ → ι → Op → Prop) :
    Config Ans ε α ι σ → Config Ans ε α ι σ → Prop where
  | perform {c : Config Ans ε α ι σ} {i : ι} {o : Op} {k : Ans o → Prog Ans ε α} {a : Ans o} {s : σ} :
      c.tasks i = .op o k → ok c i o → S.act i o c.store a s →
      Shared.Step S ok c (c.go i ⟨o, a⟩ (k a) s)

/-- The configurations that come after, by steps that meet the condition. -/
def Shared.Later (S : Shared Ans ε α ι σ) (ok : Config Ans ε α ι σ → ι → Op → Prop) :
    Config Ans ε α ι σ → Config Ans ε α ι σ → Prop :=
  Relation.ReflTransGen (S.Step ok)

/-- The configurations of the runs from a store. -/
def Shared.Run (S : Shared Ans ε α ι σ) (ok : Config Ans ε α ι σ → ι → Op → Prop) (s₀ : σ) :
    Config Ans ε α ι σ → Prop :=
  S.Later ok (S.start s₀)

/-- Any step. -/
abbrev Always : Config Ans ε α ι σ → ι → Op → Prop := fun _ _ _ => True

namespace Config

variable {c : Config Ans ε α ι σ} {i j : ι} {e : Event Ans} {p : Prog Ans ε α} {s : σ}

@[simp] theorem go_store : (c.go i e p s).store = s := rfl

@[simp] theorem go_tasks_self : (c.go i e p s).tasks i = p := Function.update_self ..

@[simp] theorem go_traces_self : (c.go i e p s).traces i = c.traces i ++ [e] :=
  Function.update_self ..

theorem go_tasks_of_ne (h : j ≠ i) : (c.go i e p s).tasks j = c.tasks j := Function.update_of_ne h ..

theorem go_traces_of_ne (h : j ≠ i) : (c.go i e p s).traces j = c.traces j :=
  Function.update_of_ne h ..

theorem mem_traces_go {e' : Event Ans} (h : e' ∈ c.traces j) : e' ∈ (c.go i e p s).traces j := by
  by_cases hj : j = i
  · subst hj
    rw [go_traces_self]
    exact List.mem_append_left _ h
  · rw [go_traces_of_ne hj]
    exact h

theorem mem_traces_of_go {e' : Event Ans} (h : e' ∈ (c.go i e p s).traces j) :
    e' ∈ c.traces j ∨ j = i ∧ e' = e := by
  by_cases hj : j = i
  · subst hj
    rw [go_traces_self] at h
    rcases List.mem_append.mp h with h | h
    · exact .inl h
    · exact .inr ⟨rfl, List.mem_singleton.mp h⟩
  · rw [go_traces_of_ne hj] at h
    exact .inl h

@[simp] theorem summary_go_self (adv : φ → Event Ans → φ) (x : φ) :
    (c.go i e p s).summary adv x i = adv (c.summary adv x i) e := by
  rw [summary, summary, go_traces_self, List.foldl_append]
  rfl

theorem summary_go_of_ne (adv : φ → Event Ans → φ) (x : φ) (h : j ≠ i) :
    (c.go i e p s).summary adv x j = c.summary adv x j := by
  rw [summary, summary, go_traces_of_ne h]

end Config

section Later

variable {S : Shared Ans ε α ι σ} {ok : Config Ans ε α ι σ → ι → Op → Prop} {s₀ : σ}
  {c : Config Ans ε α ι σ}

theorem Shared.Run.step {i : ι} {o : Op} {k : Ans o → Prog Ans ε α} {a : Ans o} {s : σ}
    (h : S.Run ok s₀ c) (hi : c.tasks i = .op o k) (hok : ok c i o) (ha : S.act i o c.store a s) :
    S.Run ok s₀ (c.go i ⟨o, a⟩ (k a) s) :=
  Relation.ReflTransGen.tail h (.perform hi hok ha)

theorem Shared.Run.later {c' : Config Ans ε α ι σ} (h : S.Run ok s₀ c) (h' : S.Later ok c c') :
    S.Run ok s₀ c' :=
  Relation.ReflTransGen.trans h h'

theorem Shared.Run.invariant {I : Config Ans ε α ι σ → Prop} (h : S.Run ok s₀ c)
    (hstart : I (S.start s₀))
    (hstep : ∀ {c : Config Ans ε α ι σ} {i : ι} {o : Op} {k : Ans o → Prog Ans ε α} {a : Ans o}
      {s : σ}, S.Run ok s₀ c → c.tasks i = .op o k → ok c i o → S.act i o c.store a s → I c →
        I (c.go i ⟨o, a⟩ (k a) s)) : I c := by
  induction h with
  | refl => exact hstart
  | tail hrun hs ih =>
      cases hs with
      | perform hi hok ha => exact hstep hrun hi hok ha ih

theorem Shared.Later.keeps {c' : Config Ans ε α ι σ} {I : Config Ans ε α ι σ → Prop}
    (h' : S.Later ok c c') (h : S.Run ok s₀ c)
    (hstep : ∀ {c : Config Ans ε α ι σ} {i : ι} {o : Op} {k : Ans o → Prog Ans ε α} {a : Ans o}
      {s : σ}, S.Run ok s₀ c → c.tasks i = .op o k → ok c i o → S.act i o c.store a s → I c →
        I (c.go i ⟨o, a⟩ (k a) s)) (hc : I c) : I c' := by
  induction h' with
  | refl => exact hc
  | tail hlater hs ih =>
      cases hs with
      | perform hi hok ha => exact hstep (h.later hlater) hi hok ha ih

theorem Shared.Run.steps (h : S.Run ok s₀ c) (i : ι) :
    Steps (tracing fun _ _ => True) (S.prog i) [] (c.tasks i) (c.traces i) := by
  refine h.invariant (I := fun c => ∀ i, Steps (tracing fun _ _ => True) (S.prog i) []
    (c.tasks i) (c.traces i)) (fun _ => .refl) ?_ i
  intro c i o k a s _ hi _ _ ih j
  by_cases hj : j = i
  · subst hj
    rw [Config.go_tasks_self, Config.go_traces_self]
    exact (ih j).snoc hi rfl
  · rw [Config.go_tasks_of_ne hj, Config.go_traces_of_ne hj]
    exact ih j

theorem Shared.Run.only {P : Op → Prop} {i : ι} {o : Op} {k : Ans o → Prog Ans ε α}
    (h : S.Run ok s₀ c) (hi : c.tasks i = .op o k) (hp : (S.prog i).Only P) : P o := by
  have hleft := hp.steps (h.steps i)
  rw [hi] at hleft
  exact hleft.1

theorem Shared.Run.summed {adv : φ → Event Ans → φ} {pre : Op → φ → Prop} {x : φ} {i : ι}
    {Q : Except ε α → φ → Prop} (h : S.Run ok s₀ c) (hw : wp (summing adv pre) (S.prog i) Q x) :
    wp (summing adv pre) (c.tasks i) Q (c.summary adv x i) :=
  wp_steps (steps_summing x (h.steps i)) hw

theorem Shared.Run.pre {adv : φ → Event Ans → φ} {pre : Op → φ → Prop} {x : φ} {i : ι}
    {Q : Except ε α → φ → Prop} {o : Op} {k : Ans o → Prog Ans ε α} (h : S.Run ok s₀ c)
    (hi : c.tasks i = .op o k) (hw : wp (summing adv pre) (S.prog i) Q x) :
    pre o (c.summary adv x i) := by
  have hleft := h.summed hw
  rw [hi] at hleft
  exact hleft.1

theorem Shared.Run.post {adv : φ → Event Ans → φ} {pre : Op → φ → Prop} {x : φ} {i : ι}
    {Q : Except ε α → φ → Prop} {r : Except ε α} (h : S.Run ok s₀ c) (hi : c.tasks i = ended r)
    (hw : wp (summing adv pre) (S.prog i) Q x) : Q r (c.summary adv x i) := by
  have hleft := h.summed hw
  rw [hi] at hleft
  cases r with
  | ok a => exact hleft
  | error e => exact hleft

theorem Shared.Run.mono {ok' : Config Ans ε α ι σ → ι → Op → Prop} (h : S.Run ok s₀ c)
    (hok : ∀ c i o, ok c i o → ok' c i o) : S.Run ok' s₀ c :=
  h.invariant .refl fun _ hi ho ha ih => ih.step hi (hok _ _ _ ho) ha

end Later

/-! ## Schedules

Where the answers are chosen by a function, a list of tasks determines a run.  A task
that has to wait, or whose step does not meet the condition, is passed over. -/

/-- A choice among the answers an operation may have, `none` where it has to wait. -/
abbrev Choice {Op : Type} (Ans : Op → Type) (ι σ : Type) := ι → (o : Op) → σ → Option (Ans o × σ)

section Schedules

variable (pick : Choice Ans ι σ) (ok : Config Ans ε α ι σ → ι → Op → Prop)
  [∀ c i o, Decidable (ok c i o)]

/-- The task goes on by one operation if it can. -/
def Config.advance (c : Config Ans ε α ι σ) (i : ι) : Config Ans ε α ι σ :=
  match c.tasks i with
  | .pure _ => c
  | .raise _ => c
  | .op o k =>
      if ok c i o then
        match pick i o c.store with
        | some (a, s) => c.go i ⟨o, a⟩ (k a) s
        | none => c
      else c

/-- The tasks go on in the order of a schedule. -/
def Config.play (c : Config Ans ε α ι σ) : List ι → Config Ans ε α ι σ
  | [] => c
  | i :: schedule => Config.play (c.advance pick ok i) schedule

variable {pick ok} {S : Shared Ans ε α ι σ}

theorem Config.later_advance (hpick : ∀ i o s a s', pick i o s = some (a, s') → S.act i o s a s')
    (c : Config Ans ε α ι σ) (i : ι) : S.Later ok c (c.advance pick ok i) := by
  rw [Config.advance]
  split
  next => exact .refl
  next => exact .refl
  next o k hi =>
    split
    next hok =>
      split
      next a s hp => exact .single (.perform hi hok (hpick _ _ _ _ _ hp))
      next => exact .refl
    next => exact .refl

theorem Config.later_play (hpick : ∀ i o s a s', pick i o s = some (a, s') → S.act i o s a s')
    (c : Config Ans ε α ι σ) (schedule : List ι) : S.Later ok c (c.play pick ok schedule) := by
  induction schedule generalizing c with
  | nil => exact .refl
  | cons i schedule ih =>
      exact Relation.ReflTransGen.trans (Config.later_advance hpick c i) (ih _)

theorem Shared.run_play (hpick : ∀ i o s a s', pick i o s = some (a, s') → S.act i o s a s')
    (s₀ : σ) (schedule : List ι) : S.Run ok s₀ ((S.start s₀).play pick ok schedule) :=
  Config.later_play hpick _ schedule

end Schedules

end Runs

end Async
