import DataWorkspace.Async.Prog

/-!
# Interleaved tasks

A server runs many tasks at a time.  Each runs a program of its own and gives way at
every await, so that the operations of the tasks interleave in any order.  A task may
also be cancelled at any point.

The state is the log of everything that happened, newest first, next to what is left of
every running task.  What may start and what an operation may answer depends on the log,
so a shared store is what the log says of it.  `Reachable.recorded` is the induction over
runs: in the log of a reachable state every entry is one that its task could come to,
from what the log below says the task was answered.  A fact about all runs is then an
induction over `Recorded` logs.
-/

namespace Async

variable {Op : Type} {Ans : Op → Type} {ε α ι : Type}

/-- What happens to the tasks. -/
inductive Entry {Op : Type} (Ans : Op → Type) (ε α ι : Type) where
  /-- The task starts. -/
  | start (i : ι)
  /-- An operation of the task is performed and answered. -/
  | event (i : ι) (e : Event Ans)
  /-- The task is done. -/
  | done (i : ι) (x : Except ε α)

/-- The tasks of a server: their programs, when one may start, and what the operations
may answer. -/
structure System {Op : Type} (Ans : Op → Type) (ε α ι : Type) where
  prog : ι → Prog Ans ε α
  admits : List (Entry Ans ε α ι) → ι → Prop
  answers : List (Entry Ans ε α ι) → ι → (o : Op) → Ans o → Prop

/-- What is left of the running tasks, and what happened so far. -/
structure State {Op : Type} (Ans : Op → Type) (ε α ι : Type) where
  running : ι → Option (Prog Ans ε α)
  log : List (Entry Ans ε α ι)

theorem subset_below {e : Entry Ans ε α ι} {newer older log : List (Entry Ans ε α ι)}
    (h : log = newer ++ e :: older) : older ⊆ log := by
  rw [h]
  exact fun x hx => List.mem_append_right _ (List.mem_cons_of_mem _ hx)

section Runs

variable [DecidableEq ι] {S : System Ans ε α ι}

/-- One step of the server. -/
inductive Step (S : System Ans ε α ι) : State Ans ε α ι → State Ans ε α ι → Prop where
  | start {s : State Ans ε α ι} {i : ι} : .start i ∉ s.log → S.admits s.log i →
      Step S s ⟨Function.update s.running i (some (S.prog i)), .start i :: s.log⟩
  | perform {s : State Ans ε α ι} {i : ι} {o : Op} {k : Ans o → Prog Ans ε α} {a : Ans o} :
      s.running i = some (.op o k) → S.answers s.log i o a →
      Step S s ⟨Function.update s.running i (some (k a)), .event i ⟨o, a⟩ :: s.log⟩
  | pure {s : State Ans ε α ι} {i : ι} {x : α} : s.running i = some (.pure x) →
      Step S s ⟨Function.update s.running i none, .done i (.ok x) :: s.log⟩
  | raise {s : State Ans ε α ι} {i : ι} {e : ε} : s.running i = some (.raise e) →
      Step S s ⟨Function.update s.running i none, .done i (.error e) :: s.log⟩
  | cancel {s : State Ans ε α ι} (i : ι) : Step S s ⟨Function.update s.running i none, s.log⟩

/-- The states a run comes to. -/
inductive Reachable (S : System Ans ε α ι) : State Ans ε α ι → Prop where
  | init : Reachable S ⟨fun _ => none, []⟩
  | step {s s' : State Ans ε α ι} : Reachable S s → Step S s s' → Reachable S s'

/-- The events of one task, oldest first. -/
@[grind =]
def eventsOf (i : ι) : List (Entry Ans ε α ι) → List (Event Ans)
  | [] => []
  | .event j e :: log => if j = i then eventsOf i log ++ [e] else eventsOf i log
  | .start _ :: log => eventsOf i log
  | .done _ _ :: log => eventsOf i log

theorem mem_eventsOf {i : ι} {e : Event Ans} : ∀ {log : List (Entry Ans ε α ι)},
    e ∈ eventsOf i log ↔ .event i e ∈ log
  | [] => by simp [eventsOf]
  | .event j e' :: log => by
      have ih : e ∈ eventsOf i log ↔ .event i e ∈ log := mem_eventsOf
      by_cases h : j = i
      · subst h
        simp [eventsOf, ih, or_comm]
      · simp [eventsOf, h, ih, Ne.symm h]
  | .start _ :: log => by
      have ih : e ∈ eventsOf i log ↔ .event i e ∈ log := mem_eventsOf
      simp [eventsOf, ih]
  | .done _ _ :: log => by
      have ih : e ∈ eventsOf i log ↔ .event i e ∈ log := mem_eventsOf
      simp [eventsOf, ih]

/-! ## Recorded logs -/

/-- Every entry of the log is possible after those below it. -/
def Recorded (S : System Ans ε α ι) : List (Entry Ans ε α ι) → Prop
  | [] => True
  | .start i :: log => .start i ∉ log ∧ S.admits log i ∧ Recorded S log
  | .event i ⟨o, a⟩ :: log =>
      .start i ∈ log ∧ Performs (S.prog i) (eventsOf i log) o ∧ S.answers log i o a ∧
        (∀ y, .done i y ∉ log) ∧ Recorded S log
  | .done i x :: log =>
      .start i ∈ log ∧ Returns (S.prog i) (eventsOf i log) x ∧ (∀ y, .done i y ∉ log) ∧ Recorded S log

theorem Recorded.tail {e : Entry Ans ε α ι} {log : List (Entry Ans ε α ι)}
    (h : Recorded S (e :: log)) : Recorded S log := by
  cases e with
  | start i => exact h.2.2
  | event i e => exact h.2.2.2.2
  | done i x => exact h.2.2.2

theorem Recorded.of_append {newer log : List (Entry Ans ε α ι)} (h : Recorded S (newer ++ log)) :
    Recorded S log := by
  induction newer with
  | nil => exact h
  | cons e newer ih => exact ih h.tail

theorem Recorded.split {e : Entry Ans ε α ι} {log : List (Entry Ans ε α ι)} (h : Recorded S log)
    (he : e ∈ log) :
    ∃ newer older, log = newer ++ e :: older ∧ older ⊆ log ∧ Recorded S (e :: older) := by
  obtain ⟨newer, older, rfl⟩ := List.append_of_mem he
  exact ⟨newer, older, rfl, subset_below rfl, h.of_append⟩

theorem Recorded.started {i : ι} {x : Except ε α} {log : List (Entry Ans ε α ι)}
    (h : Recorded S log) (hdone : .done i x ∈ log) : .start i ∈ log := by
  obtain ⟨newer, older, -, hsub, hr⟩ := h.split hdone
  exact hsub hr.1

/-- An operation whose answers are new every time answers no two tasks alike. -/
theorem Recorded.unique {o : Op} {a : Ans o}
    (hnew : ∀ log i, S.answers log i o a → ∀ j, .event j ⟨o, a⟩ ∉ log) {i j : ι} :
    ∀ {log : List (Entry Ans ε α ι)}, Recorded S log → .event i ⟨o, a⟩ ∈ log →
      .event j ⟨o, a⟩ ∈ log → i = j
  | [], _, hi, _ => absurd hi List.not_mem_nil
  | e :: log, h, hi, hj => by
      have ih := Recorded.unique hnew (i := i) (j := j) h.tail
      rcases List.mem_cons.mp hi with rfl | hi'
      · rcases List.mem_cons.mp hj with hj | hj
        · cases hj
          rfl
        · exact absurd hj (hnew log i h.2.2.1 j)
      · rcases List.mem_cons.mp hj with rfl | hj
        · exact absurd hi' (hnew log j h.2.2.1 i)
        · exact ih hi' hj

/-- A condition the program of a task meets holds where the task performs an operation. -/
theorem Recorded.pre {i : ι} {o : Op} {a : Ans o} {log : List (Entry Ans ε α ι)}
    (h : Recorded S (.event i ⟨o, a⟩ :: log)) {pre : Op → List (Event Ans) → Prop}
    {Q : Except ε α → List (Event Ans) → Prop} (hw : wp (tracing pre) (S.prog i) Q []) :
    pre o (eventsOf i log) :=
  h.2.1.pre hw

theorem Recorded.post {i : ι} {x : Except ε α} {log : List (Entry Ans ε α ι)}
    (h : Recorded S (.done i x :: log)) {pre : Op → List (Event Ans) → Prop}
    {Q : Except ε α → List (Event Ans) → Prop} (hw : wp (tracing pre) (S.prog i) Q []) :
    Q x (eventsOf i log) :=
  h.2.1.post hw

theorem Recorded.before_done {i : ι} {x : Except ε α} {e : Event Ans}
    {newer older : List (Entry Ans ε α ι)} (h : Recorded S (newer ++ .done i x :: older))
    (he : .event i e ∈ newer ++ .done i x :: older) : .event i e ∈ older := by
  rcases List.mem_append.mp he with he | he
  · obtain ⟨newer₁, newer₂, rfl⟩ := List.append_of_mem he
    rw [List.append_assoc] at h
    have hdone := h.of_append.2.2.2.1 x
    exact absurd (List.mem_append_right _ (List.mem_cons_self ..)) hdone
  · rcases List.mem_cons.mp he with he | he
    · cases he
    · exact he

/-- What is left of a task is what its program comes to with the answers it got. -/
structure Follows (S : System Ans ε α ι) (s : State Ans ε α ι) : Prop where
  started : ∀ {i p}, s.running i = some p → .start i ∈ s.log
  live : ∀ {i p x}, s.running i = some p → .done i x ∉ s.log
  ended : ∀ {i x}, .done i x ∈ s.log → .start i ∈ s.log
  events : ∀ {i}, .start i ∉ s.log → eventsOf i s.log = []
  steps : ∀ {i p}, s.running i = some p →
    Steps (tracing fun _ _ => True) (S.prog i) [] p (eventsOf i s.log)

theorem Follows.init : Follows S ⟨fun _ => none, []⟩ where
  started h := nomatch h
  live h := nomatch h
  ended h := nomatch h
  events _ := rfl
  steps h := nomatch h

theorem Follows.stop {s : State Ans ε α ι} (h : Follows S s) (i : ι) {log : List (Entry Ans ε α ι)}
    (hevents : ∀ j, eventsOf j log = eventsOf j s.log)
    (hstart : ∀ j, .start j ∈ log ↔ .start j ∈ s.log)
    (hdone : ∀ j x, .done j x ∈ log → .done j x ∈ s.log ∨ j = i ∧ .start i ∈ s.log) :
    Follows S ⟨Function.update s.running i none, log⟩ := by
  have hrunning {j : ι} {p : Prog Ans ε α} (hp : Function.update s.running i none j = some p) :
      j ≠ i ∧ s.running j = some p := by
    by_cases hj : j = i
    · subst hj
      rw [Function.update_self] at hp
      cases hp
    · rw [Function.update_of_ne hj] at hp
      exact ⟨hj, hp⟩
  refine ⟨fun hp => ?_, fun hp hd => ?_, fun hd => ?_, fun hs => ?_, fun hp => ?_⟩
  · exact (hstart _).mpr (h.started (hrunning hp).2)
  · rcases hdone _ _ hd with hd | ⟨hj, -⟩
    · exact h.live (hrunning hp).2 hd
    · exact (hrunning hp).1 hj
  · rw [hstart]
    rcases hdone _ _ hd with hd | ⟨rfl, hi⟩
    · exact h.ended hd
    · exact hi
  · rw [hevents]
    exact h.events fun hs' => hs ((hstart _).mpr hs')
  · rw [hevents]
    exact h.steps (hrunning hp).2

theorem Follows.go {s : State Ans ε α ι} (h : Follows S s) {i : ι} {q : Prog Ans ε α}
    {log : List (Entry Ans ε α ι)} (hi : .start i ∈ log)
    (hstart : ∀ j, .start j ∈ s.log → .start j ∈ log)
    (hdone : ∀ j x, .done j x ∈ log → .done j x ∈ s.log) (hlive : ∀ x, .done i x ∉ s.log)
    (hothers : ∀ j, j ≠ i → eventsOf j log = eventsOf j s.log)
    (hq : Steps (tracing fun _ _ => True) (S.prog i) [] q (eventsOf i log)) :
    Follows S ⟨Function.update s.running i (some q), log⟩ := by
  have hrunning {j : ι} {p : Prog Ans ε α} (hp : Function.update s.running i (some q) j = some p) :
      j = i ∧ p = q ∨ j ≠ i ∧ s.running j = some p := by
    by_cases hij : j = i
    · subst hij
      rw [Function.update_self] at hp
      cases hp
      exact .inl ⟨rfl, rfl⟩
    · rw [Function.update_of_ne hij] at hp
      exact .inr ⟨hij, hp⟩
  refine ⟨fun hp => ?_, fun hp hd => ?_, fun hd => ?_, @fun j hj => ?_, fun hp => ?_⟩
  · rcases hrunning hp with ⟨rfl, -⟩ | ⟨-, hp⟩
    · exact hi
    · exact hstart _ (h.started hp)
  · rcases hrunning hp with ⟨rfl, -⟩ | ⟨-, hp⟩
    · exact hlive _ (hdone _ _ hd)
    · exact h.live hp (hdone _ _ hd)
  · exact hstart _ (h.ended (hdone _ _ hd))
  · have hne : j ≠ i := by
      rintro rfl
      exact hj hi
    rw [hothers j hne]
    exact h.events fun hmem => hj (hstart j hmem)
  · rcases hrunning hp with ⟨rfl, rfl⟩ | ⟨hij, hp⟩
    · exact hq
    · rw [hothers _ hij]
      exact h.steps hp

theorem Follows.step {s s' : State Ans ε α ι} (h : Follows S s) (hs : Step S s s') :
    Follows S s' := by
  cases hs with
  | start hnew _ =>
      refine h.go (List.mem_cons_self ..) (fun j => List.mem_cons_of_mem _)
        (fun j x hd => by simpa using hd) (fun x hd => hnew (h.ended hd)) (fun _ _ => rfl) ?_
      rw [eventsOf, h.events hnew]
      exact .refl
  | perform hrun _ =>
      refine h.go (List.mem_cons_of_mem _ (h.started hrun)) (fun j => List.mem_cons_of_mem _)
        (fun j x hd => by simpa using hd) (fun x => h.live hrun) (fun j hj => ?_) ?_
      · rw [eventsOf, if_neg (Ne.symm hj)]
      · rw [eventsOf, if_pos rfl]
        exact (h.steps hrun).snoc rfl rfl
  | pure hrun =>
      refine h.stop _ (fun _ => rfl) (fun _ => by simp) fun j x hd => ?_
      rcases List.mem_cons.mp hd with hd | hd
      · cases hd
        exact .inr ⟨rfl, h.started hrun⟩
      · exact .inl hd
  | raise hrun =>
      refine h.stop _ (fun _ => rfl) (fun _ => by simp) fun j x hd => ?_
      rcases List.mem_cons.mp hd with hd | hd
      · cases hd
        exact .inr ⟨rfl, h.started hrun⟩
      · exact .inl hd
  | cancel i => exact h.stop i (fun _ => rfl) (fun _ => Iff.rfl) fun _ _ => .inl

theorem Recorded.step {s s' : State Ans ε α ι} (hf : Follows S s) (h : Recorded S s.log)
    (hs : Step S s s') : Recorded S s'.log := by
  cases hs with
  | start hnew hadmits => exact ⟨hnew, hadmits, h⟩
  | perform hrun hanswers =>
      exact ⟨hf.started hrun, ⟨_, hf.steps hrun⟩, hanswers, fun _ => hf.live hrun, h⟩
  | pure hrun => exact ⟨hf.started hrun, hf.steps hrun, fun _ => hf.live hrun, h⟩
  | raise hrun => exact ⟨hf.started hrun, hf.steps hrun, fun _ => hf.live hrun, h⟩
  | cancel i => exact h

theorem Reachable.recorded {s : State Ans ε α ι} (h : Reachable S s) :
    Follows S s ∧ Recorded S s.log := by
  induction h with
  | init => exact ⟨.init, trivial⟩
  | step _ hs ih => exact ⟨ih.1.step hs, ih.2.step ih.1 hs⟩

/-! ## A task on its own -/

/-- The log with some more events of one task. -/
def record (i : ι) : List (Event Ans) → List (Entry Ans ε α ι) → List (Entry Ans ε α ι)
  | [], log => log
  | e :: es, log => record i es (.event i e :: log)

/-- The events of the task are answered as they may be, one after the other. -/
def AllAnswered (S : System Ans ε α ι) (i : ι) : List (Event Ans) → List (Entry Ans ε α ι) → Prop
  | [], _ => True
  | ⟨o, a⟩ :: es, log => S.answers log i o a ∧ AllAnswered S i es (.event i ⟨o, a⟩ :: log)

theorem Reachable.go {i : ι} {p p' : Prog Ans ε α} {tr tr' : List (Event Ans)}
    (hsteps : Steps (tracing fun _ _ => True) p tr p' tr') :
    ∃ es, tr' = tr ++ es ∧ ∀ s : State Ans ε α ι, Reachable S s → s.running i = some p →
      AllAnswered S i es s.log →
        ∃ s', Reachable S s' ∧ s'.running i = some p' ∧ s'.log = record i es s.log := by
  induction hsteps with
  | refl => exact ⟨[], (List.append_nil _).symm, fun s h hrun _ => ⟨s, h, hrun, rfl⟩⟩
  | @op o k a p' tr tr₁ tr' hs _ ih =>
      obtain ⟨es, rfl, ih⟩ := ih
      cases hs
      refine ⟨⟨o, a⟩ :: es, List.append_assoc .., fun s h hrun hans => ?_⟩
      exact ih _ (h.step (.perform hrun hans.1)) (Function.update_self ..) hans.2

theorem Reachable.serve_whole {s : State Ans ε α ι} {i : ι} {x : Except ε α}
    {es : List (Event Ans)} (h : Reachable S s) (hnew : .start i ∉ s.log)
    (hadmits : S.admits s.log i) (hreturns : Returns (S.prog i) es x)
    (hans : AllAnswered S i es (.start i :: s.log)) :
    ∃ s', Reachable S s' ∧ s'.log = .done i x :: record i es (.start i :: s.log) := by
  obtain ⟨es', rfl, hgo⟩ := Reachable.go (S := S) (i := i) hreturns
  obtain ⟨s', hs', hrun, hlog⟩ :=
    hgo _ (h.step (.start hnew hadmits)) (Function.update_self ..) hans
  cases x with
  | ok x => exact ⟨_, hs'.step (.pure hrun), by rw [hlog]⟩
  | error e => exact ⟨_, hs'.step (.raise hrun), by rw [hlog]⟩

end Runs

end Async
