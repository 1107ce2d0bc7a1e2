import DataWorkspace.Applications.Workspace

/-!
# How far a worker has come

A worker takes one message and spawns or stops an instance.  `Worked` is what it has done
so far, and `WorkerStep` what it may do next.  `Task.wp_working` proves of all tasks that
they keep to that, and that a worker that is over leaves no task which it has started,
whose address it has not stored, and which it has not asked to stop.
-/

namespace Applications

open Py Datasets Async

/-! ## What a worker has done -/

/-- What a worker has done with its message. -/
structure Worked where
  message : Option Message := none
  /-- The first answer to the query for the instance. -/
  read : Option (Except Exc ApplicationInstance) := none
  /-- The ARN in what it has stored last. -/
  recorded : Option Str := none
  task_arns : List Str := []
  /-- It has stored the address. -/
  published : Bool := false
  /-- The tasks it has asked to stop. -/
  asked : List Str := []

/-- The task that `FargateSpawner.stop` asks to stop. -/
def ApplicationInstance.task_arn (dep : Deployment) (a : ApplicationInstance) : Option Str :=
  (dep.cluster_name a.spawner_application_template_options).bind fun _ =>
    a.spawner_application_instance_id.task_arn?.join

def Message.application_instance_id : Message → Str
  | .spawn _ _ _ id _ => id
  | .stop _ id => id

namespace Worked

/-- What was done after an event. -/
def after : Worked → Event Ans → Worked
  | s, ⟨.receive, m⟩ => { s with message := some m }
  | s, ⟨.get_instance (.id _), r⟩ => { s with read := s.read.or (some r) }
  | s, ⟨.run_task _ _, .ok task_arn⟩ => { s with task_arns := task_arn :: s.task_arns }
  | s, ⟨.save_instance _ (.spawner_application_instance_id sid), some ()⟩ =>
      { s with recorded := sid.task_arn?.join }
  | s, ⟨.save_instance _ (.proxy_url _), some ()⟩ => { s with published := true }
  | s, ⟨.stop_task _ task_arn, _⟩ => { s with asked := task_arn :: s.asked }
  | s, _ => s

inductive Becomes (s : Worked) (e : Event Ans) : Worked → Prop where
  | same : Becomes s e s
  | took (m : Message) : e = ⟨.receive, m⟩ → Becomes s e { s with message := some m }
  | read (id : Str) (r : Except Exc ApplicationInstance) : e = ⟨.get_instance (.id id), r⟩ →
      Becomes s e { s with read := s.read.or (some r) }
  | started (cluster_name definition_arn task_arn : Str) :
      e = ⟨.run_task cluster_name definition_arn, .ok task_arn⟩ →
      Becomes s e { s with task_arns := task_arn :: s.task_arns }
  | recorded (id : Str) (sid : SpawnerInstanceId) :
      e = ⟨.save_instance id (.spawner_application_instance_id sid), some ()⟩ →
      Becomes s e { s with recorded := sid.task_arn?.join }
  | published (id url : Str) : e = ⟨.save_instance id (.proxy_url url), some ()⟩ →
      Becomes s e { s with published := true }
  | asked (cluster_name task_arn : Str) : e.1 = .stop_task cluster_name task_arn →
      Becomes s e { s with asked := task_arn :: s.asked }

theorem becomes_after (s : Worked) (e : Event Ans) : Becomes s e (s.after e) := by
  rw [after.eq_def]
  split
  next m => exact .took m rfl
  next id r => exact .read id r rfl
  next cluster_name definition_arn task_arn => exact .started _ _ task_arn rfl
  next id sid => exact .recorded id sid rfl
  next id url => exact .published id url rfl
  next => exact .asked _ _ rfl
  next => exact .same

/-- The worker spawns the instance. -/
def Spawns (s : Worked) (id : Str) : Prop :=
  ∃ name user tag options, s.message = some (.spawn name user tag id options)

/-- The worker was told to stop the instance, and has not read it. -/
def Told (s : Worked) (id : Str) : Prop := s.message = some (.stop .FARGATE id) ∧ s.read = none

/-- The worker was told to stop an instance, and has read that it has the task. -/
def Stops (dep : Deployment) (s : Worked) (task_arn : Str) : Prop :=
  ∃ id a, s.message = some (.stop .FARGATE id) ∧ s.read = some (.ok a) ∧
    a.task_arn dep = some task_arn

/-- What holds when a worker is over. -/
structure Over (dep : Deployment) (s : Worked) : Prop where
  read : ∀ id, ¬ s.Told id
  stopped : ∀ task_arn, s.Stops dep task_arn → task_arn ∈ s.asked
  started : ∀ task_arn ∈ s.task_arns, s.published = true ∨ task_arn ∈ s.asked

end Worked

/-- What a worker may do next. -/
def WorkerStep (dep : Deployment) : Op → Worked → Prop
  | .receive, s => s = {}
  | .get_instance (.id id), s => s.read = none →
      s.message.map Message.application_instance_id = some id
  | .run_task _ _, s => s.published = false ∧ ∃ name user tag id options,
      s.message = some (.spawn name user tag id options) ∧
        (dep.fargate_options options).isSome = true
  | .save_instance id (.spawner_application_instance_id sid), s =>
      (∃ a, s.read = some (.ok a) ∧ a.id = id) ∧ (∃ id, s.Spawns id) ∧
        ∀ task_arn ∈ s.task_arns, s.published = false ∧ sid.task_arn?.join = some task_arn
  | .save_instance id (.proxy_url _), s =>
      (∃ a, s.read = some (.ok a) ∧ a.id = id) ∧
        ∀ task_arn ∈ s.task_arns, s.recorded = some task_arn
  | _, _ => True

/-- The interpretation over what a worker has done. -/
abbrev working (dep : Deployment) : Interp Ans Worked := summing Worked.after (WorkerStep dep)

/-! ## The programs -/

section Programs

variable {dep : Deployment} {α : Type} {s : Worked} {m : Message} {a : ApplicationInstance}

/-- Operations that are no work on an instance. -/
def Unworked (dep : Deployment) (o : Op) : Prop :=
  (∀ s r, Worked.after s ⟨o, r⟩ = s) ∧ ∀ s, WorkerStep dep o s

theorem unworked_external (x : External) : Unworked dep (.external x) :=
  ⟨fun _ _ => rfl, fun _ => trivial⟩

theorem unworked_core (o : Core.Op) : Unworked dep (.core o) := ⟨fun _ _ => rfl, fun _ => trivial⟩

theorem unworked_create_db_user (row : ApplicationInstanceDbUsers) :
    Unworked dep (.create_db_user row) :=
  ⟨fun _ _ => rfl, fun _ => trivial⟩

theorem wp_unworked {ε : Type} {p : Prog Ans ε α} {Q : Except ε α → Worked → Prop}
    (hp : p.Only (Unworked dep)) (hQ : ∀ r, Q r s) : wp (working dep) p Q s :=
  wp_summing_of_only hp (fun _ h => h.2 s) (fun _ r h => h.1 s r) hQ

/-- A message was taken and its instance was read, and no task was started. -/
structure Calm (m : Message) (a : ApplicationInstance) (s : Worked) : Prop where
  message : s.message = some m
  read : s.read = some (.ok a)
  task_arns : s.task_arns = []
  published : s.published = false

/-- A task was started. -/
structure Launched (m : Message) (a : ApplicationInstance) (task_arn : Str) (s : Worked) :
    Prop where
  message : s.message = some m
  read : s.read = some (.ok a)
  task_arns : s.task_arns = [task_arn]
  published : s.published = false

/-- What the `except` block finds. -/
def Failed (m : Message) (a : ApplicationInstance) (vars : Started) (s : Worked) : Prop :=
  (vars.task_arn = none ∧ Calm m a s) ∨
    ∃ task_arn, vars.task_arn = some task_arn ∧ Launched m a task_arn s

/-- What the `try` block leaves. -/
def Attempted (m : Message) (a : ApplicationInstance) : Except Started Unit → Worked → Prop
  | .ok _, s => s.message = some m ∧ s.published = true
  | .error vars, s => Failed m a vars s

/-- The operations before a task is started. -/
def CalmOp (dep : Deployment) (a : ApplicationInstance) (o : Op) : Prop :=
  Unworked dep o ∨ ∃ sid, o = .save_instance a.id (.spawner_application_instance_id sid)

theorem wp_calm {ε : Type} {p : Prog Ans ε α} {Q : Except ε α → Worked → Prop}
    (hspawns : ∃ name user tag id options, m = .spawn name user tag id options)
    (hp : p.Only (CalmOp dep a)) (hQ : ∀ r s, Calm m a s → Q r s) (hs : Calm m a s) :
    wp (working dep) p Q s := by
  refine wp_kept hp (fun o s ho hs => ?_) (fun s o r ho hs => ?_) hQ hs
  · rcases ho with ho | ⟨sid, rfl⟩
    · exact ho.2 s
    · obtain ⟨name, user, tag, id, options, rfl⟩ := hspawns
      refine ⟨⟨a, hs.read, rfl⟩, ⟨id, name, user, tag, options, hs.message⟩, fun task_arn h => ?_⟩
      rw [hs.task_arns] at h
      cases h
  · rcases ho with ho | ⟨sid, rfl⟩
    · rw [ho.1 s r]
      exact hs
    · cases r with
      | none => exact hs
      | some _ => exact ⟨hs.message, hs.read, hs.task_arns, hs.published⟩

theorem wp_trying {vars : Started} {p : M α} {R : Except Exc α → Worked → Prop}
    {Q : Except Started α → Worked → Prop} (hp : wp (working dep) p R s)
    (hok : ∀ x s, R (.ok x) s → Q (.ok x) s)
    (herror : ∀ e s, R (.error e) s → Q (.error vars) s) : wp (working dep) (trying vars p) Q s := by
  refine (wp_bind _ _ Q s).mpr ((wp_attempt p _ s).mpr (wp_mono (fun r s hs => ?_) p s hp))
  cases r with
  | ok x => exact hok x s hs
  | error e => exact herror e s hs

theorem wp_trying_bind {β : Type} {vars : Started} {p : M α} {f : α → Prog Ans Started β}
    {R : Except Exc α → Worked → Prop} {Q : Except Started β → Worked → Prop}
    (hp : wp (working dep) p R s) (hok : ∀ x s, R (.ok x) s → wp (working dep) (f x) Q s)
    (herror : ∀ e s, R (.error e) s → Q (.error vars) s) :
    wp (working dep) (trying vars p >>= f) Q s :=
  (wp_bind _ f Q s).mpr (wp_trying hp hok herror)

theorem wp_trying_calm {β : Type} {vars : Started} {p : M α} {f : α → Prog Ans Started β}
    {Q : Except Started β → Worked → Prop}
    (hspawns : ∃ name user tag id options, m = .spawn name user tag id options)
    (hp : p.Only (CalmOp dep a)) (hs : Calm m a s)
    (hok : ∀ x s, Calm m a s → wp (working dep) (f x) Q s)
    (herror : ∀ s, Calm m a s → Q (.error vars) s) :
    wp (working dep) (trying vars p >>= f) Q s :=
  wp_trying_bind (wp_calm hspawns hp (fun _ _ h => h) hs) hok fun _ => herror

theorem only_calm_call (x : External) : (call x).Only (CalmOp dep a) :=
  only_call (.inl (unworked_external x))

theorem only_calm_wait_for_pipeline (pipeline_id : Nat) :
    ∀ n, (wait_for_pipeline pipeline_id n).Only (CalmOp dep a)
  | 0 => (only_calm_call _).bind fun _ => trivial
  | n + 1 => by
      refine (only_calm_call _).bind fun status => ?_
      split
      next => trivial
      next =>
        split
        next => trivial
        next => exact only_calm_wait_for_pipeline pipeline_id n

theorem wp_build_tag {vars : Started} {options : FargateOptions} {tag : Option Str}
    {Q : Except Started Started → Worked → Prop}
    (hspawns : ∃ name user tag id options, m = .spawn name user tag id options)
    (hvars : vars.task_arn = none) (hs : Calm m a s)
    (hok : ∀ v s, v.task_arn = none → Calm m a s → Q (.ok v) s)
    (herror : ∀ v s, v.task_arn = none → Calm m a s → Q (.error v) s) :
    wp (working dep) (build_tag vars a options tag) Q s := by
  rw [build_tag]
  split
  next => exact hok vars s hvars hs
  next =>
    refine wp_trying_calm hspawns (only_calm_call _) hs (fun tag_exists s hs => ?_)
      (herror _ · hvars)
    cases tag_exists with
    | true => exact hok vars s hvars hs
    | false =>
        refine wp_trying_calm hspawns (only_calm_call _) hs (fun pipeline s hs => ?_)
          (herror _ · hvars)
        cases pipeline with
        | none => exact herror vars s hvars hs
        | some pipeline_id =>
            refine wp_trying_calm hspawns (only_save (.inr ⟨_, rfl⟩)) hs (fun _ s hs => ?_)
              (herror _ · hvars)
            refine wp_trying_calm hspawns (only_calm_wait_for_pipeline _ _) hs (fun _ s hs => ?_)
              (herror _ · hvars)
            exact hok _ s hvars hs

theorem wp_run_task {name : SpawnerName} {user : User} {tag : Option Str} {id options : Str}
    {cluster_name definition_arn : Str} {Q : Except Exc Str → Worked → Prop}
    (hoptions : (dep.fargate_options options).isSome = true)
    (hok : ∀ arn s, Launched (.spawn name user tag id options) a arn s → Q (.ok arn) s)
    (herror : ∀ e s, Calm (.spawn name user tag id options) a s → Q (.error e) s) :
    ∀ {n : Nat} {s : Worked}, Calm (.spawn name user tag id options) a s →
      wp (working dep) (run_task cluster_name definition_arn n) Q s
  | 0, s, hs => herror _ s hs
  | n + 1, s, hs => by
      refine wp_summing.mpr ⟨⟨hs.published, name, user, tag, id, options, hs.message, hoptions⟩,
        fun r => ?_⟩
      rcases r with e | arn
      · cases e with
        | ClientError => exact wp_run_task hoptions hok herror hs
        | other => exact herror _ _ hs
      · refine hok arn _ ⟨hs.message, hs.read, ?_, hs.published⟩
        exact congrArg (arn :: ·) hs.task_arns

theorem wp_wait_for_ip {cluster_name port arn : Str} {Q : Except Exc Unit → Worked → Prop}
    (hok : ∀ s : Worked, s.message = some m → s.published = true → Q (.ok ()) s)
    (herror : ∀ e s, Launched m a arn s → Q (.error e) s) :
    ∀ {n : Nat} {s : Worked}, Launched m a arn s → s.recorded = some arn →
      wp (working dep) (wait_for_ip a.id cluster_name port arn n) Q s
  | 0, s, hs, _ => herror _ s hs
  | n + 1, s, hs, hrecorded => by
      refine wp_summing.mpr ⟨trivial, fun r => ?_⟩
      rcases r with _ | ip_address
      · exact herror _ _ hs
      · dsimp only [Prog.bind]
        split
        next =>
          refine wp_summing.mpr ⟨⟨⟨a, hs.read, rfl⟩, fun arn' h => ?_⟩, fun r => ?_⟩
          · have hmem : arn' ∈ s.task_arns := h
            rw [hs.task_arns] at hmem
            obtain rfl := List.mem_singleton.mp hmem
            exact hrecorded
          · cases r with
            | none => exact herror _ _ hs
            | some _ => exact hok _ hs.message rfl
        next => exact wp_wait_for_ip hok herror hs hrecorded

theorem wp_after_task_run {vars : Started} {options : FargateOptions} {arn : Str}
    (hspawns : ∃ name user tag id options, m = .spawn name user tag id options)
    (hvars : vars.task_arn = some arn) (hs : Launched m a arn s) :
    wp (working dep) (after_task_run vars a.id options arn) (Attempted m a) s := by
  have hfailed {s : Worked} (hs : Launched m a arn s) : Attempted m a (.error vars) s :=
    .inr ⟨arn, hvars, hs⟩
  refine wp_trying_bind (R := fun r s => Launched m a arn s ∧ (r = .ok () → s.recorded = some arn))
    ?_ (fun _ s hs => ?_) fun _ _ hs => hfailed hs.1
  · obtain ⟨name, user, tag, id, opts, rfl⟩ := hspawns
    refine wp_summing.mpr ⟨⟨⟨a, hs.read, rfl⟩, ⟨id, name, user, tag, opts, hs.message⟩,
      fun arn' h => ?_⟩, fun r => ?_⟩
    · rw [hs.task_arns] at h
      obtain rfl := List.mem_singleton.mp h
      exact ⟨hs.published, rfl⟩
    · cases r with
      | none =>
          refine ⟨hs, fun hr => ?_⟩
          cases hr
      | some _ => exact ⟨⟨hs.message, hs.read, hs.task_arns, hs.published⟩, fun _ => rfl⟩
  · obtain ⟨hs, hrecorded⟩ := hs
    refine wp_trying_bind (R := fun _ s => Launched m a arn s ∧ s.recorded = some arn) ?_
      (fun refreshed s hs => ?_) fun _ _ hs => hfailed hs.1
    · refine wp_summing.mpr ⟨fun hread => ?_, fun r => ?_⟩
      · rw [hs.read] at hread
        cases hread
      · have hs' : Launched m a arn (s.after ⟨.get_instance (.id a.id), r⟩) := by
          refine ⟨hs.message, ?_, hs.task_arns, hs.published⟩
          rw [Worked.after, hs.read]
          rfl
        cases r with
        | error e => exact ⟨hs', hrecorded rfl⟩
        | ok refreshed => exact ⟨hs', hrecorded rfl⟩
    · split
      next => exact hfailed hs.1
      next =>
        refine wp_trying (R := fun r s => r.isOk = true ∧ s.message = some m ∧ s.published = true ∨
          r.isOk = false ∧ Launched m a arn s) (wp_wait_for_ip (fun s hm hp => .inl ⟨rfl, hm, hp⟩)
          (fun e s hs => .inr ⟨rfl, hs⟩) hs.1 hs.2) (fun _ s h => ?_) fun e s h => ?_
        · rcases h with h | h
          · exact h.2
          · cases h.1
        · rcases h with h | h
          · cases h.1
          · exact hfailed h.2

theorem wp_start {name : SpawnerName} {user : User} {tag : Option Str} {id options : Str}
    {creds : List Core.Credentials} (hs : Calm (.spawn name user tag id options) a s) :
    wp (working dep) (FargateSpawner.start dep user tag a options creds)
      (Attempted (.spawn name user tag id options) a) s := by
  have hspawns : ∃ name' user' tag' id' options', (Message.spawn name user tag id options) =
      .spawn name' user' tag' id' options' := ⟨name, user, tag, id, options, rfl⟩
  rw [FargateSpawner.start]
  split
  next => exact .inl ⟨rfl, hs⟩
  next o ho =>
    have hfailed {vars : Started} (hvars : vars.task_arn = none) {s : Worked}
        (hs : Calm (.spawn name user tag id options) a s) :
        Attempted (.spawn name user tag id options) a (.error vars) s := .inl ⟨hvars, hs⟩
    refine wp_trying_calm hspawns (only_create_db_users fun _ _ => .inl
      (unworked_create_db_user _)) hs (fun _ s hs => ?_) fun _ => hfailed rfl
    refine wp_trying_calm hspawns (only_calm_call _) hs (fun _ s hs => ?_) fun _ => hfailed rfl
    refine (wp_bind _ _ _ s).mpr (wp_build_tag hspawns rfl hs (fun v s hv hs => ?_)
      fun v s hv hs => hfailed hv hs)
    refine wp_trying_calm hspawns (only_calm_call _) hs (fun _ s hs => ?_) fun _ => hfailed hv
    refine wp_trying_bind (R := fun r s => (∃ arn, r = .ok arn ∧
      Launched (.spawn name user tag id options) a arn s) ∨
      r.isOk = false ∧ Calm (.spawn name user tag id options) a s)
      (wp_run_task (by rw [ho]; rfl) (fun arn s hs => .inl ⟨arn, rfl, hs⟩)
        (fun e s hs => .inr ⟨rfl, hs⟩) hs) (fun arn s h => ?_) fun e s h => ?_
    · rcases h with ⟨arn', he, hs⟩ | h
      · cases he
        exact wp_after_task_run hspawns rfl hs
      · cases h.1
    · rcases h with ⟨arn', he, hs⟩ | h
      · cases he
      · exact hfailed hv h.2

theorem over_of_spawns {name : SpawnerName} {user : User} {tag : Option Str} {id options : Str}
    (hm : s.message = some (.spawn name user tag id options))
    (h : ∀ arn ∈ s.task_arns, s.published = true ∨ arn ∈ s.asked) : s.Over dep := by
  refine ⟨fun id' hid => ?_, fun arn hid => ?_, h⟩
  · have he := hm.symm.trans hid.1
    cases he
  · obtain ⟨id', a', hm', -⟩ := hid
    have he := hm.symm.trans hm'
    cases he

theorem wp_fargate_spawn {name : SpawnerName} {user : User} {tag : Option Str} {id options : Str}
    {creds : List Core.Credentials} (hs : Calm (.spawn name user tag id options) a s) :
    wp (working dep) (FargateSpawner.spawn dep user tag a options creds)
      (fun _ s => s.Over dep) s := by
  refine (wp_bind _ _ _ s).mpr ((wp_attempt _ _ s).mpr (wp_mono (fun r s hr => ?_) _ s
    (wp_start hs)))
  cases r with
  | ok u => exact over_of_spawns hr.1 fun _ _ => .inl hr.2
  | error vars =>
      refine wp_bind_of (R := fun _ s => s.Over dep) ?_ (fun _ s hs => ?_) fun _ _ h => h
      · rcases hr with ⟨hnone, hs⟩ | ⟨arn, harn, hs⟩
        · rw [hnone]
          refine over_of_spawns hs.message fun arn h => ?_
          rw [hs.task_arns] at h
          cases h
        · rw [harn]
          refine wp_summing.mpr ⟨trivial, fun _ => over_of_spawns hs.message fun arn' h => .inr ?_⟩
          have hmem : arn' ∈ s.task_arns := h
          rw [hs.task_arns] at hmem
          exact List.mem_cons.mpr (.inl (List.mem_singleton.mp hmem))
      · refine wp_unworked ?_ fun _ => hs
        cases vars.pipeline_id with
        | none => trivial
        | some pipeline_id => exact only_call (unworked_external _)

theorem wp_process_spawn {name : SpawnerName} {user : User} {tag : Option Str} {id options : Str}
    {creds : List Core.Credentials} (hs : Calm (.spawn name user tag id options) a s) :
    wp (working dep) (ProcessSpawner.spawn dep a options creds) (fun _ s => s.Over dep) s := by
  let F (s : Worked) : Prop := s.message = some (.spawn name user tag id options) ∧
    s.read = some (.ok a) ∧ s.task_arns = []
  have hquiet {o : Op} (ho : Unworked dep o) : ∀ s, F s →
      WorkerStep dep o s ∧ ∀ r, F (s.after ⟨o, r⟩) := fun s hs =>
    ⟨ho.2 s, fun r => by
      rw [ho.1 s r]
      exact hs⟩
  have hnone {s : Worked} (hs : F s) {Q : Prop} {arn : Str} (h : arn ∈ s.task_arns) : Q := by
    rw [hs.2.2] at h
    cases h
  refine wp_kept (P := fun o => ∀ s, F s → WorkerStep dep o s ∧ ∀ r, F (s.after ⟨o, r⟩))
    (only_process_spawn _ (fun x => hquiet (unworked_external x)) (fun sid s hs => ⟨⟨⟨a, hs.2.1, rfl⟩,
      ⟨id, name, user, tag, options, hs.1⟩, fun arn h => hnone hs h⟩, fun r => ?_⟩)
      (fun url s hs => ⟨⟨⟨a, hs.2.1, rfl⟩, fun arn h => hnone hs h⟩, fun r => ?_⟩)
      fun c _ => hquiet (unworked_create_db_user _))
    (fun o s ho hs => (ho s hs).1) (fun s o r ho hs => (ho s hs).2 r)
    (fun _ s hs => over_of_spawns hs.1 fun arn h => hnone hs h) ⟨hs.message, hs.read, hs.task_arns⟩
  · cases r with
    | none => exact hs
    | some _ => exact hs
  · cases r with
    | none => exact hs
    | some _ => exact hs

/-- `spawn` leaves no task that it neither published nor asked to stop. -/
theorem wp_spawn (name : SpawnerName) (user : User) (tag : Option Str) (id options : Str) :
    wp (working dep) (spawn dep name user tag id options) (fun _ s => s.Over dep)
      { message := some (.spawn name user tag id options) } := by
  have hspawns : ∃ name' user' tag' id' options', (Message.spawn name user tag id options) =
      .spawn name' user' tag' id' options' := ⟨name, user, tag, id, options, rfl⟩
  have hover {a : ApplicationInstance} {s : Worked}
      (hs : Calm (.spawn name user tag id options) a s) : s.Over dep :=
    over_of_spawns hs.message fun arn h => by
      rw [hs.task_arns] at h
      cases h
  have hcalm {α β : Type} {p : M α} {f : α → M β} {a : ApplicationInstance} {s : Worked}
      (hs : Calm (.spawn name user tag id options) a s) (hp : p.Only (Unworked dep))
      (hf : ∀ x s, Calm (.spawn name user tag id options) a s →
        wp (working dep) (f x) (fun _ s => s.Over dep) s) :
      wp (working dep) (p >>= f) (fun _ s => s.Over dep) s :=
    wp_bind_of (wp_calm hspawns (hp.mono fun _ => .inl) (fun _ _ h => h) hs) hf
      fun _ _ hs => hover hs
  refine wp_bind_of (R := fun r s => (∀ a, r = .ok a → Calm (.spawn name user tag id options) a s) ∧
    (r.isOk = false → s.Over dep)) ?_ (fun a s hs => ?_) fun _ _ hs => hs.2 rfl
  · refine wp_summing.mpr ⟨fun _ => rfl, fun r => ?_⟩
    cases r with
    | error e =>
        refine ⟨fun b hb => ?_, fun _ => over_of_spawns rfl fun _ h => ?_⟩
        · cases hb
        · cases h
    | ok a =>
        refine ⟨fun b hb => ?_, fun hb => ?_⟩
        · cases hb
          exact ⟨rfl, rfl, rfl, rfl⟩
        · cases hb
  · refine hcalm (hs.1 a rfl) (only_database_access _ _ unworked_external) fun access s hs =>
      hcalm hs (only_await ⟨fun _ _ => rfl, fun _ => trivial⟩) fun db_user s hs =>
        hcalm hs (only_credentials unworked_core) fun creds s hs =>
          hcalm hs (only_share_credentials _ _ unworked_external) fun _ s hs => ?_
    cases name with
    | PROCESS => exact wp_process_spawn hs
    | FARGATE => exact wp_fargate_spawn hs

theorem wp_stop (name : SpawnerName) (id : Str) :
    wp (working dep) (stop dep name id) (fun _ s => s.Over dep)
      { message := some (.stop name id) } := by
  have hstarted {s : Worked} (hs : s.task_arns = []) :
      ∀ arn ∈ s.task_arns, s.published = true ∨ arn ∈ s.asked := by
    intro arn h
    rw [hs] at h
    cases h
  cases name with
  | PROCESS =>
      have hover {s : Worked} (hm : s.message = some (.stop .PROCESS id)) (hs : s.task_arns = []) :
          s.Over dep := by
        refine ⟨fun id' hid => ?_, fun arn hid => ?_, hstarted hs⟩
        · have he := hm.symm.trans hid.1
          cases he
        · obtain ⟨id', a', hm', -⟩ := hid
          have he := hm.symm.trans hm'
          cases he
      refine wp_summing.mpr ⟨fun _ => rfl, fun r => ?_⟩
      rcases r with e | a
      · exact hover rfl rfl
      · refine wp_unworked ?_ fun _ => hover rfl rfl
        dsimp only [Prog.bind]
        split
        next => exact (only_call (unworked_external _)).attempt.bind fun _ => trivial
        next => trivial
  | FARGATE =>
      refine wp_summing.mpr ⟨fun _ => rfl, fun r => ?_⟩
      rcases r with e | a
      · refine ⟨fun id' hid => (nomatch hid.2), fun arn hid => ?_, hstarted rfl⟩
        obtain ⟨id', a', -, ha, -⟩ := hid
        cases ha
      · have hover {s : Worked} (hread : s.read = some (.ok a)) (hs : s.task_arns = [])
            (harn : ∀ arn, a.task_arn dep = some arn → arn ∈ s.asked) : s.Over dep := by
          refine ⟨fun id' hid => ?_, fun arn hid => ?_, hstarted hs⟩
          · have he := hread.symm.trans hid.2
            cases he
          · obtain ⟨id', a', -, ha, hid⟩ := hid
            cases hread.symm.trans ha
            exact harn arn hid
        dsimp only [Prog.bind]
        split
        next hcluster =>
          refine hover rfl rfl fun arn harn => ?_
          rw [ApplicationInstance.task_arn, hcluster] at harn
          cases harn
        next cluster_name hcluster =>
          split
          next hid =>
            refine hover rfl rfl fun arn harn => ?_
            rw [ApplicationInstance.task_arn, hcluster, hid] at harn
            cases harn
          next hid =>
            refine hover rfl rfl fun arn harn => ?_
            rw [ApplicationInstance.task_arn, hcluster, hid] at harn
            cases harn
          next task_arn hid =>
            refine wp_summing.mpr ⟨trivial, fun _ => hover rfl rfl fun arn harn => ?_⟩
            rw [ApplicationInstance.task_arn, hcluster, hid] at harn
            cases harn
            exact List.mem_singleton_self _

/-- The other tasks take no messages and read no instance by its id. -/
theorem unworked_of_api {o : Op} (h : ApiOp o) : Unworked dep o := by
  cases o with
  | get_instance q =>
      cases q with
      | visible public_host => exact ⟨fun _ _ => rfl, fun _ => trivial⟩
      | id id => exact h.elim
      | owned owner public_host => exact h.elim
  | save_instance id u =>
      rcases h with rfl | rfl
      · exact ⟨fun _ _ => rfl, fun _ => trivial⟩
      · exact ⟨fun _ _ => rfl, fun _ => trivial⟩
  | external x => exact unworked_external x
  | _ => exact h.elim

theorem unworked_of_stop {o : Op} (h : StopOp o) : Unworked dep o := by
  cases o with
  | get_instance q =>
      cases q with
      | id id => exact h.elim
      | _ => exact ⟨fun _ _ => rfl, fun _ => trivial⟩
  | save_instance id u =>
      cases h
      exact ⟨fun _ _ => rfl, fun _ => trivial⟩
  | old_instances => exact ⟨fun _ _ => rfl, fun _ => trivial⟩
  | delay m => exact ⟨fun _ _ => rfl, fun _ => trivial⟩
  | external x => exact unworked_external x
  | _ => exact h.elim

theorem unworked_of_database {o : Op} (h : DatabaseOp o) : Unworked dep o := by
  cases o with
  | core o => exact unworked_core o
  | external x => exact unworked_external x
  | acquire lock_name => exact ⟨fun _ _ => rfl, fun _ => trivial⟩
  | release lock_name => exact ⟨fun _ _ => rfl, fun _ => trivial⟩
  | usenames db => exact ⟨fun _ _ => rfl, fun _ => trivial⟩
  | in_use_usenames db names => exact ⟨fun _ _ => rfl, fun _ => trivial⟩
  | db_persistent_roles db names => exact ⟨fun _ _ => rfl, fun _ => trivial⟩
  | drop db st => exact ⟨fun _ _ => rfl, fun _ => trivial⟩
  | _ => exact h.elim

theorem over_start : ({} : Worked).Over dep := by
  refine ⟨fun _ h => ?_, fun _ h => ?_, fun _ h => ?_⟩
  · cases h.1
  · obtain ⟨id, a, hm, -⟩ := h
    cases hm
  · cases h

theorem Task.wp_unworked (t : Task) (h : ∀ o, t.Footprint dep o → Unworked dep o) :
    wp (working dep) (t.prog dep) (fun _ s => s.Over dep) {} :=
  Applications.wp_unworked (t.only.mono h) fun _ => over_start

theorem unworked_view (request : Request) {o : Op}
    (h : Task.Footprint dep (.application_api_view request) o) : Unworked dep o := by
  rcases h with h | ⟨found, cpu, memory, -, rfl⟩ | ⟨name, user, tag, id, options, rfl⟩
  · exact unworked_of_api h
  · exact ⟨fun _ _ => rfl, fun _ => trivial⟩
  · exact ⟨fun _ _ => rfl, fun _ => trivial⟩

theorem wp_worker : wp (working dep) (worker dep) (fun _ s => s.Over dep) {} := by
  refine wp_summing.mpr ⟨rfl, fun m => ?_⟩
  cases m with
  | spawn name user tag id options => exact wp_spawn name user tag id options
  | stop name id => exact wp_stop name id

theorem Task.wp_working : ∀ t : Task,
    wp (working dep) (t.prog dep) (fun _ s => s.Over dep) {}
  | .application_api_view request => Task.wp_unworked _ fun _ => unworked_view request
  | .tools_html_POST _ _ => Task.wp_unworked _ fun _ => unworked_of_stop
  | .visualisation_branch_html_POST _ _ => Task.wp_unworked _ fun _ => unworked_of_stop
  | .kill_idle_fargate => Task.wp_unworked _ fun _ => unworked_of_stop
  | .worker => wp_worker
  | .delete_unused_datasets_users => Task.wp_unworked _ fun _ => unworked_of_database
  | .cleanup_temporary_query_tables _ => Task.wp_unworked _ fun _ => unworked_of_database
  | .new_private_database_credentials _ _ _ _ _ =>
      Task.wp_unworked _ fun _ => unworked_of_database

end Programs

end Applications
