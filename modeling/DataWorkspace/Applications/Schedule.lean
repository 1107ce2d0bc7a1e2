import DataWorkspace.Applications.SpawnerState
import DataWorkspace.Applications.Workspace

/-!
# Spawning against the clock

A spawn takes its time: the worker is busy, databases and AWS answer slowly, an image is
built.  `pace` runs `FargateSpawner.start` with a clock and keeps when it recorded what.  At
any moment `FargateSpawner.state` may be asked what it makes of that record.

The two have their own limits, and `seen_running_iff` says how slow each part of a spawn may
be before an instance that is still starting is said to have stopped.
-/

namespace Applications

open Py Datasets Async

/-! ## What is decoded -/

def portText : Json → Option Str
  | .str port => some port
  | .int port => some (Json.int port).dumps
  | _ => none

/-- The options of `spawn`.  Those that only need to be there are not kept. -/
def FargateOptions.loads (spawner_options : Str) : Option FargateOptions := do
  let options ← Json.loads spawner_options
  match ← options.item? "CLUSTER_NAME", ← options.item? "DEFINITION_ARN" with
  | .str cluster_name, .str definition_arn => do
      let port ← portText (← options.item? "PORT")
      let _ ← options.item? "CONTAINER_NAME"
      let _ ← options.item? "SECURITY_GROUPS"
      let _ ← options.item? "SUBNETS"
      let _ ← options.item? "S3_SYNC"
      let _ ← options.item? "S3_REGION"
      let _ ← options.item? "S3_HOST"
      let _ ← options.item? "S3_BUCKET"
      some
        { CLUSTER_NAME := cluster_name
          DEFINITION_ARN := definition_arn
          ECR_REPOSITORY_NAME :=
            match options.item? "ECR_REPOSITORY_NAME" with
            | some (.str repository) => some repository
            | _ => none
          PORT := port }
  | _, _ => none

/-- `json.loads(options)["CLUSTER_NAME"]`. -/
def loads_cluster_name (options : Str) : Option Str := do
  let options ← Json.loads options
  match ← options.item? "CLUSTER_NAME" with
  | .str cluster_name => some cluster_name
  | _ => none

theorem FargateOptions.cluster_name_of_loads {spawner_options : Str} {o : FargateOptions}
    (h : FargateOptions.loads spawner_options = some o) :
    ∃ options, Json.loads spawner_options = some options ∧
      options.item? "CLUSTER_NAME" = some (.str o.CLUSTER_NAME) := by
  rw [loads] at h
  obtain ⟨options, hoptions, h⟩ := Option.bind_eq_some_iff.mp h
  obtain ⟨cluster_name, hcluster, h⟩ := Option.bind_eq_some_iff.mp h
  obtain ⟨definition_arn, -, h⟩ := Option.bind_eq_some_iff.mp h
  refine ⟨options, hoptions, ?_⟩
  split at h
  next =>
    simp only [Option.bind_eq_bind, Option.bind_eq_some_iff, Option.some.injEq] at h
    obtain ⟨-, -, -, -, -, -, -, -, -, -, -, -, -, -, -, -, -, -, rfl⟩ := h
    exact hcluster
  next => cases h

theorem loads_cluster_name_of_options {options : Str} {o : FargateOptions}
    (h : FargateOptions.loads options = some o) : loads_cluster_name options = some o.CLUSTER_NAME := by
  obtain ⟨json, hjson, hcluster⟩ := FargateOptions.cluster_name_of_loads h
  rw [loads_cluster_name, hjson]
  simp only [Option.bind_eq_bind, Option.bind_some, hcluster]

def Deployment.decoding (dep : Deployment) : Deployment :=
  { dep with
    fargate_options := FargateOptions.loads
    cluster_name := loads_cluster_name
    cluster_name_of_options := loads_cluster_name_of_options }

/-- What a spawner has recorded. -/
def SpawnerInstanceId.json : SpawnerInstanceId → Json
  | .empty => .obj []
  | .process process_id => .obj [("process_id", .int process_id)]
  | .fargate pipeline_id task_arn =>
      .obj [("pipeline_id", (pipeline_id.map fun n : Nat => Json.int n).getD .null),
        ("task_arn", (task_arn.map .str).getD .null)]

/-- The column it is stored in. -/
def SpawnerInstanceId.text (id : SpawnerInstanceId) : Str := id.json.dumps

theorem SpawnerInstanceId.loads_text (id : SpawnerInstanceId) : Json.loads id.text = some id.json := by
  cases id with
  | empty => rfl
  | process process_id =>
      refine Json.loads_dumps_obj (by simp) ?_
      simp only [List.forall_mem_cons, List.not_mem_nil, false_imp_iff, implies_true, and_true]
      exact Int.natCast_nonneg _
  | fargate pipeline_id task_arn =>
      refine Json.loads_dumps_obj (by simp) ?_
      simp only [List.forall_mem_cons, List.not_mem_nil, false_imp_iff, implies_true, and_true]
      constructor
      · cases pipeline_id with
        | none => trivial
        | some n => exact Int.natCast_nonneg n
      · cases task_arn with
        | none => trivial
        | some arn => trivial

/-! ## The services -/

/-- A pipeline that succeeds.  GitLab says when it finished once it has. -/
structure Pipeline where
  status : Int → Str
  finished : Int
  finished_at : Str
  running : ∀ t, t < finished → status t ∉ SUCCESS_PIPELINE_STATUSES
  success : ∀ t, finished ≤ t → status t ∈ SUCCESS_PIPELINE_STATUSES
  reads : strptime finished_at = some finished

/-- The pipelines, by their ids, and the status of each task of a cluster, which ECS may not
know for a while. -/
structure Environment where
  pipelines : Nat → Pipeline
  task_status : Str → Str → Int → Option Str

/-- What GitLab answers at a moment. -/
def Environment.pipeline_get (env : Environment) (t : Int) : Json → Option Json
  | .int id =>
      let pipeline := env.pipelines id.toNat
      some (.obj [("id", .int id), ("status", .str (pipeline.status t)),
        ("finished_at", if t < pipeline.finished then .null else .str pipeline.finished_at)])
  | _ => none

/-- What ECS answers at a moment. -/
def Environment.describe_tasks (env : Environment) (t : Int) : Json → Json → Option Json
  | .str cluster_name, .str arn =>
      some (.obj [("tasks", .arr (match env.task_status cluster_name arn t with
        | some status => [.obj [("taskArn", .str arn), ("lastStatus", .str status)]]
        | none => []))])
  | _, _ => none

/-- Both at a moment. -/
def Environment.services (env : Environment) (t : Int) : Services where
  pipeline_get := env.pipeline_get t
  pipeline_get_again := env.pipeline_get t
  describe_tasks := env.describe_tasks t

/-! ## The clock -/

/-- The time, and what has been recorded at which times, the last first. -/
structure Clock where
  now : Int
  records : List (Int × SpawnerInstanceId)

/-- What is recorded at a moment. -/
def Clock.recorded (s : Clock) (t : Int) : SpawnerInstanceId :=
  ((s.records.find? fun r => decide (r.1 ≤ t)).map Prod.snd).getD .empty

/-- Time passes, and nothing is recorded. -/
def Clock.Passes (s s' : Clock) : Prop := s.now ≤ s'.now ∧ s'.records = s.records

/-- How an operation is answered and how long that takes.  The `gevent.sleep(3)` of a loop is
a part of the operation it comes before or after.  GitLab numbers its pipelines from 1, and
the ARN of a task is not empty. -/
def Answered (env : Environment) : (o : Op) → Clock → Ans o → Clock → Prop
  | .save_instance _ (.spawner_application_instance_id id), s, some (), s' =>
      s.now ≤ s'.now ∧ s'.records = (s'.now, id) :: s.records
  | .external (.pipeline_trigger _ _ _ _), s, some (some pipeline_id), s' =>
      s.Passes s' ∧ pipeline_id ≠ 0
  | .external (.pipeline_get pipeline_id), s, some status, s' =>
      s.Passes s' ∧ ∃ asked, s.now + seconds 3 ≤ asked ∧ asked ≤ s'.now ∧
        status = (env.pipelines pipeline_id).status asked
  | .run_task _ _, s, .ok task_arn, s' => s.Passes s' ∧ task_arn ≠ []
  | .run_task _ _, s, .error .ClientError, s' => s.Passes s' ∧ s.now + seconds 3 ≤ s'.now
  | .external (.task_ip _ _), s, some [], s' => s.Passes s' ∧ s.now + seconds 3 ≤ s'.now
  | _, s, _, s' => s.Passes s'

/-- A program against the clock. -/
def pace (env : Environment) : Interp Ans Clock where
  step := Answered env
  pre _ _ := True

variable {env : Environment} {s s' s'' : Clock}

theorem Clock.Passes.refl (s : Clock) : s.Passes s := ⟨Int.le_refl _, rfl⟩

theorem Clock.Passes.trans (h : s.Passes s') (h' : s'.Passes s'') : s.Passes s'' :=
  ⟨Int.le_trans h.1 h'.1, h'.2.trans h.2⟩

/-! ## Programs against the clock -/

/-- An operation that records nothing. -/
def RecordsNothing (o : Op) : Prop :=
  ∀ id i, o ≠ .save_instance id (.spawner_application_instance_id i)

theorem Answered.passes {o : Op} {a : Ans o} (ho : RecordsNothing o) (h : Answered env o s a s') :
    s.Passes s' := by
  unfold Answered at h
  split at h
  next => exact absurd rfl (ho _ _)
  next => exact h.1
  next => exact h.1
  next => exact h.1
  next => exact h.1
  next => exact h.1
  next => exact h

theorem wp_passes {ε α : Type} {p : Prog Ans ε α} (hp : p.Only RecordsNothing) (s : Clock) :
    wp (pace env) p (onOk fun _ s' => s.Passes s') s := by
  induction p generalizing s with
  | pure a => exact .refl s
  | raise e => trivial
  | op o k ih =>
      refine ⟨trivial, fun a s' hs => ?_⟩
      refine wp_mono (fun r s'' h => ?_) _ _ (ih a (hp.2 a) s')
      cases r with
      | ok x => exact (Answered.passes hp.1 hs).trans h
      | error e => trivial

theorem wp_trying_onOk {α : Type} {vars : Started} {p : M α} {F : α → Clock → Prop}
    (hp : wp (pace env) p (onOk F) s) : wp (pace env) (trying vars p) (onOk F) s := by
  have hattempt : wp (pace env) (p.attempt : Prog Ans Started (Except Exc α))
      (onOk fun r s => onOk F r s) s := (wp_attempt p _ s).mpr hp
  refine wp_bind_onOk hattempt fun r s h => ?_
  cases r with
  | ok a => exact h
  | error e => trivial

theorem wp_trying_passes {α : Type} {vars : Started} {p : M α} (hp : p.Only RecordsNothing)
    (s : Clock) : wp (pace env) (trying vars p) (onOk fun _ s' => s.Passes s') s :=
  wp_trying_onOk (wp_passes hp s)

theorem recordsNothing_external (x : External) : RecordsNothing (.external x) :=
  fun _ _ => Op.noConfusion

theorem wp_record (id : Str) (i : SpawnerInstanceId) (s : Clock) :
    wp (pace env) (save id (.spawner_application_instance_id i))
      (onOk fun _ s' => s.now ≤ s'.now ∧ s'.records = (s'.now, i) :: s.records) s := by
  refine ⟨trivial, fun a s' hs => ?_⟩
  cases a with
  | none => trivial
  | some u => exact hs

theorem wp_pipeline_trigger (gitlab_project_id : Nat) (commit_id repository tag : Str) (s : Clock) :
    wp (pace env) (call (.pipeline_trigger gitlab_project_id commit_id repository tag))
      (onOk fun pipeline s' => s.Passes s' ∧ pipeline ≠ some 0) s := by
  refine ⟨trivial, fun a s' hs => ?_⟩
  rcases a with _ | _ | pipeline_id
  · trivial
  · exact ⟨hs, Option.some_ne_none 0 |>.symm⟩
  · exact ⟨hs.1, fun h => hs.2 (Option.some.inj h)⟩

/-- GitLab is asked three seconds after the last time, or later, until it says that the
pipeline has succeeded. -/
theorem wp_wait_for_pipeline (pipeline_id : Nat) (n : Nat) (s : Clock) :
    wp (pace env) (wait_for_pipeline pipeline_id n)
      (onOk fun _ s' => s.Passes s' ∧ ∃ asked, s.now + seconds 3 ≤ asked ∧ asked ≤ s'.now ∧
        (env.pipelines pipeline_id).status asked ∈ SUCCESS_PIPELINE_STATUSES) s := by
  induction n generalizing s with
  | zero =>
      refine wp_bind_onOk (wp_passes (only_call (recordsNothing_external _)) s) fun _ _ _ => trivial
  | succ n ih =>
      refine ⟨trivial, fun a s' hs => ?_⟩
      cases a with
      | none => trivial
      | some status =>
          obtain ⟨hpasses, asked, hlater, hasked, rfl⟩ := hs
          show wp (pace env) (if _ then _ else _) _ s'
          split_ifs with hfailed hsuccess
          · trivial
          · exact ⟨hpasses, asked, hlater, hasked, hsuccess⟩
          · refine wp_mono (fun r s'' h => ?_) _ _ (ih s')
            cases r with
            | error e => trivial
            | ok u =>
                obtain ⟨hpasses', asked', hlater', hasked', hsuccess'⟩ := h
                have hnow := hpasses.1
                exact ⟨hpasses.trans hpasses', asked', by omega, hasked', hsuccess'⟩

theorem wp_run_task_passes (cluster_name definition_arn : Str) (n : Nat) (s : Clock) :
    wp (pace env) (run_task cluster_name definition_arn n)
      (onOk fun task_arn s' => s.Passes s' ∧ task_arn ≠ []) s := by
  induction n generalizing s with
  | zero => trivial
  | succ n ih =>
      refine ⟨trivial, fun a s' hs => ?_⟩
      rcases a with e | task_arn
      · cases e with
        | other => trivial
        | ClientError =>
            refine wp_mono (fun r s'' h => ?_) _ _ (ih s')
            cases r with
            | error e => trivial
            | ok task_arn => exact ⟨hs.1.trans h.1, h.2⟩
      · exact hs

theorem only_wait_for_ip_records (id cluster_name port task_arn : Str) :
    ∀ n, (wait_for_ip id cluster_name port task_arn n).Only RecordsNothing
  | 0 => trivial
  | n + 1 => by
      refine (only_call (recordsNothing_external _)).bind fun ip_address => ?_
      split
      next => exact only_save fun _ _ h => nomatch h
      next => exact only_wait_for_ip_records id cluster_name port task_arn n

/-! ## What a spawn records -/

/-- What a spawn that succeeds has recorded at its end. -/
inductive Scheduled (env : Environment) (start : Int) : Clock → Prop where
  | direct {now task : Int} {task_arn : Str} : start ≤ task → task ≤ now → task_arn ≠ [] →
      Scheduled env start ⟨now, [(task, .fargate none (some task_arn))]⟩
  | built {now task asked triggered : Int} {pipeline_id : Nat} {task_arn : Str} :
      start ≤ triggered → triggered + seconds 3 ≤ asked → asked ≤ task → task ≤ now →
      pipeline_id ≠ 0 → task_arn ≠ [] →
      (env.pipelines pipeline_id).status asked ∈ SUCCESS_PIPELINE_STATUSES →
      Scheduled env start
        ⟨now, [(task, .fargate (some pipeline_id) (some task_arn)),
          (triggered, .fargate (some pipeline_id) none)]⟩

/-- What it has recorded before its task runs. -/
inductive Building (env : Environment) (start : Int) : Started → Clock → Prop where
  | direct {vars : Started} {now : Int} : vars.pipeline_id = none → start ≤ now →
      Building env start vars ⟨now, []⟩
  | built {vars : Started} {now asked triggered : Int} {pipeline_id : Nat} :
      vars.pipeline_id = some pipeline_id → start ≤ triggered →
      triggered + seconds 3 ≤ asked → asked ≤ now → pipeline_id ≠ 0 →
      (env.pipelines pipeline_id).status asked ∈ SUCCESS_PIPELINE_STATUSES →
      Building env start vars ⟨now, [(triggered, .fargate (some pipeline_id) none)]⟩

theorem Building.passes {start : Int} {vars : Started} (h : Building env start vars s)
    (hs : s.Passes s') : Building env start vars s' := by
  obtain ⟨now, records⟩ := s'
  obtain ⟨hnow, hrecords⟩ := hs
  dsimp only at hnow hrecords
  subst hrecords
  cases h with
  | direct hvars hstart => exact .direct hvars (Int.le_trans hstart hnow)
  | built hvars hstart hlater hasked hid hsuccess =>
      exact .built hvars hstart hlater (Int.le_trans hasked hnow) hid hsuccess

theorem wp_build_tag_building {vars : Started} {a : ApplicationInstance} {options : FargateOptions}
    {tag : Option Str} {start : Int} (hvars : vars.pipeline_id = none) (hstart : start ≤ s.now)
    (hrecords : s.records = []) :
    wp (pace env) (build_tag vars a options tag) (onOk (Building env start)) s := by
  have hdirect : ∀ s' : Clock, s.Passes s' → Building env start vars s' := by
    intro s' hs'
    refine Building.passes (s := ⟨s.now, []⟩) (.direct hvars hstart) ⟨hs'.1, ?_⟩
    exact hs'.2.trans hrecords
  rw [build_tag]
  split
  next => exact hdirect s (.refl s)
  next =>
    refine wp_bind_onOk (wp_trying_passes (only_call (recordsNothing_external _)) s)
      fun tag_exists s₁ h₁ => ?_
    cases tag_exists with
    | true => exact hdirect s₁ h₁
    | false =>
        refine wp_bind_onOk (wp_trying_onOk (wp_pipeline_trigger _ _ _ _ s₁))
          fun pipeline s₂ h₂ => ?_
        rcases pipeline with _ | pipeline_id
        · trivial
        · refine wp_bind_onOk (wp_trying_onOk (wp_record _ _ s₂)) fun _ s₃ h₃ => ?_
          refine wp_bind_onOk (wp_trying_onOk (wp_wait_for_pipeline pipeline_id 900 s₃))
            fun _ s₄ h₄ => ?_
          obtain ⟨hpasses, asked, hlater, hasked, hsuccess⟩ := h₄
          have hnil : s₂.records = [] := (h₂.1.2.trans h₁.2).trans hrecords
          have htriggered : start ≤ s₃.now :=
            Int.le_trans hstart (Int.le_trans h₁.1 (Int.le_trans h₂.1.1 h₃.1))
          have hid : pipeline_id ≠ 0 := fun he => h₂.2 (congrArg some he)
          have hrecorded : s₄.records = [(s₃.now, .fargate (some pipeline_id) none)] := by
            rw [hpasses.2, h₃.2, hnil]
          obtain ⟨now, records⟩ := s₄
          dsimp only at hrecorded hasked
          subst hrecorded
          exact .built rfl htriggered hlater hasked hid hsuccess

theorem wp_after_task_run_scheduled {vars : Started} {id : Str} {options : FargateOptions}
    {task_arn : Str} {start : Int} (h : Building env start vars s) (harn : task_arn ≠ []) :
    wp (pace env) (after_task_run { vars with task_arn := some task_arn } id options task_arn)
      (onOk fun _ s' => Scheduled env start s') s := by
  refine wp_bind_onOk (wp_trying_onOk (wp_record _ _ s)) fun _ s₁ h₁ => ?_
  have hscheduled : ∀ s' : Clock, s₁.Passes s' → Scheduled env start s' := by
    intro s' hs'
    obtain ⟨now, records⟩ := s'
    obtain ⟨hnow, hrecords⟩ := hs'
    dsimp only at hnow hrecords
    rw [h₁.2] at hrecords
    subst hrecords
    cases h with
    | direct hvars hstart =>
        rw [hvars]
        exact .direct (Int.le_trans hstart h₁.1) hnow harn
    | built hvars hstart hlater hasked hid hsuccess =>
        rw [hvars]
        exact .built hstart hlater (Int.le_trans hasked h₁.1) hnow hid harn hsuccess
  refine wp_bind_onOk (wp_trying_passes (only_get fun _ _ h => nomatch h) s₁)
    fun refreshed s₂ h₂ => ?_
  split
  next => trivial
  next =>
    refine wp_mono (fun r s' hs' => ?_) _ _
      (wp_trying_passes (only_wait_for_ip_records id options.CLUSTER_NAME options.PORT task_arn 60) s₂)
    cases r with
    | error e => trivial
    | ok u => exact hscheduled s' (h₂.trans hs')

/-- A spawn that succeeds has recorded its task, and before that its pipeline if it needed
one. -/
theorem wp_start_scheduled (dep : Deployment) (user : User) (tag : Option Str)
    (a : ApplicationInstance) (spawner_options : Str) (creds : List Core.Credentials) (start : Int) :
    wp (pace env) (FargateSpawner.start dep user tag a spawner_options creds)
      (onOk fun _ s' => Scheduled env start s') ⟨start, []⟩ := by
  rw [FargateSpawner.start]
  split
  next => trivial
  next options _ =>
    have husers : (create_db_users a.id creds).Only RecordsNothing :=
      only_create_db_users fun _ _ _ _ h => by cases h
    refine wp_bind_onOk (wp_trying_passes husers _) fun _ s₁ h₁ => ?_
    refine wp_bind_onOk (wp_trying_passes (only_call (recordsNothing_external _)) s₁)
      fun _ s₂ h₂ => ?_
    have hpasses := h₁.trans h₂
    refine wp_bind_onOk (wp_build_tag_building rfl hpasses.1 hpasses.2) fun vars s₃ h₃ => ?_
    refine wp_bind_onOk (wp_trying_passes (only_call (recordsNothing_external _)) s₃)
      fun definition_arn s₄ h₄ => ?_
    refine wp_bind_onOk (wp_trying_onOk (wp_run_task_passes _ _ 10 s₄)) fun task_arn s₅ h₅ => ?_
    exact wp_after_task_run_scheduled (h₃.passes (h₄.trans h₅.1)) h₅.2

theorem scheduled_of_steps {dep : Deployment} {user : User} {tag : Option Str}
    {a : ApplicationInstance} {spawner_options : Str} {creds : List Core.Credentials} {start : Int}
    (h : Steps (pace env) (FargateSpawner.start dep user tag a spawner_options creds) ⟨start, []⟩
      (.pure ()) s) : Scheduled env start s :=
  wp_steps h (wp_start_scheduled dep user tag a spawner_options creds start)

/-! ## What `state` makes of it -/

section State

variable {spawner_options : Str} {o : FargateOptions} {created_date t : Int} {pipeline_id : Nat}
  {task_arn : Str}

theorem running_if_iff {p : Prop} [Decidable p] :
    some (if p then InstanceState.RUNNING else .STOPPED) = some .RUNNING ↔ p := by
  split_ifs with h
  · exact iff_of_true rfl h
  · exact iff_of_false (fun he => nomatch he) h

theorem state_text {options : Json} {id : SpawnerInstanceId}
    (hoptions : Json.loads spawner_options = some options) :
    FargateSpawner.state (env.services t) t spawner_options created_date id.text =
      some ((FargateSpawner.decoded_state (env.services t) t options created_date id.json).getD
        .STOPPED) := by
  rw [FargateSpawner.state, hoptions, id.loads_text]

/-- The task, as ECS describes it. -/
def Environment.task (env : Environment) (t : Int) (cluster_name arn : Str) : Json :=
  match env.task_status cluster_name arn t with
  | some status => .obj [("taskArn", .str arn), ("lastStatus", .str status)]
  | none => .null

theorem _fargate_task_describe_services (cluster_name arn : Str) :
    _fargate_task_describe (env.services t) (.str cluster_name) (.str arn) =
      some (env.task t cluster_name arn) := by
  simp only [_fargate_task_describe, Environment.services, Environment.describe_tasks,
    Option.bind_eq_bind, Option.bind_some, Environment.task]
  cases env.task_status cluster_name arn t with
  | none => rfl
  | some status => rfl

theorem state_of_pipeline_services (thirty_minutes_ago : Int) :
    state_of_pipeline (env.services t) created_date thirty_minutes_ago (.int pipeline_id) =
      some (if (env.pipelines pipeline_id).status t ∈ RUNNING_PIPELINE_STATUSES ∧
          created_date > thirty_minutes_ago then some .RUNNING
        else if (env.pipelines pipeline_id).status t ∉ SUCCESS_PIPELINE_STATUSES then some .STOPPED
        else none) := by
  have hmem (statuses : List Str) :
      Json.str ((env.pipelines pipeline_id).status t) ∈ statuses.map Json.str ↔
        (env.pipelines pipeline_id).status t ∈ statuses :=
    List.mem_map_of_injective fun _ _ h => Json.str.inj h
  have hget : (env.services t).pipeline_get (.int pipeline_id) =
      env.pipeline_get t (.int pipeline_id) := rfl
  rw [state_of_pipeline, hget, Environment.pipeline_get]
  show (if Json.str ((env.pipelines pipeline_id).status t) ∈ _ ∧ _ then _
    else if Json.str ((env.pipelines pipeline_id).status t) ∉ _ then _ else _) = _
  simp only [hmem]
  split_ifs <;> rfl

theorem truthy_pipeline_id (hid : pipeline_id ≠ 0) : (Json.int pipeline_id).truthy = true := by
  simpa only [Json.truthy, bne_iff_ne, ne_eq, Int.natCast_eq_zero] using hid

theorem task_should_be_created_services (hid : pipeline_id ≠ 0) :
    task_should_be_created (env.services t) created_date (.int pipeline_id) =
      if t < (env.pipelines pipeline_id).finished then none
      else some (env.pipelines pipeline_id).finished := by
  have htruthy := truthy_pipeline_id hid
  have hget : (env.services t).pipeline_get_again (.int pipeline_id) =
      env.pipeline_get t (.int pipeline_id) := rfl
  rw [task_should_be_created, if_pos htruthy, hget, Environment.pipeline_get]
  show (match if t < (env.pipelines pipeline_id).finished then Json.null
    else Json.str (env.pipelines pipeline_id).finished_at with
    | .str finished_at => strptime finished_at
    | _ => none) = _
  split_ifs with h
  · rfl
  · exact (env.pipelines pipeline_id).reads

theorem running_empty_iff (ho : FargateOptions.loads spawner_options = some o) :
    FargateSpawner.state (env.services t) t spawner_options created_date
        SpawnerInstanceId.empty.text = some .RUNNING ↔ t < created_date + seconds 60 := by
  obtain ⟨options, hoptions, hcluster⟩ := FargateOptions.cluster_name_of_loads ho
  have hdecoded : FargateSpawner.decoded_state (env.services t) t options created_date
      SpawnerInstanceId.empty.json =
        some (if created_date > t - seconds 60 then .RUNNING else .STOPPED) := by
    rw [FargateSpawner.decoded_state, hcluster]
    rfl
  rw [state_text hoptions, hdecoded, Option.getD_some, running_if_iff]
  omega

theorem running_pipeline_iff (ho : FargateOptions.loads spawner_options = some o)
    (hid : pipeline_id ≠ 0) :
    FargateSpawner.state (env.services t) t spawner_options created_date
        (SpawnerInstanceId.fargate (some pipeline_id) none).text = some .RUNNING ↔
      ((env.pipelines pipeline_id).status t ∈ RUNNING_PIPELINE_STATUSES ∧
          t < created_date + minutes 30) ∨
        ((env.pipelines pipeline_id).finished ≤ t ∧
          t < (env.pipelines pipeline_id).finished + seconds 60) := by
  obtain ⟨options, hoptions, hcluster⟩ := FargateOptions.cluster_name_of_loads ho
  have htruthy := truthy_pipeline_id hid
  have htask : (SpawnerInstanceId.fargate (some pipeline_id) none).json.get? "task_arn" =
      some .null := rfl
  have hpipeline : (SpawnerInstanceId.fargate (some pipeline_id) none).json.get? "pipeline_id" =
      some (.int pipeline_id) := rfl
  rw [state_text hoptions,
    FargateSpawner.decoded_state_pipeline hcluster htask hpipeline rfl htruthy,
    state_of_pipeline_services, task_should_be_created_services hid, Option.bind_some]
  have hrunning := (env.pipelines pipeline_id).running t
  have hsuccess := (env.pipelines pipeline_id).success t
  have hdisjoint : ∀ status ∈ RUNNING_PIPELINE_STATUSES, status ∉ SUCCESS_PIPELINE_STATUSES := by
    decide
  by_cases hfinished : t < (env.pipelines pipeline_id).finished
  · have hright : ¬ ((env.pipelines pipeline_id).finished ≤ t ∧
        t < (env.pipelines pipeline_id).finished + seconds 60) := fun h => by omega
    rw [if_pos (hrunning hfinished), or_iff_left hright]
    split_ifs with hrun
    · exact iff_of_true rfl ⟨hrun.1, by omega⟩
    · exact iff_of_false (fun h => nomatch h) fun h => hrun ⟨h.1, by omega⟩
  · have hdone := hsuccess (Int.not_lt.mp hfinished)
    have hover : ¬ ((env.pipelines pipeline_id).status t ∈ RUNNING_PIPELINE_STATUSES ∧
        created_date > t - minutes 30) := fun h => hdisjoint _ h.1 hdone
    have hleft : ¬ ((env.pipelines pipeline_id).status t ∈ RUNNING_PIPELINE_STATUSES ∧
        t < created_date + minutes 30) := fun h => hdisjoint _ h.1 hdone
    rw [if_neg hover, if_neg (not_not.mpr hdone), if_neg hfinished, or_iff_right hleft]
    show some (if _ then _ else _) = _ ↔ _
    rw [running_if_iff]
    omega

theorem running_task_iff (ho : FargateOptions.loads spawner_options = some o)
    (harn : task_arn ≠ []) {pipeline : Option Nat} {due : Int}
    (hdue : task_should_be_created (env.services t) created_date
      ((pipeline.map fun n : Nat => Json.int n).getD .null) = some due) :
    FargateSpawner.state (env.services t) t spawner_options created_date
        (SpawnerInstanceId.fargate pipeline (some task_arn)).text = some .RUNNING ↔
      match env.task_status o.CLUSTER_NAME task_arn t with
      | some status => status ∈ RUNNING_TASK_STATUSES
      | none => t < due + minutes 3 := by
  obtain ⟨options, hoptions, hcluster⟩ := FargateOptions.cluster_name_of_loads ho
  have htruthy : (Json.str task_arn).truthy = true := by
    simpa only [Json.truthy, Bool.not_eq_true', List.isEmpty_eq_false_iff] using harn
  have htask : (SpawnerInstanceId.fargate pipeline (some task_arn)).json.get? "task_arn" =
      some (.str task_arn) := rfl
  have hpipeline : (SpawnerInstanceId.fargate pipeline (some task_arn)).json.get? "pipeline_id" =
      some ((pipeline.map fun n : Nat => Json.int n).getD .null) := rfl
  rw [state_text hoptions, FargateSpawner.decoded_state_task hcluster htask hpipeline htruthy, hdue,
    Option.bind_some, _fargate_task_describe_services, Option.bind_some, Environment.task]
  cases hstatus : env.task_status o.CLUSTER_NAME task_arn t with
  | none =>
      show some (if _ then _ else _) = _ ↔ _
      rw [running_if_iff]
      omega
  | some status =>
      show some (if Json.str status ∈ RUNNING_TASK_STATUSES.map Json.str then _ else _) = _ ↔ _
      rw [running_if_iff]
      exact List.mem_map_of_injective fun _ _ h => Json.str.inj h

end State

end Applications
