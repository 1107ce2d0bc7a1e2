import DataWorkspace.Applications.Spawner
import DataWorkspace.Py.Datetime
import DataWorkspace.Py.Dumps

/-!
# The state of a Fargate task

`FargateSpawner.state` is asked, while an instance is starting and after it, whether its
spawner is running.  It reads what `spawn` has recorded, asks GitLab for the pipeline and ECS
for the task, and has its own limits for how long each part of a spawn may take.

`spawn` records what it has started as a JSON object, which is `{}` until then.
-/

namespace Applications

open Py Datasets Async

/-! ## The state -/

/-- What GitLab and ECS answer, with the JSON of their responses.  A call that raises answers
nothing. -/
structure Services where
  /-- `_gitlab_ecr_pipeline_get(pipeline_id)`, the first time. -/
  pipeline_get : Json → Option Json
  /-- The same, the second time. -/
  pipeline_get_again : Json → Option Json
  /-- `client.describe_tasks(cluster=cluster_name, tasks=[arn])`. -/
  describe_tasks : Json → Json → Option Json

/-- `_fargate_task_describe`.  `null` stands for `None`. -/
def _fargate_task_describe (services : Services) (cluster_name arn : Json) : Option Json := do
  let described_tasks ← services.describe_tasks cluster_name arn
  match described_tasks.item? "tasks", described_tasks.item? "task" with
  | some (.arr (task :: _)), _ => some task
  | some tasks, task => if tasks.truthy then none else some (task.getD .null)
  | none, task => some (task.getD .null)

/-- If the pipeline was started but not yet the task: `RUNNING` or `STOPPED`, or nothing once
the pipeline has succeeded. -/
def state_of_pipeline (services : Services) (created_date thirty_minutes_ago : Int)
    (pipeline_id : Json) : Option (Option InstanceState) := do
  let pipeline ← services.pipeline_get pipeline_id
  let pipeline_status ← pipeline.item? "status"
  if pipeline_status ∈ RUNNING_PIPELINE_STATUSES.map .str ∧ created_date > thirty_minutes_ago then
    some (some .RUNNING)
  else if pipeline_status ∉ SUCCESS_PIPELINE_STATUSES.map .str then some (some .STOPPED)
  else some none

def task_should_be_created (services : Services) (created_date : Int) (pipeline_id : Json) :
    Option Int :=
  if pipeline_id.truthy then do
    let pipeline ← services.pipeline_get_again pipeline_id
    match ← pipeline.item? "finished_at" with
    | .str finished_at => strptime finished_at
    | _ => none
  else some created_date

def RUNNING_TASK_STATUSES : List Str := ["PROVISIONING", "PENDING", "RUNNING"]

def state_of_task (task : Json) (should_be_created three_minutes_ago : Int) :
    Option InstanceState :=
  if task = .null then some (if should_be_created > three_minutes_ago then .RUNNING else .STOPPED)
  else do
    let lastStatus ← task.item? "lastStatus"
    some (if lastStatus ∈ RUNNING_TASK_STATUSES.map .str then .RUNNING else .STOPPED)

/-- What `state` does after its arguments are decoded, `none` where it raises. -/
def FargateSpawner.decoded_state (services : Services) (now : Int) (spawner_options : Json)
    (created_date : Int) (spawner_application_id_parsed : Json) : Option InstanceState := do
  let cluster_name ← spawner_options.item? "CLUSTER_NAME"
  let task_arn ← spawner_application_id_parsed.get? "task_arn"
  let pipeline_id ← spawner_application_id_parsed.get? "pipeline_id"
  -- give sixty seconds for something to start
  if ¬ pipeline_id.truthy ∧ ¬ task_arn.truthy then
    some (if created_date > now - seconds 60 then .RUNNING else .STOPPED)
  else do
    let early ← (if pipeline_id.truthy ∧ ¬ task_arn.truthy then
      state_of_pipeline services created_date (now - minutes 30) pipeline_id else some none :
        Option (Option InstanceState))
    match early with
    | some state => some state
    | none => do
        let should_be_created ← task_should_be_created services created_date pipeline_id
        -- sixty seconds to create the task
        if ¬ task_arn.truthy then
          some (if should_be_created > now - seconds 60 then .RUNNING else .STOPPED)
        else do
          -- and three minutes to get the task itself
          let task ← _fargate_task_describe services cluster_name task_arn
          state_of_task task should_be_created (now - minutes 3)

section Decoded

variable {services : Services} {now created_date : Int} {spawner_options parsed cluster_name task_arn
  pipeline_id : Json}

theorem FargateSpawner.decoded_state_pipeline
    (hcluster : spawner_options.item? "CLUSTER_NAME" = some cluster_name)
    (htask : parsed.get? "task_arn" = some task_arn)
    (hpipeline : parsed.get? "pipeline_id" = some pipeline_id) (hno : task_arn.truthy = false)
    (hyes : pipeline_id.truthy = true) :
    FargateSpawner.decoded_state services now spawner_options created_date parsed =
      (state_of_pipeline services created_date (now - minutes 30) pipeline_id).bind fun early =>
        match early with
        | some state => some state
        | none => (task_should_be_created services created_date pipeline_id).map fun due =>
            if due > now - seconds 60 then .RUNNING else .STOPPED := by
  have hstart : ¬ (¬ pipeline_id.truthy = true ∧ ¬ task_arn.truthy = true) := fun h => h.1 hyes
  have hbuild : pipeline_id.truthy = true ∧ ¬ task_arn.truthy = true :=
    ⟨hyes, by rw [hno]; exact Bool.false_ne_true⟩
  rw [FargateSpawner.decoded_state, hcluster, htask, hpipeline]
  simp only [Option.bind_eq_bind, Option.bind_some, if_neg hstart, if_pos hbuild]
  refine congrArg _ (funext fun early => ?_)
  cases early with
  | some state => rfl
  | none =>
      dsimp only
      rw [Option.map_eq_bind]
      refine congrArg _ (funext fun due => ?_)
      exact if_pos hbuild.2

theorem FargateSpawner.decoded_state_task
    (hcluster : spawner_options.item? "CLUSTER_NAME" = some cluster_name)
    (htask : parsed.get? "task_arn" = some task_arn)
    (hpipeline : parsed.get? "pipeline_id" = some pipeline_id) (hyes : task_arn.truthy = true) :
    FargateSpawner.decoded_state services now spawner_options created_date parsed =
      (task_should_be_created services created_date pipeline_id).bind fun due =>
        (_fargate_task_describe services cluster_name task_arn).bind fun task =>
          state_of_task task due (now - minutes 3) := by
  have hstart : ¬ (¬ pipeline_id.truthy = true ∧ ¬ task_arn.truthy = true) := fun h => h.2 hyes
  have hbuild : ¬ (pipeline_id.truthy = true ∧ ¬ task_arn.truthy = true) := fun h => h.2 hyes
  rw [FargateSpawner.decoded_state, hcluster, htask, hpipeline]
  simp only [Option.bind_eq_bind, Option.bind_some, if_neg hstart, if_neg hbuild]
  refine congrArg _ (funext fun due => ?_)
  exact if_neg (not_not.mpr hyes)

end Decoded

/-- `FargateSpawner.state`, `none` where it raises.  Its `except` logs
`spawner_application_id_parsed`, which has no value until both arguments are decoded. -/
def FargateSpawner.state (services : Services) (now : Int) (spawner_options : Str)
    (created_date : Int) (spawner_application_id : Str) : Option InstanceState :=
  match Json.loads spawner_options, Json.loads spawner_application_id with
  | some spawner_options, some spawner_application_id_parsed =>
      some ((FargateSpawner.decoded_state services now spawner_options created_date
        spawner_application_id_parsed).getD .STOPPED)
  | _, _ => none

def SpawnerState (state : InstanceState) : Prop := state = .RUNNING ∨ state = .STOPPED

theorem spawnerState_if {p : Prop} [Decidable p] :
    SpawnerState (if p then .RUNNING else .STOPPED) := by
  split_ifs with h
  · exact .inl rfl
  · exact .inr rfl

theorem spawnerState_of_pipeline {services : Services} {created_date thirty_minutes_ago : Int}
    {pipeline_id : Json} {state : InstanceState}
    (h : state_of_pipeline services created_date thirty_minutes_ago pipeline_id =
      some (some state)) : SpawnerState state := by
  rw [state_of_pipeline] at h
  obtain ⟨pipeline, -, h⟩ := Option.bind_eq_some_iff.mp h
  obtain ⟨status, -, h⟩ := Option.bind_eq_some_iff.mp h
  by_cases hrunning : status ∈ RUNNING_PIPELINE_STATUSES.map .str ∧
      created_date > thirty_minutes_ago
  · rw [if_pos hrunning] at h
    cases h
    exact .inl rfl
  · rw [if_neg hrunning] at h
    by_cases hfailed : status ∉ SUCCESS_PIPELINE_STATUSES.map .str
    · rw [if_pos hfailed] at h
      cases h
      exact .inr rfl
    · rw [if_neg hfailed] at h
      cases h

theorem spawnerState_of_task {task : Json} {due three_minutes_ago : Int} {state : InstanceState}
    (h : state_of_task task due three_minutes_ago = some state) : SpawnerState state := by
  rw [state_of_task] at h
  split_ifs at h with hnull hdue
  · cases h
    exact .inl rfl
  · cases h
    exact .inr rfl
  · obtain ⟨status, -, h⟩ := Option.bind_eq_some_iff.mp h
    cases h
    exact spawnerState_if

theorem FargateSpawner.spawnerState_decoded {services : Services} {now created_date : Int}
    {spawner_options parsed : Json} {state : InstanceState}
    (h : FargateSpawner.decoded_state services now spawner_options created_date parsed =
      some state) : SpawnerState state := by
  rw [FargateSpawner.decoded_state] at h
  obtain ⟨cluster_name, -, h⟩ := Option.bind_eq_some_iff.mp h
  obtain ⟨task_arn, -, h⟩ := Option.bind_eq_some_iff.mp h
  obtain ⟨pipeline_id, -, h⟩ := Option.bind_eq_some_iff.mp h
  by_cases hnothing : ¬ pipeline_id.truthy = true ∧ ¬ task_arn.truthy = true
  · rw [if_pos hnothing] at h
    cases h
    exact spawnerState_if
  · rw [if_neg hnothing] at h
    obtain ⟨early, hearly, h⟩ := Option.bind_eq_some_iff.mp h
    cases early with
    | some early =>
        cases h
        by_cases hbuild : pipeline_id.truthy = true ∧ ¬ task_arn.truthy = true
        · rw [if_pos hbuild] at hearly
          exact spawnerState_of_pipeline hearly
        · rw [if_neg hbuild] at hearly
          cases hearly
    | none =>
        obtain ⟨due, -, h⟩ := Option.bind_eq_some_iff.mp h
        by_cases htask : ¬ task_arn.truthy = true
        · rw [if_pos htask] at h
          cases h
          exact spawnerState_if
        · rw [if_neg htask] at h
          obtain ⟨task, -, h⟩ := Option.bind_eq_some_iff.mp h
          exact spawnerState_of_task h

theorem FargateSpawner.state_returns_iff {services : Services} {now created_date : Int}
    {spawner_options spawner_application_id : Str} :
    (∃ state, SpawnerState state ∧ FargateSpawner.state services now spawner_options created_date
        spawner_application_id = some state) ↔
      (Json.loads spawner_options).isSome = true ∧
        (Json.loads spawner_application_id).isSome = true := by
  rw [FargateSpawner.state]
  cases Json.loads spawner_options with
  | none => simp
  | some options =>
      cases Json.loads spawner_application_id with
      | none => simp
      | some parsed =>
          refine iff_of_true ⟨_, ?_, rfl⟩ ⟨rfl, rfl⟩
          cases hstate : FargateSpawner.decoded_state services now options created_date parsed with
          | none => exact .inr rfl
          | some state => exact FargateSpawner.spawnerState_decoded hstate

end Applications
