import DataWorkspace.Applications.Schedule

/-!
# Spawns that are on time

`SeenRunning` says of a spawn that succeeds that `FargateSpawner.state` returned `RUNNING` all
the while, so that the proxy did not delete the instance.  `InTime` says how long each of its
parts may take: a minute until something is recorded, half an hour for the image and a minute
from there to the task, and three minutes until ECS knows the task.  `spawn` itself waits three
quarters of an hour for the image, and for anything before that as long as it takes.
-/

namespace Applications

open Py Datasets Async

/-! ## Moments -/

/-- What `state` returns from the creation of an instance to the end of its spawn. -/
def SeenRunning (env : Environment) (spawner_options : Str) (created_date : Int) (s : Clock) :
    Prop :=
  ∀ t, created_date ≤ t → t ≤ s.now →
    FargateSpawner.state (env.services t) t spawner_options created_date (s.recorded t).text =
      some .RUNNING

/-- While it is described, a task is starting or running, and it is described three minutes
after it was due. -/
def TaskSeen (env : Environment) (cluster_name task_arn : Str) (due task now : Int) : Prop :=
  ∀ t, task ≤ t → t ≤ now →
    match env.task_status cluster_name task_arn t with
    | some status => status ∈ RUNNING_TASK_STATUSES
    | none => t < due + minutes 3

/-- The parts of a spawn are on time. -/
def InTime (env : Environment) (cluster_name : Str) (created_date : Int) (s : Clock) : Prop :=
  match s.records with
  | [(task, .fargate none (some task_arn))] =>
      task ≤ created_date + seconds 60 ∧
        TaskSeen env cluster_name task_arn created_date task s.now
  | [(task, .fargate (some pipeline_id) (some task_arn)), (triggered, _)] =>
      let pipeline := env.pipelines pipeline_id
      triggered ≤ created_date + seconds 60 ∧
        (∀ t, triggered ≤ t → t < pipeline.finished →
          pipeline.status t ∈ RUNNING_PIPELINE_STATUSES) ∧
        pipeline.finished ≤ created_date + minutes 30 ∧
        task ≤ pipeline.finished + seconds 60 ∧
        TaskSeen env cluster_name task_arn pipeline.finished task s.now
  | _ => False

section Moments

variable {env : Environment} {now task triggered t : Int} {id id' : SpawnerInstanceId}

theorem recorded_before (h : t < task) : (Clock.mk now [(task, id)]).recorded t = .empty := by
  simp [Clock.recorded, Int.not_le.mpr h]

theorem recorded_last {records : List (Int × SpawnerInstanceId)} (h : task ≤ t) :
    (Clock.mk now ((task, id) :: records)).recorded t = id := by
  simp [Clock.recorded, h]

theorem recorded_earlier {records : List (Int × SpawnerInstanceId)} (h : t < task) :
    (Clock.mk now ((task, id) :: records)).recorded t = (Clock.mk now records).recorded t := by
  simp [Clock.recorded, Int.not_le.mpr h]

variable {spawner_options : Str} {o : FargateOptions} {created_date start : Int} {s : Clock}

theorem seenRunning_direct_iff (ho : FargateOptions.loads spawner_options = some o)
    {task_arn : Str} (harn : task_arn ≠ []) (hstart : created_date ≤ start) (htask : start ≤ task)
    (hnow : task ≤ now) :
    SeenRunning env spawner_options created_date
        ⟨now, [(task, .fargate none (some task_arn))]⟩ ↔
      InTime env o.CLUSTER_NAME created_date ⟨now, [(task, .fargate none (some task_arn))]⟩ := by
  have hdue (t : Int) : task_should_be_created (env.services t) created_date
      (((none : Option Nat).map fun n : Nat => Json.int n).getD .null) = some created_date := rfl
  constructor
  · intro hseen
    constructor
    · by_contra hlate
      have hmoment := hseen (created_date + seconds 60) (by simp only [seconds]; omega)
        (by dsimp only; omega)
      rw [recorded_before (by omega), running_empty_iff ho] at hmoment
      omega
    · intro t hfrom hto
      have hmoment := hseen t (by omega) hto
      rw [recorded_last hfrom, running_task_iff ho harn (hdue t)] at hmoment
      exact hmoment
  · rintro ⟨hfirst, htaskSeen⟩ t hfrom hto
    rcases Int.lt_or_le t task with hbefore | hafter
    · rw [recorded_before hbefore, running_empty_iff ho]
      omega
    · rw [recorded_last hafter, running_task_iff ho harn (hdue t)]
      exact htaskSeen t hafter hto

theorem not_success_of_running {status : Str} (h : status ∈ RUNNING_PIPELINE_STATUSES) :
    status ∉ SUCCESS_PIPELINE_STATUSES := by
  have hall : ∀ status ∈ RUNNING_PIPELINE_STATUSES, status ∉ SUCCESS_PIPELINE_STATUSES := by decide
  exact hall status h

theorem seenRunning_built_iff (ho : FargateOptions.loads spawner_options = some o)
    {task_arn : Str} {pipeline_id : Nat} {asked : Int} (harn : task_arn ≠ []) (hid : pipeline_id ≠ 0)
    (hstart : created_date ≤ start) (htriggered : start ≤ triggered)
    (hlater : triggered + seconds 3 ≤ asked) (hasked : asked ≤ task) (hnow : task ≤ now)
    (hsuccess : (env.pipelines pipeline_id).status asked ∈ SUCCESS_PIPELINE_STATUSES) :
    SeenRunning env spawner_options created_date
        ⟨now, [(task, .fargate (some pipeline_id) (some task_arn)),
          (triggered, .fargate (some pipeline_id) none)]⟩ ↔
      InTime env o.CLUSTER_NAME created_date
        ⟨now, [(task, .fargate (some pipeline_id) (some task_arn)),
          (triggered, .fargate (some pipeline_id) none)]⟩ := by
  have hminute : seconds 60 = 60000000 := rfl
  have hwait : seconds 3 = 3000000 := rfl
  have hhalf : minutes 30 = 1800000000 := rfl
  have hfinished : (env.pipelines pipeline_id).finished ≤ asked :=
    Int.not_lt.mp fun h => (env.pipelines pipeline_id).running asked h hsuccess
  have hdue (t : Int) (ht : task ≤ t) : task_should_be_created (env.services t) created_date
      (((some pipeline_id).map fun n : Nat => Json.int n).getD .null) =
        some (env.pipelines pipeline_id).finished :=
    (task_should_be_created_services hid).trans (if_neg (by omega))
  constructor
  · intro hseen
    have hmoment (t : Int) (hfrom : triggered ≤ t) (hto : t < task) :
        ((env.pipelines pipeline_id).status t ∈ RUNNING_PIPELINE_STATUSES ∧
            t < created_date + minutes 30) ∨
          ((env.pipelines pipeline_id).finished ≤ t ∧
            t < (env.pipelines pipeline_id).finished + seconds 60) := by
      have hstate := hseen t (by omega) (by dsimp only; omega)
      rw [recorded_earlier hto, recorded_last hfrom] at hstate
      exact (running_pipeline_iff ho hid).mp hstate
    have hfirst : triggered ≤ created_date + seconds 60 := by
      by_contra hlate
      have hstate := hseen (created_date + seconds 60) (by omega) (by dsimp only; omega)
      rw [recorded_earlier (by omega), recorded_before (by omega), running_empty_iff ho] at hstate
      omega
    refine ⟨hfirst, fun t hfrom hto => ?_, ?_, ?_, fun t hfrom hto => ?_⟩
    · rcases hmoment t hfrom (by omega) with hrunning | hdone
      · exact hrunning.1
      · omega
    · by_contra hlate
      rcases hmoment (created_date + minutes 30) (by omega) (by omega) with hrunning | hdone
      · omega
      · omega
    · by_contra hlate
      have hfrom := Int.le_max_left triggered ((env.pipelines pipeline_id).finished + seconds 60)
      have hafter := Int.le_max_right triggered ((env.pipelines pipeline_id).finished + seconds 60)
      rcases hmoment _ hfrom (by omega) with hrunning | hdone
      · exact not_success_of_running hrunning.1
          ((env.pipelines pipeline_id).success _ (by omega))
      · omega
    · have hstate := hseen t (by omega) hto
      rw [recorded_last hfrom, running_task_iff ho harn (hdue t hfrom)] at hstate
      exact hstate
  · rintro ⟨hfirst, hrunning, hbuilt, hsoon, htaskSeen⟩ t hfrom hto
    rcases Int.lt_or_le t task with hbefore | hafter
    · rw [recorded_earlier hbefore]
      rcases Int.lt_or_le t triggered with hfirst' | hbuild
      · rw [recorded_before hfirst', running_empty_iff ho]
        omega
      · rw [recorded_last hbuild, running_pipeline_iff ho hid]
        rcases Int.lt_or_le t (env.pipelines pipeline_id).finished with hearly | hdone
        · exact .inl ⟨hrunning t hbuild hearly, by omega⟩
        · exact .inr ⟨hdone, by omega⟩
    · rw [recorded_last hafter, running_task_iff ho harn (hdue t hafter)]
      exact htaskSeen t hafter hto

/-- An instance is seen running until its spawn succeeds exactly when all parts of the spawn
are on time, and `state` returns exactly when both its arguments are JSON. -/
theorem seen_running_iff (dep : Deployment) {user : User} {tag : Option Str}
    {a : ApplicationInstance} {creds : List Core.Credentials} (services : Services)
    (spawner_options' spawner_application_id : Str) (now' created_date' : Int)
    (ho : FargateOptions.loads spawner_options = some o) (hstart : created_date ≤ start)
    (hrun : Steps (pace env) (FargateSpawner.start dep.decoding user tag a spawner_options creds)
      ⟨start, []⟩ (.pure ()) s) :
    (SeenRunning env spawner_options created_date s ↔
        InTime env o.CLUSTER_NAME created_date s) ∧
      ((∃ state, SpawnerState state ∧ FargateSpawner.state services now' spawner_options'
          created_date' spawner_application_id = some state) ↔
        (Json.loads spawner_options').isSome = true ∧
          (Json.loads spawner_application_id).isSome = true) := by
  constructor
  · cases scheduled_of_steps hrun with
    | direct htask hnow harn => exact seenRunning_direct_iff ho harn hstart htask hnow
    | built htriggered hlater hasked hnow hid harn hsuccess =>
        exact seenRunning_built_iff ho harn hid hstart htriggered hlater hasked hnow hsuccess
  · exact FargateSpawner.state_returns_iff

end Moments

namespace Late

def toolOptions : Str :=
  ("\x7b\"CLUSTER_NAME\": \"tools\", \"CONTAINER_NAME\": \"tool\", " : Str) ++
    "\"DEFINITION_ARN\": \"tool\", \"PORT\": \"8888\", \"SECURITY_GROUPS\": [], " ++
    "\"SUBNETS\": [], \"S3_SYNC\": \"true\", \"S3_REGION\": \"r\", \"S3_HOST\": \"h\", " ++
    "\"S3_BUCKET\": \"b\"\x7d"

theorem loads_toolOptions :
    FargateOptions.loads toolOptions = some ⟨"tools", "tool", none, "8888"⟩ := by
  decide +kernel

/-- The instance of a user. -/
def application_instance : ApplicationInstance where
  id := "1"
  owner := Small.ann
  public_host := Small.host
  application_template := Small.rstudio
  spawner := .FARGATE
  spawner_application_template_options := toolOptions
  spawner_application_instance_id := .empty
  state := .SPAWNING
  proxy_url := []
  cpu := none
  memory := none
  single_running_or_spawning_integrity := Small.host
  commit_id := none

/-- Services that answer at once. -/
def env : Environment where
  pipelines _ :=
    { status := fun t => if t < 0 then "running" else "success"
      finished := 0
      finished_at := "0001-01-01T00:00:00.0Z"
      running := fun t h => by
        rw [if_pos h]
        decide
      success := fun t h => by
        rw [if_neg (Int.not_lt.mpr h)]
        decide
      reads := by decide +kernel }
  task_status _ _ _ := some "RUNNING"

/-- The end of a spawn that does everything at one moment. -/
def done (t : Int) : Clock := ⟨t, [(t, .fargate none (some "arn"))]⟩

theorem steps_done (t : Int) :
    Steps (pace env) (FargateSpawner.start Small.dep.decoding Small.ann none application_instance
      toolOptions []) ⟨t, []⟩ (.pure ()) (done t) := by
  have hoptions : Small.dep.decoding.fargate_options toolOptions =
      some ⟨"tools", "tool", none, "8888"⟩ := loads_toolOptions
  have hpasses (records : List (Int × SpawnerInstanceId)) :
      (Clock.mk t records).Passes ⟨t, records⟩ := .refl _
  have hrun : (pace env).step (.run_task "tools" "tool") ⟨t, []⟩ (.ok ("arn" : Str)) ⟨t, []⟩ :=
    ⟨hpasses [], by decide⟩
  have hrecorded : (pace env).step (.save_instance "1" (.spawner_application_instance_id
      (.fargate none (some "arn")))) ⟨t, []⟩ (some ()) (done t) := ⟨Int.le_refl t, rfl⟩
  have hfound : (pace env).step (.external (.task_ip "tools" "arn")) (done t)
      (some ("10.0.0.1" : Str)) (done t) := hpasses _
  unfold FargateSpawner.start
  rw [hoptions]
  refine .op (a := some ()) (hpasses []) ?_
  refine .op (a := some ("tool" : Str)) (hpasses []) ?_
  refine .op hrun ?_
  refine .op hrecorded ?_
  refine .op (a := .ok application_instance) (hpasses _) ?_
  refine .op hfound ?_
  refine .op (a := some ()) (hpasses _) ?_
  exact .refl

end Late

open Late in
theorem prompt_spawn_seen_running : SeenRunning env toolOptions 0 (done 0) :=
  (seen_running_iff Small.dep (env.services 0) [] [] 0 0 loads_toolOptions (Int.le_refl 0)
    (steps_done 0)).1.mpr
      ⟨by decide, fun _ _ _ => (by decide : ("RUNNING" : Str) ∈ RUNNING_TASK_STATUSES)⟩

open Late in
/-- The worker is free after a minute and a second, and the spawn succeeds.  Before that the
instance is said to have stopped. -/
theorem late_spawn_seen_stopped :
    Steps (pace env) (FargateSpawner.start Small.dep.decoding Small.ann none application_instance
        toolOptions []) ⟨seconds 61, []⟩ (.pure ()) (done (seconds 61)) ∧
      FargateSpawner.state (env.services (seconds 60)) (seconds 60) toolOptions 0
          ((done (seconds 61)).recorded (seconds 60)).text = some .STOPPED ∧
      ¬ SeenRunning env toolOptions 0 (done (seconds 61)) ∧
      FargateSpawner.state (env.services 0) 0 toolOptions 0 [] = none := by
  have hstopped : FargateSpawner.state (env.services (seconds 60)) (seconds 60) toolOptions 0
      ((done (seconds 61)).recorded (seconds 60)).text = some .STOPPED := by decide +kernel
  refine ⟨steps_done _, hstopped, fun hseen => ?_, by decide +kernel⟩
  have hrunning := hseen (seconds 60) (by decide) (by decide)
  rw [hstopped] at hrunning
  cases hrunning

end Applications
