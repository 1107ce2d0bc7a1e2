import DataWorkspace.Applications.Effects

/-!
# Spawning and stopping

A worker takes a message and runs `spawn` or `stop`.  `spawn` makes the database
credentials of an instance and hands it to its spawner.

`FargateSpawner.spawn` records the database users, builds an image when it has to, and
starts an ECS task.  It stores the ARN of the task, reads the state of the instance once,
and waits for the address of the task.  When anything fails it stops the task it started.
`FargateSpawner.stop` reads the ARN from the row.
-/

namespace Applications

open Py Datasets Async

/-- The database users are stored, so that the cleanup knows which are in use. -/
def create_db_users (application_instance_id : Str) (credentials : List Core.Credentials) :
    M Unit :=
  credentials.forM fun creds => await (.create_db_user
    ⟨creds.db_id, creds.db_user, creds.db_persistent_role, application_instance_id⟩)

/-! ## Processes -/

def ProcessSpawner.start (dep : Deployment) (application_instance : ApplicationInstance)
    (spawner_options : Str) (credentials : List Core.Credentials) : Prog Ans (Option Nat) Unit := do
  let created : Except Exc Unit ← (create_db_users application_instance.id credentials).attempt
  match created, dep.process_cmd spawner_options with
  | .ok (), some cmd => do
      let started : Except Exc Nat ← (call (.start_process cmd)).attempt
      match started with
      | .error _ => .raise none
      | .ok pid => do
          let saved : Except Exc Unit ← (do
            save application_instance.id (.spawner_application_instance_id (.process pid))
            save application_instance.id (.proxy_url "http://localhost:8888/")).attempt
          match saved with
          | .error _ => .raise (some pid)
          | .ok () => .pure ()
  | _, _ => .raise none

/-- `ProcessSpawner.spawn`.  Its `except` reads a variable that may not be set. -/
def ProcessSpawner.spawn (dep : Deployment) (application_instance : ApplicationInstance)
    (spawner_options : Str) (credentials : List Core.Credentials) : M Unit := do
  let r : Except (Option Nat) Unit ←
    (ProcessSpawner.start dep application_instance spawner_options credentials).attempt
  match r with
  | .ok () => .pure ()
  | .error none => .raise .failed
  | .error (some pid) => call (.kill_process pid)

/-- `ProcessSpawner.stop`. -/
def ProcessSpawner.stop (application_instance_id : Str) : M Unit := do
  let application_instance : ApplicationInstance ← get (.id application_instance_id)
  match application_instance.spawner_application_instance_id with
  | .process pid => do
      let _ : Except Exc Unit ← (call (.kill_process pid)).attempt
      .pure ()
  | _ => .raise .KeyError

/-! ## Fargate -/

/-- The variables of `FargateSpawner.spawn` that its `except` reads. -/
structure Started where
  cluster_name : Str
  pipeline_id : Option Nat
  task_arn : Option Str
deriving DecidableEq, Repr

/-- A part of the `try` block.  Any exception ends the block with the variables as they
are. -/
def trying {α : Type} (vars : Started) (p : M α) : Prog Ans Started α := do
  let r : Except Exc α ← p.attempt
  match r with
  | .ok a => .pure a
  | .error _ => .raise vars

def RUNNING_PIPELINE_STATUSES : List Str := ["running", "pending"]

def SUCCESS_PIPELINE_STATUSES : List Str := ["success"]

/-- Wait until the pipeline has ended. -/
def wait_for_pipeline (pipeline_id : Nat) : Nat → M Unit
  | 0 => do
      call (.pipeline_cancel pipeline_id)
      .raise .failed
  | n + 1 => do
      let status : Str ← call (.pipeline_get pipeline_id)
      if status ∉ RUNNING_PIPELINE_STATUSES ∧ status ∉ SUCCESS_PIPELINE_STATUSES then
        .raise .failed
      else if status ∈ SUCCESS_PIPELINE_STATUSES then .pure ()
      else wait_for_pipeline pipeline_id n

def image_to_build (application_instance : ApplicationInstance) (options : FargateOptions)
    (tag : Option Str) : Option (Nat × Str × Str × Str) := do
  let repository ← options.ECR_REPOSITORY_NAME
  let tag ← tag
  let commit_id ← application_instance.commit_id
  let gitlab_project_id ← application_instance.application_template.gitlab_project_id
  if repository ≠ [] ∧ tag ≠ [] ∧ commit_id ≠ [] ∧ gitlab_project_id ≠ 0 then
    some (gitlab_project_id, commit_id, repository, tag)
  else none

/-- Build the tag if we can and it doesn't already exist. -/
def build_tag (vars : Started) (application_instance : ApplicationInstance)
    (options : FargateOptions) (tag : Option Str) : Prog Ans Started Started :=
  match image_to_build application_instance options tag with
  | none => .pure vars
  | some (gitlab_project_id, commit_id, repository, tag) => do
      let tag_exists : Bool ← trying vars (call (.ecr_tag_exists repository tag))
      if tag_exists then .pure vars
      else do
        let pipeline : Option Nat ←
          trying vars (call (.pipeline_trigger gitlab_project_id commit_id repository tag))
        match pipeline with
        | none => .raise vars
        | some pipeline_id => do
            let vars := { vars with pipeline_id := some pipeline_id }
            trying vars (save application_instance.id
              (.spawner_application_instance_id (.fargate (some pipeline_id) none)))
            trying vars (wait_for_pipeline pipeline_id 900)
            .pure vars

/-- Start the task, trying again after a `ClientError`. -/
def run_task (cluster_name definition_arn : Str) : Nat → M Str
  | 0 => .raise .ClientError
  | n + 1 => do
      let r : Except RunError Str ← await (.run_task cluster_name definition_arn)
      match r with
      | .ok task_arn => .pure task_arn
      | .error .ClientError => run_task cluster_name definition_arn n
      | .error .other => .raise .failed

def wait_for_ip (application_instance_id cluster_name port task_arn : Str) : Nat → M Unit
  | 0 => .raise .failed
  | n + 1 => do
      let ip_address : Str ← call (.task_ip cluster_name task_arn)
      if ip_address ≠ [] then
        save application_instance_id (.proxy_url (("http://" : Str) ++ ip_address ++ ":" ++ port))
      else wait_for_ip application_instance_id cluster_name port task_arn n

/-- What is done once the task has been started. -/
def after_task_run (vars : Started) (application_instance_id : Str) (options : FargateOptions)
    (task_arn : Str) : Prog Ans Started Unit := do
  trying vars (save application_instance_id
    (.spawner_application_instance_id (.fargate vars.pipeline_id (some task_arn))))
  let refreshed : ApplicationInstance ← trying vars (get (.id application_instance_id))
  if refreshed.state = .STOPPED then .raise vars
  else
    trying vars
      (wait_for_ip application_instance_id options.CLUSTER_NAME options.PORT task_arn 60)

/-- The `try` block of `FargateSpawner.spawn`. -/
def FargateSpawner.start (dep : Deployment) (user : User) (tag : Option Str)
    (application_instance : ApplicationInstance) (spawner_options : Str)
    (credentials : List Core.Credentials) : Prog Ans Started Unit :=
  match dep.fargate_options spawner_options with
  | none => .raise ⟨[], none, none⟩
  | some options => do
      let vars : Started := ⟨options.CLUSTER_NAME, none, none⟩
      trying vars (create_db_users application_instance.id credentials)
      trying vars (call (.create_tools_access_iam_role user))
      let vars ← build_tag vars application_instance options tag
      let definition_arn : Str ←
        trying vars (call (.new_task_definition options.DEFINITION_ARN tag))
      let task_arn ← trying vars (run_task options.CLUSTER_NAME definition_arn 10)
      after_task_run { vars with task_arn := some task_arn } application_instance.id options task_arn

/-- The `except` block: stop what was started. -/
def FargateSpawner.give_up (vars : Started) : M Unit := do
  vars.task_arn.elim (.pure ()) fun task_arn => await (.stop_task vars.cluster_name task_arn)
  vars.pipeline_id.elim (.pure ()) fun pipeline_id => call (.pipeline_cancel pipeline_id)

/-- `FargateSpawner.spawn`. -/
def FargateSpawner.spawn (dep : Deployment) (user : User) (tag : Option Str)
    (application_instance : ApplicationInstance) (spawner_options : Str)
    (credentials : List Core.Credentials) : M Unit := do
  let r : Except Started Unit ←
    (FargateSpawner.start dep user tag application_instance spawner_options credentials).attempt
  match r with
  | .ok () => .pure ()
  | .error vars => FargateSpawner.give_up vars

/-- `["task_arn"]` of what the spawner knows an instance by. -/
def SpawnerInstanceId.task_arn? : SpawnerInstanceId → Option (Option Str)
  | .empty => none
  | .process _ => none
  | .fargate _ task_arn => some task_arn

/-- `FargateSpawner.stop`.  ECS refuses a task that is `None`. -/
def FargateSpawner.stop (dep : Deployment) (application_instance_id : Str) : M Unit := do
  let application_instance : ApplicationInstance ← get (.id application_instance_id)
  match dep.cluster_name application_instance.spawner_application_template_options with
  | none => .raise .KeyError
  | some cluster_name =>
      match application_instance.spawner_application_instance_id.task_arn? with
      | none => .raise .KeyError
      | some none => .raise .failed
      | some (some task_arn) => await (.stop_task cluster_name task_arn)

/-! ## Workers -/

/-- The tables an instance may read, and the names its permanent role and its database
users are made from. -/
def database_access (dep : Deployment) (user : User) (t : ApplicationTemplate) :
    M (List Core.Entry × Str × Str) :=
  match t.application_type with
  | .TOOL => do
      let source_tables : List Core.Entry ← call (.source_tables_for_user user)
      .pure (source_tables, dep.short_hash user, user.email)
  | .VISUALISATION => do
      let source_tables : List Core.Entry ← call (.source_tables_for_app t)
      .pure (source_tables, ("app_" : Str) ++ t.host_basename, t.host_basename)

/-- For AppStream to access credentials. -/
def share_credentials (user : User) (t : ApplicationTemplate) : M Unit :=
  match t.application_type with
  | .TOOL => call (.write_credentials_to_bucket user)
  | .VISUALISATION => .pure ()

/-- `spawn(name, user_id, tag, application_instance_id, spawner_options)`. -/
def spawn (dep : Deployment) (name : SpawnerName) (user : User) (tag : Option Str)
    (application_instance_id spawner_options : Str) : M Unit := do
  let application_instance : ApplicationInstance ← get (.id application_instance_id)
  let t := application_instance.application_template
  let (source_tables, db_role_schema_suffix, stem) ← database_access dep user t
  let db_user : Str ← await (.postgres_user stem)
  let creds ← credentials (Core.new_private_database_credentials dep.settings
    db_role_schema_suffix source_tables db_user (some user) [])
  share_credentials user t
  match name with
  | .PROCESS => ProcessSpawner.spawn dep application_instance spawner_options creds
  | .FARGATE => FargateSpawner.spawn dep user tag application_instance spawner_options creds

/-- `stop(name, application_instance_id)`. -/
def stop (dep : Deployment) (name : SpawnerName) (application_instance_id : Str) : M Unit :=
  match name with
  | .PROCESS => ProcessSpawner.stop application_instance_id
  | .FARGATE => FargateSpawner.stop dep application_instance_id

/-- A worker takes one message. -/
def worker (dep : Deployment) : M Unit := do
  let m : Message ← await .receive
  match m with
  | .spawn name user tag id spawner_options => spawn dep name user tag id spawner_options
  | .stop name id => stop dep name id

end Applications
