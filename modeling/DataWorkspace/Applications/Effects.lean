import DataWorkspace.Applications.Hosts
import DataWorkspace.Core.TwoCalls
import DataWorkspace.Sql.Drop

/-!
# What the application code awaits

The handlers of the application API and the background tasks read and write the rows of
the workspace's own database, send messages to workers, and call ECS, GitLab and the
databases of the datasets.  Each of these is one operation, and each is atomic.

`act` is what an operation may answer and do.  Other services may answer anything.  The
database enforces its constraints: `InstanceTable` keeps ids and
`single_running_or_spawning_integrity` unique, so a row that breaks them is refused.
-/

namespace Applications

open Py Datasets Async

/-! ## Rows of instances -/

/-- The columns that are given when an instance is created. -/
structure NewInstance where
  owner : User
  public_host : Str
  application_template : ApplicationTemplate
  spawner : SpawnerName
  spawner_application_template_options : Str
  spawner_application_instance_id : SpawnerInstanceId
  state : InstanceState
  single_running_or_spawning_integrity : Str
  cpu : Option Str
  memory : Option Str
  commit_id : Option Str
deriving DecidableEq, Repr

/-- The row, with the id it is given. -/
def NewInstance.row (a : NewInstance) (id : Str) : ApplicationInstance where
  id := id
  owner := a.owner
  public_host := a.public_host
  application_template := a.application_template
  spawner := a.spawner
  spawner_application_template_options := a.spawner_application_template_options
  spawner_application_instance_id := a.spawner_application_instance_id
  state := a.state
  proxy_url := []
  cpu := a.cpu
  memory := a.memory
  single_running_or_spawning_integrity := a.single_running_or_spawning_integrity
  commit_id := a.commit_id

/-- The columns a `save(update_fields=[…])` writes. -/
inductive Update where
  | state (state : InstanceState)
  /-- `state` and `single_running_or_spawning_integrity`. -/
  | state_and_integrity (state : InstanceState) (single_running_or_spawning_integrity : Str)
  | spawner_application_instance_id (id : SpawnerInstanceId)
  | proxy_url (url : Str)
deriving DecidableEq, Repr

/-- A row after an update. -/
def Update.apply (a : ApplicationInstance) : Update → ApplicationInstance
  | .state s => { a with state := s }
  | .state_and_integrity s integrity =>
      { a with state := s, single_running_or_spawning_integrity := integrity }
  | .spawner_application_instance_id i => { a with spawner_application_instance_id := i }
  | .proxy_url url => { a with proxy_url := url }

/-- The filters of the queries for one instance. -/
inductive InstanceQuery where
  | id (id : Str)
  | visible (public_host : Str)
  | owned (owner : User) (public_host : Str)
deriving DecidableEq, Repr

/-- The rows a filter finds. -/
def InstanceQuery.finds (a : ApplicationInstance) : InstanceQuery → Bool
  | .id i => a.id == i
  | .visible public_host => a.public_host == public_host && a.isVisible
  | .owned owner public_host => a.owner == owner && a.public_host == public_host && a.isVisible

structure InstanceTable where
  rows : List ApplicationInstance
  /-- `id` is the primary key. -/
  ids_unique : (rows.map ApplicationInstance.id).Nodup
  /-- `single_running_or_spawning_integrity` is unique. -/
  integrity_unique : (rows.map ApplicationInstance.single_running_or_spawning_integrity).Nodup

/-- The exceptions. -/
inductive Exc where
  | DoesNotExist
  | MultipleObjectsReturned
  | IntegrityError
  | LockError
  | KeyError
  | ClientError
  | credentials (e : Core.Exc)
  /-- An error of another service or of a database. -/
  | failed
deriving DecidableEq, Repr

namespace InstanceTable

/-- `objects.get(…)`. -/
def get (t : InstanceTable) (q : InstanceQuery) : Except Exc ApplicationInstance :=
  match t.rows.filter fun a => q.finds a with
  | [] => .error .DoesNotExist
  | [a] => .ok a
  | _ :: _ :: _ => .error .MultipleObjectsReturned

/-- `objects.create(…)`, refused where a constraint would be broken. -/
def insert (t : InstanceTable) (a : ApplicationInstance) : Option InstanceTable :=
  if h : a.id ∉ t.rows.map ApplicationInstance.id ∧
      a.single_running_or_spawning_integrity ∉
        t.rows.map ApplicationInstance.single_running_or_spawning_integrity then
    some
      { rows := a :: t.rows
        ids_unique := List.nodup_cons.mpr ⟨h.1, t.ids_unique⟩
        integrity_unique := List.nodup_cons.mpr ⟨h.2, t.integrity_unique⟩ }
  else none

def updatedRows (t : InstanceTable) (id : Str) (u : Update) : List ApplicationInstance :=
  t.rows.map fun a => if a.id = id then u.apply a else a

theorem apply_id (u : Update) (a : ApplicationInstance) : (u.apply a).id = a.id := by
  cases u <;> rfl

theorem updatedRows_ids (t : InstanceTable) (id : Str) (u : Update) :
    (t.updatedRows id u).map ApplicationInstance.id = t.rows.map ApplicationInstance.id := by
  rw [updatedRows, List.map_map]
  refine List.map_congr_left fun a _ => ?_
  rw [Function.comp_apply]
  split
  next => exact apply_id u a
  next => rfl

/-- `save(update_fields=[…])`, refused where a constraint would be broken. -/
def update (t : InstanceTable) (id : Str) (u : Update) : Option InstanceTable :=
  if h : ((t.updatedRows id u).map
      ApplicationInstance.single_running_or_spawning_integrity).Nodup then
    some
      { rows := t.updatedRows id u
        ids_unique := by
          rw [updatedRows_ids]
          exact t.ids_unique
        integrity_unique := h }
  else none

variable {t t' : InstanceTable} {a b : ApplicationInstance}

theorem eq_of_id (ha : a ∈ t.rows) (hb : b ∈ t.rows) (h : a.id = b.id) : a = b :=
  List.inj_on_of_nodup_map t.ids_unique ha hb h

theorem eq_of_integrity (ha : a ∈ t.rows) (hb : b ∈ t.rows)
    (h : a.single_running_or_spawning_integrity = b.single_running_or_spawning_integrity) : a = b :=
  List.inj_on_of_nodup_map t.integrity_unique ha hb h

theorem mem_insert (h : t.insert a = some t') : b ∈ t'.rows ↔ b = a ∨ b ∈ t.rows := by
  rw [insert] at h
  split at h
  next =>
    cases h
    exact List.mem_cons
  next => cases h

theorem not_mem_of_insert (h : t.insert a = some t') : ∀ b ∈ t.rows, b.id ≠ a.id := by
  rw [insert] at h
  split at h
  next hnew => exact fun b hb he => hnew.1 (List.mem_map.mpr ⟨b, hb, he⟩)
  next => cases h

theorem mem_update {id : Str} {u : Update} (h : t.update id u = some t') :
    b ∈ t'.rows ↔ ∃ a ∈ t.rows, (if a.id = id then u.apply a else a) = b := by
  rw [update] at h
  split at h
  next =>
    cases h
    exact List.mem_map
  next => cases h

theorem mem_of_get {q : InstanceQuery} (h : t.get q = .ok a) : a ∈ t.rows ∧ q.finds a = true := by
  rw [get] at h
  split at h
  next => cases h
  next b hb =>
    cases h
    exact List.mem_filter.mp (hb ▸ List.mem_singleton_self a)
  next => cases h

theorem get_id (ha : a ∈ t.rows) : t.get (.id a.id) = .ok a := by
  have hfound : a ∈ t.rows.filter fun b => InstanceQuery.finds b (.id a.id) :=
    List.mem_filter.mpr ⟨ha, beq_self_eq_true _⟩
  have honly : ∀ b ∈ t.rows.filter fun b => InstanceQuery.finds b (.id a.id), b = a := by
    intro b hb
    obtain ⟨hb, he⟩ := List.mem_filter.mp hb
    exact eq_of_id hb ha (beq_iff_eq.mp he)
  have hnodup : (t.rows.filter fun b => InstanceQuery.finds b (.id a.id)).Nodup :=
    (List.Nodup.of_map _ t.ids_unique).filter _
  rw [get]
  split
  next hnil =>
    rw [hnil] at hfound
    cases hfound
  next b hb => rw [honly b (hb ▸ List.mem_singleton_self b)]
  next b c rest hb =>
    rw [hb] at honly hnodup
    have hbc : b = c := (honly b (List.mem_cons_self ..)).trans
      (honly c (List.mem_cons_of_mem _ (List.mem_cons_self ..))).symm
    exact absurd (hbc ▸ List.mem_cons_self ..) (List.nodup_cons.mp hnodup).1

end InstanceTable

/-! ## The deployment -/

/-- The options of a Fargate template that the spawner looks at itself. -/
structure FargateOptions where
  CLUSTER_NAME : Str
  DEFINITION_ARN : Str
  ECR_REPOSITORY_NAME : Option Str
  PORT : Str
deriving DecidableEq, Repr

/-- What is fixed while the workspace runs. -/
structure Deployment where
  settings : Core.Settings
  /-- The databases of `DATABASES_DATA`, in its order. -/
  databases : List Database
  templates : TemplateTable
  /-- `stable_identification_suffix(sso_id, short=True)`. -/
  short_hash : User → Str
  /-- `json.dumps(application_options(template))`. -/
  application_options : ApplicationTemplate → Str
  /-- `json.loads` of options, `none` where one that is needed is missing. -/
  fargate_options : Str → Option FargateOptions
  /-- `json.loads(options)["CLUSTER_NAME"]`. -/
  cluster_name : Str → Option Str
  /-- Options that are complete name the cluster. -/
  cluster_name_of_options : ∀ {options : Str} {o : FargateOptions},
    fargate_options options = some o → cluster_name options = some o.CLUSTER_NAME
  /-- `json.loads(spawner_options)["CMD"]`. -/
  process_cmd : Str → Option Str

/-- The user the workspace connects to a database as. -/
def Deployment.master (dep : Deployment) (db : Database) : Str :=
  (dep.settings.DATABASES_DATA db.memorable_name).USER

/-! ## Operations -/

/-- The messages to workers. -/
inductive Message where
  /-- `spawn.delay(…)`. -/
  | spawn (name : SpawnerName) (user : User) (tag : Option Str) (application_instance_id : Str)
      (spawner_options : Str)
  /-- `stop.delay(…)`. -/
  | stop (name : SpawnerName) (application_instance_id : Str)
deriving DecidableEq, Repr

/-- Calls of other services, and queries on tables that nothing here writes. -/
inductive External where
  | catalogue_item (t : ApplicationTemplate)
  | has_perm (user : User) (perm : Str)
  | visualisation_permission (user : User) (item : VisualisationCatalogueItem)
  | gitlab_has_developer_access (user : User) (gitlab_project_id : Option Nat)
  | tool_configuration (user : User) (t : ApplicationTemplate)
  | spawner_state (a : ApplicationInstance)
  | application_instance_max_cpu (a : ApplicationInstance)
  | source_tables_for_user (user : User)
  | source_tables_for_app (t : ApplicationTemplate)
  | write_credentials_to_bucket (user : User)
  | create_tools_access_iam_role (user : User)
  | ecr_tag_exists (repository tag : Str)
  | pipeline_trigger (gitlab_project_id : Nat) (commit_id repository tag : Str)
  | pipeline_get (pipeline_id : Nat)
  | pipeline_cancel (pipeline_id : Nat)
  | new_task_definition (definition_arn : Str) (tag : Option Str)
  | task_ip (cluster_name task_arn : Str)
  | ecr_retag (t : ApplicationTemplate) (existing_tag new_tag : Str)
  | start_process (cmd : Str)
  | kill_process (process_id : Nat)
  | delete_database_user (username : Str)
deriving DecidableEq, Repr

/-- What they answer, when they raise nothing. -/
def External.Reply : External → Type
  | .catalogue_item _ => VisualisationCatalogueItem
  | .has_perm _ _ => Bool
  | .visualisation_permission _ _ => Bool
  | .gitlab_has_developer_access _ _ => Bool
  | .tool_configuration _ _ => Option Str × Option Str
  | .spawner_state _ => InstanceState
  -- at least 1.0 per cent, or less, and nothing when it is not known
  | .application_instance_max_cpu _ => Bool
  | .source_tables_for_user _ => List Core.Entry
  | .source_tables_for_app _ => List Core.Entry
  | .write_credentials_to_bucket _ => Unit
  | .create_tools_access_iam_role _ => Unit
  | .ecr_tag_exists _ _ => Bool
  | .pipeline_trigger _ _ _ _ => Option Nat
  | .pipeline_get _ => Str
  | .pipeline_cancel _ => Unit
  | .new_task_definition _ _ => Str
  | .task_ip _ _ => Str
  | .ecr_retag _ _ _ => Unit
  | .start_process _ => Nat
  | .kill_process _ => Unit
  | .delete_database_user _ => Unit

/-- What the code awaits. -/
inductive Op where
  | get_instance (q : InstanceQuery)
  /-- The instances that `kill_idle_fargate` looks through. -/
  | old_instances
  | create_instance (a : NewInstance)
  | save_instance (id : Str) (u : Update)
  | create_db_user (row : ApplicationInstanceDbUsers)
  | in_use_usenames (db : Database) (usenames : List Str)
  | db_persistent_roles (db : Database) (usenames : List Str)
  | delay (m : Message)
  /-- A worker takes a message. -/
  | receive
  /-- `client.run_task`. -/
  | run_task (cluster_name definition_arn : Str)
  /-- `_fargate_task_stop`. -/
  | stop_task (cluster_name task_arn : Str)
  | external (x : External)
  | postgres_user (stem : Str)
  /-- An operation of `new_private_database_credentials`. -/
  | core (o : Core.Op)
  /-- `cache.lock(…)` of another name than `database-grant-v1`, entered and left. -/
  | acquire (lock_name : Str)
  | release (lock_name : Str)
  /-- The database users that may be unused. -/
  | usenames (db : Database)
  | drop (db : Database) (st : Sql.DropStatement)

/-- How a call of `run_task` fails. -/
inductive RunError where
  | ClientError
  | other
deriving DecidableEq, Repr

/-- The answers. -/
def Ans : Op → Type
  | .get_instance _ => Except Exc ApplicationInstance
  | .old_instances => List ApplicationInstance
  | .create_instance _ => Option ApplicationInstance
  | .save_instance _ _ => Option Unit
  | .create_db_user _ => Unit
  | .in_use_usenames _ _ => List Str
  | .db_persistent_roles _ _ => List (Str × Str)
  | .delay _ => Unit
  | .receive => Message
  | .run_task _ _ => Except RunError Str
  | .stop_task _ _ => Unit
  | .external x => Option x.Reply
  | .postgres_user _ => Str
  | .core o => Core.Ans o
  | .acquire _ => Option Unit
  | .release _ => Unit
  | .usenames _ => List Str
  | .drop _ _ => Option Unit

/-- Programs over these operations. -/
abbrev M := Prog Ans Exc

/-- Perform one operation. -/
def await (o : Op) : M (Ans o) := .perform o

/-- Call another service. -/
def call (x : External) : M x.Reply :=
  .op (.external x) fun
    | some reply => .pure reply
    | none => .raise .failed

/-- `ApplicationInstance.objects.get(…)`. -/
def get (q : InstanceQuery) : M ApplicationInstance :=
  .op (.get_instance q) fun
    | .ok a => .pure a
    | .error e => .raise e

/-- `application_instance.save(update_fields=[…])`. -/
def save (id : Str) (u : Update) : M Unit :=
  .op (.save_instance id u) fun
    | some () => .pure ()
    | none => .raise .IntegrityError

/-- A part that makes database credentials. -/
def credentials {α : Type} (p : Core.M α) : M α := p.lift .core (fun _ a => a) .credentials

/-- `with cache.lock(…)`, with the operations that enter and leave it. -/
def withLock {α : Type} (take : M (Option Unit)) (give : M Unit) (body : M α) : M α := do
  let taken : Option Unit ← take
  match taken with
  | none => .raise .LockError
  | some () => do
      let r : Except Exc α ← body.attempt
      give
      match r with
      | .ok a => .pure a
      | .error e => .raise e

/-- `with cache.lock(lock_name)`. -/
def withNamedLock {α : Type} (lock_name : Str) (body : M α) : M α :=
  withLock (await (.acquire lock_name)) (await (.release lock_name)) body

/-- `with cache.lock("database-grant-v1", timeout=timeout)`. -/
def withGrantLock {α : Type} (timeout : Nat) (body : M α) : M α :=
  withLock (await (.core (.acquire timeout))) (await (.core .release)) body

/-! ## What the operations do -/

/-- The databases of the datasets, the rows of the workspace's own database, the messages
that no worker has taken, the tasks that were asked to stop, and the locks that are taken. -/
structure World where
  core : Core.World
  instances : InstanceTable
  db_users : List ApplicationInstanceDbUsers
  messages : List Message
  stop_requested : List Str
  locks : List Str

/-- The letters and digits at the end of a database user's name. -/
def user_alphabet : Str := "abcdefghijklmnopqrstuvwxyz0123456789"

/-- `postgres_user(stem)`, without a suffix. -/
def postgres_user (stem unique_enough : Str) : Str :=
  ("user_" : Str) ++
    ((lower stem).map fun c => if c ∈ user_alphabet then c else '_').take 52 ++ "_" ++ unique_enough

/-- The names the query for unused database users may find.  How long a user is valid is
not part of a `Cluster`. -/
def may_be_unused (usename : Str) : Bool :=
  Sql.like "user_%" usename &&
    ((!Sql.like "%_qs" usename && !Sql.like "%_quicksight" usename &&
        !Sql.like "%_explorer" usename && !Sql.like "%_superset" usename) ||
      Sql.like "%_qs" usename || Sql.like "%_explorer" usename || Sql.like "%_superset" usename)

def World.rowsFor (w : World) (db : Database) (usenames : List Str) :
    List ApplicationInstanceDbUsers :=
  w.db_users.filter fun row => row.db_id == db.id && row.db_username ∈ usenames

/-- The instance is starting or running. -/
def World.isLive (w : World) (id : Str) : Bool :=
  w.instances.rows.any fun a => a.id == id && a.isVisible

/-- The instances are among those that start or run on Fargate.  When they were created is
not part of a row. -/
def World.mayBeOld (w : World) (as : List ApplicationInstance) : Prop :=
  ∀ a ∈ as, a ∈ w.instances.rows ∧ a.spawner = .FARGATE ∧ a.isVisible = true

/-- The names are among those of the users of a database that may be unused. -/
def World.mayBeUnused (w : World) (db : Database) (usenames : List Str) : Prop :=
  ∀ usename ∈ usenames, usename ∈ (w.core.clusters db).roles ∧ may_be_unused usename = true

/-- What an operation may answer, and what it leaves. -/
@[grind =]
def act (dep : Deployment) : (o : Op) → World → Ans o → World → Prop
  | .get_instance q, w, a, w' => a = w.instances.get q ∧ w' = w
  | .old_instances, w, as, w' => w.mayBeOld as ∧ w' = w
  | .create_instance new, w, a, w' =>
      (a = none ∧ w' = w ∧ new.single_running_or_spawning_integrity ∈
        w.instances.rows.map ApplicationInstance.single_running_or_spawning_integrity) ∨
      ∃ id instances, a = some (new.row id) ∧ w.instances.insert (new.row id) = some instances ∧
        w' = { w with instances := instances }
  | .save_instance id u, w, a, w' =>
      (a = none ∧ w' = w ∧ w.instances.update id u = none) ∨
      ∃ instances, a = some () ∧ w.instances.update id u = some instances ∧
        w' = { w with instances := instances }
  | .create_db_user row, w, _, w' => w' = { w with db_users := w.db_users ++ [row] }
  | .in_use_usenames db usenames, w, a, w' =>
      a = ((w.rowsFor db usenames).filter fun row => w.isLive row.application_instance).map
        ApplicationInstanceDbUsers.db_username ∧ w' = w
  | .db_persistent_roles db usenames, w, a, w' =>
      a = (w.rowsFor db usenames).map (fun row => (row.db_username, row.db_persistent_role)) ∧
        w' = w
  | .delay m, w, _, w' => w' = { w with messages := w.messages ++ [m] }
  | .receive, w, m, w' => m ∈ w.messages ∧ w' = { w with messages := w.messages.erase m }
  | .run_task _ _, w, _, w' => w' = w
  | .stop_task _ task_arn, w, _, w' =>
      w' = { w with stop_requested := w.stop_requested ++ [task_arn] }
  | .external _, w, _, w' => w' = w
  | .postgres_user stem, w, a, w' =>
      (∃ unique_enough : Str, unique_enough.length = 5 ∧ (∀ c ∈ unique_enough, c ∈ user_alphabet) ∧
        a = postgres_user stem unique_enough) ∧ w' = w
  | .core o, w, a, w' => ∃ core, Core.Acts dep.settings o w.core a core ∧ w' = { w with core := core }
  | .acquire lock_name, w, a, w' =>
      (a = none ∧ w' = w) ∨
        (a = some () ∧ lock_name ∉ w.locks ∧ w' = { w with locks := lock_name :: w.locks })
  | .release lock_name, w, _, w' => w' = { w with locks := w.locks.filter (· ≠ lock_name) }
  | .usenames db, w, a, w' => w.mayBeUnused db a ∧ w' = w
  | .drop db st, w, a, w' =>
      match st.exec (w.core.clusters db) (dep.master db) with
      | some cluster => a = some () ∧ w' = { w with core := w.core.setCluster db cluster }
      | none => a = none ∧ w' = w

inductive RowsStep (o : Op) (t t' : InstanceTable) : Prop where
  | same : t' = t → RowsStep o t t'
  | created (new : NewInstance) (id : Str) : o = .create_instance new →
      t.insert (new.row id) = some t' → RowsStep o t t'
  | saved (id : Str) (u : Update) : o = .save_instance id u → t.update id u = some t' →
      RowsStep o t t'

/-- The rows of database users that an operation stores. -/
def Op.stored : Op → List ApplicationInstanceDbUsers
  | .create_db_user row => [row]
  | _ => []

/-- The messages that an operation sends. -/
def Op.sent : Op → List Message
  | .delay m => [m]
  | _ => []

/-- The messages that an operation takes. -/
def received : (o : Op) → Ans o → List Message
  | .receive, m => [m]
  | _, _ => []

def Op.asks_to_stop : Op → List Str
  | .stop_task _ task_arn => [task_arn]
  | _ => []

/-- What an operation does to the rows, the messages and the tasks. -/
structure Effect (o : Op) (a : Ans o) (w w' : World) : Prop where
  rows : RowsStep o w.instances w'.instances
  db_users : w'.db_users = w.db_users ++ o.stored
  messages : (w.messages ++ o.sent).Perm (received o a ++ w'.messages)
  stop_requested : w'.stop_requested = w.stop_requested ++ o.asks_to_stop

theorem Effect.none {o : Op} {a : Ans o} {w w' : World} (hrows : w'.instances = w.instances)
    (husers : w'.db_users = w.db_users ++ o.stored)
    (hmessages : w'.messages = w.messages ++ o.sent) (hreceived : received o a = [])
    (hstop : w'.stop_requested = w.stop_requested ++ o.asks_to_stop) : Effect o a w w' :=
  ⟨.same hrows, husers, by rw [hreceived, hmessages, List.nil_append], hstop⟩

theorem Effect.same {o : Op} {a : Ans o} {w w' : World} (h : w' = w) (hstored : o.stored = [])
    (hsent : o.sent = []) (hreceived : received o a = []) (hstop : o.asks_to_stop = []) :
    Effect o a w w' := by
  subst h
  refine .none rfl ?_ ?_ hreceived ?_
  · rw [hstored, List.append_nil]
  · rw [hsent, List.append_nil]
  · rw [hstop, List.append_nil]

theorem effect_of_act {dep : Deployment} {o : Op} {w w' : World} {a : Ans o}
    (h : act dep o w a w') : Effect o a w w' := by
  have hnil {α : Type} (l : List α) : l = l ++ [] := (List.append_nil l).symm
  cases o with
  | create_instance new =>
      rcases h with ⟨-, rfl, -⟩ | ⟨id, t, -, ht, rfl⟩
      · exact .same rfl rfl rfl rfl rfl
      · exact ⟨.created new id rfl ht, hnil _, .of_eq (hnil _).symm, hnil _⟩
  | save_instance id u =>
      rcases h with ⟨-, rfl, -⟩ | ⟨t, -, ht, rfl⟩
      · exact .same rfl rfl rfl rfl rfl
      · exact ⟨.saved id u rfl ht, hnil _, .of_eq (hnil _).symm, hnil _⟩
  | create_db_user row =>
      cases h
      exact .none rfl rfl (hnil _) rfl (hnil _)
  | delay m =>
      cases h
      exact .none rfl (hnil _) rfl rfl (hnil _)
  | receive =>
      obtain ⟨hm, rfl⟩ := h
      refine ⟨.same rfl, hnil _, ?_, hnil _⟩
      exact (List.Perm.of_eq (hnil _).symm).trans (List.perm_cons_erase hm)
  | stop_task cluster_name task_arn =>
      cases h
      exact .none rfl (hnil _) (hnil _) rfl rfl
  | core o =>
      obtain ⟨core, -, rfl⟩ := h
      exact .none rfl (hnil _) (hnil _) rfl (hnil _)
  | acquire lock_name =>
      rcases h with ⟨-, rfl⟩ | ⟨-, -, rfl⟩
      · exact .same rfl rfl rfl rfl rfl
      · exact .none rfl (hnil _) (hnil _) rfl (hnil _)
  | release lock_name =>
      cases h
      exact .none rfl (hnil _) (hnil _) rfl (hnil _)
  | drop db st =>
      rw [act] at h
      split at h
      next =>
        obtain ⟨-, rfl⟩ := h
        exact .none rfl (hnil _) (hnil _) rfl (hnil _)
      next => exact .same h.2 rfl rfl rfl rfl
  | get_instance q => exact .same h.2 rfl rfl rfl rfl
  | old_instances => exact .same h.2 rfl rfl rfl rfl
  | in_use_usenames db usenames => exact .same h.2 rfl rfl rfl rfl
  | db_persistent_roles db usenames => exact .same h.2 rfl rfl rfl rfl
  | run_task cluster_name definition_arn => exact .same h rfl rfl rfl rfl
  | external x => exact .same h rfl rfl rfl rfl
  | postgres_user stem => exact .same h.2 rfl rfl rfl rfl
  | usenames db => exact .same h.2 rfl rfl rfl rfl

end Applications
