import DataWorkspace.Applications.Api
import DataWorkspace.Applications.Cleanup
import DataWorkspace.Applications.Spawner

/-!
# The workspace at work

Requests, workers and periodic tasks run at a time, any number of each.  `workspace` is
the system of all of them.

The tasks differ in what they may do to the rows of instances.  `Op.Footprint` says it
for each kind of task, and the lemmas about `InstanceTable` say what becomes of the rows.
-/

namespace Applications

open Py Datasets Async

/-! ## Tasks -/

/-- What runs in the workspace. -/
inductive Task where
  | application_api_view (request : Request)
  | tools_html_POST (user : User) (public_host : Str)
  | visualisation_branch_html_POST (t : ApplicationTemplate) (release_commit : Str)
  | kill_idle_fargate
  | worker
  | delete_unused_datasets_users
  | cleanup_temporary_query_tables (query_logs : List QueryLog)
  /-- Credentials for the Data Explorer, for Superset or for a download. -/
  | new_private_database_credentials (db_role_and_schema_suffix : Str)
      (source_tables : List Core.Entry) (db_user : Str) (dw_user : Option User)
      (force_create_for_databases : List Database)

/-- The program of a task. -/
def Task.prog (dep : Deployment) : Task → M Unit
  | .application_api_view request => do
      let _ ← Applications.application_api_view dep request
      .pure ()
  | .tools_html_POST user public_host => Applications.tools_html_POST user public_host
  | .visualisation_branch_html_POST t release_commit =>
      Applications.visualisation_branch_html_POST t release_commit
  | .kill_idle_fargate => Applications.kill_idle_fargate
  | .worker => Applications.worker dep
  | .delete_unused_datasets_users => Applications.delete_unused_datasets_users dep
  | .cleanup_temporary_query_tables query_logs =>
      Applications.cleanup_temporary_query_tables dep query_logs
  | .new_private_database_credentials suffix source_tables db_user dw_user force => do
      let _ ← credentials (Core.new_private_database_credentials dep.settings suffix source_tables
        db_user dw_user force)
      .pure ()

/-- Any number of tasks. -/
def workspace {ι : Type} (dep : Deployment) (kind : ι → Task) : Shared Ans Exc Unit ι World where
  prog i := (kind i).prog dep
  act _ := act dep

/-! ## What the tasks do -/

/-- The operations of the API, except that it creates instances and sends the messages to
spawn them. -/
def ApiOp : Op → Prop
  | .get_instance (.visible _) => True
  | .external _ => True
  | .save_instance id u => u = .state .RUNNING ∨ u = .state_and_integrity .STOPPED id
  | _ => False

/-- The operations of the pages and of the periodic task that stop instances. -/
def StopOp : Op → Prop
  | .get_instance (.visible _) => True
  | .get_instance (.owned _ _) => True
  | .old_instances => True
  | .external _ => True
  | .delay (.stop _ _) => True
  | .save_instance id u => u = .state_and_integrity .STOPPED id
  | _ => False

/-- The operations of the spawners, except that they store database users. -/
def SpawnerOp : Op → Prop
  | .get_instance _ => True
  | .run_task _ _ => True
  | .stop_task _ _ => True
  | .external _ => True
  | .save_instance _ u => (∃ id, u = .spawner_application_instance_id id) ∨ ∃ url, u = .proxy_url url
  | _ => False

/-- The operations of a worker. -/
def WorkerOp : Op → Prop
  | .receive => True
  | .create_db_user _ => True
  | .postgres_user _ => True
  | .core _ => True
  | o => SpawnerOp o

/-- The operations on the databases. -/
def DatabaseOp : Op → Prop
  | .core _ => True
  | .acquire _ => True
  | .release _ => True
  | .usenames _ => True
  | .in_use_usenames _ _ => True
  | .db_persistent_roles _ _ => True
  | .drop _ _ => True
  | .external _ => True
  | _ => False

section Only

variable {dep : Deployment} {P : Op → Prop}

theorem only_await {o : Op} (h : P o) : (await o).Only P := ⟨h, fun _ => trivial⟩

theorem only_call {x : External} (h : P (.external x)) : (call x).Only P :=
  ⟨h, fun a => by cases a <;> trivial⟩

theorem only_get {q : InstanceQuery} (h : P (.get_instance q)) : (get q).Only P :=
  ⟨h, fun a => by cases a <;> trivial⟩

theorem only_find {q : InstanceQuery} {β : Type} {f : Option ApplicationInstance → M β}
    (h : P (.get_instance q)) (hnone : (f none).Only P) (hsome : ∀ a, (f (some a)).Only P) :
    (find q >>= f).Only P := by
  refine ⟨h, fun a => ?_⟩
  dsimp only
  split
  next => exact hsome _
  next => exact hnone
  next => trivial

theorem only_save {id : Str} {u : Update} (h : P (.save_instance id u)) : (save id u).Only P :=
  ⟨h, fun a => by cases a <;> trivial⟩

theorem only_credentials {α : Type} {p : Core.M α} (h : ∀ o, P (.core o)) :
    (credentials p).Only P :=
  Prog.Only.lift (p.only_true.mono fun o _ => h o)

theorem only_withLock {α : Type} {take : M (Option Unit)} {give : M Unit} {body : M α}
    (htake : take.Only P) (hgive : give.Only P) (hbody : body.Only P) :
    (withLock take give body).Only P := by
  refine htake.bind fun taken => ?_
  cases taken with
  | none => trivial
  | some u =>
      refine hbody.attempt.bind fun r => hgive.bind fun _ => ?_
      cases r <;> trivial

theorem only_stop_spawner_and_application (a : ApplicationInstance) :
    (stop_spawner_and_application a).Only StopOp :=
  (only_await trivial).bind fun _ => only_save rfl

theorem only_tools_html_POST (user : User) (public_host : Str) :
    (tools_html_POST user public_host).Only StopOp :=
  only_find trivial trivial only_stop_spawner_and_application

theorem only_visualisation_branch_html_POST (t : ApplicationTemplate) (release_commit : Str) :
    (visualisation_branch_html_POST t release_commit).Only StopOp :=
  (only_call trivial).bind fun _ => only_find trivial trivial only_stop_spawner_and_application

theorem only_kill_if_idle (a : ApplicationInstance) : (kill_if_idle a).Only StopOp := by
  rw [kill_if_idle]
  split
  next => exact only_stop_spawner_and_application a
  next =>
    refine (only_call trivial).attempt.bind fun busy => ?_
    rcases busy with e | b
    · trivial
    · cases b with
      | true => trivial
      | false => exact (only_stop_spawner_and_application a).attempt.bind fun _ => trivial

theorem only_kill_idle_fargate : kill_idle_fargate.Only StopOp :=
  (only_await trivial).bind fun _ => Prog.Only.forM fun a _ => only_kill_if_idle a

theorem only_application_api_is_allowed (user : User) (public_host : Str)
    (h : ∀ x, P (.external x)) : (application_api_is_allowed dep user public_host).Only P := by
  have hite {c : Prop} [Decidable c] {p q : M Bool} (hp : p.Only P)
      (hq : q.Only P) : (if c then p else q).Only P := by
    split
    · exact hp
    · exact hq
  have horElse {p q : M Bool} (hp : p.Only P) (hq : q.Only P) : (orElse p q).Only P := by
    refine hp.bind fun b => ?_
    cases b with
    | true => trivial
    | false => exact hq
  rw [application_api_is_allowed]
  split
  next => trivial
  next => trivial
  next found =>
    refine Prog.Only.bind ?_ fun item => horElse ?_ (horElse ?_ (horElse ?_ ?_))
    · rw [visualisation_catalogue_item]
      split
      next => exact (only_call (h _)).bind fun _ => trivial
      next => trivial
    · exact hite (only_call (h _)) trivial
    · trivial
    · cases item with
      | none => trivial
      | some item => exact hite (only_call (h _)) trivial
    · exact hite (only_call (h _)) trivial

theorem only_api_application_dict (a : ApplicationInstance) (h : ∀ x, P (.external x)) :
    (api_application_dict dep a).Only P :=
  (only_call (h _)).bind fun _ => trivial

section Api

variable {φ : Type} {adv : φ → Event Ans → φ} {pre : Op → φ → Prop} {s : φ}

theorem meets_find {q : InstanceQuery} {β : Type} {f : Option ApplicationInstance → M β}
    (h : pre (.get_instance q) s) (hnone : ∀ s, Meets (summing adv pre) (f none) s)
    (hsome : ∀ a s, Meets (summing adv pre) (f (some a)) s) :
    Meets (summing adv pre) (find q >>= f) s := by
  refine wp_summing.mpr ⟨h, fun found => ?_⟩
  rcases found with e | a
  · cases e with
    | DoesNotExist => exact hnone _
    | _ => trivial
  · exact hsome a _

theorem meets_application_api_PUT (user : User) (public_host : Str)
    (hpre : ∀ o s, ApiOp o → pre o s)
    (hcreate : ∀ found cpu memory s,
      application_template_tag_user_commit_from_host dep.templates public_host = .ok found →
        Meets (summing adv pre) (create_and_spawn dep user found.tag (new_instance dep user
          public_host found.application_template found.commit_id cpu memory)) s) :
    Meets (summing adv pre) (application_api_PUT dep user public_host) s := by
  refine meets_find (hpre _ s trivial) (fun s => ?_) fun _ _ => trivial
  dsimp only
  split
  next => trivial
  next => trivial
  next found hfound =>
    refine Meets.bind ?_ fun sizes s => Meets.bind (hcreate found _ _ s hfound) fun a s => ?_
    · rw [size]
      split
      next => exact .of_only (only_call (P := ApiOp) trivial) hpre
      next => trivial
    · exact .of_only ((only_api_application_dict (P := ApiOp) a fun _ => trivial).bind
        fun _ => trivial) hpre

theorem meets_application_api_method (request : Request) (hpre : ∀ o s, ApiOp o → pre o s)
    (hcreate : ∀ found cpu memory s,
      application_template_tag_user_commit_from_host dep.templates request.public_host =
          .ok found →
        Meets (summing adv pre) (create_and_spawn dep request.user found.tag
          (new_instance dep request.user request.public_host found.application_template
            found.commit_id cpu memory)) s) :
    Meets (summing adv pre) (application_api_method dep request) s := by
  rw [application_api_method]
  split
  next =>
    refine .of_only (P := ApiOp) (only_find trivial trivial fun a => ?_) hpre
    exact (only_api_application_dict a fun _ => trivial).bind fun _ => trivial
  next => exact meets_application_api_PUT request.user request.public_host hpre hcreate
  next =>
    refine .of_only (P := ApiOp) (only_find trivial trivial fun a => ?_) hpre
    dsimp only
    split
    next => trivial
    next =>
      split
      next => trivial
      next => exact (only_save (.inl rfl)).bind fun _ => trivial
  next =>
    refine .of_only (P := ApiOp) (only_find trivial trivial fun a => ?_) hpre
    exact (only_save (.inr rfl)).bind fun _ => trivial
  next => trivial

theorem meets_application_api_view (request : Request) (hpre : ∀ o s, ApiOp o → pre o s)
    (hcreate : ∀ found cpu memory s,
      application_template_tag_user_commit_from_host dep.templates request.public_host =
          .ok found →
        Meets (summing adv pre) (create_and_spawn dep request.user found.tag
          (new_instance dep request.user request.public_host found.application_template
            found.commit_id cpu memory)) s) :
    Meets (summing adv pre) (application_api_view dep request) s := by
  refine Meets.bind (.of_only (only_application_api_is_allowed (P := ApiOp) request.user
    request.public_host fun _ => trivial) hpre) fun allowed s => ?_
  cases allowed with
  | false => trivial
  | true => exact meets_application_api_method request hpre hcreate

end Api

theorem only_application_api_view (request : Request) (hP : ∀ o, ApiOp o → P o)
    (hcreate : ∀ found cpu memory,
      application_template_tag_user_commit_from_host dep.templates request.public_host =
          .ok found →
        P (.create_instance (new_instance dep request.user request.public_host
          found.application_template found.commit_id cpu memory)))
    (hdelay : ∀ name user tag id spawner_options,
      P (.delay (.spawn name user tag id spawner_options))) :
    (application_api_view dep request).Only P := by
  have h : Meets (summing (fun (_ : Unit) _ => ()) fun o _ => P o)
      (application_api_view dep request) () := by
    refine meets_application_api_view request (fun o _ => hP o)
      fun found cpu memory _ hfound => .of_only (P := P) ?_ fun _ _ h => h
    refine Prog.Only.bind (only_await (hcreate found cpu memory hfound)) fun created => ?_
    cases created with
    | none => exact only_get (hP (.get_instance _) trivial)
    | some a => exact (only_await (hdelay _ _ _ _ _)).bind fun _ => trivial
  exact h.only

/-! ## Workers and periodic tasks -/

/-- The row of a database user. -/
def db_user_row (id : Str) (creds : Core.Credentials) : ApplicationInstanceDbUsers :=
  ⟨creds.db_id, creds.db_user, creds.db_persistent_role, id⟩

theorem only_create_db_users {id : Str} {creds : List Core.Credentials}
    (h : ∀ c ∈ creds, P (.create_db_user (db_user_row id c))) : (create_db_users id creds).Only P :=
  Prog.Only.forM fun c hc => only_await (h c hc)

theorem only_trying {α : Type} {vars : Started} {p : M α} (h : p.Only P) :
    (trying vars p).Only P := by
  refine h.attempt.bind fun r => ?_
  cases r <;> trivial

theorem only_wait_for_pipeline (pipeline_id : Nat) :
    ∀ n, (wait_for_pipeline pipeline_id n).Only SpawnerOp
  | 0 => (only_call trivial).bind fun _ => trivial
  | n + 1 => by
      refine (only_call trivial).bind fun status => ?_
      split
      next => trivial
      next =>
        split
        next => trivial
        next => exact only_wait_for_pipeline pipeline_id n

theorem only_build_tag (vars : Started) (a : ApplicationInstance) (options : FargateOptions)
    (tag : Option Str) : (build_tag vars a options tag).Only SpawnerOp := by
  rw [build_tag]
  split
  next => trivial
  next =>
    refine (only_trying (only_call trivial)).bind fun tag_exists => ?_
    cases tag_exists with
    | true => trivial
    | false =>
        refine (only_trying (only_call trivial)).bind fun pipeline => ?_
        cases pipeline with
        | none => trivial
        | some pipeline_id =>
            exact (only_trying (only_save (.inl ⟨_, rfl⟩))).bind fun _ =>
              (only_trying (only_wait_for_pipeline _ _)).bind fun _ => trivial

theorem only_run_task (cluster_name definition_arn : Str) :
    ∀ n, (run_task cluster_name definition_arn n).Only SpawnerOp
  | 0 => trivial
  | n + 1 => by
      refine (only_await trivial).bind fun r => ?_
      rcases r with e | task_arn
      · cases e with
        | ClientError => exact only_run_task cluster_name definition_arn n
        | other => trivial
      · trivial

theorem only_wait_for_ip (id cluster_name port task_arn : Str) :
    ∀ n, (wait_for_ip id cluster_name port task_arn n).Only SpawnerOp
  | 0 => trivial
  | n + 1 => by
      refine (only_call trivial).bind fun ip_address => ?_
      split
      next => exact only_save (.inr ⟨_, rfl⟩)
      next => exact only_wait_for_ip id cluster_name port task_arn n

theorem only_after_task_run (vars : Started) (id : Str) (options : FargateOptions)
    (task_arn : Str) : (after_task_run vars id options task_arn).Only SpawnerOp := by
  refine (only_trying (only_save (.inl ⟨_, rfl⟩))).bind fun _ =>
    (only_trying (only_get trivial)).bind fun refreshed => ?_
  split
  next => trivial
  next => exact only_trying (only_wait_for_ip _ _ _ _ _)

theorem only_fargate_spawn (user : User) (tag : Option Str) {a : ApplicationInstance}
    (spawner_options : Str) {creds : List Core.Credentials} (hP : ∀ o, SpawnerOp o → P o)
    (h : ∀ c ∈ creds, P (.create_db_user (db_user_row a.id c))) :
    (FargateSpawner.spawn dep user tag a spawner_options creds).Only P := by
  refine Prog.Only.bind (Prog.Only.attempt ?_) fun r => ?_
  · rw [FargateSpawner.start]
    split
    next => trivial
    next options =>
      refine (only_trying (only_create_db_users h)).bind fun _ => Prog.Only.mono ?_ hP
      exact (only_trying (only_call trivial)).bind fun _ => (only_build_tag _ _ _ _).bind fun vars =>
        (only_trying (only_call trivial)).bind fun _ =>
          (only_trying (only_run_task _ _ _)).bind fun _ => only_after_task_run _ _ _ _
  · refine Prog.Only.mono ?_ hP
    rcases r with ⟨cluster_name, pipeline_id, task_arn⟩ | u
    · refine Prog.Only.bind (p := task_arn.elim _ _) ?_ fun _ => ?_
      · cases task_arn with
        | none => trivial
        | some task_arn => exact only_await trivial
      · cases pipeline_id with
        | none => trivial
        | some pipeline_id => exact only_call trivial
    · trivial

theorem only_process_spawn {a : ApplicationInstance} (spawner_options : Str)
    {creds : List Core.Credentials} (hcall : ∀ x, P (.external x))
    (hid : ∀ id, P (.save_instance a.id (.spawner_application_instance_id id)))
    (hurl : ∀ url, P (.save_instance a.id (.proxy_url url)))
    (h : ∀ c ∈ creds, P (.create_db_user (db_user_row a.id c))) :
    (ProcessSpawner.spawn dep a spawner_options creds).Only P := by
  refine Prog.Only.bind (Prog.Only.attempt ?_) fun r => ?_
  · refine (only_create_db_users h).attempt.bind fun created => ?_
    split
    next =>
      refine (only_call (hcall _)).attempt.bind fun started => ?_
      rcases started with e | pid
      · trivial
      · refine ((only_save (hid _)).bind fun _ => only_save (hurl _)).attempt.bind fun saved => ?_
        cases saved <;> trivial
    next => trivial
  · rcases r with (_ | pid) | u
    · trivial
    · exact only_call (hcall _)
    · trivial

theorem workerOp_of_spawnerOp {o : Op} (h : SpawnerOp o) : WorkerOp o := by
  cases o with
  | receive => trivial
  | create_db_user row => trivial
  | postgres_user stem => trivial
  | core o => trivial
  | _ => exact h

theorem only_database_access (user : User) (t : ApplicationTemplate)
    (h : ∀ x, P (.external x)) : (database_access dep user t).Only P := by
  rw [database_access]
  split
  next => exact (only_call (h _)).bind fun _ => trivial
  next => exact (only_call (h _)).bind fun _ => trivial

theorem only_share_credentials (user : User) (t : ApplicationTemplate)
    (h : ∀ x, P (.external x)) : (share_credentials user t).Only P := by
  rw [share_credentials]
  split
  next => exact only_call (h _)
  next => trivial

theorem only_spawn (name : SpawnerName) (user : User) (tag : Option Str)
    (id spawner_options : Str) : (spawn dep name user tag id spawner_options).Only WorkerOp := by
  refine (only_get trivial).bind fun a => (only_database_access _ _ fun _ => trivial).bind
    fun access => (only_await trivial).bind fun db_user =>
      (only_credentials fun _ => trivial).bind fun creds =>
        (only_share_credentials _ _ fun _ => trivial).bind fun _ => ?_
  cases name with
  | PROCESS =>
      exact only_process_spawn _ (fun _ => trivial) (fun _ => .inl ⟨_, rfl⟩)
        (fun _ => .inr ⟨_, rfl⟩) fun _ _ => trivial
  | FARGATE => exact only_fargate_spawn _ _ _ (fun _ => workerOp_of_spawnerOp) fun _ _ => trivial

theorem only_stop (name : SpawnerName) (id : Str) : (stop dep name id).Only SpawnerOp := by
  cases name with
  | PROCESS =>
      refine (only_get trivial).bind fun a => ?_
      split
      next => exact (only_call trivial).attempt.bind fun _ => trivial
      next => trivial
  | FARGATE =>
      refine (only_get trivial).bind fun a => ?_
      split
      next => trivial
      next =>
        split
        next => trivial
        next => trivial
        next => exact only_await trivial

theorem only_worker : (worker dep).Only WorkerOp := by
  refine (only_await trivial).bind fun m => ?_
  cases m with
  | spawn name user tag id spawner_options => exact only_spawn _ _ _ _ _
  | stop name id => exact (only_stop _ _).mono fun _ => workerOp_of_spawnerOp

theorem only_drop {db : Database} {st : Sql.DropStatement} (h : P (.drop db st)) :
    (drop db st).Only P :=
  ⟨h, fun a => by cases a <;> trivial⟩

theorem only_unlessLocked {p : M Unit} (h : p.Only P) : (unlessLocked p).Only P := by
  refine h.attempt.bind fun r => ?_
  split <;> trivial

theorem only_drop_user (db : Database) (usename : Str) (role : Option Str) :
    (drop_user dep db usename role).Only DatabaseOp := by
  refine (only_drop trivial).bind fun _ => (only_drop trivial).bind fun _ =>
    Prog.Only.bind ?_ fun _ => only_drop trivial
  cases role with
  | none => trivial
  | some role =>
      exact (only_credentials fun _ => trivial).bind fun _ =>
        (only_credentials fun _ => trivial).bind fun _ =>
          (only_drop trivial).bind fun _ => only_drop trivial

theorem only_delete_unused_datasets_users : (delete_unused_datasets_users dep).Only DatabaseOp := by
  refine only_unlessLocked (only_withLock (only_await trivial) (only_await trivial)
    (Prog.Only.forM fun db _ => ?_))
  refine (only_await trivial).bind fun usenames => (only_await trivial).bind fun in_use =>
    (only_await trivial).bind fun roles => only_unlessLocked (only_withLock (only_await trivial)
      (only_await trivial) (Prog.Only.forM fun usename _ => ?_))
  refine (only_drop_user _ _ _).attempt.bind fun r => ?_
  rcases r with e | u
  · trivial
  · exact only_call trivial

theorem only_cleanup_temporary_query_tables (query_logs : List QueryLog) :
    (cleanup_temporary_query_tables dep query_logs).Only DatabaseOp :=
  Prog.Only.forM fun _ _ => only_withLock (only_await trivial) (only_await trivial)
    ((only_credentials fun _ => trivial).bind fun _ => (only_drop trivial).bind fun _ =>
      only_credentials fun _ => trivial)

def Task.Footprint (dep : Deployment) : Task → Op → Prop
  | .application_api_view request, o => ApiOp o ∨
      (∃ found cpu memory,
        application_template_tag_user_commit_from_host dep.templates request.public_host =
            .ok found ∧
          o = .create_instance (new_instance dep request.user request.public_host
            found.application_template found.commit_id cpu memory)) ∨
      ∃ name user tag id spawner_options, o = .delay (.spawn name user tag id spawner_options)
  | .tools_html_POST _ _, o => StopOp o
  | .visualisation_branch_html_POST _ _, o => StopOp o
  | .kill_idle_fargate, o => StopOp o
  | .worker, o => WorkerOp o
  | .delete_unused_datasets_users, o => DatabaseOp o
  | .cleanup_temporary_query_tables _, o => DatabaseOp o
  | .new_private_database_credentials _ _ _ _ _, o => DatabaseOp o

theorem Task.only : ∀ t : Task, (t.prog dep).Only (t.Footprint dep)
  | .application_api_view request =>
      (only_application_api_view request (fun _ => .inl)
        (fun found cpu memory h => .inr (.inl ⟨found, cpu, memory, h, rfl⟩))
        fun _ _ _ _ _ => .inr (.inr ⟨_, _, _, _, _, rfl⟩)).bind fun _ => trivial
  | .tools_html_POST user public_host => only_tools_html_POST user public_host
  | .visualisation_branch_html_POST t release_commit =>
      only_visualisation_branch_html_POST t release_commit
  | .kill_idle_fargate => only_kill_idle_fargate
  | .worker => only_worker
  | .delete_unused_datasets_users => only_delete_unused_datasets_users
  | .cleanup_temporary_query_tables query_logs => only_cleanup_temporary_query_tables query_logs
  | .new_private_database_credentials _ _ _ _ _ =>
      (only_credentials fun _ => trivial).bind fun _ => trivial

end Only

/-! ## Schedules

Where the replies of other services are known, a schedule determines a run. -/

/-- What an operation does when locks and messages are waited for, `none` while it has to
wait.  A new id is the number of rows. -/
def waiting (dep : Deployment) (reply : (x : External) → Option x.Reply) :
    (o : Op) → World → Option (Ans o × World)
  | .get_instance q, w => some (w.instances.get q, w)
  | .old_instances, w =>
      some (w.instances.rows.filter fun a => a.spawner == .FARGATE && a.isVisible, w)
  | .create_instance new, w =>
      match w.instances.insert (new.row (str w.instances.rows.length)) with
      | some t => some (some (new.row (str w.instances.rows.length)), { w with instances := t })
      | none =>
          if new.single_running_or_spawning_integrity ∈
              w.instances.rows.map ApplicationInstance.single_running_or_spawning_integrity then
            some (none, w)
          else none
  | .save_instance id u, w =>
      match w.instances.update id u with
      | some t => some (some (), { w with instances := t })
      | none => some (none, w)
  | .create_db_user row, w => some ((), { w with db_users := w.db_users ++ [row] })
  | .in_use_usenames db usenames, w =>
      some (((w.rowsFor db usenames).filter fun row => w.isLive row.application_instance).map
        ApplicationInstanceDbUsers.db_username, w)
  | .db_persistent_roles db usenames, w =>
      some ((w.rowsFor db usenames).map fun row => (row.db_username, row.db_persistent_role), w)
  | .delay m, w => some ((), { w with messages := w.messages ++ [m] })
  | .receive, w =>
      match w.messages with
      | [] => none
      | m :: ms => some (m, { w with messages := ms })
  | .run_task _ definition_arn, w => some (.ok (("task of " : Str) ++ definition_arn), w)
  | .stop_task _ task_arn, w =>
      some ((), { w with stop_requested := w.stop_requested ++ [task_arn] })
  | .external x, w => some (reply x, w)
  | .postgres_user stem, w => some (Applications.postgres_user stem "aaaaa", w)
  | .core o, w => (Core.waiting dep.settings o w.core).map fun r => (r.1, { w with core := r.2 })
  | .acquire lock_name, w =>
      if lock_name ∈ w.locks then none
      else some (some (), { w with locks := lock_name :: w.locks })
  | .release lock_name, w => some ((), { w with locks := w.locks.filter (· ≠ lock_name) })
  | .usenames db, w => some ((w.core.clusters db).roles.filter may_be_unused, w)
  | .drop db st, w =>
      match st.exec (w.core.clusters db) (dep.master db) with
      | some cluster => some (some (), { w with core := w.core.setCluster db cluster })
      | none => some (none, w)

section Waiting

variable {dep : Deployment} {reply : (x : External) → Option x.Reply}

theorem act_of_waiting : ∀ (o : Op) (w : World) (a : Ans o) (w' : World),
    waiting dep reply o w = some (a, w') → act dep o w a w'
  | .get_instance q, w, a, w', h => by
      cases h
      exact ⟨rfl, rfl⟩
  | .old_instances, w, a, w', h => by
      cases h
      refine ⟨fun b hb => ?_, rfl⟩
      obtain ⟨hmem, hb⟩ := List.mem_filter.mp hb
      obtain ⟨hs, hv⟩ := Bool.and_eq_true_iff.mp hb
      exact ⟨hmem, beq_iff_eq.mp hs, hv⟩
  | .create_instance new, w, a, w', h => by
      rw [waiting] at h
      split at h
      next t ht =>
        cases h
        exact .inr ⟨_, t, rfl, ht, rfl⟩
      next =>
        split at h
        next hmem =>
          cases h
          exact .inl ⟨rfl, rfl, hmem⟩
        next => cases h
  | .save_instance id u, w, a, w', h => by
      rw [waiting] at h
      split at h
      next t ht =>
        cases h
        exact .inr ⟨t, rfl, ht, rfl⟩
      next ht =>
        cases h
        exact .inl ⟨rfl, rfl, ht⟩
  | .create_db_user row, w, a, w', h => by
      cases h
      rfl
  | .in_use_usenames db usenames, w, a, w', h => by
      cases h
      exact ⟨rfl, rfl⟩
  | .db_persistent_roles db usenames, w, a, w', h => by
      cases h
      exact ⟨rfl, rfl⟩
  | .delay m, w, a, w', h => by
      cases h
      rfl
  | .receive, w, a, w', h => by
      rw [waiting] at h
      split at h
      next => cases h
      next m ms hms =>
        have herase : w.messages.erase m = ms := by rw [hms, List.erase_cons_head]
        cases h
        exact ⟨hms ▸ List.mem_cons_self .., by rw [← herase]⟩
  | .run_task cluster_name definition_arn, w, a, w', h => by
      cases h
      rfl
  | .stop_task cluster_name task_arn, w, a, w', h => by
      cases h
      rfl
  | .external x, w, a, w', h => by
      cases h
      rfl
  | .postgres_user stem, w, a, w', h => by
      cases h
      refine ⟨⟨List.replicate 5 'a', rfl, fun c hc => ?_, rfl⟩, rfl⟩
      rw [List.eq_of_mem_replicate hc]
      exact List.mem_cons_self ..
  | .core o, w, a, w', h => by
      obtain ⟨⟨a', core⟩, hcore, he⟩ := Option.map_eq_some_iff.mp h
      cases he
      exact ⟨core, Core.acts_of_waiting _ _ _ _ hcore, rfl⟩
  | .acquire lock_name, w, a, w', h => by
      rw [waiting] at h
      split at h
      next => cases h
      next hfree =>
        cases h
        exact .inr ⟨rfl, hfree, rfl⟩
  | .release lock_name, w, a, w', h => by
      cases h
      rfl
  | .usenames db, w, a, w', h => by
      cases h
      refine ⟨fun usename hmem => ?_, rfl⟩
      exact List.mem_filter.mp hmem
  | .drop db st, w, a, w', h => by
      rw [waiting] at h
      rw [act]
      cases hst : st.exec (w.core.clusters db) (dep.master db) with
      | some cluster =>
          rw [hst] at h
          cases h
          exact ⟨rfl, rfl⟩
      | none =>
          rw [hst] at h
          cases h
          exact ⟨rfl, rfl⟩

end Waiting

/-! ## A small deployment

One tool, one database and two users, for the runs that are given in full. -/

namespace Small

def rstudio : ApplicationTemplate where
  id := "1"
  visible := true
  wrap := "NONE"
  host_basename := "rstudio"
  nice_name := "RStudio"
  spawner := .FARGATE
  spawner_options := "{}"
  application_type := .TOOL
  default_memory := "1024"
  default_cpu := "256"
  gitlab_project_id := none

/-- The user who runs it, and another one. -/
def ann : User := Core.MixedLists.ann

def bob : User := ⟨2, "bob@trade.gov.uk", false⟩

/-- The tool of the first user. -/
def host : Str := "rstudio-ab12cd34"

def dep : Deployment where
  settings := Core.MixedLists.settings
  databases := [Core.MixedLists.db]
  templates := ⟨[rstudio], List.nodup_singleton _⟩
  short_hash user := if user = ann then "ab12cd34" else "ffffffff"
  application_options _ := "{}"
  fargate_options _ := some ⟨"cluster", "definition", none, "8888"⟩
  cluster_name _ := some "cluster"
  cluster_name_of_options h := by
    cases h
    rfl
  process_cmd _ := none

/-- Other services reply, and permit everything. -/
def reply : (x : External) → Option x.Reply
  | .catalogue_item _ => none
  | .has_perm _ _ => some true
  | .visualisation_permission _ _ => some false
  | .gitlab_has_developer_access _ _ => some false
  | .tool_configuration _ _ => some (none, none)
  | .spawner_state _ => some InstanceState.RUNNING
  | .application_instance_max_cpu _ => some true
  | .source_tables_for_user _ => some []
  | .source_tables_for_app _ => some []
  | .write_credentials_to_bucket _ => some ()
  | .create_tools_access_iam_role _ => some ()
  | .ecr_tag_exists _ _ => some true
  | .pipeline_trigger _ _ _ _ => some none
  | .pipeline_get _ => some ("success" : Str)
  | .pipeline_cancel _ => some ()
  | .new_task_definition definition_arn _ => some definition_arn
  | .task_ip _ _ => some ("10.0.0.1" : Str)
  | .ecr_retag _ _ _ => some ()
  | .start_process _ => none
  | .kill_process _ => some ()
  | .delete_database_user _ => some ()

/-- No instance yet. -/
def world : World where
  core := Core.MixedLists.world
  instances := ⟨[], List.nodup_nil, List.nodup_nil⟩
  db_users := []
  messages := []
  stop_requested := []
  locks := []

/-- Locks and messages are waited for. -/
def pick {ι : Type} (_ : ι) : (o : Op) → World → Option (Ans o × World) := waiting dep reply

/-- A configuration after a schedule. -/
def after {ι : Type} [DecidableEq ι] (kind : ι → Task) (schedule : List ι) :
    Config Ans Exc Unit ι World :=
  ((workspace dep kind).start world).play pick Always schedule

theorem run_after {ι : Type} [DecidableEq ι] (kind : ι → Task) (schedule : List ι) :
    (workspace dep kind).Run Always world (after kind schedule) :=
  Shared.run_play (fun _ => act_of_waiting) world schedule

/-- A request about the tool. -/
def request (method : Method) (state : Option Str) : Task :=
  .application_api_view ⟨ann, method, host, state⟩

end Small

end Applications
