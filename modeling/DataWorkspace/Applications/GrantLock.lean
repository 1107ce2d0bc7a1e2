import DataWorkspace.Applications.DatabaseUsers
import DataWorkspace.Async.Lock

/-!
# Locks around statements

PostgreSQL does not handle concurrent `GRANT` and `REVOKE` well, so the tasks of the workspace
execute them under the lock `database-grant-v1`.  The task that drops temporary tables has a lock
for each database and role instead.  No lock times out here while its task goes on.

`statements_locked` says that, whatever runs at a time, a lock has one task at most, that a
statement is executed by the task that has its lock, and that a task that is over has none.
-/

namespace Applications

open Py Datasets Async Sql

/-! ## The locks -/

/-- The lock `database-grant-v1`, or one with another name. -/
inductive Lock where
  | grant
  | named (lock_name : Str)
deriving DecidableEq, Repr

def locking : Locking Ans Lock where
  takes
    | ⟨.core (.acquire _), some ()⟩ => some .grant
    | ⟨.acquire lock_name, some ()⟩ => some (.named lock_name)
    | _ => none
  gives
    | ⟨.core .release, _⟩ => some .grant
    | ⟨.release lock_name, _⟩ => some (.named lock_name)
    | _ => none

def World.locked (w : World) : Lock → Prop
  | .grant => w.core.locked = true
  | .named lock_name => lock_name ∈ w.locks

/-- `GRANT`, `REVOKE`, `REASSIGN OWNED` and `DROP OWNED`. -/
def Op.grants : Op → Bool
  | .core (.execute _ (.createRole _)) => false
  | .core (.execute _ (.createSchema _ _)) => false
  | .core (.execute _ (.alterUser _ _)) => false
  | .core (.execute _ _) => true
  | .drop _ (.dropUser _) => false
  | .drop _ (.dropTable _) => false
  | .drop _ _ => true
  | _ => false

/-- The statements around the dropping of a temporary table. -/
def QueryLog.statements (dep : Deployment) (query_log : QueryLog) : List Op :=
  [.core (.execute query_log.connection
      (.grantRoles [query_log.db_role dep] (dep.master query_log.connection))),
    .drop query_log.connection (.dropTable (query_log.table dep)),
    .core (.execute query_log.connection
      (.revokeRoles [query_log.db_role dep] (dep.master query_log.connection)))]

/-- `GRANT` and the like need `database-grant-v1`. -/
def NeedsGrant (o : Op) (l : Lock) : Prop := o.grants = true ∧ l = .grant

/-- The locks that a task has while it executes a statement. -/
def Task.Needs (dep : Deployment) : Task → Op → Lock → Prop
  | .cleanup_temporary_query_tables query_logs, o, l =>
      ∃ query_log ∈ query_logs, o ∈ query_log.statements dep ∧
        l = .named (query_log.lock_name dep)
  | _, o, l => NeedsGrant o l

/-- The store gives a lock when it is free. -/
theorem locking_guarded {ι : Type} {dep : Deployment} {kind : ι → Task} :
    locking.Guarded (workspace dep kind) World.locked := by
  constructor
  · intro i o w a w' l h htakes
    cases o with
    | acquire lock_name =>
        rcases h with ⟨rfl, -⟩ | ⟨rfl, hfree, rfl⟩
        · cases htakes
        · cases htakes
          refine ⟨hfree, fun m => ?_⟩
          cases m with
          | grant => simp [World.locked]
          | named n => simp [World.locked]
    | core o =>
        obtain ⟨core, h, rfl⟩ := h
        cases h with
        | locked timeout hfree =>
            cases htakes
            refine ⟨by simp [World.locked, hfree], fun m => ?_⟩
            cases m <;> simp [World.locked]
        | timed_out timeout => cases htakes
        | password password => cases htakes
        | other hne =>
            cases o with
            | acquire timeout => exact absurd rfl (hne timeout)
            | _ => cases htakes
    | _ => cases htakes
  · intro i o w a w' l h htakes hgives m
    cases o with
    | release lock_name =>
        cases hgives
        obtain rfl := h
        cases m <;> simp [World.locked, and_comm]
    | core o =>
        obtain ⟨core, h, rfl⟩ := h
        cases o with
        | release =>
            cases hgives
            cases h
            cases m <;> simp [World.locked, Core.exec]
        | _ => cases hgives
    | _ => cases hgives
  · intro i o w a w' h htakes hgives m
    have hsame : w'.core.locked = w.core.locked ∧ w'.locks = w.locks := by
      change act dep o w a w' at h
      cases o with
      | acquire lock_name =>
          rcases h with ⟨-, rfl⟩ | ⟨rfl, -⟩
          · exact ⟨rfl, rfl⟩
          · cases htakes
      | release lock_name => cases hgives
      | core o =>
          obtain ⟨core, h, rfl⟩ := h
          refine ⟨?_, rfl⟩
          cases h with
          | locked timeout _ => cases htakes
          | timed_out timeout => rfl
          | password password => rfl
          | other hne =>
              cases o with
              | acquire timeout => exact absurd rfl (hne timeout)
              | release => cases hgives
              | execute db st =>
                  rw [Core.exec]
                  split <;> rfl
              | _ => rfl
      | drop db st =>
          rw [act] at h
          split at h
          all_goals
            obtain ⟨-, rfl⟩ := h
            exact ⟨rfl, rfl⟩
      | _ => grind
    cases m <;> simp [World.locked, hsame]

/-! ## What the tasks have -/

section Tasks

variable {dep : Deployment} {needs : Op → Lock → Prop} {held : List Lock} {α : Type}

theorem leaves_withNamedLock {lock_name : Str} {body : M α} (hfree : .named lock_name ∉ held)
    (htake : ∀ l, ¬ needs (.acquire lock_name) l) (hgive : ∀ l, ¬ needs (.release lock_name) l)
    (hbody : Leaves (locking.locks needs) body (.named lock_name :: held)) :
    Leaves (locking.locks needs) (withNamedLock lock_name body) held := by
  refine leaves_take (l := .named lock_name) (fun _ => rfl) htake fun taken => ?_
  cases taken with
  | none => exact .inl ⟨rfl, rfl⟩
  | some u =>
      refine .inr ⟨rfl, wp_giving (fun _ => ⟨rfl, rfl⟩) hgive hfree hbody fun r _ => ?_⟩
      cases r <;> rfl

theorem leaves_withGrantLock {timeout : Nat} {body : M α} (hfree : .grant ∉ held)
    (htake : ∀ l, ¬ needs (.core (.acquire timeout)) l)
    (hgive : ∀ l, ¬ needs (.core .release) l)
    (hbody : Leaves (locking.locks needs) body (.grant :: held)) :
    Leaves (locking.locks needs) (withGrantLock timeout body) held := by
  refine leaves_take (l := .grant) (fun a => by cases a <;> rfl) htake fun taken => ?_
  cases taken with
  | none => exact .inl ⟨rfl, rfl⟩
  | some u =>
      refine .inr ⟨rfl, wp_giving (fun _ => ⟨rfl, rfl⟩) hgive hfree hbody fun r _ => ?_⟩
      cases r <;> rfl

/-! ## Making credentials -/

/-- The locks of a part that makes credentials. -/
def coreLocking : Locking Core.Ans Lock where
  takes e := locking.takes ⟨.core e.1, e.2⟩
  gives e := locking.gives ⟨.core e.1, e.2⟩

abbrev coreLocks : Interp Core.Ans (List Lock) := coreLocking.locks fun o => NeedsGrant (.core o)

/-- An operation that may be performed with these locks. -/
def Covered (held : List Lock) (o : Core.Op) : Prop :=
  coreLocking.Plain o ∧ ∀ l, NeedsGrant (.core o) l → l ∈ held

theorem only_execute_held (db : Database) (st : Statement) :
    (Core.execute db st).Only (Covered [.grant]) :=
  Core.only_execute ⟨fun _ => ⟨rfl, rfl⟩, fun _ hl => hl.2 ▸ List.mem_cons_self⟩

theorem covered_of_not_grants {o : Core.Op} (h : coreLocking.Plain o)
    (hgrants : Op.grants (.core o) = false) : Covered held o :=
  ⟨h, fun _ hl => absurd hl.1 (by simp [hgrants])⟩

theorem only_await_free {o : Core.Op} (h : coreLocking.Plain o)
    (hgrants : Op.grants (.core o) = false) : (Core.await o).Only (Covered held) :=
  Core.only_await (covered_of_not_grants h hgrants)

theorem leaves_covered {p : Core.M α} (hp : p.Only (Covered held)) : Leaves coreLocks p held :=
  leaves_plain hp

theorem leaves_withLock {timeout : Nat} {body : Core.M α} (hbody : Leaves coreLocks body [.grant]) :
    Leaves coreLocks (Core.withLock timeout body) [] := by
  refine leaves_take (l := .grant) (fun a => by cases a <;> rfl) (fun _ h => nomatch h.1)
    fun taken => ?_
  cases taken with
  | none => exact .inl ⟨rfl, rfl⟩
  | some u =>
      refine .inr ⟨rfl, wp_giving (fun _ => ⟨rfl, rfl⟩) (fun _ h => nomatch h.1)
        List.not_mem_nil hbody fun r _ => ?_⟩
      cases r <;> rfl

theorem leaves_grant_missing_db_roles (data : Core.DatabaseData) (db : Database) :
    Leaves coreLocks (Core.grant_missing_db_roles data db) [] := by
  refine (leaves_covered (only_await_free (fun _ => ⟨rfl, rfl⟩) rfl)).bind fun missing => ?_
  split
  · rfl
  · exact leaves_withLock (leaves_covered (only_execute_held db _))

theorem leaves_apply_plan (db : Database) (p : Core.Plan) (db_user db_role : Str) :
    Leaves coreLocks (Core.apply_plan db p db_user db_role) [] := by
  have hunless {β : Type} (l : List β) (st : Statement) :
      (Core.executeUnlessEmpty db l st).Only (Covered [.grant]) := by
    rw [Core.executeUnlessEmpty]
    split
    · trivial
    · exact only_execute_held db st
  exact leaves_withLock (leaves_covered ((hunless _ _).bind fun _ => (hunless _ _).bind fun _ =>
    (hunless _ _).bind fun _ => (hunless _ _).bind fun _ => (hunless _ _).bind fun _ =>
      (hunless _ _).bind fun _ => (only_execute_held _ _).bind fun _ => only_execute_held _ _))

theorem leaves_get_new_credentials (settings : Core.Settings) (suffix db_user : Str)
    (teams : List Str) (db : Database) (tables : List (Str × Str)) :
    Leaves coreLocks (Core.get_new_credentials settings suffix db_user teams db tables) [] := by
  have hawait {o : Core.Op} (h : coreLocking.Plain o) (hgrants : Op.grants (.core o) = false) :
      (Core.await o).Only (Covered []) := only_await_free h hgrants
  have hexecute {st : Statement} (hgrants : Op.grants (.core (.execute db st)) = false) :
      (Core.execute db st).Only (Covered []) :=
    Core.only_execute (covered_of_not_grants (fun _ => ⟨rfl, rfl⟩) hgrants)
  refine (leaves_covered (hawait (fun _ => ⟨rfl, rfl⟩) rfl)).bind fun password =>
    (leaves_covered (hawait (fun _ => ⟨rfl, rfl⟩) rfl)).bind fun existing =>
      (leaves_covered (Prog.Only.forM fun _ _ => hawait (fun _ => ⟨rfl, rfl⟩) rfl)).bind fun _ =>
        (leaves_grant_missing_db_roles _ _).bind fun _ => (leaves_covered ?_).bind fun p =>
          (leaves_covered ?_).bind fun _ => (leaves_apply_plan _ _ _ _).bind fun _ =>
            (leaves_covered (hexecute rfl)).bind fun _ => rfl
  · exact (hawait (fun _ => ⟨rfl, rfl⟩) rfl).bind fun _ =>
      (hawait (fun _ => ⟨rfl, rfl⟩) rfl).bind fun _ =>
        (hawait (fun _ => ⟨rfl, rfl⟩) rfl).bind fun _ => trivial
  · exact (hexecute rfl).bind fun _ => (Prog.Only.forM fun _ _ => hexecute rfl).bind fun _ =>
      Prog.Only.forM fun _ _ => Prog.Only.forM fun _ _ => hexecute rfl

theorem leaves_credentials (suffix : Str) (source_tables : List Core.Entry) (db_user : Str)
    (dw_user : Option User) (force : List Database) :
    Leaves (locking.locks NeedsGrant) (credentials (Core.new_private_database_credentials
      dep.settings suffix source_tables db_user dw_user force)) [] := by
  refine Leaves.lift (fun _ _ _ => rfl) (fun _ _ h => h) (?_ : Leaves coreLocks _ [])
  refine (leaves_covered (only_await_free (fun _ => ⟨rfl, rfl⟩) rfl)).bind fun teams =>
    (Leaves.mapM' fun d _ => leaves_get_new_credentials _ _ _ _ _ _).bind fun creds => ?_
  cases dw_user with
  | none => rfl
  | some owner =>
      exact (leaves_covered (only_await_free (fun _ => ⟨rfl, rfl⟩) rfl)).bind fun _ => rfl

/-! ## The tasks -/

/-- Operations on no lock, which need none. -/
def NoLock : Op → Prop
  | .core _ => False
  | .acquire _ => False
  | .release _ => False
  | .drop _ _ => False
  | _ => True

theorem leaves_noLock {p : M α} (hp : p.Only NoLock) :
    Leaves (locking.locks NeedsGrant) p held := by
  refine leaves_plain (hp.mono fun o h => ?_)
  cases o with
  | core o => exact h.elim
  | acquire lock_name => exact h.elim
  | release lock_name => exact h.elim
  | drop db st => exact h.elim
  | _ => exact ⟨fun _ => ⟨rfl, rfl⟩, fun _ hl => nomatch hl.1⟩

theorem noLock_of_apiOp {o : Op} (h : ApiOp o) : NoLock o := by
  cases o <;> trivial

theorem noLock_of_stopOp {o : Op} (h : StopOp o) : NoLock o := by
  cases o <;> trivial

theorem noLock_of_spawnerOp {o : Op} (h : SpawnerOp o) : NoLock o := by
  cases o <;> trivial

theorem leaves_spawn (name : SpawnerName) (user : User) (tag : Option Str) (id options : Str) :
    Leaves (locking.locks NeedsGrant) (spawn dep name user tag id options) [] := by
  refine (leaves_noLock (only_get trivial)).bind fun a =>
    (leaves_noLock (only_database_access _ _ fun _ => trivial)).bind fun access =>
      Leaves.bind (leaves_noLock (only_await trivial)) fun db_user =>
        (leaves_credentials _ _ _ _ _).bind fun creds =>
          (leaves_noLock (only_share_credentials _ _ fun _ => trivial)).bind fun _ =>
            leaves_noLock ?_
  cases name with
  | PROCESS =>
      exact only_process_spawn _ (fun _ => trivial) (fun _ => trivial) (fun _ => trivial)
        fun _ _ => trivial
  | FARGATE => exact only_fargate_spawn _ _ _ (fun _ => noLock_of_spawnerOp) fun _ _ => trivial

theorem leaves_worker : Leaves (locking.locks NeedsGrant) (worker dep) [] := by
  refine Leaves.bind (leaves_noLock (only_await trivial)) fun m => ?_
  cases m with
  | spawn name user tag id options => exact leaves_spawn _ _ _ _ _
  | stop name id => exact leaves_noLock ((only_stop _ _).mono fun _ => noLock_of_spawnerOp)

theorem leaves_unlessLocked {needs : Op → Lock → Prop} {p : M Unit}
    (hp : Leaves (locking.locks needs) p held) :
    Leaves (locking.locks needs) (unlessLocked p) held := by
  refine hp.attempt.bind fun r => ?_
  split <;> rfl

theorem only_execute {P : Op → Prop} {db : Database} {st : Statement}
    (h : P (.core (.execute db st))) : (execute db st).Only P :=
  ⟨h, fun a => by cases a <;> trivial⟩

theorem only_try_drop_user {P : Op → Prop} {db : Database} {roles : List (Str × Str)}
    {usename : Str} (hdrop : ∀ st, P (.drop db st)) (hexecute : ∀ st, P (.core (.execute db st)))
    (hcall : ∀ x, P (.external x)) : (try_drop_user dep db roles usename).Only P := by
  refine Prog.Only.bind (Prog.Only.attempt ?_) fun r => ?_
  · refine (only_drop (hdrop _)).bind fun _ => (only_drop (hdrop _)).bind fun _ =>
      Prog.Only.bind ?_ fun _ => only_drop (hdrop _)
    cases roles.lookup usename with
    | none => trivial
    | some role =>
        exact (only_execute (hexecute _)).bind fun _ => (only_execute (hexecute _)).bind fun _ =>
          (only_drop (hdrop _)).bind fun _ => only_drop (hdrop _)
  · rcases r with e | u
    · trivial
    · exact only_call (hcall _)

theorem leaves_delete_unused_datasets_users :
    Leaves (locking.locks NeedsGrant) (delete_unused_datasets_users dep) [] := by
  refine leaves_unlessLocked (leaves_withNamedLock List.not_mem_nil (fun _ hl => nomatch hl.1)
    (fun _ hl => nomatch hl.1) (Leaves.forM fun db _ => ?_))
  refine Leaves.bind (leaves_noLock (only_await trivial)) fun usenames =>
    Leaves.bind (leaves_noLock (only_await trivial)) fun in_use =>
      Leaves.bind (leaves_noLock (only_await trivial)) fun roles =>
        leaves_unlessLocked (leaves_withGrantLock (by decide) (fun _ hl => nomatch hl.1)
          (fun _ hl => nomatch hl.1) (leaves_plain (Prog.Only.forM fun usename _ => ?_)))
  have hheld (o : Op) (l : Lock) (hl : NeedsGrant o l) :
      l ∈ ([.grant, .named "delete_unused_datasets_users"] : List Lock) :=
    hl.2 ▸ List.mem_cons_self
  exact only_try_drop_user (fun _ => ⟨fun _ => ⟨rfl, rfl⟩, hheld _⟩)
    (fun _ => ⟨fun _ => ⟨rfl, rfl⟩, hheld _⟩) fun _ => ⟨fun _ => ⟨rfl, rfl⟩, hheld _⟩

theorem lock_name_of_statement {q q' : QueryLog} {o : Op} (h : o ∈ q.statements dep)
    (h' : o ∈ q'.statements dep) : q.lock_name dep = q'.lock_name dep := by
  have hsame : q.connection = q'.connection ∧ q.db_role dep = q'.db_role dep := by
    simp only [QueryLog.statements, List.mem_cons, List.not_mem_nil, or_false] at h h'
    rcases h with rfl | rfl | rfl
    · simp only [Op.core.injEq, Core.Op.execute.injEq, Statement.grantRoles.injEq, List.cons.injEq,
        reduceCtorEq, and_false, or_false] at h'
      exact ⟨h'.1, h'.2.1.1⟩
    · simp only [Op.drop.injEq, DropStatement.dropTable.injEq, reduceCtorEq, false_or,
        or_false] at h'
      exact ⟨h'.1, congrArg Prod.fst h'.2⟩
    · simp only [Op.core.injEq, Core.Op.execute.injEq, Statement.revokeRoles.injEq, List.cons.injEq,
        reduceCtorEq, and_false, false_or] at h'
      exact ⟨h'.1, h'.2.1.1⟩
  unfold QueryLog.lock_name
  rw [hsame.1, hsame.2]

theorem leaves_cleanup_temporary_query_tables (query_logs : List QueryLog) :
    Leaves (locking.locks (Task.Needs dep (.cleanup_temporary_query_tables query_logs)))
      (cleanup_temporary_query_tables dep query_logs) [] := by
  refine Leaves.forM fun q hq => ?_
  have hlock {o : Op} (ho : ∀ q : QueryLog, o ∉ q.statements dep) (l : Lock) :
      ¬ Task.Needs dep (.cleanup_temporary_query_tables query_logs) o l := by
    rintro ⟨q, -, hmem, -⟩
    exact ho q hmem
  refine leaves_withNamedLock List.not_mem_nil (hlock fun q h => ?_) (hlock fun q h => ?_)
    (leaves_plain ?_)
  · simp [QueryLog.statements] at h
  · simp [QueryLog.statements] at h
  have hheld {o : Op} (ho : o ∈ q.statements dep) (l : Lock)
      (hl : Task.Needs dep (.cleanup_temporary_query_tables query_logs) o l) :
      l ∈ ([.named (q.lock_name dep)] : List Lock) := by
    obtain ⟨q', -, hmem, rfl⟩ := hl
    rw [lock_name_of_statement hmem ho]
    exact List.mem_cons_self
  exact (only_execute ⟨fun _ => ⟨rfl, rfl⟩, hheld (by simp [QueryLog.statements])⟩).bind fun _ =>
    (only_drop ⟨fun _ => ⟨rfl, rfl⟩, hheld (by simp [QueryLog.statements])⟩).bind fun _ =>
      only_execute ⟨fun _ => ⟨rfl, rfl⟩, hheld (by simp [QueryLog.statements])⟩

theorem Task.leaves : ∀ t : Task, Leaves (locking.locks (t.Needs dep)) (t.prog dep) []
  | .application_api_view request =>
      leaves_noLock ((Task.only (.application_api_view request)).mono fun o h => by
        rcases h with h | ⟨_, _, _, -, rfl⟩ | ⟨_, _, _, _, _, rfl⟩
        · exact noLock_of_apiOp h
        · trivial
        · trivial)
  | .tools_html_POST user public_host =>
      leaves_noLock ((only_tools_html_POST user public_host).mono fun _ => noLock_of_stopOp)
  | .visualisation_branch_html_POST t release_commit =>
      leaves_noLock ((only_visualisation_branch_html_POST t release_commit).mono
        fun _ => noLock_of_stopOp)
  | .kill_idle_fargate => leaves_noLock (only_kill_idle_fargate.mono fun _ => noLock_of_stopOp)
  | .worker => leaves_worker
  | .delete_unused_datasets_users => leaves_delete_unused_datasets_users
  | .cleanup_temporary_query_tables query_logs => leaves_cleanup_temporary_query_tables query_logs
  | .new_private_database_credentials _ _ _ _ _ =>
      (leaves_credentials _ _ _ _ _).bind fun _ => rfl

end Tasks

/-! ## Runs -/

section Runs

variable {ι : Type} [DecidableEq ι] {dep : Deployment} {kind : ι → Task} {w₀ : World}
  {ok : Config Ans Exc Unit ι World → ι → Op → Prop} {c : Config Ans Exc Unit ι World}

/-- The locks that a task has. -/
def held (c : Config Ans Exc Unit ι World) (i : ι) : List Lock := c.summary locking.hold [] i

/-- **Statements are executed under their locks.** -/
theorem statements_locked (h : (workspace dep kind).Run ok w₀ c) :
    (∀ i j l, l ∈ held c i → l ∈ held c j → i = j) ∧
      (∀ i o l, (c.tasks i).next = some o → (kind i).Needs dep o l → l ∈ held c i) ∧
      ∀ i r, c.tasks i = ended r → held c i = [] := by
  have hleaves (i : ι) : wp (locking.locks ((kind i).Needs dep)) ((workspace dep kind).prog i)
      (fun _ t => t = []) [] := (kind i).leaves
  refine ⟨fun i j l => ?_, fun i o l ho hneeds => ?_, fun i r hi => h.post hi (hleaves i)⟩
  · exact (locking_guarded.owned (fun i => Leaves.fair (hleaves i)) h).unique
  · obtain ⟨k, hk⟩ := Prog.eq_op_of_next ho
    exact (h.pre hk (hleaves i)).2 l hneeds

end Runs

open Dropped in
/-- The cleanup is about to take away from a user, and no worker grants meanwhile. -/
theorem listed_locked :
    (listed.tasks .cleanup).next.map Op.grants = some true ∧ .grant ∈ held listed .cleanup ∧
      ∀ j, .grant ∈ held listed j → j = .cleanup := by
  have hnext : (listed.tasks .cleanup).next.map Op.grants = some true := by decide +kernel
  obtain ⟨o, ho, hgrants⟩ := Option.map_eq_some_iff.mp hnext
  have hrun : (workspace Small.dep kind).Run Always Small.world listed :=
    Shared.run_play (fun _ => act_of_waiting) Small.world listing
  have hlocked := statements_locked hrun
  have hneeds : NeedsGrant o .grant := ⟨hgrants, rfl⟩
  have hheld : .grant ∈ held listed .cleanup := hlocked.2.1 .cleanup o .grant ho hneeds
  exact ⟨hnext, hheld, fun j hj => hlocked.1 j .cleanup .grant hj hheld⟩

end Applications
