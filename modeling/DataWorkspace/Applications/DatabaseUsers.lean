import DataWorkspace.Applications.Lifecycle
import DataWorkspace.Core.CallProgress
import Mathlib.Data.Fintype.Basic

/-!
# Whose database users are dropped

The cleanup lists the users of a database, waits, and asks which of them are in use by an
instance that starts or runs.  The others it drops.  A user is known to be in use by its
row, and `spawn` stores the rows after the users were made in all databases, so a user
that is listed and has no row yet is dropped (`user_of_starting_instance_dropped`).

When those that are listed have their rows, no statement of the cleanup takes anything
from the user of an instance that starts or runs (`users_in_use_are_kept`).
-/

namespace Applications

open Py Datasets Async Sql

/-! ## What a task has seen of database users -/

/-- A database user of an instance. -/
structure InstanceUser where
  db_id : Str
  db_username : Str
  application_instance : Str
deriving DecidableEq, Repr

/-- Whose user a row is about. -/
def ApplicationInstanceDbUsers.user (row : ApplicationInstanceDbUsers) : InstanceUser :=
  ⟨row.db_id, row.db_username, row.application_instance⟩

/-- What a task has done to database users. -/
structure UsersSeen where
  /-- The instance it has read by its id, to spawn or to stop it. -/
  instance_id : Option Str := none
  /-- The users it has made for that instance. -/
  made : List InstanceUser := []
  /-- The users that were not in use, until they are dropped. -/
  dropping : List (Str × Str) := []

namespace UsersSeen

def make (s : UsersSeen) (db : Database) (username : Str) : UsersSeen :=
  { s with made := (s.instance_id.toList.map fun id => ⟨db.id, username, id⟩) ++ s.made }

def list (s : UsersSeen) (db : Database) (usenames in_use : List Str) : UsersSeen :=
  { s with dropping := (not_in_use usenames in_use).map fun usename => (db.id, usename) }

/-- What was done after an event. -/
def after : UsersSeen → Event Ans → UsersSeen
  | s, ⟨.get_instance (.id _), .ok a⟩ => { s with instance_id := some a.id }
  | s, ⟨.core (.execute db (.createRole username)), some ()⟩ => s.make db username
  | s, ⟨.in_use_usenames db usenames, in_use⟩ => s.list db usenames in_use
  | s, ⟨.core .release, _⟩ => { s with dropping := [] }
  | s, ⟨.core (.acquire _), none⟩ => { s with dropping := [] }
  | s, _ => s

inductive Becomes (s : UsersSeen) (e : Event Ans) : UsersSeen → Prop where
  | same : Becomes s e s
  | read (id : Str) (a : ApplicationInstance) : e = ⟨.get_instance (.id id), .ok a⟩ →
      Becomes s e { s with instance_id := some a.id }
  | made (db : Database) (username : Str) : e.1 = .core (.execute db (.createRole username)) →
      Becomes s e (s.make db username)
  | listed (db : Database) (usenames in_use : List Str) :
      e = ⟨.in_use_usenames db usenames, in_use⟩ → Becomes s e (s.list db usenames in_use)
  | done (o : Core.Op) : e.1 = .core o → Becomes s e { s with dropping := [] }

theorem becomes_after (s : UsersSeen) (e : Event Ans) : Becomes s e (s.after e) := by
  rw [after.eq_def]
  split
  next id a => exact .read id a rfl
  next db username => exact .made db username rfl
  next db usenames in_use => exact .listed db usenames in_use rfl
  next => exact .done _ rfl
  next => exact .done _ rfl
  next => exact .same

theorem made_after {s : UsersSeen} {m : InstanceUser} (e : Event Ans) (h : m ∈ s.made) :
    m ∈ (s.after e).made := by
  have hb := becomes_after s e
  generalize s.after e = s' at hb
  cases hb with
  | same => exact h
  | read id a he => exact h
  | made db username he => exact List.mem_append_right _ h
  | listed db usenames in_use he => exact h
  | done o he => exact h

end UsersSeen

def takes_from : DropStatement → Option Str
  | .revokeConnect role => some role
  | .revokeDatabase role => some role
  | .reassignOwned role _ => some role
  | .dropOwned role => some role
  | .dropUser role => some role
  | .dropTable _ => none

/-- The database and the user that an operation takes from. -/
def Op.takes_from : Op → Option (Database × Str)
  | .drop db st => (Applications.takes_from st).map fun role => (db, role)
  | _ => none

/-- Users are taken from when they were not in use, and stored when they were made. -/
def UserOp : Op → UsersSeen → Prop
  | .drop db st, s => ∀ role ∈ Applications.takes_from st, (db.id, role) ∈ s.dropping
  | .create_db_user row, s => row.user ∈ s.made
  | _, _ => True

/-! ## The programs -/

/-- The interpretation over what a task has seen. -/
abbrev users : Interp Ans UsersSeen := summing UsersSeen.after UserOp

section Programs

variable {dep : Deployment} {α : Type} {s : UsersSeen}

/-- Operations that change nothing about users, and are permitted. -/
def Quiet (s : UsersSeen) (o : Op) : Prop := (∀ a, s.after ⟨o, a⟩ = s) ∧ UserOp o s

theorem wp_quiet {p : M α} {Q : Except Exc α → UsersSeen → Prop} (hp : p.Only (Quiet s))
    (hQ : ∀ r, Q r s) : wp users p Q s :=
  wp_summing_of_only hp (fun _ h => h.2) (fun _ a h => h.1 a) hQ

theorem quiet_external (x : External) : Quiet s (.external x) := ⟨fun _ => rfl, trivial⟩

theorem quiet_grantRoles (db : Database) (roles : List Str) (user : Str) :
    Quiet s (.core (.execute db (.grantRoles roles user))) := by
  refine ⟨fun a => ?_, trivial⟩
  cases a <;> rfl

theorem quiet_drop {db : Database} {st : DropStatement}
    (h : ∀ role ∈ takes_from st, (db.id, role) ∈ s.dropping) : Quiet s (.drop db st) :=
  ⟨fun _ => rfl, h⟩

theorem only_quiet_execute (db : Database) (roles : List Str) (user : Str) :
    (execute db (.grantRoles roles user)).Only (Quiet s) :=
  ⟨quiet_grantRoles db roles user, fun a => by cases a <;> trivial⟩

theorem quiet_try_drop_user {db : Database} {roles : List (Str × Str)} {usename : Str}
    (h : (db.id, usename) ∈ s.dropping) :
    (try_drop_user dep db roles usename).Only (Quiet s) := by
  have hdrop {st : DropStatement} (hst : takes_from st = some usename) :
      (drop db st).Only (Quiet s) := by
    refine only_drop (quiet_drop fun role hrole => ?_)
    rw [hst, Option.mem_some_iff] at hrole
    exact hrole ▸ h
  refine Prog.Only.bind (Prog.Only.attempt ?_) fun r => ?_
  · refine (hdrop rfl).bind fun _ => (hdrop rfl).bind fun _ => Prog.Only.bind ?_ fun _ => hdrop rfl
    cases roles.lookup usename with
    | none => trivial
    | some role =>
        exact (only_quiet_execute db _ _).bind fun _ => (only_quiet_execute db _ _).bind fun _ =>
          (hdrop rfl).bind fun _ => hdrop rfl
  · rcases r with e | u
    · trivial
    · exact only_call (quiet_external _)

theorem meets_withLock {take : M (Option Unit)} {give : M Unit} {body : M α}
    (htake : wp users take (onOk fun taken s => taken = some () → Meets users body s) s)
    (hgive : give.Only fun o => ∀ s, UserOp o s) : Meets users (withLock take give body) s := by
  refine wp_bind_of htake (fun taken s h => ?_) fun _ _ _ => trivial
  cases taken with
  | none => trivial
  | some _ =>
      refine Meets.bind (Meets.attempt (h rfl)) fun r s => ?_
      refine Meets.bind (.of_only hgive fun _ s h => h s) fun _ s => ?_
      cases r <;> trivial

theorem meets_delete_unused_users_of (db : Database) :
    Meets users (delete_unused_users_of dep db) s := by
  refine Meets.perform trivial fun usenames => Meets.perform trivial fun in_use =>
    Meets.perform trivial fun roles => Meets.bind (Meets.attempt ?_) fun r s => ?_
  · refine meets_withLock (wp_summing.mpr ⟨trivial, fun taken => ?_⟩) (only_await fun _ => trivial)
    cases taken with
    | none => exact fun h => nomatch h
    | some _ =>
        refine fun _ => wp_quiet (Prog.Only.forM fun usename h => ?_) fun _ => trivial
        exact quiet_try_drop_user (List.mem_map.mpr ⟨usename, h, rfl⟩)
  · split <;> trivial

theorem meets_delete_unused_datasets_users : Meets users (delete_unused_datasets_users dep) s := by
  refine Meets.bind (Meets.attempt ?_) fun r s => ?_
  · refine meets_withLock (wp_summing.mpr ⟨trivial, fun taken _ => ?_⟩) (only_await fun _ => trivial)
    exact wp_forM (F := fun _ => True) (fun db _ s _ => meets_delete_unused_users_of db) trivial
  · split <;> trivial

theorem wp_credentials {id suffix db_user : Str} {source_tables : List Core.Entry}
    {dw_user : Option User} {force : List Database} (hs : s.instance_id = some id) :
    wp users (credentials (Core.new_private_database_credentials dep.settings suffix source_tables
      db_user dw_user force))
      (onOk fun creds s => ∀ c ∈ creds, (db_user_row id c).user ∈ s.made) s := by
  let adv (s : UsersSeen) (e : Event Core.Ans) : UsersSeen := s.after ⟨.core e.1, e.2⟩
  have hid : ∀ s e, (adv s e).instance_id = s.instance_id := by
    intro s e
    have hb := s.becomes_after ⟨.core e.1, e.2⟩
    change UsersSeen.Becomes s _ (adv s e) at hb
    generalize adv s e = s' at hb
    cases hb with
    | same => rfl
    | read id a he => cases he
    | made db username he => rfl
    | listed db usenames in_use he => cases he
    | done o he => rfl
  have hmade : wp (summing adv fun _ _ => True) (Core.new_private_database_credentials dep.settings
      suffix source_tables db_user dw_user force)
      (onOk fun creds s => ∀ c ∈ creds, s.instance_id = some id →
        (⟨c.db_id, c.db_user, id⟩ : InstanceUser) ∈ s.made) s := by
    refine Core.wp_new_private_database_credentials_made
      (R := fun (s : UsersSeen) d u => s.instance_id = some id → (⟨d, u, id⟩ : InstanceUser) ∈ s.made)
      (fun d u s e h hid' => ?_) fun db u s hid' => ?_
    · exact UsersSeen.made_after _ (h ((hid s e).symm.trans hid'))
    · have hread : s.instance_id = some id := (hid s _).symm.trans hid'
      refine List.mem_append_left _ ?_
      rw [hread]
      exact List.mem_singleton_self _
  have hread : wp (summing adv fun _ _ => True) (Core.new_private_database_credentials dep.settings
      suffix source_tables db_user dw_user force)
      (onOk fun _ s => s.instance_id = some id) s :=
    Core.wp_kept_made (fun s e h => (hid s e).trans h) hs
  have hboth : wp (summing adv fun _ _ => True) (Core.new_private_database_credentials dep.settings
      suffix source_tables db_user dw_user force)
      (onOk fun creds s => ∀ c ∈ creds, (db_user_row id c).user ∈ s.made) s := by
    refine wp_mono (fun r s h => ?_) _ _ (wp_onOk_and hmade hread)
    cases r with
    | ok creds => exact fun c hc => h.1 c hc h.2
    | error e => trivial
  exact wp_lift (fun _ _ _ => rfl) (fun _ _ _ => trivial) hboth

def StoresOf (id : Str) (creds : List Core.Credentials) (o : Op) : Prop :=
  ∀ s : UsersSeen, (∀ c ∈ creds, (db_user_row id c).user ∈ s.made) → UserOp o s

theorem storesOf_of_spawnerOp {id : Str} {creds : List Core.Credentials} {o : Op}
    (h : SpawnerOp o) : StoresOf id creds o := by
  intro s _
  cases o with
  | drop db st => exact h.elim
  | create_db_user row => exact h.elim
  | _ => trivial

theorem meets_spawn (name : SpawnerName) (user : User) (tag : Option Str) (id options : Str) :
    Meets users (spawn dep name user tag id options) s := by
  have hquiet {α : Type} {p : M α} {s : UsersSeen} {i : Str} (hs : s.instance_id = some i)
      (hp : p.Only (Quiet s)) : wp users p (onOk fun _ s => s.instance_id = some i) s := by
    refine wp_quiet hp fun r => ?_
    cases r with
    | ok a => exact hs
    | error e => trivial
  refine Meets.of_wp (Q := onOk fun _ _ => True) ?_
  refine wp_bind_onOk (F := fun (a : ApplicationInstance) s => s.instance_id = some a.id) ?_
    fun a s hs => wp_bind_onOk (hquiet hs (only_database_access _ _ quiet_external))
      fun access s hs => wp_bind_onOk (hquiet hs (only_await ⟨fun _ => rfl, trivial⟩))
        fun db_user s hs => wp_bind_onOk (wp_credentials hs) fun creds s hmade => ?_
  · refine wp_summing.mpr ⟨trivial, fun found => ?_⟩
    cases found with
    | error e => trivial
    | ok a => rfl
  · refine wp_kept (P := StoresOf a.id creds)
      ((only_share_credentials _ _ fun _ _ _ => trivial).bind fun _ => ?_)
      (fun o s h hs => h s hs) (fun s o a _ h c hc => UsersSeen.made_after _ (h c hc)) ?_ hmade
    · have hcreds : ∀ c ∈ creds, StoresOf a.id creds (.create_db_user (db_user_row a.id c)) :=
        fun c hc s h => h c hc
      cases name with
      | PROCESS =>
          exact only_process_spawn _ (fun _ _ _ => trivial) (fun _ _ _ => trivial)
            (fun _ _ _ => trivial) hcreds
      | FARGATE => exact only_fargate_spawn _ _ _ (fun _ => storesOf_of_spawnerOp) hcreds
    · intro r s _
      cases r <;> trivial

/-- Operations that are permitted in any case. -/
def NoUsers (o : Op) : Prop := ∀ s, UserOp o s

theorem only_noUsers_cleanup (query_logs : List QueryLog) :
    (cleanup_temporary_query_tables dep query_logs).Only NoUsers := by
  refine Prog.Only.forM fun _ _ => only_withLock (only_await fun _ => trivial)
    (only_await fun _ => trivial) ((only_credentials fun _ _ => trivial).bind fun _ =>
      (only_drop fun s role hrole => ?_).bind fun _ => only_credentials fun _ _ => trivial)
  cases hrole

theorem meets_of_noUsers {p : M Unit} (hp : p.Only NoUsers) : Meets users p s :=
  .of_only hp fun _ s h => h s

theorem noUsers_view (request : Request) {o : Op}
    (h : Task.Footprint dep (.application_api_view request) o) : NoUsers o := by
  intro s
  rcases h with h | ⟨found, cpu, memory, -, rfl⟩ | ⟨name, user, tag, id, options, rfl⟩
  · cases o with
    | drop db st => exact h.elim
    | create_db_user row => exact h.elim
    | _ => trivial
  · trivial
  · trivial

theorem meets_worker : Meets users (worker dep) s := by
  refine Meets.perform trivial fun m => ?_
  cases m with
  | spawn name user tag id options => exact meets_spawn name user tag id options
  | stop name id =>
      refine .of_only (only_stop name id) fun o s h => ?_
      cases o with
      | drop db st => exact h.elim
      | create_db_user row => exact h.elim
      | _ => trivial

theorem noUsers_stop {o : Op} (h : StopOp o) : NoUsers o := by
  intro s
  cases o with
  | drop db st => exact h.elim
  | create_db_user row => exact h.elim
  | _ => trivial

theorem Task.meets_of_footprint (t : Task) (h : ∀ o, t.Footprint dep o → NoUsers o) :
    Meets users (t.prog dep) s :=
  meets_of_noUsers (t.only.mono h)

theorem Task.meets_users : ∀ t : Task, Meets users (t.prog dep) {}
  | .application_api_view request => Task.meets_of_footprint _ fun _ => noUsers_view request
  | .tools_html_POST _ _ => Task.meets_of_footprint _ fun _ => noUsers_stop
  | .visualisation_branch_html_POST _ _ => Task.meets_of_footprint _ fun _ => noUsers_stop
  | .kill_idle_fargate => Task.meets_of_footprint _ fun _ => noUsers_stop
  | .worker => meets_worker
  | .delete_unused_datasets_users => meets_delete_unused_datasets_users
  | .cleanup_temporary_query_tables query_logs =>
      meets_of_noUsers (only_noUsers_cleanup query_logs)
  | .new_private_database_credentials _ _ _ _ _ =>
      meets_of_noUsers ((only_credentials fun _ _ => trivial).bind fun _ => trivial)

end Programs

/-! ## Instances that are there -/

def InstanceTable.Has (t : InstanceTable) (id : Str) : Prop := ∃ a ∈ t.rows, a.id = id

section Instances

variable {o : Op} {w w' : World} {id : Str}

theorem RowsStep.has {t t' : InstanceTable} (hs : RowsStep o t t') (h : t.Has id) : t'.Has id := by
  obtain ⟨a, ha, hid⟩ := h
  cases hs with
  | same he => exact he ▸ ⟨a, ha, hid⟩
  | created new i he ht => exact ⟨a, (InstanceTable.mem_insert ht).mpr (.inr ha), hid⟩
  | saved i u he ht =>
      refine ⟨_, (InstanceTable.mem_update ht).mpr ⟨a, ha, rfl⟩, ?_⟩
      split
      next => exact (InstanceTable.apply_id u a).trans hid
      next => exact hid

theorem World.isLive_iff :
    w.isLive id = true ↔ ∃ a ∈ w.instances.rows, a.id = id ∧ a.isVisible = true := by
  rw [World.isLive, List.any_eq_true]
  simp only [Bool.and_eq_true, beq_iff_eq]

theorem live_of_step (hs : RowsStep o w.instances w'.instances) (ho : RowOp o)
    (hno : ∀ id ∈ o.sets_running, ¬ w.instances.Stopped id) (h : w'.isLive id = true)
    (hid : w.instances.Has id) : w.isLive id = true := by
  obtain ⟨b, hb, hbid, hvisible⟩ := World.isLive_iff.mp h
  refine World.isLive_iff.mpr ?_
  cases hs with
  | same he => exact ⟨b, he ▸ hb, hbid, hvisible⟩
  | created new i he ht =>
      rcases (InstanceTable.mem_insert ht).mp hb with rfl | hb
      · obtain ⟨a, ha, haid⟩ := hid
        exact absurd (haid.trans hbid.symm) (InstanceTable.not_mem_of_insert ht a ha)
      · exact ⟨b, hb, hbid, hvisible⟩
  | saved i u he ht =>
      subst he
      obtain ⟨a, ha, hab⟩ := (InstanceTable.mem_update ht).mp hb
      split at hab
      next hi =>
        have haid : a.id = id := by
          rw [← hbid, ← hab]
          exact (InstanceTable.apply_id u a).symm
        refine ⟨a, ha, haid, ?_⟩
        rcases ho with (rfl | rfl) | ⟨sid, rfl⟩ | ⟨url, rfl⟩
        · exact ApplicationInstance.isVisible_iff.mpr fun hst => hno i rfl ⟨a, ha, hi, hst⟩
        · subst hab
          cases hvisible
        · subst hab
          exact hvisible
        · subst hab
          exact hvisible
      next =>
        subst hab
        exact ⟨a, ha, hbid, hvisible⟩

end Instances

/-! ## Runs -/

/-- The users that an operation asks about. -/
def Op.asks_about : Op → Option (Database × List Str)
  | .in_use_usenames db names => some (db, names)
  | _ => none

/-- The user that an operation makes. -/
def Op.makes_user : Op → Option (Database × Str)
  | .core (.execute db (.createRole username)) => some (db, username)
  | _ => none

section Runs

variable {ι : Type}

/-- What a task has done to database users so far. -/
def usersSeen (c : Config Ans Exc Unit ι World) (i : ι) : UsersSeen :=
  c.summary UsersSeen.after {} i

def Belongs (c : Config Ans Exc Unit ι World) (m : InstanceUser) : Prop :=
  m ∈ c.store.db_users.map ApplicationInstanceDbUsers.user ∨ ∃ i, m ∈ (usersSeen c i).made

/-- When the cleanup asks which of the users it has listed are in use, those that were made
for instances that start or run are stored.  No user is made that the cleanup has listed and
is about to drop.  And no instance is set to running that was stopped. -/
structure UsersKnown (c : Config Ans Exc Unit ι World) (i : ι) (o : Op) : Prop where
  not_revived : NotRevived c i o
  stored : ∀ q ∈ o.asks_about, ∀ j, ∀ m ∈ (usersSeen c j).made, m.db_id = q.1.id →
    m.db_username ∈ q.2 → c.store.isLive m.application_instance = true →
      m ∈ c.store.db_users.map ApplicationInstanceDbUsers.user
  unlisted : ∀ q ∈ o.makes_user, (usersSeen c i).instance_id.isSome = true →
    ∀ j, (q.1.id, q.2) ∉ (usersSeen c j).dropping

/-- What holds of database users in every run. -/
structure UsersKept (c : Config Ans Exc Unit ι World) : Prop where
  read : ∀ i, ∀ id ∈ (usersSeen c i).instance_id, c.store.instances.Has id
  belongs : ∀ m, Belongs c m → c.store.instances.Has m.application_instance
  idle : ∀ i m, (m.db_id, m.db_username) ∈ (usersSeen c i).dropping → Belongs c m →
    c.store.isLive m.application_instance = false

variable [DecidableEq ι] {dep : Deployment} {kind : ι → Task} {w₀ : World}
  {c : Config Ans Exc Unit ι World}

section Step

variable {i : ι} {o : Op} {a : Ans o} {p : M Unit} {w : World} {m : InstanceUser}

theorem usersSeen_go_self : usersSeen (c.go i ⟨o, a⟩ p w) i = (usersSeen c i).after ⟨o, a⟩ :=
  Config.summary_go_self ..

theorem usersSeen_go_of_ne {j : ι} (h : j ≠ i) :
    usersSeen (c.go i ⟨o, a⟩ p w) j = usersSeen c j :=
  Config.summary_go_of_ne _ _ h

theorem belongs_go (ha : act dep o c.store a w) (ho : UserOp o (usersSeen c i))
    (h : Belongs (c.go i ⟨o, a⟩ p w) m) : Belongs c m ∨ ∃ db username,
      o = .core (.execute db (.createRole username)) ∧
        ∃ id ∈ (usersSeen c i).instance_id, m = ⟨db.id, username, id⟩ := by
  rcases h with h | ⟨j, h⟩
  · rw [Config.go_store, (effect_of_act ha).db_users, List.map_append] at h
    rcases List.mem_append.mp h with h | h
    · exact .inl (.inl h)
    · obtain ⟨row, hrow, rfl⟩ := List.mem_map.mp h
      cases o with
      | create_db_user row' =>
          obtain rfl := List.mem_singleton.mp hrow
          exact .inl (.inr ⟨i, ho⟩)
      | _ => cases hrow
  · by_cases hj : j = i
    · subst hj
      rw [usersSeen_go_self] at h
      have hb := (usersSeen c j).becomes_after ⟨o, a⟩
      generalize (usersSeen c j).after ⟨o, a⟩ = s at hb h
      cases hb with
      | same => exact .inl (.inr ⟨j, h⟩)
      | read id b he => exact .inl (.inr ⟨j, h⟩)
      | made db username he =>
          rcases List.mem_append.mp h with h | h
          · obtain ⟨id, hid, rfl⟩ := List.mem_map.mp h
            exact .inr ⟨db, username, he, id, Option.mem_toList.mp hid, rfl⟩
          · exact .inl (.inr ⟨j, h⟩)
      | listed db usenames in_use he => exact .inl (.inr ⟨j, h⟩)
      | done o he => exact .inl (.inr ⟨j, h⟩)
    · rw [usersSeen_go_of_ne hj] at h
      exact .inl (.inr ⟨j, h⟩)

theorem dropping_go {j : ι} {d u : Str} (h : (d, u) ∈ (usersSeen (c.go i ⟨o, a⟩ p w) j).dropping) :
    (d, u) ∈ (usersSeen c j).dropping ∨ ∃ db usenames, ∃ in_use : List Str,
      (⟨o, a⟩ : Event Ans) = ⟨.in_use_usenames db usenames, in_use⟩ ∧ d = db.id ∧
        u ∈ usenames ∧ u ∉ in_use := by
  by_cases hj : j = i
  · subst hj
    rw [usersSeen_go_self] at h
    have hb := (usersSeen c j).becomes_after ⟨o, a⟩
    generalize (usersSeen c j).after ⟨o, a⟩ = s at hb h
    cases hb with
    | same => exact .inl h
    | read id b he => exact .inl h
    | made db username he => exact .inl h
    | listed db usenames in_use he =>
        obtain ⟨usename, hmem, heq⟩ := List.mem_map.mp h
        obtain ⟨rfl, rfl⟩ := Prod.mk.inj heq
        obtain ⟨hin, hout⟩ := List.mem_filter.mp hmem
        exact .inr ⟨db, usenames, in_use, he, rfl, hin, of_decide_eq_true hout⟩
    | done o he => cases h
  · rw [usersSeen_go_of_ne hj] at h
    exact .inl h

theorem usersKept_go {k : Ans o → M Unit} (hrun : (workspace dep kind).Run UsersKnown w₀ c)
    (hi : c.tasks i = .op o k) (hok : UsersKnown c i o) (ha : act dep o c.store a w)
    (ih : UsersKept c) : UsersKept (c.go i ⟨o, a⟩ p w) := by
  have hrows := (effect_of_act ha).rows
  have ho : UserOp o (usersSeen c i) := hrun.pre hi (kind i).meets_users
  have hrow : RowOp o := (kind i).rowOp (hrun.only hi (kind i).only)
  refine ⟨fun j id hid => ?_, fun m hm => ?_, fun j m hd hm => ?_⟩
  · refine hrows.has ?_
    by_cases hj : j = i
    · subst hj
      rw [usersSeen_go_self] at hid
      have hb := (usersSeen c j).becomes_after ⟨o, a⟩
      generalize (usersSeen c j).after ⟨o, a⟩ = s at hb hid
      cases hb with
      | same => exact ih.read j id hid
      | read id' b he =>
          cases he
          obtain rfl : b.id = id := Option.some.inj hid
          exact ⟨b, (InstanceTable.mem_of_get ha.1.symm).1, rfl⟩
      | made db username he => exact ih.read j id hid
      | listed db usenames in_use he => exact ih.read j id hid
      | done o he => exact ih.read j id hid
    · rw [usersSeen_go_of_ne hj] at hid
      exact ih.read j id hid
  · refine hrows.has ?_
    rcases belongs_go ha ho hm with hm | ⟨db, username, -, id, hid, rfl⟩
    · exact ih.belongs m hm
    · exact ih.read i id hid
  · rcases belongs_go ha ho hm with hbefore | ⟨db, username, rfl, id, hid, rfl⟩
    · have hkept (h : c.store.isLive m.application_instance = false) :
          w.isLive m.application_instance = false := by
        by_contra hlive
        rw [Bool.not_eq_false] at hlive
        have hold := live_of_step hrows hrow hok.not_revived hlive (ih.belongs m hbefore)
        rw [h] at hold
        cases hold
      rcases dropping_go hd with hd | ⟨db, usenames, in_use, he, hdb, hin, hout⟩
      · exact hkept (ih.idle j m hd hbefore)
      · -- the user was listed, and its row would have been found
        cases he
        refine hkept ?_
        by_contra hlive
        rw [Bool.not_eq_false] at hlive
        have hstored : m ∈ c.store.db_users.map ApplicationInstanceDbUsers.user := by
          rcases hbefore with hm | ⟨j', hm⟩
          · exact hm
          · exact hok.stored (db, usenames) rfl j' m hm hdb hin hlive
        obtain ⟨row, hrow, rfl⟩ := List.mem_map.mp hstored
        obtain ⟨rfl, -⟩ : in_use = _ ∧ _ := ha
        refine hout (List.mem_map.mpr ⟨row, List.mem_filter.mpr ⟨List.mem_filter.mpr ⟨hrow, ?_⟩,
          hlive⟩, rfl⟩)
        exact Bool.and_eq_true_iff.mpr ⟨beq_iff_eq.mpr hdb, decide_eq_true hin⟩
    · rcases dropping_go hd with hd | ⟨db, usenames, in_use, he, -⟩
      · exact absurd hd (hok.unlisted (db, username) rfl (Option.isSome_of_mem hid) j)
      · cases he

end Step

theorem usersKept_of_run
    (h₀ : ∀ row ∈ w₀.db_users, w₀.instances.Has row.application_instance)
    (h : (workspace dep kind).Run UsersKnown w₀ c) : UsersKept c := by
  refine h.invariant ⟨fun i id hid => ?_, fun m hm => ?_, fun i m hd => ?_⟩ ?_
  · cases hid
  · rcases hm with hm | ⟨i, hm⟩
    · obtain ⟨row, hrow, rfl⟩ := List.mem_map.mp hm
      exact h₀ row hrow
    · cases hm
  · cases hd
  · exact fun hrun hi hok ha ih => usersKept_go hrun hi hok ha ih

/-- When the users that the cleanup lists are known, it takes nothing from the user of an
instance that starts or runs. -/
theorem users_in_use_are_kept
    (h₀ : ∀ row ∈ w₀.db_users, w₀.instances.Has row.application_instance)
    (h : (workspace dep kind).Run UsersKnown w₀ c) {i : ι} {o : Op} {k : Ans o → M Unit}
    (hi : c.tasks i = .op o k) {db : Database} {username : Str}
    (ho : o.takes_from = some (db, username)) (m : InstanceUser) (hdb : m.db_id = db.id)
    (husername : m.db_username = username) (hm : Belongs c m) :
    c.store.isLive m.application_instance = false := by
  cases o with
  | drop db' st =>
      obtain ⟨role, hrole, hq⟩ := Option.map_eq_some_iff.mp ho
      obtain ⟨rfl, rfl⟩ := Prod.mk.inj hq
      have hlisted := h.pre hi (kind i).meets_users role hrole
      refine (usersKept_of_run h₀ h).idle i m ?_ hm
      rw [hdb, husername]
      exact hlisted
  | _ => cases ho

end Runs

instance {ι : Type} [Fintype ι] (c : Config Ans Exc Unit ι World) (i : ι) (o : Op) :
    Decidable (UsersKnown c i o) :=
  decidable_of_iff (NotRevived c i o ∧
    (∀ q ∈ o.asks_about, ∀ j, ∀ m ∈ (usersSeen c j).made, m.db_id = q.1.id →
      m.db_username ∈ q.2 → c.store.isLive m.application_instance = true →
        m ∈ c.store.db_users.map ApplicationInstanceDbUsers.user) ∧
    ∀ q ∈ o.makes_user, (usersSeen c i).instance_id.isSome = true →
      ∀ j, (q.1.id, q.2) ∉ (usersSeen c j).dropping)
    ⟨fun h => ⟨h.1, h.2.1, h.2.2⟩, fun h => ⟨h.not_revived, h.stored, h.unlisted⟩⟩

/-! ## A user is dropped

The cleanup asks which users are in use after a worker has made one and before the worker
has stored it. -/

namespace Dropped

/-- The tool is started, a worker spawns it, and the cleanup runs. -/
inductive Step where
  | put | worker | delete | cleanup
deriving DecidableEq, Repr

instance : Fintype Step := ⟨{.put, .worker, .delete, .cleanup}, fun x => by cases x <;> decide⟩

def kind : Step → Task
  | .put => Small.request .PUT none
  | .worker => .worker
  | .delete => Small.request .DELETE none
  | .cleanup => .delete_unused_datasets_users

/-- The user may read the exports. -/
def reply : (x : External) → Option x.Reply
  | .source_tables_for_user _ =>
      some (Core.MixedLists.calls (fun _ => "exports") true).source_tables
  | x => Small.reply x

def pick (_ : Step) : (o : Op) → World → Option (Ans o × World) := waiting Small.dep reply

/-- The database user of the instance. -/
def user : InstanceUser := ⟨"1", "user_ann_trade_gov_uk_aaaaa", "0"⟩

/-- The user is listed and not in use, and then it is stored and the tool is started. -/
def listing : List Step :=
  List.replicate 6 Step.put ++ List.replicate 32 Step.worker ++ List.replicate 4 Step.cleanup ++
    List.replicate 12 Step.worker ++ List.replicate 1 Step.cleanup

/-- The configuration before the user is dropped. -/
def listed : Config Ans Exc Unit Step World :=
  ((workspace Small.dep kind).start Small.world).play pick Always listing

/-- The configuration after it. -/
def dropped : Config Ans Exc Unit Step World := listed.play pick Always (List.replicate 4 Step.cleanup)

/-- The tool is started and stopped before the cleanup. -/
def stopping : List Step :=
  List.replicate 6 Step.put ++ List.replicate 44 Step.worker ++ List.replicate 3 Step.delete ++
    List.replicate 5 Step.cleanup

/-- The configuration before the user of what was stopped is dropped. -/
def stopped : Config Ans Exc Unit Step World :=
  ((workspace Small.dep kind).start Small.world).play pick UsersKnown stopping

end Dropped

open Dropped in
/-- The database user of an instance that starts is dropped. -/
theorem user_of_starting_instance_dropped :
    (workspace Small.dep kind).Run Always Small.world listed ∧
      (workspace Small.dep kind).Later Always listed dropped ∧
      (listed.tasks .cleanup).next.bind Op.takes_from =
        some (Core.MixedLists.db, user.db_username) ∧
      Belongs listed user ∧ listed.store.isLive user.application_instance = true ∧
      user.db_username ∉ (dropped.store.core.clusters Core.MixedLists.db).roles ∧
      dropped.store.isLive user.application_instance = true := by
  have hrow : user ∈ listed.store.db_users.map ApplicationInstanceDbUsers.user := by decide +kernel
  refine ⟨?_, ?_, ?_, .inl hrow, ?_, ?_, ?_⟩
  · exact Shared.run_play (fun _ => act_of_waiting) Small.world listing
  · exact Config.later_play (fun _ => act_of_waiting) listed _
  · decide +kernel
  · decide +kernel
  · decide +kernel
  · decide +kernel

open Dropped in
/-- When the tool was stopped before, its user is dropped, and it is not in use. -/
theorem user_of_stopped_instance_dropped :
    (stopped.tasks .cleanup).next.bind Op.takes_from =
        some (Core.MixedLists.db, user.db_username) ∧
      Belongs stopped user ∧ stopped.store.isLive user.application_instance = false := by
  have hnext : (stopped.tasks .cleanup).next.bind Op.takes_from =
      some (Core.MixedLists.db, user.db_username) := by decide +kernel
  have hrow : user ∈ stopped.store.db_users.map ApplicationInstanceDbUsers.user := by decide +kernel
  refine ⟨hnext, .inl hrow, ?_⟩
  obtain ⟨o, ho, htakes⟩ := Option.bind_eq_some_iff.mp hnext
  obtain ⟨k, hk⟩ := Prog.eq_op_of_next ho
  have hempty : ∀ row ∈ Small.world.db_users, Small.world.instances.Has row.application_instance :=
    fun row hrow => absurd hrow List.not_mem_nil
  have hrun : (workspace Small.dep kind).Run UsersKnown Small.world stopped :=
    Shared.run_play (fun _ => act_of_waiting) Small.world stopping
  exact users_in_use_are_kept hempty hrun hk htakes user rfl rfl (.inl hrow)

end Applications
