import DataWorkspace.Applications.Effects

/-!
# Cleaning up the databases

`_do_delete_unused_datasets_users` drops the temporary database users of each database
that no starting or running instance has.  It reads the users of the database first,
waits, reads the rows of the instances, and then takes the lock around grants.

`cleanup_temporary_query_tables` drops the tables that the Data Explorer made for queries
older than a day.  To drop a table it makes the workspace's own user a member of the role
that owns it, under a lock that is named after the database and the role.
-/

namespace Applications

open Py Datasets Async Sql

/-- `cur.execute` of a statement that takes away. -/
def drop (db : Database) (st : DropStatement) : M Unit :=
  .op (.drop db st) fun
    | some () => .pure ()
    | none => .raise .failed

/-- `GRANT role TO user` and its like. -/
def execute (db : Database) (st : Statement) : M Unit := credentials (Core.execute db st)

/-! ## Unused database users -/

/-- The objects of a database user are given to its permanent role. -/
def reassign_owned (dep : Deployment) (db : Database) (usename db_persistent_role : Str) :
    M Unit := do
  execute db (.grantRoles [usename] (dep.master db))
  execute db (.grantRoles [db_persistent_role] (dep.master db))
  drop db (.reassignOwned usename db_persistent_role)
  drop db (.dropOwned usename)

/-- One database user that is not in use. -/
def drop_user (dep : Deployment) (db : Database) (usename : Str)
    (db_persistent_role : Option Str) : M Unit := do
  drop db (.revokeConnect usename)
  drop db (.revokeDatabase usename)
  db_persistent_role.elim (.pure ()) (reassign_owned dep db usename)
  drop db (.dropUser usename)

/-- Errors with one user are logged, and the next is dropped. -/
def try_drop_user (dep : Deployment) (db : Database) (db_persistent_roles : List (Str × Str))
    (usename : Str) : M Unit := do
  let r : Except Exc Unit ←
    (drop_user dep db usename (db_persistent_roles.lookup usename)).attempt
  match r with
  | .error _ => .pure ()
  | .ok () => call (.delete_database_user usename)

/-- A lock that cannot be taken is logged. -/
def unlessLocked (p : M Unit) : M Unit := do
  let r : Except Exc Unit ← p.attempt
  match r with
  | .ok () => .pure ()
  | .error .LockError => .pure ()
  | .error e => .raise e

/-- The names that are not among those in use. -/
def not_in_use (usenames in_use_usenames : List Str) : List Str :=
  usenames.filter (· ∉ in_use_usenames)

def delete_unused_users_of (dep : Deployment) (db : Database) : M Unit := do
  let usenames : List Str ← await (.usenames db)
  let in_use_usenames : List Str ← await (.in_use_usenames db usenames)
  let not_in_use_usernames := not_in_use usenames in_use_usenames
  let db_persistent_roles : List (Str × Str) ←
    await (.db_persistent_roles db not_in_use_usernames)
  unlessLocked (withGrantLock 4
    (not_in_use_usernames.forM (try_drop_user dep db db_persistent_roles)))

/-- `_do_delete_unused_datasets_users`. -/
def do_delete_unused_datasets_users (dep : Deployment) : M Unit :=
  dep.databases.forM (delete_unused_users_of dep)

/-- `delete_unused_datasets_users`. -/
def delete_unused_datasets_users (dep : Deployment) : M Unit :=
  unlessLocked (withNamedLock "delete_unused_datasets_users" (do_delete_unused_datasets_users dep))

/-! ## Temporary tables of queries -/

/-- A query that was run in the Data Explorer. -/
structure QueryLog where
  id : Nat
  run_by_user : User
  connection : Database
deriving DecidableEq, Repr

def QueryLog.db_role (dep : Deployment) (query_log : QueryLog) : Str :=
  Core.permanentRole (dep.short_hash query_log.run_by_user)

/-- `tempory_query_table_name(user, query_log_id)`. -/
def QueryLog.table (dep : Deployment) (query_log : QueryLog) : Str × Str :=
  (query_log.db_role dep, ("_data_explorer_tmp_query_" : Str) ++ str query_log.id)

def QueryLog.lock_name (dep : Deployment) (query_log : QueryLog) : Str :=
  ("database-grant--" : Str) ++
    (dep.settings.DATABASES_DATA query_log.connection.memorable_name).NAME ++ "--" ++
    query_log.db_role dep ++ "--v4"

def drop_query_table (dep : Deployment) (query_log : QueryLog) : M Unit :=
  withNamedLock (query_log.lock_name dep) do
    execute query_log.connection
      (.grantRoles [query_log.db_role dep] (dep.master query_log.connection))
    drop query_log.connection (.dropTable (query_log.table dep))
    execute query_log.connection
      (.revokeRoles [query_log.db_role dep] (dep.master query_log.connection))

/-- `cleanup_temporary_query_tables`, with the queries that are older than a day. -/
def cleanup_temporary_query_tables (dep : Deployment) (query_logs : List QueryLog) : M Unit :=
  query_logs.forM (drop_query_table dep)

end Applications
