import DataWorkspace.Async.Prog
import DataWorkspace.Core.SourceTables
import DataWorkspace.Sql.Like
import DataWorkspace.Sql.Postgres

/-!
# Database credentials

`new_private_database_credentials` makes a temporary database user in each of the
databases a user may read.  The user is granted a permanent role, and the
privileges and team memberships of that role are brought up to date first: the
function reads what the role has, compares it with what it should have, and
revokes and grants the differences.

The function is a program over the operations it awaits: queries on the catalogue
of a database, statements, the lock around grants, and random passwords.  `exec`
is what the operations do when no other program runs.

The queries compare names with `LIKE`.  Their patterns are those of the source,
where some underscores are escaped and some are not.
-/

namespace Core

open Py Datasets Sql Async

/-- The start of the name of a permanent role and of its schema. -/
def USER_SCHEMA_STEM : Str := "_user_"

/-- How the workspace itself connects to a database. -/
structure DatabaseData where
  NAME : Str
  HOST : Str
  PORT : Str
  USER : Str
deriving DecidableEq, Repr

/-- The settings the function reads. -/
structure Settings where
  DATABASES_DATA : Str → DatabaseData
  PGAUDIT_LOG_SCOPES : Str
  /-- The workspace does not connect as one of the permanent roles. -/
  user_not_permanent : ∀ name, startswith (DATABASES_DATA name).USER USER_SCHEMA_STEM = false

/-! ## Queries on the catalogue -/

/-- The queries of the function. -/
inductive Query where
  | tables_and_views_that_exist (schema_tables : List (Str × Str))
  | missing_db_roles
  | tables_with_existing_privs (role schema : Str)
  | schemas_with_existing_privs (role schema : Str)
  | db_team_roles_previously_granted (role : Str)
deriving DecidableEq, Repr

def Query.Row : Query → Type
  | .tables_and_views_that_exist _ => Str × Str
  | .missing_db_roles => Str
  | .tables_with_existing_privs _ _ => Str × Str
  | .schemas_with_existing_privs _ _ => Str
  | .db_team_roles_previously_granted _ => Str

/-- `rolname SIMILAR TO '\_user\_[0-9a-f]{8}'`. -/
def similarToUserRole (rolname : Str) : Bool :=
  startswith rolname USER_SCHEMA_STEM && (rolname.drop 6).length == 8 &&
    (rolname.drop 6).all fun c => ('0' ≤ c ∧ c ≤ '9') ∨ ('a' ≤ c ∧ c ≤ 'f')

/-- The schemas no query over schemas looks at. -/
def skippedSchema (own schema : Str) : Bool :=
  schema ∈ (["information_schema", "pg_catalog", "pg_toast", own] : List Str) ||
    like "pg_temp_%" schema || like "pg_toast_temp_%" schema

/-- The schemas the query over tables does not look at. -/
def skippedTableSchema (own schema : Str) : Bool :=
  skippedSchema own schema || like "_team_%" schema

/-- The relations of one kind that satisfy `p`. -/
def relationsOf (c : Cluster) (kind : RelationKind) (p : Str × Str → Bool) : List (Str × Str) :=
  ((c.relations.filter fun r => r.kind == kind).map Relation.key).filter p

/-- The relations of all three kinds that satisfy `p`. -/
def relationsWhere (c : Cluster) (p : Str × Str → Bool) : List (Str × Str) :=
  relationsOf c .pg_tables p ++ relationsOf c .pg_views p ++ relationsOf c .pg_matviews p

def tables_and_views_that_exist (c : Cluster) (schema_tables : List (Str × Str)) :
    List (Str × Str) :=
  if schema_tables = [] then [] else (relationsWhere c (· ∈ schema_tables)).dedup

/-- The permanent roles and team roles that `user` is not a member of. -/
def missing_db_roles (c : Cluster) (user : Str) : List Str :=
  c.roles.filter fun rolname =>
    (similarToUserRole rolname || like "\\_user\\_app\\_%" rolname ||
      like "\\_team\\_%" rolname) && !c.pg_has_role user rolname

def tables_with_existing_privs (c : Cluster) (role schema : Str) : List (Str × Str) :=
  relationsWhere c fun t => !skippedTableSchema schema t.1 && c.hasAnyTablePrivilege role t

def schemas_with_existing_privs (c : Cluster) (role schema : Str) : List Str :=
  c.schemas.filter fun s => !skippedSchema schema s && c.hasAnySchemaPrivilege role s

def db_team_roles_previously_granted (c : Cluster) (role : Str) : List Str :=
  c.roles.filter fun rolname => like "\\_team\\_" rolname && c.pg_has_role role rolname

/-- What a query answers when it is made as `user`. -/
def Query.rows (c : Cluster) (user : Str) : (q : Query) → List q.Row
  | .tables_and_views_that_exist schema_tables => Core.tables_and_views_that_exist c schema_tables
  | .missing_db_roles => Core.missing_db_roles c user
  | .tables_with_existing_privs role schema => Core.tables_with_existing_privs c role schema
  | .schemas_with_existing_privs role schema => Core.schemas_with_existing_privs c role schema
  | .db_team_roles_previously_granted role => Core.db_team_roles_previously_granted c role

/-! ## Operations -/

/-- What the function awaits. -/
inductive Op where
  /-- The schema names of the teams of a user. -/
  | team_schema_names (dw_user : Option User)
  | postgres_password
  | query (db : Database) (q : Query)
  /-- `CREATE ROLE` in a block that swallows every error. -/
  | ensure_db_role (db : Database) (role : Str)
  | execute (db : Database) (st : Statement)
  /-- `cache.lock("database-grant-v1")`, entered and left. -/
  | acquire (timeout : Nat)
  | release
  | create_database_user (owner : User) (username : Str)

/-- The answers.  A statement and the lock may fail. -/
def Ans : Op → Type
  | .team_schema_names _ => List Str
  | .postgres_password => Str
  | .query _ q => List q.Row
  | .ensure_db_role _ _ => Unit
  | .execute _ _ => Option Unit
  | .acquire _ => Option Unit
  | .release => Unit
  | .create_database_user _ _ => Unit

/-- The exceptions. -/
inductive Exc where
  | database
  | lock
deriving DecidableEq, Repr

/-- Programs over these operations. -/
abbrev M := Prog Ans Exc

/-- Perform one operation. -/
def await (o : Op) : M (Ans o) := .perform o

/-- `cur.execute` of a statement. -/
def execute (db : Database) (st : Statement) : M Unit :=
  .op (.execute db st) fun
    | some () => .pure ()
    | none => .raise .database

/-- `with cache.lock("database-grant-v1", timeout=timeout)`. -/
def withLock {α : Type} (timeout : Nat) (body : M α) : M α :=
  .op (.acquire timeout) fun
    | none => .raise .lock
    | some () => do
        let r : Except Exc α ← body.attempt
        await .release
        match r with
        | .ok a => .pure a
        | .error e => .raise e

/-! ## The function -/

structure Plan where
  tables_to_revoke : List (Str × Str)
  tables_to_grant : List (Str × Str)
  schemas_to_revoke : List Str
  schemas_to_grant : List Str
  db_team_roles_to_revoke : List Str
  db_team_roles_to_grant : List Str

/-- The differences between what the role should have and what it has. -/
def plan (allowed_tables : List (Str × Str)) (allowed_schemas db_team_roles : List Str)
    (tables_with_existing_privs : List (Str × Str))
    (schemas_with_existing_privs db_team_roles_previously_granted : List Str) : Plan where
  tables_to_revoke := tables_with_existing_privs.filter (· ∉ allowed_tables)
  tables_to_grant := allowed_tables.filter (· ∉ tables_with_existing_privs)
  schemas_to_revoke := schemas_with_existing_privs.filter (· ∉ allowed_schemas)
  schemas_to_grant := allowed_schemas.filter (· ∉ schemas_with_existing_privs)
  db_team_roles_to_revoke := db_team_roles_previously_granted.filter (· ∉ db_team_roles)
  db_team_roles_to_grant := db_team_roles.filter (· ∉ db_team_roles_previously_granted)

/-- The parameters set on each role. -/
def roleSettings (settings : Settings) : List Str :=
  ["idle_in_transaction_session_timeout = '60min'", "statement_timeout = '60min'",
    ("pgaudit.log = " : Str) ++ settings.PGAUDIT_LOG_SCOPES, "pgaudit.log_catalog = off"]

/-- The credentials of one database. -/
structure Credentials where
  memorable_name : Str
  db_id : Str
  db_name : Str
  db_host : Str
  db_port : Str
  db_user : Str
  db_persistent_role : Str
  db_password : Str
deriving DecidableEq, Repr

def executeUnlessEmpty {α : Type} (db : Database) (l : List α) (st : Statement) : M Unit :=
  if l.isEmpty then .pure () else execute db st

/-- Let the workspace's own user be a member of the roles it is about to manage. -/
def grant_missing_db_roles (data : DatabaseData) (db : Database) : M Unit := do
  let missing_db_roles : List Str ← await (.query db .missing_db_roles)
  if missing_db_roles.isEmpty then .pure ()
  else withLock 60 (execute db (.grantRoles missing_db_roles data.USER))

/-- Compare what the role has with what it should have. -/
def find_plan (db : Database) (db_role db_schema : Str) (db_team_roles : List Str)
    (allowed_tables : List (Str × Str)) : M Plan := do
  let tables : List (Str × Str) ←
    await (.query db (.tables_with_existing_privs db_role db_schema))
  let schemas : List Str ← await (.query db (.schemas_with_existing_privs db_role db_schema))
  let team_roles : List Str ← await (.query db (.db_team_roles_previously_granted db_role))
  .pure (plan allowed_tables (allowed_tables.map Prod.fst).eraseDups db_team_roles tables schemas
    team_roles)

/-- Make the temporary user and the schemas. -/
def create_user_and_schemas (settings : Settings) (db : Database) (db_user db_role : Str)
    (db_team_roles : List Str) : M Unit := do
  execute db (.createRole db_user)
  (db_team_roles ++ [db_role]).forM fun role => execute db (.createSchema role role)
  ([db_role, db_user] ++ db_team_roles).forM fun user =>
    (roleSettings settings).forM fun parameter => execute db (.alterUser user parameter)

def apply_plan (db : Database) (p : Plan) (db_user db_role : Str) : M Unit :=
  withLock 180 do
    executeUnlessEmpty db p.schemas_to_revoke (.revokeSchemas p.schemas_to_revoke db_role)
    executeUnlessEmpty db p.tables_to_revoke (.revokeTables p.tables_to_revoke db_role)
    executeUnlessEmpty db p.schemas_to_grant (.grantUsage p.schemas_to_grant db_role)
    executeUnlessEmpty db p.tables_to_grant (.grantSelect p.tables_to_grant db_role)
    executeUnlessEmpty db p.db_team_roles_to_revoke (.revokeRoles p.db_team_roles_to_revoke db_role)
    executeUnlessEmpty db p.db_team_roles_to_grant (.grantRoles p.db_team_roles_to_grant db_role)
    execute db (.grantConnect db_role)
    execute db (.grantRoles [db_role] db_user)

def permanentRole (db_role_and_schema_suffix : Str) : Str :=
  USER_SCHEMA_STEM ++ db_role_and_schema_suffix

/-- `get_new_credentials(database_obj, tables)`. -/
def get_new_credentials (settings : Settings) (db_role_and_schema_suffix db_user : Str)
    (db_team_roles : List Str) (database_obj : Database) (tables : List (Str × Str)) :
    M Credentials := do
  let db_password : Str ← await .postgres_password
  let db_role := permanentRole db_role_and_schema_suffix
  let database_data := settings.DATABASES_DATA database_obj.memorable_name
  let existing : List (Str × Str) ←
    await (.query database_obj (.tables_and_views_that_exist tables))
  let allowed_tables_that_exist := tables.filter (· ∈ existing)
  (db_team_roles ++ [db_role]).forM fun role => await (.ensure_db_role database_obj role)
  grant_missing_db_roles database_data database_obj
  let p ← find_plan database_obj db_role db_role db_team_roles allowed_tables_that_exist
  create_user_and_schemas settings database_obj db_user db_role db_team_roles
  apply_plan database_obj p db_user db_role
  -- objects the user makes are owned by the role
  execute database_obj (.alterUser db_user (("ROLE " : Str) ++ db_role))
  .pure
    { memorable_name := database_obj.memorable_name
      db_id := database_obj.id
      db_name := database_data.NAME
      db_host := database_data.HOST
      db_port := database_data.PORT
      db_user := db_user
      db_persistent_role := db_role
      db_password := db_password }

/-- `new_private_database_credentials`. -/
def new_private_database_credentials (settings : Settings) (db_role_and_schema_suffix : Str)
    (source_tables : List Entry) (db_user : Str) (dw_user : Option User)
    (force_create_for_databases : List Database) : M (List Credentials) := do
  let db_team_roles : List Str ← await (.team_schema_names dw_user)
  let creds ← (database_to_tables source_tables force_create_for_databases).items.mapM' fun d =>
    get_new_credentials settings db_role_and_schema_suffix db_user db_team_roles d.1 d.2
  match dw_user with
  | some owner => await (.create_database_user owner db_user)
  | none => .pure ()
  .pure creds

/-! ## What the operations do -/

/-- The databases and the workspace's own records. -/
structure World where
  clusters : Database → Cluster
  /-- The schema names of the teams of each user. -/
  teams : User → List Str
  /-- The recorded database users. -/
  database_users : List (User × Str)
  /-- The next random password. -/
  password : Str
  /-- The lock around grants is taken. -/
  locked : Bool

/-- Replace the server of one database. -/
def World.setCluster (w : World) (db : Database) (c : Cluster) : World :=
  { w with clusters := Function.update w.clusters db c }

/-- The server after `CREATE ROLE` in a block that swallows errors. -/
def ensureRole (c : Cluster) (role : Str) : Cluster := (Statement.exec c (.createRole role)).getD c

/-- What the operations do when no other program runs. -/
def exec (settings : Settings) : (o : Op) → World → Ans o × World
  | .team_schema_names dw_user, w => (dw_user.elim [] w.teams, w)
  | .postgres_password, w => (w.password, w)
  | .query db q, w =>
      (q.rows (w.clusters db) (settings.DATABASES_DATA db.memorable_name).USER, w)
  | .ensure_db_role db role, w => ((), w.setCluster db (ensureRole (w.clusters db) role))
  | .execute db st, w =>
      match st.exec (w.clusters db) with
      | some c => (some (), w.setCluster db c)
      | none => (none, w)
  | .acquire _, w => if w.locked then (none, w) else (some (), { w with locked := true })
  | .release, w => ((), { w with locked := false })
  | .create_database_user owner username, w =>
      ((), { w with database_users := w.database_users ++ [(owner, username)] })

end Core
