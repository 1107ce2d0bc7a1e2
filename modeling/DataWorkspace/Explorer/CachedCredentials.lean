import DataWorkspace.Async.Versioned
import DataWorkspace.Core.Credentials
import DataWorkspace.Py.Digits
import Mathlib.Order.WithBot
import Mathlib.Data.Nat.Basic

/-!
# Cached credentials

The Data Explorer connects with credentials of the user.  Making new ones takes long, so they are
cached, under a key with a version and the user.  The version is common to all users.  When
permissions change, either the version is raised, or the entries of the users whose permissions
changed are dropped.

`Op` are the operations of all of this on the cache and the database, and `Job` the tasks that
perform them.  Nothing here depends on who has the lock of a user, which times out, so it may be
had by any number of tasks.
-/

namespace Explorer

open Py Datasets Async
open Core (Credentials Entry sourceTableEntry referenceDatasetEntry user_email_domain)

namespace CachedCredentials

/-! ## Keys -/

/-- What the version is where there is none yet, or its number. -/
abbrev Version := WithBot Nat

/-- `str(credentials_version)`. -/
def versionText : Version → Str
  | none => "None"
  | some n => str n

inductive CacheKey where
  /-- `credentials_version_key`. -/
  | version
  | entry (v : Version) (sso_id : Str)
deriving DecidableEq

/-- The key as the cache knows it. -/
def CacheKey.text : CacheKey → Str
  | .version => "explorer_credentials_version"
  | .entry v sso_id => "explorer_credentials_" ++ (versionText v ++ '_' :: sso_id)

theorem versionText_append_inj {v w : Version} {s t : Str}
    (h : versionText v ++ '_' :: s = versionText w ++ '_' :: t) : v = w ∧ s = t := by
  have hdigit {n : Nat} {s t : Str} : str n ++ '_' :: s ≠ 'N' :: t := by
    intro h
    cases hn : str n with
    | nil => exact str_ne_nil n hn
    | cons d ds =>
        rw [hn] at h
        have hd := isDigit_of_mem_str (n := n) (hn ▸ List.mem_cons_self)
        rw [(List.cons.inj h).1] at hd
        exact absurd hd (by decide)
  match v, w with
  | none, none => exact ⟨rfl, (List.cons.inj (List.append_cancel_left h)).2⟩
  | none, some n => exact absurd h.symm hdigit
  | some n, none => exact absurd h hdigit
  | some m, some n =>
      obtain ⟨rfl, hst⟩ := str_append_inj (by decide) h
      exact ⟨rfl, hst⟩

theorem version_ne_entry {v : Version} {sso_id : Str} :
    CacheKey.text .version ≠ (CacheKey.entry v sso_id).text := by
  intro h
  have hrest : ("version" : Str) = versionText v ++ '_' :: sso_id :=
    @List.append_cancel_left _ ("explorer_credentials_" : Str) _ _ h
  match v with
  | none => exact absurd (List.cons.inj hrest).1 (by decide)
  | some n =>
      cases hn : str n with
      | nil => exact str_ne_nil n hn
      | cons d ds =>
          rw [versionText, hn] at hrest
          have hd := isDigit_of_mem_str (n := n) (hn ▸ List.mem_cons_self)
          rw [← (List.cons.inj hrest).1] at hd
          exact absurd hd (by decide)

theorem CacheKey.text_inj {key key' : CacheKey} : key.text = key'.text ↔ key = key' := by
  refine ⟨fun h => ?_, congrArg _⟩
  match key, key' with
  | .version, .version => rfl
  | .version, .entry _ _ => exact absurd h version_ne_entry
  | .entry _ _, .version => exact absurd h.symm version_ne_entry
  | .entry v sso_id, .entry v' sso_id' =>
      obtain ⟨rfl, rfl⟩ := versionText_append_inj (List.append_cancel_left h)
      rfl

/-! ## Operations -/

/-- A user, with `user.profile.sso_id`. -/
structure Profile where
  user : User
  sso_id : Str
deriving DecidableEq, Repr

/-- What is in the cache. -/
inductive Value where
  | number (n : Nat)
  | credentials (creds : List Credentials)
deriving DecidableEq, Repr

/-- What the requests read in the database. -/
structure Db where
  catalogue : Catalogue
  databases : List Database

/-- The operations that do not concern the cache. -/
inductive Query where
  | acquire (name : Str)
  | release (name : Str)
  /-- `user_explorer_connection`. -/
  | connect (credentials : Credentials)
  /-- The union of the queries over source tables. -/
  | source_tables (user : User) (domain : Str)
  | reference_datasets (user : User)
  /-- `postgres_user`, which draws characters. -/
  | postgres_user (email suffix : Str)
  | databases (memorable_names : List Str)
  /-- `new_private_database_credentials`. -/
  | create (db_role_schema_suffix : Str) (source_tables : List Entry) (db_user : Str)
      (dw_user : User) (force_create_for_databases : List Database)

/-- The answers.  `none` and `false` stand for exceptions. -/
@[reducible] def Query.Answer : Query → Type
  | .acquire _ => Bool
  | .release _ => Bool
  | .connect _ => Bool
  | .source_tables _ _ => List SourceTable
  | .reference_datasets _ => List (ReferenceDataset × Database)
  | .postgres_user _ _ => Str
  | .databases _ => List Database
  | .create _ _ _ _ _ => Option (List Credentials)

inductive Op where
  /-- `cache.set(credentials_version_key, 1, nx=True, timeout=None)`. -/
  | set_nx
  | get_version
  | incr
  | get (version : Version) (sso_id : Str)
  | set (version : Version) (sso_id : Str) (creds : List Credentials)
  | delete (version : Version) (sso_id : Str)
  /-- An entry times out.  The version does not. -/
  | expire (version : Version) (sso_id : Str)
  | query (q : Query)
  /-- The transaction of a change commits. -/
  | commit (db : Db)

@[reducible] def Ans : Op → Type
  | .get_version => Version
  | .incr => Bool
  | .get _ _ => Option (List Credentials)
  | .query q => q.Answer
  | _ => Unit

inductive Raised where
  | InvalidExplorerConnectionException
  | LockError
  | KeyError
  | IndexError
  | ValueError
  | RuntimeError
  /-- An exception of a database. -/
  | DatabaseError
deriving DecidableEq, Repr

/-- What a task comes to. -/
inductive Result where
  | settings (credentials : Credentials)
  | done
deriving DecidableEq, Repr

abbrev M (α : Type) := Prog Ans Raised α

def await (o : Op) : M (Ans o) := .perform o

structure Settings where
  EXPLORER_DEFAULT_CONNECTION : Str
  /-- The names of the connections of the Data Explorer. -/
  connections : List Str
  db_role_schema_suffix_for_user : Profile → Str

variable (settings : Settings)

/-! ## Functions -/

/-- `get_user_cached_credentials_key`, up to the user. -/
def credentials_version : M Version := do
  await .set_nx
  let version : Version ← await .get_version
  .pure version

def remove_data_explorer_user_cached_credentials (user : Profile) : M Unit := do
  let version ← credentials_version
  await (.delete version user.sso_id)

def invalidate_data_explorer_user_cached_credentials : M Unit := do
  let version : Version ← await .get_version
  match version with
  | some (_ + 1) => do
      let found : Bool ← await .incr
      if found then .pure () else .raise .ValueError
  | _ => .pure ()

/-- `source_tables_for_user`, with a query for each kind of table. -/
def source_tables_for_user (user : User) : M (List Entry) :=
  match user_email_domain user with
  | none => .raise .IndexError
  | some domain => do
      let rows : List SourceTable ← await (.query (.source_tables user domain))
      let references : List (ReferenceDataset × Database) ←
        await (.query (.reference_datasets user))
      .pure (rows.map sourceTableEntry ++ references.map referenceDatasetEntry)

/-- `get_available_user_connections(creds)[alias]`: the last of a name is kept. -/
def forAlias (creds : List Credentials) (alias' : Str) : Option Credentials :=
  creds.reverse.find? fun c => c.memorable_name = alias'

/-- The cached credentials, if there are any and they can be connected with. -/
def still_valid (alias' : Str) : Option (List Credentials) → M (Option (List Credentials))
  | some (c :: creds) => do
      let connection ← .ofOption .KeyError (forAlias (c :: creds) alias')
      let connects : Bool ← await (.query (.connect connection))
      .pure (if connects then some (c :: creds) else none)
  | _ => .pure none

/-- What happens under the lock. -/
def user_credentials (user : Profile) (alias' : Str) : M (List Credentials) := do
  let version ← credentials_version
  let cached : Option (List Credentials) ← await (.get version user.sso_id)
  let valid ← still_valid alias' cached
  match valid with
  | some creds => .pure creds
  | none => do
      let source_tables ← source_tables_for_user user.user
      let db_user : Str ← await (.query (.postgres_user user.user.email "explorer"))
      let force : List Database ← await (.query (.databases settings.connections))
      let creds : Option (List Credentials) ← await (.query (.create
        (settings.db_role_schema_suffix_for_user user) source_tables db_user user.user force))
      let creds ← .ofOption .DatabaseError creds
      await (.set version user.sso_id creds)
      .pure creds

/-- `with cache.lock(…)`. -/
def withLock {α : Type} (name : Str) (body : M α) : M α := do
  let acquired : Bool ← await (.query (.acquire name))
  if acquired then do
    let r : Except Raised α ← body.attempt
    let released : Bool ← await (.query (.release name))
    match released, r with
    | false, _ => .raise .LockError
    | true, .ok a => .pure a
    | true, .error e => .raise e
  else .raise .LockError

/-- `if not alias: alias = …`. -/
def connectionName (alias' : Option Str) : Str :=
  if alias'.getD [] = [] then settings.EXPLORER_DEFAULT_CONNECTION else alias'.getD []

def get_user_explorer_connection_settings (user : Profile) (alias' : Option Str) :
    M Credentials :=
  if connectionName settings alias' ∉ settings.connections then
    .raise .InvalidExplorerConnectionException
  else do
    let creds ← withLock ("get-explorer-connection-" ++ user.sso_id)
      (user_credentials settings user (connectionName settings alias'))
    .ofOption .RuntimeError (forAlias creds (connectionName settings alias'))

/-! ## Tasks -/

/-- What goes on at a time. -/
inductive Job where
  | request (user : Profile) (alias' : Option Str)
  | invalidate
  /-- The entries of some users are dropped, one after the other. -/
  | clear (users : List Profile)
  | commit (db : Db)
  | expire (version : Version) (sso_id : Str)

def Job.prog : Job → M Result
  | .request user alias' => do
      let credentials ← get_user_explorer_connection_settings settings user alias'
      .pure (.settings credentials)
  | .invalidate => do
      invalidate_data_explorer_user_cached_credentials
      .pure .done
  | .clear users => do
      users.forM remove_data_explorer_user_cached_credentials
      .pure .done
  | .commit db => do
      await (.commit db)
      .pure .done
  | .expire version sso_id => do
      await (.expire version sso_id)
      .pure .done

/-- The cache and the database. -/
structure Store where
  cache : Str → Option Value
  db : Db

namespace Store

def get (s : Store) (key : CacheKey) : Option Value := s.cache key.text

def set (s : Store) (key : CacheKey) (value : Option Value) : Store :=
  { s with cache := Function.update s.cache key.text value }

@[simp] theorem get_set_self (s : Store) (key : CacheKey) (value : Option Value) :
    (s.set key value).get key = value := Function.update_self ..

theorem get_set_of_ne {key key' : CacheKey} (h : key' ≠ key) (s : Store) (value : Option Value) :
    (s.set key value).get key' = s.get key' :=
  Function.update_of_ne (fun ht => h (CacheKey.text_inj.mp ht)) ..

/-- `cache.get(credentials_version_key, None)`. -/
def version (s : Store) : Version :=
  match s.get .version with
  | some (.number n) => some n
  | _ => none

/-- The credentials of a user, under a version. -/
def entry (s : Store) (v : Version) (sso_id : Str) : Option (List Credentials) :=
  match s.get (.entry v sso_id) with
  | some (.credentials creds) => some creds
  | _ => none

end Store

/-- What a query may be answered.  The tables are read in any order. -/
def Query.Answers (db : Db) : (q : Query) → q.Answer → Prop
  | .source_tables user domain, rows =>
      rows.Perm (Core.permitted_source_tables user domain db.catalogue)
  | .reference_datasets user, rows =>
      rows.Perm (Core.external_reference_datasets user db.catalogue)
  | .databases memorable_names, rows =>
      rows.Perm (db.databases.filter fun d => d.memorable_name ∈ memorable_names)
  | _, _ => True

/-- What the operations answer and do.  Only the cache and what requests read in the database is
kept here. -/
def act : (o : Op) → Store → Ans o → Store → Prop
  | .set_nx, s, _, s' =>
      s' = if (s.get .version).isSome then s else s.set .version (some (.number 1))
  | .get_version, s, a, s' => a = s.version ∧ s' = s
  | .incr, s, a, s' =>
      match s.version with
      | some n => a = true ∧ s' = s.set .version (some (.number (n + 1)))
      | none => a = false ∧ s' = s
  | .get version sso_id, s, a, s' => a = s.entry version sso_id ∧ s' = s
  | .set version sso_id creds, s, _, s' =>
      s' = s.set (.entry version sso_id) (some (.credentials creds))
  | .delete version sso_id, s, _, s' => s' = s.set (.entry version sso_id) none
  | .expire version sso_id, s, _, s' => s' = s.set (.entry version sso_id) none
  | .query q, s, a, s' => q.Answers s.db a ∧ s' = s
  | .commit db, s, _, s' => s' = { s with db := db }

/-- Any number of tasks. -/
def tasks {ι : Type} (job : ι → Job) : Shared Ans Raised Result ι Store where
  prog i := (job i).prog settings
  act _ := act

end CachedCredentials

end Explorer
