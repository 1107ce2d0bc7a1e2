import DataWorkspace.Datasets.Models
import DataWorkspace.Py.Collections
import Mathlib.Data.List.Permutation

/-!
# The tables of a user, by database

`source_tables_for_user` lists the tables a user may read: the source tables that
three queries select, in whatever order the database answers their union, and
behind them the tables of the reference datasets.  `database_to_tables` is the
dictionary that `new_private_database_credentials` makes of such a list.  It is
built from `itertools.groupby`, so it keeps only the last run of each database
(`get?_database_to_tables`).

The tables considered in each database are therefore the tables listed for it
exactly when every entry is repeated in the last run of its database
(`considered_eq_listed_iff`).  A source table and a reference dataset in each of
two databases are already too much (`source_tables_for_user_loses_a_table`).
-/

namespace Core

open Py Datasets

/-- The dataset an entry comes from. -/
structure EntryDataset where
  id : Str
  name : Str
  user_access_type : UserAccessType
deriving DecidableEq, Repr

/-- An entry of the list of source tables. -/
structure Entry where
  database : Database
  schema : Str
  table : Str
  dataset : EntryDataset
deriving DecidableEq, Repr

def Entry.key (e : Entry) : Str × Str := (e.schema, e.table)

/-! ## Collecting the tables -/

/-- `user.email.split("@")[1]`. -/
def user_email_domain (user : User) : Option Str := (user.email.splitOn '@')[1]?

/-- `dataset__published=True`, which superusers are spared. -/
def publishedFor (user : User) (published : Bool) : Bool := user.is_superuser || published

/-- The rows of the union of the three queries over source tables. -/
def permitted_source_tables (user : User) (domain : Str) (c : Catalogue) : List SourceTable :=
  let req_authentication := fun t : SourceTable =>
    (t.dataset.user_access_type = .REQUIRES_AUTHENTICATION ∨ t.dataset.user_access_type = .OPEN) ∧
      t.dataset.deleted = false ∧ publishedFor user t.dataset.published = true
  let req_authorization := fun t : SourceTable =>
    t.dataset.user_access_type = .REQUIRES_AUTHORIZATION ∧ t.dataset.deleted = false ∧
      user.id ∈ t.dataset.user_permissions ∧ publishedFor user t.dataset.published = true
  let automatically_authorized := fun t : SourceTable =>
    t.dataset.deleted = false ∧ domain ∈ t.dataset.authorized_email_domains ∧
      publishedFor user t.dataset.published = true
  (c.source_tables.filter fun t =>
    req_authentication t ∨ req_authorization t ∨ automatically_authorized t).dedup

def external_reference_datasets (user : User) (c : Catalogue) :
    List (ReferenceDataset × Database) :=
  c.reference_datasets.filterMap fun x =>
    if x.deleted = false ∧ publishedFor user x.published = true then
      x.external_database.map fun db => (x, db)
    else none

def sourceTableEntry (x : SourceTable) : Entry where
  database := x.database
  schema := x.schema
  table := x.table
  dataset := ⟨x.dataset.id, x.dataset.name, x.dataset.user_access_type⟩

def referenceDatasetEntry (x : ReferenceDataset × Database) : Entry where
  database := x.2
  schema := "public"
  table := x.1.table_name
  dataset := ⟨x.1.uuid, x.1.name, .REQUIRES_AUTHENTICATION⟩

/-- `source_tables_for_user(user)` may return `entries`.  Neither query orders its
rows. -/
def source_tables_for_user (user : User) (c : Catalogue) (entries : List Entry) : Prop :=
  ∃ (domain : Str) (rows : List SourceTable) (references : List (ReferenceDataset × Database)),
    user_email_domain user = some domain ∧
    rows.Perm (permitted_source_tables user domain c) ∧
    references.Perm (external_reference_datasets user c) ∧
    entries = rows.map sourceTableEntry ++ references.map referenceDatasetEntry

/-! ## Splitting them by database -/

/-- The dictionary of the tables of each database, with the databases that are to
have credentials in any case. -/
def database_to_tables (source_tables : List Entry) (force_create_for_databases : List Database) :
    Dict Database (List (Str × Str)) :=
  force_create_for_databases.foldl
    (fun d extra_db => if d.contains extra_db then d else d.set extra_db [])
    (Dict.ofPairs ((groupby Entry.database source_tables).map fun g => (g.1, g.2.map Entry.key)))

def lastRunOf (db : Database) (source_tables : List Entry) : List Entry :=
  lastRun (fun e => e.database == db) source_tables

/-- Permissions on the table `t` of `db` are considered: the dictionary sends `db`
to a list with `t`. -/
def Considered (source_tables : List Entry) (force : List Database) (db : Database)
    (t : Str × Str) : Prop :=
  ∃ tables, (db, tables) ∈ (database_to_tables source_tables force).items ∧ t ∈ tables

/-- The list has an entry for the table `t` of `db`. -/
def Listed (source_tables : List Entry) (db : Database) (t : Str × Str) : Prop :=
  ∃ e ∈ source_tables, e.database = db ∧ e.key = t

instance (l : List Entry) (db : Database) (t : Str × Str) : Decidable (Listed l db t) :=
  inferInstanceAs (Decidable (∃ e ∈ l, _))

theorem lookup_map_value {κ β γ : Type} [DecidableEq κ] (f : β → γ) (k : κ) :
    ∀ l : List (κ × β), (l.map fun kv => (kv.1, f kv.2)).lookup k = (l.lookup k).map f
  | [] => rfl
  | (k', v) :: l => by
      have ih := lookup_map_value f k l
      rw [List.map_cons, List.lookup_cons, List.lookup_cons, ih]
      by_cases h : k = k'
      · simp [h]
      · simp [beq_false_of_ne h]

theorem get?_foldl_force (force : List Database) (db : Database) :
    ∀ d : Dict Database (List (Str × Str)),
      ((force.foldl (fun d extra_db => if d.contains extra_db then d else d.set extra_db [])
        d).get? db).getD [] = (d.get? db).getD [] := by
  induction force with
  | nil => exact fun d => rfl
  | cons extra force ih =>
      intro d
      rw [List.foldl_cons, ih]
      by_cases hc : d.contains extra = true
      · rw [if_pos hc]
      · rw [if_neg hc, Dict.get?_set]
        by_cases hdb : db = extra
        · have hn : d.get? db = none := by
            rw [hdb]
            simpa [Dict.contains] using hc
          rw [if_pos hdb, hn]
          rfl
        · rw [if_neg hdb]

theorem get?_database_to_tables (l : List Entry) (force : List Database) (db : Database) :
    ((database_to_tables l force).get? db).getD [] = (lastRunOf db l).map Entry.key := by
  have hbase : ((Dict.ofPairs ((groupby Entry.database l).map fun g =>
      (g.1, g.2.map Entry.key))).get? db) =
      ((Dict.ofPairs (groupby Entry.database l)).get? db).map (List.map Entry.key) := by
    rw [Dict.get?_ofPairs, Dict.get?_ofPairs, ← List.map_reverse, lookup_map_value]
  rw [database_to_tables, get?_foldl_force, hbase, get?_ofPairs_groupby, lastRunOf]
  by_cases h : lastRun (fun e : Entry => e.database == db) l = []
  · rw [if_pos h, h]
    rfl
  · rw [if_neg h]
    rfl

theorem considered_iff (l : List Entry) (force : List Database) (db : Database) (t : Str × Str) :
    Considered l force db t ↔ ∃ e ∈ lastRunOf db l, e.key = t := by
  have hmem : t ∈ ((database_to_tables l force).get? db).getD [] ↔ Considered l force db t := by
    unfold Considered
    simp only [Dict.mem_items_iff]
    cases (database_to_tables l force).get? db with
    | none => simp
    | some tables => simp
  rw [← hmem, get?_database_to_tables, List.mem_map]

def InLastRun (l : List Entry) (e : Entry) : Prop :=
  ∃ e' ∈ lastRunOf e.database l, e'.key = e.key

instance (l : List Entry) (e : Entry) : Decidable (InLastRun l e) :=
  inferInstanceAs (Decidable (∃ e' ∈ lastRunOf e.database l, _))

/-- The tables considered in each database are the tables listed for it exactly when
every entry is repeated in the last run of its database. -/
theorem considered_eq_listed_iff (l : List Entry) (force : List Database) :
    (∀ db t, Considered l force db t ↔ Listed l db t) ↔ ∀ e ∈ l, InLastRun l e := by
  simp only [considered_iff]
  constructor
  · intro h e he
    exact (h e.database e.key).mpr ⟨e, he, rfl, rfl⟩
  · intro h db t
    constructor
    · rintro ⟨e, he, rfl⟩
      obtain ⟨hl, hdb⟩ := mem_of_mem_lastRun he
      exact ⟨e, hl, by simpa using hdb, rfl⟩
    · rintro ⟨e, he, rfl, rfl⟩
      exact h e he

theorem not_considered_of_not_inLastRun {l : List Entry} {e : Entry} (h : ¬ InLastRun l e)
    (force : List Database) : ¬ Considered l force e.database e.key :=
  fun hc => h ((considered_iff l force e.database e.key).mp hc)

/-! ## What a user with tables in two databases loses -/

def twoDatabases : Catalogue :=
  let db1 : Database := ⟨"1", "datasets"⟩
  let db2 : Database := ⟨"2", "finance"⟩
  let dataset : DataSet :=
    { id := "d", name := "Trade", user_access_type := .OPEN, authorized_email_domains := [],
      deleted := false, published := true, user_permissions := [] }
  { source_tables := [⟨"s1", dataset, db1, "trade", "imports"⟩, ⟨"s2", dataset, db2, "trade", "exports"⟩]
    reference_datasets :=
      [⟨"r1", "Countries", "ref_countries", some db1, false, true⟩,
        ⟨"r2", "Currencies", "ref_currencies", some db2, false, true⟩] }

/-- A user without any special permission. -/
def aUser : User := ⟨1, "ann@example.com", false⟩

/-- Whatever the order in which the queries answer, a table the user may read is
listed and its permissions are not considered. -/
theorem source_tables_for_user_loses_a_table :
    (∃ entries, source_tables_for_user aUser twoDatabases entries) ∧
      ∀ entries, source_tables_for_user aUser twoDatabases entries →
        ¬ ∀ db t, Considered entries [] db t ↔ Listed entries db t := by
  refine ⟨⟨_, "example.com", _, _, by decide, .refl _, .refl _, rfl⟩, ?_⟩
  rintro entries ⟨domain, rows, references, hdomain, hrows, hrefs, rfl⟩ hall
  have hlost : ∃ e ∈ rows.map sourceTableEntry ++ references.map referenceDatasetEntry,
      ¬ InLastRun (rows.map sourceTableEntry ++ references.map referenceDatasetEntry) e := by
    obtain rfl : domain = ("example.com" : Str) := by
      have he : user_email_domain aUser = some ("example.com" : Str) := by decide
      exact Option.some.inj (hdomain.symm.trans he)
    rcases List.perm_pair.mp hrows with rfl | rfl <;> rcases List.perm_pair.mp hrefs with rfl | rfl <;>
      decide
  obtain ⟨e, he, hne⟩ := hlost
  exact not_considered_of_not_inLastRun hne [] ((hall e.database e.key).mpr ⟨e, he, rfl, rfl⟩)

end Core
