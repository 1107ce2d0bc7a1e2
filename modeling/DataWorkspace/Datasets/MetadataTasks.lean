import DataWorkspace.Explorer.Queries
import DataWorkspace.ReferenceData.MetadataHash
import DataWorkspace.ReferenceData.Models
import DataWorkspace.Sql.Separate
import Mathlib.Data.List.ReduceOption

/-!
# The metadata tasks

Two tasks keep `dataflow.metadata` up to date: one for the queries of the data cuts, one for
the reference datasets.  Both go through their items and write a row for each one whose data
is not that of its newest row.

`Faithful` says that a run goes through all its items, writes the rows that are due and
leaves nothing for a run after it.  `tasks_faithful_iff` says which items keep a run from it: a
query without tables or a dataset without fields ends the run for the items behind it too.
-/

namespace Datasets.MetadataTasks

open Py Sql ReferenceData
open Explorer (rstripped)

/-! ## The table -/

inductive DataSetType where
  | REFERENCE
  | MASTER
  | DATACUT
  | VISUALISATION
deriving DecidableEq

/-- A row of `dataflow.metadata`.  Times are numbers. -/
structure Metadata where
  table_schema : Option Str
  table_name : Option Str
  source_data_modified_utc : Option Nat
  dataflow_swapped_tables_utc : Option Nat
  table_structure : Option Str
  data_hash_v1 : Option Str
  data_id : Option Nat
  data_type : Option DataSetType

/-- The databases of `DATABASES_DATA` in their order, with what is in their table. -/
abbrev Databases := Dict Str (List Metadata)

/-- What a task ends with when it does not go through. -/
inductive Raised where
  | ConnectionDoesNotExist
  | ProgrammingError
  | DataError
  | PSqlParseError
  | IndexError
  | KeyError
  | AttributeError
  | TypeError
  | DoesNotExist
deriving DecidableEq

/-- `connections[name]`. -/
def connection (databases : Databases) (name : Str) : Except Raised (List Metadata) :=
  match databases.get? name with
  | some rows => .ok rows
  | none => .error .ConnectionDoesNotExist

/-- `cursor.fetchone()` of some dates, `ORDER BY` the date `DESC`: `NULL` comes first. -/
def fetchone (dates : List (Option Nat)) : Option (Option Nat) :=
  if none ∈ dates then some none else dates.reduceOption.max?.map some

theorem fetchone_eq_some_iff {dates : List (Option Nat)} {date : Nat} :
    fetchone dates = some (some date) ↔
      none ∉ dates ∧ some date ∈ dates ∧ ∀ d, some d ∈ dates → d ≤ date := by
  rw [fetchone]
  split
  next hnull => simp [hnull]
  next hnull =>
    rw [Option.map_eq_some_iff]
    constructor
    · rintro ⟨d, hd, hdate⟩
      obtain rfl := Option.some.inj hdate
      obtain ⟨hmem, hle⟩ := List.max?_eq_some_iff.mp hd
      exact ⟨hnull, List.reduceOption_mem_iff.mp hmem,
        fun d' hd' => hle d' (List.reduceOption_mem_iff.mpr hd')⟩
    · rintro ⟨-, hmem, hle⟩
      exact ⟨date, List.max?_eq_some_iff.mpr ⟨List.reduceOption_mem_iff.mpr hmem,
        fun d hd => hle d (List.reduceOption_mem_iff.mp hd)⟩, rfl⟩

theorem fetchone_eq_none_iff {dates : List (Option Nat)} : fetchone dates = none ↔ dates = [] := by
  constructor
  · intro h
    cases dates with
    | nil => rfl
    | cons d dates =>
        cases d with
        | none => simp [fetchone] at h
        | some d =>
            rw [fetchone] at h
            split at h
            next => cases h
            next => simp [List.reduceOption_cons_of_some, List.max?_cons] at h
  · rintro rfl
    rfl

theorem fetchone_append {dates : List (Option Nat)} {date : Nat} :
    fetchone (dates ++ [some date]) = some (some date) ↔
      none ∉ dates ∧ ∀ d, some d ∈ dates → d ≤ date := by
  rw [fetchone_eq_some_iff]
  constructor
  · rintro ⟨hnull, -, hle⟩
    exact ⟨fun h => hnull (List.mem_append_left _ h),
      fun d hd => hle d (List.mem_append_left _ hd)⟩
  · rintro ⟨hnull, hle⟩
    refine ⟨by simpa using hnull, by simp, fun d hd => ?_⟩
    rcases List.mem_append.mp hd with hd | hd
    · exact hle d hd
    · rw [List.mem_singleton.mp hd |> Option.some.inj]

/-! ## Queries -/

/-- What the databases and the parser say of SQL.  They stay as they are. -/
structure Server where
  /-- The tables that a view of the SQL uses, or none where there can be no such view. -/
  view_table_usage : Str → Str → Option (List (Str × Str))
  /-- The statements of the SQL, with whether they have a `sort_clause`. -/
  parse : Str → Except Raised (List Bool)
  /-- The rows as text. -/
  select : Str → Str → Except Raised (List Str)
  /-- The names and the type codes of the columns. -/
  description : Str → Str → Except Raised (List (Str × Nat))
  md5 : Bytes → Str

structure CustomDatasetQuery where
  id : Nat
  database : Str
  query : Str
  modified_date : Nat

/-- `TYPE_CODES_REVERSED`. -/
def TYPE_CODES_REVERSED : List (Nat × String) :=
  [(16, "boolean"), (17, "bytea"), (18, "text"), (19, "text"), (20, "bigint"), (21, "smallint"),
   (23, "integer"), (25, "text"), (26, "tid"), (114, "json"), (199, "json[]"), (651, "cidr[]"),
   (700, "double precision"), (701, "double precision"), (704, "interval"), (869, "inet"),
   (1000, "boolean[]"), (1001, "bytea[]"), (1002, "text[]"), (1003, "text[]"),
   (1005, "integer[]"), (1006, "integer[]"), (1007, "integer[]"), (1009, "text[]"),
   (1013, "tid[]"), (1014, "text[]"), (1015, "text[]"), (1016, "bigint[]"), (1021, "float[]"),
   (1022, "float[]"), (1028, "tid[]"), (1040, "macaddr[]"), (1041, "inet[]"), (1042, "text"),
   (1043, "text"), (1082, "date"), (1083, "time"), (1114, "timestamp with time zone"),
   (1115, "timestamp without time zone[]"), (1182, "date[]"), (1183, "time[]"),
   (1184, "timestamp with time zone"), (1185, "timestamp with time zone[]"),
   (1186, "timestamp with time zone"), (1187, "interval[]"), (1231, "decimal[]"), (1266, "time"),
   (1270, "time[]"), (1700, "numeric"), (2950, "uuid"), (2951, "text[]"), (3802, "jsonb"),
   (3807, "jsonb[]"), (3904, "type"), (3905, "typeARRAY"), (3906, "type"), (3907, "typeARRAY"),
   (3908, "tsrange"), (3909, "tsrange[]"), (3910, "tstzrange"), (3911, "tstzrange[]"),
   (3912, "daterange"), (3913, "daterange[]")]

/-- `extract_queried_tables_from_sql_query`. -/
def extract_queried_tables_from_sql_query (server : Server) (database_name query : Str) :
    List (Str × Str) :=
  (server.view_table_usage database_name
    (((stripSpace query).reverse.dropWhile (· = ';')).reverse)).getD []

/-- A row of the table that is not about a reference dataset: `NULL` is no data type. -/
def Metadata.on (table : Str × Str) (row : Metadata) : Bool :=
  row.table_schema = some table.1 && row.table_name = some table.2 &&
    row.data_type.any (· ≠ .REFERENCE)

/-- `MIN` of the `MAX` of each group. -/
def earliest (date : Metadata → Option Nat) (rows : List Metadata) (tables : List (Str × Str)) :
    Option Nat :=
  (tables.filterMap fun table => ((rows.filter (·.on table)).filterMap date).max?).min?

/-- The date of `get_tables_last_updated_date`. -/
def tables_date (rows : List Metadata) (tables : List (Str × Str)) : Option Nat :=
  (earliest (·.source_data_modified_utc) rows tables).or
    (earliest (·.dataflow_swapped_tables_utc) rows tables)

/-- `get_tables_last_updated_date`.  Without tables the list after `IN` is empty. -/
def get_tables_last_updated_date (rows : List Metadata) (tables : List (Str × Str)) :
    Except Raised (Option Nat) :=
  if tables = [] then .error .ProgrammingError else .ok (tables_date rows tables)

/-- `get_data_hash`. -/
def get_data_hash (server : Server) (database_name sql : Str) : Except Raised (Option Str) := do
  match ← server.parse sql with
  | [] => .error .IndexError
  | sort_clause :: _ =>
      if sort_clause then
        let rows ← server.select database_name sql
        .ok (some (server.md5 (rows.flatMap encode)))
      else .ok none

def column (col : Str × Nat) : Except Raised Json :=
  match TYPE_CODES_REVERSED.lookup col.2 with
  | some name => .ok (.arr [.str col.1, .str name.toList])
  | none => .error .KeyError

/-- The hash and the structure for the row of a query. -/
def contents (server : Server) (query : CustomDatasetQuery) :
    Except Raised (Option Str × Str) := do
  let sql := rstripped query.query
  let data_hash ← get_data_hash server query.database sql
  let description ← server.description query.database sql
  let columns ← description.mapM column
  .ok (data_hash, Json.dumps (.arr columns))

def last_updated_date (query : CustomDatasetQuery) (tables_last_updated_date : Option Nat) : Nat :=
  match tables_last_updated_date with
  | some date => max date query.modified_date
  | none => query.modified_date

def CustomDatasetQuery.tables (server : Server) (query : CustomDatasetQuery) : List (Str × Str) :=
  extract_queried_tables_from_sql_query server query.database (rstripped query.query)

def CustomDatasetQuery.dates_in (query : CustomDatasetQuery) (rows : List Metadata) :
    List (Option Nat) :=
  (rows.filter fun row => row.data_id = some query.id).map (·.source_data_modified_utc)

/-- `store_custom_dataset_query_table_structures`, for one of the queries. -/
def store_query (server : Server) (query : CustomDatasetQuery) (databases : Databases) :
    Except Raised Databases := do
  let rows ← connection databases query.database
  let tables_last_updated_date ← get_tables_last_updated_date rows (query.tables server)
  let last_updated_date := last_updated_date query tables_last_updated_date
  if fetchone (query.dates_in rows) ≠ some (some last_updated_date) then
    let (data_hash, table_structure) ← contents server query
    .ok (databases.set query.database (rows ++ [{
      table_schema := none
      table_name := none
      source_data_modified_utc := some last_updated_date
      dataflow_swapped_tables_utc := none
      table_structure := some table_structure
      data_hash_v1 := data_hash
      data_id := some query.id
      data_type := some .DATACUT }]))
  else .ok databases

def store_custom_dataset_query_table_structures (server : Server) :
    List CustomDatasetQuery → Databases → Looped Databases Raised :=
  loop (store_query server)

/-! ## Reference datasets -/

structure ReferenceDatasetField where
  modified_date : Nat
  data_type : DataType
  column_name : Option Str
  relationship_name : Option Str
  /-- The dates of the records of the linked dataset. -/
  linked_reference_dataset_field : Option (List Nat)

structure ReferenceDataset where
  table_name : Str
  modified_date : Nat
  fields : List ReferenceDatasetField
  /-- When each record was updated. -/
  updated_dates : List Nat
  /-- What the hash is taken of. -/
  data : MetadataHash.State

/-- `get_postgres_datatype`. -/
def postgres_datatype : DataType → Str
  | .CHAR => "varchar(255)"
  | .INT => "integer"
  | .FLOAT => "float"
  | .DATE => "date"
  | .TIME => "time"
  | .DATETIME => "timestamp"
  | .BOOLEAN => "boolean"
  | .FOREIGN_KEY => "integer"
  | .UUID => "uuid"

def ReferenceDatasetField.column (field : ReferenceDatasetField) : Json :=
  let name := if field.data_type = .FOREIGN_KEY then field.relationship_name else field.column_name
  .arr [(name.map Json.str).getD .null, .str (postgres_datatype field.data_type)]

/-- `data_last_updated`, of the dates of the records. -/
def data_last_updated (updated_dates : List Nat) : Option Nat := updated_dates.max?

/-- The `data_last_updated` of the dataset a field is linked to. -/
def ReferenceDatasetField.linked_date (field : ReferenceDatasetField) :
    Except Raised (Option Nat) :=
  match field.linked_reference_dataset_field with
  | some updated_dates => .ok (data_last_updated updated_dates)
  | none => .error .AttributeError

def ReferenceDataset.linked (dataset : ReferenceDataset) : List ReferenceDatasetField :=
  dataset.fields.filter fun field => field.data_type = .FOREIGN_KEY

/-- The `max` of dates.  `None` is neither smaller nor greater. -/
def latest (date : Nat) (dates : List (Option Nat)) : Except Raised Nat :=
  if none ∈ dates then .error .TypeError else .ok (dates.reduceOption.foldl max date)

def ReferenceDataset.latest_update_date (dataset : ReferenceDataset) : Except Raised Nat := do
  match (dataset.fields.map (·.modified_date)).max? with
  | none => .error .DoesNotExist
  | some fields_date =>
      let date := max fields_date dataset.modified_date
      let date := match data_last_updated dataset.updated_dates with
        | some data_updated => max date data_updated
        | none => date
      let linked_datasets_updated_dates ←
        dataset.linked.mapM ReferenceDatasetField.linked_date
      latest date linked_datasets_updated_dates

/-- Whether a date is later than that of the newest row. -/
def later (latest_update_date : Nat) (metadata : Option (Option Nat)) : Except Raised Bool :=
  match metadata with
  | none => .ok true
  | some none => .error .TypeError
  | some (some date) => .ok (date < latest_update_date)

def ReferenceDataset.dates_in (dataset : ReferenceDataset) (rows : List Metadata) :
    List (Option Nat) :=
  (rows.filter fun row => row.table_schema = some "public".toList &&
    row.table_name = some dataset.table_name).map (·.source_data_modified_utc)

/-- `store_reference_dataset_metadata`, for one of the datasets. -/
def store_dataset (md5 : Bytes → Str) (dataset : ReferenceDataset) (databases : Databases) :
    Except Raised Databases := do
  let latest_update_date ← dataset.latest_update_date
  match databases.items.head? with
  | none => .error .IndexError
  | some (db_name, rows) =>
      if ← later latest_update_date (fetchone (dataset.dates_in rows)) then
        .ok (databases.set db_name (rows ++ [{
          table_schema := some "public".toList
          table_name := some dataset.table_name
          source_data_modified_utc := some latest_update_date
          dataflow_swapped_tables_utc := none
          table_structure := some (Json.dumps
            (.arr (dataset.fields.map ReferenceDatasetField.column)))
          data_hash_v1 := some (md5 dataset.data.hashed_data)
          data_id := none
          data_type := some .REFERENCE }]))
      else .ok databases

def store_reference_dataset_metadata (md5 : Bytes → Str) :
    List ReferenceDataset → Databases → Looped Databases Raised :=
  loop (store_dataset md5)

/-! ## The statement -/

/-- What a task goes through: no two items have the same key. -/
structure Published {α κ : Type} (key : α → κ) where
  items : List α
  apart : items.Pairwise fun a a' => key a ≠ key a'

/-- What is asked of a task: a run gets to its end and writes the rows that are due, and a run
after it gets to its end and writes none. -/
structure Faithful {α : Type} (run : List α → Databases → Looped Databases Raised)
    (dates : α → Databases → List (Option Nat)) (date : α → Databases → Nat)
    (due : Nat → List (Option Nat) → Bool) (items : List α) (databases : Databases) : Prop where
  ends : (run items databases).raised = none
  stored : ∀ a ∈ items, dates a (run items databases).state = dates a databases ++
    if due (date a databases) (dates a databases) then [some (date a databases)] else []
  again_ends : (run items (run items databases).state).raised = none
  again : ∀ a ∈ items, dates a (run items (run items databases).state).state =
    dates a (run items databases).state

def CustomDatasetQuery.dates (query : CustomDatasetQuery) (databases : Databases) :
    List (Option Nat) :=
  ((databases.get? query.database).map query.dates_in).getD []

/-- When the data of a query was updated. -/
def CustomDatasetQuery.date (server : Server) (query : CustomDatasetQuery)
    (databases : Databases) : Nat :=
  last_updated_date query
    ((databases.get? query.database).bind fun rows => tables_date rows (query.tables server))

/-- There is no row yet, or the newest one has another date. -/
def differs (date : Nat) (dates : List (Option Nat)) : Bool := fetchone dates ≠ some (some date)

def ReferenceDataset.dates (dataset : ReferenceDataset) (databases : Databases) :
    List (Option Nat) :=
  (databases.items.head?.map fun kv => dataset.dates_in kv.2).getD []

def ReferenceDataset.date (dataset : ReferenceDataset) : Nat :=
  (dataset.fields.map (·.modified_date) ++ dataset.updated_dates ++
    dataset.linked.flatMap fun field => field.linked_reference_dataset_field.getD []).foldl max
      dataset.modified_date

/-- There is no row yet, or none with a date that is as late. -/
def exceeds (date : Nat) (dates : List (Option Nat)) : Bool :=
  (fetchone dates).all fun newest => newest.all (· < date)

/-- The rows of a query let it be: it has tables, its rows have dates and none is later than
its data, and it can be read where there is no row for its data. -/
structure QuerySettles (server : Server) (query : CustomDatasetQuery) (date : Nat)
    (dates : List (Option Nat)) : Prop where
  tables : query.tables server ≠ []
  dated : none ∉ dates
  latest : ∀ d, some d ∈ dates → d ≤ date
  read : some date ∉ dates → ∃ row, contents server query = .ok row

/-- The datasets that it is linked to have records. -/
def ReferenceDataset.Filled (dataset : ReferenceDataset) : Prop :=
  ∀ field ∈ dataset.linked, ∃ updated_dates,
    field.linked_reference_dataset_field = some updated_dates ∧ updated_dates ≠ []

/-- A dataset has fields, those it is linked to have records, and its rows have dates. -/
structure DatasetSettles (dataset : ReferenceDataset) (dates : List (Option Nat)) : Prop where
  fields : dataset.fields ≠ []
  linked : dataset.Filled
  dated : none ∉ dates

/-! ## Items by themselves -/

section Items

variable {α ν : Type} {step : α → Databases → Except Raised Databases} {view : α → Databases → ν}
  {outcome : α → ν → Except Raised ν} {Apart : α → α → Prop} {own : ν → List (Option Nat)}
  {date : α → ν → Nat} {due : Nat → List (Option Nat) → Bool}

theorem faithful_iff_settles (h : Separate step view outcome Apart)
    (hstored : ∀ {a v v'}, outcome a v = .ok v' →
      own v' = own v ++ if due (date a v) (own v) then [some (date a v)] else [])
    (hsame : ∀ {a v v'}, outcome a v = .ok v' → own v' = own v → v' = v)
    {items : List α} (databases : Databases) (hp : items.Pairwise Apart) :
    Faithful (loop step) (fun a s => own (view a s)) (fun a s => date a (view a s)) due items
      databases ↔
    ∀ a ∈ items, ∃ v, outcome a (view a databases) = .ok v ∧ outcome a v = .ok v := by
  rw [← h.settles_iff hp]
  constructor
  · intro hf
    exact ⟨hf.ends, hf.again_ends, fun a ha =>
      hsame (h.outcome_eq hp hf.again_ends ha) (hf.again a ha)⟩
  · rintro ⟨hends, hagain, hview⟩
    exact ⟨hends, fun a ha => hstored (h.outcome_eq hp hends ha), hagain,
      fun a ha => by rw [hview a ha]⟩

end Items

/-! ## Queries by themselves -/

/-- What the task reads of the rows: the date of the tables and the rows of the query. -/
abbrev View := Option (Option Nat × List (Option Nat))

def CustomDatasetQuery.view (server : Server) (query : CustomDatasetQuery)
    (databases : Databases) : View :=
  (databases.get? query.database).map fun rows =>
    (tables_date rows (query.tables server), query.dates_in rows)

/-- What `store_query` makes of it. -/
def CustomDatasetQuery.outcome (server : Server) (query : CustomDatasetQuery) :
    View → Except Raised View
  | none => .error .ConnectionDoesNotExist
  | some (date, dates) =>
      if query.tables server = [] then .error .ProgrammingError
      else if differs (last_updated_date query date) dates then
        (contents server query).map fun _ =>
          some (date, dates ++ [some (last_updated_date query date)])
      else .ok (some (date, dates))

theorem earliest_append {date : Metadata → Option Nat} {rows : List Metadata} {row : Metadata}
    {tables : List (Str × Str)} (h : ∀ table, row.on table = false) :
    earliest date (rows ++ [row]) tables = earliest date rows tables := by
  simp [earliest, List.filter_append, h]

theorem tables_date_append {rows : List Metadata} {row : Metadata} {tables : List (Str × Str)}
    (h : row.table_schema = none) :
    tables_date (rows ++ [row]) tables = tables_date rows tables := by
  have hon : ∀ table, row.on table = false := fun table => by simp [Metadata.on, h]
  rw [tables_date, tables_date, earliest_append hon, earliest_append hon]

theorem CustomDatasetQuery.dates_in_append (query : CustomDatasetQuery) (rows : List Metadata)
    (row : Metadata) : query.dates_in (rows ++ [row]) = query.dates_in rows ++
      if row.data_id = some query.id then [row.source_data_modified_utc] else [] := by
  rw [dates_in, List.filter_append, List.map_append]
  split
  next h => simp [h, dates_in]
  next h => simp [h, dates_in]

theorem store_query_eq (server : Server) (query : CustomDatasetQuery) (databases : Databases) :
    store_query server query databases =
      match databases.get? query.database with
      | none => .error .ConnectionDoesNotExist
      | some rows =>
          if query.tables server = [] then .error .ProgrammingError
          else
            let date := last_updated_date query (tables_date rows (query.tables server))
            if differs date (query.dates_in rows) then
              (contents server query).map fun content =>
                databases.set query.database (rows ++
                  [⟨none, none, some date, none, some content.2, content.1, some query.id,
                    some .DATACUT⟩])
            else .ok databases := by
  rw [store_query, connection]
  cases databases.get? query.database with
  | none => rfl
  | some rows =>
      by_cases htables : query.tables server = []
      · simp [bind, Except.bind, get_tables_last_updated_date, htables]
      · simp only [bind, Except.bind, get_tables_last_updated_date, htables, if_false]
        cases contents server query <;> simp [differs, Except.map]

theorem separate_queries (server : Server) :
    Separate (store_query server) (CustomDatasetQuery.view server)
      (CustomDatasetQuery.outcome server) fun query query' => query.id ≠ query'.id where
  own query databases := by
    rw [store_query_eq, CustomDatasetQuery.view]
    cases hrows : databases.get? query.database with
    | none => rfl
    | some rows =>
        simp only [Option.map_some, CustomDatasetQuery.outcome]
        split
        next => rfl
        next =>
          split
          next =>
            cases contents server query with
            | error e => rfl
            | ok content =>
                simp [Except.map, CustomDatasetQuery.view, Dict.get?_set, tables_date_append,
                  CustomDatasetQuery.dates_in_append]
          next => simp [Except.map, CustomDatasetQuery.view, hrows]
  other := by
    intro query query' databases databases' hne hstep
    rw [store_query_eq] at hstep
    cases hrows : databases.get? query.database with
    | none => simp [hrows] at hstep
    | some rows =>
        simp only [hrows] at hstep
        split at hstep
        next => cases hstep
        next =>
          split at hstep
          next =>
            cases hcontents : contents server query with
            | error e => simp [hcontents, Except.map] at hstep
            | ok content =>
                rw [hcontents, Except.map] at hstep
                obtain rfl := Except.ok.inj hstep
                simp only [CustomDatasetQuery.view, Dict.get?_set]
                split
                next heq =>
                  simp [heq, hrows, tables_date_append, CustomDatasetQuery.dates_in_append, hne]
                next => rfl
          next => rw [Except.ok.inj hstep]
  symm h := h.symm

/-- The rows of a query in what it reads. -/
def View.dates (view : View) : List (Option Nat) := (view.map Prod.snd).getD []

def View.date (query : CustomDatasetQuery) (view : View) : Nat :=
  last_updated_date query (view.bind Prod.fst)

theorem dates_outcome {server : Server} {query : CustomDatasetQuery} {v v' : View}
    (h : query.outcome server v = .ok v') : v'.dates = v.dates ++
      if differs (v.date query) v.dates then [some (v.date query)] else [] := by
  cases v with
  | none => cases h
  | some v =>
      simp only [CustomDatasetQuery.outcome] at h
      split at h
      next => cases h
      next =>
        split at h
        next hdiffers =>
          cases hcontents : contents server query with
          | error e => simp [hcontents, Except.map] at h
          | ok content =>
              rw [hcontents, Except.map] at h
              obtain rfl := Except.ok.inj h
              simp [View.dates, View.date, hdiffers]
        next hdiffers =>
          obtain rfl := Except.ok.inj h
          simp [View.dates, View.date, hdiffers]

theorem outcome_same {server : Server} {query : CustomDatasetQuery} {v v' : View}
    (h : query.outcome server v = .ok v') (hdates : v'.dates = v.dates) : v' = v := by
  cases v with
  | none => cases h
  | some v =>
      simp only [CustomDatasetQuery.outcome] at h
      split at h
      next => cases h
      next =>
        split at h
        next =>
          cases hcontents : contents server query with
          | error e => simp [hcontents, Except.map] at h
          | ok content =>
              rw [hcontents, Except.map] at h
              obtain rfl := Except.ok.inj h
              simp [View.dates] at hdates
        next => exact (Except.ok.inj h).symm

theorem differs_eq_false_iff {date : Nat} {dates : List (Option Nat)} :
    differs date dates = false ↔
      none ∉ dates ∧ some date ∈ dates ∧ ∀ d, some d ∈ dates → d ≤ date := by
  rw [← fetchone_eq_some_iff, differs]
  simp

theorem differs_append_eq_false_iff {date : Nat} {dates : List (Option Nat)} :
    differs date (dates ++ [some date]) = false ↔
      none ∉ dates ∧ ∀ d, some d ∈ dates → d ≤ date := by
  rw [← fetchone_append, differs]
  simp

theorem outcome_settles_iff {server : Server} {query : CustomDatasetQuery} {v : View} :
    (∃ v', query.outcome server v = .ok v' ∧ query.outcome server v' = .ok v') ↔
      v.isSome ∧ QuerySettles server query (v.date query) v.dates := by
  cases v with
  | none => simp [CustomDatasetQuery.outcome]
  | some v =>
      obtain ⟨tables_date, dates⟩ := v
      simp only [Option.isSome_some, true_and]
      change _ ↔ QuerySettles server query (last_updated_date query tables_date) dates
      constructor
      · rintro ⟨v', hfirst, hsecond⟩
        have hsame : differs (v'.date query) v'.dates = false := by
          have hdates := dates_outcome hsecond
          by_contra hdue
          simp [hdue] at hdates
        simp only [CustomDatasetQuery.outcome] at hfirst
        split at hfirst
        next => cases hfirst
        next htables =>
          split at hfirst
          next hdue =>
            cases hcontents : contents server query with
            | error e => simp [hcontents, Except.map] at hfirst
            | ok content =>
                rw [hcontents, Except.map] at hfirst
                obtain rfl := Except.ok.inj hfirst
                obtain ⟨hnull, hle⟩ := differs_append_eq_false_iff.mp hsame
                exact ⟨htables, hnull, hle, fun _ => ⟨content, hcontents⟩⟩
          next hdue =>
            obtain ⟨hnull, hmem, hle⟩ := differs_eq_false_iff.mp (Bool.eq_false_of_not_eq_true hdue)
            exact ⟨htables, hnull, hle, fun h => absurd hmem h⟩
      · intro h
        simp only [CustomDatasetQuery.outcome, if_neg h.tables]
        cases hdue : differs (last_updated_date query tables_date) dates with
        | false => exact ⟨some (tables_date, dates), by simp, by simp [hdue]⟩
        | true =>
            have hnew : some (last_updated_date query tables_date) ∉ dates := fun hmem => by
              rw [differs_eq_false_iff.mpr ⟨h.dated, hmem, h.latest⟩] at hdue
              cases hdue
            obtain ⟨content, hcontents⟩ := h.read hnew
            have hsame := differs_append_eq_false_iff.mpr ⟨h.dated, h.latest⟩
            exact ⟨some (tables_date, dates ++ [some (last_updated_date query tables_date)]),
              by simp [hcontents, Except.map], by simp [hsame]⟩

/-! ## Datasets by themselves -/

/-- What `store_dataset` makes of the rows of a dataset. -/
def ReferenceDataset.outcome (dataset : ReferenceDataset) :
    Option (List (Option Nat)) → Except Raised (Option (List (Option Nat)))
  | none => dataset.latest_update_date.bind fun _ => .error .IndexError
  | some dates =>
      dataset.latest_update_date.bind fun date =>
        (later date (fetchone dates)).map fun due =>
          some (dates ++ if due then [some date] else [])

def ReferenceDataset.view (dataset : ReferenceDataset) (databases : Databases) :
    Option (List (Option Nat)) :=
  databases.items.head?.map fun kv => dataset.dates_in kv.2

theorem ReferenceDataset.dates_in_append (dataset : ReferenceDataset) (rows : List Metadata)
    (row : Metadata) : dataset.dates_in (rows ++ [row]) = dataset.dates_in rows ++
      if row.table_schema = some "public".toList && row.table_name = some dataset.table_name then
        [row.source_data_modified_utc] else [] := by
  rw [dates_in, List.filter_append, List.map_append, List.filter_singleton]
  cases row.table_schema = some "public".toList && row.table_name = some dataset.table_name <;> rfl

theorem head?_set {databases : Databases} {name : Str} {rows rows' : List Metadata}
    (h : databases.items.head? = some (name, rows)) :
    (databases.set name rows').items.head? = some (name, rows') := by
  obtain ⟨items, hnodup⟩ := databases
  cases items with
  | nil => cases h
  | cons kv items =>
      obtain rfl := Option.some.inj h
      simp [Dict.set, setItem]

theorem store_dataset_eq (md5 : Bytes → Str) (dataset : ReferenceDataset)
    (databases : Databases) : store_dataset md5 dataset databases =
      dataset.latest_update_date.bind fun date =>
        databases.items.head?.elim (.error .IndexError) fun kv =>
          (later date (fetchone (dataset.dates_in kv.2))).map fun due =>
            if due then
              databases.set kv.1 (kv.2 ++ [⟨some "public".toList, some dataset.table_name,
                some date, none,
                some (Json.dumps (.arr (dataset.fields.map ReferenceDatasetField.column))),
                some (md5 dataset.data.hashed_data), none, some .REFERENCE⟩])
            else databases := by
  rw [store_dataset]
  cases dataset.latest_update_date with
  | error e => rfl
  | ok date =>
      simp only [bind, Except.bind]
      cases databases.items.head? with
      | none => rfl
      | some kv =>
          obtain ⟨name, rows⟩ := kv
          simp only [Option.elim_some]
          cases later date (fetchone (dataset.dates_in rows)) with
          | error e => rfl
          | ok due => cases due <;> rfl

theorem separate_datasets (md5 : Bytes → Str) :
    Separate (store_dataset md5) ReferenceDataset.view ReferenceDataset.outcome
      fun dataset dataset' => dataset.table_name ≠ dataset'.table_name where
  own dataset databases := by
    rw [store_dataset_eq, ReferenceDataset.view]
    cases hhead : databases.items.head? with
    | none =>
        rw [Option.map_none, ReferenceDataset.outcome]
        cases dataset.latest_update_date <;> rfl
    | some kv =>
        obtain ⟨name, rows⟩ := kv
        simp only [Option.map_some, Option.elim_some, ReferenceDataset.outcome]
        cases dataset.latest_update_date with
        | error e => rfl
        | ok date =>
            simp only [Except.bind]
            cases later date (fetchone (dataset.dates_in rows)) with
            | error e => rfl
            | ok due =>
                cases due with
                | false => simp [Except.map, ReferenceDataset.view, hhead]
                | true =>
                    simp [Except.map, ReferenceDataset.view, head?_set hhead,
                      ReferenceDataset.dates_in_append]
  other := by
    intro dataset dataset' databases databases' hne hstep
    rw [store_dataset_eq] at hstep
    cases hdate : dataset.latest_update_date with
    | error e => simp [hdate, Except.bind] at hstep
    | ok date =>
        cases hhead : databases.items.head? with
        | none => simp [hdate, hhead, Except.bind] at hstep
        | some kv =>
            obtain ⟨name, rows⟩ := kv
            simp only [hdate, hhead, Except.bind, Option.elim_some] at hstep
            cases hdue : later date (fetchone (dataset.dates_in rows)) with
            | error e => simp [hdue, Except.map] at hstep
            | ok due =>
                rw [hdue, Except.map] at hstep
                obtain rfl := Except.ok.inj hstep
                cases due with
                | false => simp
                | true =>
                    simp [ReferenceDataset.view, hhead, head?_set hhead,
                      ReferenceDataset.dates_in_append, hne]
  symm h := h.symm

/-! ### The date of a dataset -/

theorem foldl_max_of_max? {date newest : Nat} {dates : List Nat} (h : dates.max? = some newest) :
    dates.foldl max date = max date newest := by
  rw [List.foldl_max, h, Option.getD_some]

theorem foldl_max_reduceOption : ∀ {dates : List (List Nat)} {date : Nat},
    (dates.map data_last_updated).reduceOption.foldl max date = dates.flatten.foldl max date
  | [], _ => rfl
  | ds :: dates, date => by
      rw [List.map_cons, List.flatten_cons, List.foldl_append]
      cases hmax : ds.max? with
      | none =>
          obtain rfl := List.max?_eq_none_iff.mp hmax
          exact foldl_max_reduceOption
      | some newest =>
          rw [data_last_updated, hmax, List.reduceOption_cons_of_some, List.foldl_cons,
            foldl_max_of_max? hmax]
          exact foldl_max_reduceOption

theorem mapM_eq_ok {α β : Type} {f : α → Except Raised β} {g : α → β} : ∀ {l : List α},
    (∀ a ∈ l, f a = .ok (g a)) → l.mapM f = .ok (l.map g)
  | [], _ => rfl
  | a :: l, h => by
      rw [List.forall_mem_cons] at h
      rw [List.mapM_cons, h.1, mapM_eq_ok h.2]
      rfl

theorem exists_of_mapM_eq_ok {α β : Type} {f : α → Except Raised β} : ∀ {l : List α} {r : List β},
    l.mapM f = .ok r → ∀ a ∈ l, ∃ b ∈ r, f a = .ok b
  | [], _, _ => fun _ ha => absurd ha List.not_mem_nil
  | a :: l, r, h => by
      rw [List.mapM_cons] at h
      cases hf : f a with
      | error e => simp [hf, bind, Except.bind] at h
      | ok b =>
          cases hrest : l.mapM f with
          | error e => simp [hf, hrest, bind, Except.bind] at h
          | ok rest =>
              obtain rfl : b :: rest = r := by
                simpa [hf, hrest, bind, Except.bind, pure, Except.pure] using h
              rw [List.forall_mem_cons]
              refine ⟨⟨b, List.mem_cons_self, hf⟩, fun a' ha' => ?_⟩
              obtain ⟨b', hb', hf'⟩ := exists_of_mapM_eq_ok hrest a' ha'
              exact ⟨b', List.mem_cons_of_mem _ hb', hf'⟩

theorem latest_update_date_eq {dataset : ReferenceDataset} (hfields : dataset.fields ≠ [])
    (hfilled : dataset.Filled) : dataset.latest_update_date = .ok dataset.date := by
  have hmapM : dataset.linked.mapM ReferenceDatasetField.linked_date =
      .ok ((dataset.linked.map fun field =>
        field.linked_reference_dataset_field.getD []).map data_last_updated) := by
    rw [List.map_map]
    refine mapM_eq_ok fun field hfield => ?_
    obtain ⟨updated_dates, hlinked, -⟩ := hfilled field hfield
    simp [ReferenceDatasetField.linked_date, hlinked]
  have hnone : none ∉ (dataset.linked.map fun field =>
      field.linked_reference_dataset_field.getD []).map data_last_updated := by
    rw [List.map_map, List.mem_map]
    rintro ⟨field, hfield, hmax⟩
    obtain ⟨updated_dates, hlinked, hne⟩ := hfilled field hfield
    rw [Function.comp_apply, hlinked] at hmax
    exact hne (List.max?_eq_none_iff.mp hmax)
  rw [ReferenceDataset.latest_update_date]
  cases hdate : (dataset.fields.map (·.modified_date)).max? with
  | none => exact absurd (List.map_eq_nil_iff.mp (List.max?_eq_none_iff.mp hdate)) hfields
  | some fields_date =>
      simp only [hmapM, bind, Except.bind, latest, if_neg hnone]
      rw [foldl_max_reduceOption, ReferenceDataset.date, List.foldl_append, List.foldl_append,
        foldl_max_of_max? hdate, max_comm fields_date, List.flatMap_def]
      cases hupdated : data_last_updated dataset.updated_dates with
      | none => rw [List.max?_eq_none_iff.mp hupdated, List.foldl_nil]
      | some date => rw [foldl_max_of_max? hupdated]

theorem latest_update_date_iff {dataset : ReferenceDataset} :
    (∃ date, dataset.latest_update_date = .ok date) ↔ dataset.fields ≠ [] ∧ dataset.Filled := by
  constructor
  · rintro ⟨date, hdate⟩
    rw [ReferenceDataset.latest_update_date] at hdate
    cases hfields : (dataset.fields.map (·.modified_date)).max? with
    | none => simp [hfields] at hdate
    | some fields_date =>
        simp only [hfields] at hdate
        cases hmapM : dataset.linked.mapM ReferenceDatasetField.linked_date with
        | error e => simp [hmapM, bind, Except.bind] at hdate
        | ok dates =>
            simp only [hmapM, bind, Except.bind, latest] at hdate
            split at hdate
            next => cases hdate
            next hnone =>
              refine ⟨fun hnil => by simp [hnil] at hfields, fun field hfield => ?_⟩
              obtain ⟨d, hd, hlinked⟩ := exists_of_mapM_eq_ok hmapM field hfield
              rw [ReferenceDatasetField.linked_date] at hlinked
              cases hdates : field.linked_reference_dataset_field with
              | none => simp [hdates] at hlinked
              | some updated_dates =>
                  refine ⟨updated_dates, rfl, fun hnil => hnone ?_⟩
                  subst hnil
                  obtain rfl : none = d := by simpa [hdates, data_last_updated] using hlinked
                  exact hd
  · rintro ⟨hfields, hfilled⟩
    exact ⟨_, latest_update_date_eq hfields hfilled⟩

/-! ### Its rows -/

theorem later_eq_ok_iff (date : Nat) {dates : List (Option Nat)} :
    (∃ due, later date (fetchone dates) = .ok due) ↔ none ∉ dates := by
  rw [fetchone]
  split
  next hnull => simp [later, hnull]
  next hnull =>
    simp only [hnull, not_false_eq_true, iff_true]
    cases dates.reduceOption.max? with
    | none => exact ⟨_, rfl⟩
    | some newest => exact ⟨_, rfl⟩

theorem later_eq_exceeds {date : Nat} {dates : List (Option Nat)} {due : Bool}
    (h : later date (fetchone dates) = .ok due) : due = exceeds date dates := by
  rw [exceeds]
  cases hnewest : fetchone dates with
  | none => simpa [hnewest, later] using h.symm
  | some newest =>
      cases newest with
      | none => simp [hnewest, later] at h
      | some newest => simpa [hnewest, later] using h.symm

theorem later_append {date : Nat} {dates : List (Option Nat)} (hnull : none ∉ dates) :
    later date (fetchone (dates ++ [some date])) = .ok false := by
  have hnull' : none ∉ dates ++ [some date] := by simpa using hnull
  obtain ⟨due, hdue⟩ := (later_eq_ok_iff date).mpr hnull'
  cases hnewest : fetchone (dates ++ [some date]) with
  | none => simp [fetchone_eq_none_iff] at hnewest
  | some newest =>
      cases newest with
      | none => simp [hnewest, later] at hdue
      | some newest =>
          have hle := (fetchone_eq_some_iff.mp hnewest).2.2 date (by simp)
          simp [later, hle]

theorem dates_dataset_outcome {dataset : ReferenceDataset} {v v' : Option (List (Option Nat))}
    (h : dataset.outcome v = .ok v') : v'.getD [] = v.getD [] ++
      if exceeds dataset.date (v.getD []) then [some dataset.date] else [] := by
  cases hdate : dataset.latest_update_date with
  | error e => cases v <;> simp [ReferenceDataset.outcome, hdate, Except.bind] at h
  | ok date =>
      obtain ⟨hfields, hfilled⟩ := latest_update_date_iff.mp ⟨date, hdate⟩
      obtain rfl := Except.ok.inj ((latest_update_date_eq hfields hfilled).symm.trans hdate)
      cases v with
      | none => simp [ReferenceDataset.outcome, hdate, Except.bind] at h
      | some dates =>
          simp only [ReferenceDataset.outcome, hdate, Except.bind] at h
          cases hdue : later dataset.date (fetchone dates) with
          | error e => simp [hdue, Except.map] at h
          | ok due =>
              rw [hdue, Except.map] at h
              obtain rfl := Except.ok.inj h
              rw [later_eq_exceeds hdue, Option.getD_some, Option.getD_some]

theorem dataset_outcome_same {dataset : ReferenceDataset} {v v' : Option (List (Option Nat))}
    (h : dataset.outcome v = .ok v') (hdates : v'.getD [] = v.getD []) : v' = v := by
  cases hdate : dataset.latest_update_date with
  | error e => cases v <;> simp [ReferenceDataset.outcome, hdate, Except.bind] at h
  | ok date =>
      cases v with
      | none => simp [ReferenceDataset.outcome, hdate, Except.bind] at h
      | some dates =>
          simp only [ReferenceDataset.outcome, hdate, Except.bind] at h
          cases hdue : later date (fetchone dates) with
          | error e => simp [hdue, Except.map] at h
          | ok due =>
              rw [hdue, Except.map] at h
              obtain rfl := Except.ok.inj h
              exact congrArg some hdates

theorem dataset_outcome_settles_iff {dataset : ReferenceDataset}
    {v : Option (List (Option Nat))} :
    (∃ v', dataset.outcome v = .ok v' ∧ dataset.outcome v' = .ok v') ↔
      v.isSome ∧ DatasetSettles dataset (v.getD []) := by
  cases v with
  | none =>
      simp only [ReferenceDataset.outcome]
      cases dataset.latest_update_date <;> simp [Except.bind]
  | some dates =>
      simp only [Option.isSome_some, true_and, Option.getD_some]
      constructor
      · rintro ⟨v', hfirst, -⟩
        cases hdate : dataset.latest_update_date with
        | error e => simp [ReferenceDataset.outcome, hdate, Except.bind] at hfirst
        | ok date =>
            obtain ⟨hfields, hfilled⟩ := latest_update_date_iff.mp ⟨date, hdate⟩
            simp only [ReferenceDataset.outcome, hdate, Except.bind] at hfirst
            cases hdue : later date (fetchone dates) with
            | error e => simp [hdue, Except.map] at hfirst
            | ok due => exact ⟨hfields, hfilled, (later_eq_ok_iff _).mp ⟨due, hdue⟩⟩
      · rintro ⟨hfields, hfilled, hnull⟩
        obtain ⟨due, hdue⟩ := (later_eq_ok_iff dataset.date).mpr hnull
        refine ⟨some (dates ++ if due then [some dataset.date] else []), ?_, ?_⟩
        · simp [ReferenceDataset.outcome, latest_update_date_eq hfields hfilled, hdue, Except.bind,
            Except.map]
        · cases due with
          | false =>
              simp [ReferenceDataset.outcome, latest_update_date_eq hfields hfilled, hdue,
                Except.bind, Except.map]
          | true =>
              simp [ReferenceDataset.outcome, latest_update_date_eq hfields hfilled,
                later_append hnull, Except.bind, Except.map]

/-! ## Both tasks -/

/-- A run of a task is as it should be exactly when each of its items lets it be. -/
theorem tasks_faithful_iff (server : Server) (queries : Published CustomDatasetQuery.id)
    (md5 : Bytes → Str) (datasets : Published ReferenceDataset.table_name)
    (databases : Databases) :
    (Faithful (store_custom_dataset_query_table_structures server) CustomDatasetQuery.dates
          (CustomDatasetQuery.date server) differs queries.items databases ↔
        ∀ query ∈ queries.items, (databases.get? query.database).isSome ∧
          QuerySettles server query (query.date server databases) (query.dates databases)) ∧
      (Faithful (store_reference_dataset_metadata md5) ReferenceDataset.dates
          (fun dataset _ => dataset.date) exceeds datasets.items databases ↔
        ∀ dataset ∈ datasets.items, databases.items.head?.isSome ∧
          DatasetSettles dataset (dataset.dates databases)) := by
  constructor
  · have hdates : ∀ (query : CustomDatasetQuery) (s : Databases),
        query.dates s = View.dates (query.view server s) := fun query s => by
      rw [CustomDatasetQuery.dates, CustomDatasetQuery.view, View.dates, Option.map_map]
      rfl
    have hdate : ∀ (query : CustomDatasetQuery) (s : Databases),
        query.date server s = View.date query (query.view server s) := fun query s => by
      rw [CustomDatasetQuery.date, CustomDatasetQuery.view, View.date]
      cases s.get? query.database <;> rfl
    have hiff := faithful_iff_settles (separate_queries server) dates_outcome outcome_same
      databases queries.apart
    simp only [outcome_settles_iff, ← hdates, ← hdate] at hiff
    simp only [CustomDatasetQuery.view, Option.isSome_map] at hiff
    exact hiff
  · have hiff := faithful_iff_settles (separate_datasets md5) dates_dataset_outcome
      dataset_outcome_same databases datasets.apart
    simp only [dataset_outcome_settles_iff, ReferenceDataset.view, Option.isSome_map] at hiff
    exact hiff

/-! ## A query without tables -/

/-- A server for which `SELECT 1` uses no tables. -/
def exampleServer : Server where
  view_table_usage _ sql := if sql = "SELECT 1".toList then some [] else
    some [("public".toList, "ships".toList)]
  parse _ := .ok [false]
  select _ _ := .ok []
  description _ _ := .ok [("name".toList, 25)]
  md5 _ := []

def withoutTables : CustomDatasetQuery := ⟨1, "main", "SELECT 1", 5⟩

def withTables : CustomDatasetQuery := ⟨2, "main", "SELECT name FROM ships", 7⟩

def exampleQueries : Published CustomDatasetQuery.id where
  items := [withoutTables, withTables]
  apart := by simp [withoutTables, withTables]

def exampleDatabases : Databases := Dict.empty.set "main" []

/-- The first query ends the run, and the second one is never reached, though a run with it
alone writes its row. -/
theorem ended_by_first :
    (store_custom_dataset_query_table_structures exampleServer exampleQueries.items
      exampleDatabases).raised = some .ProgrammingError ∧
    withTables.dates (store_custom_dataset_query_table_structures exampleServer
      exampleQueries.items exampleDatabases).state = [] ∧
    withTables.dates (store_custom_dataset_query_table_structures exampleServer
      [withTables] exampleDatabases).state = [some 7] ∧
    ¬ Faithful (store_custom_dataset_query_table_structures exampleServer)
      CustomDatasetQuery.dates (CustomDatasetQuery.date exampleServer) differs
      exampleQueries.items exampleDatabases := by
  have hraised : (store_custom_dataset_query_table_structures exampleServer exampleQueries.items
      exampleDatabases).raised = some .ProgrammingError := by decide
  refine ⟨hraised, by decide, by decide, fun h => ?_⟩
  rw [h.ends] at hraised
  cases hraised

end Datasets.MetadataTasks
