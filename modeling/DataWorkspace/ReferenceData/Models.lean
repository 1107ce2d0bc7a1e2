import DataWorkspace.Py.Collections
import DataWorkspace.Py.Text
import DataWorkspace.Sql.Transactions

/-!
# Reference datasets: rows, record tables and statements

A reference dataset is a row of the local database.  Its records are in a table of
their own, whose columns follow from the rows of its fields, and the table may be
copied to an external database.

The code works on objects: a row read from the database with what it remembers of
the time it was loaded.  Objects are modelled by references into a heap, since an
exception leaves the changes that were made to them.  A transaction only puts the
rows and the tables of the local database back.

A statement may fail, whatever it is: `faults` says which of the next ones do.
What a request sent, and which of it failed, is kept in `log`.
-/

namespace ReferenceData

open Py Sql

/-! ## Rows -/

/-- The data types of a field. -/
inductive DataType where
  | CHAR
  | INT
  | FLOAT
  | DATE
  | TIME
  | DATETIME
  | BOOLEAN
  | FOREIGN_KEY
  | UUID
deriving DecidableEq, Repr

/-- A row of `app_referencedatasetfield`, without its primary key. -/
structure ReferenceDatasetField where
  reference_dataset : Nat
  data_type : DataType
  is_identifier : Bool
  name : Str
  column_name : Option Str
  required : Bool
  linked_reference_dataset_field : Option Nat
  relationship_name : Option Str
  sort_order : Nat
deriving DecidableEq, Repr

/-- A row of `app_referencedataset`, without its primary key.  External databases
go by their memorable names. -/
structure ReferenceDataset where
  table_name : Str
  published : Bool
  initial_published_at : Option Nat
  published_at : Option Nat
  schema_version : Nat
  major_version : Nat
  minor_version : Nat
  published_major_version : Nat
  published_minor_version : Nat
  external_database : Option Str
  sort_field : Option Nat
  sort_descending : Bool
deriving DecidableEq, Repr

/-! ## Record tables -/

inductive ColumnType where
  | varchar255
  | integer
  | double_precision
  | date
  | time
  | timestamp
  | timestamptz
  | boolean
  | uuid
deriving DecidableEq, Repr

/-- A column of a record table. -/
structure Column where
  name : Str
  type : ColumnType
  null : Bool
deriving DecidableEq, Repr

/-- A value of a column, as it is written out.  `none` is `NULL`. -/
abbrev Value := Option Str

/-- The values of a record by column. -/
abbrev Values := Str → Value

/-- A table of records.  The columns are those that belong to fields: every table
has its `id` and `updated_date` as well, and the local one its `reference_dataset_id`. -/
structure Table where
  columns : List Column
  records : Dict Nat Values

/-- The tables of one database by name. -/
abbrev Tables := Str → Option Table

/-- What a model class says about one of its fields. -/
structure ModelField where
  column : Column
  /-- A `uuid` field gives every new value itself. -/
  has_default : Bool
deriving DecidableEq, Repr

/-- A model class of records. -/
structure ModelClass where
  schema_version : Nat
  attrs : Dict Str ModelField

/-! ## Objects -/

/-- A `ReferenceDataset` object. -/
structure DatasetObject where
  pk : Option Nat
  row : ReferenceDataset
  /-- What `record_sort_order` gives for the sort field the object holds. -/
  record_sort_order : Str
  _original_table_name : Str
  _original_ext_db : Option Str
  _original_sort_order : Str
  _original_published : Bool
deriving DecidableEq, Repr

/-- A `ReferenceDatasetField` object, with the dataset object it refers to. -/
structure FieldObject where
  pk : Option Nat
  row : ReferenceDatasetField
  reference_dataset : Nat
  _original_data_type : DataType
  _original_column_name : Option Str
deriving DecidableEq, Repr

/-! ## Statements -/

inductive DatabaseError where
  | ProgrammingError
  | IntegrityError
  | DataError
  | OperationalError
deriving DecidableEq, Repr

/-- What the code may raise. -/
inductive Exn where
  | database (e : DatabaseError)
  | ValidationError (message : Str)
  | DoesNotExist
  | MultipleObjectsReturned
  | FieldDoesNotExist
  | AttributeError
  | TypeError
  | RecursionError
  | other
deriving DecidableEq, Repr

/-- Whether an exception is a `DatabaseError`. -/
def Exn.isDatabaseError : Exn → Bool
  | .database _ => true
  | _ => false

/-- A connection: `default` is the local database. -/
inductive Alias where
  | default
  | external (name : Str)
deriving DecidableEq, Repr

/-- What a statement does. -/
inductive Kind where
  | read
  | write
  | create
  | alter
  | drop
  | release
  | commit
deriving DecidableEq, Repr

/-- A statement sent to a database. -/
structure Statement where
  db : Alias
  kind : Kind
deriving DecidableEq, Repr

/-- The local database. -/
structure Db where
  datasets : Dict Nat ReferenceDataset
  fields : Dict Nat ReferenceDatasetField
  tables : Tables

/-- What a request works on. -/
structure World where
  db : Db
  external : Str → Tables
  /-- The next primary key. -/
  next_id : Nat
  /-- `apps.all_models["datasets"]` of the process. -/
  registry : Str → Option ModelClass
  dataset_objects : Nat → DatasetObject
  field_objects : Nat → FieldObject
  /-- How many `atomic` blocks are open. -/
  depth : Nat
  /-- What the next statements raise. -/
  faults : List (Option Exn)
  /-- The statements sent so far, and which of them failed. -/
  log : List (Statement × Bool)
  recursion_limit : Nat
  now : Nat
  uuid4 : Str

/-- The computations of the code. -/
abbrev M := EStateM Exn World

/-- Send a statement: it fails if the next fault says so, and else does what `f` says. -/
def statement {α : Type} (st : Statement) (f : World → Except Exn (α × World)) : M α := fun w =>
  match w.faults.head?.join with
  | some e => .error e { w with faults := w.faults.tail, log := w.log ++ [(st, false)] }
  | none =>
      match f w with
      | .ok (a, w') => .ok a { w' with faults := w.faults.tail, log := w.log ++ [(st, true)] }
      | .error e => .error e { w with faults := w.faults.tail, log := w.log ++ [(st, false)] }

def query {α : Type} (db : Alias) (f : World → Except Exn α) : M α :=
  statement ⟨db, .read⟩ fun w => (f w).map fun a => (a, w)

/-- A statement that changes rows or tables. -/
def execute (st : Statement) (f : World → Except Exn World) : M PUnit :=
  statement st fun w => (f w).map fun w' => (⟨⟩, w')

/-- What a transaction that is rolled back puts back. -/
def rollback (before after : World) : World :=
  { after with db := before.db, depth := before.depth }

/-- `transaction.atomic`. -/
def atomic {α : Type} (m : M α) : M α :=
  undoing rollback do
    modify fun w => { w with depth := w.depth + 1 }
    let a ← m
    modify fun w => { w with depth := w.depth - 1 }
    let w ← get
    execute ⟨.default, if w.depth = 0 then .commit else .release⟩ .ok
    pure a

/-! ## The tables of a database -/

/-- The tables of a database. -/
def World.tables (w : World) : Alias → Tables
  | .default => w.db.tables
  | .external name => w.external name

/-- The tables of a database replaced. -/
def World.withTables (w : World) (db : Alias) (tables : Tables) : World :=
  match db with
  | .default => { w with db := { w.db with tables := tables } }
  | .external name => { w with external := Function.update w.external name tables }

/-- One table of a database set or removed. -/
def World.setTable (w : World) (db : Alias) (name : Str) (t : Option Table) : World :=
  w.withTables db (Function.update (w.tables db) name t)

/-- A table that a statement needs. -/
def World.table (w : World) (db : Alias) (name : Str) : Except Exn Table :=
  match w.tables db name with
  | some t => .ok t
  | none => .error (.database .ProgrammingError)

/-- A statement that makes another table of one that has to be there. -/
def changeTable (st : Statement) (name : Str)
    (f : World → Table → Except Exn (Option Table)) : M PUnit :=
  execute st fun w => do
    let t ← w.table st.db name
    let t' ← f w t
    pure (w.setTable st.db name t')

/-- The columns every record table has. -/
def baseColumns : Alias → List Str
  | .default => [("id" : Str), ("reference_dataset_id" : Str), ("updated_date" : Str)]
  | .external _ => [("id" : Str), ("updated_date" : Str)]

/-- `CREATE TABLE`. -/
def createModel (db : Alias) (name : Str) (columns : List Column) : M PUnit :=
  execute ⟨db, .create⟩ fun w =>
    match w.tables db name with
    | some _ => .error (.database .ProgrammingError)
    | none =>
        if (columns.map Column.name ++ baseColumns db).Nodup then
          .ok (w.setTable db name (some ⟨columns, .empty⟩))
        else .error (.database .ProgrammingError)

/-- `DROP TABLE`. -/
def deleteModel (db : Alias) (name : Str) : M PUnit :=
  changeTable ⟨db, .drop⟩ name fun _ _ => .ok none

/-- `ALTER TABLE … RENAME TO`, which is left out when the name stays. -/
def alterDbTable (db : Alias) (old new : Str) : M PUnit :=
  whenever (old ≠ new) (execute ⟨db, .alter⟩ fun w => do
    let t ← w.table db old
    match w.tables db new with
    | some _ => .error (.database .ProgrammingError)
    | none => pure (w.withTables db
        (Function.update (Function.update (w.tables db) old none) new (some t))))

def Table.names (t : Table) : List Str := t.columns.map Column.name

/-- `ALTER TABLE … ADD COLUMN`: a column that allows no `NULL` and comes without a
value is refused as soon as there are records. -/
def addField (db : Alias) (name : Str) (field : ModelField) : M PUnit :=
  changeTable ⟨db, .alter⟩ name fun w t =>
    if field.column.name ∈ t.names ++ baseColumns db then .error (.database .ProgrammingError)
    else if field.has_default then
      .ok (some {
        columns := t.columns ++ [field.column]
        records := t.records.mapValues fun v =>
          Function.update v field.column.name (some w.uuid4) })
    else if ¬ field.column.null ∧ ¬ t.records.items.isEmpty then
      .error (.database .IntegrityError)
    else .ok (some { t with columns := t.columns ++ [field.column] })

/-- A column after `editor.alter_field`: what differs between the two fields is altered. -/
def Column.altered (from_field to_field column : Column) : Column where
  name := to_field.name
  type := if from_field.type = to_field.type then column.type else to_field.type
  null := if from_field.null = to_field.null then column.null else to_field.null

/-- The values of a record after a column was renamed. -/
def Values.renamed (old new : Str) (v : Values) : Values :=
  if old = new then v else Function.update (Function.update v old none) new (v old)

def Values.filled (column : Str) (default : Str) (v : Values) : Values :=
  if v column = none then Function.update v column (some default) else v

/-- The values of a record after `editor.alter_field`: a column that no longer allows
`NULL` takes the default of the new field. -/
def Values.altered (from_field to_field : ModelField) (uuid4 : Str) (v : Values) : Values :=
  let renamed := v.renamed from_field.column.name to_field.column.name
  if from_field.column.null && !to_field.column.null && to_field.has_default then
    renamed.filled to_field.column.name uuid4
  else renamed

/-- `editor.alter_field`. -/
def alterField (db : Alias) (name : Str) (from_field to_field : ModelField) : M PUnit :=
  whenever (from_field ≠ to_field) (changeTable ⟨db, .alter⟩ name fun w t =>
    let (old, new) := (from_field.column, to_field.column)
    if old.name ∉ t.names ∨ old.name ≠ new.name ∧ new.name ∈ t.names ++ baseColumns db then
      .error (.database .ProgrammingError)
    else if old.null ∧ ¬ new.null ∧ ¬ to_field.has_default ∧
        t.records.items.any fun r => r.2 old.name = none then
      .error (.database .IntegrityError)
    else .ok (some {
      columns := t.columns.map fun c => if c.name = old.name then c.altered old new else c
      records := t.records.mapValues (Values.altered from_field to_field w.uuid4) }))

/-- `ALTER TABLE … ALTER COLUMN … TYPE`. -/
def alterColumnType (db : Alias) (name column : Str) (type : ColumnType) : M PUnit :=
  changeTable ⟨db, .alter⟩ name fun _ t =>
    if column ∉ t.names then .error (.database .ProgrammingError)
    else .ok (some { t with
      columns := t.columns.map fun c => if c.name = column then { c with type := type } else c })

/-- `ALTER TABLE … DROP COLUMN`. -/
def removeField (db : Alias) (name column : Str) : M PUnit :=
  changeTable ⟨db, .alter⟩ name fun _ t =>
    if column ∉ t.names then .error (.database .ProgrammingError)
    else .ok (some {
      columns := t.columns.filter fun c => c.name ≠ column
      records := t.records.mapValues fun v => Function.update v column none })

end ReferenceData
