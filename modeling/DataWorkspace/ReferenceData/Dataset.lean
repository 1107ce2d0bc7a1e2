import Mathlib.Data.List.Sort
import DataWorkspace.ReferenceData.Models

/-!
# The methods of `ReferenceDataset`

Each definition follows the method of its name.  A method takes the reference of
the object it is called on.

`getRecordModelClass` calls itself for the datasets that foreign keys link to.  What
bounds it is Python's recursion limit, and running into it raises `RecursionError`.
-/

namespace ReferenceData

open Py Sql

/-! ## Objects and rows -/

/-- The object behind a reference. -/
def datasetObject (self : Nat) : M DatasetObject := do
  let w ← get
  pure (w.dataset_objects self)

/-- Change an object. -/
def setDatasetObject (self : Nat) (f : DatasetObject → DatasetObject) : M PUnit :=
  modify fun w =>
    { w with dataset_objects :=
        Function.update w.dataset_objects self (f (w.dataset_objects self)) }

/-- Change the attributes of an object that are columns of its row. -/
def setRow (self : Nat) (f : ReferenceDataset → ReferenceDataset) : M PUnit :=
  setDatasetObject self fun o => { o with row := f o.row }

/-- `self.fields.all()`: the fields of a dataset by their sort order. -/
def Db.fieldsOf (db : Db) (pk : Nat) : List (Nat × ReferenceDatasetField) :=
  (db.fields.items.filter fun f => f.2.reference_dataset = pk).insertionSort
    fun f g => f.2.sort_order ≤ g.2.sort_order

/-- `record_sort_order`. -/
def recordSortOrder (db : Db) (row : ReferenceDataset) : Str :=
  (if row.sort_descending then ("-" : Str) else []) ++
  match row.sort_field.bind db.fields.get? with
  | none => ("updated_date" : Str)
  | some field =>
      if field.data_type ≠ .FOREIGN_KEY then field.column_name.getD []
      else field.relationship_name.getD [] ++ ("__" : Str) ++
        ((field.linked_reference_dataset_field.bind db.fields.get?).bind
          ReferenceDatasetField.column_name).getD []

/-- `__init__`: what an object remembers of the row it is made from. -/
def DatasetObject.init (db : Db) (pk : Option Nat) (row : ReferenceDataset) : DatasetObject where
  pk := pk
  row := row
  record_sort_order := recordSortOrder db row
  _original_table_name := row.table_name
  _original_ext_db := row.external_database
  _original_sort_order := recordSortOrder db row
  _original_published := row.published

/-- `ReferenceDataset.objects.get(pk=pk)`. -/
def loadDataset (self pk : Nat) : M PUnit := do
  let row ← query .default fun w =>
    match w.db.datasets.get? pk with
    | some row => .ok row
    | none => .error .DoesNotExist
  let w ← get
  setDatasetObject self fun _ => .init w.db (some pk) row

/-- What a form may set. -/
structure Edit where
  published : Bool
  table_name : Str
  external_database : Option Str
  sort_field : Option Nat
  sort_descending : Bool
deriving DecidableEq, Repr

/-- A row with what a form sets. -/
def ReferenceDataset.edited (row : ReferenceDataset) (edit : Edit) : ReferenceDataset :=
  { row with
    published := edit.published
    table_name := edit.table_name
    external_database := edit.external_database
    sort_field := edit.sort_field
    sort_descending := edit.sort_descending }

def DatasetObject.sortedBy (db : Db) (sort_field : Option Nat) (o : DatasetObject) :
    DatasetObject :=
  { o with
    row := { o.row with sort_field := sort_field }
    record_sort_order := recordSortOrder db { o.row with sort_field := sort_field } }

/-- Set the attributes of an object from a form. -/
def editDataset (self : Nat) (edit : Edit) : M PUnit := do
  let w ← get
  setDatasetObject self fun o =>
    { o with
      row := o.row.edited edit
      record_sort_order := recordSortOrder w.db (o.row.edited edit) }

/-! ## Record models -/

/-- Whether a field allows `NULL`. -/
def ReferenceDatasetField.null (f : ReferenceDatasetField) : Bool :=
  !f.is_identifier && !f.required

/-- The column type of `_DATA_TYPE_MODEL_FIELD_MAP`. -/
def DataType.columnType : DataType → ColumnType
  | .CHAR => .varchar255
  | .INT => .integer
  | .FLOAT => .double_precision
  | .DATE => .date
  | .TIME => .time
  | .DATETIME => .timestamptz
  | .BOOLEAN => .boolean
  | .FOREIGN_KEY => .integer
  | .UUID => .uuid

/-- The name a field has in the model class. -/
def ReferenceDatasetField.attrName (f : ReferenceDatasetField) : Option Str :=
  if f.data_type ≠ .FOREIGN_KEY then f.column_name else f.relationship_name

def ReferenceDatasetField.column (f : ReferenceDatasetField) (attr : Str) : Column where
  name := if f.data_type ≠ .FOREIGN_KEY then attr else attr ++ ("_id" : Str)
  type := f.data_type.columnType
  null := f.null

/-- `get_model_field`, of a field of that name. -/
def ReferenceDatasetField.modelField (f : ReferenceDatasetField) (attr : Str) :
    ModelField where
  column := f.column attr
  has_default := f.data_type = .UUID

/-- `linked_reference_dataset_field.reference_dataset`. -/
def linkedDataset (f : ReferenceDatasetField) : M (Nat × ReferenceDataset) :=
  match f.linked_reference_dataset_field with
  | none => throw .AttributeError
  | some id => query .default fun w =>
      match w.db.fields.get? id with
      | none => .error .DoesNotExist
      | some linked =>
          match w.db.datasets.get? linked.reference_dataset with
          | none => .error .DoesNotExist
          | some row => .ok (linked.reference_dataset, row)

/-- Set or delete `apps.all_models["datasets"][name]`. -/
def register (name : Str) (model : Option ModelClass) : M PUnit :=
  modify fun w => { w with registry := Function.update w.registry name model }

/-- The attributes of a model class, where `build` gives the class of a linked dataset. -/
def modelAttrs (build : Nat → ReferenceDataset → M ModelClass) :
    List ReferenceDatasetField → Dict Str ModelField → M (Dict Str ModelField)
  | [], attrs => pure attrs
  | f :: fields, attrs => do
      whenever (f.data_type = .FOREIGN_KEY) do
        let linked ← linkedDataset f
        let _ ← build linked.1 linked.2
        pure ⟨⟩
      match f.attrName with
      | none => throw .TypeError
      | some name => modelAttrs build fields (attrs.set name (f.modelField name))

/-- `get_record_model_class`. -/
def getRecordModelClass : Nat → Nat → ReferenceDataset → M ModelClass
  | 0, _, _ => throw .RecursionError
  | limit + 1, pk, row => do
      let w ← get
      match (w.registry row.table_name).filter fun m => m.schema_version = row.schema_version with
      | some model => pure model
      | none => do
          register row.table_name none
          let fields ← query .default fun w => .ok (w.db.fieldsOf pk)
          let attrs ← modelAttrs (getRecordModelClass limit) (fields.map Prod.snd) .empty
          let w ← get
          match w.registry row.table_name with
          | some model => pure model
          | none => do
              register row.table_name (some ⟨row.schema_version, attrs⟩)
              pure ⟨row.schema_version, attrs⟩

/-- The primary key of an object, which has one once it is saved. -/
def datasetPk (self : Nat) : M Nat := do
  let o ← datasetObject self
  match o.pk with
  | some pk => pure pk
  | none => throw .other

/-- `self.get_record_model_class()`. -/
def recordModelClass (self : Nat) : M ModelClass := do
  let pk ← datasetPk self
  let o ← datasetObject self
  let w ← get
  getRecordModelClass w.recursion_limit pk o.row

/-! ## Records -/

def ModelClass.columns (model : ModelClass) : List Column :=
  model.attrs.items.map fun a => a.2.column

def Table.fits (t : Table) (model : ModelClass) : Bool :=
  model.columns.all fun c => c.name ∈ t.names

/-- Whether a table takes a record with these values. -/
def Table.allows (t : Table) (v : Values) : Bool :=
  t.columns.all fun c => c.null || (v c.name).isSome

/-- Values with some of them set anew. -/
def Values.updated (v : Values) (data : List (Str × Value)) : Values := fun column =>
  (data.lookup column).getD (v column)

/-- The values a new record has where none are given. -/
def ModelClass.defaults (model : ModelClass) (uuid4 : Str) : Values := fun column =>
  if model.attrs.items.any fun a => a.2.column.name = column && a.2.has_default then some uuid4
  else none

/-- Whether the data only sets columns of the model class. -/
def ModelClass.accepts (model : ModelClass) (data : List (Str × Value)) : Bool :=
  data.all fun kv => kv.1 ∈ model.columns.map Column.name

/-- `INSERT` of a record. -/
def insertRecord (db : Alias) (name : Str) (model : ModelClass) (id : Nat)
    (data : List (Str × Value)) : M PUnit :=
  changeTable ⟨db, .write⟩ name fun w t =>
    let v := (model.defaults w.uuid4).updated data
    if ¬ model.accepts data then .error .TypeError
    else if ¬ t.fits model then .error (.database .ProgrammingError)
    else if ¬ t.allows v ∨ t.records.contains id then .error (.database .IntegrityError)
    else .ok (some { t with records := t.records.set id v })

/-- `UPDATE` of a record, which does nothing when there is none. -/
def updateRecord (db : Alias) (name : Str) (model : ModelClass) (id : Nat)
    (data : List (Str × Value)) : M PUnit :=
  changeTable ⟨db, .write⟩ name fun _ t =>
    if ¬ model.accepts data then .error .other
    else if ¬ t.fits model then .error (.database .ProgrammingError)
    else
      match t.records.get? id with
      | none => .ok (some t)
      | some v =>
          if ¬ t.allows (v.updated data) then .error (.database .IntegrityError)
          else .ok (some { t with records := t.records.set id (v.updated data) })

/-- `DELETE` of the records that are not kept. -/
def deleteRecords (db : Alias) (name : Str) (keep : Nat → Bool) : M PUnit :=
  changeTable ⟨db, .write⟩ name fun _ t =>
    .ok (some { t with records := t.records.filterKeys keep })

/-- `get_records`. -/
def getRecords (self : Nat) : M (Dict Nat Values) := do
  let model ← recordModelClass self
  let o ← datasetObject self
  query .default fun w => do
    let t ← w.table .default o.row.table_name
    if t.fits model then pure t.records else .error (.database .ProgrammingError)

/-! ## Copying to the external database -/

def recordData (model : ModelClass) (v : Values) :
    List ReferenceDatasetField → M (List (Str × Value))
  | [] => pure []
  | f :: fields =>
      match f.attrName.bind model.attrs.get? with
      | none => throw .AttributeError
      | some field => do
          -- the value of a foreign key is the linked record, which has to be read
          whenever (f.data_type = .FOREIGN_KEY && (v field.column.name).isSome)
            (query .default fun _ => .ok ⟨⟩)
          let data ← recordData model v fields
          pure ((field.column.name, v field.column.name) :: data)

/-- Copy one record: update it where it exists, and else create it. -/
def syncRecord (self : Nat) (external_database : Str) (model : ModelClass)
    (record : Nat × Values) : M PUnit := do
  let pk ← datasetPk self
  let o ← datasetObject self
  let fields ← query .default fun w => .ok (w.db.fieldsOf pk)
  let data ← recordData model record.2 (fields.map Prod.snd)
  let saved ← query (.external external_database) fun w => do
    let t ← w.table (.external external_database) o.row.table_name
    pure (t.records.contains record.1)
  if saved then updateRecord (.external external_database) o.row.table_name model record.1 data
  else insertRecord (.external external_database) o.row.table_name model record.1 data

/-- `sync_to_external_database`. -/
def syncToExternalDatabase (self : Nat) (external_database : Str) : M PUnit := do
  let model ← recordModelClass self
  let records ← getRecords self
  let o ← datasetObject self
  forEach (syncRecord self external_database model) records.items
  deleteRecords (.external external_database) o.row.table_name records.contains

/-- `_create_external_database_table`. -/
def createExternalDatabaseTable (self : Nat) (db_name : Str) : M PUnit := do
  let model ← recordModelClass self
  let o ← datasetObject self
  createModel (.external db_name) o.row.table_name model.columns

/-- `_drop_external_database_table`. -/
def dropExternalDatabaseTable (self : Nat) (db_name : Str) : M PUnit := do
  let _ ← recordModelClass self
  let o ← datasetObject self
  catching (deleteModel (.external db_name) o.row.table_name)
    (fun e => e = .database .ProgrammingError) fun _ => pure ⟨⟩

/-! ## Saving a dataset -/

/-- `_schema_has_changed`. -/
def DatasetObject.schemaHasChanged (o : DatasetObject) : Bool :=
  o.row.table_name ≠ o._original_table_name || o.record_sort_order ≠ o._original_sort_order

/-- `get_database_names`. -/
def ReferenceDataset.getDatabaseNames (row : ReferenceDataset) : List Alias :=
  match row.external_database with
  | some name => [.default, .external name]
  | none => [.default]

def ReferenceDataset.nextPublished (row : ReferenceDataset) : Nat × Nat :=
  if row.major_version > row.published_major_version then (row.published_major_version + 1, 0)
  else if row.minor_version > row.published_minor_version then
    (row.published_major_version, row.published_minor_version + 1)
  else (row.published_major_version, row.published_minor_version)

/-- The first publication starts the versions anew. -/
def ReferenceDataset.firstPublished (row : ReferenceDataset) (now : Nat) : ReferenceDataset :=
  if row.initial_published_at.isNone then
    { row with initial_published_at := some now, major_version := 1, minor_version := 0 }
  else row

/-- `manage_published`. -/
def ReferenceDataset.managePublished (original_published create : Bool) (now : Nat)
    (unmanaged : ReferenceDataset) : ReferenceDataset :=
  let row := unmanaged.firstPublished now
  if ¬ unmanaged.published then unmanaged
  else if original_published && !create then
    { row with
      published_major_version := row.major_version
      published_minor_version := row.minor_version }
  else
    { row with
      published_at := some now
      published_major_version := row.nextPublished.1
      published_minor_version := row.nextPublished.2
      major_version := row.nextPublished.1
      minor_version := row.nextPublished.2 }

def Db.tableNameTaken (db : Db) (pk : Option Nat) (row : ReferenceDataset) : Bool :=
  db.datasets.items.any fun d => some d.1 ≠ pk && d.2.table_name = row.table_name

/-- `super().save()`: insert or update the row of a dataset. -/
def saveDatasetRow (self : Nat) : M PUnit := do
  let o ← datasetObject self
  let pk ← statement ⟨.default, .write⟩ fun w =>
    let pk := o.pk.getD w.next_id
    if w.db.tableNameTaken o.pk o.row then .error (.database .IntegrityError)
    else .ok (pk, { w with
      db := { w.db with datasets := w.db.datasets.set pk o.row }
      next_id := if o.pk.isNone then w.next_id + 1 else w.next_id })
  setDatasetObject self fun o => { o with pk := some pk }

/-- The part of `save` that manages the publication and writes the row. -/
def publishRow (self : Nat) (original_published create : Bool) : M PUnit := do
  let w ← get
  setRow self (ReferenceDataset.managePublished original_published create w.now)
  saveDatasetRow self

/-- The part of `save` after the row of a dataset that is new. -/
def saveCreated (self : Nat) (model : ModelClass) : M PUnit := do
  let o ← datasetObject self
  createModel .default o.row.table_name model.columns
  forSome o.row.external_database (createExternalDatabaseTable self)

/-- The part of `save` after the row of a dataset that is not. -/
def saveChanged (self : Nat) : M PUnit := do
  let o ← datasetObject self
  whenever (o.row.external_database ≠ o._original_ext_db) do
    forSome o._original_ext_db (dropExternalDatabaseTable self)
    forSome o.row.external_database fun db_name => do
      createExternalDatabaseTable self db_name
      syncToExternalDatabase self db_name
  whenever o.schemaHasChanged
    (forEach (fun db => alterDbTable db o._original_table_name o.row.table_name)
      o.row.getDatabaseNames)

/-- The part of `save` that brings the record tables up to date. -/
def saveTables (self : Nat) (create : Bool) (model : ModelClass) : M PUnit :=
  if create then saveCreated self model else saveChanged self

def ReferenceDataset.schemaBumped (row : ReferenceDataset) : ReferenceDataset :=
  { row with schema_version := row.schema_version + 1 }

def ReferenceDataset.majorBumped (row : ReferenceDataset) : ReferenceDataset :=
  { row with major_version := row.major_version + 1, minor_version := 0 }

def ReferenceDataset.minorBumped (row : ReferenceDataset) : ReferenceDataset :=
  { row with minor_version := row.minor_version + 1 }

/-- What an object remembers once it is saved. -/
def DatasetObject.remembered (o : DatasetObject) : DatasetObject :=
  { o with
    _original_table_name := o.row.table_name
    _original_ext_db := o.row.external_database
    _original_sort_order := o.record_sort_order }

/-- `save`. -/
def saveDataset (self : Nat) : M PUnit :=
  atomic do
    let o ← datasetObject self
    let create := o.pk.isNone
    whenever (!create && o.schemaHasChanged) (setRow self ReferenceDataset.schemaBumped)
    publishRow self o._original_published create
    let model ← recordModelClass self
    saveTables self create model
    setDatasetObject self DatasetObject.remembered
    query .default fun _ => .ok ⟨⟩
    execute ⟨.default, .write⟩ .ok

/-- `increment_schema_version`. -/
def incrementSchemaVersion (self : Nat) : M PUnit := do
  setRow self ReferenceDataset.schemaBumped
  saveDataset self

/-- `increment_major_version`. -/
def incrementMajorVersion (self : Nat) : M PUnit := do
  setRow self ReferenceDataset.majorBumped
  saveDataset self

/-- `increment_minor_version`. -/
def incrementMinorVersion (self : Nat) : M PUnit := do
  setRow self ReferenceDataset.minorBumped
  saveDataset self

/-! ## Saving and deleting records -/

def syncExternally (self : Nat) : M PUnit := do
  let o ← datasetObject self
  forSome o.row.external_database (syncToExternalDatabase self)

def writeRecord (self : Nat) (internal_id : Option Nat) (form_data : List (Str × Value)) :
    M PUnit := do
  let model ← recordModelClass self
  let o ← datasetObject self
  match internal_id with
  | none => do
      let w ← get
      insertRecord .default o.row.table_name model w.next_id form_data
      modify fun w => { w with next_id := w.next_id + 1 }
  | some id => do
      updateRecord .default o.row.table_name model id form_data
      query .default fun _ => .ok ⟨⟩

/-- `save_record`. -/
def saveRecord (self : Nat) (internal_id : Option Nat) (form_data : List (Str × Value))
    (sync_externally : Bool) : M PUnit :=
  atomic do
    writeRecord self internal_id form_data
    incrementMinorVersion self
    whenever sync_externally (syncExternally self)

/-- `delete_record`. -/
def deleteRecord (self : Nat) (internal_id : Nat) : M PUnit :=
  atomic do
    incrementMinorVersion self
    let records ← getRecords self
    whenever (!records.contains internal_id) (throw .DoesNotExist)
    let o ← datasetObject self
    deleteRecords .default o.row.table_name fun id => id ≠ internal_id
    syncExternally self
    saveDataset self

/-- `delete_all_records`. -/
def deleteAllRecords (self : Nat) : M PUnit :=
  atomic do
    incrementMinorVersion self
    let _ ← recordModelClass self
    let o ← datasetObject self
    deleteRecords .default o.row.table_name fun _ => false
    syncExternally self
    saveDataset self

end ReferenceData
