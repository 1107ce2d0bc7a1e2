import DataWorkspace.ReferenceData.Dataset

/-!
# The methods of `ReferenceDatasetField`

Saving a field alters the record table in every database of its dataset.  A new
field whose column cannot be added is saved all the same: the code takes any error
of a database to mean that the column of a shared relationship is already there.
-/

namespace ReferenceData

open Py Sql

/-! ## Objects and rows -/

/-- The object behind a reference. -/
def fieldObject (self : Nat) : M FieldObject := do
  let w ← get
  pure (w.field_objects self)

/-- Change an object. -/
def setFieldObject (self : Nat) (f : FieldObject → FieldObject) : M PUnit :=
  modify fun w =>
    { w with field_objects := Function.update w.field_objects self (f (w.field_objects self)) }

/-- `__init__`: what an object remembers of the row it is made from. -/
def FieldObject.init (pk : Option Nat) (row : ReferenceDatasetField) (reference_dataset : Nat) :
    FieldObject where
  pk := pk
  row := row
  reference_dataset := reference_dataset
  _original_data_type := row.data_type
  _original_column_name := row.column_name

def Db.fieldNameTaken (db : Db) (pk : Option Nat) (row : ReferenceDatasetField) : Bool :=
  db.fields.items.any fun f => some f.1 ≠ pk &&
    f.2.reference_dataset = row.reference_dataset &&
    (f.2.name = row.name || row.column_name.isSome && f.2.column_name = row.column_name)

/-- `super().save()`: insert or update the row of a field. -/
def saveFieldRow (self : Nat) : M PUnit := do
  let f ← fieldObject self
  let pk ← statement ⟨.default, .write⟩ fun w =>
    let pk := f.pk.getD w.next_id
    if w.db.fieldNameTaken f.pk f.row then .error (.database .IntegrityError)
    else .ok (pk, { w with
      db := { w.db with fields := w.db.fields.set pk f.row }
      next_id := if f.pk.isNone then w.next_id + 1 else w.next_id })
  setFieldObject self fun f => { f with pk := some pk }

/-- `model_class._meta.get_field`. -/
def ModelClass.getField (model : ModelClass) (name : Option Str) : M ModelField :=
  match name.bind model.attrs.get? with
  | some field => pure field
  | none => throw .FieldDoesNotExist

/-! ## Columns -/

/-- `_add_column_to_db`. -/
def addColumnToDb (self : Nat) : M PUnit := do
  saveFieldRow self
  let f ← fieldObject self
  incrementSchemaVersion f.reference_dataset
  let model ← recordModelClass f.reference_dataset
  let o ← datasetObject f.reference_dataset
  forEach (fun db => do
    let field ← model.getField f.row.attrName
    addField db o.row.table_name field) o.row.getDatabaseNames

/-- `_update_db_column_name`. -/
def updateDbColumnName (self : Nat) : M PUnit := do
  let f ← fieldObject self
  let model ← recordModelClass f.reference_dataset
  let from_field ← model.getField f._original_column_name
  saveFieldRow self
  incrementSchemaVersion f.reference_dataset
  let model ← recordModelClass f.reference_dataset
  let to_field ← model.getField f.row.column_name
  let o ← datasetObject f.reference_dataset
  atomic (forEach (fun db => alterField db o.row.table_name from_field to_field)
    o.row.getDatabaseNames)

/-- `DATA_TYPE_MAP`: the types the code writes into `ALTER COLUMN`. -/
def DATA_TYPE_MAP : DataType → ColumnType
  | .CHAR => .varchar255
  | .INT => .integer
  | .FLOAT => .double_precision
  | .DATE => .date
  | .TIME => .time
  | .DATETIME => .timestamp
  | .BOOLEAN => .boolean
  | .FOREIGN_KEY => .integer
  | .UUID => .uuid

/-- `_update_db_column_data_type`. -/
def updateDbColumnDataType (self : Nat) : M PUnit := do
  saveFieldRow self
  let f ← fieldObject self
  incrementSchemaVersion f.reference_dataset
  let o ← datasetObject f.reference_dataset
  forEach (fun db =>
    match f.row.column_name with
    | some column => alterColumnType db o.row.table_name column (DATA_TYPE_MAP f.row.data_type)
    | none => throw .TypeError) o.row.getDatabaseNames

/-! ## Links -/

def Db.linkingDatasets (db : Db) (pk : Nat) : List Nat :=
  (db.fields.items.filter fun f =>
    match f.2.linked_reference_dataset_field.bind db.fields.get? with
    | some linked => linked.reference_dataset = pk
    | none => false).map fun f => f.2.reference_dataset

def linkedItself : Str :=
  "Unable to link reference dataset fields to another field that is itself linked"

def circularLink : Str :=
  ("Unable to link reference dataset fields to another field that points back to this dataset"
    : Str) ++ " (circular link)"

/-- The checks `save` makes on the link of a field. -/
def checkLink (f : FieldObject) : M PUnit :=
  forSome f.row.linked_reference_dataset_field fun id => do
    let linked ← query .default fun w =>
      match w.db.fields.get? id with
      | some linked => .ok linked
      | none => .error .DoesNotExist
    whenever (linked.data_type = .FOREIGN_KEY) (throw (.ValidationError linkedItself))
    let circular ← query .default fun w => .ok (w.db.linkingDatasets f.row.reference_dataset)
    whenever (linked.reference_dataset ∈ circular) (throw (.ValidationError circularLink))

/-! ## Saving and deleting a field -/

/-- The part of `save` that brings the table up to date. -/
def saveColumn (self : Nat) (f : FieldObject) : M PUnit :=
  if f.pk.isNone then
    catching (atomic (addColumnToDb self)) Exn.isDatabaseError fun _ => pure ⟨⟩
  else do
    whenever (f._original_column_name ≠ f.row.column_name) (updateDbColumnName self)
    whenever (f._original_data_type ≠ f.row.data_type) (updateDbColumnDataType self)

/-- Whether the dataset of a field has been changed or filled since it was made. -/
def hasBeenUsed (reference_dataset : Nat) : M Bool := do
  let o ← datasetObject reference_dataset
  if o.row.major_version > 1 || o.row.minor_version > 0 then pure true
  else do
    let records ← getRecords reference_dataset
    pure (!records.items.isEmpty)

/-- The part of `save` after the checks. -/
def saveChecked (self : Nat) (f : FieldObject) : M PUnit := do
  saveColumn self f
  let used ← hasBeenUsed f.reference_dataset
  whenever used (incrementMajorVersion f.reference_dataset)
  saveFieldRow self

/-- `save`. -/
def saveField (self : Nat) : M PUnit :=
  atomic do
    let f ← fieldObject self
    checkLink f
    saveChecked self f

/-- Drop the column of a field from one database, unless other fields still use it. -/
def removeColumn (f : FieldObject) (name : Str) (model : ModelClass) (db : Alias) : M PUnit :=
  if f.row.data_type ≠ .FOREIGN_KEY then do
    let field ← model.getField f._original_column_name
    removeField db name field.column.name
  else do
    let others ← query .default fun w => .ok ((w.db.fieldsOf f.row.reference_dataset).filter
      fun g => g.2.relationship_name = f.row.relationship_name && some g.1 ≠ f.pk)
    whenever others.isEmpty do
      let field ← model.getField f.row.relationship_name
      removeField db name field.column.name

/-- `super().delete()`: a field that others link to is protected, and a dataset
that was sorted by the field no longer is. -/
def deleteFieldRow (self : Nat) : M PUnit := do
  let f ← fieldObject self
  execute ⟨.default, .write⟩ fun w =>
    if w.db.fields.items.any fun g => g.2.linked_reference_dataset_field = f.pk then
      .error (.database .IntegrityError)
    else .ok { w with db := { w.db with
      fields := w.db.fields.filterKeys fun pk => some pk ≠ f.pk
      datasets := w.db.datasets.mapValues fun d =>
        if d.sort_field = f.pk then { d with sort_field := none } else d } }
  setFieldObject self fun f => { f with pk := none }

/-- `delete`. -/
def deleteField (self : Nat) : M PUnit :=
  atomic do
    let f ← fieldObject self
    let model ← recordModelClass f.reference_dataset
    let o ← datasetObject f.reference_dataset
    forEach (removeColumn f o.row.table_name model) o.row.getDatabaseNames
    let w ← get
    whenever (o.row.sort_field.isSome && o.row.sort_field = f.pk) do
      setDatasetObject f.reference_dataset (DatasetObject.sortedBy w.db none)
      saveDataset f.reference_dataset
    deleteFieldRow self
    incrementSchemaVersion f.reference_dataset
    incrementMajorVersion f.reference_dataset

end ReferenceData
