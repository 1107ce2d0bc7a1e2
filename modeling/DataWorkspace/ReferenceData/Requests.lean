import DataWorkspace.ReferenceData.Runs

/-!
# Requests on reference datasets

A request makes objects, sets their attributes and calls their methods, one call
after another.  The pages of the admin run all of it in one transaction.  The others
go on after a call that raised, or stop there: what holds after every list of calls
holds wherever a request stops.

Objects, faults and the log belong to a request.  What outlives it is the databases
and, in the process that served it, the model classes.
-/

namespace ReferenceData

open Py Sql

/-! ## Uploading records -/

/-- What cleaning a row of an uploaded file gives: an exception, or the data of the
form with or without errors. -/
inductive CleanedRow where
  | raised (e : Exn)
  | cleaned (errors : Bool) (form_data : List (Str × Value))
deriving DecidableEq, Repr

/-- `identifier_field.column_name`. -/
def identifierColumn (self : Nat) : M (Option Str) := do
  let pk ← datasetPk self
  query .default fun w =>
    match (w.db.fieldsOf pk).filter fun f => f.2.is_identifier with
    | [] => .error .DoesNotExist
    | [f] => .ok f.2.column_name
    | _ => .error .MultipleObjectsReturned

/-- `get_record_by_custom_id`, with `none` where the record does not exist. -/
def getRecordByCustomId (self : Nat) (form_data : List (Str × Value)) : M (Option Nat) := do
  let column ← identifierColumn self
  let records ← getRecords self
  match column with
  | none => throw .TypeError
  | some column =>
      match records.items.filter fun r => r.2 column = (form_data.lookup column).join with
      | [] => pure none
      | [r] => pure (some r.1)
      | _ => throw .MultipleObjectsReturned

/-- One row of an upload: it is saved unless there are errors, whatever saving it
raises, and logged. -/
def uploadRow (self : Nat) : CleanedRow → M PUnit
  | .raised e => throw e
  | .cleaned errors form_data => do
      let record_id ← getRecordByCustomId self form_data
      whenever (!errors)
        (catching (saveRecord self record_id form_data false) (fun _ => true) fun _ => pure ⟨⟩)
      execute ⟨.default, .write⟩ .ok

/-- `ReferenceDatasetAdminUploadView.form_valid`. -/
def uploadRecords (self : Nat) (rows : List CleanedRow) : M PUnit := do
  let _ ← recordModelClass self
  query .default fun _ => .ok ⟨⟩
  execute ⟨.default, .write⟩ .ok
  forEach (uploadRow self) rows
  syncExternally self

/-! ## Calls -/

/-- A row with the defaults of the columns. -/
def ReferenceDataset.default : ReferenceDataset where
  table_name := []
  published := false
  initial_published_at := none
  published_at := none
  schema_version := 0
  major_version := 1
  minor_version := 0
  published_major_version := 0
  published_minor_version := 0
  external_database := none
  sort_field := none
  sort_descending := false

/-- The calls that requests are made of.  `self` refers to a dataset object or, in
the calls on fields, to a field object. -/
inductive Call where
  | loadDataset (self pk : Nat)
  | makeDataset (self : Nat) (attributes : Edit)
  | editDataset (self : Nat) (edit : Edit)
  | saveDataset (self : Nat)
  | saveRecord (self : Nat) (internal_id : Option Nat) (form_data : List (Str × Value))
      (sync_externally : Bool)
  | deleteRecord (self internal_id : Nat)
  | deleteAllRecords (self : Nat)
  | uploadRecords (self : Nat) (rows : List CleanedRow)
  | loadField (self pk reference_dataset : Nat)
  | makeField (self : Nat) (row : ReferenceDatasetField) (reference_dataset : Nat)
  | editField (self : Nat) (row : ReferenceDatasetField)
  | saveField (self : Nat)
  | deleteField (self : Nat)

/-- `ReferenceDataset(…)`. -/
def makeDataset (self : Nat) (attributes : Edit) : M PUnit := do
  let w ← get
  setDatasetObject self fun _ => .init w.db none (ReferenceDataset.default.edited attributes)

/-- `ReferenceDatasetField.objects.get(pk=pk)`, whose dataset object is the one given. -/
def loadField (self pk reference_dataset : Nat) : M PUnit := do
  let row ← query .default fun w =>
    match w.db.fields.get? pk with
    | some row => .ok row
    | none => .error .DoesNotExist
  let dataset ← datasetPk reference_dataset
  whenever (row.reference_dataset ≠ dataset) (throw .other)
  setFieldObject self fun _ => .init (some pk) row reference_dataset

/-- `ReferenceDatasetField(reference_dataset=…, …)`. -/
def makeField (self : Nat) (row : ReferenceDatasetField) (reference_dataset : Nat) :
    M PUnit := do
  let dataset ← datasetPk reference_dataset
  setFieldObject self fun _ =>
    .init none { row with reference_dataset := dataset } reference_dataset

/-- Set the attributes of a field object, which stays in its dataset. -/
def editField (self : Nat) (row : ReferenceDatasetField) : M PUnit :=
  setFieldObject self fun f =>
    { f with row := { row with reference_dataset := f.row.reference_dataset } }

def Call.run : Call → M PUnit
  | .loadDataset self pk => ReferenceData.loadDataset self pk
  | .makeDataset self attributes => ReferenceData.makeDataset self attributes
  | .editDataset self edit => ReferenceData.editDataset self edit
  | .saveDataset self => ReferenceData.saveDataset self
  | .saveRecord self internal_id form_data sync_externally =>
      ReferenceData.saveRecord self internal_id form_data sync_externally
  | .deleteRecord self internal_id => ReferenceData.deleteRecord self internal_id
  | .deleteAllRecords self => ReferenceData.deleteAllRecords self
  | .uploadRecords self rows => ReferenceData.uploadRecords self rows
  | .loadField self pk reference_dataset => ReferenceData.loadField self pk reference_dataset
  | .makeField self row reference_dataset => ReferenceData.makeField self row reference_dataset
  | .editField self row => ReferenceData.editField self row
  | .saveField self => ReferenceData.saveField self
  | .deleteField self => ReferenceData.deleteField self

/-! ## Requests -/

/-- The process that serves a request, and what befalls it there. -/
structure Environment where
  process : Nat
  faults : List (Option Exn)
  recursion_limit : Nat
  now : Nat
  uuid4 : Str
deriving Repr

structure Request extends Environment where
  calls : List Call
  /-- Whether all of it is one transaction. -/
  one_transaction : Bool

/-- What outlives a request. -/
structure Stored where
  db : Db
  external : Str → Tables
  next_id : Nat
  /-- `apps.all_models["datasets"]` of every process. -/
  registries : Nat → Str → Option ModelClass

/-- An object that was not made yet. -/
def DatasetObject.blank : DatasetObject where
  pk := none
  row := .default
  record_sort_order := []
  _original_table_name := []
  _original_ext_db := none
  _original_sort_order := []
  _original_published := false

/-- A field object that was not made yet. -/
def FieldObject.blank : FieldObject where
  pk := none
  row := {
    reference_dataset := 0
    data_type := .CHAR
    is_identifier := false
    name := []
    column_name := none
    required := false
    linked_reference_dataset_field := none
    relationship_name := none
    sort_order := 0 }
  reference_dataset := 0
  _original_data_type := .CHAR
  _original_column_name := none

/-- The world a request starts in. -/
def Stored.open (s : Stored) (env : Environment) : World where
  db := s.db
  external := s.external
  next_id := s.next_id
  registry := s.registries env.process
  dataset_objects := fun _ => .blank
  field_objects := fun _ => .blank
  depth := 0
  faults := env.faults
  log := []
  recursion_limit := env.recursion_limit
  now := env.now
  uuid4 := env.uuid4

/-- What is left of the world a request ends in. -/
def Stored.close (s : Stored) (env : Environment) (w : World) : Stored where
  db := w.db
  external := w.external
  next_id := w.next_id
  registries := Function.update s.registries env.process w.registry

/-- The computation of a request. -/
def Request.body (r : Request) : M PUnit :=
  if r.one_transaction then atomic (forEach Call.run r.calls)
  else forEach (fun c => catching c.run (fun _ => true) fun _ => pure ⟨⟩) r.calls

def Request.run (r : Request) (s : Stored) : Stored :=
  s.close r.toEnvironment (endOf r.body (s.open r.toEnvironment))

inductive Reaches : Stored → Stored → Prop where
  | refl (s : Stored) : Reaches s s
  | request {s s' : Stored} (r : Request) : Reaches s s' → Reaches s (r.run s')

/-- Databases without anything in them. -/
def Stored.empty : Stored where
  db := ⟨.empty, .empty, fun _ => none⟩
  external := fun _ _ => none
  next_id := 1
  registries := fun _ _ => none

/-- The first process, where nothing fails. -/
def Environment.quiet : Environment where
  process := 0
  faults := []
  recursion_limit := 1000
  now := 0
  uuid4 := []

/-- A request that nothing happens to. -/
def Request.of (one_transaction : Bool) (calls : List Call) : Request :=
  { Environment.quiet with calls := calls, one_transaction := one_transaction }

/-! ## What every run of a call does -/

/-- As `FieldClosed`, and respected by making and setting objects. -/
class ObjectClosed (R : World → World → Prop) : Prop extends FieldClosed R where
  makeDataset (self : Nat) (attributes : Edit) : Steps R (makeDataset self attributes)
  editDataset (self : Nat) (edit : Edit) : Steps R (editDataset self edit)
  fieldObject (self : Nat) (f : FieldObject → FieldObject) : Steps R (setFieldObject self f)

/-- As `ObjectClosed`, and respected by loading objects. -/
class CallClosed (R : World → World → Prop) : Prop extends ObjectClosed R where
  loadDataset (self pk : Nat) : Steps R (loadDataset self pk)

/-- Whether a call loads a dataset object. -/
def Call.loads : Call → Bool
  | .loadDataset _ _ => true
  | _ => false

theorem Closed.getRecordByCustomId {R : World → World → Prop} [ReadClosed R] (self : Nat)
    (form_data : List (Str × Value)) : Steps R (getRecordByCustomId self form_data) := by
  refine .bind (.bind (Closed.datasetPk self) fun _ => Closed.query _ _) fun column => ?_
  refine .bind (Closed.getRecords self) fun records => ?_
  split
  next => exact .throw _
  next =>
    split
    next => exact .pure _
    next => exact .pure _
    next => exact .throw _

theorem Closed.uploadRow {R : World → World → Prop} [MethodClosed R] (self : Nat) :
    ∀ row, Steps R (uploadRow self row)
  | .raised e => .throw e
  | .cleaned errors form_data => by
      refine .bind (Closed.getRecordByCustomId self form_data) fun record_id => ?_
      refine .bind (.whenever ?_) fun _ => ?_
      · exact .catching (Closed.saveRecord self _ _ _) fun _ => .pure _
      · exact Closed.execute _ _ fun w w' h => Or.inl (Except.ok.inj h).symm

theorem Closed.uploadRecords {R : World → World → Prop} [MethodClosed R] (self : Nat)
    (rows : List CleanedRow) : Steps R (uploadRecords self rows) := by
  refine .bind (MethodClosed.recordModelClass self) fun _ => ?_
  refine .bind (Closed.query _ _) fun _ => ?_
  refine .bind (Closed.execute _ _ fun w w' h => Or.inl (Except.ok.inj h).symm) fun _ => ?_
  exact .bind (.forEach (Closed.uploadRow self) rows) fun _ => Closed.syncExternally self

namespace ObjectClosed

variable {R : World → World → Prop} [ObjectClosed R]

theorem editField (self : Nat) (row : ReferenceDatasetField) : Steps R (editField self row) :=
  fieldObject self _

theorem run : ∀ c : Call, c.loads = false → Steps R c.run
  | .makeDataset self attributes, _ => makeDataset self attributes
  | .editDataset self edit, _ => editDataset self edit
  | .saveDataset self, _ => Closed.saveDataset self
  | .saveRecord self _ _ _, _ => Closed.saveRecord self _ _ _
  | .deleteRecord self _, _ => Closed.deleteRecord self _
  | .deleteAllRecords self, _ => Closed.deleteAllRecords self
  | .uploadRecords self rows, _ => Closed.uploadRecords self rows
  | .loadField self _ _, _ => by
      refine .bind (Closed.query _ _) fun row => ?_
      refine .bind (Closed.datasetPk _) fun dataset => ?_
      exact .bind (.whenever (.throw _)) fun _ => fieldObject self _
  | .makeField self _ _, _ => .bind (Closed.datasetPk _) fun _ => fieldObject self _
  | .editField self row, _ => editField self row
  | .saveField self, _ => Closed.saveField (FieldClosed.saveFieldRow self)
  | .deleteField self, _ => Closed.deleteField (FieldClosed.deleteFieldRow self)

end ObjectClosed

namespace CallClosed

variable {R : World → World → Prop} [CallClosed R]

theorem run (c : Call) : Steps R c.run := by
  cases hc : c.loads with
  | false => exact ObjectClosed.run c hc
  | true =>
      cases c with
      | loadDataset self pk => exact loadDataset self pk
      | _ => cases hc

theorem body (r : Request) : Steps R r.body := by
  unfold Request.body
  split
  next => exact MethodClosed.atomic (.forEach run _)
  next => exact .forEach (fun c => .catching (run c) fun _ => .pure _) _

end CallClosed

end ReferenceData
