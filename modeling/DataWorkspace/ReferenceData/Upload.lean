import DataWorkspace.ReferenceData.Dataset
import DataWorkspace.Sql.Upsert

/-!
# Uploading records from a CSV file

The upload of a reference dataset takes a file row by row.  The cells of a row go through
the form fields of the dataset, or are looked up in a linked dataset.  The record that has
the identifier of the row is updated, or one is added, and a log record says which.

What goes wrong in a row is meant to stay in the log.  A cell that a form field does not
take and an error while the record is saved do, and so does a link to a record that is not
there.  A lookup in a linked dataset by a value of the wrong type, or one that finds two
records, ends the upload.
-/

namespace ReferenceData.Upload

open Py Sql

/-- What a model field raises for a value that is not of its type. -/
inductive InvalidValue where
  | ValueError
  | ValidationError
deriving DecidableEq

/-- What the upload may raise. -/
inductive Exn where
  /-- `DoesNotExist` of a model class of records. -/
  | DoesNotExist
  /-- `ReferenceDatasetField.DoesNotExist`. -/
  | FieldDoesNotExist
  | MultipleObjectsReturned
  | invalid (e : InvalidValue)
  | AttributeError
  | KeyError
  | TypeError
  | DatabaseError
deriving DecidableEq

/-- What Python, Django and the database make of values. -/
structure Library where
  lower : Str → Str
  /-- `form_field.clean(value)`: the value, or the text of the `ValidationError`. -/
  clean : ReferenceDatasetField → Option Str → Except Str Value
  /-- What a lookup in a column of the type compares with, or what it raises. -/
  get_prep_value : DataType → Option Str → Except InvalidValue Value
  /-- Whether the column of a field takes the value. -/
  takes : ReferenceDatasetField → Value → Bool
  /-- The `uuid` of the record of that primary key. -/
  uuid4 : Nat → Str

/-- The values that are saved, by column. -/
abbrev FormData := Dict (Option Str) Value

/-- The records of the datasets, and the minor version of the one that is uploaded to. -/
structure State where
  records : Nat → Rows Values
  minor_version : Nat

/-- The value of an option, where `None` raises. -/
def orRaise {α : Type} (e : Exn) : Option α → Except Exn α
  | none => .error e
  | some a => .ok a

/-! ## Fields -/

/-- `fields.all()`. -/
def fieldRows (db : Db) (pk : Nat) : List ReferenceDatasetField := (db.fieldsOf pk).map Prod.snd

/-- `EDITABLE_DATA_TYPES`. -/
def EDITABLE_DATA_TYPES : List DataType :=
  [.CHAR, .INT, .FLOAT, .DATE, .TIME, .DATETIME, .BOOLEAN, .FOREIGN_KEY]

/-- `editable_fields`: of several fields of one relationship the last one is kept. -/
def editableFields (db : Db) (pk : Nat) : Dict (Option Str) ReferenceDatasetField :=
  Dict.ofPairs (((fieldRows db pk).filter fun f => f.data_type ∈ EDITABLE_DATA_TYPES).map fun f =>
    (if f.data_type ≠ .FOREIGN_KEY then some f.name else f.relationship_name, f))

/-- The fields of `editable_fields.items()`. -/
def editable (db : Db) (pk : Nat) : List ReferenceDatasetField :=
  (editableFields db pk).items.map Prod.snd

/-- `relationship_name_for_record_forms`. -/
def relationshipNameForRecordForms (f : ReferenceDatasetField) : Option Str :=
  if f.data_type ≠ .FOREIGN_KEY then none
  else if ':' ∈ f.name then some (f.name.takeWhile fun ch => ch ≠ ':')
  else f.relationship_name

/-- The name a field has in a file. -/
def fieldName (f : ReferenceDatasetField) : Option Str :=
  if f.data_type ≠ .FOREIGN_KEY then some f.name else relationshipNameForRecordForms f

/-- `header_name`. -/
def headerName (lib : Library) (f : ReferenceDatasetField) : Except Exn Str :=
  (orRaise .AttributeError (fieldName f)).map lib.lower

/-- The key of a field in `form_data`. -/
def formKey (f : ReferenceDatasetField) : Option Str :=
  if f.data_type ≠ .FOREIGN_KEY then f.column_name
  else f.relationship_name.map fun name => name ++ ("_id" : Str)

/-- `identifier_field`. -/
def identifierField (db : Db) (pk : Nat) : Except Exn ReferenceDatasetField :=
  match (fieldRows db pk).filter ReferenceDatasetField.is_identifier with
  | [] => .error .FieldDoesNotExist
  | [f] => .ok f
  | _ => .error .MultipleObjectsReturned

/-- `linked_reference_dataset_field.reference_dataset`. -/
def linkedTo (db : Db) (f : ReferenceDatasetField) : Except Exn Nat :=
  (orRaise .AttributeError (f.linked_reference_dataset_field.bind db.fields.get?)).map
    ReferenceDatasetField.reference_dataset

/-- `field_map`. -/
def fieldMap (lib : Library) (db : Db) (pk : Nat) :
    Except Exn (Dict Str ReferenceDatasetField) :=
  ((editable db pk).mapM fun f => (headerName lib f).map fun h => (h, f)).map Dict.ofPairs

/-- `clean_file`: whether the headers include every field. -/
def cleanFile (lib : Library) (db : Db) (pk : Nat) (fieldnames : List Str) : Except Exn Bool :=
  ((editable db pk).mapM (headerName lib)).map fun headers =>
    headers.all fun h => h ∈ fieldnames.map lib.lower

/-! ## Rows of a file -/

/-- A row of a `csv.DictReader`, with the cells beyond the header. -/
structure Row where
  cells : Dict Str (Option Str)
  rest : Option (List Str)

/-- The row of a line.  A short line has no value for the last fields. -/
def dictRow (fieldnames line : List Str) : Row where
  cells := Dict.ofPairs (fieldnames.zip (line.map some) ++
    (fieldnames.drop line.length).map fun name => (name, none))
  rest := if fieldnames.length < line.length then some (line.drop fieldnames.length) else none

/-- `csv.DictReader`, which leaves out the lines that are empty. -/
def dictReader (fieldnames : List Str) (lines : List (List Str)) : List Row :=
  (lines.filter fun line => line ≠ []).map (dictRow fieldnames)

/-! ## Records -/

/-- `QuerySet.get`: the primary key of the one record that is found. -/
def getOne : List (Nat × Values) → Except Exn Nat
  | [] => .error .DoesNotExist
  | [row] => .ok row.1
  | _ => .error .MultipleObjectsReturned

/-- `_get_record`. -/
def getRecord (s : State) (pk : Nat) (field_name : Option Str) (identifier : Value) :
    Except Exn Nat :=
  match field_name with
  | none => .error .TypeError
  | some c => getOne ((s.records pk).matching (fun v => v c) identifier)

/-- `get_record_by_custom_id`, of a cell. -/
def getRecordByCustomId (lib : Library) (db : Db) (s : State) (pk : Nat) (record_id : Option Str) :
    Except Exn Nat := do
  let f ← identifierField db pk
  let identifier ← (lib.get_prep_value f.data_type record_id).mapError .invalid
  getRecord s pk f.column_name identifier

def written (data : FormData) (v : Values) : Values := fun c => (data.get? (some c)).getD (v c)

/-- The default of a model field. -/
def fieldDefault (lib : Library) (id : Nat) (f : ReferenceDatasetField) : Value :=
  if f.data_type = .UUID then some (lib.uuid4 id)
  else if f.data_type = .CHAR ∧ ¬ f.null then some []
  else none

/-- Whether a field may be left out of a new record. -/
def hasDefault (f : ReferenceDatasetField) : Bool :=
  f.data_type = .UUID || f.data_type = .CHAR || f.null

/-- The values of a new record that are not given. -/
def defaults (lib : Library) (db : Db) (pk id : Nat) : Values := fun c =>
  ((fieldRows db pk).find? fun f => formKey f = some c).bind (fieldDefault lib id)

/-- Whether the table takes the values of a form. -/
def fits (lib : Library) (db : Db) (pk : Nat) (data : FormData) : Bool :=
  (fieldRows db pk).all fun f => (data.get? (formKey f)).all (lib.takes f)

/-- Whether the values of a form make a new record. -/
def complete (db : Db) (pk : Nat) (data : FormData) : Bool :=
  (fieldRows db pk).all fun f => data.contains (formKey f) || hasDefault f

/-- The records of one dataset replaced, and the minor version incremented. -/
def State.saved (s : State) (pk : Nat) (t : Rows Values) : State where
  records := Function.update s.records pk t
  minor_version := s.minor_version + 1

/-- `save_record`, without the external database.  What it raises leaves the records as
they are, since it is a transaction. -/
def saveRecord (lib : Library) (db : Db) (pk : Nat) (s : State) (internal_id : Option Nat)
    (form_data : FormData) : Except Exn State :=
  if form_data.contains none then .error .TypeError
  else if ¬ fits lib db pk form_data then .error .DatabaseError
  else
    match internal_id with
    | some id => .ok (s.saved pk ((s.records pk).update id (written form_data)))
    | none =>
        if complete db pk form_data then
          .ok (s.saved pk ((s.records pk).insert
            (written form_data (defaults lib db pk (s.records pk).next_id))))
        else .error .DatabaseError

/-! ## The upload -/

/-- The statuses of a log record. -/
inductive Status where
  | SUCCESS_ADDED
  | SUCCESS_UPDATED
  | FAILURE
deriving DecidableEq

/-- `errors` of a log record. -/
inductive Errors where
  | none
  | fields (errors : Dict Str Str)
  | error (e : Exn)

/-- A `ReferenceDatasetUploadLogRecord`. -/
structure LogRecord where
  row_data : Row
  status : Status
  errors : Errors

/-- What is read of a row. -/
structure Parsed where
  form_data : FormData
  errors : Dict Str Str

/-- The error of a cell that no record of the linked dataset has. -/
def notInLinkedDataset (value : Option Str) : Str :=
  ("Identifier " : Str) ++ value.getD ("None" : Str) ++ (" does not exist in linked dataset" : Str)

section

variable (lib : Library) (db : Db) (pk : Nat)

/-- Look up the record a cell links to.  Only a record that does not exist is an error of
the row. -/
def lookUp (fields : Dict Str ReferenceDatasetField) (s : State) (header_name : Str)
    (value : Option Str) : Except Exn (Except Str Value) :=
  if value = some [] then .ok (.ok none)
  else do
    let field ← orRaise .KeyError (fields.get? header_name)
    let linked_dataset ← linkedTo db field
    match getRecordByCustomId lib db s linked_dataset value with
    | .ok id => .ok (.ok (some (str id)))
    | .error .DoesNotExist => .ok (.error (notInLinkedDataset value))
    | .error e => .error e

def readCell (fields : Dict Str ReferenceDatasetField) (s : State) (row : Row) (p : Parsed)
    (f : ReferenceDatasetField) : Except Exn Parsed := do
  let header_name ← headerName lib f
  let value ← orRaise .KeyError (row.cells.get? header_name)
  if f.data_type = .FOREIGN_KEY then do
    -- `get_form_field` reads the records of the linked dataset
    let _ ← linkedTo db f
    let link ← lookUp lib db fields s header_name value
    let _ ← orRaise .TypeError f.relationship_name
    match link with
    | .ok id => pure ⟨p.form_data.set (formKey f) id, p.errors⟩
    | .error e => pure ⟨p.form_data.set (formKey f) none, p.errors.set header_name e⟩
  else
    match lib.clean f value with
    | .ok v => pure ⟨p.form_data.set (formKey f) v, p.errors⟩
    | .error e => pure ⟨p.form_data, p.errors.set header_name e⟩

/-- The record that has the identifier of the row. -/
def existing (s : State) (form_data : FormData) : Except Exn (Option Nat) := do
  let f ← identifierField db pk
  match getRecord s pk f.column_name ((form_data.get? f.column_name).getD none) with
  | .ok id => .ok (some id)
  | .error .DoesNotExist => .ok none
  | .error e => .error e

def saveRow (s : State) (row : Row) (p : Parsed) (record_id : Option Nat) : State × LogRecord :=
  if p.errors.items.isEmpty then
    match saveRecord lib db pk s record_id p.form_data with
    | .error e => (s, ⟨row, .FAILURE, .error e⟩)
    | .ok s' => (s', ⟨row, if record_id.isSome then .SUCCESS_UPDATED else .SUCCESS_ADDED, .none⟩)
  else (s, ⟨row, .FAILURE, .fields p.errors⟩)

/-- One row of the file. -/
def uploadRow (fields : Dict Str ReferenceDatasetField) (s : State) (row : Row) :
    Except Exn (State × LogRecord) := do
  let p ← (editable db pk).foldlM (readCell lib db fields s row) ⟨.empty, .empty⟩
  let record_id ← existing db pk s p.form_data
  pure (saveRow lib db pk s row p record_id)

/-- What an upload leaves behind: the records, the log, and what it raised. -/
structure Outcome where
  state : State
  log : List LogRecord
  raised : Option Exn

/-- What raises ends the upload.  What was saved and logged before stays. -/
def uploadRows (fields : Dict Str ReferenceDatasetField) (external : Option Exn) :
    List Row → State → Outcome
  | [], s => ⟨s, [], external⟩
  | row :: rows, s =>
      match uploadRow lib db pk fields s row with
      | .error e => ⟨s, [], some e⟩
      | .ok (s', record) =>
          let o := uploadRows fields external rows s'
          { o with log := record :: o.log }

/-- `form_valid`.  The copy to the external database may raise in the end. -/
def formValid (external : Option Exn) (fieldnames : List Str) (lines : List (List Str))
    (s : State) : Outcome :=
  match fieldMap lib db pk with
  | .error e => ⟨s, [], some e⟩
  | .ok fields =>
      uploadRows lib db pk fields external (dictReader (fieldnames.map lib.lower) lines) s

end

end ReferenceData.Upload
