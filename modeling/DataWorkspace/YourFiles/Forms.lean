import DataWorkspace.Async.Logged
import DataWorkspace.Py.Collections
import DataWorkspace.Py.Space

/-!
# Forms to create a table from a file

The forms of the pages on which a user creates a table from a CSV file in S3.  The columns of
the file are fields of the last form, beside the path, the schema and the name of the table,
and a column of such a name takes the place of that field.

What S3, the database and Data Flow answer while a request is served is the `World`.  An
object is taken as the rows that the CSV reader makes of its first part.

`cleaned_path` and `cleaned_schema` say what a form that is valid has checked.
-/

namespace YourFiles

open Py Async

/-! ## Users, and what answers them -/

structure User where
  sso_id : Str
deriving DecidableEq, Repr

structure Team where
  name : Str
  schema_name : Str
deriving DecidableEq, Repr

inductive Exc where
  | KeyError
  | ValueError
  | IndexError
  | HTTPError
  | other
deriving DecidableEq, Repr

structure ColumnDefinition where
  header_name : Str
  column_name : Str
  data_type : Str
  sample_data : List Str
deriving DecidableEq, Repr

/-- The configuration of a Data Flow run. -/
structure Conf where
  db_role : Str
  file_path : Str
  schema_name : Str
  table_name : Str
  column_definitions : List ColumnDefinition
deriving DecidableEq, Repr

/-- What is done in S3 and in Data Flow. -/
inductive Effect where
  | head_object (Key : Str)
  | get_object (Key : Str)
  | copy_object (CopySource : Str) (Key : Str)
  | trigger (run_id : Str) (conf : Conf)
deriving DecidableEq, Repr

abbrev Act (α : Type) := Logged Effect Exc α

def raise {α : Type} (e : Exc) : Act α := .quietly (.error e)

/-- What answers while one request is served. -/
structure World where
  /-- The teams that the user is a member of. -/
  teams : User → List Team
  table_exists : Str → Str → Except Exc Bool
  head_object : Str → Except Exc Bool
  /-- The rows of an object, as it is when the request reads its `n`-th object. -/
  get_object : Nat → Str → Except Exc (List (List Str))
  new_private_database_credentials : User → Except Exc Unit
  copy_object : Str → Str → Except Exc Unit
  /-- The execution date of the run. -/
  trigger : Str → Conf → Except Exc Str
  now : Str

/-- The letters of Unicode, hashes, and the package that infers the types of columns. -/
structure Library where
  isWord : Char → Bool
  lower : Str → Str
  /-- The hexadecimal digest. -/
  sha256 : Str → Str
  /-- The name and the type of each column, and the rows that are left of the list. -/
  infer : List (List Str) → Except Exc (List (Str × Str) × List (List Str))

variable (lib : Library)

def stable_identification_suffix (identifier : Str) (short : Bool) : Str :=
  let digest := lib.sha256 identifier
  if short then digest.take 8 else digest

def get_s3_prefix (user_sso_id : Str) : Str :=
  "user/federated/" ++ stable_identification_suffix lib user_sso_id false ++ "/"

def get_schema_for_user (user : User) : Str :=
  "_user_" ++ stable_identification_suffix lib user.sso_id true

/-! ## The columns of a file -/

def SCHEMA_POSTGRES_DATA_TYPE_MAP : List (Str × Str) :=
  [("integer", "integer"), ("boolean", "boolean"), ("date", "date"), ("datetime", "timestamp"),
    ("numeric", "numeric"), ("text", "text"), ("uuid", "uuid")]

def TABLESCHEMA_FIELD_TYPE_MAP : List (Str × Str) := [("number", "numeric")]

/-- Runs of hyphens and white space as underscores. -/
@[grind =]
def underscores : Str → Str
  | [] => []
  | [c] => if c = '-' ∨ isspace c then ['_'] else [c]
  | c :: d :: s =>
      if (c = '-' ∨ isspace c) ∧ (d = '-' ∨ isspace d) then underscores (d :: s)
      else (if c = '-' ∨ isspace c then '_' else c) :: underscores (d :: s)

/-- `os.path.splitext(s)[0]`, of a last component. -/
def splitext (s : Str) : Str :=
  let (root, dot, _) := rpartition "." s
  if dot = [] ∨ root.all (· == '.') then s else root

/-- `path.split("/")[-1]`. -/
def filename (path : Str) : Str := (rpartition "/" path).2.2

def clean_db_identifier (identifier : Str) : Str :=
  let identifier := splitext (filename identifier)
  let identifier := stripSpace (identifier.filter fun c => lib.isWord c || isspace c || c == '-')
  underscores (lib.lower identifier)

/-- One entry of each row. -/
def sample (idx : Nat) (rows : List (List Str)) : Except Exc (List Str) :=
  rows.mapM fun row =>
    match row[idx]? with
    | some value => .ok value
    | none => .error .IndexError

/-- The definitions of the columns from the `idx`-th on. -/
@[grind =]
def definitions (rows : List (List Str)) : Nat → List (Str × Str) → Except Exc (List ColumnDefinition)
  | _, [] => .ok []
  | idx, (name, type) :: fields => do
      let values ← sample idx rows
      let type := (TABLESCHEMA_FIELD_TYPE_MAP.lookup type).getD type
      let rest ← definitions rows (idx + 1) fields
      .ok ({ header_name := name
             column_name := clean_db_identifier lib name
             data_type := (SCHEMA_POSTGRES_DATA_TYPE_MAP.lookup type).getD "text"
             sample_data := values.take 6 } :: rest)

/-- The columns of an object, as the `n`-th that the request reads. -/
def get_s3_csv_column_types (w : World) (n : Nat) (path : Str) : Act (List ColumnDefinition) := do
  let rows ← .perform (.get_object path) (w.get_object n path)
  if rows.length ≤ 2 then raise .ValueError
  else do
    let rows := rows.dropLast.take 10
    -- `infer` takes the header off the list
    let (fields, rows) ← .quietly (lib.infer rows)
    .quietly (definitions lib rows 0 fields)

/-! ## Fields -/

structure ValidationError where
  code : Str
  message : Str
deriving DecidableEq, Repr

inductive Value where
  | str (s : Str)
  | bool (b : Bool)
  | None
deriving DecidableEq, Repr

def Value.truthy : Value → Bool
  | .str s => !s.isEmpty
  | .bool b => b
  | .None => false

structure Validator where
  accepts : Str → Bool
  error : ValidationError

inductive Field where
  /-- `CharField`. -/
  | char (validators : List Validator)
  /-- `BooleanField(required=False)`, hidden. -/
  | boolean
  /-- `ChoiceField`. -/
  | choice (choices : List Str)

def required_error : ValidationError := ⟨"required", "This field is required."⟩

def no_null : Validator :=
  ⟨fun s => !s.contains '\x00', ⟨"null_characters_not_allowed", "Null characters are not allowed."⟩⟩

def invalid_choice (value : Str) : ValidationError :=
  ⟨"invalid_choice",
    "Select a valid choice. " ++ value ++ " is not one of the available choices."⟩

/-- `Field.clean`, of what was posted under the name of the field. -/
def Field.clean (posted : Option Str) : Field → Except (List ValidationError) Value
  | .char validators =>
      let value := stripSpace (posted.getD [])
      if value = [] then .error [required_error]
      else
        match (validators ++ [no_null]).filter fun v => !v.accepts value with
        | [] => .ok (.str value)
        | failed => .error (failed.map Validator.error)
  | .boolean =>
      match posted with
      | none => .ok (.bool false)
      | some s => .ok (.bool (!s.isEmpty && lib.lower s != "false" && lib.lower s != "0"))
  | .choice choices =>
      let value := posted.getD []
      if value = [] then .error [required_error]
      else if choices.contains value then .ok (.str value) else .error [invalid_choice value]

/-- `^[a-zA-Z][a-zA-Z0-9_]*$`, of a text that does not end in a newline. -/
def table_name_regex : Str → Bool
  | [] => false
  | c :: s => c.isAlpha && s.all fun c => c.isAlphanum || c == '_'

def CreateTableForm.fields : Dict Str Field :=
  .ofPairs
    [("path", .char []), ("schema", .char []),
      ("table_name", .char
        [⟨table_name_regex, ⟨"invalid-table-name",
            "Table names can contain only letters, numbers and underscores"⟩⟩,
          ⟨fun s => s.length ≤ 42, ⟨"max_length",
            "Table names must be no longer than 42 characters long"⟩⟩]),
      ("force_overwrite", .boolean)]

def DATA_TYPES : List Str := SCHEMA_POSTGRES_DATA_TYPE_MAP.map Prod.snd

def CreateTableDataTypesForm.fields (columns : List ColumnDefinition) : Dict Str Field :=
  columns.foldl (fun fields col_def => fields.set col_def.column_name (.choice DATA_TYPES))
    CreateTableForm.fields

/-! ## Cleaning -/

/-- The values of the fields that are valid, and the errors. -/
structure Cleaned where
  cleaned_data : List (Str × Value)
  errors : List (Str × List ValidationError)
deriving DecidableEq, Repr

/-- `self.cleaned_data.get(name)`. -/
def Cleaned.get? (form : Cleaned) (name : Str) : Option Value := form.cleaned_data.lookup name

/-- `self.cleaned_data[name]`. -/
def Cleaned.get (form : Cleaned) (name : Str) : Except Exc Value :=
  match form.get? name with
  | some value => .ok value
  | none => .error .KeyError

/-- A value that is a text. -/
def Cleaned.text (form : Cleaned) (name : Str) : Except Exc Str := do
  match ← form.get name with
  | .str s => .ok s
  | .bool _ => .error .other
  | .None => .error .other

def is_valid (form : Cleaned) : Bool := form.errors.isEmpty

section Cleaning

variable (w : World) (user : User)

def clean_path (path : Str) : Act (Except (List ValidationError) Value) := do
  if !startswith path ( get_s3_prefix lib user.sso_id) then
    pure (.error [⟨"", "You don't have permission to access this file"⟩])
  else if !endswith path ".csv" then
    pure (.error [⟨"", "Invalid file type. Only CSV files are currently supported"⟩])
  else do
    let found ← .perform (.head_object path) (w.head_object path)
    if found then pure (.ok (.str path))
    else pure (.error [⟨"", "This file does not exist in S3"⟩])

/-- A field, and the method `clean_path` for the one of that name. -/
def clean_field (name : Str) (field : Field) (posted : Option Str) :
    Act (Except (List ValidationError) Value) :=
  match field.clean lib posted with
  | .error errors => pure (.error errors)
  | .ok value =>
      if name = "path" then
        match value with
        | .str path => clean_path lib w user path
        | .bool _ => raise .other
        | .None => raise .other
      else pure (.ok value)

/-- The values posted, of which the last counts. -/
abbrev QueryDict := List (Str × Str)

def QueryDict.get? (q : QueryDict) (name : Str) : Option Str := q.reverse.lookup name

def _clean_fields (data : QueryDict) : List (Str × Field) → Act Cleaned
  | [] => pure ⟨[], []⟩
  | (name, field) :: fields => do
      let cleaned ← clean_field lib w user name field (data.get? name)
      let form ← _clean_fields data fields
      match cleaned with
      | .ok value => pure { form with cleaned_data := (name, value) :: form.cleaned_data }
      | .error errors => pure { form with errors := (name, errors) :: form.errors }

/-- `add_error`, of a field that is valid so far. -/
def Cleaned.add_error (form : Cleaned) (field : Str) (error : ValidationError) : Cleaned where
  cleaned_data := form.cleaned_data.filter fun kv => kv.1 != field
  errors := form.errors ++ [(field, [error])]

def duplicate_table : ValidationError := ⟨"duplicate-table", "This table already exists"⟩

/-- `clean`: the table must not exist unless it is to be overwritten. -/
def clean (form : Cleaned) : Act Cleaned :=
  match form.get? "table_name" with
  | none => pure form
  | some table_name =>
      if table_name.truthy then do
        let table_name ← .quietly (form.text "table_name")
        let schema ← .quietly (form.text "schema")
        let found ← .quietly (w.table_exists schema table_name)
        if found && !((form.get? "force_overwrite").getD .None).truthy then
          pure (form.add_error "table_name" duplicate_table)
        else pure form
      else pure form

def full_clean (fields : Dict Str Field) (data : QueryDict) : Act Cleaned := do
  let form ← _clean_fields lib w user data fields.items
  clean w form

end Cleaning

end YourFiles
