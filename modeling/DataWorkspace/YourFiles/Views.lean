import DataWorkspace.Http.Method
import DataWorkspace.YourFiles.Forms

/-!
# Pages to create a table from a file

The pages on which a user creates a table from a CSV file: the choice of a schema and a
name, and the types of the columns.  The path of the file and the schema go from page to
page in the query and in hidden fields.

The page of the types reads the object that its query names before the form is checked, and
it passes on the schema that was posted.  `effects_permitted_iff` says for which requests
every object that is read or copied is one of the user, and every schema that a run gets is.
-/

namespace YourFiles

open Py Async Http

/-! ## Requests -/

inductive Page where
  | confirm | confirm_schema | confirm_name | confirm_data_types
  | validating | creating_table | ingesting | renaming_table | success | failed | table_exists
deriving DecidableEq, Repr

structure Request where
  method : Method
  page : Page
  GET : QueryDict
  POST : QueryDict
deriving DecidableEq, Repr

/-- What a form gets: `request.POST` is empty for other methods. -/
def Request.data (request : Request) : QueryDict :=
  match request.method with
  | .POST => request.POST
  | _ => []

inductive Response where
  | rendered (template : Str) (context : List (Str × Value))
  /-- A page with a form. -/
  | form (template : Str) (initial : List (Str × Value)) (errors : List (Str × List ValidationError))
  | redirect (view : Page) (params : List (Str × Value))
  | bad_request (message : Str)
  | not_allowed
  /-- The reply to `OPTIONS`. -/
  | allowed
deriving DecidableEq, Repr

/-- `request.GET[name]`. -/
def QueryDict.item (q : QueryDict) (name : Str) : Act Str :=
  match q.get? name with
  | some value => pure value
  | none => raise .KeyError

/-- `request.GET.get(name)`. -/
def QueryDict.value (q : QueryDict) (name : Str) : Value :=
  match q.get? name with
  | some value => .str value
  | none => .None

def QueryDict.contains (q : QueryDict) (name : Str) : Bool := (q.get? name).isSome

/-- `RequiredParameterGetRequestMixin.get`. -/
def RequiredParameterGetRequestMixin.get (required_parameters : List Str) (request : Request)
    (get : Act Response) : Act Response :=
  match required_parameters.find? fun param => !request.GET.contains param with
  | some param => pure (.bad_request ("Expected a `" ++ param ++ "` parameter"))
  | none => get

/-- `dispatch` of a view that has only `get`. -/
def TemplateView.dispatch (request : Request) (get : Act Response) : Act Response :=
  match request.method with
  | .GET => get
  | .HEAD => get
  | .OPTIONS => pure .allowed
  | _ => pure .not_allowed

/-- `dispatch` of a view with a form. -/
def FormView.dispatch (request : Request) (get post : Act Response) : Act Response :=
  match request.method with
  | .GET => get
  | .HEAD => get
  | .POST => post
  | .PUT => post
  | .OPTIONS => pure .allowed
  | _ => pure .not_allowed

variable (lib : Library) (DATAFLOW_IMPORTS_BUCKET_ROOT : Str) (w : World) (user : User)
  (request : Request)

def is_user_in_teams : Bool := !(w.teams user).isEmpty

/-! ## The first pages -/

def CreateTableView.get : Act Response :=
  RequiredParameterGetRequestMixin.get ["path"] request do
    let path ← request.GET.item "path"
    pure (.rendered "your_files/create-table-confirm.html"
      [("path", .str path), ("filename", .str (filename path)),
        ("table_name", .str (clean_db_identifier lib path)),
        ("show_schema", .bool (is_user_in_teams w user))])

/-- The schemas of the choice, each with its name there. -/
def CreateTableSchemaForm.schemas : List Team :=
  ⟨"user", get_schema_for_user lib user⟩ :: w.teams user

def CreateTableSchemaForm.fields : Dict Str Field :=
  .ofPairs [("schema", .choice ((CreateTableSchemaForm.schemas lib w user).map Team.name))]

def CreateTableConfirmSchemaView.template_name : Str :=
  "your_files/create-table-confirm-schema.html"

def CreateTableConfirmSchemaView.get : Act Response := do
  if request.method = .GET then do
    let path ← request.GET.item "path"
    pure (.form CreateTableConfirmSchemaView.template_name
      [("path", .str path), ("schema", request.GET.value "schema"),
        ("table_name", request.GET.value "table_name")] [])
  else pure (.form CreateTableConfirmSchemaView.template_name [] [])

def CreateTableConfirmSchemaView.form_valid (form : Cleaned) : Act Response := do
  let team ← .quietly (form.text "schema")
  let path ← request.GET.item "path"
  match (CreateTableSchemaForm.schemas lib w user).find? fun schema => schema.name == team with
  | none => raise .IndexError
  | some schema =>
      pure (.redirect .confirm_name
        [("path", .str path), ("schema", .str schema.schema_name), ("team", .str team),
          ("table_name", request.GET.value "table_name")])

def CreateTableConfirmSchemaView.post : Act Response := do
  let form ← _clean_fields lib w user request.data (CreateTableSchemaForm.fields lib w user).items
  if is_valid form then CreateTableConfirmSchemaView.form_valid lib w user request form
  else pure (.form CreateTableConfirmSchemaView.template_name [] form.errors)

def CreateTableConfirmNameView.template_name : Str := "your_files/create-table-confirm-name.html"

def CreateTableConfirmNameView.get : Act Response :=
  RequiredParameterGetRequestMixin.get ["path"] request do
    if request.method = .GET then do
      let schema := (request.GET.get? "schema").getD (get_schema_for_user lib user)
      let path ← request.GET.item "path"
      pure (.form CreateTableConfirmNameView.template_name
        [("path", .str path), ("schema", .str schema), ("team", request.GET.value "team"),
          ("table_name", request.GET.value "table_name"),
          ("force_overwrite", .bool (request.GET.contains "overwrite"))] [])
    else pure (.form CreateTableConfirmNameView.template_name [] [])

def CreateTableConfirmNameView.form_valid (form : Cleaned) : Act Response := do
  let path ← .quietly (form.get "path")
  let schema ← .quietly (form.get "schema")
  let table_name ← .quietly (form.get "table_name")
  let force_overwrite ← .quietly (form.get "force_overwrite")
  pure (.redirect .confirm_data_types
    [("path", path), ("schema", schema), ("table_name", table_name), ("overwrite", force_overwrite)])

/-- The first error of a field is that its table exists. -/
def duplicates (form : Cleaned) : Bool :=
  ((form.errors.lookup ("table_name" : Str)).bind List.head?).any fun error =>
    error.code == duplicate_table.code

def CreateTableConfirmNameView.form_invalid (form : Cleaned) : Act Response := do
  if (form.errors.lookup ("path" : Str)).isSome then do
    let path ← request.data.item "path"
    pure (.redirect .failed [("filename", .str (filename path))])
  else if duplicates form then do
    let path ← .quietly (form.get "path")
    let table_name ← request.data.item "table_name"
    pure (.redirect .table_exists
      [("path", path), ("table_name", .str table_name), ("overwrite", .bool true)])
  else pure (.form CreateTableConfirmNameView.template_name [] form.errors)

def CreateTableConfirmNameView.post : Act Response := do
  let form ← full_clean lib w user CreateTableForm.fields request.data
  if is_valid form then CreateTableConfirmNameView.form_valid form
  else CreateTableConfirmNameView.form_invalid request form

/-! ## The types of the columns -/

namespace CreateTableConfirmDataTypesView

def template_name : Str := "your_files/create-table-confirm-data-types.html"

def get_initial : Act (List (Str × Value)) := do
  if request.method = .GET then do
    let path ← request.GET.item "path"
    let schema ← request.GET.item "schema"
    let table_name ← request.GET.item "table_name"
    pure [("path", .str path), ("schema", .str schema), ("table_name", .str table_name),
      ("force_overwrite", .bool (request.GET.contains "overwrite"))]
  else pure []

/-- `get_form`: the initial values and the columns of the file. -/
def get_form : Act (List (Str × Value) × List ColumnDefinition) := do
  let initial ← get_initial request
  let path ← request.GET.item "path"
  let column_definitions ← get_s3_csv_column_types lib w 0 path
  if column_definitions.isEmpty then raise .ValueError else pure (initial, column_definitions)

def get : Act Response := do
  let form ← get_form lib w request
  pure (.form template_name form.1 [])

def chosen (form : Cleaned) (columns : List ColumnDefinition) : Except Exc (List ColumnDefinition) :=
  columns.mapM fun field => do
    let value ← form.get field.column_name
    let type :=
      match value with
      | .str s => (SCHEMA_POSTGRES_DATA_TYPE_MAP.lookup s).getD "text"
      | _ => "text"
    .ok { field with data_type := type }

/-- `form_valid` before the run: the credentials, the types, and the copy of the file. -/
def prepare (form : Cleaned) : Act Conf := do
  .quietly (w.new_private_database_credentials user)
  let path ← .quietly (form.text "path")
  let columns ← get_s3_csv_column_types lib w 1 path
  let column_definitions ← .quietly (chosen form columns)
  let import_path := DATAFLOW_IMPORTS_BUCKET_ROOT ++ "/" ++ path
  .perform (.copy_object path import_path) (w.copy_object path import_path)
  let schema ← .quietly (form.text "schema")
  let table_name ← .quietly (form.text "table_name")
  pure ⟨schema, import_path, schema, table_name, column_definitions⟩

/-- The run, with the page that follows. -/
def trigger (path : Str) (conf : Conf) : Act Response :=
  let run_id := conf.schema_name ++ "-" ++ conf.table_name ++ "-" ++ w.now
  ⟨[.trigger run_id conf],
    match w.trigger run_id conf with
    | .ok execution_date => .ok (.redirect .validating
        [("filename", .str (filename path)), ("schema", .str conf.schema_name),
          ("table_name", .str conf.table_name), ("execution_date", .str execution_date)])
    | .error .HTTPError => .ok (.redirect .failed [("filename", .str (filename path))])
    | .error e => .error e⟩

def form_valid (form : Cleaned) : Act Response := do
  let conf ← prepare lib DATAFLOW_IMPORTS_BUCKET_ROOT w user form
  let path ← .quietly (form.text "path")
  trigger w path conf

def posted : Act Cleaned := do
  let form ← get_form lib w request
  full_clean lib w user (CreateTableDataTypesForm.fields form.2) request.data

def post : Act Response := do
  let form ← posted lib w user request
  if is_valid form then form_valid lib DATAFLOW_IMPORTS_BUCKET_ROOT w user form
  else pure (.form template_name [] form.errors)

end CreateTableConfirmDataTypesView

/-! ## The pages after it -/

/-- The parameters of the query, as they are. -/
def parameters (names : List Str) : List (Str × Value) :=
  names.map fun name => (name, request.GET.value name)

def BaseCreateTableTemplateView.required_parameters : List Str :=
  ["filename", "schema", "table_name", "execution_date"]

def BaseCreateTableTemplateView.get (template_name : Str) (step : Str)
    (context : List (Str × Value)) : Act Response :=
  RequiredParameterGetRequestMixin.get BaseCreateTableTemplateView.required_parameters request
    (pure (.rendered template_name (("steps", .str "5") :: ("step", .str step) ::
      (parameters request BaseCreateTableTemplateView.required_parameters ++ context))))

def BaseCreateTableStepView.get (step task_name : Str) : Act Response :=
  BaseCreateTableTemplateView.get request "your_files/create-table-processing.html" step
    [("task_name", .str task_name)]

def CreateTableFailedView.get : Act Response :=
  RequiredParameterGetRequestMixin.get ["filename"] request
    (pure (.rendered "your_files/create-table-failed.html" (parameters request ["filename"])))

def CreateTableTableExists.get : Act Response :=
  RequiredParameterGetRequestMixin.get ["path", "table_name"] request
    (pure (.form "your_files/create-table-table-exists.html"
      [("path", request.GET.value "path"), ("schema", .str (get_schema_for_user lib user)),
        ("table_name", request.GET.value "table_name"), ("force_overwrite", .bool true)] []))

/-- The page that a request asks for. -/
def serve : Act Response :=
  match request.page with
  | .confirm => TemplateView.dispatch request (CreateTableView.get lib w user request)
  | .confirm_schema =>
      FormView.dispatch request (CreateTableConfirmSchemaView.get request)
        (CreateTableConfirmSchemaView.post lib w user request)
  | .confirm_name =>
      FormView.dispatch request (CreateTableConfirmNameView.get lib user request)
        (CreateTableConfirmNameView.post lib w user request)
  | .confirm_data_types =>
      FormView.dispatch request (CreateTableConfirmDataTypesView.get lib w request)
        (CreateTableConfirmDataTypesView.post lib DATAFLOW_IMPORTS_BUCKET_ROOT w user request)
  | .validating =>
      TemplateView.dispatch request (BaseCreateTableStepView.get request "1" "get-table-config")
  | .creating_table =>
      TemplateView.dispatch request (BaseCreateTableStepView.get request "2" "create-temp-tables")
  | .ingesting =>
      TemplateView.dispatch request (BaseCreateTableStepView.get request "3" "insert-into-temp-table")
  | .renaming_table =>
      TemplateView.dispatch request
        (BaseCreateTableStepView.get request "4" "swap-dataset-table-datasets_db")
  | .success =>
      TemplateView.dispatch request
        (BaseCreateTableTemplateView.get request "your_files/create-table-success.html" "5" [])
  | .failed => TemplateView.dispatch request (CreateTableFailedView.get request)
  | .table_exists => TemplateView.dispatch request (CreateTableTableExists.get lib user request)

end YourFiles
