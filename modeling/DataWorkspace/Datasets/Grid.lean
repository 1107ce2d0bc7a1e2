import DataWorkspace.Sql.Composed
import DataWorkspace.Py.Collections
import DataWorkspace.Py.Numbers
import DataWorkspace.Py.Regex
import Mathlib.Data.Rat.Floor

/-!
# The grid of a custom query

The rows of a custom query are shown in a grid, which sends filters, a sort order and a page.
`build_filtered_dataset_query` makes one query of them around the text of the custom query.  The
grid can be downloaded with its filters, and two queries about the unfiltered text measure the
download.  The rows can be downloaded without the grid as well.

The query with the filters is sent with parameters, and percent signs are doubled for it in the
text.  The queries that measure the download have the same text and are sent without.
`same_text_iff` says which custom queries the database gets in one and the same text.
-/

namespace Datasets

open Py Sql

namespace Grid

/-! ## Requests -/

/-- A value in the JSON of a request.  A float comes with its `repr`. -/
inductive Term where
  | null
  | bool (b : Bool)
  | int (n : Int)
  | float (value : Rat) (repr : Str)
  | str (s : Str)
deriving DecidableEq

namespace Term

/-- `str(term)`. -/
def text : Term → Str
  | .null => "None"
  | .bool true => "True"
  | .bool false => "False"
  | .int n => (toString n).toList
  | .float _ repr => repr
  | .str s => s

/-- `int(term)`. -/
def int? : Term → Option Int
  | .null => none
  | .bool b => some b.toNat
  | .int n => some n
  | .float value _ => some (if 0 ≤ value then value.floor else value.ceil)
  | .str s => integer? s

/-- `min(term, 100)`. -/
def atMost100 : Term → Option Term
  | .bool b => some (.bool b)
  | .int n => some (if 100 < n then .int 100 else .int n)
  | .float value repr => some (if 100 < value then .int 100 else .float value repr)
  | _ => none

end Term

/-- A digit of `int(s, 16)`. -/
def isHexDigit (c : Char) : Bool := isDecimal c || c.toLower ∈ ['a', 'b', 'c', 'd', 'e', 'f']

/-- Whether `int(s, 16)` returns. -/
def isHex (s : Str) : Bool :=
  let s := ((s.dropWhile isIntSpace).reverse.dropWhile isIntSpace).reverse
  let s := match s with
    | '+' :: s | '-' :: s => s
    | s => s
  let s := match s with
    | '0' :: 'x' :: '_' :: s | '0' :: 'X' :: '_' :: s | '0' :: 'x' :: s | '0' :: 'X' :: s => s
    | s => s
  (s.splitOn '_').all fun part => !part.isEmpty && part.all isHexDigit

/-- Whether `UUID(term, version=4)` returns or raises a `ValueError`.  What is no text raises
another error. -/
def uuid? : Term → Option Bool
  | .str s =>
      let isBrace (c : Char) : Bool := c = '{' || c = '}'
      let hex := replace (replace s "urn:" "") "uuid:" ""
      let hex := ((hex.dropWhile isBrace).rdropWhile isBrace).filter (· ≠ '-')
      some (decide (hex.length = 32) && isHex hex)
  | _ => none

/-- A filter of the grid. -/
structure Filter where
  filterType : Option Str
  type : Option Str
  filter : Term := .null
  filterTo : Term := .null
  dateFrom : Option Term := none
  dateTo : Option Term := none

/-- A column that the grid can show. -/
structure Column where
  field : Str
  dataType : Option Str

/-- The filters, the order and the page. -/
structure Params where
  start : Option Term := none
  limit : Option Term := none
  sortDir : Option Str := none
  sortField : Option Str := none
  filters : Dict Str Filter := Dict.empty

/-! ## The filtered query -/

/-- The text of a query within a statement. -/
structure Statement where
  before : Str
  query : Str
  after : Str

def Statement.text (s : Statement) : Str := s.before ++ s.query ++ s.after

/-- The clause and the parameters of a filter.  There is no clause for a type of filter that is
not known. -/
def clause (field data_type type : Str) (terms : Term × Term) :
    Option (Option (Str × List (Str × Term))) :=
  let sql (template : Str) (params : List (Str × Term)) :=
    (format template [identifier field]).map fun text => some (text, params)
  let placeholder : Str := "%(" ++ field ++ ")s"
  if data_type = "text" ∧ type = "contains" then
    sql ("lower({}) LIKE lower(" ++ placeholder ++ ")")
      [(field, .str ("%" ++ terms.1.text ++ "%"))]
  else if data_type = "text" ∧ type = "notContains" then
    sql ("lower({}) NOT LIKE lower(" ++ placeholder ++ ")")
      [(field, .str ("%" ++ terms.1.text ++ "%"))]
  else if type = "equals" then
    if data_type = "text" then
      sql ("lower({}) = lower(" ++ placeholder ++ ")") [(field, terms.1)]
    else sql ("{} = " ++ placeholder) [(field, terms.1)]
  else if type = "notEqual" then
    if data_type = "text" then
      sql ("lower({}) != lower(" ++ placeholder ++ ")") [(field, terms.1)]
    else sql ("{} is distinct from " ++ placeholder) [(field, terms.1)]
  else if type = "startsWith" then
    sql ("lower({}) LIKE lower(" ++ placeholder ++ ")") [(field, .str (terms.1.text ++ "%"))]
  else if type = "endsWith" then
    sql ("lower({}) LIKE lower(" ++ placeholder ++ ")") [(field, .str ("%" ++ terms.1.text))]
  else if type = "inRange" then
    sql ("{} BETWEEN %(" ++ field ++ "_from)s AND %(" ++ field ++ "_to)s")
      [(field ++ "_from", terms.1), (field ++ "_to", terms.2)]
  else if type = "greaterThan" then sql ("{} > " ++ placeholder) [(field, terms.1)]
  else if type = "greaterThanOrEqual" then sql ("{} >= " ++ placeholder) [(field, terms.1)]
  else if type = "lessThan" then sql ("{} < " ++ placeholder) [(field, terms.1)]
  else if type = "lessThanOrEqual" then sql ("{} <= " ++ placeholder) [(field, terms.1)]
  else some none

/-- The values of a filter. -/
def Filter.terms (data : Filter) : Option (Term × Term) := do
  let filterType ← data.filterType
  if filterType = "date" then some (← data.dateFrom, ← data.dateTo)
  else some (data.filter, data.filterTo)

/-- The loop over the filters.  No row satisfies an invalid uuid, whatever filters follow. -/
def where_clauses (column_map : Dict Str Column) :
    List (Str × Filter) → List Str → Dict Str Term → Option (List Str × Dict Str Term)
  | [], where_clause, query_params => some (where_clause, query_params)
  | (field, data) :: filters, where_clause, query_params => do
      let terms ← data.terms
      match column_map.get? field with
      | none => where_clauses column_map filters where_clause query_params
      | some column =>
          let data_type ← column.dataType <|> data.filterType
          if data_type = "uuid" ∧ (← uuid? terms.1) = false then
            some (where_clause ++ [("1 = 2" : Str)], query_params)
          else
            let first ← if data_type = "boolean" then terms.1.int?.map fun n => .bool (n ≠ 0)
              else some terms.1
            match ← clause field data_type (← data.type) (first, terms.2) with
            | none => where_clauses column_map filters where_clause query_params
            | some (text, params) =>
                where_clauses column_map filters (where_clause ++ [text])
                  (params.foldl (fun d kv => d.set kv.1 kv.2) query_params)

/-- `SQL(" ").join(SQL("WHERE") + SQL(" AND ").join(where_clause))`. -/
def joined (where_clause : List Str) : Str :=
  if where_clause = [] then []
  else List.intercalate " " (("WHERE" : Str) :: where_clause.intersperse (" AND " : Str))

/-- The filtered query and its parameters. -/
def build_filtered_dataset_query (inner_query : Str) (column_config : List Column)
    (params : Params) : Option (Statement × Dict Str Term) := do
  let column_map := Dict.ofPairs (column_config.map fun x => (x.field, x))
  let offset ← (params.start.getD (.int 0)).int?
  let query_params :=
    (Dict.empty.set ("offset" : Str) (.int offset)).set "limit" (params.limit.getD .null)
  let sort_dir : Str := if lower (params.sortDir.getD []) = "desc" then "DESC" else "ASC"
  let first ← column_config.head?
  let sort_field :=
    match params.sortField with
    | some field => if field ≠ [] ∧ column_map.contains field then field else first.field
    | none => first.field
  let (where_clause, query_params) ← where_clauses column_map params.filters.items [] query_params
  some (
    { before := "\n        SELECT " ++
        List.intercalate "," (column_map.items.map fun kv => identifier kv.1) ++
        "\n        FROM ("
      query := inner_query
      after := ") a\n        " ++ joined where_clause ++ "\n        ORDER BY " ++
        identifier sort_field ++ " " ++ sort_dir ++
        "\n        LIMIT %(limit)s\n        OFFSET %(offset)s\n        " },
    query_params)

/-! ## What is sent -/

/-- `cur.execute(statement, vars)`. -/
structure Execution where
  statement : Statement
  vars : Option (Dict Str Term)

/-- `rstrip().rstrip(";")`. -/
def trimmed (query : Str) : Str := (query.rdropWhile isspace).rdropWhile (· = ';')

/-- `CustomDatasetQuery.cleaned_query`. -/
def cleaned_query (query : Str) : Str := trimmed (escape query)

/-- What `streaming_query_response` executes. -/
def streaming_query_response (query : Execution) (unfiltered_query : Option Str) :
    List Execution :=
  match unfiltered_query with
  | none => [query]
  | some unfiltered_query =>
      [query, ⟨⟨"SELECT * FROM (", unfiltered_query, ") as data LIMIT 1"⟩, none⟩,
        ⟨⟨"SELECT COUNT(*) from (", unfiltered_query, ") as data;"⟩, none⟩]

/-- The filters, the order and the columns of a download from the grid. -/
structure Download where
  filters : Dict Str Filter
  columns : List Str
  sortDir : Option Str
  sortField : Option Str

/-- `DataGridDataView.post`, of a custom query with these columns.  A download without columns
is refused. -/
def DataGridDataView.post (query : Str) (column_config : List Column) :
    Download ⊕ Params → Option (List Execution)
  | .inl download => do
      let column_config := column_config.filter fun x => download.columns.contains x.field
      let first ← column_config.head?
      let (statement, params) ← build_filtered_dataset_query (cleaned_query query) column_config
        { limit := some .null
          sortDir := some (download.sortDir.getD "ASC")
          sortField := some (download.sortField.getD first.field)
          filters := download.filters }
      some (streaming_query_response ⟨statement, some params⟩ (some (cleaned_query query)))
  | .inr post_data => do
      let limit ← (post_data.limit.getD (.int 100)).atMost100
      let (statement, params) ← build_filtered_dataset_query (cleaned_query query) column_config
        { post_data with limit := some limit }
      some [⟨statement, some params⟩]

/-- The query as it is stored.  The white space and the semicolons at its end end the
statement. -/
def stored (query : Str) : Statement := ⟨[], trimmed query, query.drop (trimmed query).length⟩

/-- `CustomDatasetQueryDownloadView.get`. -/
def CustomDatasetQueryDownloadView.get (query : Str) (columns : List Str) : List Execution :=
  let filtered_query :=
    if columns = [] then stored query
    else
      { before := "SELECT " ++ List.intercalate "," (columns.map identifier) ++ " from ("
        query := trimmed query
        after := ") as data;" }
  streaming_query_response ⟨filtered_query, none⟩ none

/-- A request for the rows of a custom query. -/
inductive Request where
  | grid (column_config : List Column) (request : Download ⊕ Params)
  | download (columns : List Str)

/-- What is executed for a request, unless it is refused. -/
def executed (query : Str) : Request → Option (List Execution)
  | .grid column_config request => DataGridDataView.post query column_config request
  | .download columns => some (CustomDatasetQueryDownloadView.get query columns)

namespace Execution

/-- How the client sends a text. -/
def send (e : Execution) (text : Str) : Str := if e.vars.isSome then unescape text else text

/-- The statement that the database gets. -/
def sent (e : Execution) : Str := e.send e.statement.text

/-- The statement has this text of a query, and around it what it is composed of. -/
def Evaluates (e : Execution) (query : Str) : Prop :=
  e.sent = e.send e.statement.before ++ query ++ e.send e.statement.after

end Execution

def SameText (query : Str) : Prop :=
  ∀ request executions, executed query request = some executions →
    ∀ e ∈ executions, e.Evaluates (trimmed query)

/-! ## The texts -/

theorem trimmed_escape (query : Str) : cleaned_query query = escape (trimmed query) := by
  rw [cleaned_query, trimmed, rdropWhile_escape (by decide), rdropWhile_escape (by decide),
    trimmed]

namespace Execution

variable {before inner after text : Str} {vars : Option (Dict Str Term)}

theorem evaluates_without_vars :
    Evaluates ⟨⟨before, inner, after⟩, none⟩ text ↔ inner = text := by
  constructor
  · intro h
    exact List.append_cancel_left (List.append_cancel_right h)
  · rintro rfl
    rfl

theorem evaluates_with_vars {params : Dict Str Term} :
    Evaluates ⟨⟨before ++ ['('], inner, ')' :: after⟩, some params⟩ text ↔
      unescape inner = text := by
  have hparen (c : Char) (hc : c ≠ '%') (s t : Str) :
      unescape (s ++ c :: t) = unescape s ++ c :: unescape t := by
    have hhead : (c :: t).head? ≠ some '%' := fun h => hc (Option.some.inj h)
    rw [unescape_append hhead, unescape_cons fun h => hc h.1]
  have hsent : sent ⟨⟨before ++ ['('], inner, ')' :: after⟩, some params⟩ =
      unescape (before ++ ['(']) ++ unescape inner ++ unescape (')' :: after) := by
    show unescape (before ++ ['('] ++ inner ++ ')' :: after) = _
    rw [hparen ')' (by decide), List.append_assoc, List.singleton_append,
      hparen '(' (by decide), hparen '(' (by decide), unescape_cons (by simp)]
    simp [unescape]
  constructor
  · intro h
    exact List.append_cancel_left (List.append_cancel_right (hsent.symm.trans h))
  · rintro rfl
    exact hsent

end Execution

theorem build_filtered_dataset_query_text {inner_query : Str} {column_config : List Column}
    {params : Params} {statement : Statement} {query_params : Dict Str Term}
    (h : build_filtered_dataset_query inner_query column_config params =
      some (statement, query_params)) :
    ∃ before after, statement = ⟨before ++ ['('], inner_query, ')' :: after⟩ := by
  simp only [build_filtered_dataset_query, Option.bind_eq_bind, Option.bind_eq_some_iff] at h
  obtain ⟨offset, -, first, -, ⟨where_clause, query_params'⟩, -, h⟩ := h
  cases h
  exact ⟨"\n        SELECT " ++ List.intercalate ("," : Str) _ ++ "\n        FROM ", _,
    by rw [Statement.mk.injEq]; exact ⟨by simp; rfl, rfl, rfl⟩⟩

/-! ## The same text everywhere -/

/-- A query without percent signs is evaluated in its text, whatever is requested. -/
theorem sameText_of_not_mem {query : Str} (h : '%' ∉ trimmed query) : SameText query := by
  obtain ⟨hread, hsent⟩ := (escape_fixed_iff (trimmed query)).mpr h
  have hstream (column_config : List Column) (params : Params) (statement : Statement)
      (query_params : Dict Str Term)
      (hbuild : build_filtered_dataset_query (cleaned_query query) column_config params =
        some (statement, query_params)) :
      Execution.Evaluates ⟨statement, some query_params⟩ (trimmed query) := by
    obtain ⟨before, after, rfl⟩ := build_filtered_dataset_query_text hbuild
    rw [Execution.evaluates_with_vars, trimmed_escape, hread]
  have hmetrics (before after : Str) :
      Execution.Evaluates ⟨⟨before, cleaned_query query, after⟩, none⟩ (trimmed query) := by
    rw [Execution.evaluates_without_vars, trimmed_escape, hsent]
  intro request executions hexecuted e he
  cases request with
  | grid column_config request =>
      cases request with
      | inl download =>
          simp only [executed, DataGridDataView.post, Option.bind_eq_bind,
            Option.bind_eq_some_iff] at hexecuted
          obtain ⟨first, -, ⟨statement, params⟩, hbuild, hexecuted⟩ := hexecuted
          cases hexecuted
          simp only [streaming_query_response, List.mem_cons, List.not_mem_nil, or_false] at he
          rcases he with rfl | rfl | rfl
          · exact hstream _ _ _ _ hbuild
          · exact hmetrics _ _
          · exact hmetrics _ _
      | inr post_data =>
          simp only [executed, DataGridDataView.post, Option.bind_eq_bind,
            Option.bind_eq_some_iff] at hexecuted
          obtain ⟨limit, -, ⟨statement, params⟩, hbuild, hexecuted⟩ := hexecuted
          cases hexecuted
          rw [List.mem_singleton.mp he]
          exact hstream _ _ _ _ hbuild
  | download columns =>
      cases hexecuted
      rw [CustomDatasetQueryDownloadView.get, streaming_query_response] at he
      rw [List.mem_singleton.mp he]
      split
      · exact Execution.evaluates_without_vars.mpr rfl
      · exact Execution.evaluates_without_vars.mpr rfl

/-- A download from the grid, of one column without filters. -/
def oneColumn : Request :=
  .grid [⟨"a", none⟩] (.inl ⟨Dict.empty, ["a"], none, none⟩)

theorem executed_oneColumn (query : Str) :
    ∃ before after params, executed query oneColumn =
      some (streaming_query_response ⟨⟨before ++ ['('], cleaned_query query, ')' :: after⟩,
        some params⟩ (some (cleaned_query query))) := by
  obtain ⟨statement, params, hbuild, hexecuted⟩ :
      ∃ statement params,
        build_filtered_dataset_query (cleaned_query query) [⟨"a", none⟩]
          { limit := some .null, sortDir := some "ASC", sortField := some "a" } =
            some (statement, params) ∧
        executed query oneColumn =
          some (streaming_query_response ⟨statement, some params⟩ (some (cleaned_query query))) :=
    ⟨_, _, rfl, rfl⟩
  obtain ⟨before, after, rfl⟩ := build_filtered_dataset_query_text hbuild
  exact ⟨before, after, params, hexecuted⟩

/-- All requests have the database evaluate the stored text if and only if it has no percent
sign. -/
theorem same_text_iff (query : Str) : SameText query ↔ '%' ∉ trimmed query := by
  constructor
  · intro h
    obtain ⟨before, after, params, hexecuted⟩ := executed_oneColumn query
    have hall := h oneColumn _ hexecuted
    have hread := hall _ List.mem_cons_self
    have hsent := hall _ (List.mem_cons_of_mem _ List.mem_cons_self)
    rw [Execution.evaluates_with_vars, trimmed_escape] at hread
    rw [Execution.evaluates_without_vars, trimmed_escape] at hsent
    exact (escape_fixed_iff _).mp ⟨hread, hsent⟩
  · exact sameText_of_not_mem

/-- A remainder is counted with a doubled percent sign, and what is doubled already is filtered
with one. -/
theorem text_differs :
    (¬ SameText "SELECT n % 2 FROM t;") ∧ ¬ SameText "SELECT 'a%%b' AS a" := by
  constructor
  · intro h
    obtain ⟨before, after, params, hexecuted⟩ := executed_oneColumn "SELECT n % 2 FROM t;"
    have hsent := h oneColumn _ hexecuted _ (List.mem_cons_of_mem _ List.mem_cons_self)
    rw [Execution.evaluates_without_vars] at hsent
    exact absurd hsent (by decide +kernel)
  · intro h
    obtain ⟨before, after, params, hexecuted⟩ := executed_oneColumn "SELECT 'a%%b' AS a"
    have hread := h oneColumn _ hexecuted _ List.mem_cons_self
    rw [Execution.evaluates_with_vars] at hread
    exact absurd hread (by decide +kernel)

end Grid

end Datasets
