import DataWorkspace.Explorer.Columns
import DataWorkspace.Py.Grouping
import DataWorkspace.Py.Json

/-!
# Exports of query results

The results of a query are exported as CSV, as JSON and as a workbook.  The exporters take the
same headers and rows, and each leaves the writing of a value to a library.

`Library` is what the driver and the libraries do to single values.  A file is modelled as the
records of the CSV file, the objects of the JSON file, and the cells of the worksheet.
-/

namespace Explorer

namespace Exporters

open Py

/-! ## Values -/

/-- A value as the driver returns it: `None`, a string, or a value of another type. -/
inductive Value (V : Type) where
  | null
  | str (s : Str)
  | other (v : V)

/-- A cell that is written. -/
inductive Cell where
  /-- Only a format. -/
  | blank
  | string (s : Str)
  | link (s url : Str)
  | formula (s : Str)
  | array_formula (s : Str)
  | number (literal : Str)
  | boolean (b : Bool)
deriving DecidableEq

/-- What is done to a value: by Python, by Django's encoder, and by xlsxwriter.  `K` are the
types of columns. -/
structure Library (V K : Type) where
  /-- `str(v)`. -/
  str : V → Str
  /-- `isinstance(v, (datetime, uuid.UUID))`. -/
  is_datetime_or_uuid : V → Bool
  /-- `isinstance(v, (dict, list))`. -/
  is_dict_or_list : V → Bool
  /-- `json.dumps(v)`, `none` where it raises. -/
  dumps : V → Option Str
  /-- `json.dumps(v, indent=2)` of a value of a `jsonb` column. -/
  dumps_indented : Value V → Str
  /-- What `DjangoJSONEncoder` makes of a value, `none` where it raises. -/
  encode : V → Option Json
  /-- The cell that `ws.write` writes for a string, if any. -/
  write_text : Str → Option Cell
  /-- The cell that it writes for another value, if any, `none` where it raises. -/
  write_other : V → Option (Option Cell)
  /-- The values of a type. -/
  holds : K → Value V → Prop
  /-- The type is `jsonb`. -/
  is_jsonb : K → Bool
  write_text_nil : write_text [] = none
  /-- What starts with `=` is a formula, which all of these are taken off. -/
  write_text_formula : ∀ s, write_text ('=' :: s) = some (.formula (s.dropWhile (· == '=')))

variable {V K : Type}

/-- The table with the results of a query: names and types of its columns, and its rows as the
driver returns them.  A table has between 1 and 1600 columns. -/
structure ResultTable (lib : Library V K) where
  columns : List (Str × K)
  rows : List (List (Value V))
  nonempty : columns ≠ []
  fits : columns.length ≤ 1600
  typed : ∀ row ∈ rows, List.Forall₂ lib.holds (columns.map Prod.snd) row

namespace ResultTable

variable {lib : Library V K} (t : ResultTable lib)

/-- The headers that `fetch_query_results` returns. -/
def headers : List Str := Explorer.headers (t.columns.map Prod.fst)

def types : List K := t.columns.map Prod.snd

end ResultTable

namespace Library

variable (lib : Library V K)

/-- A value of a type, as `fetch_query_results` returns it. -/
def fetched (type : K) (x : Value V) : Value V :=
  if lib.is_jsonb type then .str (lib.dumps_indented x) else x

/-- The data that `fetch_query_results` returns. -/
def data (t : ResultTable lib) : List (List (Value V)) :=
  t.rows.map fun row => List.zipWith lib.fetched t.types row

/-! ## The exporters -/

/-- What the CSV writer writes for a value. -/
def csv_text : Value V → Str
  | .null => []
  | .str s => s
  | .other v => lib.str v

/-- What the encoder writes for a value. -/
def json_value : Value V → Option Json
  | .null => some .null
  | .str s => some (.str s)
  | .other v => lib.encode v

end Library

/-- A file of records, as `csv.reader` reads it with the delimiter. -/
structure CsvFile where
  delimiter : Char
  records : List (List Str)

/-- The delimiter of `CSVExporter`, `none` where the writer refuses it. -/
def csv_delimiter (EXPLORER_CSV_DELIMETER : Str) (delim : Option Str) : Option Char :=
  let delim := if delim.getD [] = [] then EXPLORER_CSV_DELIMETER else delim.getD []
  let delim := if delim = "tab" then ['\t'] else delim
  let delim := if delim.length > 1 then EXPLORER_CSV_DELIMETER else delim
  match delim with
  | [c] => some c
  | _ => none

/-- `CSVExporter._get_output`. -/
def CSVExporter._get_output (lib : Library V K) (EXPLORER_CSV_DELIMETER : Str) (delim : Option Str)
    (headers : List Str) (data : List (List (Value V))) : Option CsvFile := do
  let delimiter ← csv_delimiter EXPLORER_CSV_DELIMETER delim
  some ⟨delimiter, headers :: data.map fun row => row.map lib.csv_text⟩

/-- An object of a JSON file. -/
abbrev Record := List (Str × Json)

/-- The object of a row. -/
def JSONExporter.record (lib : Library V K) (headers : List Str) (row : List (Value V)) :
    Option Record :=
  (Dict.ofPairs (headers.zip row)).items.mapM fun kv => do
    let value ← lib.json_value kv.2
    some (kv.1, value)

/-- `JSONExporter._get_output`. -/
def JSONExporter._get_output (lib : Library V K) (headers : List Str)
    (data : List (List (Value V))) : Option (List Record) :=
  data.mapM (JSONExporter.record lib headers)

/-- What `ExcelExporter` gives to `ws.write`: a text, or what a value of another type is
written as. -/
inductive Token where
  | text (s : Str)
  | cell (c : Option Cell)

/-- Dates with times, UUIDs, and JSON and array fields are written as strings. -/
def Library.token (lib : Library V K) : Value V → Option Token
  | .null => some (.cell none)
  | .str s => some (.text s)
  | .other v =>
      if lib.is_datetime_or_uuid v then some (.text (lib.str v))
      else if lib.is_dict_or_list v then (lib.dumps v).map .text
      else (lib.write_other v).map .cell

/-- The links that a worksheet may have. -/
def maxLinks : Nat := 65530

/-- The rows that a worksheet may have. -/
def maxRows : Nat := 1048576

/-- A cell is written, unless it is one link too many. -/
def place (links : Nat) : Option Cell → Option Cell × Nat
  | some (.link s url) => (if links < maxLinks then some (.link s url) else none, links + 1)
  | c => (c, links)

/-- The cells of a row, from the left. -/
def placeRow : Nat → List (Option Cell) → List (Option Cell) × Nat
  | links, [] => ([], links)
  | links, c :: cells =>
      let rest := placeRow (place links c).2 cells
      ((place links c).1 :: rest.1, rest.2)

/-- The rows, from the top. -/
def placeRows : Nat → List (List (Option Cell)) → List (List (Option Cell)) × Nat
  | links, [] => ([], links)
  | links, row :: rows =>
      let rest := placeRows (placeRow links row).2 rows
      ((placeRow links row).1 :: rest.1, rest.2)

def Library.written (lib : Library V K) : Token → Option Cell
  | .text s => lib.write_text s
  | .cell c => c

/-- What a header is written as.  It has a format, so it is written even when it is empty. -/
def Library.header_cell (lib : Library V K) (header : Str) : Option Cell :=
  if header = [] then some .blank else lib.write_text header

/-- A worksheet.  A row in which nothing is written is not there, unless one below it is. -/
structure Sheet where
  header : List (Option Cell)
  body : List (List (Option Cell))

/-- `ExcelExporter._get_output`.  Rows below the last of a worksheet are not written. -/
def ExcelExporter._get_output (lib : Library V K) (headers : List Str)
    (data : List (List (Value V))) : Option Sheet := do
  let tokens ← data.mapM fun row => row.mapM lib.token
  let header := placeRow 0 (headers.map lib.header_cell)
  let body := placeRows header.2
    ((tokens.take (maxRows - 1)).map fun row => row.map lib.written)
  some ⟨header.1, body.1.rdropWhile fun row => row.all Option.isNone⟩

end Exporters

end Explorer
