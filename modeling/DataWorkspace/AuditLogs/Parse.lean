import DataWorkspace.Py.Collections
import DataWorkspace.Py.Csv
import DataWorkspace.Py.Space

/-!
# Audit logs

PostgreSQL writes its log as CSV.  The message of an audited statement begins with
`AUDIT:`, and the rest of it is a line of CSV again, with the statement as one of its
fields.  A task reads the log and keeps the audited statements of a window of time, apart
from those that tools make by themselves.

There are two ways to the log.  In a container the files are read, and the CSV reader is
given a file.  From RDS a file is downloaded in portions, each portion is split at its
newlines, and the CSV reader is given the pieces.

Times are microseconds.  `strptime` reads the time of a line, and `ignored` says of a
statement whether it is one that tools make.
-/

namespace AuditLogs

open Py

/-! ## Rows -/

def POSTGRES_LOG_HEADERS : List Str :=
  ["log_time", "user_name", "database_name", "process_id", "connection_from", "session_id",
    "session_line_num", "command_tag", "session_start_time", "virtual_transaction_id",
    "transaction_id", "error_severity", "sql_state_code", "message", "detail", "hint",
    "internal_query", "internal_query_pos", "context", "query", "query_pos", "location"]

def PGAUDIT_LOG_HEADERS : List Str :=
  ["audit_type", "statement_id", "substatement_id", "class", "command", "object_type",
    "object_name", "statement", "parameter", "connection_from"]

/-- A row of `csv.DictReader`: the values by their headers, `none` where the row is too
short, and the values without a header. -/
structure DictRow where
  items : Dict Str (Option Str)
  rest : Option (List Str)

/-- The row with these values. -/
def dictRow (fieldnames row : List Str) : DictRow where
  items := Dict.ofPairs (fieldnames.mapIdx fun i name => (name, row[i]?))
  rest := if fieldnames.length < row.length then some (row.drop fieldnames.length) else none

/-- `line.update(other)`. -/
def DictRow.update (line other : DictRow) : DictRow where
  items := other.items.items.foldl (fun items kv => items.set kv.1 kv.2) line.items
  rest := other.rest.orElse fun _ => line.rest

/-- `line[key]`, or `none` where it raises or the value is `None`. -/
def DictRow.value (line : DictRow) (key : Str) : Option Str := (line.items.get? key).join

/-- The rows of `csv.DictReader(lines, fieldnames)`. -/
def dict_rows (limit : Nat) (fieldnames : List Str) (lines : List Str) : Option (List DictRow) :=
  (csv_rows limit lines).map fun rows => (rows.filter (· ≠ [])).map (dictRow fieldnames)

/-- An audited statement that is kept.  Its time is not among the values. -/
structure LogLine where
  log_time : Int
  values : Dict Str (Option Str)
  rest : Option (List Str)

section Reading

variable (strptime : Str → Option Int) (ignored : Str → Bool) (limit : Nat)
  (from_date to_date : Int)

def audit_row (message connection_from : Str) : Option DictRow := do
  let rows ← dict_rows limit PGAUDIT_LOG_HEADERS
    [",".toList.intercalate [message.drop 7, connection_from]]
  rows.head?

/-- One turn of the loop in `_parse_postgres_log`: the statement, if it is kept, or `none`
where it raises. -/
def parse_line (line : DictRow) : Option (Option LogLine) :=
  match line.value "message" with
  | none => some none
  | some message =>
      if startswith message "AUDIT:" = false then some none
      else do
        let connection_from ← line.value "connection_from"
        let line := line.update (← audit_row limit message connection_from)
        match strptime (← line.value "log_time") with
        | none => some none
        | some log_time =>
            if log_time ≤ from_date ∨ log_time > to_date then some none
            else do
              let statement ← line.value "statement"
              if ignored (stripSpace (statement.map fun c => if c = '\n' then ' ' else c)) then
                some none
              else some (some ⟨log_time, line.items.filterKeys (· ≠ "log_time".toList), line.rest⟩)

/-- `_parse_postgres_log`. -/
def parse_postgres_log : List DictRow → Option (List LogLine)
  | [] => some []
  | line :: lines => do
      let kept ← parse_line strptime ignored limit from_date to_date line
      let rest ← parse_postgres_log lines
      some (kept.toList ++ rest)

/-- The statements in a file that is read. -/
def docker_file_logs (text : Str) : Option (List LogLine) := do
  let rows ← dict_rows limit POSTGRES_LOG_HEADERS (text_lines (universal_newlines text))
  parse_postgres_log strptime ignored limit from_date to_date rows

/-- A file in the directory of the logs. -/
structure DockerFile where
  filename : Str
  last_modified : Int
  text : Str

/-- `_fetch_docker_pgaudit_logs`. -/
def fetch_docker_pgaudit_logs : List DockerFile → Option (List LogLine)
  | [] => some []
  | file :: files =>
      if endswith file.filename ".csv" = false ∨ file.last_modified ≤ from_date ∨
          file.last_modified > to_date then
        fetch_docker_pgaudit_logs files
      else do
        let logs ← docker_file_logs strptime ignored limit from_date to_date file.text
        let rest ← fetch_docker_pgaudit_logs files
        some (logs ++ rest)

/-- The statements in the portions of a file that is downloaded. -/
def rds_file_logs : List Str → Option (List LogLine)
  | [] => some []
  | portion :: portions => do
      let rows ← dict_rows limit POSTGRES_LOG_HEADERS (portion.splitOn '\n')
      let logs ← parse_postgres_log strptime ignored limit from_date to_date rows
      let rest ← rds_file_logs portions
      some (logs ++ rest)

/-- A log file of the database, in the portions in which it is downloaded. -/
structure RdsFile where
  LogFileName : Str
  last_written : Int
  portions : List Str

/-- `_fetch_rds_pgaudit_logs`.  The files are those whose name contains `csv`. -/
def fetch_rds_pgaudit_logs : List RdsFile → Option (List LogLine)
  | [] => some []
  | file :: files =>
      if file.last_written / 1000 < from_date / 1000 then fetch_rds_pgaudit_logs files
      else do
        let logs ← rds_file_logs strptime ignored limit from_date to_date file.portions
        let rest ← fetch_rds_pgaudit_logs files
        some (logs ++ rest)

end Reading

end AuditLogs
