import DataWorkspace.Async.Shared
import DataWorkspace.Explorer.Columns

/-!
# Running a query

A task runs a query of the Data Explorer.  Other processes look at the log of the query, and
fetch its results once the log says that they are there.  The log is in one database and the
table of results in another.  The table is written in a transaction, and it is seen when the
transaction commits, at the end of a `with` block.

Any number of tasks and requests run at a time.  `Acts` is what the two databases do.  A
statement of a query may fail at any time.  `fails` says which of the other operations may,
and `selects` which rows a query may give.

The text of a query is one query.
-/

namespace Explorer

open Py Async

/-! ## The log of a query -/

inductive QueryLogState where
  | RUNNING
  | FAILED
  | COMPLETE
deriving DecidableEq

/-- `QueryLog`. -/
structure QueryLog where
  sql : Str
  run_by_user : Nat
  connection : Str
  page : Nat
  page_size : Nat
  state : QueryLogState
  rows : Option Nat
  error : Option Str

/-- `tempory_query_table_name`.  The schema is that of the user. -/
def tempory_query_table_name (suffix : Nat → Str) (user query_log_id : Nat) : Str :=
  "_user_".toList ++ suffix user ++ "._data_explorer_tmp_query_".toList ++ str query_log_id

/-! ## The task -/

/-- The statements of the task. -/
inductive Statement where
  | statement_timeout (timeout : Nat)
  /-- `create or replace function query_plan`. -/
  | query_plan
  /-- `SELECT * FROM (sql) sq LIMIT 0`. -/
  | describe (sql : Str)
  | create_table (table_name : Str) (columns : List ColumnDef)
  /-- `INSERT INTO table SELECT * FROM (sql) sq LIMIT limit OFFSET offset`. -/
  | insert (table_name sql : Str) (limit offset : Nat)
  /-- `SELECT COUNT(*) FROM (sql) sq`. -/
  | count (sql : Str)

/-- What a statement gives. -/
@[reducible] def Reply : Statement → Type
  | .describe _ => List Column
  | .count _ => Nat
  | _ => Unit

/-- The operations. -/
inductive Op where
  | get_query_log (id : Nat)
  | connection_settings (user : Nat) (name : Str)
  | connect
  | execute (statement : Statement)
  | save (id : Nat) (query_log : QueryLog)
  | commit
  | rollback
  /-- `SELECT * FROM table`. -/
  | select (table_name : Str)

/-- The answers.  `none` stands for an exception, and a statement comes with the text of its
exception. -/
@[reducible] def Ans (Row : Type) : Op → Type
  | .get_query_log _ => Option QueryLog
  | .execute statement => Except Str (Reply statement)
  | .rollback => Unit
  | .select _ => Option (List Row)
  | _ => Option Unit

section Programs

variable {Row : Type}

abbrev M (Row α : Type) := Prog (Ans Row) Str α

def await (o : Op) : M Row (Ans Row o) := .perform o

/-- A value, or an exception. -/
def orRaise {α : Type} (v : Option α) : M Row α := .ofOption [] v

/-- `cursor.execute`. -/
def execute (statement : Statement) : M Row (Reply statement) := do
  let r : Except Str (Reply statement) ← await (.execute statement)
  match r with
  | .ok reply => .pure reply
  | .error e => .raise e

/-- A text at the beginning. -/
def literal (text s : Str) : Option Nat := if text.isPrefixOf s then some text.length else none

/-- The log after `_mark_query_log_failed`. -/
def failed_log (query_log : QueryLog) (exc : Str) : QueryLog :=
  { query_log with
    error := some (remove (literal ") sq LIMIT 0") (remove (literal "SELECT * FROM (") exc))
    state := .FAILED }

def mark_query_log_failed (id : Nat) (query_log : QueryLog) (exc : Str) : M Row Unit := do
  orRaise (← await (.save id (failed_log query_log exc)))

/-- `sql.rstrip().rstrip(";")`. -/
def rstripped (sql : Str) : Str :=
  ((sql.reverse.dropWhile isspace).dropWhile (· = ';')).reverse

/-- A character of `s.upper()`, as far as it is a letter of ASCII. -/
def upper (c : Char) : Char := if c = 'ı' then 'I' else c.toUpper

/-- The SQL that is run for the text of a query, and whether it asks for a plan. -/
def query_sql (sql : Str) : Bool × Str :=
  if startswith ((stripSpace (rstripped sql)).map upper) "EXPLAIN" then
    (true, "select query_plan('".toList ++
      (rstripped sql).flatMap (fun c => if c = '\'' then ['\'', '\''] else [c]) ++ "')".toList)
  else (false, rstripped sql)

/-- The text of the exception where the columns are not known. -/
def columns_error (description : List Column) : Str :=
  match description.find? fun c => (TYPE_CODES_REVERSED.lookup c.type_code).isNone with
  | some column => str column.type_code
  | none => "list index out of range"

/-- The rows that are left out before the page. -/
def page_offset (page limit : Nat) : Nat := if page > 1 then (page - 1) * limit else 0

/-- The statements in the `try` block. -/
def statements (query_log : QueryLog) (table_name : Str) (page limit timeout : Nat) :
    M Row Nat := do
  execute (.statement_timeout timeout)
  if (query_sql query_log.sql).1 then execute .query_plan else .pure ()
  let description : List Column ← execute (.describe (query_sql query_log.sql).2)
  let columns ← .ofOption (columns_error description) (prefixed_sql_columns description)
  execute (.create_table table_name columns)
  execute (.insert table_name (query_sql query_log.sql).2 limit (page_offset page limit))
  execute (.count (query_sql query_log.sql).2)

/-- The log of a query that was run. -/
def complete_log (query_log : QueryLog) (row_count : Nat) : QueryLog :=
  { query_log with rows := some row_count, state := .COMPLETE }

/-- The `with` block. -/
def run_statements (id : Nat) (query_log : QueryLog) (table_name : Str)
    (page limit timeout : Nat) : M Row Unit := do
  let r : Except Str Nat ← (statements query_log table_name page limit timeout).attempt
  match r with
  | .error e => mark_query_log_failed id query_log e
  | .ok row_count => orRaise (← await (.save id (complete_log query_log row_count)))

/-- `with user_explorer_connection(…)`, around a block. -/
def user_explorer_connection {α : Type} (body : M Row α) : M Row α := do
  orRaise (← await .connect)
  let r : Except Str α ← body.attempt
  match r with
  | .ok a => do
      orRaise (← await .commit)
      .pure a
  | .error e => do
      await .rollback
      .raise e

variable (suffix : Nat → Str)

/-- `_run_querylog_query`. -/
def run_querylog_query (query_log_id page limit timeout : Nat) : M Row (Option (List Row)) := do
  let query_log ← orRaise (← await (.get_query_log query_log_id))
  orRaise (← await (.connection_settings query_log.run_by_user query_log.connection))
  user_explorer_connection (run_statements query_log_id query_log
    (tempory_query_table_name suffix query_log.run_by_user query_log_id) page limit timeout)
  .pure none

/-! ## Requests -/

/-- `fetch_query_results`. -/
def fetch_query_results (query_log_id : Nat) : M Row (Option (List Row)) := do
  let query_log ← orRaise (← await (.get_query_log query_log_id))
  orRaise (← await (.connection_settings query_log.run_by_user query_log.connection))
  let rows ← user_explorer_connection (do
    orRaise (← await (.select
      (tempory_query_table_name suffix query_log.run_by_user query_log_id))))
  .pure (some rows)

/-- `QueryLogResultView.get`. -/
def query_log_result (query_log_id : Nat) : M Row (Option (List Row)) := do
  let query_log : Option QueryLog ← await (.get_query_log query_log_id)
  match query_log with
  | none => .pure none
  | some query_log =>
      if query_log.state = .COMPLETE then fetch_query_results suffix query_log_id
      else .pure none

end Programs

/-! ## The databases -/

inductive Process where
  | task (query_log_id : Nat)
  | request (n : Nat)
deriving DecidableEq

/-- A connection with its transaction: it is going on, perhaps with a table that is not
committed, or a statement failed, or the connection is lost. -/
inductive Connection (Row : Type) where
  | active (table : Option (Str × List Row))
  | aborted
  | lost

/-- The table that is not committed. -/
def Connection.table {Row : Type} : Connection Row → Option (Str × List Row)
  | .active table => table
  | _ => none

structure World (Row : Type) where
  logs : Nat → QueryLog
  tables : Str → Option (List Row)
  connections : Process → Option (Connection Row)

section Databases

variable {Row : Type}

def page_rows (limit offset : Nat) (rows : List Row) : List Row := (rows.drop offset).take limit

/-- A process has another connection, or none. -/
def World.connection (w : World Row) (i : Process) (c : Option (Connection Row)) : World Row :=
  { w with connections := Function.update w.connections i c }

/-- The table of a transaction is committed. -/
def World.committed (w : World Row) (table : Option (Str × List Row)) : World Row :=
  match table with
  | none => w
  | some (name, rows) => { w with tables := Function.update w.tables name (some rows) }

/-- The statements that leave the tables as they are. -/
def Statement.Reads : Statement → Prop
  | .create_table _ _ => False
  | .insert _ _ _ _ => False
  | _ => True

variable (fails : Process → Op → Prop) (selects : Str → List Row → Prop)

/-- What the databases do. -/
inductive Acts (i : Process) : (o : Op) → World Row → Ans Row o → World Row → Prop where
  | got {w : World Row} {id : Nat} : Acts i (.get_query_log id) w (some (w.logs id)) w
  | not_got {w : World Row} {id : Nat} (h : fails i (.get_query_log id)) :
      Acts i (.get_query_log id) w none w
  | settings {w : World Row} {user : Nat} {name : Str} :
      Acts i (.connection_settings user name) w (some ()) w
  | no_settings {w : World Row} {user : Nat} {name : Str}
      (h : fails i (.connection_settings user name)) :
      Acts i (.connection_settings user name) w none w
  | connected {w : World Row} :
      Acts i .connect w (some ()) (w.connection i (some (.active none)))
  | not_connected {w : World Row} (h : fails i .connect) : Acts i .connect w none w
  | ran {w : World Row} {s : Statement} {reply : Reply s} {table : Option (Str × List Row)}
      (hs : s.Reads) (hc : w.connections i = some (.active table)) :
      Acts i (.execute s) w (.ok reply) w
  | created {w : World Row} {name : Str} {columns : List ColumnDef}
      (hc : w.connections i = some (.active none)) (hname : w.tables name = none) :
      Acts i (.execute (.create_table name columns)) w (.ok ())
        (w.connection i (some (.active (some (name, [])))))
  | inserted {w : World Row} {name sql : Str} {limit offset : Nat} {old rows : List Row}
      (hc : w.connections i = some (.active (some (name, old)))) (hrows : selects sql rows) :
      Acts i (.execute (.insert name sql limit offset)) w (.ok ())
        (w.connection i (some (.active (some (name, old ++ page_rows limit offset rows)))))
  | refused {w : World Row} {s : Statement} {e : Str} :
      Acts i (.execute s) w (.error e) (w.connection i (some .aborted))
  | lost {w : World Row} {s : Statement} {e : Str} :
      Acts i (.execute s) w (.error e) (w.connection i (some .lost))
  | saved {w : World Row} {id : Nat} {query_log : QueryLog} :
      Acts i (.save id query_log) w (some ())
        { w with logs := Function.update w.logs id query_log }
  | not_saved {w : World Row} {id : Nat} {query_log : QueryLog}
      (h : fails i (.save id query_log)) : Acts i (.save id query_log) w none w
  | committed {w : World Row} {table : Option (Str × List Row)}
      (hc : w.connections i = some (.active table)) :
      Acts i .commit w (some ()) ((w.connection i none).committed table)
  /-- A transaction with an error is rolled back. -/
  | rolled_back {w : World Row} (hc : w.connections i = some .aborted) :
      Acts i .commit w (some ()) (w.connection i none)
  | commit_lost {w : World Row} (hc : w.connections i = some .lost) :
      Acts i .commit w none (w.connection i none)
  | not_committed {w : World Row} (h : fails i .commit) :
      Acts i .commit w none (w.connection i none)
  | rollback {w : World Row} : Acts i .rollback w () (w.connection i none)
  | selected {w : World Row} {name : Str} : Acts i (.select name) w (w.tables name) w
  | not_selected {w : World Row} {name : Str} (h : fails i (.select name)) :
      Acts i (.select name) w none w

/-- The queries that were submitted, each with its task, and the requests. -/
structure Submitted where
  query_log : Nat → QueryLog
  timeout : Nat
  /-- The query that a request looks at. -/
  requested : Nat → Nat

variable (suffix : Nat → Str) (submitted : Submitted)

def Submitted.program : Process → M Row (Option (List Row))
  | .task id => run_querylog_query suffix id (submitted.query_log id).page
      (submitted.query_log id).page_size submitted.timeout
  | .request n => query_log_result suffix (submitted.requested n)

/-- The tasks and the requests. -/
def processes : Shared (Ans Row) Str (Option (List Row)) Process (World Row) where
  prog := submitted.program suffix
  act := Acts fails selects

def Submitted.table_name (id : Nat) : Str :=
  tempory_query_table_name suffix (submitted.query_log id).run_by_user id

/-- `submit_query_for_execution` for every query, and no table yet. -/
structure Submitted.Start (w : World Row) : Prop where
  logs : w.logs = submitted.query_log
  running : ∀ id, (submitted.query_log id).state = .RUNNING
  tables : ∀ id, w.tables (submitted.table_name suffix id) = none
  connections : ∀ i, w.connections i = none

def Submitted.IsPage (id : Nat) (rows : List Row) : Prop :=
  ∃ all, selects (query_sql (submitted.query_log id).sql).2 all ∧
    rows = page_rows (submitted.query_log id).page_size
      (page_offset (submitted.query_log id).page (submitted.query_log id).page_size) all

end Databases

end Explorer
