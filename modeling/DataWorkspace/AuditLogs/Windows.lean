import DataWorkspace.AuditLogs.Portions

/-!
# Windows of the audit log

A run of the task takes the time, and records the statements whose time is after the end of
the last window and not after its own.  The end of the last window is in the cache.  Without
it the window is five minutes long.  A statement that is recorded already is not recorded
again: a unique index is on its role, its time and a hash of its text.

Which files are read is decided by the time they were modified.  In a container a file is
read only if that time is in the window too.  So a file that is written to after the window
has closed, but before it is looked at, is left out, and the next window begins where this
one ended.

An `Action` is what a database or the task does, and they come in any order.  `Careful` says
when an action loses nothing.  In runs of careful actions every statement between the first
run of the task and the last one is recorded once (`recorded_once`).  A file that is modified
late loses one (`modified_late`).
-/

namespace AuditLogs

open Py

/-! ## Files -/

/-- A log file with the rows that are read from it. -/
structure File where
  name : Str
  last_modified : Int
  rows : List DictRow

/-- `PGAUDIT_LOG_TYPE`. -/
inductive LogType where
  | docker
  | rds
deriving DecidableEq

/-- The file is read for a window. -/
def LogType.selects (from_date to_date : Int) (file : File) : LogType → Bool
  | .docker => endswith file.name ".csv" && decide (from_date < file.last_modified) &&
      decide (file.last_modified ≤ to_date)
  | .rds => decide (from_date / 1000 ≤ file.last_modified / 1000)

section Task

variable (strptime : Str → Option Int) (ignored : Str → Bool) (limit : Nat)

/-- The statements of the files that are read. -/
def fetch (type : LogType) (from_date to_date : Int) : List File → Option (List LogLine)
  | [] => some []
  | file :: files =>
      if type.selects from_date to_date file then do
        let logs ← parse_postgres_log strptime ignored limit from_date to_date file.rows
        let rest ← fetch type from_date to_date files
        some (logs ++ rest)
      else fetch type from_date to_date files

/-! ## The state -/

/-- A row of `ToolQueryAuditLog`. -/
structure AuditRow where
  rolename : Option Str
  timestamp : Int
  query_sql : Option Str
  database_name : Option Str
  connection_from : Option Str
deriving DecidableEq

def LogLine.row (l : LogLine) : AuditRow where
  rolename := (l.values.get? "user_name").join
  timestamp := l.log_time
  query_sql := (l.values.get? "statement").join
  database_name := (l.values.get? "database_name").join
  connection_from := (l.values.get? "connection_from").join.map fun s => (partition ":" s).1

/-- What the unique index is on.  The text of the statement is hashed. -/
def AuditRow.key (md5 : Option Str → Nat) (r : AuditRow) : Option Str × Int × Nat :=
  (r.rolename, r.timestamp, md5 r.query_sql)

variable (md5 : Option Str → Nat)

/-- The statement is recorded, unless the index has it. -/
def record (rows : List AuditRow) (l : LogLine) : List AuditRow :=
  if l.row.key md5 ∈ rows.map (AuditRow.key md5) then rows else rows ++ [l.row]

/-- The log files, the end of the last window in the cache, and what is recorded.  Of the
runs of the task, the times of the first one and of the last one. -/
structure State where
  files : List File
  query_tool_logs_last_run : Option Int
  recorded : List AuditRow
  runs : Option (Int × Int)

/-- The task did not run so far, and nothing is recorded. -/
def State.Initial (s : State) : Prop := s.runs = none ∧ s.recorded = []

/-- Where the window of a run begins. -/
def State.from_date (s : State) (now : Int) : Int :=
  s.query_tool_logs_last_run.getD (now - 5 * 60 * 1000000)

def append (name : Str) (last_modified : Int) (rows : List DictRow) : List File → List File
  | [] => [⟨name, last_modified, rows⟩]
  | file :: files =>
      if file.name = name then ⟨name, last_modified, file.rows ++ rows⟩ :: files
      else file :: append name last_modified rows files

/-- What happens: a database writes, the value in the cache is gone, or the task runs.  It
may fail after some of the statements.  `knows` says whether the database and the user of
a statement are found. -/
inductive Action where
  | write (name : Str) (last_modified : Int) (rows : List DictRow)
  | expire
  | sync (now : Int) (knows : LogLine → Bool) (failsAfter : Option Nat)

/-- The times of the runs after a run. -/
def State.ran (s : State) (now : Int) : Option (Int × Int) :=
  some ((s.runs.map Prod.fst).getD now, now)

variable (type : LogType)

/-- `_do_sync_tool_query_logs`. -/
def sync (s : State) (now : Int) (knows : LogLine → Bool) (failsAfter : Option Nat) : State :=
  match fetch strptime ignored limit type (s.from_date now) now s.files with
  | none => { s with runs := s.ran now }
  | some logs =>
      match failsAfter with
      | none =>
          { s with
            query_tool_logs_last_run := some now
            recorded := (logs.filter knows).foldl (record md5) s.recorded
            runs := s.ran now }
      | some n =>
          { s with
            recorded := ((logs.take n).filter knows).foldl (record md5) s.recorded
            runs := s.ran now }

def State.next (s : State) : Action → State
  | .write name last_modified rows => { s with files := append name last_modified rows s.files }
  | .expire => { s with query_tool_logs_last_run := none }
  | .sync now knows failsAfter =>
      sync strptime ignored limit md5 type s now knows failsAfter

/-! ## Careful actions -/

/-- The statement is read from the row, in a window that it is in. -/
def IsLine (row : DictRow) (l : LogLine) : Prop :=
  ∃ from_date to_date, keptLine strptime ignored limit from_date to_date row = some l

/-- The statement is in a file. -/
def InFiles (files : List File) (l : LogLine) : Prop :=
  ∃ file ∈ files, ∃ row ∈ file.rows, IsLine strptime ignored limit row l

/-- A run takes a statement of a file: it is in the window, the file is read and so are all
the others, the statement is known, and the index has no other in its place. -/
structure Takes (s : State) (now : Int) (knows : LogLine → Bool) (failsAfter : Option Nat)
    (file : File) (l : LogLine) : Prop where
  window : s.from_date now < l.log_time
  selects : type.selects (s.from_date now) now file = true
  knows : knows l = true
  index : ∀ l', InFiles strptime ignored limit s.files l' → l'.row.key md5 = l.row.key md5 →
    l'.row = l.row
  raises : ∀ file ∈ s.files, type.selects (s.from_date now) now file = true →
    ∀ row ∈ file.rows, ¬ Raises strptime ignored limit (s.from_date now) now row
  fails : failsAfter = none

/-- An action loses nothing.  After the first run of the task, no statement is written with
a time that is not after the last run.  The runs are in the order of their times, and a run
takes every statement with a time since the last one. -/
def Careful (s : State) : Action → Prop
  | .write _ _ rows => ∀ first last, s.runs = some (first, last) →
      ∀ row ∈ rows, ∀ l, IsLine strptime ignored limit row l → last < l.log_time
  | .expire => True
  | .sync now knows failsAfter => ∀ first last, s.runs = some (first, last) →
      last ≤ now ∧ ∀ file ∈ s.files, ∀ row ∈ file.rows, ∀ l,
        IsLine strptime ignored limit row l → last < l.log_time → l.log_time ≤ now →
          Takes strptime ignored limit md5 type s now knows failsAfter file l

/-- The states of the runs whose actions are all careful. -/
inductive Reachable (s₀ : State) : State → Prop where
  | init : Reachable s₀ s₀
  | step {s : State} (a : Action) : Reachable s₀ s →
      Careful strptime ignored limit md5 type s a →
      Reachable s₀ (s.next strptime ignored limit md5 type a)

/-- Every statement since the first run of the task, up to the last one, is recorded once. -/
def RecordedOnce (s : State) : Prop :=
  ∀ first last, s.runs = some (first, last) → ∀ l, InFiles strptime ignored limit s.files l →
    first < l.log_time → l.log_time ≤ last → s.recorded.count l.row = 1

end Task

section Proofs

variable {strptime : Str → Option Int} {ignored : Str → Bool} {limit : Nat}
  {md5 : Option Str → Nat} {type : LogType}

/-! ## What is read -/

theorem mem_fetch {from_date to_date : Int} {files : List File} {logs : List LogLine}
    (h : fetch strptime ignored limit type from_date to_date files = some logs) (l : LogLine) :
    l ∈ logs ↔ ∃ file ∈ files, type.selects from_date to_date file = true ∧
      ∃ row ∈ file.rows, keptLine strptime ignored limit from_date to_date row = some l := by
  induction files generalizing logs with
  | nil =>
      cases h
      simp
  | cons file files ih =>
      rw [fetch] at h
      split at h
      next hselects =>
        simp only [Option.bind_eq_bind, Option.bind_eq_some_iff] at h
        obtain ⟨kept, hkept, rest, hrest, h⟩ := h
        cases h
        have hnot : ∀ row ∈ file.rows, ¬ Raises strptime ignored limit from_date to_date row := by
          intro row hrow hraises
          have hnone := (@parse_postgres_log_eq strptime ignored limit from_date to_date
            file.rows).1 ⟨row, hrow, hraises⟩
          exact absurd (hkept.symm.trans hnone) (by simp)
        have hall := hkept.symm.trans ((parse_postgres_log_eq file.rows).2 hnot)
        rw [Option.some_inj] at hall
        rw [List.mem_append, ih hrest, hall]
        simp [hselects]
      next hselects =>
        rw [ih h]
        simp [hselects]

theorem fetch_isSome {from_date to_date : Int} {files : List File}
    (h : ∀ file ∈ files, type.selects from_date to_date file = true →
      ∀ row ∈ file.rows, ¬ Raises strptime ignored limit from_date to_date row) :
    ∃ logs, fetch strptime ignored limit type from_date to_date files = some logs := by
  induction files with
  | nil => exact ⟨[], rfl⟩
  | cons file files ih =>
      obtain ⟨rest, hrest⟩ := ih fun f hf => h f (List.mem_cons_of_mem _ hf)
      rw [fetch, hrest]
      split
      next hselects =>
        rw [(parse_postgres_log_eq file.rows).2 (h file List.mem_cons_self hselects)]
        exact ⟨_, rfl⟩
      next => exact ⟨rest, rfl⟩

def DockerFile.Reads (limit : Nat) (f : DockerFile) (file : File) : Prop :=
  file.name = f.filename ∧ file.last_modified = f.last_modified ∧
    dict_rows limit POSTGRES_LOG_HEADERS (text_lines (universal_newlines f.text)) = some file.rows

def RdsFile.Reads (limit : Nat) (f : RdsFile) (file : File) : Prop :=
  file.name = f.LogFileName ∧ file.last_modified = f.last_written ∧
    ∃ rows, file.rows = rows.flatten ∧ List.Forall₂ (fun portion rows =>
      dict_rows limit POSTGRES_LOG_HEADERS (portion.splitOn '\n') = some rows) f.portions rows

theorem fetch_docker_pgaudit_logs_eq {from_date to_date : Int} {dockerFiles : List DockerFile}
    {files : List File} (h : List.Forall₂ (DockerFile.Reads limit) dockerFiles files) :
    fetch_docker_pgaudit_logs strptime ignored limit from_date to_date dockerFiles =
      fetch strptime ignored limit .docker from_date to_date files := by
  induction h with
  | nil => rfl
  | @cons f file dockerFiles files hread _ ih =>
      obtain ⟨hname, htime, hrows⟩ := hread
      have hselects : LogType.docker.selects from_date to_date file = true ↔
          ¬ (endswith f.filename ".csv" = false ∨ f.last_modified ≤ from_date ∨
            f.last_modified > to_date) := by
        rw [LogType.selects, hname, htime]
        simp only [Bool.and_eq_true, decide_eq_true_eq, not_or, Bool.not_eq_false, Int.not_le,
          Int.not_lt, gt_iff_lt, and_assoc]
      rw [fetch_docker_pgaudit_logs, fetch, ih]
      split
      next hskip => rw [if_neg fun hs => hselects.mp hs hskip]
      next hread => rw [if_pos (hselects.mpr hread), docker_file_logs, hrows]; rfl

theorem rds_file_logs_rows {from_date to_date : Int} {portions : List Str}
    {rows : List (List DictRow)} (h : List.Forall₂ (fun portion rows =>
      dict_rows limit POSTGRES_LOG_HEADERS (portion.splitOn '\n') = some rows) portions rows) :
    rds_file_logs strptime ignored limit from_date to_date portions =
      parse_postgres_log strptime ignored limit from_date to_date rows.flatten := by
  induction h with
  | nil => rfl
  | @cons portion rows' portions rows hrows _ ih =>
      rw [rds_file_logs, hrows, ih, List.flatten_cons, parse_postgres_log_append]
      simp only [Option.bind_eq_bind, Option.bind_some]
      refine Option.bind_congr fun logs _ => ?_
      cases parse_postgres_log strptime ignored limit from_date to_date rows.flatten with
      | none => rfl
      | some rest => rfl

theorem fetch_rds_pgaudit_logs_eq {from_date to_date : Int} {rdsFiles : List RdsFile}
    {files : List File} (h : List.Forall₂ (RdsFile.Reads limit) rdsFiles files) :
    fetch_rds_pgaudit_logs strptime ignored limit from_date to_date rdsFiles =
      fetch strptime ignored limit .rds from_date to_date files := by
  induction h with
  | nil => rfl
  | @cons f file rdsFiles files hread _ ih =>
      obtain ⟨-, htime, rows, hrows, hportions⟩ := hread
      rw [fetch_rds_pgaudit_logs, fetch, ih, rds_file_logs_rows hportions, ← hrows,
        LogType.selects, htime]
      split
      next hskip => rw [if_neg (by simpa using hskip)]
      next hread => rw [if_pos (by simpa using hread)]

theorem inFiles_cons {file : File} {files : List File} {l : LogLine} :
    InFiles strptime ignored limit (file :: files) l ↔
      (∃ row ∈ file.rows, IsLine strptime ignored limit row l) ∨
        InFiles strptime ignored limit files l := by
  simp only [InFiles, List.mem_cons, exists_eq_or_imp]

theorem inFiles_append {name : Str} {last_modified : Int} {rows : List DictRow}
    {files : List File} {l : LogLine} :
    InFiles strptime ignored limit (append name last_modified rows files) l ↔
      InFiles strptime ignored limit files l ∨ ∃ row ∈ rows, IsLine strptime ignored limit row l := by
  induction files with
  | nil =>
      rw [append, inFiles_cons]
      exact or_comm
  | cons file files ih =>
      rw [append]
      split
      next =>
        rw [inFiles_cons, inFiles_cons]
        simp only [List.mem_append, or_and_right, exists_or]
        exact or_right_comm
      next => rw [inFiles_cons, inFiles_cons, ih, or_assoc]

/-! ## What is recorded -/

theorem records_spec {logs : List LogLine} :
    ∀ {rows : List AuditRow}, (rows.map (AuditRow.key md5)).Nodup →
      ((logs.foldl (record md5) rows).map (AuditRow.key md5)).Nodup ∧
      (∀ r ∈ rows, r ∈ logs.foldl (record md5) rows) ∧
      (∀ r ∈ logs.foldl (record md5) rows, r ∈ rows ∨ ∃ l ∈ logs, l.row = r) ∧
      ∀ l ∈ logs, l.row.key md5 ∈ (logs.foldl (record md5) rows).map (AuditRow.key md5) := by
  induction logs with
  | nil => exact fun h => ⟨h, fun _ hr => hr, fun _ hr => .inl hr, fun _ hl => nomatch hl⟩
  | cons l logs ih =>
      intro rows hnodup
      have hstep : ((record md5 rows l).map (AuditRow.key md5)).Nodup ∧
          (∀ r ∈ rows, r ∈ record md5 rows l) ∧
          (∀ r ∈ record md5 rows l, r ∈ rows ∨ l.row = r) ∧
          ∃ r ∈ record md5 rows l, r.key md5 = l.row.key md5 := by
        rw [record]
        split
        next hmem =>
          exact ⟨hnodup, fun _ hr => hr, fun _ hr => .inl hr, List.mem_map.mp hmem⟩
        next hmem =>
          refine ⟨?_, fun r hr => List.mem_append_left _ hr, fun r hr => ?_,
            l.row, List.mem_append_right _ List.mem_cons_self, rfl⟩
          · rw [List.map_append, List.map_singleton, List.nodup_append]
            exact ⟨hnodup, List.nodup_singleton _, by
              intro a ha b hb hab
              rw [List.mem_singleton] at hb
              exact hmem (hb ▸ hab ▸ ha)⟩
          · rcases List.mem_append.mp hr with hr | hr
            · exact .inl hr
            · exact .inr (List.mem_singleton.mp hr).symm
      obtain ⟨hnodup', hkeep, hfrom, r, hr, hkey⟩ := hstep
      obtain ⟨h₁, h₂, h₃, h₄⟩ := ih hnodup'
      refine ⟨h₁, fun r hr => h₂ r (hkeep r hr), fun r hr => ?_, fun l' hl' => ?_⟩
      · rcases h₃ r hr with hr | ⟨l', hl', rfl⟩
        · rcases hfrom r hr with hr | rfl
          · exact .inl hr
          · exact .inr ⟨l, List.mem_cons_self, rfl⟩
        · exact .inr ⟨l', List.mem_cons_of_mem _ hl', rfl⟩
      · rcases List.mem_cons.mp hl' with rfl | hl'
        · exact List.mem_map.mpr ⟨r, h₂ r hr, hkey⟩
        · exact h₄ l' hl'

/-- What every careful action keeps. -/
structure Inv (strptime : Str → Option Int) (ignored : Str → Bool) (limit : Nat)
    (md5 : Option Str → Nat) (s : State) : Prop where
  nodup : (s.recorded.map (AuditRow.key md5)).Nodup
  fromFiles : ∀ r ∈ s.recorded, ∃ l, InFiles strptime ignored limit s.files l ∧ l.row = r
  complete : ∀ first last, s.runs = some (first, last) →
    ∀ l, InFiles strptime ignored limit s.files l → first < l.log_time → l.log_time ≤ last →
      l.row ∈ s.recorded

theorem recorded_spec {s : State} (h : Inv strptime ignored limit md5 s) {from_date to_date : Int}
    {logs : List LogLine}
    (hlogs : fetch strptime ignored limit type from_date to_date s.files = some logs)
    (some_logs : List LogLine) (hsome : ∀ l ∈ some_logs, l ∈ logs) :
    ((some_logs.foldl (record md5) s.recorded).map (AuditRow.key md5)).Nodup ∧
    (∀ r ∈ some_logs.foldl (record md5) s.recorded,
      ∃ l, InFiles strptime ignored limit s.files l ∧ l.row = r) ∧
    (∀ r ∈ s.recorded, r ∈ some_logs.foldl (record md5) s.recorded) ∧
    ∀ l ∈ some_logs, (∀ l', InFiles strptime ignored limit s.files l' →
      l'.row.key md5 = l.row.key md5 → l'.row = l.row) →
        l.row ∈ some_logs.foldl (record md5) s.recorded := by
  obtain ⟨hnodup, hkeep, hfrom, hkeys⟩ := @records_spec md5 some_logs _ h.nodup
  have hfiles : ∀ r ∈ some_logs.foldl (record md5) s.recorded,
      ∃ l, InFiles strptime ignored limit s.files l ∧ l.row = r := by
    intro r hr
    rcases hfrom r hr with hr | ⟨l, hl, rfl⟩
    · exact h.fromFiles r hr
    · obtain ⟨file, hfile, -, row, hrow, hkept⟩ := (mem_fetch hlogs l).mp (hsome l hl)
      exact ⟨l, ⟨file, hfile, row, hrow, from_date, to_date, hkept⟩, rfl⟩
  refine ⟨hnodup, hfiles, hkeep, fun l hl hindex => ?_⟩
  obtain ⟨r, hr, hkey⟩ := List.mem_map.mp (hkeys l hl)
  obtain ⟨l', hl', rfl⟩ := hfiles r hr
  exact hindex l' hl' hkey ▸ hr

theorem sync_spec (type : LogType) {s : State} (h : Inv strptime ignored limit md5 s) (now : Int)
    (knows : LogLine → Bool) (failsAfter : Option Nat) :
    (sync strptime ignored limit md5 type s now knows failsAfter).files = s.files ∧
    (sync strptime ignored limit md5 type s now knows failsAfter).runs = s.ran now ∧
    ((sync strptime ignored limit md5 type s now knows failsAfter).recorded.map
      (AuditRow.key md5)).Nodup ∧
    (∀ r ∈ (sync strptime ignored limit md5 type s now knows failsAfter).recorded,
      ∃ l, InFiles strptime ignored limit s.files l ∧ l.row = r) ∧
    (∀ r ∈ s.recorded,
      r ∈ (sync strptime ignored limit md5 type s now knows failsAfter).recorded) ∧
    ∀ file ∈ s.files, ∀ row ∈ file.rows, ∀ l, IsLine strptime ignored limit row l →
      l.log_time ≤ now → Takes strptime ignored limit md5 type s now knows failsAfter file l →
        l.row ∈ (sync strptime ignored limit md5 type s now knows failsAfter).recorded := by
  cases hfetch : fetch strptime ignored limit type (s.from_date now) now s.files with
  | none =>
      rw [sync, hfetch]
      refine ⟨rfl, rfl, h.nodup, h.fromFiles, fun _ hr => hr, ?_⟩
      intro file hfile row hrow l hl hnow htakes
      obtain ⟨logs, hlogs⟩ := fetch_isSome htakes.raises
      exact absurd (hfetch.symm.trans hlogs) (by simp)
  | some logs =>
      rw [sync, hfetch]
      cases failsAfter with
      | some n =>
          obtain ⟨h₁, h₂, h₃, -⟩ := recorded_spec h hfetch ((logs.take n).filter knows)
            fun l hl => List.mem_of_mem_take (List.mem_of_mem_filter hl)
          refine ⟨rfl, rfl, h₁, h₂, h₃, ?_⟩
          intro file hfile row hrow l hl hnow htakes
          exact absurd htakes.fails (by simp)
      | none =>
          obtain ⟨h₁, h₂, h₃, h₄⟩ := recorded_spec h hfetch (logs.filter knows)
            fun l hl => List.mem_of_mem_filter hl
          refine ⟨rfl, rfl, h₁, h₂, h₃, ?_⟩
          intro file hfile row hrow l hl hnow htakes
          obtain ⟨from_date, to_date, hkept⟩ := hl
          refine h₄ l (List.mem_filter.mpr ⟨(mem_fetch hfetch l).mpr ?_, htakes.knows⟩) htakes.index
          exact ⟨file, hfile, htakes.selects, row, hrow, keptLine_window hkept htakes.window hnow⟩

/-! ## Runs -/

theorem inv_next {s : State} (h : Inv strptime ignored limit md5 s) {a : Action}
    (ha : Careful strptime ignored limit md5 type s a) :
    Inv strptime ignored limit md5 (s.next strptime ignored limit md5 type a) := by
  cases a with
  | expire => exact ⟨h.nodup, h.fromFiles, h.complete⟩
  | write name last_modified rows =>
      refine ⟨h.nodup, fun r hr => ?_, fun first last hruns l hl hfirst hlast => ?_⟩
      · obtain ⟨l, hl, hrow⟩ := h.fromFiles r hr
        exact ⟨l, inFiles_append.mpr (.inl hl), hrow⟩
      · rcases inFiles_append.mp hl with hl | ⟨row, hrow, hl⟩
        · exact h.complete first last hruns l hl hfirst hlast
        · have hlate : last < l.log_time := ha first last hruns row hrow l hl
          omega
  | sync now knows failsAfter =>
      obtain ⟨hfiles, hruns, hnodup, hfrom, hkeep, htakes⟩ :=
        sync_spec type h now knows failsAfter
      refine ⟨hnodup, ?_, ?_⟩
      · show ∀ r ∈ (sync strptime ignored limit md5 type s now knows failsAfter).recorded, _
        rw [State.next, hfiles]
        exact hfrom
      · intro first last hlast l hl hafter hbefore
        rw [State.next, hruns, State.ran, Option.some_inj, Prod.mk.injEq] at hlast
        rw [State.next, hfiles] at hl
        obtain ⟨rfl, rfl⟩ := hlast
        cases hs : s.runs with
        | none =>
            rw [hs] at hafter
            simp only [Option.map_none, Option.getD_none] at hafter
            omega
        | some times =>
            obtain ⟨first, last⟩ := times
            rw [hs] at hafter
            obtain ⟨-, hall⟩ := ha first last hs
            rcases Int.lt_or_le last l.log_time with hnew | hold
            · obtain ⟨file, hfile, row, hrow, hline⟩ := hl
              exact htakes file hfile row hrow l hline hbefore
                (hall file hfile row hrow l hline hnew hbefore)
            · exact hkeep _ (h.complete first last hs l hl hafter hold)

theorem inv_of_reachable {s₀ s : State} (h₀ : s₀.Initial)
    (h : Reachable strptime ignored limit md5 type s₀ s) : Inv strptime ignored limit md5 s := by
  induction h with
  | init =>
      obtain ⟨hruns, hrecorded⟩ := h₀
      constructor
      · rw [hrecorded]
        exact List.nodup_nil
      · rw [hrecorded]
        exact fun r hr => absurd hr List.not_mem_nil
      · intro first last h
        exact absurd (hruns.symm.trans h) (by simp)
  | step a _ ha ih => exact inv_next ih ha

/-- In runs of careful actions every statement since the first run of the task, up to the
last one, is recorded once. -/
theorem recorded_once {s₀ s : State} (h₀ : s₀.Initial)
    (h : Reachable strptime ignored limit md5 type s₀ s) :
    RecordedOnce strptime ignored limit s := by
  have hinv := inv_of_reachable h₀ h
  intro first last hruns l hl hfirst hlast
  exact List.count_eq_one_of_mem (List.Nodup.of_map _ hinv.nodup)
    (hinv.complete first last hruns l hl hfirst hlast)

end Proofs

/-! ## A file that is modified late -/

/-- The statement of the record on one line, by a user that is known. -/
def exampleRows : List DictRow := [oneLine.inFile]

/-- No run so far. -/
def emptyState : State := ⟨[], none, [], none⟩

/-- The task runs five minutes before the statement and a second after it, and five minutes
later again.  The file with the statement was modified two seconds after it. -/
def lateActions : List Action :=
  [.sync 1607450101400000 (fun _ => true) none,
    .write "postgresql.csv" 1607450402400000 exampleRows,
    .sync 1607450401400000 (fun _ => true) none,
    .sync 1607450701400000 (fun _ => true) none]

def after (type : LogType) (actions : List Action) : State :=
  actions.foldl (State.next exampleTime (fun _ => false) 2000000 (fun _ => 0) type) emptyState

theorem eq_of_exampleRows {row : DictRow} (hrow : row ∈ exampleRows) {l : LogLine}
    (h : IsLine exampleTime (fun _ => false) 2000000 row l) :
    l.log_time = 1607450400400000 ∧
      keptLine exampleTime (fun _ => false) 2000000 1607450400399999 1607450400400000
        oneLine.inFile = some l := by
  obtain ⟨from_date, to_date, hkept⟩ := h
  rw [List.mem_singleton.mp hrow] at hkept
  have htime : l.log_time = 1607450400400000 := by
    obtain ⟨_, _, _, time, _, _, _, _, _, _, htime, _⟩ := keptLine_eq_some_iff.mp hkept
    rw [exampleTime] at htime
    split at htime
    next => exact (Option.some.inj htime).symm
    next => cases htime
  exact ⟨htime, keptLine_window hkept (by omega) (by omega)⟩

theorem exists_exampleRows : ∃ l, IsLine exampleTime (fun _ => false) 2000000 oneLine.inFile l := by
  have hsome : (keptLine exampleTime (fun _ => false) 2000000 1607450400399999 1607450400400000
      oneLine.inFile).isSome = true := by decide +kernel
  obtain ⟨l, hl⟩ := Option.isSome_iff_exists.mp hsome
  exact ⟨l, _, _, hl⟩

/-- The task runs five minutes before the statement and a second after it. -/
def timelyActions : List Action :=
  [.sync 1607450101400000 (fun _ => true) none,
    .write "postgresql.csv" 1607450402400000 exampleRows,
    .sync 1607450401400000 (fun _ => true) none]

theorem reachable_timely : Reachable exampleTime (fun _ => false) 2000000 (fun _ => 0) .rds
    emptyState (after .rds timelyActions) := by
  have hfirst : Reachable exampleTime (fun _ => false) 2000000 (fun _ => 0) .rds emptyState
      (after .rds (timelyActions.take 1)) := by
    refine .step (.sync 1607450101400000 (fun _ => true) none) .init fun first last hruns => ?_
    exact absurd hruns (by simp [emptyState])
  have hwrite : Reachable exampleTime (fun _ => false) 2000000 (fun _ => 0) .rds emptyState
      (after .rds (timelyActions.take 2)) := by
    refine .step (.write "postgresql.csv" 1607450402400000 exampleRows) hfirst ?_
    intro first last hruns row hrow l hl
    cases hruns
    rw [(eq_of_exampleRows hrow hl).1]
    decide
  refine .step (.sync 1607450401400000 (fun _ => true) none) hwrite ?_
  intro first last hruns
  cases hruns
  refine ⟨by decide, fun file hfile row hrow l hl hnew hold => ?_⟩
  obtain rfl : file = ⟨"postgresql.csv", 1607450402400000, exampleRows⟩ :=
    List.mem_singleton.mp hfile
  obtain ⟨htime, hkept⟩ := eq_of_exampleRows hrow hl
  refine ⟨?_, by decide, rfl, ?_, ?_, rfl⟩
  · rw [htime]
    decide
  · rintro l' ⟨file', hfile', row', hrow', hl'⟩ -
    rw [List.mem_singleton.mp hfile'] at hrow'
    have hsame := (eq_of_exampleRows hrow' hl').2
    rw [hkept, Option.some_inj] at hsame
    rw [hsame]
  · intro file' hfile' _ row' hrow' hraises
    rw [List.mem_singleton.mp hfile'] at hrow'
    rw [Raises, List.mem_singleton.mp hrow'] at hraises
    have hsome : (parse_line exampleTime (fun _ => false) 2000000 1607450101400000
        1607450401400000 oneLine.inFile).isSome = true := by decide +kernel
    exact absurd (hsome.symm.trans (congrArg Option.isSome hraises)) (by simp)

/-- Downloaded, the file is read although it was modified after the window. -/
theorem recorded_once_timely :
    RecordedOnce exampleTime (fun _ => false) 2000000 (after .rds timelyActions) :=
  recorded_once ⟨rfl, rfl⟩ reachable_timely

/-- The statement is never recorded. -/
theorem modified_late :
    ¬ RecordedOnce exampleTime (fun _ => false) 2000000 (after .docker lateActions) := by
  intro h
  obtain ⟨l, hl⟩ := exists_exampleRows
  have htime := (eq_of_exampleRows List.mem_cons_self hl).1
  have hempty : (after .docker lateActions).recorded = [] := by decide +kernel
  have hruns : (after .docker lateActions).runs = some (1607450101400000, 1607450701400000) := by
    decide +kernel
  have hfiles : (after .docker lateActions).files =
      [⟨"postgresql.csv", 1607450402400000, exampleRows⟩] := rfl
  have hcount := h _ _ hruns l (by
    rw [hfiles]
    exact ⟨_, List.mem_cons_self, _, List.mem_cons_self, hl⟩) (by omega) (by omega)
  rw [hempty] at hcount
  exact absurd hcount (by simp)

end AuditLogs
