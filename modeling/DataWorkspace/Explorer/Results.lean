import DataWorkspace.Explorer.Queries
import DataWorkspace.Py.Digits

/-!
# Results and the state of a query

The task saves the log as complete inside the `with` block, so before the table of results is
committed.  Whoever looks at the log in between is told of results that are not there, and if
the commit fails they never are.  Only the statements of the query are inside the `try`
block.  Where the credentials or the connection are refused, the log stays as it is.

`Careful` leaves out the steps that lead there.  In runs of the other steps the results of a
query are there whenever its log is seen to be complete, and a task that is over leaves the
log complete with its results, or failed without (`results_correct`).

`Stage` says where a task is, and `At` what this means for the databases.
-/

namespace Explorer

open Py Async

/-! ## Where a task is -/

inductive Point where
  | start
  | connected
  | created
  | inserted
  /-- A statement failed. -/
  | erred
  | failed
  | complete
  | finished (complete : Bool)
  /-- An operation failed that must not fail. -/
  | broken
deriving DecidableEq

/-- Where a task is, and the log it has read. -/
structure Stage where
  query_log : Option QueryLog
  point : Point

/-- The task is at another point. -/
def Stage.to (s : Stage) (p : Point) : Stage := { s with point := p }

@[simp] theorem Stage.to_point (s : Stage) (p : Point) : (s.to p).point = p := rfl

@[simp] theorem Stage.to_query_log (s : Stage) (p : Point) :
    (s.to p).query_log = s.query_log := rfl

/-- Two logs are of the same query. -/
structure SameQuery (a b : QueryLog) : Prop where
  sql : a.sql = b.sql
  run_by_user : a.run_by_user = b.run_by_user

section Stages

variable {Row : Type}

def Statement.point : Statement → Point → Point
  | .create_table _ _, _ => .created
  | .insert _ _ _ _, _ => .inserted
  | _, point => point

/-- The point after a log is saved. -/
def QueryLogState.point : QueryLogState → Point
  | .COMPLETE => .complete
  | _ => .failed

/-- The stage after an event of a task that is not broken. -/
@[grind =]
def Stage.next (s : Stage) : Event (Ans Row) → Stage
  | ⟨.get_query_log _, some query_log⟩ => ⟨some query_log, s.point⟩
  | ⟨.connect, some _⟩ => s.to .connected
  | ⟨.connection_settings _ _, some _⟩ => s
  | ⟨.execute statement, .ok _⟩ => s.to (statement.point s.point)
  | ⟨.execute _, .error _⟩ => s.to .erred
  | ⟨.save _ query_log, some _⟩ => s.to query_log.state.point
  | ⟨.commit, some _⟩ => s.to (.finished (s.point = .complete))
  | ⟨.commit, none⟩ => s.to (if s.point = .complete then .broken else .finished false)
  | ⟨.rollback, _⟩ => s
  | _ => s.to .broken

def Stage.adv (s : Stage) (e : Event (Ans Row)) : Stage :=
  if s.point = .broken then s else s.next e

/-- The points at which a statement is run, for the table and the query of a log. -/
def Statement.InPoint (name sql : Str) (limit offset : Nat) : Statement → Point → Prop
  | .create_table name' _, point => name' = name ∧ point = .connected
  | .insert name' sql' limit' offset', point =>
      name' = name ∧ sql' = sql ∧ limit' = limit ∧ offset' = offset ∧ point = .created
  | .count _, point => point = .inserted
  | _, point => point = .connected

variable (suffix : Nat → Str) (id page limit : Nat)

/-- The stages in which an operation is performed. -/
def Stage.Performs (s : Stage) : Op → Prop
  | .get_query_log id' => id' = id ∧ s.point = .start
  | .connection_settings _ _ => s.point = .start
  | .connect => s.point = .start
  | .execute statement => ∃ query_log, s.query_log = some query_log ∧
      statement.InPoint (tempory_query_table_name suffix query_log.run_by_user id)
        (query_sql query_log.sql).2 limit (page_offset page limit) s.point
  | .save id' query_log' => id' = id ∧ ∃ query_log, s.query_log = some query_log ∧
      SameQuery query_log' query_log ∧
        (query_log'.state = .FAILED ∧ (s.point = .connected ∨ s.point = .erred) ∨
          query_log'.state = .COMPLETE ∧ s.point = .inserted)
  | .commit => s.point = .failed ∨ s.point = .complete
  | _ => False

def InStage (o : Op) (s : Stage) : Prop := s.point = .broken ∨ s.Performs suffix id page limit o

abbrev stages : Interp (Ans Row) Stage := summing Stage.adv (InStage suffix id page limit)

variable {suffix id page limit}

theorem wp_execute {statement : Statement} {Q : Except Str (Reply statement) → Stage → Prop}
    {s : Stage} (hs : s.point ≠ .broken)
    (hperforms : s.Performs suffix id page limit (.execute statement))
    (hok : ∀ reply, Q (.ok reply) (s.to (statement.point s.point)))
    (herror : ∀ e, Q (.error e) (s.to .erred)) :
    wp (stages suffix id page limit) (execute statement : M Row _) Q s := by
  refine wp_summing.mpr ⟨.inr hperforms, fun answer => ?_⟩
  rw [Stage.adv, if_neg hs]
  cases answer with
  | ok reply => exact hok reply
  | error e => exact herror e

theorem wp_execute_bind {α : Type} {statement : Statement} {k : Reply statement → M Row α}
    {Q : Except Str α → Stage → Prop} {s : Stage} (hs : s.point ≠ .broken)
    (hperforms : s.Performs suffix id page limit (.execute statement))
    (hok : ∀ reply, wp (stages suffix id page limit) (k reply) Q
      (s.to (statement.point s.point)))
    (herror : ∀ e, Q (.error e) (s.to .erred)) :
    wp (stages suffix id page limit) (execute statement >>= k) Q s :=
  (wp_bind _ _ _ _).mpr (wp_execute hs hperforms hok herror)

theorem wp_orRaise {α β : Type} {v : Option α} {f : α → M Row β} {Q : Except Str β → Stage → Prop}
    {s : Stage} (hnone : v = none → Q (.error []) s)
    (hsome : ∀ a, v = some a → wp (stages suffix id page limit) (f a) Q s) :
    wp (stages suffix id page limit) (orRaise v >>= f) Q s := by
  rw [wp_bind]
  exact wp_ofOption hnone hsome

/-! ### The task -/

section Task

variable {query_log : QueryLog}

/-- After the statements either the rows are inserted, or there is no table. -/
def AfterStatements (query_log : QueryLog) : Except Str Nat → Stage → Prop
  | .ok _, s => s = ⟨some query_log, .inserted⟩
  | .error _, s => s = ⟨some query_log, .connected⟩ ∨ s = ⟨some query_log, .erred⟩

theorem wp_statements (timeout : Nat) :
    wp (stages suffix id page limit) (statements query_log
      (tempory_query_table_name suffix query_log.run_by_user id) page limit timeout : M Row Nat)
      (AfterStatements query_log) ⟨some query_log, .connected⟩ := by
  have herred : ∀ e, AfterStatements query_log (.error e) ⟨some query_log, .erred⟩ :=
    fun _ => .inr rfl
  have hrest : wp (stages suffix id page limit) (do
      let description : List Column ← (execute (.describe (query_sql query_log.sql).2) : M Row _)
      let columns ← .ofOption (columns_error description) (prefixed_sql_columns description)
      execute (.create_table (tempory_query_table_name suffix query_log.run_by_user id) columns)
      execute (.insert (tempory_query_table_name suffix query_log.run_by_user id)
        (query_sql query_log.sql).2 limit (page_offset page limit))
      execute (.count (query_sql query_log.sql).2))
      (AfterStatements query_log) ⟨some query_log, .connected⟩ := by
    refine wp_execute_bind Point.noConfusion ⟨_, rfl, rfl⟩ (fun description => ?_) herred
    refine (wp_bind _ _ _ _).mpr (wp_ofOption (fun _ => .inl rfl) fun columns _ => ?_)
    refine wp_execute_bind Point.noConfusion ⟨_, rfl, rfl, rfl⟩ (fun _ => ?_) herred
    refine wp_execute_bind Point.noConfusion ⟨_, rfl, rfl, rfl, rfl, rfl, rfl⟩ (fun _ => ?_) herred
    exact wp_execute Point.noConfusion ⟨_, rfl, rfl⟩ (fun _ => rfl) herred
  refine wp_execute_bind Point.noConfusion ⟨_, rfl, rfl⟩ (fun _ => ?_) herred
  split
  next => exact wp_execute_bind Point.noConfusion ⟨_, rfl, rfl⟩ (fun _ => hrest) herred
  next => exact hrest

/-- Unless it raises, the block leaves a log that is saved. -/
def AfterBlock (query_log : QueryLog) : Except Str Unit → Stage → Prop
  | .ok _, s => s = ⟨some query_log, .failed⟩ ∨ s = ⟨some query_log, .complete⟩
  | .error _, s => s.point = .broken

theorem wp_save {query_log' : QueryLog} {s : Stage} (hs : s.point ≠ .broken)
    (hperforms : s.Performs suffix id page limit (.save id query_log'))
    (hsaved : AfterBlock query_log (.ok ()) (s.to query_log'.state.point)) :
    wp (stages suffix id page limit)
      (await (.save id query_log') >>= fun v => orRaise v : M Row Unit) (AfterBlock query_log) s := by
  refine wp_summing.mpr ⟨.inr hperforms, fun answer => ?_⟩
  rw [Stage.adv, if_neg hs]
  cases answer with
  | none => exact rfl
  | some done => exact hsaved

theorem wp_run_statements (timeout : Nat) :
    wp (stages suffix id page limit) (run_statements id query_log
      (tempory_query_table_name suffix query_log.run_by_user id) page limit timeout : M Row Unit)
      (AfterBlock query_log) ⟨some query_log, .connected⟩ := by
  unfold run_statements
  rw [wp_bind, wp_attempt]
  refine wp_mono (fun r s hr => ?_) _ _ (wp_statements timeout)
  have hsame : ∀ e, SameQuery (failed_log query_log e) query_log := fun _ => ⟨rfl, rfl⟩
  cases r with
  | ok row_count =>
      rw [show s = ⟨some query_log, .inserted⟩ from hr]
      exact wp_save Point.noConfusion ⟨rfl, query_log, rfl, ⟨rfl, rfl⟩, .inr ⟨rfl, rfl⟩⟩ (.inr rfl)
  | error e =>
      rcases hr with rfl | rfl
      · exact wp_save Point.noConfusion ⟨rfl, query_log, rfl, hsame e, .inl ⟨rfl, .inl rfl⟩⟩
          (.inl rfl)
      · exact wp_save Point.noConfusion ⟨rfl, query_log, rfl, hsame e, .inl ⟨rfl, .inr rfl⟩⟩
          (.inl rfl)

/-- The task is over, or something failed that must not. -/
def Over {α : Type} (_ : Except Str α) (s : Stage) : Prop :=
  s.point = .broken ∨ ∃ complete, s.point = .finished complete

theorem over_broken {α : Type} {s : Stage} (hs : s.point = .broken) (r : Except Str α) :
    Over r s := .inl hs

theorem wp_user_explorer_connection {body : M Row Unit}
    (hbody : wp (stages suffix id page limit) body (AfterBlock query_log)
      ⟨some query_log, .connected⟩) :
    wp (stages suffix id page limit) (user_explorer_connection body) Over
      ⟨some query_log, .start⟩ := by
  refine wp_summing.mpr ⟨.inr rfl, fun answer => ?_⟩
  rw [Stage.adv, if_neg Point.noConfusion]
  cases answer with
  | none => exact over_broken rfl _
  | some connected =>
      refine wp_orRaise (fun h => nomatch h) fun _ _ => ?_
      rw [wp_bind, wp_attempt]
      refine wp_mono (fun r s hr => ?_) _ _ hbody
      cases r with
      | error e =>
          have hbroken : s.point = .broken := hr
          refine wp_summing.mpr ⟨.inl hbroken, fun done => ?_⟩
          rw [Stage.adv, if_pos hbroken]
          exact over_broken hbroken _
      | ok done =>
          have hcommit : s.Performs suffix id page limit .commit ∧ s.point ≠ .broken := by
            rcases hr with rfl | rfl
            · exact ⟨.inl rfl, Point.noConfusion⟩
            · exact ⟨.inr rfl, Point.noConfusion⟩
          refine wp_summing.mpr ⟨.inr hcommit.1, fun answer => ?_⟩
          rw [Stage.adv, if_neg hcommit.2]
          cases answer with
          | some committed => exact .inr ⟨_, rfl⟩
          | none =>
              rcases hr with rfl | rfl
              · exact .inr ⟨_, rfl⟩
              · exact over_broken rfl _

theorem wp_run_querylog_query (timeout : Nat) :
    wp (stages suffix id page limit)
      (run_querylog_query suffix id page limit timeout : M Row (Option (List Row))) Over
      ⟨none, .start⟩ := by
  refine wp_summing.mpr ⟨.inr ⟨rfl, rfl⟩, fun answer => ?_⟩
  rw [Stage.adv, if_neg Point.noConfusion]
  cases answer with
  | none => exact over_broken rfl _
  | some query_log =>
      refine wp_summing.mpr ⟨.inr rfl, fun answer => ?_⟩
      rw [Stage.adv, if_neg Point.noConfusion]
      cases answer with
      | none => exact over_broken rfl _
      | some settings =>
          show wp (stages suffix id page limit) (user_explorer_connection (run_statements id query_log
            (tempory_query_table_name suffix query_log.run_by_user id) page limit timeout) >>=
              fun _ => .pure none) Over ⟨some query_log, .start⟩
          refine wp_bind_of (wp_user_explorer_connection (wp_run_statements timeout)) ?_ ?_
          · exact fun _ _ hover => hover
          · exact fun _ _ hover => hover

end Task

end Stages

/-! ## Careful steps -/

section Databases

variable {Row : Type} (fails : Process → Op → Prop) (selects : Str → List Row → Prop)
  (suffix : Nat → Str) (submitted : Submitted)

/-- Nothing fails in a task but its statements, and the commit once the log is saved as
failed.  No request looks at the log of a query that is saved as complete before the
transaction of the task is over. -/
def Careful (w : World Row) : Process → Op → Prop
  | .task id, .commit => (w.logs id).state = .FAILED ∨ ¬ fails (.task id) .commit
  | .task _, .execute _ => True
  | .task id, o => ¬ fails (.task id) o
  | .request _, .get_query_log id =>
      (w.logs id).state = .COMPLETE → w.connections (.task id) = none
  | .request _, _ => True

/-- The runs of careful steps. -/
def CarefulRun (w₀ : World Row) :
    Config (Ans Row) Str (Option (List Row)) Process (World Row) → Prop :=
  (processes fails selects suffix submitted).Run (fun c i o => Careful fails c.store i o) w₀

/-- Wherever the log of a query was seen to be complete, its table holds the page. -/
def Shown (c : Config (Ans Row) Str (Option (List Row)) Process (World Row)) : Prop :=
  ∀ n id query_log, (⟨.get_query_log id, some query_log⟩ : Event (Ans Row)) ∈
      c.traces (.request n) → query_log.state = .COMPLETE →
    ∃ rows, submitted.IsPage selects id rows ∧
      c.store.tables (submitted.table_name suffix id) = some rows

def Ended (c : Config (Ans Row) Str (Option (List Row)) Process (World Row)) : Prop :=
  ∀ id r, c.tasks (.task id) = ended r →
    ((c.store.logs id).state = .COMPLETE ∧ ∃ rows, submitted.IsPage selects id rows ∧
        c.store.tables (submitted.table_name suffix id) = some rows) ∨
      ((c.store.logs id).state = .FAILED ∧
        c.store.tables (submitted.table_name suffix id) = none)

/-! ## The databases at a point -/

def At (w : World Row) (id : Nat) (point : Point) : Prop :=
  match point with
  | .start => (w.logs id).state = .RUNNING ∧ w.connections (.task id) = none ∧
      w.tables (submitted.table_name suffix id) = none
  | .connected => (w.logs id).state = .RUNNING ∧
      w.connections (.task id) = some (.active none) ∧
      w.tables (submitted.table_name suffix id) = none
  | .created => (w.logs id).state = .RUNNING ∧
      w.connections (.task id) = some (.active (some (submitted.table_name suffix id, []))) ∧
      w.tables (submitted.table_name suffix id) = none
  | .inserted => (w.logs id).state = .RUNNING ∧
      (∃ rows, submitted.IsPage selects id rows ∧ w.connections (.task id) =
        some (.active (some (submitted.table_name suffix id, rows)))) ∧
      w.tables (submitted.table_name suffix id) = none
  | .erred => (w.logs id).state = .RUNNING ∧
      (∃ c : Connection Row, w.connections (.task id) = some c ∧ c.table = none) ∧
      w.tables (submitted.table_name suffix id) = none
  | .failed => (w.logs id).state = .FAILED ∧
      (∃ c : Connection Row, w.connections (.task id) = some c ∧ c.table = none) ∧
      w.tables (submitted.table_name suffix id) = none
  | .complete => (w.logs id).state = .COMPLETE ∧
      (∃ rows, submitted.IsPage selects id rows ∧ w.connections (.task id) =
        some (.active (some (submitted.table_name suffix id, rows)))) ∧
      w.tables (submitted.table_name suffix id) = none
  | .finished false => (w.logs id).state = .FAILED ∧ w.connections (.task id) = none ∧
      w.tables (submitted.table_name suffix id) = none
  | .finished true => (w.logs id).state = .COMPLETE ∧ w.connections (.task id) = none ∧
      ∃ rows, submitted.IsPage selects id rows ∧
        w.tables (submitted.table_name suffix id) = some rows
  | .broken => False

/-- The databases are as the stage of the task says, and the logs are of the query that was
submitted. -/
structure Stands (w : World Row) (id : Nat) (s : Stage) : Prop where
  same : SameQuery (w.logs id) (submitted.query_log id)
  read : ∀ query_log, s.query_log = some query_log →
    SameQuery query_log (submitted.query_log id)
  point : At selects suffix submitted w id s.point

/-- A step leaves alone what is not its own. -/
structure Frame (i : Process) (w w' : World Row) : Prop where
  logs : ∀ id, i ≠ .task id → w'.logs id = w.logs id
  tables : ∀ id, i ≠ .task id →
    w'.tables (submitted.table_name suffix id) = w.tables (submitted.table_name suffix id)
  connections : ∀ j, j ≠ i → w'.connections j = w.connections j

/-- The process has no table that is not committed. -/
def Quiet (w : World Row) (i : Process) : Prop :=
  ∀ c, w.connections i = some c → c.table = none

variable {fails selects suffix submitted} {w w' : World Row} {id : Nat} {s : Stage} {i : Process}

@[simp] theorem World.connection_logs (c : Option (Connection Row)) :
    (w.connection i c).logs = w.logs := rfl

@[simp] theorem World.connection_tables (c : Option (Connection Row)) :
    (w.connection i c).tables = w.tables := rfl

@[simp] theorem World.connection_self (c : Option (Connection Row)) :
    (w.connection i c).connections i = c := Function.update_self ..

theorem World.connection_of_ne {j : Process} (c : Option (Connection Row)) (h : j ≠ i) :
    (w.connection i c).connections j = w.connections j := Function.update_of_ne h ..

theorem table_name_injective {id' : Nat}
    (h : submitted.table_name suffix id = submitted.table_name suffix id') : id = id' := by
  have hliteral : "._data_explorer_tmp_query_".toList =
      "._data_explorer_tmp_query".toList ++ ['_'] := by decide
  have hlast : ∀ {a b d d' : Str}, d = d' ++ ['_'] → a ++ d ++ str id = b ++ d ++ str id' →
      id = id' := by
    rintro a b _ d' rfl h
    have h' : (a ++ d') ++ '_' :: str id = (b ++ d') ++ '_' :: str id' := by simpa using h
    exact (append_str_inj (by decide) h').1
  exact hlast hliteral h

theorem SameQuery.table_name {query_log : QueryLog}
    (h : SameQuery query_log (submitted.query_log id)) :
    tempory_query_table_name suffix query_log.run_by_user id = submitted.table_name suffix id := by
  rw [h.run_by_user, Submitted.table_name]

theorem SameQuery.trans {a b c : QueryLog} (h : SameQuery a b) (h' : SameQuery b c) :
    SameQuery a c := ⟨h.sql.trans h'.sql, h.run_by_user.trans h'.run_by_user⟩

theorem Frame.refl : Frame suffix submitted i w w := ⟨fun _ _ => rfl, fun _ _ => rfl, fun _ _ => rfl⟩

theorem Frame.connection (c : Option (Connection Row)) :
    Frame suffix submitted i w (w.connection i c) :=
  ⟨fun _ _ => rfl, fun _ _ => rfl, fun _ h => World.connection_of_ne c h⟩

theorem Stands.frame (h : Stands selects suffix submitted w id s)
    (hframe : Frame suffix submitted i w w') (hi : i ≠ .task id) :
    Stands selects suffix submitted w' id s := by
  refine ⟨hframe.logs id hi ▸ h.same, h.read, ?_⟩
  have hpoint := h.point
  unfold At at hpoint ⊢
  rw [hframe.logs id hi, hframe.tables id hi, hframe.connections _ (Ne.symm hi)]
  exact hpoint

/-! ### Steps of a task -/

theorem Stands.connection (h : Stands selects suffix submitted w id s) {p : Point}
    {c : Option (Connection Row)}
    (hpoint : At selects suffix submitted (w.connection (.task id) c) id p) :
    Stands selects suffix submitted (w.connection (.task id) c) id (s.to p) :=
  ⟨h.same, h.read, hpoint⟩

theorem Stands.execute (h : Stands selects suffix submitted w id s) {statement : Statement}
    {answer : Except Str (Reply statement)}
    (hacts : Acts fails selects (.task id) (.execute statement) w answer w')
    (hperforms : s.Performs suffix id (submitted.query_log id).page
      (submitted.query_log id).page_size (.execute statement)) :
    Stands selects suffix submitted w' id (s.next (⟨.execute statement, answer⟩ : Event (Ans Row))) ∧
      Frame suffix submitted (.task id) w w' := by
  obtain ⟨query_log, hlog, hin⟩ := hperforms
  have hsame := h.read query_log hlog
  have hat := h.point
  have hrefused : ∀ c : Connection Row, c.table = none →
      At selects suffix submitted (w.connection (.task id) (some c)) id .erred := by
    intro c hc
    have hbefore : (w.logs id).state = .RUNNING ∧
        w.tables (submitted.table_name suffix id) = none := by
      cases statement with
      | create_table name columns =>
          rw [hin.2] at hat
          exact ⟨hat.1, hat.2.2⟩
      | insert name sql limit offset =>
          rw [hin.2.2.2.2] at hat
          exact ⟨hat.1, hat.2.2⟩
      | count sql =>
          rw [show s.point = .inserted from hin] at hat
          exact ⟨hat.1, hat.2.2⟩
      | statement_timeout timeout =>
          rw [show s.point = .connected from hin] at hat
          exact ⟨hat.1, hat.2.2⟩
      | query_plan =>
          rw [show s.point = .connected from hin] at hat
          exact ⟨hat.1, hat.2.2⟩
      | describe sql =>
          rw [show s.point = .connected from hin] at hat
          exact ⟨hat.1, hat.2.2⟩
    exact ⟨hbefore.1, ⟨c, World.connection_self _, hc⟩, hbefore.2⟩
  cases hacts with
  | ran hs hc =>
      refine ⟨?_, .refl⟩
      cases statement with
      | create_table name columns => exact hs.elim
      | insert name sql limit offset => exact hs.elim
      | _ => exact h
  | created hc hname =>
      obtain ⟨hname', hpoint⟩ := hin
      obtain rfl := hname'.trans hsame.table_name
      rw [hpoint] at hat
      exact ⟨h.connection ⟨hat.1, World.connection_self _, hat.2.2⟩, .connection _⟩
  | @inserted _ name sql limit offset old rows hc hrows =>
      obtain ⟨hname', rfl, rfl, rfl, hpoint⟩ := hin
      obtain rfl := hname'.trans hsame.table_name
      rw [hpoint] at hat
      rw [hat.2.1] at hc
      cases hc
      rw [hsame.sql] at hrows
      exact ⟨h.connection ⟨hat.1, ⟨_, ⟨rows, hrows, rfl⟩, World.connection_self _⟩, hat.2.2⟩,
        .connection _⟩
  | refused => exact ⟨h.connection (hrefused _ rfl), .connection _⟩
  | lost => exact ⟨h.connection (hrefused _ rfl), .connection _⟩

theorem Stands.save (h : Stands selects suffix submitted w id s) {query_log query_log' : QueryLog}
    (hlog : s.query_log = some query_log) (hsame : SameQuery query_log' query_log)
    (hsaves : query_log'.state = .FAILED ∧ (s.point = .connected ∨ s.point = .erred) ∨
      query_log'.state = .COMPLETE ∧ s.point = .inserted) :
    Stands selects suffix submitted { w with logs := Function.update w.logs id query_log' } id
      (s.to query_log'.state.point) := by
  have hlogs : Function.update w.logs id query_log' id = query_log' := Function.update_self ..
  have hat := h.point
  refine ⟨?_, h.read, ?_⟩
  · show SameQuery (Function.update w.logs id query_log' id) _
    rw [hlogs]
    exact hsame.trans (h.read query_log hlog)
  · rcases hsaves with ⟨hstate, hpoint | hpoint⟩ | ⟨hstate, hpoint⟩
    · rw [hpoint] at hat
      rw [hstate]
      exact ⟨(congrArg QueryLog.state hlogs).trans hstate, ⟨_, hat.2.1, rfl⟩, hat.2.2⟩
    · rw [hpoint] at hat
      rw [hstate]
      exact ⟨(congrArg QueryLog.state hlogs).trans hstate, hat.2.1, hat.2.2⟩
    · rw [hpoint] at hat
      rw [hstate]
      exact ⟨(congrArg QueryLog.state hlogs).trans hstate, hat.2.1, hat.2.2⟩

theorem Stands.commit (h : Stands selects suffix submitted w id s) {answer : Option Unit}
    (hacts : Acts fails selects (.task id) .commit w answer w')
    (hok : (w.logs id).state = .FAILED ∨ ¬ fails (.task id) .commit)
    (hpoint : s.point = .failed ∨ s.point = .complete) :
    Stands selects suffix submitted w' id (s.next (⟨.commit, answer⟩ : Event (Ans Row))) ∧
      Frame suffix submitted (.task id) w w' := by
  have hat := h.point
  rcases hpoint with hpoint | hpoint
  · rw [hpoint] at hat
    obtain ⟨hstate, ⟨c, hc, htable⟩, hname⟩ := hat
    have hover : Stands selects suffix submitted (w.connection (.task id) none) id
        (s.to (.finished false)) := h.connection ⟨hstate, World.connection_self _, hname⟩
    have hnext : ∀ answer, s.next (⟨.commit, answer⟩ : Event (Ans Row)) = s.to (.finished false) := by
      intro answer
      cases answer with
      | none => rw [Stage.next, hpoint]; rfl
      | some done => rw [Stage.next, hpoint]; rfl
    rw [hnext]
    cases hacts with
    | committed hc' =>
        rw [hc] at hc'
        cases hc'
        obtain rfl := htable
        exact ⟨hover, .connection _⟩
    | rolled_back => exact ⟨hover, .connection _⟩
    | commit_lost => exact ⟨hover, .connection _⟩
    | not_committed => exact ⟨hover, .connection _⟩
  · rw [hpoint] at hat
    obtain ⟨hstate, ⟨rows, hpage, hc⟩, hname⟩ := hat
    cases hacts with
    | committed hc' =>
        rw [hc] at hc'
        cases hc'
        have hnext : s.next (⟨.commit, some ()⟩ : Event (Ans Row)) = s.to (.finished true) := by
          rw [Stage.next, hpoint]
          rfl
        rw [hnext]
        refine ⟨⟨h.same, h.read, hstate, World.connection_self _, rows, hpage,
          Function.update_self ..⟩, fun _ _ => rfl, fun id' hid => ?_, fun j hj =>
            World.connection_of_ne _ hj⟩
        refine Function.update_of_ne (fun hname => ?_) ..
        exact hid (congrArg _ (table_name_injective hname.symm))
    | rolled_back hc' => exact absurd (hc.symm.trans hc') (by simp)
    | commit_lost hc' => exact absurd (hc.symm.trans hc') (by simp)
    | not_committed hfails =>
        rcases hok with hok | hok
        · exact absurd (hstate.symm.trans hok) (by decide)
        · exact absurd hfails hok

/-- A careful step of a task keeps things standing, and leaves alone what is not its own. -/
theorem Stands.task (h : Stands selects suffix submitted w id s) {o : Op} {answer : Ans Row o}
    (hacts : Acts fails selects (.task id) o w answer w') (hok : Careful fails w (.task id) o)
    (hperforms : s.Performs suffix id (submitted.query_log id).page
      (submitted.query_log id).page_size o) :
    Stands selects suffix submitted w' id (s.next (⟨o, answer⟩ : Event (Ans Row))) ∧
      Frame suffix submitted (.task id) w w' := by
  have hat := h.point
  cases o with
  | get_query_log id' =>
      obtain ⟨rfl, hpoint⟩ := hperforms
      cases hacts with
      | got =>
          refine ⟨⟨h.same, fun query_log hlog => ?_, h.point⟩, .refl⟩
          cases hlog
          exact h.same
      | not_got hfails => exact absurd hfails hok
  | connection_settings user name =>
      cases hacts with
      | settings => exact ⟨h, .refl⟩
      | no_settings hfails => exact absurd hfails hok
  | connect =>
      rw [show s.point = .start from hperforms] at hat
      cases hacts with
      | connected => exact ⟨h.connection ⟨hat.1, World.connection_self _, hat.2.2⟩, .connection _⟩
      | not_connected hfails => exact absurd hfails hok
  | execute statement => exact h.execute hacts hperforms
  | save id' query_log' =>
      obtain ⟨rfl, query_log, hlog, hsame, hsaves⟩ := hperforms
      cases hacts with
      | saved =>
          refine ⟨h.save hlog hsame hsaves, fun id' hid => ?_, fun _ _ => rfl, fun _ _ => rfl⟩
          exact Function.update_of_ne (fun h => hid (congrArg _ h.symm)) ..
      | not_saved hfails => exact absurd hfails hok
  | commit => exact h.commit hacts hok hperforms
  | rollback => exact hperforms.elim
  | select name => exact hperforms.elim

/-! ### Steps of a request -/

/-- What a request performs. -/
def Op.Looks : Op → Prop
  | .execute _ => False
  | .save _ _ => False
  | _ => True

theorem only_user_explorer_connection {α : Type} {body : M Row α} (h : body.Only Op.Looks) :
    (user_explorer_connection body).Only Op.Looks := by
  refine ⟨trivial, fun answer => ?_⟩
  cases answer with
  | none => trivial
  | some connected =>
      refine Prog.Only.bind (P := Op.Looks) (p := body.attempt) h.attempt fun r => ?_
      cases r with
      | error e => exact ⟨trivial, fun _ => trivial⟩
      | ok a =>
          refine ⟨trivial, fun answer => ?_⟩
          cases answer with
          | none => trivial
          | some done => trivial

theorem only_fetch_query_results (query_log_id : Nat) :
    (fetch_query_results suffix query_log_id : M Row (Option (List Row))).Only Op.Looks := by
  refine ⟨trivial, fun query_log => ?_⟩
  cases query_log with
  | none => trivial
  | some query_log =>
      refine ⟨trivial, fun answer => ?_⟩
      cases answer with
      | none => trivial
      | some settings =>
          have hselect : Prog.Only Op.Looks (await (.select (tempory_query_table_name suffix
              query_log.run_by_user query_log_id)) >>= fun rows => orRaise rows : M Row _) := by
            refine ⟨trivial, fun rows => ?_⟩
            cases rows with
            | none => trivial
            | some rows => trivial
          have hfetch : Prog.Only Op.Looks (user_explorer_connection (await (.select
              (tempory_query_table_name suffix query_log.run_by_user query_log_id)) >>=
                fun rows => orRaise rows) >>= fun rows => .pure (some rows) : M Row _) :=
            (only_user_explorer_connection hselect).bind fun _ => trivial
          exact hfetch

theorem only_query_log_result (query_log_id : Nat) :
    (query_log_result suffix query_log_id : M Row (Option (List Row))).Only Op.Looks := by
  refine ⟨trivial, fun query_log => ?_⟩
  cases query_log with
  | none => trivial
  | some query_log =>
      show Prog.Only Op.Looks (if query_log.state = .COMPLETE then _ else _)
      split
      next => exact only_fetch_query_results _
      next => trivial

theorem Quiet.request (suffix : Nat → Str) (submitted : Submitted) (h : Quiet w i) {o : Op} {answer : Ans Row o}
    (hacts : Acts fails selects i o w answer w') (ho : o.Looks) :
    Frame suffix submitted i w w' ∧ w'.tables = w.tables ∧ Quiet w' i := by
  have hnone : Quiet (w.connection i none) i := by
    intro c hc
    rw [World.connection_self] at hc
    cases hc
  cases hacts with
  | connected =>
      refine ⟨.connection _, rfl, fun c hc => ?_⟩
      rw [World.connection_self] at hc
      cases hc
      rfl
  | ran => exact ho.elim
  | created => exact ho.elim
  | inserted => exact ho.elim
  | refused => exact ho.elim
  | lost => exact ho.elim
  | saved => exact ho.elim
  | not_saved => exact ho.elim
  | committed hc =>
      obtain rfl := h _ hc
      exact ⟨.connection _, rfl, hnone⟩
  | rolled_back => exact ⟨.connection _, rfl, hnone⟩
  | commit_lost => exact ⟨.connection _, rfl, hnone⟩
  | not_committed => exact ⟨.connection _, rfl, hnone⟩
  | rollback => exact ⟨.connection _, rfl, hnone⟩
  | _ => exact ⟨.refl, rfl, h⟩

/-! ## Runs -/

/-- What every careful step keeps. -/
structure Consistent (selects : Str → List Row → Prop) (suffix : Nat → Str) (submitted : Submitted)
    (c : Config (Ans Row) Str (Option (List Row)) Process (World Row)) : Prop where
  tasks : ∀ id, Stands selects suffix submitted c.store id
    (c.summary Stage.adv ⟨none, .start⟩ (.task id))
  quiet : ∀ n, Quiet c.store (.request n)
  shown : Shown selects suffix submitted c

variable {w₀ : World Row} {c : Config (Ans Row) Str (Option (List Row)) Process (World Row)}

theorem Submitted.Start.consistent (h : submitted.Start suffix w₀) :
    Consistent selects suffix submitted
      ((processes fails selects suffix submitted).start w₀) := by
  refine ⟨fun id => ⟨?_, fun _ hlog => (nomatch hlog), ?_⟩, fun n c hc => ?_,
    fun n id query_log hmem => absurd hmem List.not_mem_nil⟩
  · exact (congrFun h.logs id) ▸ ⟨rfl, rfl⟩
  · have hstate := (congrArg QueryLog.state (congrFun h.logs id)).trans (h.running id)
    exact ⟨hstate, h.connections _, h.tables id⟩
  · exact absurd ((h.connections _).symm.trans hc) (by simp)

theorem Stage.Performs.not_over {page limit : Nat} {o : Op}
    (h : s.Performs suffix id page limit o) (complete : Bool) : s.point ≠ .finished complete := by
  intro hover
  obtain ⟨query_log, point⟩ := s
  obtain rfl : point = .finished complete := hover
  cases o with
  | get_query_log id' => exact absurd h.2 (by simp)
  | connection_settings user name => exact absurd h (by simp [Stage.Performs])
  | connect => exact absurd h (by simp [Stage.Performs])
  | execute statement =>
      obtain ⟨_, -, hin⟩ := h
      cases statement <;> simp [Statement.InPoint] at hin
  | save id' query_log' =>
      obtain ⟨-, _, -, -, hsaves⟩ := h
      simp at hsaves
  | commit => exact absurd h (by simp [Stage.Performs])
  | rollback => exact h
  | select name => exact h

theorem Stands.not_broken (h : Stands selects suffix submitted w id s) : s.point ≠ .broken := by
  intro hs
  have hat := h.point
  rw [hs] at hat
  exact hat

theorem Stands.over (h : Stands selects suffix submitted w id s) {rows : List Row}
    (hrows : w.tables (submitted.table_name suffix id) = some rows) : s.point = .finished true := by
  obtain ⟨query_log, point⟩ := s
  have hat := h.point
  have hnone : w.tables (submitted.table_name suffix id) ≠ none := by simp [hrows]
  cases point with
  | finished complete =>
      cases complete with
      | true => rfl
      | false => exact absurd hat.2.2 hnone
  | broken => exact hat.elim
  | _ => exact absurd hat.2.2 hnone

theorem Stands.complete (h : Stands selects suffix submitted w id s)
    (hstate : (w.logs id).state = .COMPLETE) (hc : w.connections (.task id) = none) :
    ∃ rows, submitted.IsPage selects id rows ∧
      w.tables (submitted.table_name suffix id) = some rows := by
  obtain ⟨query_log, point⟩ := s
  have hat := h.point
  have hne : (w.logs id).state ≠ .RUNNING := by simp [hstate]
  cases point with
  | finished complete =>
      cases complete with
      | true => exact hat.2.2
      | false => exact absurd (hstate.symm.trans hat.1) (by simp)
  | complete =>
      obtain ⟨-, ⟨rows, -, hrows⟩, -⟩ := hat
      exact absurd (hc.symm.trans hrows) (by simp)
  | failed => exact absurd (hstate.symm.trans hat.1) (by simp)
  | broken => exact hat.elim
  | _ => exact absurd hat.1 hne

theorem wp_task (suffix : Nat → Str) (submitted : Submitted) (id : Nat) :
    wp (stages suffix id (submitted.query_log id).page (submitted.query_log id).page_size)
      (submitted.program suffix (.task id) : M Row (Option (List Row))) Over ⟨none, .start⟩ :=
  wp_run_querylog_query submitted.timeout

theorem Consistent.step (hrun : CarefulRun fails selects suffix submitted w₀ c)
    (h : Consistent selects suffix submitted c) {o : Op}
    {k : Ans Row o → M Row (Option (List Row))} {answer : Ans Row o} (hi : c.tasks i = .op o k)
    (hok : Careful fails c.store i o) (hacts : Acts fails selects i o c.store answer w') :
    Consistent selects suffix submitted (c.go i ⟨o, answer⟩ (k answer) w') := by
  cases i with
  | task id =>
      have hstands := h.tasks id
      have hin := hrun.pre hi (wp_task suffix submitted id)
      have hperforms := hin.resolve_left hstands.not_broken
      obtain ⟨hstands', hframe⟩ := hstands.task hacts hok hperforms
      refine ⟨fun id' => ?_, fun n conn hconn => ?_, fun n id' query_log hmem hstate => ?_⟩
      · by_cases hid : id' = id
        · subst hid
          rw [Config.summary_go_self, Config.go_store, Stage.adv, if_neg hstands.not_broken]
          exact hstands'
        · have hne : Process.task id ≠ .task id' := fun h => hid (Process.task.inj h).symm
          rw [Config.summary_go_of_ne _ _ (Ne.symm hne), Config.go_store]
          exact (h.tasks id').frame hframe hne
      · rw [Config.go_store, hframe.connections _ Process.noConfusion] at hconn
        exact h.quiet n conn hconn
      · rw [Config.go_traces_of_ne Process.noConfusion] at hmem
        obtain ⟨rows, hpage, hrows⟩ := h.shown n id' query_log hmem hstate
        refine ⟨rows, hpage, ?_⟩
        by_cases hid : id' = id
        · subst hid
          exact absurd (hstands.over hrows) (hperforms.not_over true)
        · rw [Config.go_store, hframe.tables id' fun h => hid (Process.task.inj h).symm]
          exact hrows
  | request n =>
      have hlooks : o.Looks := Shared.Run.only hrun hi (only_query_log_result _)
      obtain ⟨hframe, htables, hquiet⟩ := (h.quiet n).request suffix submitted hacts hlooks
      refine ⟨fun id => ?_, fun n' conn hconn => ?_, fun n' id query_log hmem hstate => ?_⟩
      · rw [Config.summary_go_of_ne _ _ Process.noConfusion, Config.go_store]
        exact (h.tasks id).frame hframe Process.noConfusion
      · by_cases hn : n' = n
        · subst hn
          exact hquiet conn hconn
        · rw [Config.go_store, hframe.connections _ fun h => hn (Process.request.inj h)] at hconn
          exact h.quiet n' conn hconn
      · rw [Config.go_store, htables]
        rcases Config.mem_traces_of_go hmem with hmem | ⟨-, hevent⟩
        · exact h.shown n' id query_log hmem hstate
        · cases hevent
          cases hacts
          exact (h.tasks id).complete hstate (hok hstate)

theorem CarefulRun.consistent (hstart : submitted.Start suffix w₀)
    (hrun : CarefulRun fails selects suffix submitted w₀ c) :
    Consistent selects suffix submitted c :=
  Shared.Run.invariant hrun hstart.consistent fun hrun hi hok hacts h => h.step hrun hi hok hacts

end Databases

/-! ## A request before the commit -/

/-- Queries of one page, and requests for the results of the first. -/
def exampleSubmitted : Submitted where
  query_log _ := ⟨"select 1", 0, "datasets", 1, 100, .RUNNING, none, none⟩
  timeout := 10000
  requested _ := 0

def exampleStart : World Nat := ⟨exampleSubmitted.query_log, fun _ => none, fun _ => none⟩

/-- A query of one row. -/
def exampleSelects (_ : Str) (rows : List Nat) : Prop := rows = [1]

/-- Nothing fails. -/
def exampleReply (w : World Nat) (i : Process) :
    (s : Statement) → Option (Except Str (Reply s) × World Nat)
  | .create_table name _ =>
      match w.connections i, w.tables name with
      | some (.active none), none =>
          some (.ok (), w.connection i (some (.active (some (name, [])))))
      | _, _ => none
  | .insert name _ limit offset =>
      match w.connections i with
      | some (.active (some (name', old))) =>
          if name' = name then
            some (.ok (), w.connection i
              (some (.active (some (name, old ++ page_rows limit offset [1])))))
          else none
      | _ => none
  | .describe _ =>
      match w.connections i with
      | some (.active _) => some (.ok [⟨"a", 23⟩], w)
      | _ => none
  | .count _ =>
      match w.connections i with
      | some (.active _) => some (.ok 1, w)
      | _ => none
  | .statement_timeout _ =>
      match w.connections i with
      | some (.active _) => some (.ok (), w)
      | _ => none
  | .query_plan =>
      match w.connections i with
      | some (.active _) => some (.ok (), w)
      | _ => none

def exampleChoice : Choice (Ans Nat) Process (World Nat)
  | _, .get_query_log id, w => some (some (w.logs id), w)
  | _, .connection_settings _ _, w => some (some (), w)
  | i, .connect, w => some (some (), w.connection i (some (.active none)))
  | i, .execute s, w => exampleReply w i s
  | _, .save id query_log, w =>
      some (some (), { w with logs := Function.update w.logs id query_log })
  | i, .commit, w =>
      match w.connections i with
      | some (.active table) => some (some (), (w.connection i none).committed table)
      | _ => none
  | i, .rollback, w => some ((), w.connection i none)
  | _, .select name, w => some (w.tables name, w)

theorem acts_exampleReply {fails : Process → Op → Prop} {w w' : World Nat} {i : Process}
    {s : Statement} {r : Except Str (Reply s)} (h : exampleReply w i s = some (r, w')) :
    Acts fails exampleSelects i (.execute s) w r w' := by
  cases s with
  | create_table name columns =>
      rw [exampleReply] at h
      split at h
      next hc hname =>
        cases h
        exact .created hc hname
      next => cases h
  | insert name sql limit offset =>
      rw [exampleReply] at h
      split at h
      next name' old hc =>
        split at h
        next hname =>
          subst hname
          cases h
          exact .inserted hc rfl
        next => cases h
      next => cases h
  | _ =>
      rw [exampleReply] at h
      split at h
      next hc =>
        cases h
        exact .ran trivial hc
      next => cases h

theorem acts_exampleChoice {fails : Process → Op → Prop} (i : Process) (o : Op) (w : World Nat)
    (answer : Ans Nat o) (w' : World Nat) (h : exampleChoice i o w = some (answer, w')) :
    Acts fails exampleSelects i o w answer w' := by
  cases o with
  | get_query_log id =>
      cases h
      exact .got
  | connection_settings user name =>
      cases h
      exact .settings
  | connect =>
      cases h
      exact .connected
  | execute s => exact acts_exampleReply h
  | save id query_log =>
      cases h
      exact .saved
  | commit =>
      rw [exampleChoice] at h
      split at h
      next hc =>
        cases h
        exact .committed hc
      next => cases h
  | rollback =>
      cases h
      exact .rollback
  | select name =>
      cases h
      exact .selected

theorem exampleStart_start : exampleSubmitted.Start (fun _ => []) exampleStart :=
  ⟨rfl, fun _ => rfl, fun _ => rfl, fun _ => rfl⟩

instance {w : World Nat} {i : Process} {o : Op} :
    Decidable (Careful (fun _ _ => False) w i o) := by
  unfold Careful
  split <;> infer_instance

def exampleProcesses (fails : Process → Op → Prop) :
    Shared (Ans Nat) Str (Option (List Nat)) Process (World Nat) :=
  processes fails exampleSelects (fun _ => []) exampleSubmitted

/-- The task runs to its end, and a request comes after it. -/
def carefulSchedule : List Process := List.replicate 10 (.task 0) ++ [.request 0]

theorem careful_run : CarefulRun (fun _ _ => False) exampleSelects (fun _ => []) exampleSubmitted
    exampleStart (((exampleProcesses fun _ _ => False).start exampleStart).play exampleChoice
      (fun c i o => Careful (fun _ _ => False) c.store i o) carefulSchedule) :=
  Shared.run_play acts_exampleChoice exampleStart carefulSchedule

/-- The task saves the log as complete, and a request comes before the commit. -/
def hasty : Config (Ans Nat) Str (Option (List Nat)) Process (World Nat) :=
  ((exampleProcesses fun _ _ => True).start exampleStart).play exampleChoice Always
    (List.replicate 9 (.task 0) ++ [.request 0])

/-- The credentials are refused. -/
def refused : Config (Ans Nat) Str (Option (List Nat)) Process (World Nat) :=
  ((exampleProcesses fun _ _ => True).start exampleStart).play
    (fun i o w => match o with
      | .connection_settings _ _ => some (none, w)
      | o => exampleChoice i o w) Always (List.replicate 2 (.task 0))

end Explorer
