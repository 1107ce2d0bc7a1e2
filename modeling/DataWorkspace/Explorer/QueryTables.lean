import DataWorkspace.Async.Prog
import DataWorkspace.Core.Credentials

/-!
# Cleaning up the tables of queries

Each query of the Data Explorer leaves a table in the schema of the user who ran it.  A day later
the table is dropped: under a lock, the workspace's own user is made a member of the role of that
user, drops the table, and gives the membership back.

Nothing is caught, neither around a query nor around its statements.  Each statement is committed
on its own, and any of them may fail.  `cleaned_iff` says which failures have no effect on the
other queries and leave no membership behind.
-/

namespace Explorer

open Py Async Core

namespace QueryTables

/-! ## The task -/

structure QueryLog where
  id : Nat
  /-- `db_role_schema_suffix_for_user(query_log.run_by_user)`. -/
  db_role_schema_suffix : Str
  connection : Str
deriving DecidableEq, Repr

def QueryLog.db_role (query_log : QueryLog) : Str :=
  USER_SCHEMA_STEM ++ query_log.db_role_schema_suffix

/-- `tempory_query_table_name`. -/
def QueryLog.table (query_log : QueryLog) : Str :=
  query_log.db_role ++ "._data_explorer_tmp_query_" ++ str query_log.id

/-- What is done for a query. -/
inductive Op where
  | acquire (query_log : QueryLog) (lock_name : Str)
  /-- `GRANT … TO …`.  The connection is made first. -/
  | grant (query_log : QueryLog) (db_role server_db_user : Str)
  /-- `DROP TABLE IF EXISTS …`. -/
  | drop_table (query_log : QueryLog) (table : Str)
  /-- `REVOKE … FROM …`. -/
  | revoke (query_log : QueryLog) (db_role server_db_user : Str)
  | release (query_log : QueryLog)

/-- Whether an operation returns. -/
@[reducible] def Ans : Op → Type := fun _ => Bool

abbrev M (α : Type) := Prog Ans Unit α

/-- The operation, or the exception it raises. -/
def execute (o : Op) : M Unit := .op o fun
  | true => .pure ()
  | false => .raise ()

variable (DATABASES_DATA : Str → Option DatabaseData)

def lock_name (data : DatabaseData) (query_log : QueryLog) : Str :=
  "database-grant--" ++ data.NAME ++ "--" ++ query_log.db_role ++ "--v4"

def statements (data : DatabaseData) (query_log : QueryLog) : M Unit := do
  execute (.grant query_log query_log.db_role data.USER)
  execute (.drop_table query_log query_log.table)
  execute (.revoke query_log query_log.db_role data.USER)

/-- The body of the loop. -/
def drop_query_table (query_log : QueryLog) : M Unit := do
  let data ← .ofOption () (DATABASES_DATA query_log.connection)
  execute (.acquire query_log (lock_name data query_log))
  let r : Except Unit Unit ← (statements data query_log).attempt
  execute (.release query_log)
  match r with
  | .ok () => .pure ()
  | .error () => .raise ()

/-- `cleanup_temporary_query_tables`, with the queries that are older than a day. -/
def cleanup_temporary_query_tables : List QueryLog → M Unit
  | [] => .pure ()
  | query_log :: query_logs => do
      drop_query_table DATABASES_DATA query_log
      cleanup_temporary_query_tables query_logs

/-! ## A run -/

/-- The queries that are older than a day, the roles that the workspace's user is a member of, and
which operations succeed.  A `GRANT` fails where there is no such role. -/
structure Site where
  DATABASES_DATA : Str → Option DatabaseData
  query_logs : List QueryLog
  ids_nodup : (query_logs.map QueryLog.id).Nodup
  member : Str × Str → Bool
  succeeds : Op → Bool

/-- The queries whose tables were dropped, the roles that the user is a member of now, and those
it was made a member of. -/
structure Databases where
  dropped : List Nat
  member : Str × Str → Bool
  made : List (Str × Str)

/-- The role of a query, in its database. -/
def QueryLog.key (query_log : QueryLog) : Str × Str := (query_log.connection, query_log.db_role)

namespace Databases

variable (d : Databases) (query_log : QueryLog)

def granted : Databases :=
  { d with
    member := Function.update d.member query_log.key true
    made := if d.member query_log.key = true then d.made else query_log.key :: d.made }

def withoutTable : Databases := { d with dropped := query_log.id :: d.dropped }

def revoked : Databases := { d with member := Function.update d.member query_log.key false }

/-- What a successful operation does. -/
def after : Op → Databases
  | .grant query_log _ _ => d.granted query_log
  | .drop_table query_log _ => d.withoutTable query_log
  | .revoke query_log _ _ => d.revoked query_log
  | .acquire _ _ => d
  | .release _ => d

end Databases

namespace Site

variable (s : Site)

def exec (o : Op) (d : Databases) : Bool × Databases :=
  (s.succeeds o, if s.succeeds o = true then d.after o else d)

/-- The databases at the end. -/
def cleaned : Databases :=
  ((cleanup_temporary_query_tables s.DATABASES_DATA s.query_logs).run s.exec
    ⟨[], s.member, []⟩).2

/-! ## One query -/

/-- Some operations of the query succeed, if its connection is configured. -/
def All (query_log : QueryLog) (ops : DatabaseData → List Op) : Prop :=
  ∃ data, s.DATABASES_DATA query_log.connection = some data ∧
    ∀ o ∈ ops data, s.succeeds o = true

variable (query_log : QueryLog)

/-- The membership is granted. -/
def Granted : Prop := s.All query_log fun data =>
  [.acquire query_log (lock_name data query_log), .grant query_log query_log.db_role data.USER]

/-- The table can be dropped. -/
def Droppable : Prop := s.Granted query_log ∧
  s.succeeds (.drop_table query_log query_log.table) = true

/-- The membership is given back. -/
def Restored : Prop := s.Droppable query_log ∧
  s.All query_log fun data => [.revoke query_log query_log.db_role data.USER]

/-- Nothing is raised. -/
def Completes : Prop := s.Restored query_log ∧ s.succeeds (.release query_log) = true

variable {s query_log} {d : Databases}

theorem run_execute (o : Op) : (execute o).run s.exec d =
    if s.succeeds o = true then (.ok (), d.after o) else (.error (), d) := by
  rw [execute, Prog.run, exec]
  cases s.succeeds o <;> rfl

theorem run_execute_bind {α : Type} (o : Op) (f : Unit → M α) :
    (execute o >>= f).run s.exec d =
      if s.succeeds o = true then (f ()).run s.exec (d.after o) else (.error (), d) := by
  rw [Prog.run_bind, run_execute]
  cases s.succeeds o <;> rfl

theorem run_statements (data : DatabaseData) (query_log : QueryLog) :
    (statements data query_log).run s.exec d =
      if s.succeeds (.grant query_log query_log.db_role data.USER) = true then
        if s.succeeds (.drop_table query_log query_log.table) = true then
          if s.succeeds (.revoke query_log query_log.db_role data.USER) = true then
            (.ok (), ((d.granted query_log).withoutTable query_log).revoked query_log)
          else (.error (), (d.granted query_log).withoutTable query_log)
        else (.error (), d.granted query_log)
      else (.error (), d) := by
  rw [statements, run_execute_bind, run_execute_bind, run_execute]
  rfl

structure Leaves (s : Site) (query_log : QueryLog) (d d' : Databases) : Prop where
  dropped : ∀ id ∈ d'.dropped, id ∈ d.dropped ∨ id = query_log.id
  kept : ∀ id ∈ d.dropped, id ∈ d'.dropped
  droppable : s.Droppable query_log → query_log.id ∈ d'.dropped
  ungranted : ¬ s.Granted query_log → d'.member = d.member ∧ d'.made = d.made
  restored : s.Restored query_log →
    d'.member = Function.update d.member query_log.key false
  left : s.Granted query_log → ¬ s.Restored query_log →
    d'.member = Function.update d.member query_log.key true
  made : s.Granted query_log →
    d'.made = if d.member query_log.key = true then d.made else query_log.key :: d.made

theorem leaves_of_not_granted (h : ¬ s.Granted query_log) : Leaves s query_log d d where
  dropped _ hid := .inl hid
  kept _ hid := hid
  droppable hdrop := absurd hdrop.1 h
  ungranted _ := ⟨rfl, rfl⟩
  restored hrestored := absurd hrestored.1.1 h
  left hgranted := absurd hgranted h
  made hgranted := absurd hgranted h

theorem leaves_of_not_droppable (hgranted : s.Granted query_log) (h : ¬ s.Droppable query_log) :
    Leaves s query_log d (d.granted query_log) where
  dropped _ hid := .inl hid
  kept _ hid := hid
  droppable hdrop := absurd hdrop h
  ungranted hungranted := absurd hgranted hungranted
  restored hrestored := absurd hrestored.1 h
  left _ _ := rfl
  made _ := rfl

theorem leaves_of_not_restored (hdrop : s.Droppable query_log) (h : ¬ s.Restored query_log) :
    Leaves s query_log d ((d.granted query_log).withoutTable query_log) where
  dropped _ hid := (List.mem_cons.mp hid).symm
  kept _ hid := List.mem_cons_of_mem _ hid
  droppable _ := List.mem_cons_self
  ungranted hungranted := absurd hdrop.1 hungranted
  restored hrestored := absurd hrestored h
  left _ _ := rfl
  made _ := rfl

theorem leaves_of_restored (h : s.Restored query_log) :
    Leaves s query_log d (((d.granted query_log).withoutTable query_log).revoked query_log) where
  dropped _ hid := (List.mem_cons.mp hid).symm
  kept _ hid := List.mem_cons_of_mem _ hid
  droppable _ := List.mem_cons_self
  ungranted hungranted := absurd h.1.1 hungranted
  restored _ := Function.update_idem ..
  left _ hleft := absurd h hleft
  made _ := rfl

theorem run_drop_query_table (s : Site) (query_log : QueryLog) (d : Databases) :
    ∃ d', Leaves s query_log d d' ∧
      (s.Completes query_log →
        (drop_query_table s.DATABASES_DATA query_log).run s.exec d = (.ok (), d')) ∧
      (¬ s.Completes query_log →
        (drop_query_table s.DATABASES_DATA query_log).run s.exec d = (.error (), d')) := by
  rw [drop_query_table]
  cases hdata : s.DATABASES_DATA query_log.connection with
  | none =>
      have hgranted : ¬ s.Granted query_log := by
        rintro ⟨data, he, -⟩
        rw [hdata] at he
        cases he
      exact ⟨d, leaves_of_not_granted hgranted, fun h => absurd h.1.1.1 hgranted, fun _ => rfl⟩
  | some data =>
      have hgranted : s.Granted query_log ↔
          s.succeeds (.acquire query_log (lock_name data query_log)) = true ∧
            s.succeeds (.grant query_log query_log.db_role data.USER) = true := by
        simp [Granted, All, hdata]
      have hrestored : s.Restored query_log ↔ s.Droppable query_log ∧
          s.succeeds (.revoke query_log query_log.db_role data.USER) = true := by
        simp [Restored, All, hdata]
      rw [Prog.ofOption, Prog.pure_bind, run_execute_bind]
      simp only [Prog.run_bind, Prog.run_attempt, run_execute, run_statements]
      by_cases hacquire : s.succeeds (.acquire query_log (lock_name data query_log)) = true
      case neg =>
        have hnot : ¬ s.Granted query_log := fun h => hacquire (hgranted.mp h).1
        refine ⟨d, leaves_of_not_granted hnot, fun h => absurd h.1.1.1 hnot, fun _ => ?_⟩
        rw [if_neg hacquire]
      rw [if_pos hacquire]
      by_cases hgrant : s.succeeds (.grant query_log query_log.db_role data.USER) = true
      case neg =>
        have hnot : ¬ s.Granted query_log := fun h => hgrant (hgranted.mp h).2
        refine ⟨d, leaves_of_not_granted hnot, fun h => absurd h.1.1.1 hnot, fun _ => ?_⟩
        rw [if_neg hgrant]
        cases s.succeeds (.release query_log) <;> rfl
      have hyes : s.Granted query_log := hgranted.mpr ⟨hacquire, hgrant⟩
      rw [if_pos hgrant]
      by_cases hdrop : s.succeeds (.drop_table query_log query_log.table) = true
      case neg =>
        have hnot : ¬ s.Droppable query_log := fun h => hdrop h.2
        refine ⟨_, leaves_of_not_droppable hyes hnot, fun h => absurd h.1.1 hnot, fun _ => ?_⟩
        rw [if_neg hdrop]
        cases s.succeeds (.release query_log) <;> rfl
      rw [if_pos hdrop]
      by_cases hrevoke : s.succeeds (.revoke query_log query_log.db_role data.USER) = true
      case neg =>
        have hnot : ¬ s.Restored query_log := fun h => hrevoke (hrestored.mp h).2
        refine ⟨_, leaves_of_not_restored ⟨hyes, hdrop⟩ hnot, fun h => absurd h.1 hnot, fun _ => ?_⟩
        rw [if_neg hrevoke]
        cases s.succeeds (.release query_log) <;> rfl
      rw [if_pos hrevoke]
      have hrestored : s.Restored query_log := hrestored.mpr ⟨⟨hyes, hdrop⟩, hrevoke⟩
      refine ⟨_, leaves_of_restored hrestored, ?_, ?_⟩
      · rintro ⟨-, hrelease⟩
        rw [hrelease]
        rfl
      · intro h
        have hrelease : s.succeeds (.release query_log) = false :=
          Bool.eq_false_iff.mpr fun hrelease => h ⟨hrestored, hrelease⟩
        rw [hrelease]
        rfl

/-! ## The loop -/

/-- Of the roles the user was made a member of there is none left. -/
def NoneLeft (d : Databases) : Prop := ∀ key ∈ d.made, d.member key = false

theorem Leaves.noneLeft {d' : Databases} (h : Leaves s query_log d d') (hd : NoneLeft d)
    (hrestored : s.Granted query_log → s.Restored query_log) : NoneLeft d' := by
  intro key hkey
  by_cases hgranted : s.Granted query_log
  · rw [h.restored (hrestored hgranted), Function.update_apply]
    rw [h.made hgranted] at hkey
    split
    · rfl
    · rename_i hne
      split at hkey
      · exact hd key hkey
      · exact hd key ((List.mem_cons.mp hkey).resolve_left hne)
  · obtain ⟨hmember, hmade⟩ := h.ungranted hgranted
    rw [hmember]
    rw [hmade] at hkey
    exact hd key hkey

theorem Leaves.noneLeft_iff {d' : Databases} (h : Leaves s query_log d d') (hd : NoneLeft d)
    (hgranted : s.Granted query_log) (hrestored : ¬ s.Restored query_log) :
    NoneLeft d' ↔ d.member query_log.key = true := by
  have hmember := h.left hgranted hrestored
  have hmade := h.made hgranted
  constructor
  · intro hnone
    by_contra hnot
    rw [if_neg hnot] at hmade
    have hkey := hnone query_log.key (by rw [hmade]; exact List.mem_cons_self)
    rw [hmember, Function.update_self] at hkey
    cases hkey
  · intro hwas key hkey
    rw [if_pos hwas] at hmade
    rw [hmade] at hkey
    have hfalse := hd key hkey
    have hne : key ≠ query_log.key := by
      rintro rfl
      rw [hwas] at hfalse
      cases hfalse
    rw [hmember, Function.update_of_ne hne, hfalse]

/-- What the loop leaves where it starts. -/
def loop (s : Site) (query_logs : List QueryLog) (d : Databases) : Databases :=
  ((cleanup_temporary_query_tables s.DATABASES_DATA query_logs).run s.exec d).2

theorem loop_cons (s : Site) (query_log : QueryLog) (query_logs : List QueryLog)
    (d : Databases) :
    ∃ d', Leaves s query_log d d' ∧
      (s.Completes query_log → loop s (query_log :: query_logs) d = loop s query_logs d') ∧
      (¬ s.Completes query_log → loop s (query_log :: query_logs) d = d') := by
  obtain ⟨d', hleaves, hok, herror⟩ := run_drop_query_table s query_log d
  refine ⟨d', hleaves, fun h => ?_, fun h => ?_⟩
  · rw [loop, cleanup_temporary_query_tables, Prog.run_bind, hok h]
    rfl
  · rw [loop, cleanup_temporary_query_tables, Prog.run_bind, herror h]

theorem loop_kept (s : Site) : ∀ (query_logs : List QueryLog) (d : Databases),
    ∀ id ∈ d.dropped, id ∈ (loop s query_logs d).dropped
  | [], _ => fun _ hid => hid
  | query_log :: query_logs, d => by
      intro id hid
      obtain ⟨d', hleaves, hok, herror⟩ := loop_cons s query_log query_logs d
      by_cases h : s.Completes query_log
      · rw [hok h]
        exact loop_kept s query_logs d' id (hleaves.kept id hid)
      · rw [herror h]
        exact hleaves.kept id hid

/-- Every table that can be dropped is dropped, and no membership is left. -/
def Cleaned (s : Site) (query_logs : List QueryLog) (d : Databases) : Prop :=
  (∀ query_log ∈ query_logs, s.Droppable query_log → query_log.id ∈ d.dropped) ∧ NoneLeft d

/-- The condition along the queries, with the memberships there are. -/
def Clean (s : Site) : (Str × Str → Bool) → List QueryLog → Prop
  | _, [] => True
  | member, query_log :: query_logs =>
      (s.Completes query_log →
        Clean s (Function.update member query_log.key false) query_logs) ∧
      (¬ s.Completes query_log → (∀ other ∈ query_logs, ¬ s.Droppable other) ∧
        (s.Granted query_log → ¬ s.Restored query_log → member query_log.key = true))

theorem loop_cleaned_iff (s : Site) : ∀ (query_logs : List QueryLog) (d : Databases),
    (query_logs.map QueryLog.id).Nodup → (∀ x ∈ query_logs, x.id ∉ d.dropped) → NoneLeft d →
      (Cleaned s query_logs (loop s query_logs d) ↔ Clean s d.member query_logs)
  | [], d, _, _, hd => iff_of_true ⟨fun _ h => absurd h List.not_mem_nil, hd⟩ trivial
  | query_log :: query_logs, d, hnodup, hnew, hd => by
      rw [List.map_cons, List.nodup_cons] at hnodup
      obtain ⟨hid, hnodup⟩ := hnodup
      obtain ⟨hnew₀, hnew⟩ := List.forall_mem_cons.mp hnew
      have hother {x : QueryLog} (hx : x ∈ query_logs) : x.id ≠ query_log.id := fun he =>
        hid (he ▸ List.mem_map_of_mem hx)
      obtain ⟨d', hleaves, hok, herror⟩ := loop_cons s query_log query_logs d
      have hnew' : ∀ x ∈ query_logs, x.id ∉ d'.dropped := fun x hx hdropped =>
        (hleaves.dropped x.id hdropped).elim (hnew x hx) (hother hx)
      rw [Clean]
      by_cases h : s.Completes query_log
      · have hnone := hleaves.noneLeft hd fun _ => h.1
        have ih := loop_cleaned_iff s query_logs d' hnodup hnew' hnone
        rw [hleaves.restored h.1] at ih
        rw [hok h, ← ih, Cleaned, Cleaned, List.forall_mem_cons]
        have hfirst : s.Droppable query_log → query_log.id ∈ (loop s query_logs d').dropped :=
          fun hdrop => loop_kept s query_logs d' _ (hleaves.droppable hdrop)
        simpa [h] using fun _ _ => hfirst
      · rw [herror h, Cleaned, List.forall_mem_cons]
        have hrest : (∀ x ∈ query_logs, s.Droppable x → x.id ∈ d'.dropped) ↔
            ∀ x ∈ query_logs, ¬ s.Droppable x :=
          forall₂_congr fun x hx =>
            ⟨fun hd hdrop => hnew' x hx (hd hdrop), fun hd hdrop => absurd hdrop hd⟩
        have hnone : NoneLeft d' ↔
            (s.Granted query_log → ¬ s.Restored query_log → d.member query_log.key = true) := by
          by_cases hgranted : s.Granted query_log
          · by_cases hrestored : s.Restored query_log
            · exact iff_of_true (hleaves.noneLeft hd fun _ => hrestored)
                fun _ hnot => absurd hrestored hnot
            · rw [hleaves.noneLeft_iff hd hgranted hrestored]
              simp [hgranted, hrestored]
          · exact iff_of_true (hleaves.noneLeft hd fun hyes => absurd hyes hgranted)
              fun hyes => absurd hyes hgranted
        rw [hrest, hnone]
        simpa [h] using fun _ _ => hleaves.droppable

theorem clean_iff (s : Site) : ∀ (query_logs : List QueryLog) (member : Str × Str → Bool),
    Clean s member query_logs ↔ ∀ before query_log after,
      query_logs = before ++ query_log :: after → (∀ x ∈ before, s.Completes x) →
        ¬ s.Completes query_log → (∀ x ∈ after, ¬ s.Droppable x) ∧
          (s.Granted query_log → ¬ s.Restored query_log →
            member query_log.key = true ∧ ∀ x ∈ before, x.key ≠ query_log.key)
  | [], member => by
      refine iff_of_true trivial fun before query_log after he => ?_
      exact absurd he.symm (List.append_ne_nil_of_right_ne_nil _ (List.cons_ne_nil _ _))
  | first :: query_logs, member => by
      rw [Clean, clean_iff s query_logs]
      constructor
      · rintro ⟨hok, herror⟩ before query_log after he hbefore hnot
        cases before with
        | nil =>
            cases he
            obtain ⟨hdrop, hleft⟩ := herror hnot
            exact ⟨hdrop, fun hg hr => ⟨hleft hg hr, fun _ h => absurd h List.not_mem_nil⟩⟩
        | cons first before =>
            cases he
            obtain ⟨hfirst, hbefore⟩ := List.forall_mem_cons.mp hbefore
            obtain ⟨hdrop, hleft⟩ := hok hfirst before query_log after rfl hbefore hnot
            refine ⟨hdrop, fun hg hr => ?_⟩
            obtain ⟨hmember, hkeys⟩ := hleft hg hr
            rw [Function.update_apply] at hmember
            split at hmember
            next => cases hmember
            next hne => exact ⟨hmember, List.forall_mem_cons.mpr ⟨fun he => hne he.symm, hkeys⟩⟩
      · intro h
        refine ⟨fun hfirst before query_log after he hbefore hnot => ?_, fun hnot => ?_⟩
        · obtain ⟨hdrop, hleft⟩ := h (first :: before) query_log after (by rw [he]; rfl)
            (List.forall_mem_cons.mpr ⟨hfirst, hbefore⟩) hnot
          refine ⟨hdrop, fun hg hr => ?_⟩
          obtain ⟨hmember, hkeys⟩ := hleft hg hr
          obtain ⟨hne, hkeys⟩ := List.forall_mem_cons.mp hkeys
          rw [Function.update_of_ne (Ne.symm hne)]
          exact ⟨hmember, hkeys⟩
        · obtain ⟨hdrop, hleft⟩ := h [] first query_logs rfl
            (fun _ hx => absurd hx List.not_mem_nil) hnot
          exact ⟨hdrop, fun hg hr => (hleft hg hr).1⟩

end Site

/-- The tables that can be dropped are dropped and no membership is left, if and only if behind
the first query that raises there is no table to be dropped, and that query has given its
membership back or left one that was there before. -/
theorem cleaned_iff (s : Site) :
    Site.Cleaned s s.query_logs s.cleaned ↔ ∀ before query_log after,
      s.query_logs = before ++ query_log :: after → (∀ x ∈ before, s.Completes x) →
        ¬ s.Completes query_log → (∀ x ∈ after, ¬ s.Droppable x) ∧
          (s.Granted query_log → ¬ s.Restored query_log →
            s.member query_log.key = true ∧ ∀ x ∈ before, x.key ≠ query_log.key) := by
  have hcleaned : s.cleaned = Site.loop s s.query_logs ⟨[], s.member, []⟩ := rfl
  rw [hcleaned, Site.loop_cleaned_iff s s.query_logs _ s.ids_nodup
    (fun _ _ => List.not_mem_nil) (fun _ h => absurd h List.not_mem_nil), Site.clean_iff]

section Examples

/-- The workspace's user in a database. -/
def datasets : DatabaseData := ⟨"datasets", "db", "5432", "app"⟩

/-- Two queries, of which the first was made with this connection, and whether tables can be
dropped. -/
def twoLogs (connection : Str) (drops : QueryLog → Bool) : Site where
  DATABASES_DATA name := if name = "my_database" then some datasets else none
  query_logs := [⟨1, "00000001", connection⟩, ⟨2, "00000002", "my_database"⟩]
  ids_nodup := by simp
  member _ := false
  succeeds
    | .drop_table query_log _ => drops query_log
    | _ => true

/-- A connection that is no longer configured keeps the tables of the queries behind it, and a
table that cannot be dropped leaves the membership behind. -/
theorem not_cleaned :
    (¬ Site.Cleaned (twoLogs "old_database" fun _ => true)
        (twoLogs "old_database" fun _ => true).query_logs
        (twoLogs "old_database" fun _ => true).cleaned) ∧
      ¬ Site.Cleaned (twoLogs "my_database" fun _ => false)
        (twoLogs "my_database" fun _ => false).query_logs
        (twoLogs "my_database" fun _ => false).cleaned := by
  constructor
  · rintro ⟨hdropped, -⟩
    have hsecond := hdropped ⟨2, "00000002", "my_database"⟩
      (List.mem_cons_of_mem _ List.mem_cons_self)
      ⟨⟨datasets, rfl, List.forall_mem_cons.mpr ⟨rfl, List.forall_mem_singleton.mpr rfl⟩⟩, rfl⟩
    exact absurd hsecond (by decide +kernel)
  · rintro ⟨-, hnone⟩
    have hkey := hnone ("my_database", "_user_00000001") (by decide +kernel)
    exact absurd hkey (by decide +kernel)

end Examples

end QueryTables

end Explorer
