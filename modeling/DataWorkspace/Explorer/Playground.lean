import DataWorkspace.Async.Shared
import DataWorkspace.Py.Text
import Mathlib.Data.List.Nodup

/-!
# Playground SQL

The Data Explorer keeps the SQL of a user in a row while the user goes from one page to another.
`save` and `share` look for a row of the text and insert one if there is none, and the lookup
raises where there are two.  No constraint keeps two rows apart, and other requests may happen
between the lookup and the insertion.  `edit` inserts a row without a lookup.

`one_row_of_each` is about the runs in which no request looks for a text or inserts it while
another one of the user is to insert it.
-/

namespace Explorer

open Py Async

namespace Playground

/-! ## Requests -/

structure PlaygroundSQL where
  id : Nat
  sql : Str
  created_by_user : Nat
deriving DecidableEq, Repr

/-- What rows are looked up by. -/
def PlaygroundSQL.key (row : PlaygroundSQL) : Nat × Str := (row.created_by_user, row.sql)

/-- The statements of a request, for its user. -/
inductive Op where
  /-- The saved query is looked for. -/
  | get_query (id : Nat)
  /-- The rows of a text are read.  A form may have no text. -/
  | get (sql : Option Str)
  /-- The row of an id is read. -/
  | get_id (play_id : Nat)
  /-- A row is inserted. -/
  | create (sql : Str)
  /-- A row without a text is to be inserted, which is refused. -/
  | create_null
  /-- All columns of a row are written. -/
  | save (row : PlaygroundSQL)
deriving DecidableEq

@[reducible] def Ans : Op → Type
  | .get_query _ => Bool
  | .get _ => List PlaygroundSQL
  | .get_id _ => Option PlaygroundSQL
  | .create _ => PlaygroundSQL
  | .create_null => Unit
  | .save _ => Unit

inductive Raised where
  | Http404
  | IntegrityError
  | MultipleObjectsReturned
deriving DecidableEq

/-- Where a request is redirected to, with the row. -/
inductive Redirect where
  | query_detail (query_id play_id : Nat)
  | query_create (play_id : Nat)
  | share_query (play_id : Nat)
  | index (play_id : Nat)
deriving DecidableEq

abbrev M (α : Type) := Prog Ans Raised α

def await (o : Op) : M (Ans o) := .perform o

/-- `PlaygroundSQL.objects.get`. -/
def get (sql : Option Str) : M (Option PlaygroundSQL) := do
  let rows : List PlaygroundSQL ← await (.get sql)
  match rows with
  | [] => .pure none
  | [row] => .pure (some row)
  | _ => .raise .MultipleObjectsReturned

/-- `PlaygroundSQL.objects.get_or_create`.  After an `IntegrityError` it looks again. -/
def get_or_create (sql : Option Str) : M PlaygroundSQL := do
  let found ← get sql
  match found, sql with
  | some row, _ => .pure row
  | none, some text => await (.create text)
  | none, none => do
      await .create_null
      let found ← get none
      .ofOption .IntegrityError found

/-- `get_object_or_404`, for the query that a request names. -/
def get_object_or_404 (existing_query_id : Option Nat) : M Unit :=
  match existing_query_id with
  | none => .pure ()
  | some id => do
      let found : Bool ← await (.get_query id)
      if found then .pure () else .raise .Http404

/-- The actions of the playground that store its SQL. -/
inductive Action where
  | save
  | share
deriving DecidableEq

/-- `PlayQueryView.post`, for these actions. -/
def play_post (action : Action) (existing_query_id : Option Nat) (sql : Option Str) :
    M Redirect := do
  get_object_or_404 existing_query_id
  let play_sql ← get_or_create sql
  await (.save play_sql)
  match action, existing_query_id with
  | .save, some id => .pure (.query_detail id play_sql.id)
  | .save, none => .pure (.query_create play_sql.id)
  | .share, _ => .pure (.share_query play_sql.id)

/-- `get_playground_sql_from_request`. -/
def get_playground_sql_from_request (play_id : Option Nat) : M (Option PlaygroundSQL) :=
  match play_id with
  | some id => await (.get_id id)
  | none => .pure none

/-- `CreateQueryView.post`, for the action `edit`. -/
def create_post (play_id : Option Nat) (sql : Str) : M Redirect := do
  let play_sql ← get_playground_sql_from_request play_id
  match play_sql with
  | some row => .pure (.index row.id)
  | none =>
      let row : PlaygroundSQL ← await (.create sql)
      .pure (.index row.id)

/-- A request that stores SQL. -/
inductive Form where
  | play (action : Action) (existing_query_id : Option Nat) (sql : Option Str)
  | edit (play_id : Option Nat) (sql : Str)
deriving DecidableEq

structure Request where
  user : Nat
  form : Form
deriving DecidableEq

def Request.prog (request : Request) : M Redirect :=
  match request.form with
  | .play action existing_query_id sql => play_post action existing_query_id sql
  | .edit play_id sql => create_post play_id sql

/-! ## The table -/

/-- The rows of a user and a text. -/
def rowsOf (rows : List PlaygroundSQL) (user : Nat) (sql : Str) : List PlaygroundSQL :=
  rows.filter fun row => row.key = (user, sql)

/-- A row is written: over the one of its id, or as a new one. -/
def saveRow (rows : List PlaygroundSQL) (row : PlaygroundSQL) : List PlaygroundSQL :=
  if rows.any (fun old => old.id = row.id) then
    rows.map fun old => if old.id = row.id then row else old
  else rows ++ [row]

/-- What the database answers a user and does.  Whether a query is there does not depend on this
table. -/
def act (user : Nat) : (o : Op) → List PlaygroundSQL → Ans o → List PlaygroundSQL → Prop
  | .get_query _, rows, _, rows' => rows' = rows
  | .get sql, rows, found, rows' =>
      rows' = rows ∧ found = (match sql with
        | some text => rowsOf rows user text
        | none => [])
  | .get_id play_id, rows, found, rows' =>
      rows' = rows ∧ found = rows.find? fun row => row.id = play_id ∧ row.created_by_user = user
  | .create sql, rows, row, rows' =>
      row.id ∉ rows.map PlaygroundSQL.id ∧ row.sql = sql ∧ row.created_by_user = user ∧
        rows' = rows ++ [row]
  | .create_null, rows, _, rows' => rows' = rows
  | .save row, rows, _, rows' => rows' = saveRow rows row

/-- Any number of requests, of any users. -/
def requests {ι : Type} (request : ι → Request) :
    Shared Ans Raised Redirect ι (List PlaygroundSQL) where
  prog i := (request i).prog
  act i := act (request i).user

/-! ## Where a request is -/

inductive Stage where
  | starting
  /-- It has found no row of the text, and is to insert one. -/
  | absent (sql : Str)
  /-- It has a row. -/
  | has (row : PlaygroundSQL)
  /-- It has found more than one row. -/
  | several
deriving DecidableEq

namespace Stage

def adv (stage : Stage) : Event Ans → Stage
  | ⟨.get (some sql), []⟩ => .absent sql
  | ⟨.get _, [row]⟩ => .has row
  | ⟨.get _, _ :: _ :: _⟩ => .several
  | ⟨.create _, row⟩ => .has row
  | _ => stage

/-- The stage in which an operation is performed. -/
def Performs (o : Op) (stage : Stage) : Prop :=
  match o with
  | .create sql => stage = .starting ∨ stage = .absent sql
  | .save row => stage = .has row
  | _ => stage = .starting

end Stage

/-- Why a request may raise. -/
def Request.MayRaise (request : Request) : Raised → Stage → Prop
  | .Http404, _ => True
  | .IntegrityError, _ => ∃ action query_id, request.form = .play action query_id none
  | .MultipleObjectsReturned, stage => stage = .several

/-- Stages, as an interpretation. -/
abbrev stages : Interp Ans Stage := summing Stage.adv Stage.Performs

/-- A postcondition of a value and one of an exception. -/
def post {α : Type} (F : α → Stage → Prop) (G : Raised → Stage → Prop) :
    Except Raised α → Stage → Prop
  | .ok a, stage => F a stage
  | .error e, stage => G e stage

section Stages

variable {G : Raised → Stage → Prop}

theorem wp_get (sql : Option Str) (hseveral : G .MultipleObjectsReturned .several) :
    wp stages (get sql) (post (fun found stage => match found, sql with
      | some row, _ => stage = .has row
      | none, some text => stage = .absent text
      | none, none => stage = .starting) G) .starting := by
  refine wp_summing.mpr ⟨rfl, fun rows => ?_⟩
  match rows, sql with
  | [], some text => rfl
  | [], none => rfl
  | [_], some _ => rfl
  | [_], none => rfl
  | _ :: _ :: _, some _ => exact hseveral
  | _ :: _ :: _, none => exact hseveral

theorem wp_get_or_create (sql : Option Str) (hseveral : G .MultipleObjectsReturned .several)
    (hnull : sql = none → ∀ stage, G .IntegrityError stage) :
    wp stages (get_or_create sql) (post (fun row stage => stage = .has row) G) .starting := by
  refine wp_bind_of (wp_get sql hseveral) ?_ fun _ _ h => h
  rintro (_ | row) stage hstage
  · cases sql with
    | some text =>
        subst hstage
        exact wp_summing.mpr ⟨.inr rfl, fun row => rfl⟩
    | none =>
        subst hstage
        refine wp_summing.mpr ⟨rfl, fun _ => ?_⟩
        show wp stages (get none >>= fun found => .ofOption .IntegrityError found) _ .starting
        refine wp_bind_of (wp_get none hseveral) ?_ fun _ _ h => h
        rintro (_ | row) stage hstage
        · exact hnull rfl stage
        · exact hstage
  · exact hstage

theorem wp_get_object_or_404 (existing_query_id : Option Nat)
    (h404 : ∀ stage, G .Http404 stage) :
    wp stages (get_object_or_404 existing_query_id) (post (fun _ stage => stage = .starting) G)
      .starting := by
  cases existing_query_id with
  | none => rfl
  | some id =>
      refine wp_summing.mpr ⟨rfl, fun found => ?_⟩
      cases found with
      | true => rfl
      | false => exact h404 _

theorem wp_stages (request : Request) :
    wp stages request.prog (post (fun _ _ => True) request.MayRaise) .starting := by
  obtain ⟨user, form⟩ := request
  cases form with
  | play action existing_query_id sql =>
      refine wp_bind_of (wp_get_object_or_404 existing_query_id fun _ => trivial) ?_ fun _ _ h => h
      rintro _ stage rfl
      refine wp_bind_of (wp_get_or_create sql rfl ?_) ?_ fun _ _ h => h
      · rintro rfl stage
        exact ⟨action, existing_query_id, rfl⟩
      · rintro row stage rfl
        refine wp_summing.mpr ⟨rfl, fun _ => ?_⟩
        cases action <;> cases existing_query_id <;> trivial
  | edit play_id sql =>
      have hcreate : wp stages (do
          let row : PlaygroundSQL ← await (.create sql)
          Prog.pure (Redirect.index row.id))
          (post (fun _ _ => True) (Request.MayRaise ⟨user, .edit play_id sql⟩)) .starting :=
        wp_summing.mpr ⟨.inl rfl, fun row => trivial⟩
      cases play_id with
      | none => exact hcreate
      | some id =>
          refine wp_summing.mpr ⟨rfl, fun found => ?_⟩
          cases found with
          | none => exact hcreate
          | some row => trivial

end Stages

/-! ## Runs -/

section Runs

variable {ι : Type} [DecidableEq ι] (request : ι → Request)

abbrev PlaygroundConfig (ι : Type) := Config Ans Raised Redirect ι (List PlaygroundSQL)

/-- Where a request is. -/
def stageOf (c : PlaygroundConfig ι) (i : ι) : Stage := c.summary Stage.adv .starting i

/-- The request of a user has found no row of a text, and is to insert one. -/
def Inserts (c : PlaygroundConfig ι) (user : Nat) (sql : Str) (j : ι) : Prop :=
  (request j).user = user ∧ stageOf c j = .absent sql

/-- None looks for a text while another request of the user is to insert it, and `edit` inserts
none that the user has a row of or that another request of the user is to insert. -/
def Apart (c : PlaygroundConfig ι) (i : ι) : Op → Prop
  | .get (some sql) => ∀ j, ¬ Inserts request c (request i).user sql j
  | .create sql => stageOf c i = .starting →
      (∀ row ∈ c.store, row.key ≠ ((request i).user, sql)) ∧
        ∀ j, ¬ Inserts request c (request i).user sql j
  | _ => True

/-- A table without two rows of an id, or of a user and a text. -/
structure Distinct (rows : List PlaygroundSQL) : Prop where
  ids : (rows.map PlaygroundSQL.id).Nodup
  keys : (rows.map PlaygroundSQL.key).Nodup

def Stage.Fits (rows : List PlaygroundSQL) (user : Nat) : Stage → Prop
  | .starting => True
  | .absent sql => ∀ row ∈ rows, row.key ≠ (user, sql)
  | .has row => row ∈ rows
  | .several => False

/-- No two requests of a user are to insert one text. -/
def Alone (stage : ι → Stage) : Prop :=
  ∀ i j sql, stage i = .absent sql → stage j = .absent sql →
    (request i).user = (request j).user → i = j

structure Consistent (rows : List PlaygroundSQL) (stage : ι → Stage) : Prop where
  distinct : Distinct rows
  fits : ∀ i, (stage i).Fits rows (request i).user
  alone : Alone request stage

section Rows

variable {rows : List PlaygroundSQL}

theorem length_rowsOf_le (h : Distinct rows) (user : Nat) (sql : Str) :
    (rowsOf rows user sql).length ≤ 1 := by
  have hcount : (rowsOf rows user sql).length =
      (rows.map PlaygroundSQL.key).count (user, sql) := by
    rw [rowsOf, ← List.countP_eq_length_filter, List.count, List.countP_map]
    congr 1
    funext row
    simp [beq_eq_decide]
  rw [hcount]
  exact List.nodup_iff_count_le_one.mp h.keys _

theorem saveRow_of_mem (h : Distinct rows) {row : PlaygroundSQL} (hrow : row ∈ rows) :
    saveRow rows row = rows := by
  have hany : rows.any (fun old => old.id = row.id) = true :=
    List.any_eq_true.mpr ⟨row, hrow, decide_eq_true rfl⟩
  rw [saveRow, if_pos hany]
  refine (List.map_congr_left fun old hold => ?_).trans (List.map_id rows)
  split
  next hid => exact (List.inj_on_of_nodup_map h.ids hold hrow hid).symm
  next => rfl

theorem Distinct.concat (h : Distinct rows) {row : PlaygroundSQL}
    (hid : row.id ∉ rows.map PlaygroundSQL.id) (hkey : ∀ old ∈ rows, old.key ≠ row.key) :
    Distinct (rows ++ [row]) := by
  constructor
  · rw [List.map_append, List.map_singleton]
    exact List.nodup_append_comm.mp (List.nodup_cons.mpr ⟨hid, h.ids⟩)
  · have hnot : row.key ∉ rows.map PlaygroundSQL.key := by
      intro hmem
      obtain ⟨old, hold, heq⟩ := List.mem_map.mp hmem
      exact hkey old hold heq
    rw [List.map_append, List.map_singleton]
    exact List.nodup_append_comm.mp (List.nodup_cons.mpr ⟨hnot, h.keys⟩)

end Rows

section Steps

variable {request} {rows : List PlaygroundSQL} {stage : ι → Stage} {i : ι}

theorem Alone.settle (h : Alone request stage) {next : Stage} (hnext : ∀ sql, next ≠ .absent sql) :
    Alone request (Function.update stage i next) := by
  intro j k sql hj hk huser
  have hold : ∀ l, Function.update stage i next l = .absent sql → stage l = .absent sql := by
    intro l hl
    by_cases hli : l = i
    · subst hli
      rw [Function.update_self] at hl
      exact absurd hl (hnext sql)
    · rwa [Function.update_of_ne hli] at hl
  exact h j k sql (hold j hj) (hold k hk) huser

theorem Consistent.settle (h : Consistent request rows stage) {next : Stage}
    (hnext : ∀ sql, next ≠ .absent sql) (hfits : next.Fits rows (request i).user) :
    Consistent request rows (Function.update stage i next) where
  distinct := h.distinct
  fits := (Function.forall_update_iff stage fun j s => s.Fits rows (request j).user).mpr
    ⟨hfits, fun j _ => h.fits j⟩
  alone := h.alone.settle hnext

theorem Consistent.stay (h : Consistent request rows stage) (i : ι) :
    Consistent request rows (Function.update stage i (stage i)) := by
  rw [Function.update_eq_self]
  exact h

theorem Consistent.search (h : Consistent request rows stage) {sql : Str}
    (hnone : ∀ row ∈ rows, row.key ≠ ((request i).user, sql))
    (hothers : ∀ j, ¬ ((request j).user = (request i).user ∧ stage j = .absent sql)) :
    Consistent request rows (Function.update stage i (.absent sql)) where
  distinct := h.distinct
  fits := (Function.forall_update_iff stage fun j s => s.Fits rows (request j).user).mpr
    ⟨hnone, fun j _ => h.fits j⟩
  alone j k sql' hj hk huser := by
    by_cases hji : j = i
    · by_cases hki : k = i
      · rw [hji, hki]
      · subst hji
        rw [Function.update_self, Stage.absent.injEq] at hj
        rw [Function.update_of_ne hki] at hk
        exact absurd ⟨huser.symm, hj ▸ hk⟩ (hothers k)
    · rw [Function.update_of_ne hji] at hj
      by_cases hki : k = i
      · subst hki
        rw [Function.update_self, Stage.absent.injEq] at hk
        exact absurd ⟨huser, hk ▸ hj⟩ (hothers j)
      · rw [Function.update_of_ne hki] at hk
        exact h.alone j k sql' hj hk huser

theorem Consistent.insert (h : Consistent request rows stage) {row : PlaygroundSQL}
    (hid : row.id ∉ rows.map PlaygroundSQL.id) (hkey : ∀ old ∈ rows, old.key ≠ row.key)
    (hothers : ∀ j ≠ i, ∀ sql, stage j = .absent sql → row.key ≠ ((request j).user, sql)) :
    Consistent request (rows ++ [row]) (Function.update stage i (.has row)) where
  distinct := h.distinct.concat hid hkey
  fits := by
    refine (Function.forall_update_iff stage fun j s => s.Fits (rows ++ [row]) (request j).user).mpr
      ⟨List.mem_append_right _ List.mem_cons_self, fun j hj => ?_⟩
    have hfits := h.fits j
    cases hstage : stage j with
    | starting => trivial
    | absent sql =>
        rw [hstage] at hfits
        intro old hold
        rcases List.mem_append.mp hold with hold | hold
        · exact hfits old hold
        · rw [List.mem_singleton.mp hold]
          exact hothers j hj sql hstage
    | has old =>
        rw [hstage] at hfits
        exact List.mem_append_left _ hfits
    | several =>
        rw [hstage] at hfits
        exact hfits
  alone := h.alone.settle fun sql hsql => nomatch hsql

theorem Consistent.acts {o : Op} {a : Ans o} {rows' : List PlaygroundSQL}
    (h : Consistent request rows stage) (hin : Stage.Performs o (stage i))
    (hget : ∀ sql, o = .get (some sql) →
      ∀ j, ¬ ((request j).user = (request i).user ∧ stage j = .absent sql))
    (hcreate : ∀ sql, o = .create sql → stage i = .starting →
      (∀ row ∈ rows, row.key ≠ ((request i).user, sql)) ∧
        ∀ j, ¬ ((request j).user = (request i).user ∧ stage j = .absent sql))
    (hact : act (request i).user o rows a rows') :
    Consistent request rows' (Function.update stage i ((stage i).adv ⟨o, a⟩)) := by
  cases o with
  | get_query id =>
      obtain rfl : rows' = rows := hact
      exact h.stay i
  | get_id play_id =>
      obtain rfl : rows' = rows := hact.1
      exact h.stay i
  | create_null =>
      obtain rfl : rows' = rows := hact
      exact h.stay i
  | save row =>
      have hfits := h.fits i
      rw [show stage i = .has row from hin] at hfits
      obtain rfl : rows' = saveRow rows row := hact
      rw [saveRow_of_mem h.distinct hfits]
      exact h.stay i
  | get sql =>
      cases sql with
      | none =>
          obtain ⟨rfl, rfl⟩ : rows' = rows ∧ a = [] := hact
          exact h.stay i
      | some sql =>
          obtain ⟨rfl, hfound⟩ : rows' = rows ∧ a = rowsOf rows (request i).user sql := hact
          have hmem : ∀ row, row ∈ a ↔ row ∈ rows' ∧ row.key = ((request i).user, sql) := by
            intro row
            rw [hfound, rowsOf, List.mem_filter, decide_eq_true_eq]
          rcases a with _ | ⟨row, _ | ⟨row', rest⟩⟩
          · refine h.search (fun row hrow hkey => ?_) (hget sql rfl)
            cases (hmem row).mpr ⟨hrow, hkey⟩
          · exact h.settle (fun _ hsql => nomatch hsql) ((hmem row).mp List.mem_cons_self).1
          · have hlength := length_rowsOf_le h.distinct (request i).user sql
            rw [← hfound] at hlength
            simp at hlength
  | create sql =>
      obtain ⟨hid, hsql, huser, rfl⟩ := hact
      have hkey : a.key = ((request i).user, sql) := by rw [PlaygroundSQL.key, huser, hsql]
      have hfree : (∀ row ∈ rows, row.key ≠ a.key) ∧
          ∀ j ≠ i, ∀ sql, stage j = .absent sql → a.key ≠ ((request j).user, sql) := by
        rw [hkey]
        rcases hin with hstage | hstage
        · obtain ⟨hrows, hothers⟩ := hcreate _ rfl hstage
          refine ⟨hrows, fun j _ sql hj heq => ?_⟩
          obtain ⟨huser', rfl⟩ := Prod.mk.inj heq
          exact hothers j ⟨huser'.symm, hj⟩
        · have hfits := h.fits i
          rw [hstage] at hfits
          refine ⟨hfits, fun j hji sql hj heq => ?_⟩
          obtain ⟨huser', rfl⟩ := Prod.mk.inj heq
          exact hji (h.alone j i _ hj hstage huser'.symm)
      exact h.insert hid hfree.1 hfree.2

end Steps

variable {request} {c : PlaygroundConfig ι} {rows₀ : List PlaygroundSQL}

theorem stageOf_go (i : ι) (e : Event Ans) (p : M Redirect) (rows : List PlaygroundSQL) :
    stageOf (c.go i e p rows) = Function.update (stageOf c) i ((stageOf c i).adv e) := by
  funext j
  by_cases hji : j = i
  · subst hji
    rw [Function.update_self]
    exact Config.summary_go_self _ _
  · rw [Function.update_of_ne hji]
    exact Config.summary_go_of_ne _ _ hji

theorem Distinct.consistent_of_run (h₀ : Distinct rows₀)
    (h : (requests request).Run (Apart request) rows₀ c) :
    Consistent request c.store (stageOf c) := by
  have hstart : Consistent request rows₀ fun _ => .starting :=
    ⟨h₀, fun _ => trivial, fun _ _ _ hi => nomatch hi⟩
  refine h.invariant (I := fun c => Consistent request c.store (stageOf c)) hstart ?_
  intro c i o k a rows hrun hi hok hact ih
  rw [stageOf_go]
  refine ih.acts (hrun.pre hi (wp_stages (request i))) ?_ ?_ hact
  · rintro sql rfl
    exact hok
  · rintro sql rfl
    exact hok

/-- In every run in which requests of a user for one text are apart, there is at most one row of a
user and a text, and a request that has a text raises nothing, unless its query is not there. -/
theorem one_row_of_each (h₀ : Distinct rows₀)
    (h : (requests request).Run (Apart request) rows₀ c) :
    (∀ user sql, (rowsOf c.store user sql).length ≤ 1) ∧
      ∀ i e, c.tasks i = .raise e → e = .Http404 ∨
        ∃ action query_id, (request i).form = .play action query_id none := by
  have hconsistent := h₀.consistent_of_run h
  refine ⟨length_rowsOf_le hconsistent.distinct, fun i e hi => ?_⟩
  have hraised : (request i).MayRaise e (stageOf c i) :=
    h.post (r := .error e) hi (wp_stages (request i))
  cases e with
  | Http404 => exact .inl rfl
  | IntegrityError => exact .inr hraised
  | MultipleObjectsReturned =>
      have hfits := hconsistent.fits i
      rw [show stageOf c i = .several from hraised] at hfits
      cases hfits

end Runs

/-! ## Saving and editing -/

/-- The user 1 saves a text. -/
def saves (sql : Str) : Request := ⟨1, .play .save none (some sql)⟩

/-- The user 1 edits a text, without a row to begin with. -/
def edits (sql : Str) : Request := ⟨1, .edit none sql⟩

def twoTexts (edit : Bool) : Request := if edit then edits "SELECT 2" else saves "SELECT 1"

theorem two_texts_apart : ∃ c, (requests twoTexts).Run (Apart twoTexts) [] c ∧
    c.store = [⟨1, "SELECT 1", 1⟩, ⟨2, "SELECT 2", 1⟩] ∧
    (∀ user sql, (rowsOf c.store user sql).length ≤ 1) ∧
      ∀ i e, c.tasks i = .raise e → e = .Http404 ∨
        ∃ action query_id, (twoTexts i).form = .play action query_id none := by
  have hempty : Distinct [] := ⟨.nil, .nil⟩
  have h₀ : (requests twoTexts).Run (Apart twoTexts) [] ((requests twoTexts).start []) := .refl
  have h₁ := h₀.step (i := false) (a := ([] : List PlaygroundSQL)) rfl
    (fun _ hj => nomatch hj.2) ⟨rfl, rfl⟩
  have h₂ := h₁.step (i := false) (a := (⟨1, "SELECT 1", 1⟩ : PlaygroundSQL)) rfl
    (fun h => nomatch h) ⟨by decide, rfl, rfl, rfl⟩
  have h₃ := h₂.step (i := false) (a := ()) rfl trivial rfl
  have h₄ := h₃.step (i := true) (a := (⟨2, "SELECT 2", 1⟩ : PlaygroundSQL)) rfl
    (fun _ => ⟨by decide, fun j hj => by cases j <;> exact nomatch hj.2⟩)
    ⟨by decide, rfl, rfl, rfl⟩
  exact ⟨_, h₄, by decide, one_row_of_each hempty h₄⟩

/-- A text is saved, edited without its row, and saved again. -/
def oneText (n : Nat) : Request := if n = 1 then edits "SELECT 1" else saves "SELECT 1"

/-- There are two rows, and the last request raises. -/
theorem edit_inserts_second_row : ∃ c, (requests oneText).Run Always [] c ∧
    (rowsOf c.store 1 "SELECT 1").length = 2 ∧ c.tasks 2 = .raise .MultipleObjectsReturned := by
  have h₀ : (requests oneText).Run Always [] ((requests oneText).start []) := .refl
  have h₁ := h₀.step (i := 0) (a := ([] : List PlaygroundSQL)) rfl trivial ⟨rfl, rfl⟩
  have h₂ := h₁.step (i := 0) (a := (⟨1, "SELECT 1", 1⟩ : PlaygroundSQL)) rfl trivial
    ⟨by decide, rfl, rfl, rfl⟩
  have h₃ := h₂.step (i := 0) (a := ()) rfl trivial rfl
  have h₄ := h₃.step (i := 1) (a := (⟨2, "SELECT 1", 1⟩ : PlaygroundSQL)) rfl trivial
    ⟨by decide, rfl, rfl, rfl⟩
  have h₅ := h₄.step (i := 2)
    (a := ([⟨1, "SELECT 1", 1⟩, ⟨2, "SELECT 1", 1⟩] : List PlaygroundSQL)) rfl trivial
    ⟨rfl, by decide⟩
  exact ⟨_, h₅, by decide, rfl⟩

end Playground

end Explorer
