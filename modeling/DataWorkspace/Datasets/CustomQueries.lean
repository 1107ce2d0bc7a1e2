import DataWorkspace.Async.Shared
import DataWorkspace.Py.Text
import Mathlib.Data.Fintype.Option

/-!
# The tables of a custom query

The tables that a custom query reads are extracted from its SQL and stored as rows of their own.
Of the ways in which the admin site writes a query, only the form inside its datacut stores them:
it locks the query, writes it, deletes its rows and creates new ones, in one transaction.  The
form of the query itself, the copies of a datacut and the re-saving of its sources for another
reference code write the query alone.

The model is about one query, from before it is there.  The transactions of any number of admins
go on statement by statement, and what they write is seen when they commit.  `tables_kept` is
about the runs in which a query that is written alone has the tables of the one it replaces.
-/

namespace Datasets

open Py Async

namespace CustomQueries

/-! ## The query and its rows -/

structure CustomDatasetQuery where
  dataset : Nat
  name : Str
  /-- `database.memorable_name`. -/
  database : Str
  query : Str
  frequency : Nat
  reviewed : Bool
  data_grid_enabled : Bool
deriving DecidableEq, Repr

/-- A `CustomDatasetQueryTable`. -/
structure TableRow where
  id : Nat
  schema : Str
  table : Str
deriving DecidableEq, Repr

/-- `extract_queried_tables_from_sql_query`, which lists a table once. -/
structure Extraction where
  tables : (database query : Str) → List (Str × Str)
  nodup : ∀ database query, (tables database query).Nodup

/-- What is committed about the query, and who has locked it. -/
structure Db (ι : Type) where
  row : Option CustomDatasetQuery
  tables : List TableRow
  next_id : Nat
  lock : Option ι

/-- The query was not created yet. -/
def Db.empty {ι : Type} : Db ι := ⟨none, [], 1, none⟩

/-! ## Transactions -/

/-- What a transaction writes. -/
inductive Change where
  /-- The query is written, the rows with these ids are deleted, and others are created. -/
  | save (object : CustomDatasetQuery) (deleted : List Nat) (created : List (Str × Str))
  /-- The query is created with its rows. -/
  | add (object : CustomDatasetQuery) (created : List (Str × Str))
  /-- The query is deleted, with the rows of these ids. -/
  | delete (deleted : List Nat)
  /-- The query is written alone. -/
  | write (object : CustomDatasetQuery)
  /-- The query is created alone. -/
  | insert (object : CustomDatasetQuery)
deriving DecidableEq

inductive Op where
  /-- The query is read. -/
  | get
  /-- The query is locked, by `SELECT … FOR UPDATE` or by being written. -/
  | lock
  /-- The rows of the query are deleted, and these are their ids. -/
  | delete_tables
  | commit (change : Change)
deriving DecidableEq

@[reducible] def Ans : Op → Type
  | .get => Option CustomDatasetQuery
  | .lock => Option CustomDatasetQuery
  | .delete_tables => List Nat
  | .commit _ => Bool

/-- New rows, with ids from a number on. -/
def createRows (first : Nat) (created : List (Str × Str)) : List TableRow :=
  created.zipIdx.map fun entry => ⟨first + entry.2, entry.1.1, entry.1.2⟩

/-- The rows that are left where some ids are deleted. -/
def without (tables : List TableRow) (deleted : List Nat) : List TableRow :=
  tables.filter fun row => decide (row.id ∉ deleted)

section

variable {ι : Type}

/-- A commit, unless a constraint refuses it: a key that is there already, or rows that are
left without their query. -/
def Db.apply (s : Db ι) : Change → Option (Db ι)
  | .save object deleted created =>
      some { s with
        row := some object
        tables := without s.tables deleted ++ createRows s.next_id created
        next_id := s.next_id + created.length }
  | .add object created =>
      if s.row.isSome then none
      else some { s with
        row := some object
        tables := s.tables ++ createRows s.next_id created
        next_id := s.next_id + created.length }
  | .delete deleted =>
      if without s.tables deleted ≠ [] then none else some { s with row := none, tables := [] }
  | .write object => some { s with row := some object }
  | .insert object => if s.row.isSome then none else some { s with row := some object }

variable [DecidableEq ι]

/-- The end of a transaction. -/
def Db.release (s : Db ι) (i : ι) : Db ι := if s.lock = some i then { s with lock := none } else s

/-- What a statement of a transaction may answer and do.  A lock waits while another transaction
has it, and any commit may fail. -/
def act (i : ι) : (o : Op) → Db ι → Ans o → Db ι → Prop
  | .get, s, a, s' => a = s.row ∧ s' = s
  | .lock, s, a, s' =>
      a = s.row ∧
        match s.row with
        | none => s' = s
        | some _ => s.lock = none ∧ s' = { s with lock := some i }
  | .delete_tables, s, a, s' => a = s.tables.map TableRow.id ∧ s' = s
  | .commit _, s, false, s' => s' = s.release i
  | .commit change, s, true, s' => ∃ s₁, s.apply change = some s₁ ∧ s' = s₁.release i

end

inductive Exc where
  | Http404
  | ValidationError
  | DoesNotExist
  | IntegrityError
deriving DecidableEq, Repr

abbrev M := Prog Ans Exc

def execute (o : Op) : M (Ans o) := .perform o

def commit (change : Change) : M Unit := do
  let committed : Bool ← execute (.commit change)
  match committed with
  | true => .pure ()
  | false => .raise .IntegrityError

/-! ## The admin site -/

/-- The values that are posted for a query.  Some may not change whether it is reviewed. -/
structure Posted where
  name : Str
  database : Str
  query : Str
  frequency : Nat
  reviewed : Option Bool
  data_grid_enabled : Bool
deriving DecidableEq, Repr

/-- `set(self.changed_data) - {"reviewed"}`. -/
def Posted.changesOthers (posted : Posted) (instance_ : CustomDatasetQuery) : Bool :=
  decide (posted.name ≠ instance_.name) || decide (posted.database ≠ instance_.database) ||
    decide (posted.query ≠ instance_.query) || decide (posted.frequency ≠ instance_.frequency) ||
    decide (posted.data_grid_enabled ≠ instance_.data_grid_enabled)

/-- `form.has_changed()`. -/
def Posted.has_changed (posted : Posted) (instance_ : CustomDatasetQuery) : Bool :=
  posted.changesOthers instance_ || posted.reviewed.any (· ≠ instance_.reviewed)

/-- `CustomDatasetQueryInlineForm.clean`, and the query with the values. -/
def CustomDatasetQueryInlineForm.clean (published : Bool) (posted : Posted)
    (instance_ : CustomDatasetQuery) : Option CustomDatasetQuery :=
  if posted.reviewed = some false ∧ published = true then none
  else
    let reviewed :=
      if instance_.reviewed && !published && posted.changesOthers instance_ then false
      else posted.reviewed.getD instance_.reviewed
    some { instance_ with
      name := posted.name
      database := posted.database
      query := posted.query
      frequency := posted.frequency
      reviewed := reviewed
      data_grid_enabled := posted.data_grid_enabled }

section

variable (extraction : Extraction)

def CustomDatasetQuery.extract (q : CustomDatasetQuery) : List (Str × Str) :=
  extraction.tables q.database q.query

/-- `CustomDatasetQueryInlineForm.save`, of a query that is there. -/
def CustomDatasetQueryInlineForm.save (object : CustomDatasetQuery) : M Unit := do
  let current : Option CustomDatasetQuery ← execute .lock
  match current with
  | none => .raise .DoesNotExist
  | some _ => do
      let deleted : List Nat ← execute .delete_tables
      commit (.save object deleted (object.extract extraction))

def inline_edit (published : Bool) (posted : Posted) : M Unit := do
  let instance_ : Option CustomDatasetQuery ← execute .get
  match instance_ with
  | none => .raise .ValidationError
  | some instance_ =>
      match CustomDatasetQueryInlineForm.clean published posted instance_ with
      | none => .raise .ValidationError
      | some object =>
          if posted.has_changed instance_ then CustomDatasetQueryInlineForm.save extraction object
          else .pure ()

/-- A query is created in its datacut. -/
def inline_add (published : Bool) (dataset : Nat) (posted : Posted) : M Unit :=
  let instance_ : CustomDatasetQuery := ⟨dataset, [], [], [], 0, false, false⟩
  match CustomDatasetQueryInlineForm.clean published posted instance_ with
  | none => .raise .ValidationError
  | some object => commit (.add object (object.extract extraction))

/-- A query is deleted in its datacut: its rows first, and then the query itself. -/
def inline_delete : M Unit := do
  let instance_ : Option CustomDatasetQuery ← execute .get
  match instance_ with
  | none => .raise .ValidationError
  | some _ => do
      let deleted : List Nat ← execute .delete_tables
      let current : Option CustomDatasetQuery ← execute .lock
      match current with
      | none => .pure ()
      | some _ => commit (.delete deleted)

/-- `Model.save` of a query with a key: it is created where it is not there to be written. -/
def save (object : CustomDatasetQuery) : M Unit := do
  let current : Option CustomDatasetQuery ← execute .lock
  match current with
  | some _ => commit (.write object)
  | none => commit (.insert object)

/-- The form of `CustomDatasetQueryAdmin` is posted. -/
def own_edit (dataset : Nat) (posted : Posted) : M Unit := do
  let instance_ : Option CustomDatasetQuery ← execute .get
  match instance_ with
  | none => .raise .Http404
  | some instance_ =>
      save
        { dataset := dataset
          name := posted.name
          database := posted.database
          query := posted.query
          frequency := posted.frequency
          reviewed := posted.reviewed.getD instance_.reviewed
          data_grid_enabled := posted.data_grid_enabled }

/-- `DataSet.save` for another reference code, as far as this query is among the
`related_objects`. -/
def resave : M Unit := do
  let obj : Option CustomDatasetQuery ← execute .get
  match obj with
  | none => .pure ()
  | some obj => save obj

/-- `DataSet.clone`, where this query is the copy of another. -/
def clone (obj : CustomDatasetQuery) (dataset : Nat) : M Unit :=
  commit (.insert { obj with dataset := dataset })

inductive Request where
  | inline_add (published : Bool) (dataset : Nat) (posted : Posted)
  | inline_edit (published : Bool) (posted : Posted)
  | inline_delete
  | own_edit (dataset : Nat) (posted : Posted)
  | resave
  | clone (obj : CustomDatasetQuery) (dataset : Nat)

def Request.serve (request : Request) : M Unit :=
  match request with
  | .inline_add published dataset posted =>
      CustomQueries.inline_add extraction published dataset posted
  | .inline_edit published posted => CustomQueries.inline_edit extraction published posted
  | .inline_delete => CustomQueries.inline_delete
  | .own_edit dataset posted => CustomQueries.own_edit dataset posted
  | .resave => CustomQueries.resave
  | .clone obj dataset => CustomQueries.clone obj dataset

end

/-! ## Where a transaction is -/

/-- Whether a transaction has the lock, and the rows it deleted since. -/
inductive Stage where
  | free
  | holding
  | deleting (deleted : List Nat)
  | over
deriving DecidableEq

def Stage.adv : Stage → Event Ans → Stage
  | .free, ⟨.lock, some _⟩ => .holding
  | .holding, ⟨.delete_tables, deleted⟩ => .deleting deleted
  | _, ⟨.commit _, _⟩ => .over
  | stage, _ => stage

def Stage.Holds : Stage → Bool
  | .holding => true
  | .deleting _ => true
  | _ => false

/-- The stage in which a statement is performed, and the rows that are created. -/
def Stage.Performs (extraction : Extraction) (stage : Stage) : Op → Prop
  | .get => stage = .free
  | .lock => stage = .free
  | .delete_tables => stage = .free ∨ stage = .holding
  | .commit (.save object deleted created) =>
      stage = .deleting deleted ∧ created = object.extract extraction
  | .commit (.add object created) => stage = .free ∧ created = object.extract extraction
  | .commit (.delete _) => stage = .holding
  | .commit (.write _) => stage = .holding
  | .commit (.insert _) => stage = .free

section

variable {extraction : Extraction}

/-- A program under the stages. -/
abbrev Staged (extraction : Extraction) {α : Type} (p : M α) (stage : Stage) : Prop :=
  Meets (summing Stage.adv fun o stage => stage.Performs extraction o) p stage

theorem staged_commit {change : Change} {stage : Stage}
    (h : stage.Performs extraction (.commit change)) : Staged extraction (commit change) stage :=
  Meets.perform h fun committed => by cases committed <;> trivial

theorem staged_save {object : CustomDatasetQuery} : Staged extraction (save object) .free := by
  refine Meets.perform rfl fun current => ?_
  cases current with
  | none => exact staged_commit rfl
  | some _ => exact staged_commit rfl

theorem staged_inline_save {object : CustomDatasetQuery} :
    Staged extraction (CustomDatasetQueryInlineForm.save extraction object) .free := by
  refine Meets.perform rfl fun current => ?_
  cases current with
  | none => trivial
  | some _ => exact Meets.perform (.inr rfl) fun deleted => staged_commit ⟨rfl, rfl⟩

theorem Request.staged (request : Request) :
    Staged extraction (request.serve extraction) .free := by
  cases request with
  | inline_add published dataset posted =>
      rw [Request.serve, CustomQueries.inline_add]
      split
      next => trivial
      next => exact staged_commit ⟨rfl, rfl⟩
  | inline_edit published posted =>
      refine Meets.perform rfl fun instance_ => ?_
      cases instance_ with
      | none => trivial
      | some instance_ =>
          dsimp only
          split
          next => trivial
          next =>
            split
            next => exact staged_inline_save
            next => trivial
  | inline_delete =>
      refine Meets.perform rfl fun instance_ => ?_
      cases instance_ with
      | none => trivial
      | some _ =>
          refine Meets.perform (.inl rfl) fun deleted => Meets.perform rfl fun current => ?_
          cases current with
          | none => trivial
          | some _ => exact staged_commit rfl
  | own_edit dataset posted =>
      refine Meets.perform rfl fun instance_ => ?_
      cases instance_ with
      | none => trivial
      | some _ => exact staged_save
  | resave =>
      refine Meets.perform rfl fun obj => ?_
      cases obj with
      | none => trivial
      | some _ => exact staged_save
  | clone obj dataset => exact staged_commit rfl

end

/-! ## What is kept -/

def pairs (tables : List TableRow) : List (Str × Str) :=
  tables.map fun row => (row.schema, row.table)

/-- The tables of the query that is there, if any. -/
def wanted (extraction : Extraction) (row : Option CustomDatasetQuery) : List (Str × Str) :=
  row.elim [] fun q => q.extract extraction

/-- The rows are exactly the tables of the query, each once. -/
structure Db.TablesExact {ι : Type} (extraction : Extraction) (s : Db ι) : Prop where
  nodup : (pairs s.tables).Nodup
  mem : ∀ p, p ∈ pairs s.tables ↔ p ∈ wanted extraction s.row

@[simp] theorem pairs_createRows (first : Nat) (created : List (Str × Str)) :
    pairs (createRows first created) = created := by
  rw [pairs, createRows, List.map_map]
  exact (List.map_congr_left fun _ _ => rfl).trans (List.zipIdx_map_fst 0 created)

theorem without_all (tables : List TableRow) : without tables (tables.map TableRow.id) = [] := by
  rw [without, List.filter_eq_nil_iff]
  intro row hrow hnot
  exact of_decide_eq_true hnot (List.mem_map_of_mem hrow)

theorem Db.TablesExact.tables_eq_nil {ι : Type} {extraction : Extraction} {s : Db ι}
    (h : s.TablesExact extraction) (hnone : s.row = none) : s.tables = [] := by
  rw [← List.map_eq_nil_iff (f := fun row : TableRow => (row.schema, row.table))]
  refine List.eq_nil_iff_forall_not_mem.mpr fun p hp => ?_
  have hwanted := (h.mem p).mp hp
  rw [hnone] at hwanted
  exact absurd hwanted List.not_mem_nil

section Runs

variable {ι : Type} [DecidableEq ι] (extraction : Extraction) (requests : ι → Request)

def admins : Shared Ans Exc Unit ι (Db ι) where
  prog i := (requests i).serve extraction
  act := act

abbrev AdminConfig (ι : Type) := Config Ans Exc Unit ι (Db ι)

/-- A query that is written alone has the tables of the one it replaces, and none where there
is none to replace. -/
def KeepsTables (c : AdminConfig ι) (_ : ι) : Op → Prop
  | .commit (.write object) =>
      ∀ p, p ∈ object.extract extraction ↔ p ∈ wanted extraction c.store.row
  | .commit (.insert object) => object.extract extraction = []
  | _ => True

def stage (c : AdminConfig ι) (i : ι) : Stage := c.summary Stage.adv .free i

structure Kept (c : AdminConfig ι) : Prop where
  exact : c.store.TablesExact extraction
  holds : ∀ i, (stage c i).Holds = true → c.store.lock = some i
  locked : ∀ i, c.store.lock = some i → c.store.row.isSome = true
  deleting : ∀ i deleted, stage c i = .deleting deleted →
    deleted = c.store.tables.map TableRow.id

variable {extraction requests} {c : AdminConfig ι} {i : ι} {e : Event Ans} {p : M Unit} {s : Db ι}

theorem stage_go_self : stage (c.go i e p s) i = (stage c i).adv e := Config.summary_go_self ..

theorem stage_go_of_ne {j : ι} (h : j ≠ i) : stage (c.go i e p s) j = stage c j :=
  Config.summary_go_of_ne _ _ h

theorem holds_of_deleting {stage : Stage} {deleted : List Nat} (h : stage = .deleting deleted) :
    stage.Holds = true := by
  rw [h]
  rfl

theorem Kept.go (h : Kept extraction c) (hexact : s.TablesExact extraction)
    (hself : ((stage c i).adv e).Holds = true → s.lock = some i)
    (hdeleting : ∀ deleted, (stage c i).adv e = .deleting deleted →
      deleted = s.tables.map TableRow.id)
    (hothers : ∀ j, j ≠ i → (stage c j).Holds = true →
      s.lock = some j ∧ s.tables = c.store.tables)
    (hlocked : ∀ j, s.lock = some j → s.row.isSome = true) : Kept extraction (c.go i e p s) where
  exact := hexact
  holds j hj := by
    by_cases hji : j = i
    · subst hji
      rw [stage_go_self] at hj
      exact hself hj
    · rw [stage_go_of_ne hji] at hj
      exact (hothers j hji hj).1
  locked := hlocked
  deleting j deleted hj := by
    by_cases hji : j = i
    · subst hji
      rw [stage_go_self] at hj
      exact hdeleting deleted hj
    · rw [stage_go_of_ne hji] at hj
      rw [Config.go_store, (hothers j hji (holds_of_deleting hj)).2]
      exact h.deleting j deleted hj

theorem Kept.over (h : Kept extraction c) {change : Change} {committed : Bool}
    (hexact : s.TablesExact extraction)
    (hlock : s.lock = if c.store.lock = some i then none else c.store.lock)
    (hothers : ∀ j, c.store.lock = some j → j ≠ i → s.tables = c.store.tables)
    (hlocked : ∀ j, c.store.lock = some j → j ≠ i → s.row.isSome = true) :
    Kept extraction (c.go i ⟨.commit change, committed⟩ p s) := by
  have hover : (stage c i).adv ⟨.commit change, committed⟩ = .over := by
    cases stage c i <;> rfl
  refine h.go hexact (fun hholds => ?_) (fun deleted hdeleting => ?_) (fun j hj hholds => ?_)
    fun j hj => ?_
  · rw [hover] at hholds
    cases hholds
  · rw [hover] at hdeleting
    cases hdeleting
  · have hlock' := h.holds j hholds
    refine ⟨?_, hothers j hlock' hj⟩
    rw [hlock, hlock', if_neg fun heq => hj (Option.some.inj heq)]
  · rw [hlock] at hj
    split at hj
    next => cases hj
    next hne => exact hlocked j hj fun heq => hne (heq ▸ hj)

omit [DecidableEq ι] in
theorem Kept.lock_eq_none (h : Kept extraction c) (hnone : c.store.row = none) :
    c.store.lock = none := by
  cases hlock : c.store.lock with
  | none => rfl
  | some j =>
      have hsome := h.locked j hlock
      rw [hnone] at hsome
      cases hsome

theorem release_lock (s : Db ι) (i : ι) :
    (s.release i).lock = if s.lock = some i then none else s.lock := by
  rw [Db.release]
  split <;> rfl

theorem release_tables (s : Db ι) (i : ι) : (s.release i).tables = s.tables := by
  rw [Db.release]
  split <;> rfl

theorem release_row (s : Db ι) (i : ι) : (s.release i).row = s.row := by
  rw [Db.release]
  split <;> rfl

theorem exact_release {s : Db ι} (h : s.TablesExact extraction) :
    (s.release i).TablesExact extraction := by
  refine ⟨?_, ?_⟩
  · rw [release_tables]
    exact h.nodup
  · rw [release_tables, release_row]
    exact h.mem

theorem kept_lock (h : Kept extraction c) (hstage : stage c i = .free)
    {a : Option CustomDatasetQuery} (hact : act i .lock c.store a s) :
    Kept extraction (c.go i ⟨.lock, a⟩ p s) := by
  obtain ⟨rfl, hact⟩ := hact
  cases hrow : c.store.row with
  | none =>
      rw [hrow] at hact
      obtain rfl : s = c.store := hact
      have hadv : (stage c i).adv ⟨.lock, none⟩ = .free := by rw [hstage]; rfl
      refine h.go h.exact (fun hholds => ?_) (fun deleted hdeleting => ?_)
        (fun j _ hholds => ⟨h.holds j hholds, rfl⟩) h.locked
      · rw [hadv] at hholds
        cases hholds
      · rw [hadv] at hdeleting
        cases hdeleting
  | some q =>
      rw [hrow] at hact
      obtain ⟨hfree, rfl⟩ := hact
      have hadv : (stage c i).adv ⟨.lock, some q⟩ = .holding := by rw [hstage]; rfl
      refine h.go ⟨h.exact.nodup, fun p => hrow ▸ h.exact.mem p⟩ (fun _ => rfl)
        (fun deleted hdeleting => ?_) (fun j _ hholds => ?_) fun j _ => rfl
      · rw [hadv] at hdeleting
        cases hdeleting
      · rw [h.holds j hholds] at hfree
        cases hfree

theorem kept_delete_tables (h : Kept extraction c)
    (hstage : stage c i = .free ∨ stage c i = .holding) :
    Kept extraction
      (c.go i ⟨.delete_tables, c.store.tables.map TableRow.id⟩ p c.store) := by
  refine h.go h.exact (fun hholds => ?_) (fun deleted hdeleting => ?_)
    (fun j _ hholds => ⟨h.holds j hholds, rfl⟩) h.locked
  · rcases hstage with hstage | hstage
    · rw [hstage] at hholds
      cases hholds
    · exact h.holds i (by rw [hstage]; rfl)
  · rcases hstage with hstage | hstage
    · rw [hstage] at hdeleting
      cases hdeleting
    · rw [hstage] at hdeleting
      exact (Stage.deleting.inj hdeleting).symm

theorem kept_commit (h : Kept extraction c) {change : Change} {s₁ : Db ι}
    (hperforms : (stage c i).Performs extraction (.commit change))
    (hok : KeepsTables extraction c i (.commit change)) (happly : c.store.apply change = some s₁) :
    Kept extraction (c.go i ⟨.commit change, true⟩ p (s₁.release i)) := by
  -- who holds the lock is alone with it
  have hmine (hholds : (stage c i).Holds = true) (j : ι) (hj : c.store.lock = some j) :
      j = i := Option.some.inj (hj.symm.trans (h.holds i hholds))
  cases change with
  | save object deleted created =>
      obtain ⟨hstage, rfl⟩ := hperforms
      have halone := hmine (holds_of_deleting hstage)
      have htables : without c.store.tables deleted = [] := by
        rw [h.deleting i deleted hstage]
        exact without_all _
      cases happly
      refine h.over (exact_release ⟨?_, ?_⟩) (release_lock _ i)
        (fun j hj hne => absurd (halone j hj) hne) fun j hj hne => absurd (halone j hj) hne
      · rw [htables, List.nil_append, pairs_createRows]
        exact extraction.nodup _ _
      · rw [htables, List.nil_append, pairs_createRows]
        exact fun p => Iff.rfl
  | add object created =>
      obtain ⟨hstage, rfl⟩ := hperforms
      rw [Db.apply] at happly
      split at happly
      next => cases happly
      next hsome =>
        have hnone : c.store.row = none := Option.not_isSome_iff_eq_none.mp hsome
        have hlock := h.lock_eq_none hnone
        cases happly
        refine h.over (exact_release ⟨?_, ?_⟩) (release_lock _ i) (fun j hj _ => ?_)
          fun j hj _ => ?_
        · rw [h.exact.tables_eq_nil hnone, List.nil_append, pairs_createRows]
          exact extraction.nodup _ _
        · rw [h.exact.tables_eq_nil hnone, List.nil_append, pairs_createRows]
          exact fun p => Iff.rfl
        · rw [hlock] at hj
          cases hj
        · rw [hlock] at hj
          cases hj
  | delete deleted =>
      have halone := hmine (by rw [show stage c i = .holding from hperforms]; rfl)
      rw [Db.apply] at happly
      split at happly
      next => cases happly
      next =>
        cases happly
        exact h.over (exact_release ⟨List.nodup_nil, fun p => Iff.rfl⟩) (release_lock _ i)
          (fun j hj hne => absurd (halone j hj) hne) fun j hj hne => absurd (halone j hj) hne
  | write object =>
      have halone := hmine (by rw [show stage c i = .holding from hperforms]; rfl)
      cases happly
      refine h.over (exact_release ⟨h.exact.nodup, fun p => ?_⟩) (release_lock _ i)
        (fun j hj hne => absurd (halone j hj) hne) fun j hj hne => absurd (halone j hj) hne
      exact (h.exact.mem p).trans (hok p).symm
  | insert object =>
      rw [Db.apply] at happly
      split at happly
      next => cases happly
      next hsome =>
        have hnone : c.store.row = none := Option.not_isSome_iff_eq_none.mp hsome
        have hlock := h.lock_eq_none hnone
        have hempty : object.extract extraction = [] := hok
        cases happly
        refine h.over (exact_release ⟨h.exact.nodup, fun p => ?_⟩) (release_lock _ i)
          (fun j hj _ => ?_) fun j hj _ => ?_
        · rw [h.exact.mem p, hnone, wanted, wanted, Option.elim_some, hempty]
          exact Iff.rfl
        · rw [hlock] at hj
          cases hj
        · rw [hlock] at hj
          cases hj

theorem kept_of_run (h : (admins extraction requests).Run (KeepsTables extraction) .empty c) :
    Kept extraction c := by
  have hstart : Kept extraction ((admins extraction requests).start .empty) := by
    refine ⟨⟨List.nodup_nil, fun p => Iff.rfl⟩, fun i hi => ?_, fun i hi => ?_,
      fun i deleted hi => ?_⟩
    all_goals cases hi
  refine h.invariant hstart fun {c i o k a s} hrun hi hok hact ih => ?_
  have hperforms : (stage c i).Performs extraction o := hrun.pre hi (requests i).staged
  cases o with
  | get =>
      obtain ⟨rfl, rfl⟩ := hact
      have hstage : stage c i = .free := hperforms
      refine ih.go ih.exact (fun hholds => ?_) (fun deleted hdeleting => ?_)
        (fun j _ hholds => ⟨ih.holds j hholds, rfl⟩) ih.locked
      · rw [hstage] at hholds
        cases hholds
      · rw [hstage] at hdeleting
        cases hdeleting
  | lock => exact kept_lock ih hperforms hact
  | delete_tables =>
      obtain ⟨rfl, rfl⟩ := hact
      exact kept_delete_tables ih hperforms
  | commit change =>
      cases a with
      | false =>
          obtain rfl : s = c.store.release i := hact
          refine ih.over (exact_release ih.exact) (release_lock _ i)
            (fun j _ _ => release_tables _ i) fun j hj _ => ?_
          rw [release_row]
          exact ih.locked j hj
      | true =>
          obtain ⟨s₁, happly, rfl⟩ := hact
          exact kept_commit ih hperforms hok happly

/-- In every run in which the queries that are written alone have the tables of those they
replace, the rows are exactly the tables of the query that is there, each once. -/
theorem tables_kept (h : (admins extraction requests).Run (KeepsTables extraction) .empty c) :
    c.store.TablesExact extraction :=
  (kept_of_run h).exact

end Runs

/-! ## Edits of one query -/

section Examples

/-- A query of one table, the one after its `FROM`. -/
def oneTable : Extraction where
  tables _ query :=
    if query = "SELECT * FROM a" then [("public", "a")]
    else if query = "SELECT * FROM b" then [("public", "b")]
    else []
  nodup _ query := by
    split
    · simp
    · split <;> simp

def posted (query : Str) : Posted := ⟨"Sales", "datasets", query, 1, some false, false⟩

/-- A query is created, and two admins edit it in its datacut. -/
def twoEdits : Option Bool → Request
  | none => .inline_add false 5 (posted "SELECT * FROM a")
  | some true => .inline_edit false (posted "SELECT * FROM b")
  | _ => .inline_edit false (posted "SELECT 1")

/-- A query is created, and edited in its own form. -/
def ownEdit : Option Bool → Request
  | none => .inline_add false 5 (posted "SELECT * FROM a")
  | _ => .own_edit 5 (posted "SELECT * FROM b")

/-- A query comes into being as a copy. -/
def copied : Option Bool → Request :=
  fun _ => .clone ⟨5, "Sales", "datasets", "SELECT * FROM a", 1, false, false⟩ 6

def answer : Choice Ans (Option Bool) (Db (Option Bool))
  | _, .get, s => some (s.row, s)
  | i, .lock, s =>
      match s.row with
      | none => some (none, s)
      | some q => if s.lock = none then some (some q, { s with lock := some i }) else none
  | _, .delete_tables, s => some (s.tables.map TableRow.id, s)
  | i, .commit change, s =>
      match s.apply change with
      | none => some (false, s.release i)
      | some s₁ => some (true, s₁.release i)

theorem answer_acts {requests : Option Bool → Request} :
    ∀ i o s a s', answer i o s = some (a, s') → (admins oneTable requests).act i o s a s' := by
  intro i o s a s' h
  cases o with
  | get =>
      cases h
      exact ⟨rfl, rfl⟩
  | lock =>
      rw [answer] at h
      split at h
      next hrow =>
        cases h
        exact ⟨hrow.symm, by rw [hrow]⟩
      next q hrow =>
        split at h
        next hlock =>
          cases h
          exact ⟨hrow.symm, by rw [hrow]; exact ⟨hlock, rfl⟩⟩
        next => cases h
  | delete_tables =>
      cases h
      exact ⟨rfl, rfl⟩
  | commit change =>
      rw [answer] at h
      split at h
      next =>
        cases h
        exact rfl
      next s₁ happly =>
        cases h
        exact ⟨s₁, happly, rfl⟩

instance (c : AdminConfig (Option Bool)) (i : Option Bool) : ∀ o, Decidable (KeepsTables oneTable c i o)
  | .get => .isTrue trivial
  | .lock => .isTrue trivial
  | .delete_tables => .isTrue trivial
  | .commit (.save _ _ _) => .isTrue trivial
  | .commit (.add _ _) => .isTrue trivial
  | .commit (.delete _) => .isTrue trivial
  | .commit (.write object) =>
      decidable_of_iff
        ((∀ p ∈ object.extract oneTable, p ∈ wanted oneTable c.store.row) ∧
          ∀ p ∈ wanted oneTable c.store.row, p ∈ object.extract oneTable)
        ⟨fun h p => ⟨h.1 p, h.2 p⟩, fun h => ⟨fun p => (h p).mp, fun p => (h p).mpr⟩⟩
  | .commit (.insert object) => inferInstanceAs (Decidable (object.extract oneTable = []))

def play (requests : Option Bool → Request)
    (ok : AdminConfig (Option Bool) → Option Bool → Op → Prop)
    [∀ c i o, Decidable (ok c i o)] (schedule : List (Option Bool)) : AdminConfig (Option Bool) :=
  ((admins oneTable requests).start .empty).play answer ok schedule

/-- The query is created, and then edited. -/
def once : List (Option Bool) := [none, some true, some true, some true]

/-- Both edits have read the query when the first one locks it, and the second waits. -/
def editsOverlap : AdminConfig (Option Bool) :=
  play twoEdits (KeepsTables oneTable)
    [none, some true, some false, some true, some false, some true, some true, some false,
      some false, some false]

theorem tables_kept_overlap :
    editsOverlap.store.row.map CustomDatasetQuery.query = some ("SELECT 1" : Str) ∧
      (∀ i, (editsOverlap.tasks i).value?.isSome) ∧ editsOverlap.store.TablesExact oneTable :=
  have hrun : (admins oneTable twoEdits).Run (KeepsTables oneTable) .empty editsOverlap :=
    Shared.run_play answer_acts _ _
  ⟨by decide +kernel, by decide +kernel, tables_kept hrun⟩

/-- The form of the query itself leaves the rows of the SQL before, and a copy has no rows. -/
theorem tables_not_kept :
    (admins oneTable ownEdit).Run Always .empty (play ownEdit Always once) ∧
      ¬ (play ownEdit Always once).store.TablesExact oneTable ∧
      (admins oneTable copied).Run Always .empty (play copied Always [none]) ∧
      ¬ (play copied Always [none]).store.TablesExact oneTable := by
  refine ⟨Shared.run_play answer_acts _ _, fun h => ?_, Shared.run_play answer_acts _ _,
    fun h => ?_⟩
  · exact absurd ((h.mem ("public", "b")).mpr (by decide +kernel)) (by decide +kernel)
  · exact absurd ((h.mem ("public", "a")).mpr (by decide +kernel)) (by decide +kernel)

end Examples

end CustomQueries

end Datasets
