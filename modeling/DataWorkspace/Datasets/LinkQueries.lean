import DataWorkspace.Async.Shared
import DataWorkspace.Py.Text
import Mathlib.Data.List.Chain

/-!
# The SQL queries of visualisation links

The refresh of the QuickSight dashboards stores the SQL of every table of the data sets of a
visualisation link.  `store_sql_query` looks for the SQL among the latest queries, and where
it is not there it takes the mark off the latest query and creates another.  These are three
statements, each on its own, so that others may come between them.

`latest_kept` is about the runs of any number of stores in which none misses its SQL while
another is between its own miss and the row it creates for the same table.  Where none is,
one query of the table is marked, the one stored last, and no SQL was stored twice in a row.
-/

namespace Datasets

open Py Async

namespace Links

/-! ## The table of queries -/

structure LinkTable where
  visualisation_link : Nat
  data_set_id : Nat
  table_id : Nat
deriving DecidableEq, Repr

/-- A `VisualisationLinkSqlQuery`. -/
structure Query where
  table : LinkTable
  sql_query : Str
  is_latest : Bool
deriving DecidableEq, Repr

/-- The queries, in the order in which they were created. -/
structure Queries where
  rows : List Query
  /-- What was stored so far, oldest first.  The program keeps no such record. -/
  stored : List (LinkTable × Str)
deriving DecidableEq, Repr

namespace Queries

/-- No query was stored yet. -/
def empty : Queries := ⟨[], []⟩

def of (s : Queries) (table : LinkTable) : List Query :=
  s.rows.filter fun row => decide (row.table = table)

/-- The SQL that was stored for a table. -/
def storedFor (s : Queries) (table : LinkTable) : List Str :=
  (s.stored.filter fun entry => decide (entry.1 = table)).map Prod.snd

def latest (s : Queries) (table : LinkTable) (sql_query : Str) : List Query :=
  (s.of table).filter fun row => decide (row.is_latest = true ∧ row.sql_query = sql_query)

end Queries

/-! ## The statements -/

inductive QueryError where
  | DoesNotExist
  | MultipleObjectsReturned
deriving DecidableEq, Repr

inductive Op where
  /-- `sql_queries.get(is_latest=True, data_set_id=…, table_id=…, sql_query=…)`. -/
  | get (table : LinkTable) (sql_query : Str)
  /-- `sql_queries.filter(is_latest=True, …).update(is_latest=False)`. -/
  | unmark (table : LinkTable)
  /-- `VisualisationLinkSqlQuery.objects.create(…, is_latest=True)`. -/
  | create (table : LinkTable) (sql_query : Str)
deriving DecidableEq

@[reducible] def Ans : Op → Type
  | .get _ _ => Except QueryError Unit
  | .unmark _ => Unit
  | .create _ _ => Unit

abbrev M := Prog Ans QueryError

def execute (o : Op) : M (Ans o) := .perform o

def Query.unmark (table : LinkTable) (row : Query) : Query :=
  if row.table = table then { row with is_latest := false } else row

/-- What a statement answers and does.  A store ends where its SQL is found, or with the row
it creates. -/
def exec : (o : Op) → Queries → Ans o × Queries
  | .get table sql_query, s =>
      match s.latest table sql_query with
      | [] => (.error .DoesNotExist, s)
      | [_] => (.ok (), { s with stored := s.stored ++ [(table, sql_query)] })
      | _ :: _ :: _ => (.error .MultipleObjectsReturned, s)
  | .unmark table, s => ((), { s with rows := s.rows.map (Query.unmark table) })
  | .create table sql_query, s =>
      ((), { rows := s.rows ++ [⟨table, sql_query, true⟩]
             stored := s.stored ++ [(table, sql_query)] })

/-- `store_sql_query`. -/
def store_sql_query (table : LinkTable) (sql_query : Str) : M Unit := do
  let found : Except QueryError Unit ← execute (.get table sql_query)
  match found with
  | .ok _ => .pure ()
  | .error .DoesNotExist => do
      execute (.unmark table)
      execute (.create table sql_query)
  | .error e => .raise e

/-! ## The queries of one table -/

/-- The queries of a table, and the SQL that was stored for it. -/
structure Part where
  rows : List Query
  stored : List Str

namespace Part

def sqls (p : Part) : List Str := p.rows.map Query.sql_query

/-- The last query has the SQL that was stored last, and no query repeats the SQL of the one
before it. -/
structure Tracked (p : Part) : Prop where
  last : p.stored.getLast? = p.sqls.getLast?
  changes : p.sqls.IsChain (· ≠ ·)

/-- The last query is marked, and no other. -/
def MarksLast (p : Part) : Prop :=
  ∀ front row, p.rows = front ++ [row] → row.is_latest = true ∧ ∀ r ∈ front, r.is_latest = false

def MarksNone (p : Part) : Prop := ∀ row ∈ p.rows, row.is_latest = false

def Differs (p : Part) (sql_query : Str) : Prop := p.sqls.getLast? ≠ some sql_query

structure Settled (p : Part) : Prop where
  tracked : p.Tracked
  marks : p.MarksLast

def found (p : Part) (sql_query : Str) : Part := { p with stored := p.stored ++ [sql_query] }

def unmark (p : Part) : Part :=
  { p with rows := p.rows.map fun row => { row with is_latest := false } }

def create (p : Part) (table : LinkTable) (sql_query : Str) : Part where
  rows := p.rows ++ [⟨table, sql_query, true⟩]
  stored := p.stored ++ [sql_query]

section

variable {p : Part} {table : LinkTable} {sql_query : Str}

@[simp] theorem sqls_found : (p.found sql_query).sqls = p.sqls := rfl

@[simp] theorem sqls_unmark : p.unmark.sqls = p.sqls := by simp [sqls, unmark]

@[simp] theorem sqls_create : (p.create table sql_query).sqls = p.sqls ++ [sql_query] := by
  simp [sqls, create]

theorem Settled.find (h : p.Settled) :
    p.rows.filter (fun row => decide (row.is_latest = true ∧ row.sql_query = sql_query)) = [] ↔
      p.Differs sql_query := by
  rcases List.eq_nil_or_concat' p.rows with hnil | ⟨front, row, hrows⟩
  · simp [Differs, sqls, hnil]
  · obtain ⟨hlast, hfront⟩ := h.marks front row hrows
    have hnone : front.filter
        (fun row => decide (row.is_latest = true ∧ row.sql_query = sql_query)) = [] := by
      rw [List.filter_eq_nil_iff]
      intro r hr
      simp [hfront r hr]
    rw [Differs, sqls, hrows, List.filter_append, hnone, List.nil_append, List.map_append]
    simp [hlast]

theorem MarksNone.find (h : p.MarksNone) :
    p.rows.filter (fun row => decide (row.is_latest = true ∧ row.sql_query = sql_query)) = [] := by
  rw [List.filter_eq_nil_iff]
  intro row hrow
  simp [h row hrow]

theorem Tracked.found (h : p.Tracked) (hlast : p.sqls.getLast? = some sql_query) :
    (p.found sql_query).Tracked where
  last := by rw [sqls_found, hlast, Part.found, List.getLast?_concat]
  changes := h.changes

theorem Settled.found (h : p.Settled) (hlast : p.sqls.getLast? = some sql_query) :
    (p.found sql_query).Settled where
  tracked := h.tracked.found hlast
  marks := h.marks

theorem Tracked.unmark (h : p.Tracked) : p.unmark.Tracked where
  last := by rw [sqls_unmark]; exact h.last
  changes := by rw [sqls_unmark]; exact h.changes

theorem marksNone_unmark : p.unmark.MarksNone := by
  intro row hrow
  obtain ⟨row', -, rfl⟩ := List.mem_map.mp hrow
  rfl

theorem settled_create (h : p.Tracked) (hnone : p.MarksNone) (hne : p.Differs sql_query) :
    (p.create table sql_query).Settled where
  tracked := by
    refine ⟨?_, ?_⟩
    · rw [sqls_create, create, List.getLast?_concat, List.getLast?_concat]
    · rw [sqls_create, List.isChain_append]
      refine ⟨h.changes, List.isChain_singleton _, ?_⟩
      intro x hx y hy
      simp only [List.head?_cons, Option.mem_def, Option.some.injEq] at hx hy
      rintro rfl
      exact hne (hy ▸ hx)
  marks front row hrows := by
    obtain ⟨rfl, hrow⟩ := List.append_inj' hrows rfl
    obtain rfl := List.singleton_inj.mp hrow
    exact ⟨rfl, hnone⟩

end

end Part

namespace Queries

def part (s : Queries) (table : LinkTable) : Part := ⟨s.of table, s.storedFor table⟩

variable {s : Queries} {table table' : LinkTable} {sql_query : Str}

theorem part_found : ({ s with stored := s.stored ++ [(table, sql_query)] } : Queries).part table' =
    if table = table' then (s.part table').found sql_query else s.part table' := by
  by_cases h : table = table'
  · simp [part, of, storedFor, Part.found, h]
  · simp [part, of, storedFor, h]

theorem part_unmark : ({ s with rows := s.rows.map (Query.unmark table) } : Queries).part table' =
    if table = table' then (s.part table').unmark else s.part table' := by
  have htable (row : Query) : (row.unmark table).table = row.table := by
    rw [Query.unmark]
    split <;> rfl
  have hof : ({ s with rows := s.rows.map (Query.unmark table) } : Queries).of table' =
      (s.of table').map (Query.unmark table) := by
    rw [of, of, List.filter_map]
    refine congrArg (List.map _) (List.filter_congr fun row _ => ?_)
    rw [Function.comp_apply, htable]
  rw [part, hof]
  split
  next h =>
    subst h
    refine congrArg (Part.mk · _) (List.map_congr_left fun row hrow => ?_)
    rw [Query.unmark, if_pos (of_decide_eq_true (List.mem_filter.mp hrow).2)]
  next h =>
    refine congrArg (Part.mk · _) ((List.map_congr_left fun row hrow => ?_).trans (List.map_id _))
    have hrow := of_decide_eq_true (List.mem_filter.mp hrow).2
    rw [Query.unmark, if_neg fun he => h (he.symm.trans hrow)]
    rfl

theorem part_create :
    ({ rows := s.rows ++ [⟨table, sql_query, true⟩],
       stored := s.stored ++ [(table, sql_query)] } : Queries).part table' =
    if table = table' then (s.part table').create table sql_query else s.part table' := by
  by_cases h : table = table'
  · simp [part, of, storedFor, Part.create, h]
  · simp [part, of, storedFor, h]

end Queries

/-! ## Any number of stores -/

/-- Where a store is. -/
inductive Stage where
  | looking
  /-- Its SQL is not that of a latest query. -/
  | missed
  /-- No query of its table is the latest. -/
  | unmarked
  | ended
deriving DecidableEq

def Stage.Writes (stage : Stage) : Prop := stage = .missed ∨ stage = .unmarked

instance (stage : Stage) : Decidable stage.Writes := inferInstanceAs (Decidable (_ ∨ _))

def Stage.adv : Stage → Event Ans → Stage
  | .looking, ⟨.get _ _, .error .DoesNotExist⟩ => .missed
  | .looking, ⟨.get _ _, _⟩ => .ended
  | .missed, ⟨.unmark _, _⟩ => .unmarked
  | .unmarked, ⟨.create _ _, _⟩ => .ended
  | stage, _ => stage

/-- The stage in which a store performs an operation. -/
def Stage.Performs (table : LinkTable) (sql_query : Str) (stage : Stage) : Op → Prop
  | .get t q => stage = .looking ∧ t = table ∧ q = sql_query
  | .unmark t => stage = .missed ∧ t = table
  | .create t q => stage = .unmarked ∧ t = table ∧ q = sql_query

theorem wp_store_sql_query {table : LinkTable} {sql_query : Str} :
    wp (summing Stage.adv fun o s => s.Performs table sql_query o)
      (store_sql_query table sql_query) (fun _ _ => True) .looking := by
  refine wp_summing.mpr ⟨⟨rfl, rfl, rfl⟩, fun answer => ?_⟩
  cases answer with
  | ok _ => trivial
  | error e =>
      cases e with
      | DoesNotExist =>
          refine wp_summing.mpr ⟨⟨rfl, rfl⟩, fun _ => ?_⟩
          exact wp_summing.mpr ⟨⟨rfl, rfl, rfl⟩, fun _ => trivial⟩
      | MultipleObjectsReturned => trivial

section Runs

variable {ι : Type} (stores : ι → LinkTable × Str)

/-- The stores, each with its table and its SQL. -/
def storing : Shared Ans QueryError Unit ι Queries where
  prog i := store_sql_query (stores i).1 (stores i).2
  act _ o s a s' := exec o s = (a, s')

abbrev StoreConfig (ι : Type) := Config Ans QueryError Unit ι Queries

def stage (c : StoreConfig ι) (i : ι) : Stage := c.summary Stage.adv .looking i

/-- The store missed its SQL and has not created its query yet. -/
def Writing (c : StoreConfig ι) (table : LinkTable) (i : ι) : Prop :=
  (stores i).1 = table ∧ (stage c i).Writes

def Apart (c : StoreConfig ι) (_ : ι) : Op → Prop
  | .get table sql_query =>
      c.store.latest table sql_query = [] → ∀ j, ¬ Writing stores c table j
  | _ => True

/-- One query of the table is marked as the latest, the one that was stored last, and no
query repeats the SQL of the one before it. -/
structure LatestKept (s : Queries) (table : LinkTable) : Prop where
  latest : s.of table = [] ∧ s.storedFor table = [] ∨
    ∃ front row, s.of table = front ++ [row] ∧ row.is_latest = true ∧
      (∀ r ∈ front, r.is_latest = false) ∧
      (s.storedFor table).getLast? = some row.sql_query
  changes : ((s.of table).map Query.sql_query).IsChain (· ≠ ·)

theorem latestKept_of_settled {s : Queries} {table : LinkTable} (h : (s.part table).Settled) :
    LatestKept s table where
  changes := h.tracked.changes
  latest := by
    have hlast := h.tracked.last
    rcases List.eq_nil_or_concat' (s.of table) with hnil | ⟨front, row, hrows⟩
    · refine .inl ⟨hnil, ?_⟩
      rw [Part.sqls, show (s.part table).rows = [] from hnil] at hlast
      exact List.getLast?_eq_none_iff.mp hlast
    · obtain ⟨hlatest, hfront⟩ := h.marks front row hrows
      refine .inr ⟨front, row, hrows, hlatest, hfront, ?_⟩
      rw [Part.sqls, show (s.part table).rows = _ from hrows, List.map_append] at hlast
      exact hlast.trans (List.getLast?_concat ..)

/-- What there is of a table while a store is writing a query of it. -/
def Part.Fits (p : Part) (sql_query : Str) : Stage → Prop
  | .missed => p.Settled ∧ p.Differs sql_query
  | .unmarked => p.Tracked ∧ p.MarksNone ∧ p.Differs sql_query
  | _ => True

/-- One store at a time writes a query of a table, and what it finds there fits. -/
structure Kept (c : StoreConfig ι) : Prop where
  alone : ∀ table i j, Writing stores c table i → Writing stores c table j → i = j
  settled : ∀ table, (∀ i, ¬ Writing stores c table i) → (c.store.part table).Settled
  fits : ∀ i, (c.store.part (stores i).1).Fits (stores i).2 (stage c i)

variable {stores}

theorem fits_of_not_writes {p : Part} {sql_query : Str} {stage : Stage} (h : ¬ stage.Writes) :
    p.Fits sql_query stage := by
  cases stage with
  | looking => trivial
  | missed => exact absurd (.inl rfl) h
  | unmarked => exact absurd (.inr rfl) h
  | ended => trivial

variable [DecidableEq ι] {c : StoreConfig ι} {i : ι} {e : Event Ans} {p : M Unit} {s : Queries}

theorem stage_go_self : stage (c.go i e p s) i = (stage c i).adv e := Config.summary_go_self ..

theorem writing_go_of_ne {table : LinkTable} {j : ι} (h : j ≠ i) :
    Writing stores (c.go i e p s) table j ↔ Writing stores c table j := by
  rw [Writing, Writing, stage, Config.summary_go_of_ne _ _ h]
  rfl

theorem Kept.go (h : Kept stores c)
    (hparts : ∀ table, table ≠ (stores i).1 → s.part table = c.store.part table)
    (halone : ((stage c i).adv e).Writes → ∀ j, j ≠ i → ¬ Writing stores c (stores i).1 j)
    (hsettled : ¬ ((stage c i).adv e).Writes →
      (∀ j, j ≠ i → ¬ Writing stores c (stores i).1 j) → (s.part (stores i).1).Settled)
    (hfits : (s.part (stores i).1).Fits (stores i).2 ((stage c i).adv e))
    (hothers : ∀ j, j ≠ i → Writing stores c (stores i).1 j →
      (s.part (stores i).1).Fits (stores j).2 (stage c j)) : Kept stores (c.go i e p s) where
  alone table j j' hj hj' := by
    -- where one of the two is the store of the step, the other was not writing before
    by_cases hji : j = i
    · by_cases hji' : j' = i
      · rw [hji, hji']
      · subst hji
        rw [writing_go_of_ne hji'] at hj'
        obtain ⟨rfl, hwrites⟩ := hj
        rw [stage_go_self] at hwrites
        exact absurd hj' (halone hwrites j' hji')
    · rw [writing_go_of_ne hji] at hj
      by_cases hji' : j' = i
      · subst hji'
        obtain ⟨rfl, hwrites⟩ := hj'
        rw [stage_go_self] at hwrites
        exact absurd hj (halone hwrites j hji)
      · rw [writing_go_of_ne hji'] at hj'
        exact h.alone table j j' hj hj'
  settled table hnone := by
    have hnone' : ∀ j, j ≠ i → ¬ Writing stores c table j := by
      intro j hj
      rw [← writing_go_of_ne (e := e) (p := p) (s := s) hj]
      exact hnone j
    by_cases htable : table = (stores i).1
    · subst htable
      refine hsettled (fun hwrites => hnone i ⟨rfl, ?_⟩) hnone'
      rw [stage_go_self]
      exact hwrites
    · rw [Config.go_store, hparts table htable]
      refine h.settled table fun j => ?_
      by_cases hj : j = i
      · subst hj
        exact fun hw => htable hw.1.symm
      · exact hnone' j hj
  fits j := by
    by_cases hj : j = i
    · subst hj
      rw [stage_go_self]
      exact hfits
    · have hstage : stage (c.go i e p s) j = stage c j := Config.summary_go_of_ne _ _ hj
      rw [hstage, Config.go_store]
      by_cases htable : (stores j).1 = (stores i).1
      · rw [htable]
        by_cases hwrites : (stage c j).Writes
        · exact hothers j hj ⟨htable, hwrites⟩
        · exact fits_of_not_writes hwrites
      · rw [hparts _ htable]
        exact h.fits j

theorem fits_found {q : Part} {sql_query sql_query' : Str} {stage : Stage}
    (h : q.Fits sql_query stage) (hlast : q.sqls.getLast? = some sql_query') :
    (q.found sql_query').Fits sql_query stage := by
  cases stage with
  | looking => trivial
  | missed => exact ⟨h.1.found hlast, h.2⟩
  | unmarked => exact ⟨h.1.found hlast, h.2.1, h.2.2⟩
  | ended => trivial

theorem sqls_getLast_of_found {q : Part} {sql_query' : Str} {row : Query}
    (h : q.Settled ∨ ∃ (stage : Stage) (sql_query : Str), stage.Writes ∧ q.Fits sql_query stage)
    (hfound : q.rows.filter
      (fun row => decide (row.is_latest = true ∧ row.sql_query = sql_query')) = [row]) :
    q.sqls.getLast? = some sql_query' := by
  have hsettled (hq : q.Settled) : q.sqls.getLast? = some sql_query' := by
    by_contra hne
    rw [hq.find.mpr hne] at hfound
    cases hfound
  rcases h with h | ⟨stage, sql_query, rfl | rfl, h⟩
  · exact hsettled h
  · exact hsettled h.1
  · rw [h.2.1.find] at hfound
    cases hfound

omit [DecidableEq ι] in
theorem not_writing_of_alone (h : Kept stores c) (hw : (stage c i).Writes) :
    ∀ j, j ≠ i → ¬ Writing stores c (stores i).1 j :=
  fun j hj hj' => hj (h.alone _ j i hj' ⟨rfl, hw⟩)

theorem kept_get (h : Kept stores c) (hstage : stage c i = .looking)
    (hok : Apart stores c i (.get (stores i).1 (stores i).2))
    {a : Except QueryError Unit} (hact : exec (.get (stores i).1 (stores i).2) c.store = (a, s)) :
    Kept stores (c.go i ⟨.get (stores i).1 (stores i).2, a⟩ p s) := by
  have hsettled (hothers : ∀ j, j ≠ i → ¬ Writing stores c (stores i).1 j) :
      (c.store.part (stores i).1).Settled := by
    refine h.settled _ fun j => ?_
    by_cases hj : j = i
    · subst hj
      rintro ⟨-, hw⟩
      rw [hstage] at hw
      rcases hw with hw | hw <;> cases hw
    · exact hothers j hj
  rw [exec] at hact
  rcases hlatest : c.store.latest (stores i).1 (stores i).2 with _ | ⟨row, _ | ⟨row', rest⟩⟩
  · -- the SQL is missed, while no other store is writing
    rw [hlatest] at hact
    cases hact
    have hnone := hok hlatest
    have hpart := hsettled fun j _ => hnone j
    refine h.go (fun _ _ => rfl) (fun _ j _ => hnone j) (fun hw => ?_) ?_ fun j _ hj =>
      absurd hj (hnone j)
    · rw [hstage] at hw
      exact absurd (.inl rfl) hw
    · rw [hstage]
      exact ⟨hpart, hpart.find.mp hlatest⟩
  · rw [hlatest] at hact
    cases hact
    have hwho : (c.store.part (stores i).1).Settled ∨
        ∃ (stage : Stage) (sql_query : Str), stage.Writes ∧
          (c.store.part (stores i).1).Fits sql_query stage := by
      by_cases hothers : ∀ j, j ≠ i → ¬ Writing stores c (stores i).1 j
      · exact .inl (hsettled hothers)
      · push Not at hothers
        obtain ⟨j, -, htable, hw⟩ := hothers
        exact .inr ⟨_, _, hw, htable ▸ h.fits j⟩
    have hlast : (c.store.part (stores i).1).sqls.getLast? = some (stores i).2 :=
      sqls_getLast_of_found hwho hlatest
    have hpart : (exec (.get (stores i).1 (stores i).2) c.store).2.part (stores i).1 =
        (c.store.part (stores i).1).found (stores i).2 := by
      rw [exec, hlatest]
      exact Queries.part_found.trans (if_pos rfl)
    rw [exec, hlatest] at hpart
    have hover : (stage c i).adv ⟨.get (stores i).1 (stores i).2, .ok ()⟩ = .ended := by
      rw [hstage]
      rfl
    refine h.go (fun table htable => ?_) (fun hw => ?_) (fun _ hothers => ?_) ?_ fun j _ hj => ?_
    · exact Queries.part_found.trans (if_neg (Ne.symm htable))
    · rw [hover] at hw
      rcases hw with hw | hw <;> cases hw
    · rw [hpart]
      exact (hsettled hothers).found hlast
    · rw [hover]
      trivial
    · rw [hpart]
      exact fits_found (hj.1 ▸ h.fits j) hlast
  · rw [hlatest] at hact
    cases hact
    have hover : (stage c i).adv ⟨.get (stores i).1 (stores i).2,
        .error .MultipleObjectsReturned⟩ = .ended := by
      rw [hstage]
      rfl
    refine h.go (fun _ _ => rfl) (fun hw => ?_) (fun _ hothers => hsettled hothers) ?_
      fun j _ hj => hj.1 ▸ h.fits j
    · rw [hover] at hw
      rcases hw with hw | hw <;> cases hw
    · rw [hover]
      trivial

theorem kept_unmark (h : Kept stores c) (hstage : stage c i = .missed)
    (hact : exec (.unmark (stores i).1) c.store = ((), s)) :
    Kept stores (c.go i ⟨.unmark (stores i).1, ()⟩ p s) := by
  cases hact
  have hothers := not_writing_of_alone h (.inl hstage)
  have hfits := h.fits i
  rw [hstage] at hfits
  have hadv : (stage c i).adv ⟨.unmark (stores i).1, ()⟩ = .unmarked := by
    rw [hstage]
    rfl
  refine h.go (fun table htable => ?_) (fun _ => hothers) (fun hw => ?_) ?_ fun j hj hw =>
    absurd hw (hothers j hj)
  · exact Queries.part_unmark.trans (if_neg (Ne.symm htable))
  · rw [hadv] at hw
    exact absurd (.inr rfl) hw
  · rw [hadv, Queries.part_unmark, if_pos rfl]
    refine ⟨hfits.1.tracked.unmark, Part.marksNone_unmark, ?_⟩
    rw [Part.Differs, Part.sqls_unmark]
    exact hfits.2

theorem kept_create (h : Kept stores c) (hstage : stage c i = .unmarked)
    (hact : exec (.create (stores i).1 (stores i).2) c.store = ((), s)) :
    Kept stores (c.go i ⟨.create (stores i).1 (stores i).2, ()⟩ p s) := by
  cases hact
  have hothers := not_writing_of_alone h (.inr hstage)
  have hfits := h.fits i
  rw [hstage] at hfits
  have hadv : (stage c i).adv ⟨.create (stores i).1 (stores i).2, ()⟩ = .ended := by
    rw [hstage]
    rfl
  refine h.go (fun table htable => ?_) (fun _ => hothers) (fun _ _ => ?_) ?_ fun j hj hw =>
    absurd hw (hothers j hj)
  · exact Queries.part_create.trans (if_neg (Ne.symm htable))
  · rw [Queries.part_create, if_pos rfl]
    exact Part.settled_create hfits.1 hfits.2.1 hfits.2.2
  · rw [hadv]
    trivial

omit [DecidableEq ι] in
theorem kept_start : Kept stores ((storing stores).start .empty) where
  alone _ _ _ hw := by rcases hw.2 with hw | hw <;> cases hw
  settled _ _ := ⟨⟨rfl, List.isChain_nil⟩, fun front row hrows =>
    absurd hrows.symm (List.append_ne_nil_of_right_ne_nil front (List.cons_ne_nil row []))⟩
  fits _ := trivial

/-- In every run whose stores keep apart, one store at a time writes a query of a table. -/
theorem kept_of_run (h : (storing stores).Run (Apart stores) .empty c) : Kept stores c := by
  refine h.invariant kept_start fun {c i o k a s} hrun hi hok hact ih => ?_
  have hperforms : (stage c i).Performs (stores i).1 (stores i).2 o :=
    hrun.pre hi wp_store_sql_query
  cases o with
  | get table sql_query =>
      obtain ⟨hstage, rfl, rfl⟩ := hperforms
      exact kept_get ih hstage hok hact
  | unmark table =>
      obtain ⟨hstage, rfl⟩ := hperforms
      exact kept_unmark ih hstage hact
  | create table sql_query =>
      obtain ⟨hstage, rfl, rfl⟩ := hperforms
      exact kept_create ih hstage hact

/-- In every run in which no store misses its SQL while another is writing a query of the
same table, one query of each table is marked as the latest wherever none is being
written, and it is the one that was stored last. -/
theorem latest_kept (h : (storing stores).Run (Apart stores) .empty c) {table : LinkTable}
    (hnone : ∀ i, ¬ Writing stores c table i) : LatestKept c.store table :=
  latestKept_of_settled ((kept_of_run h).settled table hnone)

end Runs

/-! ## Two stores -/

section Examples

def salesTable : LinkTable := ⟨1, 2, 3⟩

/-- Two stores of different SQL for one table. -/
def twoStores : Bool → LinkTable × Str
  | true => (salesTable, "SELECT 1")
  | false => (salesTable, "SELECT 2")

def answer : Choice Ans Bool Queries := fun _ o s => some (exec o s)

theorem answer_acts {stores : Bool → LinkTable × Str} :
    ∀ i o s a s', answer i o s = some (a, s') → (storing stores).act i o s a s' :=
  fun _ _ _ _ _ h => Option.some.inj h

instance {stores : Bool → LinkTable × Str} (c : StoreConfig Bool) (table : LinkTable) (i : Bool) :
    Decidable (Writing stores c table i) :=
  inferInstanceAs (Decidable (_ ∧ _))

instance {stores : Bool → LinkTable × Str} (c : StoreConfig Bool) (i : Bool) :
    ∀ o, Decidable (Apart stores c i o)
  | .get table sql_query => inferInstanceAs (Decidable
      (c.store.latest table sql_query = [] → ∀ j, ¬ Writing stores c table j))
  | .unmark _ => .isTrue trivial
  | .create _ _ => .isTrue trivial

def oneAfterOther : StoreConfig Bool :=
  ((storing twoStores).start .empty).play answer (Apart twoStores)
    [true, true, true, false, false, false]

theorem latest_kept_oneAfterOther : LatestKept oneAfterOther.store salesTable ∧
    oneAfterOther.store.of salesTable =
      [⟨salesTable, "SELECT 1", false⟩, ⟨salesTable, "SELECT 2", true⟩] :=
  have hrun : (storing twoStores).Run (Apart twoStores) .empty oneAfterOther :=
    Shared.run_play answer_acts _ _
  ⟨latest_kept hrun (by decide +kernel), by decide +kernel⟩

/-- Both stores miss their SQL before either writes. -/
def bothMiss : StoreConfig Bool :=
  ((storing twoStores).start .empty).play answer Always [true, false, true, false, true, false]

/-- Two queries are marked as the latest after two stores that overlap. -/
theorem two_latest : (storing twoStores).Run Always .empty bothMiss ∧
    (∀ i, (bothMiss.tasks i).value?.isSome) ∧
    bothMiss.store.of salesTable =
      [⟨salesTable, "SELECT 1", true⟩, ⟨salesTable, "SELECT 2", true⟩] ∧
    ¬ LatestKept bothMiss.store salesTable := by
  have hof : bothMiss.store.of salesTable =
      [⟨salesTable, "SELECT 1", true⟩, ⟨salesTable, "SELECT 2", true⟩] := by decide +kernel
  refine ⟨Shared.run_play answer_acts _ _, by decide +kernel, hof, fun h => ?_⟩
  rcases h.latest with ⟨hnil, -⟩ | ⟨front, row, hrows, -, hfront, -⟩
  · rw [hof] at hnil
    cases hnil
  · rw [hof] at hrows
    have hsplit : [(⟨salesTable, "SELECT 1", true⟩ : Query)] ++
        [⟨salesTable, "SELECT 2", true⟩] = front ++ [row] := hrows
    obtain ⟨rfl, -⟩ := List.append_inj' hsplit rfl
    cases hfront _ (List.mem_singleton_self _)

end Examples

end Links

end Datasets
