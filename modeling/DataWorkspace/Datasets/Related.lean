import DataWorkspace.Datasets.Downloads
import DataWorkspace.Py.Grouping
import Mathlib.Data.Char
import Mathlib.Data.List.Dedup

/-!
# Related datasets

A datacut is made of custom queries, which use tables of a database.  A master dataset has source
tables.  `related_datasets` finds the masters of a datacut by the names of the tables, and the
datacuts of a master by their schemas and names.

`related_exact_iff` says when the two directions agree with each other and with the tables.
-/

namespace Datasets

namespace Related

open Py

structure SourceTable where
  dataset : Dataset
  schema : Str
  table : Str
deriving DecidableEq, Repr

structure CustomDatasetQuery where
  id : Nat
  dataset : Dataset
deriving DecidableEq, Repr

structure CustomDatasetQueryTable where
  query : CustomDatasetQuery
  schema : Str
  table : Str
deriving DecidableEq, Repr

/-- The rows of the database. -/
structure Site where
  datasets : List Dataset
  source_tables : List SourceTable
  queries : List CustomDatasetQuery
  query_tables : List CustomDatasetQueryTable
  /-- The query of a table is one of them. -/
  query_mem : ∀ row ∈ query_tables, row.query ∈ queries

/-- `.distinct(…).order_by(…)` of a dataset: each once, by its id. -/
def distinct (datasets : List Dataset) : List Dataset :=
  (sortedBy (fun d => d.id) datasets).dedup

namespace Site

variable (site : Site)

/-- `sourcetable_set`. -/
def sourcetable_set (d : Dataset) : List SourceTable :=
  site.source_tables.filter fun row => row.dataset = d

/-- `customdatasetquery_set`. -/
def customdatasetquery_set (d : Dataset) : List CustomDatasetQuery :=
  site.queries.filter fun query => query.dataset = d

/-- `query.tables`. -/
def tables (query : CustomDatasetQuery) : List CustomDatasetQueryTable :=
  site.query_tables.filter fun row => row.query = query

/-- The condition for one table or another, which is no condition when there is no table. -/
def anyOf (tables : List SourceTable) (row : CustomDatasetQueryTable) : Bool :=
  if tables.length > 0 then
    tables.any fun table => row.schema = table.schema ∧ row.table = table.table
  else true

/-- `related_datasets`, `none` where it raises. -/
def related_datasets (d : Dataset) : Option (List Dataset) :=
  match d.type with
  | .DATACUT =>
      let custom_queries := site.customdatasetquery_set d
      let query_tables := custom_queries.flatMap fun query =>
        (site.tables query).map CustomDatasetQueryTable.table
      some (distinct ((site.source_tables.filter fun row =>
        row.dataset.published && !row.dataset.deleted && query_tables.contains row.table).map
          SourceTable.dataset))
  | .MASTER =>
      let tables := site.sourcetable_set d
      some (distinct ((site.query_tables.filter (anyOf tables)).map fun row => row.query.dataset))
  | _ => none

end Site

/-! ## What the tables say -/

section Tables

variable (site : Site) (master datacut : Dataset)

/-- `d` is among the related datasets of `other`. -/
def IsRelated (d other : Dataset) : Prop :=
  ∃ related, site.related_datasets other = some related ∧ d ∈ related

def UsesTable (schema table : Str) : Prop :=
  ∃ row ∈ site.query_tables, row.query.dataset = datacut ∧ row.schema = schema ∧ row.table = table

def HasTable (schema table : Str) : Prop :=
  ∃ row ∈ site.source_tables, row.dataset = master ∧ row.schema = schema ∧ row.table = table

/-- Some query of the datacut uses a source table of the master. -/
def Uses : Prop :=
  ∃ schema table, HasTable site master schema table ∧ UsesTable site datacut schema table

structure IsListed (type : DataSetType) (d : Dataset) : Prop where
  mem : d ∈ site.datasets
  type_eq : d.type = type
  published : d.published = true
  live : d.deleted = false

/-- The two directions agree with each other and with the tables. -/
structure RelatedExact : Prop where
  symmetric : IsRelated site datacut master ↔ IsRelated site master datacut
  exact : IsRelated site datacut master ↔ Uses site master datacut
  without_tables : site.sourcetable_set master = [] → ¬ IsRelated site datacut master

/-- A master without tables has no datacut to be told from, and tables of one name are told apart
by another table. -/
structure Told : Prop where
  has_tables : site.sourcetable_set master = [] →
    ∀ schema table, ¬ UsesTable site datacut schema table
  by_schema : ∀ schema schema' table, HasTable site master schema table →
    UsesTable site datacut schema' table → Uses site master datacut

end Tables

/-! ## What the queries find -/

theorem mem_distinct {d : Dataset} {datasets : List Dataset} :
    d ∈ distinct datasets ↔ d ∈ datasets := by
  rw [distinct, List.mem_dedup, (sortedBy_perm _ datasets).mem_iff]

section Found

variable {site : Site} {master datacut : Dataset}

theorem mem_sourcetable_set {row : SourceTable} :
    row ∈ site.sourcetable_set master ↔ row ∈ site.source_tables ∧ row.dataset = master := by
  simp [Site.sourcetable_set]

theorem mem_query_tables {table : Str} :
    table ∈ (site.customdatasetquery_set datacut).flatMap (fun query =>
        (site.tables query).map CustomDatasetQueryTable.table) ↔
      ∃ schema, UsesTable site datacut schema table := by
  simp only [Site.customdatasetquery_set, Site.tables, List.mem_flatMap, List.mem_filter,
    List.mem_map, decide_eq_true_eq, UsesTable]
  constructor
  · rintro ⟨query, ⟨-, hdataset⟩, row, ⟨hrow, hquery⟩, htable⟩
    exact ⟨row.schema, row, hrow, by rw [hquery, hdataset], rfl, htable⟩
  · rintro ⟨schema, row, hrow, hdataset, -, htable⟩
    exact ⟨row.query, ⟨site.query_mem row hrow, hdataset⟩, row, ⟨hrow, rfl⟩, htable⟩

theorem isRelated_datacut_iff (htype : datacut.type = .DATACUT) (hpublished : master.published = true)
    (hlive : master.deleted = false) :
    IsRelated site master datacut ↔ ∃ schema schema' table, HasTable site master schema table ∧
      UsesTable site datacut schema' table := by
  simp only [IsRelated, Site.related_datasets, htype, Option.some.injEq, exists_eq_left',
    mem_distinct, List.mem_map, List.mem_filter, Bool.and_eq_true, Bool.not_eq_true',
    List.contains_iff_mem, mem_query_tables]
  constructor
  · rintro ⟨row, ⟨hrow, -, schema', huses⟩, hdataset⟩
    exact ⟨row.schema, schema', row.table, ⟨row, hrow, hdataset, rfl, rfl⟩, huses⟩
  · rintro ⟨schema, schema', table, ⟨row, hrow, hdataset, -, htable⟩, huses⟩
    refine ⟨row, ⟨hrow, ⟨?_, ?_⟩, schema', htable ▸ huses⟩, hdataset⟩
    · rw [hdataset, hpublished]
    · rw [hdataset, hlive]

theorem isRelated_master_iff (htype : master.type = .MASTER)
    (htables : site.sourcetable_set master ≠ []) :
    IsRelated site datacut master ↔ Uses site master datacut := by
  have hlength : (site.sourcetable_set master).length > 0 := List.length_pos_of_ne_nil htables
  simp only [IsRelated, Site.related_datasets, htype, Option.some.injEq, exists_eq_left',
    mem_distinct, List.mem_map, List.mem_filter, Site.anyOf, if_pos hlength, List.any_eq_true,
    decide_eq_true_eq, mem_sourcetable_set]
  constructor
  · rintro ⟨row, ⟨hrow, source, ⟨hsource, hmaster⟩, hschema, htable⟩, hdataset⟩
    exact ⟨row.schema, row.table, ⟨source, hsource, hmaster, hschema.symm, htable.symm⟩,
      row, hrow, hdataset, rfl, rfl⟩
  · rintro ⟨schema, table, ⟨source, hsource, hmaster, hschema, htable⟩, row, hrow, hdataset,
      hschema', htable'⟩
    exact ⟨row, ⟨hrow, source, ⟨hsource, hmaster⟩, hschema'.trans hschema.symm,
      htable'.trans htable.symm⟩, hdataset⟩

theorem isRelated_master_iff_of_nil (htype : master.type = .MASTER)
    (htables : site.sourcetable_set master = []) :
    IsRelated site datacut master ↔ ∃ schema table, UsesTable site datacut schema table := by
  simp only [IsRelated, Site.related_datasets, htype, htables, Option.some.injEq, exists_eq_left',
    mem_distinct, List.mem_map, List.mem_filter, Site.anyOf, List.length_nil, gt_iff_lt,
    lt_self_iff_false, if_false, and_true, UsesTable]
  constructor
  · rintro ⟨row, hrow, hdataset⟩
    exact ⟨row.schema, row.table, row, hrow, hdataset, rfl, rfl⟩
  · rintro ⟨schema, table, row, hrow, hdataset, -, -⟩
    exact ⟨row, hrow, hdataset⟩

theorem not_uses_of_nil (htables : site.sourcetable_set master = []) :
    ¬ Uses site master datacut := by
  rintro ⟨schema, table, ⟨source, hsource, hmaster, -, -⟩, -⟩
  have hmem : source ∈ site.sourcetable_set master := mem_sourcetable_set.mpr ⟨hsource, hmaster⟩
  rw [htables] at hmem
  cases hmem

/-! ## When they agree -/

theorem relatedExact_iff (hmaster : IsListed site .MASTER master)
    (hdatacut : IsListed site .DATACUT datacut) :
    RelatedExact site master datacut ↔ Told site master datacut := by
  have hby_name : IsRelated site master datacut ↔ ∃ schema schema' table,
      HasTable site master schema table ∧ UsesTable site datacut schema' table :=
    isRelated_datacut_iff hdatacut.type_eq hmaster.published hmaster.live
  constructor
  · intro h
    constructor
    · intro htables schema table huses
      exact h.without_tables htables
        ((isRelated_master_iff_of_nil hmaster.type_eq htables).mpr ⟨schema, table, huses⟩)
    · intro schema schema' table hhas huses
      exact h.exact.mp (h.symmetric.mpr (hby_name.mpr ⟨schema, schema', table, hhas, huses⟩))
  · intro h
    have hexact : IsRelated site datacut master ↔ Uses site master datacut := by
      by_cases htables : site.sourcetable_set master = []
      · rw [isRelated_master_iff_of_nil hmaster.type_eq htables]
        constructor
        · rintro ⟨schema, table, huses⟩
          exact absurd huses (h.has_tables htables schema table)
        · intro huses
          exact absurd huses (not_uses_of_nil htables)
      · exact isRelated_master_iff hmaster.type_eq htables
    constructor
    · rw [hexact, hby_name]
      constructor
      · rintro ⟨schema, table, hhas, huses⟩
        exact ⟨schema, schema, table, hhas, huses⟩
      · rintro ⟨schema, schema', table, hhas, huses⟩
        exact h.by_schema schema schema' table hhas huses
    · exact hexact
    · intro htables hrelated
      exact not_uses_of_nil htables (hexact.mp hrelated)

end Found

/-- `related_datasets` is symmetric and exact if and only if no master without source tables stands
beside a datacut that uses a table, and whenever a datacut uses a table with the name of one of a
master, it uses one of this master. -/
theorem related_exact_iff (site : Site) :
    (∀ master datacut, IsListed site .MASTER master → IsListed site .DATACUT datacut →
      RelatedExact site master datacut) ↔
    ∀ master datacut, IsListed site .MASTER master → IsListed site .DATACUT datacut →
      Told site master datacut := by
  constructor
  · intro h master datacut hmaster hdatacut
    exact (relatedExact_iff hmaster hdatacut).mp (h master datacut hmaster hdatacut)
  · intro h master datacut hmaster hdatacut
    exact (relatedExact_iff hmaster hdatacut).mpr (h master datacut hmaster hdatacut)

/-! ## A master without tables -/

def listed (id : Str) (type : DataSetType) : Dataset :=
  ⟨⟨id, "A dataset", .REQUIRES_AUTHORIZATION, [], false, true, []⟩, type⟩

/-- A master without tables, and a datacut that uses one. -/
def emptyMaster : Site where
  datasets := [listed "1" .MASTER, listed "2" .DATACUT]
  source_tables := []
  queries := [⟨1, listed "2" .DATACUT⟩]
  query_tables := [⟨⟨1, listed "2" .DATACUT⟩, "public", "trade"⟩]
  query_mem := by decide

/-- The datacut is related to the master, and not the other way round. -/
theorem empty_master_related : ¬ RelatedExact emptyMaster (listed "1" .MASTER)
    (listed "2" .DATACUT) := by
  intro h
  have hmaster : IsListed emptyMaster .MASTER (listed "1" .MASTER) := ⟨by decide, rfl, rfl, rfl⟩
  have hdatacut : IsListed emptyMaster .DATACUT (listed "2" .DATACUT) := ⟨by decide, rfl, rfl, rfl⟩
  have htold := (relatedExact_iff hmaster hdatacut).mp h
  exact htold.has_tables rfl "public" "trade"
    ⟨⟨⟨1, listed "2" .DATACUT⟩, "public", "trade"⟩, List.mem_cons_self, rfl, rfl, rfl⟩

end Related

end Datasets
