import DataWorkspace.Order.Firsts
import DataWorkspace.Py.Split
import Mathlib.Data.Char
import Mathlib.Algebra.GroupWithZero.Nat
import Mathlib.Data.List.Dedup
import Mathlib.Data.List.Pairwise
import Mathlib.Data.Prod.Lex

/-!
# Searching the tables for a phrase

The finder asks Elasticsearch for the indexes that have a phrase, in batches of a hundred aliases.
The answer to a batch counts the matching documents of its indexes, but only of the ten that have
the most.

`search_for_phrase_complete_iff` says when no index is left out and none comes twice.
-/

namespace Finder

open Py Order

/-- A table that holds the phrase. -/
structure TableMatchResult where
  index : Str
  schema : Str
  table : Str
  count : Nat
  has_access : Bool
  name : Option Str
deriving DecidableEq, Repr

/-- A bucket of a terms aggregation. -/
structure Bucket where
  key : Str
  doc_count : Nat
deriving DecidableEq, Repr

/-- Elasticsearch, as far as the finder asks it. -/
structure Elasticsearch (F : Type) where
  /-- The indexes that an alias names. -/
  indexes : Str → List Str
  /-- The documents of an index that match a phrase and filters. -/
  matching : Str → F → Str → Nat
  /-- The name of an index: `{timestamp}--{schema}--{table}--{arbitrary_number}`. -/
  format : ∀ alias_, ∀ index ∈ indexes alias_,
    ∃ timestamp schema table number, split "--" index = [timestamp, schema, table, number]

/-- The answer to a search. -/
structure Response where
  hits_total_value : Nat
  buckets : List Bucket
deriving DecidableEq, Repr

variable {F : Type} (es : Elasticsearch F)

namespace Elasticsearch

/-- The order of buckets: more documents first, and among as many the first key. -/
def bucket_key (phrase : Str) (filters : F) (index : Str) : Int ×ₗ Str :=
  toLex (-(es.matching phrase filters index : Int), index)

theorem bucket_key_injective (phrase : Str) (filters : F) :
    Function.Injective (es.bucket_key phrase filters) := by
  intro i j h
  exact (Prod.ext_iff.mp (toLex.injective h)).2

/-- The indexes that some aliases name and that have a matching document.  Aliases of no index are
ignored. -/
def found (phrase : Str) (filters : F) (index_aliases : List Str) : List Str :=
  (index_aliases.flatMap es.indexes).dedup.filter fun index =>
    decide (0 < es.matching phrase filters index)

/-- A terms aggregation has ten buckets where no size is given, and hits are counted up to ten
thousand. -/
def search (phrase : Str) (filters : F) (index_aliases : List Str) : Response where
  hits_total_value :=
    min 10000 ((es.found phrase filters index_aliases).map (es.matching phrase filters)).sum
  buckets :=
    (firsts (es.bucket_key phrase filters) 10 (es.found phrase filters index_aliases)).map
      fun index => ⟨index, es.matching phrase filters index⟩

end Elasticsearch

/-! ## The client -/

/-- `lists_of_indexes[-1].append(alias)`. -/
def append_last {α : Type} (lists_of_indexes : List (List α)) (alias_ : α) :
    Option (List (List α)) :=
  lists_of_indexes.getLast?.map fun last => lists_of_indexes.dropLast ++ [last ++ [alias_]]

/-- `_batch_indexes`. -/
def batch_indexes {α : Type} (batch_size : Nat) (index_aliases : List α) :
    Option (List (List α)) :=
  index_aliases.zipIdx.foldlM (fun lists_of_indexes (alias_, i) =>
    append_last (if i % batch_size = 0 then lists_of_indexes ++ [[]] else lists_of_indexes)
      alias_) []

/-- The result for a bucket, `none` where the name of the index has not got four parts. -/
def table_match_result (r : Bucket) : Option TableMatchResult :=
  match split "--" r.key with
  | [_, schema, table, _] => some ⟨r.key, schema, table, r.doc_count, false, none⟩
  | _ => none

def batch_results (phrase : Str) (filters : F) (batch : List Str) :
    Option (List TableMatchResult) :=
  let resp := es.search phrase filters batch
  if resp.hits_total_value > 0 then resp.buckets.mapM table_match_result else some []

/-- `search_for_phrase`. -/
def search_for_phrase (phrase : Str) (index_aliases : List Str) (filters : F) :
    Option (List TableMatchResult) := do
  let batches ← batch_indexes 100 index_aliases
  let results ← batches.mapM (batch_results es phrase filters)
  some (sortedBy (fun r => -(r.count : Int)) results.flatten)

/-- `get_count`. -/
def get_count (phrase index_alias : Str) (filters : F) : Option Nat :=
  (search_for_phrase es phrase [index_alias] filters).map fun
    | [] => 0
    | first :: _ => first.count

/-! ## Completeness -/

section Complete

variable (phrase : Str) (filters : F) (index_aliases : List Str)

def Holds (index : Str) : Prop :=
  (∃ alias_ ∈ index_aliases, index ∈ es.indexes alias_) ∧ 0 < es.matching phrase filters index

/-- One result for each index that holds the phrase, with its documents, in descending order. -/
structure Complete (results : List TableMatchResult) : Prop where
  once : (results.map TableMatchResult.index).Nodup
  indexes : ∀ index, index ∈ results.map TableMatchResult.index ↔
    Holds es phrase filters index_aliases index
  count : ∀ r ∈ results, r.count = es.matching phrase filters r.index
  table : ∀ r ∈ results, ∃ timestamp number,
    split "--" r.index = [timestamp, r.schema, r.table, number]
  descending : results.Pairwise fun a b => b.count ≤ a.count

/-- The index is one of a batch and holds the phrase, and fewer than ten of the others that do come
before it. -/
def IsLargest (index : Str) (batch : List Str) : Prop :=
  index ∈ es.found phrase filters batch ∧ (es.found phrase filters batch).countP (fun other =>
    es.bucket_key phrase filters other < es.bucket_key phrase filters index) < 10

instance (index : Str) (batch : List Str) :
    Decidable (IsLargest es phrase filters index batch) :=
  inferInstanceAs (Decidable (_ ∧ _))

end Complete

/-! ## Batches -/

section Batches

variable {α : Type} {n : Nat}

/-- The elements of a list from the `n * k`-th on, up to `n` of them. -/
def chunk (n : Nat) (l : List α) (k : Nat) : List α := (l.drop (n * k)).take n

theorem chunk_append_of_le {l : List α} {k : Nat} (h : n * (k + 1) ≤ l.length) (a : α) :
    chunk n (l ++ [a]) k = chunk n l k := by
  rw [Nat.mul_succ] at h
  rw [chunk, List.drop_append_of_le_length (by omega),
    List.take_append_of_le_length (by rw [List.length_drop]; omega), chunk]

theorem chunk_append {l : List α} (h : 0 < n) (a : α) :
    chunk n (l ++ [a]) (l.length / n) = chunk n l (l.length / n) ++ [a] := by
  have hdiv := Nat.div_add_mod l.length n
  have hmod := Nat.mod_lt l.length h
  have hlength : (l.drop (n * (l.length / n))).length = l.length % n := by
    rw [List.length_drop]
    omega
  rw [chunk, List.drop_append_of_le_length (by omega), List.take_of_length_le, chunk,
    List.take_of_length_le]
  · omega
  · rw [List.length_append, hlength, List.length_singleton]
    omega

theorem chunks_or_new (h : 0 < n) (l : List α) :
    (if l.length % n = 0 then (List.range ((l.length + n - 1) / n)).map (chunk n l) ++ [[]]
      else (List.range ((l.length + n - 1) / n)).map (chunk n l)) =
    (List.range (l.length / n)).map (chunk n l) ++ [chunk n l (l.length / n)] := by
  have hdiv := Nat.div_add_mod l.length n
  have hmod := Nat.mod_lt l.length h
  by_cases hfull : l.length % n = 0
  · have hcount : (l.length + n - 1) / n = l.length / n := by
      rw [Nat.div_eq_iff h]
      constructor
      · rw [Nat.mul_comm]
        omega
      · rw [Nat.mul_comm]
        omega
    have hempty : chunk n l (l.length / n) = [] := by
      rw [chunk, List.drop_eq_nil_of_le (by omega), List.take_nil]
    rw [if_pos hfull, hcount, hempty]
  · have hcount : (l.length + n - 1) / n = l.length / n + 1 := by
      rw [Nat.div_eq_iff h, Nat.succ_mul, Nat.mul_comm]
      omega
    rw [if_neg hfull, hcount, List.range_succ, List.map_append, List.map_singleton]

theorem batch_indexes_eq (h : 0 < n) (l : List α) :
    batch_indexes n l = some ((List.range ((l.length + n - 1) / n)).map (chunk n l)) := by
  induction l using List.reverseRecOn with
  | nil =>
      have hnone : (0 + n - 1) / n = 0 := Nat.div_eq_of_lt (by omega)
      rw [List.length_nil, hnone]
      rfl
  | append_singleton l a ih =>
      have hstep : batch_indexes n (l ++ [a]) = append_last (if l.length % n = 0 then
          (List.range ((l.length + n - 1) / n)).map (chunk n l) ++ [[]]
          else (List.range ((l.length + n - 1) / n)).map (chunk n l)) a := by
        rw [batch_indexes, List.zipIdx_append, List.foldlM_append]
        rw [batch_indexes] at ih
        rw [ih]
        simp
      have hcount : ((l ++ [a]).length + n - 1) / n = l.length / n + 1 := by
        rw [List.length_append, List.length_singleton, show l.length + 1 + n - 1 = l.length + n by
          omega, Nat.add_div_right _ h]
      have hchunks : (List.range (l.length / n)).map (chunk n (l ++ [a])) =
          (List.range (l.length / n)).map (chunk n l) := by
        apply List.map_congr_left
        intro k hk
        apply chunk_append_of_le
        calc n * (k + 1) ≤ n * (l.length / n) := Nat.mul_le_mul_left n (List.mem_range.mp hk)
          _ ≤ l.length := Nat.mul_div_le l.length n
      rw [hstep, chunks_or_new h, hcount, List.range_succ, List.map_append, List.map_singleton,
        hchunks, chunk_append h]
      simp [append_last]

theorem mem_of_mem_chunk {l : List α} {k : Nat} {x : α} (hx : x ∈ chunk n l k) : x ∈ l :=
  List.mem_of_mem_drop (List.mem_of_mem_take hx)

end Batches

/-! ## Results -/

section Results

variable (phrase : Str) (filters : F)

namespace Elasticsearch

theorem mem_found {es : Elasticsearch F} {phrase : Str} {filters : F} {index_aliases : List Str}
    {index : Str} :
    index ∈ es.found phrase filters index_aliases ↔
      Holds es phrase filters index_aliases index := by
  simp [found, Holds]

theorem nodup_found (index_aliases : List Str) :
    (es.found phrase filters index_aliases).Nodup := (List.nodup_dedup _).filter _

def largest (index_aliases : List Str) : List Str :=
  firsts (es.bucket_key phrase filters) 10 (es.found phrase filters index_aliases)

theorem mem_largest {index_aliases : List Str} {index : Str} :
    index ∈ es.largest phrase filters index_aliases ↔
      IsLargest es phrase filters index index_aliases :=
  mem_firsts_iff (es.bucket_key_injective phrase filters) (es.nodup_found phrase filters _)

theorem nodup_largest (index_aliases : List Str) :
    (es.largest phrase filters index_aliases).Nodup :=
  nodup_firsts (es.nodup_found phrase filters index_aliases)

end Elasticsearch

theorem holds_of_isLargest {batch : List Str} {index : Str}
    (h : IsLargest es phrase filters index batch) : Holds es phrase filters batch index :=
  Elasticsearch.mem_found.mp h.1

/-- A result that says what Elasticsearch has. -/
structure Exact (r : TableMatchResult) : Prop where
  count : r.count = es.matching phrase filters r.index
  table : ∃ timestamp number, split "--" r.index = [timestamp, r.schema, r.table, number]

theorem table_match_result_exact {index_aliases : List Str} {index : Str}
    (h : Holds es phrase filters index_aliases index) :
    ∃ r, table_match_result ⟨index, es.matching phrase filters index⟩ = some r ∧
      r.index = index ∧ Exact es phrase filters r := by
  obtain ⟨⟨alias_, -, hindex⟩, -⟩ := h
  obtain ⟨timestamp, schema, table, number, hsplit⟩ := es.format alias_ index hindex
  refine ⟨⟨index, schema, table, es.matching phrase filters index, false, none⟩, ?_, rfl, rfl,
    timestamp, number, hsplit⟩
  rw [table_match_result]
  simp only [hsplit]

theorem batch_results_spec (batch : List Str) :
    ∃ results, batch_results es phrase filters batch = some results ∧
      (∀ r ∈ results, Exact es phrase filters r) ∧
      results.map TableMatchResult.index = es.largest phrase filters batch := by
  by_cases hhits : (es.search phrase filters batch).hits_total_value > 0
  · have hbuckets : ∀ b ∈ (es.search phrase filters batch).buckets, ∃ r,
        table_match_result b = some r ∧ Exact es phrase filters r ∧ r.index = b.key := by
      intro b hb
      obtain ⟨index, hindex, rfl⟩ := List.mem_map.mp hb
      have hfound : index ∈ es.found phrase filters batch := mem_of_mem_firsts hindex
      obtain ⟨r, hr, hkey, hexact⟩ :=
        table_match_result_exact es phrase filters (Elasticsearch.mem_found.mp hfound)
      exact ⟨r, hr, hexact, hkey⟩
    obtain ⟨results, hresults, hforall⟩ := exists_mapM_iff.mpr hbuckets
    obtain ⟨hexact, hkeys⟩ := (List.forall₂_and_left _ _).mp hforall
    refine ⟨results, ?_, hexact, ?_⟩
    · rw [batch_results]
      simp only [if_pos hhits, hresults]
    · rw [map_eq_map_of_forall₂ hkeys, Elasticsearch.search, List.map_map]
      exact List.map_id _
  · have hnone : es.found phrase filters batch = [] := by
      rw [List.eq_nil_iff_forall_not_mem]
      intro index hindex
      have hpos : 0 < es.matching phrase filters index := (Elasticsearch.mem_found.mp hindex).2
      have hsum : 0 < ((es.found phrase filters batch).map (es.matching phrase filters)).sum :=
        List.sum_pos_iff_exists_pos_nat.mpr ⟨_, List.mem_map_of_mem hindex, hpos⟩
      simp only [Elasticsearch.search] at hhits
      omega
    refine ⟨[], ?_, by simp, ?_⟩
    · rw [batch_results]
      simp only [if_neg hhits]
    · rw [Elasticsearch.largest, firsts, hnone]
      rfl

theorem search_for_phrase_spec (index_aliases : List Str) :
    ∃ results, search_for_phrase es phrase index_aliases filters = some results ∧
      (∀ r ∈ results, Exact es phrase filters r) ∧
      (results.map TableMatchResult.index).Perm
        ((List.range ((index_aliases.length + 100 - 1) / 100)).flatMap fun k =>
          es.largest phrase filters (chunk 100 index_aliases k)) ∧
      results.Pairwise fun a b => b.count ≤ a.count := by
  have hbatches : ∀ batch ∈
      (List.range ((index_aliases.length + 100 - 1) / 100)).map (chunk 100 index_aliases),
      ∃ results, batch_results es phrase filters batch = some results ∧
        (∀ r ∈ results, Exact es phrase filters r) ∧
        results.map TableMatchResult.index = es.largest phrase filters batch :=
    fun batch _ => batch_results_spec es phrase filters batch
  obtain ⟨results, hresults, hforall⟩ := exists_mapM_iff.mpr hbatches
  obtain ⟨hexact, hkeys⟩ := (List.forall₂_and_left _ _).mp hforall
  have hperm := sortedBy_perm (fun r : TableMatchResult => -(r.count : Int)) results.flatten
  refine ⟨_, ?_, ?_, (hperm.map _).trans ?_, (pairwise_sortedBy _ _).imp ?_⟩
  · rw [search_for_phrase, batch_indexes_eq (by omega)]
    simp only [Option.bind_eq_bind, Option.bind_some, hresults]
  · intro r hr
    obtain ⟨batch, hbatch, hr⟩ := List.mem_flatten.mp (hperm.mem_iff.mp hr)
    exact hexact batch hbatch r hr
  · rw [List.map_flatten, map_eq_map_of_forall₂ hkeys, List.map_map, ← List.flatMap_def]
    rfl
  · intro a b h
    omega

end Results

/-! ## When nothing is left out -/

variable {es}

theorem holds_of_holds_chunk {phrase : Str} {filters : F} {index_aliases : List Str} {index : Str}
    {k : Nat} (h : Holds es phrase filters (chunk 100 index_aliases k) index) :
    Holds es phrase filters index_aliases index := by
  obtain ⟨⟨alias_, halias, hindex⟩, hpos⟩ := h
  exact ⟨⟨alias_, mem_of_mem_chunk halias, hindex⟩, hpos⟩

theorem lt_of_isLargest {phrase : Str} {filters : F} {index_aliases : List Str} {index : Str}
    {k : Nat} (h : IsLargest es phrase filters index (chunk 100 index_aliases k)) :
    k < (index_aliases.length + 100 - 1) / 100 := by
  obtain ⟨⟨alias_, halias, -⟩, -⟩ := holds_of_isLargest es phrase filters h
  have hlength := List.length_pos_of_mem halias
  rw [chunk, List.length_take, List.length_drop] at hlength
  omega

/-- `search_for_phrase` answers with one result for each index that has the phrase if and only if
each of them is one of the ten largest of exactly one batch. -/
theorem search_for_phrase_complete_iff (phrase : Str) (filters : F) (index_aliases : List Str) :
    (∃ results, search_for_phrase es phrase index_aliases filters = some results ∧
      Complete es phrase filters index_aliases results) ↔
    ∀ index, Holds es phrase filters index_aliases index →
      ∃! k, IsLargest es phrase filters index (chunk 100 index_aliases k) := by
  obtain ⟨results, hresults, hexact, hperm, hdescending⟩ :=
    search_for_phrase_spec es phrase filters index_aliases
  have hmem : ∀ index, index ∈ results.map TableMatchResult.index ↔
      ∃ k, IsLargest es phrase filters index (chunk 100 index_aliases k) := by
    intro index
    simp only [hperm.mem_iff, List.mem_flatMap, List.mem_range, Elasticsearch.mem_largest]
    constructor
    · rintro ⟨k, -, h⟩
      exact ⟨k, h⟩
    · rintro ⟨k, h⟩
      exact ⟨k, lt_of_isLargest h, h⟩
  constructor
  · rintro ⟨results', hresults', hcomplete⟩
    obtain rfl := Option.some.inj (hresults.symm.trans hresults')
    intro index hholds
    obtain ⟨k, hk⟩ := (hmem index).mp ((hcomplete.indexes index).mpr hholds)
    refine ⟨k, hk, fun j hj => ?_⟩
    by_contra hne
    have hdisjoint := (List.nodup_flatMap.mp (hperm.nodup_iff.mp hcomplete.once)).2
    have : Std.Symm (Function.onFun List.Disjoint fun k =>
        es.largest phrase filters (chunk 100 index_aliases k)) := ⟨fun _ _ h => h.symm⟩
    exact hdisjoint.forall (List.mem_range.mpr (lt_of_isLargest hj))
      (List.mem_range.mpr (lt_of_isLargest hk)) hne
      ((es.mem_largest phrase filters).mpr hj) ((es.mem_largest phrase filters).mpr hk)
  · intro h
    refine ⟨results, hresults, ?_, ?_, fun r hr => (hexact r hr).count,
      fun r hr => (hexact r hr).table, hdescending⟩
    · rw [hperm.nodup_iff, List.nodup_flatMap]
      refine ⟨fun k _ => es.nodup_largest phrase filters _,
        List.Nodup.pairwise_of_forall_ne List.nodup_range ?_⟩
      intro i _ j _ hne index hi hj
      rw [Elasticsearch.mem_largest] at hi hj
      have hholds := holds_of_holds_chunk (holds_of_isLargest es phrase filters hi)
      exact hne ((h index hholds).unique hi hj)
    · intro index
      rw [hmem]
      constructor
      · rintro ⟨k, hk⟩
        exact holds_of_holds_chunk (holds_of_isLargest es phrase filters hk)
      · intro hholds
        exact (h index hholds).exists

/-- Eleven aliases of tables, each the name of one index. -/
def table_aliases : List Str := "0123456789a".toList.map fun c => "public--t".toList ++ [c]

def table_index (alias_ : Str) : Str := "20230101".toList ++ "--".toList ++ alias_ ++ "--0".toList

/-- A cluster of eleven tables with a matching document in each. -/
def elevenTables : Elasticsearch Unit where
  indexes alias_ := if alias_ ∈ table_aliases then [table_index alias_] else []
  matching _ _ _ := 1
  format alias_ index hindex := by
    have hparts : ∀ a ∈ table_aliases, (split "--" (table_index a)).length = 4 := by decide
    by_cases halias : alias_ ∈ table_aliases
    · rw [if_pos halias, List.mem_singleton] at hindex
      have hlength := hparts alias_ halias
      rw [← hindex] at hlength
      exact List.length_eq_four.mp hlength
    · rw [if_neg halias] at hindex
      exact absurd hindex List.not_mem_nil

/-- Eleven tables hold the phrase, and there are ten results. -/
theorem table_left_out : ¬ ∃ results,
    search_for_phrase elevenTables "trade".toList table_aliases () = some results ∧
      Complete elevenTables "trade".toList () table_aliases results := by
  rintro ⟨results, hresults, hcomplete⟩
  obtain ⟨results', hresults', -, hperm, -⟩ :=
    search_for_phrase_spec elevenTables "trade".toList () table_aliases
  obtain rfl := Option.some.inj (hresults'.symm.trans hresults)
  have hten : (results'.map TableMatchResult.index).length ≤ 10 := by
    rw [hperm.length_eq]
    show ((List.range 1).flatMap _).length ≤ 10
    rw [List.range_one, List.flatMap_singleton]
    exact List.length_take_le _ _
  have hsubset : table_aliases.map table_index ⊆ results'.map TableMatchResult.index := by
    intro index hindex
    obtain ⟨alias_, halias, rfl⟩ := List.mem_map.mp hindex
    refine (hcomplete.indexes _).mpr ⟨⟨alias_, halias, ?_⟩, Nat.one_pos⟩
    show table_index alias_ ∈ if alias_ ∈ table_aliases then [table_index alias_] else []
    rw [if_pos halias, List.mem_singleton]
  have hnodup : (table_aliases.map table_index).Nodup := by decide
  have hle := (List.subperm_of_subset hnodup hsubset).length_le
  have heleven : (table_aliases.map table_index).length = 11 := by decide
  omega

end Finder
