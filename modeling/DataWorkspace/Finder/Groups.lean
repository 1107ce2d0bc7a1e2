import DataWorkspace.Datasets.Access
import DataWorkspace.Finder.Elasticsearch

/-!
# The matches of each dataset

The matches are grouped by dataset, through a map from the names of tables that keeps the last
table of each name.  A group has the dataset of its first match, and each match of a name in the
map is in the group that the map says (`group_spec`).
-/

namespace Finder

open Py Core Datasets

/-- The name of the table of a match. -/
def TableMatchResult.key (m : TableMatchResult) : Str × Str := (m.schema, m.table)

/-! ## Grouping -/

/-- `master_blob`. -/
structure Master where
  id : Str
  slug : Str
  name : Str
  has_access : Bool
deriving DecidableEq, Repr

structure DatasetMatch where
  id : Str
  slug : Str
  name : Str
  table_matches : List TableMatchResult
  has_access : Bool
deriving DecidableEq, Repr

/-- The matching documents of its tables. -/
def DatasetMatch.count (d : DatasetMatch) : Nat := (d.table_matches.map TableMatchResult.count).sum

section Group

variable (slug : DataSet → Str) (user : User)

/-- What is kept of a table, `none` where the check of the user raises. -/
def master_blob (t : SourceTable) : Option ((Str × Str) × Master) := do
  let has_access ← t.dataset.user_has_access user
  some (t.key, ⟨t.dataset.id, slug t.dataset, t.dataset.name, has_access⟩)

/-- `table_to_master_map`, for the rows of its query in the order they come. -/
def table_to_master_map (tables : List SourceTable) : Option (Dict (Str × Str) Master) :=
  (tables.mapM (master_blob slug user)).map Dict.ofPairs

/-- The turn of a match. -/
def add_match (by_table : Dict (Str × Str) Master) (masters : Dict Str DatasetMatch)
    (m : TableMatchResult) : Dict Str DatasetMatch :=
  match by_table.get? m.key with
  | none => masters
  | some blob =>
      let master := (masters.get? blob.id).getD ⟨blob.id, blob.slug, blob.name, [], blob.has_access⟩
      masters.set blob.id { master with table_matches := master.table_matches ++ [m] }

/-- The tables of a dataset in descending order. -/
def DatasetMatch.sorted (d : DatasetMatch) : DatasetMatch :=
  { d with table_matches := sortedBy (fun t => -(t.count : Int)) d.table_matches }

/-- `group_tables_by_master_dataset`. -/
def group_tables_by_master_dataset (tables : List SourceTable) (found : List TableMatchResult) :
    Option (List DatasetMatch) :=
  if found = [] then some []
  else do
    let by_table ← table_to_master_map slug user tables
    let masters := (found.foldl (add_match by_table) Dict.empty).items.map Prod.snd
    some (sortedBy (fun r => -(r.count : Int)) (masters.map DatasetMatch.sorted))

end Group

/-! ## The dataset of a match -/

section Blobs

variable {s : Site} {slug : DataSet → Str} {user : User}

theorem master_blob_eq_some_iff {t : SourceTable} {kb : (Str × Str) × Master} :
    master_blob slug user t = some kb ↔
      ∃ has_access, t.dataset.user_has_access user = some has_access ∧
      kb = (t.key, ⟨t.dataset.id, slug t.dataset, t.dataset.name, has_access⟩) := by
  rw [master_blob, Option.bind_eq_bind, Option.bind_eq_some_iff]
  simp only [Option.some.injEq, eq_comm (a := kb)]

theorem user_has_access_iff (h : (user_email_domain user).isSome = true) (d : DataSet) :
    ∃ has_access, d.user_has_access user = some has_access ∧
      (has_access = true ↔ Due user d) := by
  obtain ⟨domain, hdomain⟩ := Option.isSome_iff_exists.mp h
  refine ⟨d.isOpen || d.user_permissions.contains user.id ||
    d.authorized_email_domains.contains domain, ?_, ?_⟩
  · simp [DataSet.user_has_access, hdomain]
  · simp [Due, DomainAuthorized, hdomain, or_assoc]

theorem exists_table_to_master_map (slug : DataSet → Str)
    (h : (user_email_domain user).isSome = true) (tables : List SourceTable) :
    ∃ by_table, table_to_master_map slug user tables = some by_table := by
  have hall : ∀ t ∈ tables, ∃ kb, master_blob slug user t = some kb ∧ True := by
    intro t _
    obtain ⟨has_access, haccess, -⟩ := user_has_access_iff h t.dataset
    exact ⟨_, master_blob_eq_some_iff.mpr ⟨has_access, haccess, rfl⟩, trivial⟩
  obtain ⟨pairs, hpairs, -⟩ := exists_mapM_iff.mpr hall
  exact ⟨Dict.ofPairs pairs, by rw [table_to_master_map, hpairs, Option.map_some]⟩

theorem domain_of_table_to_master_map {tables : List SourceTable}
    {by_table : Dict (Str × Str) Master} (h : table_to_master_map slug user tables = some by_table)
    {t : SourceTable} (ht : t ∈ tables) : (user_email_domain user).isSome = true := by
  obtain ⟨pairs, hpairs, -⟩ := Option.map_eq_some_iff.mp h
  obtain ⟨kb, -, hblob⟩ := exists_of_mapM hpairs ht
  obtain ⟨has_access, haccess, -⟩ := master_blob_eq_some_iff.mp hblob
  rw [DataSet.user_has_access] at haccess
  obtain ⟨domain, hdomain, -⟩ := Option.bind_eq_some_iff.mp haccess
  rw [hdomain, Option.isSome_some]

theorem get?_table_to_master_map {tables : List SourceTable} {by_table : Dict (Str × Str) Master}
    (h : table_to_master_map slug user tables = some by_table) {key : Str × Str} {blob : Master}
    (hget : by_table.get? key = some blob) :
    ∃ t ∈ tables, master_blob slug user t = some (key, blob) := by
  obtain ⟨pairs, hpairs, rfl⟩ := Option.map_eq_some_iff.mp h
  exact (mem_mapM_iff hpairs _).mp (Dict.mem_of_get?_ofPairs hget)

theorem exists_get?_table_to_master_map {tables : List SourceTable}
    {by_table : Dict (Str × Str) Master} (h : table_to_master_map slug user tables = some by_table)
    {t : SourceTable} (ht : t ∈ tables) : ∃ blob, by_table.get? t.key = some blob := by
  obtain ⟨pairs, hpairs, rfl⟩ := Option.map_eq_some_iff.mp h
  obtain ⟨kb, hkb, hblob⟩ := exists_of_mapM hpairs ht
  obtain ⟨has_access, -, rfl⟩ := master_blob_eq_some_iff.mp hblob
  exact Dict.get?_ofPairs_isSome hkb

theorem get?_table_to_master_map_concat {init : List SourceTable} {t : SourceTable}
    {by_table : Dict (Str × Str) Master}
    (h : table_to_master_map slug user (init ++ [t]) = some by_table) :
    ∃ blob, master_blob slug user t = some (t.key, blob) ∧ by_table.get? t.key = some blob := by
  obtain ⟨pairs, hpairs, rfl⟩ := Option.map_eq_some_iff.mp h
  rw [List.mapM_append] at hpairs
  obtain ⟨pairs, -, hpairs⟩ := Option.bind_eq_some_iff.mp hpairs
  obtain ⟨last, hlast, hpairs⟩ := Option.bind_eq_some_iff.mp hpairs
  rw [List.mapM_cons] at hlast
  obtain ⟨kb, hblob, hlast⟩ := Option.bind_eq_some_iff.mp hlast
  obtain rfl : [kb] = last := Option.some.inj hlast
  obtain rfl := Option.some.inj hpairs
  obtain ⟨has_access, -, rfl⟩ := master_blob_eq_some_iff.mp hblob
  exact ⟨_, hblob, by rw [Dict.get?_ofPairs]; simp⟩

end Blobs

/-! ## The groups -/

section Groups

variable {by_table : Dict (Str × Str) Master}

/-- No two blobs of the map have one id. -/
def IdsApart (by_table : Dict (Str × Str) Master) : Prop :=
  ∀ key key' blob blob', by_table.get? key = some blob → by_table.get? key' = some blob' →
    blob.id = blob'.id → blob = blob'

structure IsGroup (by_table : Dict (Str × Str) Master) (blob : Master) (d : DatasetMatch) :
    Prop where
  id : d.id = blob.id
  slug : d.slug = blob.slug
  name : d.name = blob.name
  has_access : d.has_access = blob.has_access
  matches_ : ∀ m ∈ d.table_matches, by_table.get? m.key = some blob

structure Grouped (by_table : Dict (Str × Str) Master) (seen : List TableMatchResult)
    (masters : Dict Str DatasetMatch) : Prop where
  groups : ∀ id d, masters.get? id = some d →
    ∃ key blob, by_table.get? key = some blob ∧ blob.id = id ∧ IsGroup by_table blob d
  old : ∀ id d, masters.get? id = some d → ∀ m ∈ d.table_matches, m ∈ seen
  all : ∀ m ∈ seen, ∀ blob, by_table.get? m.key = some blob →
    ∃ d, masters.get? blob.id = some d ∧ m ∈ d.table_matches

theorem Grouped.step_of_none {seen : List TableMatchResult} {masters : Dict Str DatasetMatch}
    (h : Grouped by_table seen masters) {m : TableMatchResult} (hm : by_table.get? m.key = none) :
    Grouped by_table (seen ++ [m]) (add_match by_table masters m) := by
  have hsame : add_match by_table masters m = masters := by rw [add_match, hm]
  rw [hsame]
  refine ⟨h.groups, fun id d hd m' hm' => List.mem_append_left _ (h.old id d hd m' hm'), ?_⟩
  intro m' hm' blob hblob
  rcases List.mem_append.mp hm' with hm' | hm'
  · exact h.all m' hm' blob hblob
  · obtain rfl := List.mem_singleton.mp hm'
    rw [hm] at hblob
    cases hblob

theorem Grouped.isGroup_old {seen : List TableMatchResult} {masters : Dict Str DatasetMatch}
    (h : Grouped by_table seen masters)
    (hids : IdsApart by_table)
    {key : Str × Str} {blob : Master} (hblob : by_table.get? key = some blob) :
    IsGroup by_table blob ((masters.get? blob.id).getD
      ⟨blob.id, blob.slug, blob.name, [], blob.has_access⟩) := by
  cases hget : masters.get? blob.id with
  | none => exact ⟨rfl, rfl, rfl, rfl, by simp⟩
  | some d =>
      obtain ⟨key', blob', hblob', hid, hd⟩ := h.groups _ _ hget
      obtain rfl := hids key' key blob' blob hblob' hblob hid
      exact hd

theorem Grouped.step {seen : List TableMatchResult} {masters : Dict Str DatasetMatch}
    (h : Grouped by_table seen masters)
    (hids : IdsApart by_table)
    (m : TableMatchResult) : Grouped by_table (seen ++ [m]) (add_match by_table masters m) := by
  cases hm : by_table.get? m.key with
  | none => exact h.step_of_none hm
  | some blob =>
      have hgroup := h.isGroup_old hids hm
      have hadd : add_match by_table masters m = masters.set blob.id
          { (masters.get? blob.id).getD ⟨blob.id, blob.slug, blob.name, [], blob.has_access⟩ with
            table_matches := ((masters.get? blob.id).getD
              ⟨blob.id, blob.slug, blob.name, [], blob.has_access⟩).table_matches ++ [m] } := by
        rw [add_match, hm]
      rw [hadd]
      constructor
      · intro id d hd
        rw [Dict.get?_set] at hd
        split at hd
        next hid =>
          obtain rfl := Option.some.inj hd
          refine ⟨m.key, blob, hm, hid.symm, hgroup.id, hgroup.slug, hgroup.name,
            hgroup.has_access, ?_⟩
          intro m' hm'
          rcases List.mem_append.mp hm' with hm' | hm'
          · exact hgroup.matches_ m' hm'
          · rw [List.mem_singleton.mp hm', hm]
        next => exact h.groups id d hd
      · intro id d hd m' hm'
        rw [Dict.get?_set] at hd
        split at hd
        next =>
          obtain rfl := Option.some.inj hd
          rcases List.mem_append.mp hm' with hm' | hm'
          · refine List.mem_append_left _ ?_
            cases hget : masters.get? blob.id with
            | none =>
                rw [hget] at hm'
                cases hm'
            | some d =>
                rw [hget] at hm'
                exact h.old _ d hget m' hm'
          · exact List.mem_append_right _ hm'
        next => exact List.mem_append_left _ (h.old id d hd m' hm')
      · intro m' hm' blob' hblob'
        rw [Dict.get?_set]
        rcases List.mem_append.mp hm' with hm' | hm'
        · obtain ⟨d, hd, hmem⟩ := h.all m' hm' blob' hblob'
          split
          next hid =>
            refine ⟨_, rfl, List.mem_append_left _ ?_⟩
            rw [← hid, hd]
            exact hmem
          next => exact ⟨d, hd, hmem⟩
        · obtain rfl := List.mem_singleton.mp hm'
          obtain rfl : blob = blob' := Option.some.inj (hm.symm.trans hblob')
          rw [if_pos rfl]
          exact ⟨_, rfl, List.mem_append_right _ List.mem_cons_self⟩

theorem grouped_foldl
    (hids : IdsApart by_table)
    (found : List TableMatchResult) :
    Grouped by_table found (found.foldl (add_match by_table) Dict.empty) := by
  induction found using List.reverseRecOn with
  | nil =>
      constructor
      · intro id d h
        cases h
      · intro id d h
        cases h
      · intro m hm
        cases hm
  | append_singleton found m ih =>
      rw [List.foldl_append, List.foldl_cons, List.foldl_nil]
      exact ih.step hids m

theorem IsGroup.sorted {blob : Master} {d : DatasetMatch} (h : IsGroup by_table blob d) :
    IsGroup by_table blob d.sorted :=
  ⟨h.id, h.slug, h.name, h.has_access,
    fun m hm => h.matches_ m ((sortedBy_perm _ d.table_matches).mem_iff.mp hm)⟩

theorem group_spec {slug : DataSet → Str} {user : User} {tables : List SourceTable}
    {found : List TableMatchResult} (hfound : found ≠ [])
    (hmap : table_to_master_map slug user tables = some by_table)
    (hids : IdsApart by_table) :
    ∃ results, group_tables_by_master_dataset slug user tables found = some results ∧
      (∀ d ∈ results, ∀ m ∈ d.table_matches, m ∈ found ∧
        ∃ blob, by_table.get? m.key = some blob ∧ IsGroup by_table blob d) ∧
      ∀ m ∈ found, ∀ blob, by_table.get? m.key = some blob →
        ∃ d ∈ results, m ∈ d.table_matches := by
  have hgrouped := grouped_foldl hids found
  have hmem : ∀ d, d ∈ sortedBy (fun r : DatasetMatch => -(r.count : Int))
      (((found.foldl (add_match by_table) Dict.empty).items.map Prod.snd).map DatasetMatch.sorted) ↔
      ∃ id d', (found.foldl (add_match by_table) Dict.empty).get? id = some d' ∧ d'.sorted = d := by
    intro d
    rw [(sortedBy_perm _ _).mem_iff, List.mem_map]
    constructor
    · rintro ⟨d', hd', rfl⟩
      obtain ⟨⟨id, d''⟩, hitem, rfl⟩ := List.mem_map.mp hd'
      exact ⟨id, d'', (Dict.mem_items_iff _ _ _).mp hitem, rfl⟩
    · rintro ⟨id, d', hd', rfl⟩
      exact ⟨d', List.mem_map.mpr ⟨(id, d'), (Dict.mem_items_iff _ _ _).mpr hd', rfl⟩, rfl⟩
  refine ⟨_, by rw [group_tables_by_master_dataset, if_neg hfound, hmap]; rfl, ?_, ?_⟩
  · intro d hd m hm
    obtain ⟨id, d', hd', rfl⟩ := (hmem d).mp hd
    have hm' : m ∈ d'.table_matches := (sortedBy_perm _ _).mem_iff.mp hm
    obtain ⟨key, blob, -, -, hgroup⟩ := hgrouped.groups id d' hd'
    exact ⟨hgrouped.old id d' hd' m hm', blob, hgroup.matches_ m hm', hgroup.sorted⟩
  · intro m hm blob hblob
    obtain ⟨d, hd, hm'⟩ := hgrouped.all m hm blob hblob
    exact ⟨d.sorted, (hmem _).mpr ⟨_, d, hd, rfl⟩, (sortedBy_perm _ _).mem_iff.mpr hm'⟩

end Groups

end Finder
