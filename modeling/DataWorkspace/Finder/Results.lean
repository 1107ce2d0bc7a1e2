import DataWorkspace.Finder.Groups

/-!
# What the finder shows

A match of the finder is a table that holds the phrase.  It is shown or suppressed by the last row
of a join for the name of the table, and shown under the dataset that another query finds last for
this name.  Neither query orders its rows.

`finds_right_iff` says when the order does not matter and what is shown is right.
-/

namespace Finder

open Py Core Datasets

/-! ## Enriching and suppressing -/

def enrich (mapped : Dict (Str × Str) FinderRow) (m : TableMatchResult) : Option TableMatchResult :=
  (shown mapped m.key).map fun row => { m with name := some row.name, has_access := row.has_access }

/-- `_enrich_and_suppress_matches`, for the rows of its query in the order they come. -/
def _enrich_and_suppress_matches (rows : List FinderRow) (found : List TableMatchResult) :
    List TableMatchResult × Bool :=
  (found.filterMap (enrich (mapped_tables rows)),
    found.any fun m => suppressed (mapped_tables rows) m.key)

/-! ## The page -/

/-- What the page is made of. -/
structure Page where
  results : List DatasetMatch
  has_hidden_tables : Bool
deriving DecidableEq, Repr

section Find

variable (s : Site) (slug : DataSet → Str) (user : User)

def match_table_filter (found : List TableMatchResult) : List SourceTable :=
  (s.tables.map FinderTable.source_table).filter fun t =>
    (found.map TableMatchResult.key).contains t.key

/-- `find_datasets` may show this for the matches that the search has found, or raise. -/
def find_datasets (found : List TableMatchResult) (page : Option Page) : Prop :=
  if found = [] then page = some ⟨[], false⟩
  else
    ∃ rows : List FinderRow,
      rows.Perm (tables_with_access_info user s.tables (found.map TableMatchResult.key)) ∧
    ∃ tables : List SourceTable,
      tables.Perm (match_table_filter s (_enrich_and_suppress_matches rows found).1) ∧
    page = (group_tables_by_master_dataset slug user tables
      (_enrich_and_suppress_matches rows found).1).map fun results =>
        ⟨results, (_enrich_and_suppress_matches rows found).2⟩

/-! ## What should be shown -/

/-- A table of the catalogue with a name. -/
structure IsHolder (key : Str × Str) (t : FinderTable) : Prop where
  mem : t ∈ s.tables
  key : t.source_table.key = key

structure MayShow (t : FinderTable) : Prop where
  published : t.source_table.dataset.published = true
  live : t.source_table.dataset.deleted = false
  rule : Due user t.source_table.dataset ∨ t.dataset_finder_opted_in = true

/-- Some table with the name may be shown. -/
def IsDue (key : Str × Str) : Prop := ∃ t, IsHolder s key t ∧ MayShow user t

def IsShown (page : Page) (m : TableMatchResult) : Prop :=
  ∃ d ∈ page.results, ∃ m' ∈ d.table_matches,
    m'.index = m.index ∧ m'.key = m.key ∧ m'.count = m.count

structure Displays (d : DatasetMatch) (m : TableMatchResult) (t : FinderTable) : Prop where
  id : d.id = t.source_table.dataset.id
  slug : d.slug = slug t.source_table.dataset
  name : d.name = t.source_table.dataset.name
  has_access : d.has_access = true ↔ Due user t.source_table.dataset
  table_name : m.name = some t.name

/-- The page shows the matches that it should, each as one of the tables it should be shown for. -/
structure PageRight (found : List TableMatchResult) (page : Page) : Prop where
  shown : ∀ m ∈ found, IsShown page m ↔ IsDue s user m.key
  displays : ∀ d ∈ page.results, ∀ m ∈ d.table_matches,
    ∃ t, IsHolder s m.key t ∧ MayShow user t ∧ Displays slug user d m t

/-- Every row for a name says the same of it, and what should be shown can be shown in every
combination that the two queries may find. -/
structure Agreed (key : Str × Str) : Prop where
  rows : ∀ t, IsHolder s key t →
    ∀ permission ∈ permissionRows t.source_table.dataset.user_permissions,
      (t.dataset_finder_opted_in = true ∨ t.source_table.dataset.isOpen = true ∨
        permission = some user.id) ↔ IsDue s user key
  domain : IsDue s user key → (user_email_domain user).isSome = true
  names : IsDue s user key → ∀ t t', IsHolder s key t → IsHolder s key t' →
    ∃ t'', IsHolder s key t'' ∧ MayShow user t'' ∧ t''.name = t.name ∧
      t''.source_table.dataset = t'.source_table.dataset

end Find

/-! ## The rows of a match -/

section Rows

variable {s : Site} {user : User}

structure RowOf (user : User) (t : FinderTable) (permission : Option Nat) (r : FinderRow) :
    Prop where
  has_access : r.has_access = true ↔
    t.source_table.dataset.isOpen = true ∨ permission = some user.id
  opted : r.dataset_finder_opted_in = t.dataset_finder_opted_in
  name : r.name = t.name

theorem mem_rows_iff {t : FinderTable} :
    (∀ r ∈ t.rows user, ∃ permission ∈ permissionRows t.source_table.dataset.user_permissions,
      RowOf user t permission r) ∧
    ∀ permission ∈ permissionRows t.source_table.dataset.user_permissions,
      ∃ r ∈ t.rows user, RowOf user t permission r := by
  have hrow : ∀ permission, RowOf user t permission
      { schema := t.source_table.schema
        table := t.source_table.table
        dataset_finder_opted_in := t.dataset_finder_opted_in
        name := t.name
        has_access := !(t.source_table.dataset.user_access_type == .REQUIRES_AUTHORIZATION &&
          !(permission == some user.id)) } := by
    intro permission
    refine ⟨?_, rfl, rfl⟩
    rw [isOpen_iff]
    cases t.source_table.dataset.user_access_type <;> simp
  constructor
  · intro r hr
    obtain ⟨permission, hpermission, rfl⟩ := List.mem_map.mp hr
    exact ⟨permission, hpermission, hrow permission⟩
  · intro permission hpermission
    exact ⟨_, List.mem_map_of_mem hpermission, hrow permission⟩

theorem enrich_eq_some_iff {mapped : Dict (Str × Str) FinderRow} {m m' : TableMatchResult} :
    enrich mapped m = some m' ↔ ∃ r, mapped.get? m.key = some r ∧
      (r.dataset_finder_opted_in = true ∨ r.has_access = true) ∧
      m' = { m with name := some r.name, has_access := r.has_access } := by
  rw [enrich, shown]
  cases mapped.get? m.key with
  | none => simp
  | some r =>
      rw [Option.bind_some]
      by_cases hvisible : r.dataset_finder_opted_in = true ∨ r.has_access = true
      · have hnot : ¬ (!r.dataset_finder_opted_in && !r.has_access) = true := by
          rcases hvisible with h | h <;> simp [h]
        rw [if_neg hnot, Option.map_some, Option.some.injEq]
        constructor
        · rintro rfl
          exact ⟨r, rfl, hvisible, rfl⟩
        · rintro ⟨r', hr', -, rfl⟩
          obtain rfl := Option.some.inj hr'
          rfl
      · have hhidden : (!r.dataset_finder_opted_in && !r.has_access) = true := by
          simpa using hvisible
        rw [if_pos hhidden, Option.map_none]
        constructor
        · intro h
          cases h
        · rintro ⟨r', hr', hvisible', -⟩
          obtain rfl := Option.some.inj hr'
          exact absurd hvisible' hvisible

theorem exists_holder_of_row {found : List TableMatchResult} {rows : List FinderRow}
    (hperm : rows.Perm (tables_with_access_info user s.tables (found.map TableMatchResult.key)))
    {m : TableMatchResult} (hm : m ∈ found) {r : FinderRow}
    (h : (mapped_tables rows).get? m.key = some r) :
    ∃ t, IsHolder s m.key t ∧ r ∈ t.rows user := by
  obtain ⟨hmem, hkey⟩ := mem_of_mapped_tables h
  obtain ⟨t, ht, hkey, hr⟩ := (mem_tables_with_access_info (List.mem_map_of_mem hm)).mp
    ⟨hperm.mem_iff.mp hmem, hkey⟩
  exact ⟨t, ⟨ht, hkey⟩, hr⟩

theorem exists_row_of_holder {found : List TableMatchResult} {rows : List FinderRow}
    (hperm : rows.Perm (tables_with_access_info user s.tables (found.map TableMatchResult.key)))
    {m : TableMatchResult} (hm : m ∈ found) {t : FinderTable} (ht : IsHolder s m.key t) :
    ∃ r, (mapped_tables rows).get? m.key = some r := by
  obtain ⟨permission, hpermission⟩ := List.exists_mem_of_ne_nil _
    (permissionRows_ne_nil t.source_table.dataset.user_permissions)
  obtain ⟨r, hr, -⟩ : ∃ r ∈ t.rows user, RowOf user t permission r :=
    mem_rows_iff.2 permission hpermission
  obtain ⟨hmem, hkey⟩ := (mem_tables_with_access_info (List.mem_map_of_mem hm)).mpr
    ⟨t, ht.mem, ht.key, hr⟩
  obtain ⟨r, hr⟩ := mapped_tables_isSome (hperm.mem_iff.mpr hmem)
  exact ⟨r, hkey ▸ hr⟩

theorem exists_perm_concat {α : Type} [DecidableEq α] {l : List α} {a : α} (h : a ∈ l) :
    ∃ init, (init ++ [a]).Perm l :=
  ⟨l.erase a, List.perm_append_comm.trans (List.perm_cons_erase h).symm⟩

theorem exists_rows_last {found : List TableMatchResult} {m : TableMatchResult} (hm : m ∈ found)
    {t : FinderTable} (ht : IsHolder s m.key t) {r : FinderRow} (hr : r ∈ t.rows user) :
    ∃ rows : List FinderRow,
      rows.Perm (tables_with_access_info user s.tables (found.map TableMatchResult.key)) ∧
      (mapped_tables rows).get? m.key = some r := by
  obtain ⟨hmem, hkey⟩ := (mem_tables_with_access_info (List.mem_map_of_mem hm)).mpr
    ⟨t, ht.mem, ht.key, hr⟩
  obtain ⟨init, hinit⟩ := exists_perm_concat hmem
  exact ⟨init ++ [r], hinit, hkey ▸ mapped_tables_concat init r⟩

end Rows

/-! ## What the page shows -/

section Pages

variable {s : Site} {slug : DataSet → Str} {user : User}

theorem idsApart_of_site {tables : List SourceTable} {by_table : Dict (Str × Str) Master}
    (hmap : table_to_master_map slug user tables = some by_table)
    (htables : ∀ t ∈ tables, t.dataset ∈ s.datasets) : IdsApart by_table := by
  intro key key' blob blob' hblob hblob' hid
  obtain ⟨t, ht, hof⟩ := get?_table_to_master_map hmap hblob
  obtain ⟨t', ht', hof'⟩ := get?_table_to_master_map hmap hblob'
  obtain ⟨access, haccess, heq⟩ := master_blob_eq_some_iff.mp hof
  obtain ⟨access', haccess', heq'⟩ := master_blob_eq_some_iff.mp hof'
  obtain ⟨-, rfl⟩ := Prod.mk.inj heq
  obtain ⟨-, rfl⟩ := Prod.mk.inj heq'
  have hsame : t.dataset = t'.dataset :=
    List.inj_on_of_nodup_map s.unique (htables t ht) (htables t' ht') hid
  rw [hsame] at haccess
  obtain rfl := Option.some.inj (haccess.symm.trans haccess')
  rw [hsame]

theorem mem_match_table_filter {found : List TableMatchResult} {t : SourceTable} :
    t ∈ match_table_filter s found ↔
      (∃ t' ∈ s.tables, t'.source_table = t) ∧ ∃ m ∈ found, m.key = t.key := by
  simp [match_table_filter]

theorem mem_tables_of_holder {tables : List SourceTable} {visible : List TableMatchResult}
    (hperm : tables.Perm (match_table_filter s visible)) {m : TableMatchResult} (hm : m ∈ visible)
    {t : FinderTable} (ht : IsHolder s m.key t) : t.source_table ∈ tables :=
  hperm.mem_iff.mpr (mem_match_table_filter.mpr ⟨⟨t, ht.mem, rfl⟩, m, hm, ht.key.symm⟩)

theorem holder_of_mem_tables {tables : List SourceTable} {visible : List TableMatchResult}
    (hperm : tables.Perm (match_table_filter s visible)) {t : SourceTable} (ht : t ∈ tables) :
    ∃ t', IsHolder s t.key t' ∧ t'.source_table = t := by
  obtain ⟨⟨t', ht', rfl⟩, -⟩ := mem_match_table_filter.mp (hperm.mem_iff.mp ht)
  exact ⟨t', ⟨ht', rfl⟩, rfl⟩

theorem mem_visible_iff {rows : List FinderRow} {found : List TableMatchResult}
    {m' : TableMatchResult} : m' ∈ (_enrich_and_suppress_matches rows found).1 ↔
      ∃ m ∈ found, ∃ r, (mapped_tables rows).get? m.key = some r ∧
        (r.dataset_finder_opted_in = true ∨ r.has_access = true) ∧
        m' = { m with name := some r.name, has_access := r.has_access } := by
  simp only [_enrich_and_suppress_matches, List.mem_filterMap, enrich_eq_some_iff]

/-- The row of a name is one that is shown. -/
def RowVisible (rows : List FinderRow) (key : Str × Str) : Prop :=
  ∃ r, (mapped_tables rows).get? key = some r ∧
    (r.dataset_finder_opted_in = true ∨ r.has_access = true)

section Outcome

variable {rows : List FinderRow} {tables : List SourceTable} {found : List TableMatchResult}

theorem domain_of_rowVisible
    (hrows : rows.Perm (tables_with_access_info user s.tables (found.map TableMatchResult.key)))
    (htables : tables.Perm (match_table_filter s (_enrich_and_suppress_matches rows found).1))
    {results : List DatasetMatch} (h : group_tables_by_master_dataset slug user tables
      (_enrich_and_suppress_matches rows found).1 = some results)
    {m : TableMatchResult} (hm : m ∈ found) (hvisible : RowVisible rows m.key) :
    (user_email_domain user).isSome = true := by
  obtain ⟨r, hr, hshow⟩ := hvisible
  have hmem := mem_visible_iff.mpr ⟨m, hm, r, hr, hshow, rfl⟩
  obtain ⟨t, ht, -⟩ := exists_holder_of_row hrows hm hr
  have htable := mem_tables_of_holder htables hmem ht
  rw [group_tables_by_master_dataset, if_neg (List.ne_nil_of_mem hmem)] at h
  obtain ⟨by_table, hmap, -⟩ := Option.bind_eq_some_iff.mp h
  exact domain_of_table_to_master_map hmap htable

theorem results_spec
    (hrows : rows.Perm (tables_with_access_info user s.tables (found.map TableMatchResult.key)))
    (htables : tables.Perm (match_table_filter s (_enrich_and_suppress_matches rows found).1))
    {results : List DatasetMatch} (h : group_tables_by_master_dataset slug user tables
      (_enrich_and_suppress_matches rows found).1 = some results) (hidden : Bool) :
    (∀ m ∈ found, IsShown ⟨results, hidden⟩ m ↔ RowVisible rows m.key) ∧
    ∀ d ∈ results, ∀ m ∈ d.table_matches, m ∈ (_enrich_and_suppress_matches rows found).1 ∧
      ∃ by_table blob, table_to_master_map slug user tables = some by_table ∧
        by_table.get? m.key = some blob ∧ IsGroup by_table blob d := by
  have hblob : ∀ m ∈ (_enrich_and_suppress_matches rows found).1, ∃ t, IsHolder s m.key t := by
    intro m' hm'
    obtain ⟨m, hm, r, hr, -, rfl⟩ := mem_visible_iff.mp hm'
    obtain ⟨t, ht, -⟩ := exists_holder_of_row hrows hm hr
    exact ⟨t, ht⟩
  have hsub : (∀ m ∈ (_enrich_and_suppress_matches rows found).1,
      ∃ d ∈ results, m ∈ d.table_matches) ∧
      ∀ d ∈ results, ∀ m ∈ d.table_matches, m ∈ (_enrich_and_suppress_matches rows found).1 ∧
        ∃ by_table blob, table_to_master_map slug user tables = some by_table ∧
          by_table.get? m.key = some blob ∧ IsGroup by_table blob d := by
    by_cases hnone : (_enrich_and_suppress_matches rows found).1 = []
    · rw [group_tables_by_master_dataset, if_pos hnone] at h
      obtain rfl := Option.some.inj h
      rw [hnone]
      simp
    · have hmap := h
      rw [group_tables_by_master_dataset, if_neg hnone] at hmap
      obtain ⟨by_table, hmap, -⟩ := Option.bind_eq_some_iff.mp hmap
      have hdatasets : ∀ t ∈ tables, t.dataset ∈ s.datasets := by
        intro t ht
        obtain ⟨t', ht', rfl⟩ := holder_of_mem_tables htables ht
        exact s.dataset_mem t' ht'.mem
      obtain ⟨results', hresults', hof, hall⟩ :=
        group_spec hnone hmap (idsApart_of_site hmap hdatasets)
      obtain rfl := Option.some.inj (h.symm.trans hresults')
      constructor
      · intro m hm
        obtain ⟨t, ht⟩ := hblob m hm
        obtain ⟨blob, hget⟩ :=
          exists_get?_table_to_master_map hmap (mem_tables_of_holder htables hm ht)
        exact hall m hm blob (ht.key ▸ hget)
      · intro d hd m hm
        obtain ⟨hvisible, blob, hget, hgroup⟩ := hof d hd m hm
        exact ⟨hvisible, by_table, blob, hmap, hget, hgroup⟩
  refine ⟨fun m hm => ?_, hsub.2⟩
  constructor
  · rintro ⟨d, hd, m', hm', -, hkey, -⟩
    obtain ⟨m₀, hm₀, r, hr, hshow, rfl⟩ := mem_visible_iff.mp (hsub.2 d hd m' hm').1
    exact ⟨r, hkey ▸ hr, hshow⟩
  · rintro ⟨r, hr, hshow⟩
    obtain ⟨d, hd, hm'⟩ := hsub.1 _ (mem_visible_iff.mpr ⟨m, hm, r, hr, hshow, rfl⟩)
    exact ⟨d, hd, _, hm', rfl, rfl, rfl⟩

end Outcome

/-! ## When the page is right -/

theorem find_datasets_of_orders {found : List TableMatchResult} (hfound : found ≠ [])
    {rows : List FinderRow} {tables : List SourceTable}
    (hrows : rows.Perm (tables_with_access_info user s.tables (found.map TableMatchResult.key)))
    (htables : tables.Perm (match_table_filter s (_enrich_and_suppress_matches rows found).1)) :
    find_datasets s slug user found ((group_tables_by_master_dataset slug user tables
      (_enrich_and_suppress_matches rows found).1).map fun results =>
        ⟨results, (_enrich_and_suppress_matches rows found).2⟩) := by
  rw [find_datasets, if_neg hfound]
  exact ⟨rows, hrows, tables, htables, rfl⟩

section Right

variable {found : List TableMatchResult}
  (hright : ∀ page, find_datasets s slug user found page →
    ∃ p, page = some p ∧ PageRight s slug user found p)

include hright

theorem exists_results {m : TableMatchResult} (hm : m ∈ found) {rows : List FinderRow}
    {tables : List SourceTable}
    (hrows : rows.Perm (tables_with_access_info user s.tables (found.map TableMatchResult.key)))
    (htables : tables.Perm (match_table_filter s (_enrich_and_suppress_matches rows found).1)) :
    ∃ results, group_tables_by_master_dataset slug user tables
        (_enrich_and_suppress_matches rows found).1 = some results ∧
      PageRight s slug user found ⟨results, (_enrich_and_suppress_matches rows found).2⟩ ∧
      (RowVisible rows m.key ↔ IsDue s user m.key) := by
  obtain ⟨p, hpage, hp⟩ :=
    hright _ (find_datasets_of_orders (List.ne_nil_of_mem hm) hrows htables)
  obtain ⟨results, hresults, rfl⟩ := Option.map_eq_some_iff.mp hpage
  exact ⟨results, hresults, hp,
    ((results_spec hrows htables hresults _).1 m hm).symm.trans (hp.shown m hm)⟩

theorem rows_of_right {m : TableMatchResult} (hm : m ∈ found) {t : FinderTable}
    (ht : IsHolder s m.key t) {permission : Option Nat}
    (hpermission : permission ∈ permissionRows t.source_table.dataset.user_permissions) :
    (t.dataset_finder_opted_in = true ∨ t.source_table.dataset.isOpen = true ∨
      permission = some user.id) ↔ IsDue s user m.key := by
  obtain ⟨r, hr, hrow⟩ := mem_rows_iff.2 permission hpermission
  obtain ⟨rows, hrows, hlast⟩ := exists_rows_last hm ht hr
  obtain ⟨-, -, -, hdue⟩ := exists_results hright hm hrows (.refl _)
  rw [← hdue, ← hrow.has_access, ← hrow.opted]
  constructor
  · intro hshow
    exact ⟨r, hlast, hshow⟩
  · rintro ⟨r', hr', hshow⟩
    obtain rfl := Option.some.inj (hlast.symm.trans hr')
    exact hshow

theorem domain_of_right {m : TableMatchResult} (hm : m ∈ found) (hdue : IsDue s user m.key) :
    (user_email_domain user).isSome = true := by
  obtain ⟨results, hresults, -, hvisible⟩ := exists_results hright hm (.refl _) (.refl _)
  exact domain_of_rowVisible (.refl _) (.refl _) hresults hm (hvisible.mpr hdue)

theorem names_of_right {m : TableMatchResult} (hm : m ∈ found) (hdue : IsDue s user m.key)
    {t t' : FinderTable} (ht : IsHolder s m.key t) (ht' : IsHolder s m.key t') :
    ∃ t'', IsHolder s m.key t'' ∧ MayShow user t'' ∧ t''.name = t.name ∧
      t''.source_table.dataset = t'.source_table.dataset := by
  -- the row of one table comes last, and then the other table
  obtain ⟨permission, hpermission⟩ := List.exists_mem_of_ne_nil _
    (permissionRows_ne_nil t.source_table.dataset.user_permissions)
  obtain ⟨r, hr, hrow⟩ := mem_rows_iff.2 permission hpermission
  obtain ⟨rows, hrows, hlast⟩ := exists_rows_last hm ht hr
  obtain ⟨-, -, -, hvisible⟩ := exists_results hright hm hrows (.refl _)
  obtain ⟨r', hr', hshow⟩ := hvisible.mpr hdue
  obtain rfl := Option.some.inj (hlast.symm.trans hr')
  have hmem := mem_visible_iff.mpr ⟨m, hm, r, hlast, hshow, rfl⟩
  obtain ⟨init, hinit⟩ := exists_perm_concat (mem_tables_of_holder (.refl _) hmem ht')
  obtain ⟨results, hresults, hp, -⟩ := exists_results hright hm hrows hinit
  obtain ⟨hshown, hof⟩ := results_spec hrows hinit hresults false
  obtain ⟨d, hd, m', hm', -, hkey, -⟩ := (hshown m hm).mpr ⟨r, hlast, hshow⟩
  obtain ⟨hvisible', by_table, blob, hmap, hget, hgroup⟩ := hof d hd m' hm'
  obtain ⟨t'', ht'', hmay, hdisplays⟩ := hp.displays d hd m' hm'
  obtain ⟨blob', hblob', hget'⟩ := get?_table_to_master_map_concat hmap
  rw [hkey] at hget ht''
  rw [ht'.key] at hget'
  obtain rfl := Option.some.inj (hget.symm.trans hget')
  obtain ⟨has_access, -, heq⟩ := master_blob_eq_some_iff.mp hblob'
  obtain ⟨-, rfl⟩ := Prod.mk.inj heq
  refine ⟨t'', ht'', hmay, ?_, ?_⟩
  · obtain ⟨m₀, -, r₀, hr₀, -, rfl⟩ := mem_visible_iff.mp hvisible'
    have hname := hdisplays.table_name
    change m₀.key = m.key at hkey
    rw [hkey, hlast, Option.some.injEq] at hr₀
    rw [← hr₀] at hname
    rw [← Option.some.inj hname, hrow.name]
  · have hid : d.id = t'.source_table.dataset.id := hgroup.id
    exact List.inj_on_of_nodup_map s.unique (s.dataset_mem t'' ht''.mem) (s.dataset_mem t' ht'.mem)
      (hdisplays.id.symm.trans hid)

end Right

section Agreed

variable {found : List TableMatchResult} (hagreed : ∀ m ∈ found, Agreed s user m.key)

include hagreed

theorem rowVisible_iff_of_agreed {rows : List FinderRow}
    (hrows : rows.Perm (tables_with_access_info user s.tables (found.map TableMatchResult.key)))
    {m : TableMatchResult} (hm : m ∈ found) : RowVisible rows m.key ↔ IsDue s user m.key := by
  have hlast : ∀ r, (mapped_tables rows).get? m.key = some r →
      ((r.dataset_finder_opted_in = true ∨ r.has_access = true) ↔ IsDue s user m.key) := by
    intro r hr
    obtain ⟨t, ht, hrow⟩ := exists_holder_of_row hrows hm hr
    obtain ⟨permission, hpermission, hcontent⟩ := mem_rows_iff.1 r hrow
    rw [hcontent.opted, hcontent.has_access]
    exact (hagreed m hm).rows t ht permission hpermission
  constructor
  · rintro ⟨r, hr, hshow⟩
    exact (hlast r hr).mp hshow
  · intro hdue
    obtain ⟨t, ht, hmay⟩ := hdue
    obtain ⟨r, hr⟩ := exists_row_of_holder hrows hm ht
    exact ⟨r, hr, (hlast r hr).mpr ⟨t, ht, hmay⟩⟩

theorem exists_results_of_agreed (slug : DataSet → Str) {rows : List FinderRow}
    (tables : List SourceTable)
    (hrows : rows.Perm (tables_with_access_info user s.tables (found.map TableMatchResult.key))) :
    ∃ results, group_tables_by_master_dataset slug user tables
      (_enrich_and_suppress_matches rows found).1 = some results := by
  rw [group_tables_by_master_dataset]
  split
  next => exact ⟨_, rfl⟩
  next hsome =>
    obtain ⟨m', hm'⟩ := List.exists_mem_of_ne_nil _ hsome
    obtain ⟨m, hm, r, hr, hshow, -⟩ := mem_visible_iff.mp hm'
    have hdue := (rowVisible_iff_of_agreed hagreed hrows hm).mp ⟨r, hr, hshow⟩
    obtain ⟨by_table, hmap⟩ :=
      exists_table_to_master_map slug ((hagreed m hm).domain hdue) tables
    rw [hmap]
    exact ⟨_, rfl⟩

end Agreed

/-- Whatever the two queries find last, the page shows what it should if and only if for each match
the rows of its name agree on that. -/
theorem finds_right_iff (s : Site) (slug : DataSet → Str) (user : User)
    (found : List TableMatchResult) :
    (∀ page, find_datasets s slug user found page →
      ∃ p, page = some p ∧ PageRight s slug user found p) ↔
    ∀ m ∈ found, Agreed s user m.key := by
  constructor
  · intro hright m hm
    exact ⟨fun t ht permission => rows_of_right hright hm ht, domain_of_right hright hm,
      fun hdue t t' => names_of_right hright hm hdue⟩
  · intro hagreed page hpage
    rw [find_datasets] at hpage
    split at hpage
    next hnone =>
      subst hnone
      exact ⟨_, hpage, by simp, by simp⟩
    next =>
      obtain ⟨rows, hrows, tables, htables, rfl⟩ := hpage
      obtain ⟨results, hresults⟩ := exists_results_of_agreed hagreed slug tables hrows
      obtain ⟨hshown, hof⟩ := results_spec hrows htables hresults
        (_enrich_and_suppress_matches rows found).2
      refine ⟨_, by rw [hresults, Option.map_some], fun m hm => ?_, ?_⟩
      · rw [hshown m hm]
        exact rowVisible_iff_of_agreed hagreed hrows hm
      · intro d hd m' hm'
        obtain ⟨hvisible, by_table, blob, hmap, hget, hgroup⟩ := hof d hd m' hm'
        obtain ⟨m, hm, r, hr, hshow, rfl⟩ := mem_visible_iff.mp hvisible
        have hdue := (rowVisible_iff_of_agreed hagreed hrows hm).mp ⟨r, hr, hshow⟩
        obtain ⟨t, ht, hrow⟩ := exists_holder_of_row hrows hm hr
        obtain ⟨permission, -, hcontent⟩ := mem_rows_iff.1 r hrow
        obtain ⟨table, htable, hblob⟩ := get?_table_to_master_map hmap hget
        obtain ⟨has_access, haccess, heq⟩ := master_blob_eq_some_iff.mp hblob
        obtain ⟨hkey, rfl⟩ := Prod.mk.inj heq
        obtain ⟨t', ht', rfl⟩ := holder_of_mem_tables htables htable
        rw [← hkey] at ht'
        obtain ⟨t'', ht'', hmay, hname, hdataset⟩ := (hagreed m hm).names hdue t t' ht ht'
        obtain ⟨has_access', haccess', hiff⟩ :=
          user_has_access_iff ((hagreed m hm).domain hdue) t'.source_table.dataset
        obtain rfl := Option.some.inj (haccess.symm.trans haccess')
        refine ⟨t'', ht'', hmay, ?_, ?_, ?_, ?_, ?_⟩
        · rw [hgroup.id, hdataset]
        · rw [hgroup.slug, hdataset]
        · rw [hgroup.name, hdataset]
        · rw [hgroup.has_access, hdataset]
          exact hiff
        · rw [hname, ← hcontent.name]

end Pages

/-! ## A dataset of two users -/

namespace Shared

def dataset : DataSet where
  id := "d"
  name := "Trade"
  user_access_type := .REQUIRES_AUTHORIZATION
  authorized_email_domains := []
  deleted := false
  published := true
  user_permissions := [1, 2]

def table : FinderTable :=
  ⟨⟨"t", dataset, ⟨"1", "datasets"⟩, "trade", "imports"⟩, "Imports", false⟩

def site : Site where
  datasets := [dataset]
  unique := List.nodup_singleton _
  tables := [table]
  dataset_mem := by
    intro t ht
    obtain rfl := List.mem_singleton.mp ht
    exact List.mem_cons_self
  reference_datasets := []
  ids_apart := fun r hr => absurd hr List.not_mem_nil

/-- One of the two users. -/
def user : User := ⟨1, "ann@trade.gov.uk", false⟩

def match_ : TableMatchResult where
  index := "20230101--trade--imports--1"
  schema := "trade"
  table := "imports"
  count := 7
  has_access := false
  name := none

end Shared

open Shared in
/-- The user has access, and the match is suppressed when the row of the other user comes last. -/
theorem shared_table_hidden : ¬ ∀ page,
    find_datasets site (fun d => d.id) user [match_] page →
      ∃ p, page = some p ∧ PageRight site (fun d => d.id) user [match_] p := by
  intro hright
  have htable : IsHolder site match_.key table := ⟨List.mem_cons_self, rfl⟩
  have hdue : IsDue site user match_.key :=
    ⟨table, htable, rfl, rfl, .inl (.inr (.inl List.mem_cons_self))⟩
  have hpermission : some 2 ∈ permissionRows table.source_table.dataset.user_permissions := by decide
  have hother := (rows_of_right hright List.mem_cons_self htable hpermission).mpr hdue
  rcases hother with h | h | h
  · cases h
  · cases h
  · cases h

end Finder
