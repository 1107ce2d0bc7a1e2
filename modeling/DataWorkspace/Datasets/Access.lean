import DataWorkspace.Core.SourceTables
import Mathlib.Data.List.Dedup

/-!
# Who may read a dataset

Whether a user may read a dataset is decided in five places: by the dataset, by the list
of tables that credentials are made for, by the check of a single table, by the search
and by the finder of tables.  The first two know of email domains, the others do not.

The search and the finder join the permissions of a dataset.  The search takes any row of
the join.  The finder takes the last row for a table, in whatever order the rows come.

`decisions_agree_iff` says for which users and datasets the five agree.
-/

namespace Datasets

open Py Core

/-! ## Tables -/

structure FinderTable where
  source_table : SourceTable
  name : Str
  dataset_finder_opted_in : Bool
deriving DecidableEq, Repr

/-- The rows of the catalogue. -/
structure Site where
  datasets : List DataSet
  /-- `id` is the primary key. -/
  unique : (datasets.map DataSet.id).Nodup
  tables : List FinderTable
  /-- The dataset of a table is one of them. -/
  dataset_mem : ∀ t ∈ tables, t.source_table.dataset ∈ datasets
  reference_datasets : List ReferenceDataset
  /-- The ids are random, and no two objects have the same. -/
  ids_apart : ∀ r ∈ reference_datasets, ∀ d ∈ datasets, r.uuid ≠ d.id

/-- The rows that `source_tables_for_user` reads. -/
def Site.catalogue (s : Site) : Catalogue where
  source_tables := s.tables.map FinderTable.source_table
  reference_datasets := s.reference_datasets

/-! ## The dataset and the single table -/

/-- `user_access_type in [REQUIRES_AUTHENTICATION, OPEN]`. -/
def DataSet.isOpen (d : DataSet) : Bool :=
  d.user_access_type == .REQUIRES_AUTHENTICATION || d.user_access_type == .OPEN

/-- `user_has_access`, `none` where it raises. -/
def DataSet.user_has_access (d : DataSet) (user : User) : Option Bool := do
  let domain ← user_email_domain user
  some (d.isOpen || d.user_permissions.contains user.id ||
    d.authorized_email_domains.contains domain)

def can_access_schema_table (user : User) (c : Catalogue) (database schema table : Str) : Bool :=
  c.source_tables.any fun t =>
    t.schema == schema && t.table == table && t.database.memorable_name == database &&
      !t.dataset.deleted && t.dataset.published &&
      (t.dataset.isOpen || t.dataset.user_permissions.contains user.id)

/-! ## The search -/

/-- The rows of a left join with the users that have a permission. -/
def permissionRows (user_permissions : List Nat) : List (Option Nat) :=
  if user_permissions.isEmpty then [none] else user_permissions.map some

structure SearchResult where
  id : Str
  name : Str
  published : Bool
  is_open_data : Bool
  has_access : Bool
deriving DecidableEq, Repr

/-- Who a search is made for.  `manages` is the permission to manage unpublished datasets of
the type of the dataset, `matching` what the search vector says. -/
structure Search where
  user : User
  manages : DataSet → Bool
  matching : DataSet → Bool

/-- `access_filter`, on a row of the join. -/
def Search.accessFilter (q : Search) (d : DataSet) (permission : Option Nat) : Bool :=
  d.isOpen || (d.user_access_type == .REQUIRES_AUTHORIZATION && permission == some q.user.id)

def get_datasets_data_for_user_matching_query (q : Search) (datasets : List DataSet) :
    List SearchResult :=
  (datasets.filter fun d =>
    !d.deleted && (d.published || q.manages d) && q.matching d).map fun d =>
    { id := d.id
      name := d.name
      published := d.published
      is_open_data := d.user_access_type == .OPEN
      has_access := (permissionRows d.user_permissions).any (q.accessFilter d) }

/-! ## The finder -/

/-- A row of the query of the finder. -/
structure FinderRow where
  schema : Str
  table : Str
  dataset_finder_opted_in : Bool
  name : Str
  has_access : Bool
deriving DecidableEq, Repr

def FinderRow.key (r : FinderRow) : Str × Str := (r.schema, r.table)

/-- The rows for a table: one for each permission on its dataset.  `no_access_filter` negates
the permission of a row, not of the dataset. -/
def FinderTable.rows (t : FinderTable) (user : User) : List FinderRow :=
  (permissionRows t.source_table.dataset.user_permissions).map fun permission =>
    { schema := t.source_table.schema
      table := t.source_table.table
      dataset_finder_opted_in := t.dataset_finder_opted_in
      name := t.name
      has_access := !(t.source_table.dataset.user_access_type == .REQUIRES_AUTHORIZATION &&
        !(permission == some user.id)) }

/-- What the finder knows a table by. -/
def SourceTable.key (t : SourceTable) : Str × Str := (t.schema, t.table)

def tables_with_access_info (user : User) (tables : List FinderTable)
    (found : List (Str × Str)) : List FinderRow :=
  (tables.filter fun t => found.contains t.source_table.key).flatMap fun t => t.rows user

/-- A match that is shown. -/
structure TableMatch where
  key : Str × Str
  name : Str
  has_access : Bool
deriving DecidableEq, Repr

/-- `mapped_tables`: of the rows for a table, the last. -/
def mapped_tables (rows : List FinderRow) : Dict (Str × Str) FinderRow :=
  Dict.ofPairs (rows.map fun r => (r.key, r))

/-- What becomes of a match: it is dropped, suppressed or shown. -/
def shown (mapped : Dict (Str × Str) FinderRow) (key : Str × Str) : Option TableMatch :=
  (mapped.get? key).bind fun r =>
    if !r.dataset_finder_opted_in && !r.has_access then none
    else some ⟨key, r.name, r.has_access⟩

/-- Whether a match is suppressed. -/
def suppressed (mapped : Dict (Str × Str) FinderRow) (key : Str × Str) : Bool :=
  (mapped.get? key).any fun r => !r.dataset_finder_opted_in && !r.has_access

/-- `_enrich_and_suppress_matches` may return this.  The query does not order its rows. -/
def _enrich_and_suppress_matches (user : User) (tables : List FinderTable)
    (found : List (Str × Str)) (result : List TableMatch × Bool) : Prop :=
  ∃ rows : List FinderRow, rows.Perm (tables_with_access_info user tables found) ∧
    result = (found.filterMap (shown (mapped_tables rows)),
      found.any (suppressed (mapped_tables rows)))

/-! ## The five decisions -/

section Decisions

variable (s : Site) (user : User) (t : SourceTable)

/-- The dataset lets the user in. -/
def HasAccess : Prop := t.dataset.user_has_access user = some true

/-- The table is among those that credentials are made for. -/
def IsListed : Prop :=
  ∃ entries, source_tables_for_user user s.catalogue entries ∧ sourceTableEntry t ∈ entries

/-- The check of the single table succeeds. -/
def CanAccess : Prop :=
  can_access_schema_table user s.catalogue t.database.memorable_name t.schema t.table = true

/-- A search that finds the dataset marks it as accessible. -/
def IsMarked (q : Search) : Prop :=
  ∃ r ∈ get_datasets_data_for_user_matching_query q s.datasets,
    r.id = t.dataset.id ∧ r.has_access = true

/-- The finder treats the table as accessible. -/
def IsFound (result : List TableMatch × Bool) : Prop :=
  ∃ m ∈ result.1, m.key = t.key ∧ m.has_access = true

/-- The five decisions agree, whatever finds the dataset and the table. -/
structure DecisionsAgree : Prop where
  listed : IsListed s user t ↔ HasAccess user t
  can_access : CanAccess s user t ↔ HasAccess user t
  marked : ∀ q : Search, q.user = user → q.matching t.dataset = true →
    (IsMarked s t q ↔ HasAccess user t)
  found : ∀ found result, t.key ∈ found →
    _enrich_and_suppress_matches user s.tables found result →
      (IsFound t result ↔ HasAccess user t)

def DomainAuthorized (d : DataSet) : Prop :=
  ∃ domain, user_email_domain user = some domain ∧ domain ∈ d.authorized_email_domains

/-- One of the three rules lets the user in. -/
def Due (d : DataSet) : Prop :=
  d.isOpen = true ∨ user.id ∈ d.user_permissions ∨ DomainAuthorized user d

/-- Access that is due does not rest on the email domain alone and is not to a deleted
dataset.  And every row of the finder for the name of the table says what is due. -/
structure Plain : Prop where
  due : Due user t.dataset → (user_email_domain user).isSome = true ∧
    t.dataset.deleted = false ∧ (t.dataset.isOpen = true ∨ user.id ∈ t.dataset.user_permissions)
  rows : ∀ t' ∈ s.tables, t'.source_table.key = t.key →
    ∀ permission ∈ permissionRows t'.source_table.dataset.user_permissions,
      (t'.source_table.dataset.isOpen = true ∨ permission = some user.id) ↔ Due user t.dataset

def OnlyHolder : Prop :=
  ∀ t' ∈ s.tables, t'.source_table.database.memorable_name = t.database.memorable_name →
    t'.source_table.key = t.key → t'.source_table.dataset = t.dataset

end Decisions

/-! ## What each decision comes to -/

theorem isOpen_iff {d : DataSet} : d.isOpen = true ↔ d.user_access_type ≠ .REQUIRES_AUTHORIZATION := by
  cases h : d.user_access_type <;> simp [DataSet.isOpen, h]

theorem mem_permissionRows {permissions : List Nat} {u : Nat} :
    some u ∈ permissionRows permissions ↔ u ∈ permissions := by
  unfold permissionRows
  split
  next h => simp [List.isEmpty_iff.mp h]
  next => simp

theorem permissionRows_ne_nil (permissions : List Nat) : permissionRows permissions ≠ [] := by
  unfold permissionRows
  split
  next => simp
  next h => simpa using h

section

variable {s : Site} {user : User} {t : SourceTable}

theorem hasAccess_iff :
    HasAccess user t ↔ (user_email_domain user).isSome = true ∧ Due user t.dataset := by
  unfold HasAccess DataSet.user_has_access Due DomainAuthorized
  cases user_email_domain user with
  | none => simp
  | some domain => simp [or_assoc]

theorem mem_permitted_source_tables {domain : Str} {c : Catalogue} :
    t ∈ permitted_source_tables user domain c ↔ t ∈ c.source_tables ∧
      (((t.dataset.user_access_type = .REQUIRES_AUTHENTICATION ∨
          t.dataset.user_access_type = .OPEN) ∧ t.dataset.deleted = false ∧
          publishedFor user t.dataset.published = true) ∨
        (t.dataset.user_access_type = .REQUIRES_AUTHORIZATION ∧ t.dataset.deleted = false ∧
          user.id ∈ t.dataset.user_permissions ∧ publishedFor user t.dataset.published = true) ∨
        (t.dataset.deleted = false ∧ domain ∈ t.dataset.authorized_email_domains ∧
          publishedFor user t.dataset.published = true)) := by
  simp only [permitted_source_tables, List.mem_dedup, List.mem_filter, decide_eq_true_eq]

theorem mem_permitted_iff {domain : Str} (hdomain : user_email_domain user = some domain)
    (ht : t ∈ s.catalogue.source_tables) (hpublished : t.dataset.published = true) :
    t ∈ permitted_source_tables user domain s.catalogue ↔
      t.dataset.deleted = false ∧ Due user t.dataset := by
  have hfor : publishedFor user t.dataset.published = true := by simp [publishedFor, hpublished]
  have hd : DomainAuthorized user t.dataset ↔ domain ∈ t.dataset.authorized_email_domains := by
    simp [DomainAuthorized, hdomain]
  unfold Due
  rw [mem_permitted_source_tables, hd, isOpen_iff]
  cases h : t.dataset.user_access_type <;> simp [ht, hfor] <;> tauto

theorem isListed_iff (ht : t ∈ s.catalogue.source_tables) (hpublished : t.dataset.published = true)
    (honly : OnlyHolder s t) (hd : t.dataset ∈ s.datasets) :
    IsListed s user t ↔ (user_email_domain user).isSome = true ∧
      t.dataset.deleted = false ∧ Due user t.dataset := by
  constructor
  · rintro ⟨entries, ⟨domain, rows, references, hdomain, hrows, hrefs, rfl⟩, hmem⟩
    rcases List.mem_append.mp hmem with hmem | hmem
    · obtain ⟨t', ht', heq⟩ := List.mem_map.mp hmem
      have hpermitted := hrows.mem_iff.mp ht'
      have hin := (mem_permitted_source_tables.mp hpermitted).1
      obtain ⟨f, hf, rfl⟩ := List.mem_map.mp hin
      simp only [sourceTableEntry, Entry.mk.injEq] at heq
      obtain ⟨hdb, hschema, htable, -⟩ := heq
      have hsame := honly f hf (congrArg Database.memorable_name hdb)
        (Prod.ext hschema htable)
      have hpublished' : f.source_table.dataset.published = true := hsame ▸ hpublished
      obtain ⟨hdeleted, hdue⟩ := (mem_permitted_iff hdomain hin hpublished').mp hpermitted
      exact ⟨Option.isSome_of_mem hdomain, hsame ▸ hdeleted, hsame ▸ hdue⟩
    · obtain ⟨r, hr, heq⟩ := List.mem_map.mp hmem
      obtain ⟨x, hx, hxr⟩ := List.mem_filterMap.mp (hrefs.mem_iff.mp hr)
      have hid : r.1.uuid = t.dataset.id := congrArg (fun e => e.dataset.id) heq
      split at hxr
      next =>
        obtain ⟨db, -, rfl⟩ := Option.map_eq_some_iff.mp hxr
        exact absurd hid (s.ids_apart x hx t.dataset hd)
      next => cases hxr
  · rintro ⟨hsome, hdeleted, hdue⟩
    obtain ⟨domain, hdomain⟩ := Option.isSome_iff_exists.mp hsome
    refine ⟨_, ⟨domain, _, _, hdomain, .refl _, .refl _, rfl⟩, ?_⟩
    refine List.mem_append_left _ (List.mem_map_of_mem ?_)
    exact (mem_permitted_iff hdomain ht hpublished).mpr ⟨hdeleted, hdue⟩

theorem canAccess_iff (ht : t ∈ s.catalogue.source_tables) (hpublished : t.dataset.published = true)
    (honly : OnlyHolder s t) : CanAccess s user t ↔ t.dataset.deleted = false ∧
      (t.dataset.isOpen = true ∨ user.id ∈ t.dataset.user_permissions) := by
  unfold CanAccess can_access_schema_table
  rw [List.any_eq_true]
  constructor
  · rintro ⟨t', ht', h⟩
    simp only [Bool.and_eq_true, beq_iff_eq, Bool.not_eq_true', Bool.or_eq_true,
      List.contains_iff_mem] at h
    obtain ⟨⟨⟨⟨⟨hschema, htable⟩, hdb⟩, hdeleted⟩, -⟩, hrule⟩ := h
    obtain ⟨f, hf, rfl⟩ := List.mem_map.mp ht'
    have hsame := honly f hf hdb (Prod.ext hschema htable)
    rw [hsame] at hdeleted hrule
    exact ⟨hdeleted, hrule⟩
  · rintro ⟨hdeleted, hrule⟩
    refine ⟨t, ht, ?_⟩
    simp only [Bool.and_eq_true, beq_iff_eq, Bool.not_eq_true', Bool.or_eq_true,
      List.contains_iff_mem]
    exact ⟨⟨⟨⟨⟨trivial, trivial⟩, trivial⟩, hdeleted⟩, hpublished⟩, hrule⟩

theorem isMarked_iff (hd : t.dataset ∈ s.datasets) (hpublished : t.dataset.published = true)
    {q : Search} (hq : q.user = user) (hmatching : q.matching t.dataset = true) :
    IsMarked s t q ↔ t.dataset.deleted = false ∧
      (t.dataset.isOpen = true ∨ user.id ∈ t.dataset.user_permissions) := by
  have haccess : (permissionRows t.dataset.user_permissions).any (q.accessFilter t.dataset) = true ↔
      t.dataset.isOpen = true ∨ user.id ∈ t.dataset.user_permissions := by
    rw [List.any_eq_true, ← mem_permissionRows (u := user.id), ← hq]
    cases hopen : t.dataset.isOpen with
    | true =>
        obtain ⟨p, hp⟩ := List.exists_mem_of_ne_nil _ (permissionRows_ne_nil t.dataset.user_permissions)
        exact ⟨fun _ => .inl rfl, fun _ => ⟨p, hp, by simp [Search.accessFilter, hopen]⟩⟩
    | false =>
        have htype : t.dataset.user_access_type = .REQUIRES_AUTHORIZATION := by
          by_contra hne
          rw [isOpen_iff.mpr hne] at hopen
          cases hopen
        simp [Search.accessFilter, hopen, htype]
  rw [← haccess]
  unfold IsMarked get_datasets_data_for_user_matching_query
  constructor
  · rintro ⟨r, hr, hid, hr'⟩
    obtain ⟨d, hd', rfl⟩ := List.mem_map.mp hr
    obtain ⟨hmem, hvisible⟩ := List.mem_filter.mp hd'
    obtain rfl : d = t.dataset := List.inj_on_of_nodup_map s.unique hmem hd hid
    simp only [Bool.and_eq_true, Bool.not_eq_true'] at hvisible
    exact ⟨hvisible.1.1, hr'⟩
  · rintro ⟨hdeleted, hr⟩
    refine ⟨_, List.mem_map.mpr ⟨t.dataset, List.mem_filter.mpr ⟨hd, ?_⟩, rfl⟩, rfl, hr⟩
    simp [hdeleted, hpublished, hmatching]

/-! ## The last row of the finder -/

theorem mapped_tables_concat (rows : List FinderRow) (r : FinderRow) :
    (mapped_tables (rows ++ [r])).get? r.key = some r := by
  simp [mapped_tables, Dict.get?_ofPairs]

theorem mem_of_mapped_tables {rows : List FinderRow} {k : Str × Str} {r : FinderRow}
    (h : (mapped_tables rows).get? k = some r) : r ∈ rows ∧ r.key = k := by
  obtain ⟨r', hr', heq⟩ := List.mem_map.mp (Dict.mem_of_get?_ofPairs h)
  obtain ⟨rfl, rfl⟩ := Prod.mk.inj heq
  exact ⟨hr', rfl⟩

theorem mapped_tables_isSome {rows : List FinderRow} {r : FinderRow} (h : r ∈ rows) :
    ∃ r', (mapped_tables rows).get? r.key = some r' :=
  Dict.get?_ofPairs_isSome (List.mem_map.mpr ⟨r, h, rfl⟩)

theorem isFound_iff {rows : List FinderRow} {found : List (Str × Str)} (hfound : t.key ∈ found)
    {suppressed : Bool} :
    IsFound t (found.filterMap (shown (mapped_tables rows)), suppressed) ↔
      ∃ r, (mapped_tables rows).get? t.key = some r ∧ r.has_access = true := by
  constructor
  · rintro ⟨m, hm, hkey, haccess⟩
    obtain ⟨k, -, hk⟩ := List.mem_filterMap.mp hm
    obtain ⟨r, hr, hshown⟩ := Option.bind_eq_some_iff.mp hk
    split at hshown
    next => cases hshown
    next =>
      obtain rfl := Option.some.inj hshown
      obtain rfl : k = t.key := hkey
      exact ⟨r, hr, haccess⟩
  · rintro ⟨r, hr, haccess⟩
    refine ⟨⟨t.key, r.name, r.has_access⟩, List.mem_filterMap.mpr ⟨t.key, hfound, ?_⟩, rfl, haccess⟩
    simp [shown, hr, haccess]

theorem mem_tables_with_access_info {found : List (Str × Str)} {key : Str × Str}
    (hfound : key ∈ found) {r : FinderRow} :
    (r ∈ tables_with_access_info user s.tables found ∧ r.key = key) ↔
      ∃ t' ∈ s.tables, t'.source_table.key = key ∧ r ∈ t'.rows user := by
  have hkey : ∀ t' : FinderTable, r ∈ t'.rows user → r.key = t'.source_table.key := by
    intro t' hr
    obtain ⟨p, -, rfl⟩ := List.mem_map.mp hr
    rfl
  unfold tables_with_access_info
  rw [List.mem_flatMap]
  constructor
  · rintro ⟨⟨t', ht', hr⟩, hk⟩
    exact ⟨t', List.mem_of_mem_filter ht', (hkey t' hr).symm.trans hk, hr⟩
  · rintro ⟨t', ht', hk, hr⟩
    refine ⟨⟨t', List.mem_filter.mpr ⟨ht', ?_⟩, hr⟩, (hkey t' hr).trans hk⟩
    rw [List.contains_iff_mem, hk]
    exact hfound

/-- The finder agrees with a decision, in whatever order its rows come, exactly when every
row for the table does. -/
theorem found_iff_rows (ht : ∃ t' ∈ s.tables, t'.source_table = t) {P : Prop} :
    (∀ found result, t.key ∈ found → _enrich_and_suppress_matches user s.tables found result →
      (IsFound t result ↔ P)) ↔
    ∀ t' ∈ s.tables, t'.source_table.key = t.key → ∀ r ∈ t'.rows user, r.has_access = true ↔ P := by
  constructor
  · intro h t' ht' hkey r hr
    -- an order in which the row comes last
    have hfound : t.key ∈ [t.key] := List.mem_singleton_self _
    obtain ⟨hmem, hk⟩ := (mem_tables_with_access_info hfound).mpr ⟨t', ht', hkey, hr⟩
    have hperm : ((tables_with_access_info user s.tables [t.key]).erase r ++ [r]).Perm
        (tables_with_access_info user s.tables [t.key]) :=
      (List.perm_append_comm).trans (List.perm_cons_erase hmem).symm
    have hlast := mapped_tables_concat ((tables_with_access_info user s.tables [t.key]).erase r) r
    rw [hk] at hlast
    rw [← h _ _ hfound ⟨_, hperm, rfl⟩, isFound_iff hfound, hlast]
    simp
  · rintro h found result hfound ⟨rows, hperm, rfl⟩
    rw [isFound_iff hfound]
    obtain ⟨t₀, ht₀, rfl⟩ := ht
    obtain ⟨r, hr⟩ := List.exists_mem_of_ne_nil (t₀.rows user)
      (by simpa [FinderTable.rows] using permissionRows_ne_nil _)
    obtain ⟨hmem, hk⟩ := (mem_tables_with_access_info hfound).mpr ⟨t₀, ht₀, rfl, hr⟩
    obtain ⟨r', hr'⟩ := mapped_tables_isSome (hperm.mem_iff.mpr hmem)
    rw [hk] at hr'
    obtain ⟨hmem', hk'⟩ := mem_of_mapped_tables hr'
    obtain ⟨t', ht', hkey, hrow⟩ :=
      (mem_tables_with_access_info hfound).mp ⟨hperm.mem_iff.mp hmem', hk'⟩
    rw [← h t' ht' hkey r' hrow, hr']
    simp

theorem rows_iff {t' : FinderTable} {P : Prop} :
    (∀ r ∈ t'.rows user, r.has_access = true ↔ P) ↔
      ∀ permission ∈ permissionRows t'.source_table.dataset.user_permissions,
        (t'.source_table.dataset.isOpen = true ∨ permission = some user.id) ↔ P := by
  unfold FinderTable.rows
  rw [List.forall_mem_map]
  refine forall₂_congr fun p _ => ?_
  rw [isOpen_iff]
  cases t'.source_table.dataset.user_access_type <;> simp

/-! ## When they agree -/

/-- For a published dataset no other has the table of, the five decisions agree exactly when
access that is due is plain, and every row of the finder says what is due. -/
theorem decisions_agree_iff {t' : FinderTable} (ht' : t' ∈ s.tables)
    (hpublished : t'.source_table.dataset.published = true)
    (honly : OnlyHolder s t'.source_table) :
    DecisionsAgree s user t'.source_table ↔ Plain s user t'.source_table := by
  have hd := s.dataset_mem t' ht'
  have ht : t'.source_table ∈ s.catalogue.source_tables := List.mem_map_of_mem ht'
  have hlisted : IsListed s user t'.source_table ↔ _ := isListed_iff ht hpublished honly hd
  have hcan : CanAccess s user t'.source_table ↔ _ := canAccess_iff ht hpublished honly
  have hfound : (∀ found result, t'.source_table.key ∈ found →
      _enrich_and_suppress_matches user s.tables found result →
        (IsFound t'.source_table result ↔ HasAccess user t'.source_table)) ↔
      ∀ f ∈ s.tables, f.source_table.key = t'.source_table.key →
        ∀ permission ∈ permissionRows f.source_table.dataset.user_permissions,
          (f.source_table.dataset.isOpen = true ∨ permission = some user.id) ↔
            HasAccess user t'.source_table := by
    rw [found_iff_rows ⟨t', ht', rfl⟩]
    exact forall₂_congr fun f _ => imp_congr_right fun _ => rows_iff
  constructor
  · intro h
    have hrows := hfound.mp h.found
    have hdomain : Due user t'.source_table.dataset → (user_email_domain user).isSome = true := by
      rintro (hopen | hpermission | ⟨domain, hdomain, -⟩)
      · obtain ⟨p, hp⟩ := List.exists_mem_of_ne_nil _
          (permissionRows_ne_nil t'.source_table.dataset.user_permissions)
        exact (hasAccess_iff.mp ((hrows t' ht' rfl p hp).mp (.inl hopen))).1
      · have hp := mem_permissionRows.mpr hpermission
        exact (hasAccess_iff.mp ((hrows t' ht' rfl _ hp).mp (.inr rfl))).1
      · exact Option.isSome_of_mem hdomain
    have haccess : HasAccess user t'.source_table ↔ Due user t'.source_table.dataset :=
      hasAccess_iff.trans ⟨And.right, fun hdue => ⟨hdomain hdue, hdue⟩⟩
    refine ⟨fun hdue => ⟨hdomain hdue, ?_⟩, fun f hf hkey p hp => ?_⟩
    · exact hcan.mp (h.can_access.mpr (haccess.mpr hdue))
    · exact (hrows f hf hkey p hp).trans haccess
  · intro h
    have haccess : HasAccess user t'.source_table ↔ Due user t'.source_table.dataset :=
      hasAccess_iff.trans ⟨And.right, fun hdue => ⟨(h.due hdue).1, hdue⟩⟩
    have hrule : (t'.source_table.dataset.deleted = false ∧
        (t'.source_table.dataset.isOpen = true ∨
          user.id ∈ t'.source_table.dataset.user_permissions)) ↔
        HasAccess user t'.source_table := by
      rw [haccess]
      refine ⟨fun hr => ?_, fun hdue => (h.due hdue).2⟩
      rcases hr.2 with hopen | hpermission
      · exact .inl hopen
      · exact .inr (.inl hpermission)
    refine ⟨?_, hcan.trans hrule, fun q hq hmatching => ?_, hfound.mpr fun f hf hkey p hp => ?_⟩
    · rw [hlisted, haccess]
      exact ⟨fun hl => hl.2.2, fun hdue => ⟨(h.due hdue).1, (h.due hdue).2.1, hdue⟩⟩
    · exact (isMarked_iff hd hpublished hq hmatching).trans hrule
    · exact (h.rows f hf hkey p hp).trans haccess.symm

end

/-! ## A user with an email domain -/

namespace Domain

def dataset (domains : List Str) : DataSet :=
  { id := "d", name := "Trade", user_access_type := .REQUIRES_AUTHORIZATION,
    authorized_email_domains := domains, deleted := false, published := true,
    user_permissions := [] }

def table (domains : List Str) : FinderTable :=
  ⟨⟨"t", dataset domains, ⟨"1", "datasets"⟩, "trade", "imports"⟩, "Imports", true⟩

def site (domains : List Str) : Site where
  datasets := [dataset domains]
  unique := List.nodup_singleton _
  tables := [table domains]
  dataset_mem := fun t ht => by
    obtain rfl := List.mem_singleton.mp ht
    exact List.mem_singleton_self _
  reference_datasets := []
  ids_apart := fun r hr => absurd hr List.not_mem_nil

theorem mem_site (domains : List Str) : table domains ∈ (site domains).tables :=
  List.mem_singleton_self _

theorem onlyHolder (domains : List Str) : OnlyHolder (site domains) (table domains).source_table := by
  intro t ht _ _
  obtain rfl := List.mem_singleton.mp ht
  rfl

/-- A user of the domain. -/
def user : User := ⟨1, "ann@trade.gov.uk", false⟩

end Domain

open Domain in
theorem decisions_agree_without_domains :
    DecisionsAgree (site []) user (table []).source_table := by
  have hnot : ¬ Due user (table []).source_table.dataset := by
    rintro (h | h | ⟨domain, -, h⟩)
    · cases h
    · cases h
    · cases h
  refine (decisions_agree_iff (mem_site []) rfl (onlyHolder [])).mpr
    ⟨fun hdue => absurd hdue hnot, fun t ht hkey p hp => ?_⟩
  obtain rfl := List.mem_singleton.mp ht
  obtain rfl := List.mem_singleton.mp hp
  refine ⟨fun h => ?_, fun hdue => absurd hdue hnot⟩
  rcases h with h | h
  · cases h
  · cases h

open Domain in
/-- A user whose email domain is authorised has access, and the check of the table fails. -/
theorem decisions_differ_for_domain :
    table ["trade.gov.uk"] ∈ (site ["trade.gov.uk"]).tables ∧
      (table ["trade.gov.uk"]).source_table.dataset.published = true ∧
      OnlyHolder (site ["trade.gov.uk"]) (table ["trade.gov.uk"]).source_table ∧
      ¬ DecisionsAgree (site ["trade.gov.uk"]) user (table ["trade.gov.uk"]).source_table := by
  refine ⟨mem_site _, rfl, onlyHolder _, fun h => ?_⟩
  have haccess : HasAccess user (table ["trade.gov.uk"]).source_table := by
    show _ = _
    decide
  have hcan : can_access_schema_table user (site ["trade.gov.uk"]).catalogue "datasets" "trade"
      "imports" = true := h.can_access.mpr haccess
  exact absurd hcan (by decide)

end Datasets
