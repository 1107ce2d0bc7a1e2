import DataWorkspace.Datasets.Access
import DataWorkspace.Py.Grouping
import Mathlib.Data.Char
import Mathlib.Data.Prod.Lex

/-!
# The datasets of a visualisation

The page of a visualisation lists the datasets that its developer may read, and those that the
visualisation may read already.  What is ticked is posted, and the visualisation is given the
datasets that are new, and loses the ones that are not ticked any more.

`post_right_iff` says when the rows are then those that were ticked, and no others have changed.
-/

namespace DatasetPermissions

open Py Core Datasets

/-! ## Rows -/

/-- `DataSetApplicationTemplatePermission`. -/
structure Permission where
  dataset : Str
  application_template : Str
deriving DecidableEq, Repr

structure ApplicationTemplate where
  id : Str
  nice_name : Str
deriving DecidableEq, Repr

inductive ContentType where
  | VisualisationTemplate
  | MasterDataset
deriving DecidableEq, Repr

structure LogEntry where
  user_id : Nat
  content_type : ContentType
  object_id : Str
  object_repr : Str
  change_message : Str
deriving DecidableEq, Repr

structure Site where
  masters : List DataSet
  /-- `id` is the primary key. -/
  unique : (masters.map DataSet.id).Nodup
  catalogue : Catalogue
  /-- The form of a source table has no other datasets to choose. -/
  dataset_mem : ∀ t ∈ catalogue.source_tables, t.dataset ∈ masters
  /-- The ids are random, and no two objects have the same. -/
  ids_apart : ∀ r ∈ catalogue.reference_datasets, ∀ d ∈ masters, r.uuid ≠ d.id

/-- What the requests change. -/
structure World where
  permissions : List Permission
  /-- `unique_together`. -/
  unique : permissions.Nodup
  log : List LogEntry

/-! ## What is listed -/

/-- The rows of the union of the two queries over source tables. -/
def app_source_tables (template : ApplicationTemplate) (permissions : List Permission)
    (c : Catalogue) : List SourceTable :=
  let req_authentication := fun t : SourceTable =>
    (t.dataset.user_access_type = .REQUIRES_AUTHENTICATION ∨ t.dataset.user_access_type = .OPEN) ∧
      t.dataset.published = true ∧ t.dataset.deleted = false
  let req_authorization := fun t : SourceTable =>
    t.dataset.published = true ∧ t.dataset.deleted = false ∧
      t.dataset.user_access_type = .REQUIRES_AUTHORIZATION ∧
      ⟨t.dataset.id, template.id⟩ ∈ permissions
  (c.source_tables.filter fun t => req_authentication t ∨ req_authorization t).dedup

def app_reference_datasets (c : Catalogue) : List (ReferenceDataset × Database) :=
  c.reference_datasets.filterMap fun x =>
    if x.published = true ∧ x.deleted = false then x.external_database.map fun db => (x, db)
    else none

/-- `source_tables_for_app(application_template)` may return `entries`. -/
def source_tables_for_app (template : ApplicationTemplate) (permissions : List Permission)
    (c : Catalogue) (entries : List Entry) : Prop :=
  ∃ (rows : List SourceTable) (references : List (ReferenceDataset × Database)),
    rows.Perm (app_source_tables template permissions c) ∧
    references.Perm (app_reference_datasets c) ∧
    entries = rows.map sourceTableEntry ++ references.map referenceDatasetEntry

/-- A dataset of the page. -/
structure ListedDataset where
  selectable : Bool
  selected : Bool
  id : Str
  name : Str
  user_access_type : UserAccessType
deriving DecidableEq, Repr

structure ListedTable where
  dataset : ListedDataset
  database : Database
  schema : Str
  table : Str
deriving DecidableEq, Repr

section Without

variable {α κ : Type} [DecidableEq κ]

/-- What is left when some keys have been seen. -/
def unseen (key : α → κ) (seen : List κ) : List α → List α
  | [] => []
  | x :: seq => if key x ∈ seen then unseen key seen seq else x :: unseen key (key x :: seen) seq

/-- `_without_duplicates_preserve_order`. -/
def without_duplicates_preserve_order (seq : List α) (key : α → κ) : List α := unseen key [] seq

end Without

/-- `REQUIRES_AUTHORIZATION` or `OPEN`. -/
def isSelectable (user_access_type : UserAccessType) : Bool :=
  user_access_type == .REQUIRES_AUTHORIZATION || user_access_type == .OPEN

def selectable_dataset_ids (source_tables_user : List Entry) : List Str :=
  (source_tables_user.filter fun e => isSelectable e.dataset.user_access_type).map
    fun e => e.dataset.id

def selected_dataset_ids (source_tables_app : List Entry) : List Str :=
  source_tables_app.map fun e => e.dataset.id

/-- A table of the page, with what is said of its dataset. -/
def listed_table (source_tables_user source_tables_app : List Entry) (e : Entry) : ListedTable where
  dataset :=
    { selectable := (selectable_dataset_ids source_tables_user).contains e.dataset.id
      selected := (selected_dataset_ids source_tables_app).contains e.dataset.id
      id := e.dataset.id
      name := e.dataset.name
      user_access_type := e.dataset.user_access_type }
  database := e.database
  schema := e.schema
  table := e.table

/-- How the tables are sorted. -/
def ListedTable.key (t : ListedTable) : Str ×ₗ Str ×ₗ Str ×ₗ Str :=
  toLex (t.dataset.name, toLex (t.dataset.id, toLex (t.schema, t.table)))

/-- `_datasets`, for what its two lists may be. -/
def datasets (source_tables_user source_tables_app : List Entry) :
    List (ListedDataset × List ListedTable) :=
  groupby ListedTable.dataset (sortedBy ListedTable.key
    ((without_duplicates_preserve_order (source_tables_user ++ source_tables_app)
      fun e => (e.dataset.id, e.schema, e.table)).map
        (listed_table source_tables_user source_tables_app)))

/-! ## What is posted -/

section Post

variable (site : Site) (user : User) (template : ApplicationTemplate)

/-- The two entries of the log for a change. -/
def log_actions (dataset : DataSet) (to_template to_dataset : String) : List LogEntry :=
  [{ user_id := user.id
     content_type := .VisualisationTemplate
     object_id := template.id
     object_repr := template.nice_name
     change_message := to_template.toList ++ dataset.name ++ " (".toList ++ dataset.id ++
       ") using the visualisation UI".toList },
   { user_id := user.id
     content_type := .MasterDataset
     object_id := dataset.id
     object_repr := dataset.name
     change_message := to_dataset.toList ++ template.nice_name ++ " (".toList ++ template.id ++
       ") using the visualisation UI".toList }]

/-- A permission is created.  Where there is one, the transaction is rolled back. -/
def World.create (w : World) (dataset : DataSet) : World :=
  if h : ⟨dataset.id, template.id⟩ ∈ w.permissions then w
  else
    { permissions := ⟨dataset.id, template.id⟩ :: w.permissions
      unique := List.nodup_cons.mpr ⟨h, w.unique⟩
      log := w.log ++ log_actions user template dataset "Gave access to dataset "
        "Gave access from " }

def World.delete (w : World) (dataset : DataSet) : World :=
  if ⟨dataset.id, template.id⟩ ∈ w.permissions then
    { permissions := w.permissions.erase ⟨dataset.id, template.id⟩
      unique := w.unique.erase _
      log := w.log ++ log_actions user template dataset "Removed access to the dataset "
        "Removed access from " }
  else w

/-- `MasterDataset.objects.get(id=dataset_id)`, and what is done with it.  Where there is none, the
request ends with an exception, and what it has changed stays. -/
def with_dataset (change : World → DataSet → World) (w : World) (dataset_id : Str) :
    Except World World :=
  match site.masters.find? fun d => d.id = dataset_id with
  | some dataset => .ok (change w dataset)
  | none => .error w

def previously_selected_dataset_ids (listed : List ListedDataset) : List Str :=
  (listed.filter fun d => d.selected).map ListedDataset.id

def selectable_dataset_ids_set (listed : List ListedDataset) : List Str :=
  (listed.filter fun d => d.selectable).map ListedDataset.id

def datasets_ids_to_give_access_to (listed : List ListedDataset) (selected : List Str) : List Str :=
  selected.filter fun dataset_id =>
    (selectable_dataset_ids_set listed).contains dataset_id &&
      !(previously_selected_dataset_ids listed).contains dataset_id

def datasets_ids_to_remove_access_from (listed : List ListedDataset) (selected : List Str) :
    List Str :=
  (previously_selected_dataset_ids listed).filter fun dataset_id =>
    (selectable_dataset_ids_set listed).contains dataset_id && !selected.contains dataset_id

/-- The two loops. -/
def save_datasets (listed : List ListedDataset) (selected : List Str) (w : World) :
    Except World World := do
  let w ← (datasets_ids_to_give_access_to listed selected).foldlM
    (with_dataset site fun w => w.create user template) w
  (datasets_ids_to_remove_access_from listed selected).foldlM
    (with_dataset site fun w => w.delete user template) w

/-- `visualisation_datasets_html_POST` may end like this.  A user without an email domain raises
before anything else. -/
def visualisation_datasets_html_POST (selected : List Str) (w : World)
    (outcome : Except World World) : Prop :=
  match user_email_domain user with
  | none => outcome = .error w
  | some _ =>
      ∃ source_tables_user, source_tables_for_user user site.catalogue source_tables_user ∧
      ∃ source_tables_app,
        source_tables_for_app template w.permissions site.catalogue source_tables_app ∧
      outcome = save_datasets site user template
        ((datasets source_tables_user source_tables_app).map Prod.fst) selected w

/-- What a request leaves. -/
def world : Except World World → World
  | .ok w => w
  | .error w => w

/-! ## What should be left -/

def IsListed (d : DataSet) : Prop :=
  ∃ domain, user_email_domain user = some domain ∧
    ∃ t ∈ permitted_source_tables user domain site.catalogue, t.dataset = d

/-- The id of a dataset that requires authorisation and that the user was entitled to select. -/
def Entitled (dataset_id : Str) : Prop :=
  ∃ d, IsListed site user d ∧ d.user_access_type = .REQUIRES_AUTHORIZATION ∧ d.id = dataset_id

/-- What the user was entitled to select is as it was posted, and nothing else has changed. -/
structure PostRight (selected : List Str) (before after : World) : Prop where
  entitled : ∀ dataset_id, Entitled site user dataset_id →
    (⟨dataset_id, template.id⟩ ∈ after.permissions ↔ dataset_id ∈ selected)
  others : ∀ p : Permission,
    ¬ (p.application_template = template.id ∧ Entitled site user p.dataset) →
    (p ∈ after.permissions ↔ p ∈ before.permissions)

/-- Nothing is left of unpublished datasets that were not posted, and what there is of open datasets
is as the page has it. -/
structure Plain (selected : List Str) (w : World) : Prop where
  unpublished : ∀ d, IsListed site user d → d.user_access_type = .REQUIRES_AUTHORIZATION →
    d.published = false → d.id ∉ selected → ⟨d.id, template.id⟩ ∉ w.permissions
  open_given : ∀ d, IsListed site user d → d.user_access_type = .OPEN → d.published = false →
    d.id ∈ selected → ⟨d.id, template.id⟩ ∈ w.permissions
  open_removed : ∀ d, IsListed site user d → d.user_access_type = .OPEN → d.published = true →
    d.id ∉ selected → ⟨d.id, template.id⟩ ∉ w.permissions

end Post

/-! ## What the lists hold -/

section Lists

variable {α κ : Type} [DecidableEq κ] {key : α → κ}

theorem exists_mem_unseen (key : α → κ) {x : α} : ∀ {seen : List κ} {seq : List α},
    x ∈ seq → key x ∉ seen → ∃ y ∈ unseen key seen seq, key y = key x
  | seen, y :: seq, h, hx => by
      rw [unseen]
      by_cases hy : key y = key x
      · rw [hy, if_neg hx]
        exact ⟨y, List.mem_cons_self, hy⟩
      · have hmem : x ∈ seq := by
          rcases List.mem_cons.mp h with rfl | h
          · exact absurd rfl hy
          · exact h
        split
        next => exact exists_mem_unseen key hmem hx
        next =>
          have hx' : key x ∉ key y :: seen := by
            rw [List.mem_cons, not_or]
            exact ⟨Ne.symm hy, hx⟩
          obtain ⟨z, hz, heq⟩ := exists_mem_unseen key hmem hx'
          exact ⟨z, List.mem_cons_of_mem _ hz, heq⟩

theorem mem_keys_foldl_groupStep {k : κ} : ∀ {l : List α} {groups : List (κ × List α)},
    k ∈ (l.foldl (groupStep key) groups).map Prod.fst ↔
      k ∈ groups.map Prod.fst ∨ ∃ a ∈ l, key a = k
  | [], groups => by simp
  | a :: l, groups => by
      have hstep : k ∈ (groupStep key groups a).map Prod.fst ↔
          k ∈ groups.map Prod.fst ∨ key a = k := by
        cases groups with
        | nil => simp [groupStep, eq_comm]
        | cons group rest =>
            rw [groupStep]
            split
            next h =>
              simp only [List.map_cons, List.mem_cons]
              constructor
              · exact .inl
              · rintro (h' | h')
                · exact h'
                · exact .inl (h.trans h').symm
            next =>
              simp only [List.map_cons, List.mem_cons, eq_comm (a := k) (b := key a)]
              exact or_comm
      rw [List.foldl_cons, mem_keys_foldl_groupStep, hstep, or_assoc]
      simp

theorem mem_keys_groupby {k : κ} {l : List α} :
    k ∈ (groupby key l).map Prod.fst ↔ ∃ a ∈ l, key a = k := by
  rw [groupby, List.map_reverse, List.mem_reverse, mem_keys_foldl_groupStep]
  simp

end Lists

section Listed

variable (source_tables_user source_tables_app : List Entry)

theorem mem_ids_of_mark (mark : ListedDataset → Bool) {marked : List Str}
    (hmark : ∀ e, mark (listed_table source_tables_user source_tables_app e).dataset =
      marked.contains e.dataset.id)
    (hmarked : ∀ x ∈ marked, ∃ e ∈ source_tables_user ++ source_tables_app, e.dataset.id = x)
    {x : Str} :
    x ∈ (((datasets source_tables_user source_tables_app).map Prod.fst).filter mark).map
      ListedDataset.id ↔ x ∈ marked := by
  have hlisted : ∀ d, d ∈ (datasets source_tables_user source_tables_app).map Prod.fst ↔
      ∃ e ∈ without_duplicates_preserve_order (source_tables_user ++ source_tables_app)
        (fun e => (e.dataset.id, e.schema, e.table)),
        (listed_table source_tables_user source_tables_app e).dataset = d := by
    intro d
    rw [datasets, mem_keys_groupby]
    constructor
    · rintro ⟨t, ht, rfl⟩
      obtain ⟨e, he, rfl⟩ := List.mem_map.mp ((sortedBy_perm _ _).mem_iff.mp ht)
      exact ⟨e, he, rfl⟩
    · rintro ⟨e, he, rfl⟩
      exact ⟨_, (sortedBy_perm _ _).mem_iff.mpr (List.mem_map_of_mem he), rfl⟩
  constructor
  · intro h
    obtain ⟨d, hd, rfl⟩ := List.mem_map.mp h
    obtain ⟨hd, hmarks⟩ := List.mem_filter.mp hd
    obtain ⟨e, -, rfl⟩ := (hlisted d).mp hd
    rw [hmark] at hmarks
    exact List.contains_iff_mem.mp hmarks
  · intro h
    obtain ⟨e, he, rfl⟩ := hmarked x h
    obtain ⟨e', he', hkey⟩ := exists_mem_unseen (fun e : Entry =>
      (e.dataset.id, e.schema, e.table)) he List.not_mem_nil
    obtain ⟨hid, -⟩ := Prod.mk.inj hkey
    refine List.mem_map.mpr ⟨_, List.mem_filter.mpr ⟨(hlisted _).mpr ⟨e', he', rfl⟩, ?_⟩, hid⟩
    rw [hmark, List.contains_iff_mem, hid]
    exact h

theorem mem_previously_selected (x : Str) :
    x ∈ previously_selected_dataset_ids
        ((datasets source_tables_user source_tables_app).map Prod.fst) ↔
      x ∈ selected_dataset_ids source_tables_app := by
  refine mem_ids_of_mark _ _ (fun d => d.selected) (fun e => rfl) fun x hx => ?_
  obtain ⟨e, he, rfl⟩ := List.mem_map.mp hx
  exact ⟨e, List.mem_append_right _ he, rfl⟩

theorem mem_selectable (x : Str) :
    x ∈ selectable_dataset_ids_set
        ((datasets source_tables_user source_tables_app).map Prod.fst) ↔
      x ∈ selectable_dataset_ids source_tables_user := by
  refine mem_ids_of_mark _ _ (fun d => d.selectable) (fun e => rfl) fun x hx => ?_
  obtain ⟨e, he, rfl⟩ := List.mem_map.mp hx
  exact ⟨e, List.mem_append_left _ (List.mem_of_mem_filter he), rfl⟩

end Listed

/-! ## Which datasets they are -/

section Rules

variable {site : Site} {user : User} {template : ApplicationTemplate}

theorem IsListed.mem {d : DataSet} (h : IsListed site user d) : d ∈ site.masters := by
  obtain ⟨domain, -, t, ht, rfl⟩ := h
  exact site.dataset_mem t (mem_permitted_source_tables.mp ht).1

theorem IsListed.live {d : DataSet} (h : IsListed site user d) : d.deleted = false := by
  obtain ⟨domain, -, t, ht, rfl⟩ := h
  rcases (mem_permitted_source_tables.mp ht).2 with h | h | h
  · exact h.2.1
  · exact h.2.1
  · exact h.1

theorem IsListed.eq_of_id {d d' : DataSet} (h : IsListed site user d) (h' : IsListed site user d')
    (hid : d.id = d'.id) : d = d' :=
  List.inj_on_of_nodup_map site.unique h.mem h'.mem hid

theorem mem_selectable_dataset_ids {entries : List Entry} {domain : Str}
    (hdomain : user_email_domain user = some domain)
    (h : source_tables_for_user user site.catalogue entries) {x : Str} :
    x ∈ selectable_dataset_ids entries ↔
      ∃ d, IsListed site user d ∧ isSelectable d.user_access_type = true ∧ d.id = x := by
  obtain ⟨domain', rows, references, hdomain', hrows, -, rfl⟩ := h
  obtain rfl := Option.some.inj (hdomain.symm.trans hdomain')
  simp only [selectable_dataset_ids, List.mem_map, List.mem_filter, List.mem_append]
  constructor
  · rintro ⟨e, ⟨⟨t, ht, rfl⟩ | ⟨r, -, rfl⟩, hselectable⟩, rfl⟩
    · exact ⟨t.dataset, ⟨domain, hdomain, t, hrows.mem_iff.mp ht, rfl⟩, hselectable, rfl⟩
    · cases hselectable
  · rintro ⟨d, ⟨domain', hdomain', t, ht, rfl⟩, hselectable, rfl⟩
    obtain rfl := Option.some.inj (hdomain.symm.trans hdomain')
    exact ⟨sourceTableEntry t, ⟨.inl ⟨t, hrows.mem_iff.mpr ht, rfl⟩, hselectable⟩, rfl⟩

/-- The visualisation may read the dataset. -/
def WasSelected (template : ApplicationTemplate) (permissions : List Permission) (d : DataSet) :
    Prop :=
  d.published = true ∧
    (d.user_access_type = .REQUIRES_AUTHORIZATION → ⟨d.id, template.id⟩ ∈ permissions)

theorem mem_selected_dataset_ids {permissions : List Permission} {entries : List Entry}
    (h : source_tables_for_app template permissions site.catalogue entries) {d : DataSet}
    (hd : IsListed site user d) :
    d.id ∈ selected_dataset_ids entries ↔ WasSelected template permissions d := by
  have hmem := hd.mem
  have hlive := hd.live
  obtain ⟨domain, -, t, ht, rfl⟩ := hd
  have hcatalogue := (mem_permitted_source_tables.mp ht).1
  have hrule : ∀ t' ∈ site.catalogue.source_tables, t'.dataset = t.dataset →
      (t' ∈ app_source_tables template permissions site.catalogue ↔
        WasSelected template permissions t.dataset) := by
    intro t' ht' heq
    simp only [app_source_tables, List.mem_dedup, List.mem_filter, ht', true_and,
      decide_eq_true_eq, heq, hlive, and_true, WasSelected]
    cases t.dataset.user_access_type <;> simp
  obtain ⟨rows, references, hrows, hreferences, rfl⟩ := h
  simp only [selected_dataset_ids, List.mem_map, List.mem_append]
  constructor
  · rintro ⟨e, ⟨t', ht', rfl⟩ | ⟨r, hr, rfl⟩, hid⟩
    · have happ := hrows.mem_iff.mp ht'
      have ht'' : t' ∈ site.catalogue.source_tables := by
        rw [app_source_tables, List.mem_dedup] at happ
        exact List.mem_of_mem_filter happ
      have heq : t'.dataset = t.dataset :=
        List.inj_on_of_nodup_map site.unique (site.dataset_mem t' ht'') hmem hid
      exact (hrule t' ht'' heq).mp happ
    · obtain ⟨x, hx, hsome⟩ := List.mem_filterMap.mp (hreferences.mem_iff.mp hr)
      split at hsome
      next =>
        obtain ⟨db, -, rfl⟩ := Option.map_eq_some_iff.mp hsome
        exact absurd hid (site.ids_apart x hx t.dataset hmem)
      next => cases hsome
  · intro hselected
    have happ := (hrule t hcatalogue rfl).mpr hselected
    exact ⟨sourceTableEntry t, .inl ⟨t, hrows.mem_iff.mpr happ, rfl⟩, rfl⟩

end Rules

/-! ## The loops -/

section Loops

variable {site : Site} {user : User} {template : ApplicationTemplate}

theorem mem_create {w : World} {d : DataSet} {p : Permission} :
    p ∈ (w.create user template d).permissions ↔ p ∈ w.permissions ∨ p = ⟨d.id, template.id⟩ := by
  rw [World.create]
  split
  next h =>
    constructor
    · exact .inl
    · rintro (h' | rfl)
      · exact h'
      · exact h
  next => rw [List.mem_cons, or_comm]

theorem mem_delete {w : World} {d : DataSet} {p : Permission} :
    p ∈ (w.delete user template d).permissions ↔ p ∈ w.permissions ∧ p ≠ ⟨d.id, template.id⟩ := by
  rw [World.delete]
  split
  next => rw [w.unique.mem_erase_iff, and_comm]
  next h =>
    constructor
    · exact fun hp => ⟨hp, fun heq => h (heq ▸ hp)⟩
    · exact And.left

theorem with_dataset_of_mem {d : DataSet} (hd : d ∈ site.masters)
    (change : World → DataSet → World) (w : World) :
    with_dataset site change w d.id = .ok (change w d) := by
  have hfind : (site.masters.find? fun d' => d'.id = d.id) = some d := by
    cases hfound : site.masters.find? fun d' => d'.id = d.id with
    | none =>
        have hnot := List.find?_eq_none.mp hfound d hd
        simp at hnot
    | some d' =>
        have hid : d'.id = d.id := by simpa using List.find?_some hfound
        rw [List.inj_on_of_nodup_map site.unique (List.mem_of_find?_eq_some hfound) hd hid]
  rw [with_dataset, hfind]

theorem give_spec (user : User) (template : ApplicationTemplate) : ∀ {ids : List Str} (w : World),
    (∀ x ∈ ids, ∃ d ∈ site.masters, d.id = x) →
    ∃ w', ids.foldlM (with_dataset site fun w => w.create user template) w = .ok w' ∧
      ∀ p, p ∈ w'.permissions ↔
        p ∈ w.permissions ∨ p.application_template = template.id ∧ p.dataset ∈ ids
  | [], w, _ => ⟨w, rfl, by simp⟩
  | x :: ids, w, h => by
      obtain ⟨d, hd, rfl⟩ := h x List.mem_cons_self
      obtain ⟨w', hw', hmem⟩ := give_spec user template (w.create user template d)
        fun y hy =>
        h y (List.mem_cons_of_mem _ hy)
      refine ⟨w', ?_, fun p => ?_⟩
      · rw [List.foldlM_cons, with_dataset_of_mem hd]
        exact hw'
      · rw [hmem, mem_create, List.mem_cons, or_assoc]
        obtain ⟨dataset, application_template⟩ := p
        simp only [Permission.mk.injEq]
        tauto

theorem remove_spec (user : User) (template : ApplicationTemplate) : ∀ {ids : List Str} (w : World),
    (∀ x ∈ ids, ∃ d ∈ site.masters, d.id = x) →
    ∃ w', ids.foldlM (with_dataset site fun w => w.delete user template) w = .ok w' ∧
      ∀ p, p ∈ w'.permissions ↔
        p ∈ w.permissions ∧ ¬ (p.application_template = template.id ∧ p.dataset ∈ ids)
  | [], w, _ => ⟨w, rfl, by simp⟩
  | x :: ids, w, h => by
      obtain ⟨d, hd, rfl⟩ := h x List.mem_cons_self
      obtain ⟨w', hw', hmem⟩ := remove_spec user template (w.delete user template d)
        fun y hy =>
        h y (List.mem_cons_of_mem _ hy)
      refine ⟨w', ?_, fun p => ?_⟩
      · rw [List.foldlM_cons, with_dataset_of_mem hd]
        exact hw'
      · rw [hmem, mem_delete, List.mem_cons]
        obtain ⟨dataset, application_template⟩ := p
        simp only [ne_eq, Permission.mk.injEq]
        tauto

end Loops

/-! ## What a request leaves -/

section Outcome

variable {site : Site} {user : User} {template : ApplicationTemplate} {selected : List Str}
  {w : World} {outcome : Except World World}

/-- The row of a dataset that can be selected. -/
def After (template : ApplicationTemplate) (selected : List Str) (permissions : List Permission)
    (d : DataSet) : Prop :=
  (⟨d.id, template.id⟩ ∈ permissions ∨
      d.id ∈ selected ∧ ¬ WasSelected template permissions d) ∧
    ¬ (WasSelected template permissions d ∧ d.id ∉ selected)

theorem after_spec
    (h : visualisation_datasets_html_POST site user template selected w outcome) :
    (∀ d, IsListed site user d → isSelectable d.user_access_type = true →
      (⟨d.id, template.id⟩ ∈ (world outcome).permissions ↔
        After template selected w.permissions d)) ∧
    ∀ p : Permission, ¬ (p.application_template = template.id ∧ ∃ d, IsListed site user d ∧
        isSelectable d.user_access_type = true ∧ d.id = p.dataset) →
      (p ∈ (world outcome).permissions ↔ p ∈ w.permissions) := by
  rw [visualisation_datasets_html_POST] at h
  cases hdomain : user_email_domain user with
  | none =>
      rw [hdomain] at h
      subst h
      refine ⟨fun d hd => ?_, fun p _ => Iff.rfl⟩
      obtain ⟨domain, hsome, -⟩ := hd
      rw [hdomain] at hsome
      cases hsome
  | some domain =>
      rw [hdomain] at h
      obtain ⟨entries, hentries, app_entries, happ, rfl⟩ := h
      have hselectable := fun x => (mem_selectable entries app_entries x).trans
        (mem_selectable_dataset_ids hdomain hentries)
      have hprevious := mem_previously_selected entries app_entries
      have hgive : ∀ x, x ∈ datasets_ids_to_give_access_to
          ((datasets entries app_entries).map Prod.fst) selected ↔ x ∈ selected ∧
            (∃ d, IsListed site user d ∧ isSelectable d.user_access_type = true ∧ d.id = x) ∧
            x ∉ selected_dataset_ids app_entries := by
        intro x
        rw [← hselectable, ← hprevious, datasets_ids_to_give_access_to]
        simp
      have hremove : ∀ x, x ∈ datasets_ids_to_remove_access_from
          ((datasets entries app_entries).map Prod.fst) selected ↔
            x ∈ selected_dataset_ids app_entries ∧
            (∃ d, IsListed site user d ∧ isSelectable d.user_access_type = true ∧ d.id = x) ∧
            x ∉ selected := by
        intro x
        rw [← hselectable, ← hprevious, datasets_ids_to_remove_access_from]
        simp
      have hmasters : ∀ x, (∃ d, IsListed site user d ∧ isSelectable d.user_access_type = true ∧
          d.id = x) → ∃ d ∈ site.masters, d.id = x := by
        rintro x ⟨d, hd, -, hid⟩
        exact ⟨d, hd.mem, hid⟩
      obtain ⟨w₁, hw₁, hmem₁⟩ := give_spec user template w
        fun x hx => hmasters x ((hgive x).mp hx).2.1
      obtain ⟨w₂, hw₂, hmem₂⟩ := remove_spec user template w₁
        fun x hx => hmasters x ((hremove x).mp hx).2.1
      have hsave : save_datasets site user template ((datasets entries app_entries).map Prod.fst)
          selected w = .ok w₂ := by
        rw [save_datasets, hw₁]
        exact hw₂
      rw [hsave]
      constructor
      · intro d hd hselect
        have hself : ∃ d', IsListed site user d' ∧ isSelectable d'.user_access_type = true ∧
            d'.id = d.id := ⟨d, hd, hselect, rfl⟩
        rw [world, hmem₂, hmem₁, hgive, hremove, mem_selected_dataset_ids happ hd, After]
        simp only [hself, true_and]
      · intro p hp
        rw [world, hmem₂, hmem₁, hgive, hremove]
        rw [and_iff_left fun hgone => hp ⟨hgone.1, hgone.2.2.1⟩,
          or_iff_left fun hnew => hp ⟨hnew.1, hnew.2.2.1⟩]

theorem exists_outcome (site : Site) (user : User) (template : ApplicationTemplate)
    (selected : List Str) (w : World) :
    ∃ outcome, visualisation_datasets_html_POST site user template selected w outcome := by
  simp only [visualisation_datasets_html_POST]
  cases hdomain : user_email_domain user with
  | none => exact ⟨_, rfl⟩
  | some domain =>
      exact ⟨_, _, ⟨domain, _, _, hdomain, .refl _, .refl _, rfl⟩, _, ⟨_, _, .refl _, .refl _, rfl⟩,
        rfl⟩

end Outcome

/-- What is posted is what is there afterwards, and nothing else changes, if and only if nothing is
left of unpublished datasets and what there is of open datasets is as the page has it. -/
theorem post_right_iff (site : Site) (user : User) (template : ApplicationTemplate)
    (selected : List Str) (w : World) :
    (∀ outcome, visualisation_datasets_html_POST site user template selected w outcome →
      PostRight site user template selected w (world outcome)) ↔
    Plain site user template selected w := by
  constructor
  · intro h
    obtain ⟨outcome, houtcome⟩ := exists_outcome site user template selected w
    have hright := h outcome houtcome
    obtain ⟨hselectable, -⟩ := after_spec houtcome
    have hopen : ∀ d, IsListed site user d → d.user_access_type = .OPEN →
        (After template selected w.permissions d ↔ ⟨d.id, template.id⟩ ∈ w.permissions) := by
      intro d hd htype
      rw [← hselectable d hd (by rw [htype]; rfl)]
      refine hright.others _ ?_
      rintro ⟨-, d', hd', htype', hid⟩
      rw [hd'.eq_of_id hd hid, htype] at htype'
      cases htype'
    constructor
    · intro d hd htype hpublished hnot hrow
      have hafter := (hselectable d hd (by rw [htype]; rfl)).symm.trans
        (hright.entitled d.id ⟨d, hd, htype, rfl⟩)
      exact hnot (hafter.mp ⟨.inl hrow, by simp [WasSelected, hpublished]⟩)
    · intro d hd htype hpublished hselected
      exact (hopen d hd htype).mp ⟨.inr ⟨hselected, by simp [WasSelected, hpublished]⟩,
        by simp [WasSelected, hpublished]⟩
    · intro d hd htype hpublished hnot hrow
      exact ((hopen d hd htype).mpr hrow).2 ⟨⟨hpublished, by simp [htype]⟩, hnot⟩
  · intro hplain outcome houtcome
    obtain ⟨hselectable, hothers⟩ := after_spec houtcome
    constructor
    · rintro dataset_id ⟨d, hd, htype, rfl⟩
      rw [hselectable d hd (by rw [htype]; rfl), After, WasSelected]
      have hunpublished := hplain.unpublished d hd htype
      cases hpublished : d.published with
      | true => simp only [htype, true_and, forall_const]; tauto
      | false =>
          simp only [Bool.false_eq_true, false_and, not_false_eq_true, and_true]
          have := hunpublished hpublished
          tauto
    · intro p hp
      by_cases hlisted : p.application_template = template.id ∧ ∃ d, IsListed site user d ∧
          isSelectable d.user_access_type = true ∧ d.id = p.dataset
      · obtain ⟨htemplate, d, hd, hselect, hid⟩ := hlisted
        have htype : d.user_access_type = .OPEN := by
          cases htype : d.user_access_type with
          | OPEN => rfl
          | REQUIRES_AUTHENTICATION =>
              rw [htype] at hselect
              cases hselect
          | REQUIRES_AUTHORIZATION => exact absurd ⟨htemplate, d, hd, htype, hid⟩ hp
        obtain rfl : p = ⟨d.id, template.id⟩ := by
          rw [hid, ← htemplate]
        rw [hselectable d hd hselect, After, WasSelected]
        have hgiven := hplain.open_given d hd htype
        have hremoved := hplain.open_removed d hd htype
        cases hpublished : d.published with
        | true =>
            have := hremoved hpublished
            simp only [htype, reduceCtorEq, false_implies, and_true, not_true_eq_false, and_false,
              or_false, true_and, not_not]
            tauto
        | false =>
            have := hgiven hpublished
            simp only [Bool.false_eq_true, false_and, not_false_eq_true, and_true]
            tauto
      · exact hothers p hlisted

/-! ## An open dataset -/

/-- A dataset that was opened when a visualisation had been given access to it. -/
def opened : DataSet where
  id := "d"
  name := "Trade"
  user_access_type := .OPEN
  authorized_email_domains := []
  deleted := false
  published := true
  user_permissions := []

def openedSite : Site where
  masters := [opened]
  unique := List.nodup_singleton _
  catalogue := ⟨[⟨"t", opened, ⟨"1", "datasets"⟩, "trade", "imports"⟩], []⟩
  dataset_mem := by
    intro t ht
    obtain rfl := List.mem_singleton.mp ht
    exact List.mem_singleton_self _
  ids_apart := fun r hr => absurd hr List.not_mem_nil

def developer : User := ⟨1, "ann@trade.gov.uk", false⟩

def dashboard : ApplicationTemplate := ⟨"v", "Dashboard"⟩

/-- The row of the visualisation is still there. -/
def openedWorld : World := ⟨[⟨"d", "v"⟩], List.nodup_singleton _, []⟩

/-- The row goes when nothing is posted. -/
theorem open_dataset_removed : ¬ ∀ outcome,
    visualisation_datasets_html_POST openedSite developer dashboard [] openedWorld outcome →
      PostRight openedSite developer dashboard [] openedWorld (world outcome) := by
  intro h
  obtain ⟨outcome, houtcome⟩ := exists_outcome openedSite developer dashboard [] openedWorld
  have hlisted : IsListed openedSite developer opened :=
    ⟨"trade.gov.uk", by decide, _, mem_permitted_source_tables.mpr
      ⟨List.mem_singleton_self _, .inl ⟨.inr rfl, rfl, rfl⟩⟩, rfl⟩
  have hother : ¬ (dashboard.id = dashboard.id ∧ Entitled openedSite developer opened.id) := by
    rintro ⟨-, d, hd, htype, hid⟩
    rw [hd.eq_of_id hlisted hid] at htype
    cases htype
  have hstays := ((h outcome houtcome).others ⟨opened.id, dashboard.id⟩ hother).mpr
    List.mem_cons_self
  have hafter := ((after_spec houtcome).1 opened hlisted rfl).mp hstays
  exact hafter.2 ⟨⟨rfl, fun htype => nomatch htype⟩, List.not_mem_nil⟩

end DatasetPermissions
