import DataWorkspace.Datasets.Access
import DataWorkspace.Http.Method

/-!
# The data of a source

Eight views give out rows or files of a source: the downloads, the previews, the rows of
the data grid and the data of a visualisation.  Each looks its dataset and source up in its
own way.  The first five go through `find_dataset`, which shows nobody a deleted dataset,
and an unpublished one only to those who manage it.  The preview of a data cut and that of
a visualisation ask for access alone.  The data grid asks whether the dataset is published,
but not whether it is deleted or the query reviewed.

`given_only_if_allowed_iff` says which requests are given only what they may be given.
-/

namespace Datasets

open Py Http

/-! ## Datasets and sources -/

inductive DataSetType where
  | REFERENCE | MASTER | DATACUT | VISUALISATION
deriving DecidableEq, Repr

structure Dataset extends DataSet where
  type : DataSetType
deriving DecidableEq, Repr

inductive LinkType where
  | TYPE_EXTERNAL | TYPE_LOCAL
deriving DecidableEq, Repr

structure SourceLink where
  id : Str
  dataset : Dataset
  link_type : LinkType
  url : Str
deriving DecidableEq, Repr

structure SourceView where
  id : Str
  dataset : Dataset
  database : Str
  schema : Str
  view : Str
deriving DecidableEq, Repr

/-- A source table, with what the data grid reads of it. -/
structure GridTable where
  id : Str
  dataset : Dataset
  database : Str
  schema : Str
  table : Str
  data_grid_enabled : Bool
  data_grid_download_enabled : Bool
deriving DecidableEq, Repr

structure CustomDatasetQuery where
  id : Nat
  dataset : Dataset
  database : Str
  query : Str
  reviewed : Bool
  data_grid_enabled : Bool
deriving DecidableEq, Repr

structure DataSetVisualisation where
  id : Nat
  dataset : Dataset
  database : Str
  query : Option Str
deriving DecidableEq, Repr

/-- The sources that data is given out of. -/
inductive Source where
  | link (source_link : SourceLink)
  | view (source_view : SourceView)
  | table (source_table : GridTable)
  | query (query : CustomDatasetQuery)
  | visualisation (visualisation : DataSetVisualisation)
deriving DecidableEq, Repr

def Source.dataset : Source → Dataset
  | .link l => l.dataset
  | .view v => v.dataset
  | .table t => t.dataset
  | .query q => q.dataset
  | .visualisation v => v.dataset

/-- The rows of the database. -/
structure Sources where
  datasets : List Dataset
  links : List SourceLink
  views : List SourceView
  tables : List GridTable
  queries : List CustomDatasetQuery
  visualisations : List DataSetVisualisation
  /-- `id` is the primary key, and the dataset of a source is one of the datasets. -/
  unique : (datasets.map fun d => d.id).Nodup
  link_dataset : ∀ l ∈ links, l.dataset ∈ datasets
  view_dataset : ∀ v ∈ views, v.dataset ∈ datasets
  table_dataset : ∀ t ∈ tables, t.dataset ∈ datasets
  query_dataset : ∀ q ∈ queries, q.dataset ∈ datasets
  visualisation_dataset : ∀ v ∈ visualisations, v.dataset ∈ datasets

/-- A user, and the permissions of his groups. -/
structure Viewer where
  user : User
  has_perm : Str → Bool

/-- What is asked of S3, of the databases and of the flags. -/
structure Environment where
  /-- `client.get_object`, or the status of its error. -/
  get_object : Str → Except Nat Unit
  view_exists : Str → Str → Str → Bool
  /-- The columns that a table or query has. -/
  columns : Source → List Str
  /-- `get_column_config`: the fields the data grid shows. -/
  column_config : Source → List Str
  /-- The flag of the enhanced preview, for a user. -/
  data_cut_preview_flag : User → Bool

/-! ## Replies -/

inductive Refusal where
  | not_found | forbidden | bad_request | not_allowed | server_error
  | status (n : Nat)
deriving DecidableEq, Repr

/-- A reply: data of a source, or a page or headers without any. -/
inductive Reply where
  | rows (source : Source)
  | file (source_link : SourceLink)
  | redirect (source_link : SourceLink)
  | page
  | headers
deriving DecidableEq, Repr

abbrev View := Except Refusal Reply

/-- `View.dispatch` of a view that has only `get`. -/
def onGet (method : Method) (get : View) : View :=
  match method with
  | .GET => get
  | .HEAD => get.map fun _ => .headers
  | .OPTIONS => .ok .headers
  | _ => .error .not_allowed

/-- `get_object_or_404`. -/
def get_object_or_404 {α : Type} (found : Option α) : Except Refusal α :=
  match found with
  | some a => .ok a
  | none => .error .not_found

section Views

variable (env : Environment) (s : Sources) (viewer : Viewer)

def dataset_type_to_manage_unpublished_permission_codename : DataSetType → Str
  | .REFERENCE => "datasets.manage_unpublished_reference_datasets"
  | .MASTER => "datasets.manage_unpublished_master_datasets"
  | .DATACUT => "datasets.manage_unpublished_datacut_datasets"
  | .VISUALISATION => "datasets.manage_unpublished_visualisations"

def Viewer.manages (d : Dataset) : Bool :=
  viewer.has_perm (dataset_type_to_manage_unpublished_permission_codename d.type)

def find_dataset (dataset_uuid : Str) : Except Refusal Dataset := do
  let dataset ← get_object_or_404 (s.datasets.find? fun d => d.id == dataset_uuid && !d.deleted)
  if viewer.manages dataset then .ok dataset
  else if dataset.published then .ok dataset else .error .not_found

/-- `if not dataset.user_has_access(user): return HttpResponseForbidden()`. -/
def requireAccess (d : Dataset) : Except Refusal Unit :=
  match d.user_has_access viewer.user with
  | none => .error .server_error
  | some false => .error .forbidden
  | some true => .ok ()

def SourceLinkDownloadView.get (dataset_uuid source_link_id : Str) : View := do
  let dataset ← find_dataset s viewer dataset_uuid
  requireAccess viewer dataset
  let source_link ← get_object_or_404
    (s.links.find? fun l => l.id == source_link_id && l.dataset.id == dataset.id)
  match source_link.link_type with
  | .TYPE_EXTERNAL => .ok (.redirect source_link)
  | .TYPE_LOCAL =>
      match env.get_object source_link.url with
      | .ok () => .ok (.file source_link)
      | .error n => .error (.status n)

def SourceViewDownloadView.get (dataset_uuid source_id : Str) : View := do
  let dataset ← find_dataset s viewer dataset_uuid
  let db_object ← get_object_or_404
    (s.views.find? fun v => v.id == source_id && v.dataset.id == dataset.id)
  requireAccess viewer db_object.dataset
  if env.view_exists db_object.database db_object.schema db_object.view then
    .ok (.rows (.view db_object))
  else .error .not_found

/-- `if not query.reviewed and not user.is_superuser: return HttpResponseForbidden()`. -/
def requireReviewed (query : CustomDatasetQuery) : Except Refusal Unit :=
  if !query.reviewed && !viewer.user.is_superuser then .error .forbidden else .ok ()

def CustomDatasetQueryDownloadView.get (dataset_uuid : Str) (query_id : Nat) : View := do
  let dataset ← find_dataset s viewer dataset_uuid
  requireAccess viewer dataset
  let query ← get_object_or_404
    (s.queries.find? fun q => q.id == query_id && q.dataset.id == dataset.id)
  requireReviewed viewer query
  .ok (.rows (.query query))

/-- `DatasetPreviewView.get`, with the `get_preview_data` of a view.  Without columns nothing
is read. -/
def DatasetPreviewView.get (get_preview_data : Dataset → Except Refusal Source)
    (dataset_uuid : Str) : View := do
  let dataset ← find_dataset s viewer dataset_uuid
  requireAccess viewer dataset
  let source_object ← get_preview_data dataset
  if (env.columns source_object).isEmpty then .ok .page else .ok (.rows source_object)

def SourceTablePreviewView.get_preview_data (table_uuid : Str) (dataset : Dataset) :
    Except Refusal Source := do
  let source_table_object ← get_object_or_404
    (s.tables.find? fun t => t.id == table_uuid && t.dataset.id == dataset.id)
  .ok (.table source_table_object)

def CustomDatasetQueryPreviewView.get_preview_data (query_id : Nat) (dataset : Dataset) :
    Except Refusal Source := do
  let query_object ← get_object_or_404
    (s.queries.find? fun q => q.id == query_id && q.dataset.id == dataset.id)
  requireReviewed viewer query_object
  .ok (.query query_object)

/-- What a data cut preview is of, by its URL. -/
inductive PreviewObject where
  | query (object_id : Nat)
  | source_link (object_id : Str)
deriving DecidableEq, Repr

/-- `DataCutPreviewView.get_object`.  It does not look at the dataset in the URL. -/
def DataCutPreviewView.get_object : PreviewObject → Option Source
  | .query object_id => (s.queries.find? fun q => q.id == object_id).map .query
  | .source_link object_id => (s.links.find? fun l => l.id == object_id).map .link

/-- `user_can_preview`, where access was asked for before. -/
def Source.user_can_preview : Source → Bool
  | .query q => q.reviewed || viewer.user.is_superuser
  | _ => true

/-- `get_preview_data` reads something. -/
def Source.has_preview_data : Source → Bool
  | .link l => startswith l.url "s3://" && (env.get_object l.url).isOk && endswith l.url ".csv"
  | source => !(env.columns source).isEmpty

def DataCutPreviewView.dispatch (method : Method) (object : PreviewObject) : View := do
  let model ← get_object_or_404 (DataCutPreviewView.get_object s object)
  requireAccess viewer model.dataset
  if env.data_cut_preview_flag viewer.user then
    onGet method
      (if model.user_can_preview viewer && model.has_preview_data env then .ok (.rows model)
      else .ok .page)
  else .error .not_found

/-- What the rows of a data grid are of. -/
inductive GridObject where
  | source_table (object_id : Str)
  | query (object_id : Nat)
deriving DecidableEq, Repr

/-- The dataset is published, unless a superuser asks. -/
def Viewer.seesPublished (d : Dataset) : Bool := viewer.user.is_superuser || d.published

def DataGridDataView.get_object (dataset_uuid : Str) : GridObject → Option Source
  | .source_table object_id => (s.tables.find? fun t =>
      t.dataset.id == dataset_uuid && t.id == object_id && viewer.seesPublished t.dataset).map .table
  | .query object_id => (s.queries.find? fun q =>
      q.dataset.id == dataset_uuid && q.id == object_id && viewer.seesPublished q.dataset).map .query

def Source.data_grid_enabled : Source → Bool
  | .table t => t.data_grid_enabled
  | .query q => q.data_grid_enabled
  | _ => false

def Source.data_grid_download_enabled : Source → Bool
  | .table t => t.data_grid_download_enabled
  | _ => true

/-- Which columns are asked for as a download, or `none` for the grid itself. -/
abbrev GridDownload := Option (List Str)

/-- `DataGridDataView.post`. -/
def DataGridDataView.post (download : GridDownload) (source : Source) : View :=
  match download with
  | some columns =>
      if source.data_grid_download_enabled then
        if ((env.column_config source).filter fun c => columns.contains c).isEmpty then
          .error .bad_request
        else .ok (.rows source)
      else .error .forbidden
  | none => if (env.column_config source).isEmpty then .error .server_error else .ok (.rows source)

def DataGridDataView.dispatch (method : Method) (download : GridDownload) (dataset_uuid : Str)
    (object : GridObject) : View := do
  let source ← get_object_or_404 (DataGridDataView.get_object s viewer dataset_uuid object)
  requireAccess viewer source.dataset
  if source.data_grid_enabled then
    match method with
    | .POST => DataGridDataView.post env download source
    -- There is no template for a page.
    | .GET => .error .server_error
    | .HEAD => .error .server_error
    | .OPTIONS => .ok .headers
    | _ => .error .not_allowed
  else .error .forbidden

/-- `DatasetVisualisationPreview.get`, for the datasets. -/
def DatasetVisualisationPreview.get (dataset_uuid : Str) (object_id : Nat) : View := do
  let dataset ← get_object_or_404 (s.datasets.find? fun d => d.id == dataset_uuid)
  requireAccess viewer dataset
  match s.visualisations.find? fun v => v.dataset.id == dataset.id && v.id == object_id with
  | none => .error .server_error
  | some visualisation =>
      if (visualisation.query.getD []).isEmpty then .ok .page
      else .ok (.rows (.visualisation visualisation))

end Views

/-! ## Requests -/

/-- The URLs that give out data, with their parameters. -/
inductive Url where
  | dataset_source_link_download (dataset_uuid source_link_id : Str)
  | dataset_source_view_download (dataset_uuid source_id : Str)
  | dataset_query_download (dataset_uuid : Str) (query_id : Nat)
  | dataset_table_preview (dataset_uuid table_uuid : Str)
  | dataset_query_preview (dataset_uuid : Str) (query_id : Nat)
  | data_cut_preview (dataset_uuid : Str) (object : PreviewObject)
  | grid_data (dataset_uuid : Str) (object : GridObject) (download : GridDownload)
  | dataset_visualisation_preview (dataset_uuid : Str) (object_id : Nat)
deriving DecidableEq, Repr

structure Request where
  url : Url
  method : Method
deriving DecidableEq, Repr

def serve (env : Environment) (s : Sources) (viewer : Viewer) (r : Request) : View :=
  match r.url with
  | .dataset_source_link_download dataset_uuid source_link_id =>
      onGet r.method (SourceLinkDownloadView.get env s viewer dataset_uuid source_link_id)
  | .dataset_source_view_download dataset_uuid source_id =>
      onGet r.method (SourceViewDownloadView.get env s viewer dataset_uuid source_id)
  | .dataset_query_download dataset_uuid query_id =>
      onGet r.method (CustomDatasetQueryDownloadView.get s viewer dataset_uuid query_id)
  | .dataset_table_preview dataset_uuid table_uuid =>
      onGet r.method (DatasetPreviewView.get env s viewer
        (SourceTablePreviewView.get_preview_data s table_uuid) dataset_uuid)
  | .dataset_query_preview dataset_uuid query_id =>
      onGet r.method (DatasetPreviewView.get env s viewer
        (CustomDatasetQueryPreviewView.get_preview_data s viewer query_id) dataset_uuid)
  | .data_cut_preview _ object => DataCutPreviewView.dispatch env s viewer r.method object
  | .grid_data dataset_uuid object download =>
      DataGridDataView.dispatch env s viewer r.method download dataset_uuid object
  | .dataset_visualisation_preview dataset_uuid object_id =>
      onGet r.method (DatasetVisualisationPreview.get s viewer dataset_uuid object_id)

/-! ## What may be given -/

/-- The source that a reply gives data of. -/
def Reply.given : Reply → Option Source
  | .rows source => some source
  | .file source_link => some (.link source_link)
  | .redirect source_link => some (.link source_link)
  | .page => none
  | .headers => none

def Gives (view : View) (source : Source) : Prop := ∃ reply, view = .ok reply ∧ reply.given = some source

/-- A custom query is reviewed, or a superuser asks. -/
def Reviewed (viewer : Viewer) : Source → Prop
  | .query q => q.reviewed = true ∨ viewer.user.is_superuser = true
  | _ => True

def Visible (viewer : Viewer) (d : Dataset) : Prop :=
  d.published = true ∨ viewer.user.is_superuser = true ∨ viewer.manages d = true

/-- Data of the source may be given to the user. -/
structure Allowed (viewer : Viewer) (source : Source) : Prop where
  live : source.dataset.deleted = false
  visible : Visible viewer source.dataset
  access : source.dataset.user_has_access viewer.user = some true
  reviewed : Reviewed viewer source

/-- The checks that the last three views leave out hold anyway. -/
def Kept (env : Environment) (s : Sources) (viewer : Viewer) (r : Request) : Prop :=
  match r.url with
  | .data_cut_preview _ object => r.method = .GET →
      env.data_cut_preview_flag viewer.user = true →
        ∀ source, DataCutPreviewView.get_object s object = some source →
          source.dataset.user_has_access viewer.user = some true → Reviewed viewer source →
            source.has_preview_data env = true →
              source.dataset.deleted = false ∧ Visible viewer source.dataset
  | .grid_data dataset_uuid object download => r.method = .POST →
      ∀ source, DataGridDataView.get_object s viewer dataset_uuid object = some source →
        source.dataset.user_has_access viewer.user = some true →
          source.data_grid_enabled = true →
            (∀ columns, download = some columns → source.data_grid_download_enabled = true) →
            (∃ c ∈ env.column_config source, ∀ columns, download = some columns → c ∈ columns) →
              source.dataset.deleted = false ∧ Reviewed viewer source
  | .dataset_visualisation_preview dataset_uuid object_id => r.method = .GET →
      ∀ d ∈ s.datasets, d.id = dataset_uuid → d.user_has_access viewer.user = some true →
        ∀ v, (s.visualisations.find? fun v => v.dataset.id == d.id && v.id == object_id) = some v →
          v.query.getD [] ≠ [] → d.deleted = false ∧ Visible viewer d
  | _ => True

/-! ## The checks -/

section Checks

variable {env : Environment} {s : Sources} {viewer : Viewer} {source : Source}

theorem gives_bind {α : Type} {m : Except Refusal α} {f : α → View} :
    Gives (m >>= f) source ↔ ∃ a, m = .ok a ∧ Gives (f a) source := by
  cases m with
  | error e =>
      constructor
      · rintro ⟨reply, h, -⟩
        cases h
      · rintro ⟨a, h, -⟩
        cases h
  | ok a =>
      constructor
      · exact fun h => ⟨a, rfl, h⟩
      · rintro ⟨a', h, hgives⟩
        obtain rfl := Except.ok.inj h
        exact hgives

theorem not_gives_error {e : Refusal} : ¬ Gives (.error e) source := by
  rintro ⟨reply, h, -⟩
  cases h

theorem gives_ok {reply : Reply} : Gives (.ok reply) source ↔ reply.given = some source := by
  constructor
  · rintro ⟨reply', h, hgiven⟩
    obtain rfl := Except.ok.inj h
    exact hgiven
  · exact fun h => ⟨reply, rfl, h⟩

theorem gives_onGet {method : Method} {get : View} :
    Gives (onGet method get) source ↔ method = .GET ∧ Gives get source := by
  cases method with
  | GET => simp [onGet]
  | HEAD =>
      refine iff_of_false ?_ (by simp)
      cases get with
      | error e => exact not_gives_error
      | ok reply => exact fun h => by cases gives_ok.mp h
  | OPTIONS => exact iff_of_false (fun h => by cases gives_ok.mp h) (by simp)
  | POST => exact iff_of_false not_gives_error (by simp)
  | PUT => exact iff_of_false not_gives_error (by simp)
  | DELETE => exact iff_of_false not_gives_error (by simp)
  | other => exact iff_of_false not_gives_error (by simp)

theorem get_object_or_404_eq_ok {α : Type} {found : Option α} {a : α} :
    get_object_or_404 found = .ok a ↔ found = some a := by
  cases found with
  | none => simp [get_object_or_404]
  | some a => simp [get_object_or_404]

theorem requireAccess_eq_ok {d : Dataset} :
    requireAccess viewer d = .ok () ↔ d.user_has_access viewer.user = some true := by
  unfold requireAccess
  rcases d.user_has_access viewer.user with _ | _ | _ <;> simp

theorem requireReviewed_eq_ok {q : CustomDatasetQuery} :
    requireReviewed viewer q = .ok () ↔ Reviewed viewer (.query q) := by
  unfold requireReviewed
  show _ ↔ q.reviewed = true ∨ viewer.user.is_superuser = true
  rw [← Bool.or_eq_true]
  cases q.reviewed <;> cases viewer.user.is_superuser <;> decide

theorem find_dataset_eq_ok {dataset_uuid : Str} {d : Dataset}
    (h : find_dataset s viewer dataset_uuid = .ok d) :
    d ∈ s.datasets ∧ d.deleted = false ∧ Visible viewer d := by
  unfold find_dataset at h
  cases hfound : s.datasets.find? fun d => d.id == dataset_uuid && !d.deleted with
  | none =>
      rw [hfound] at h
      cases h
  | some d' =>
      rw [hfound] at h
      have hlive : d'.deleted = false := by
        have hmatch := List.find?_some hfound
        simp only [Bool.and_eq_true, Bool.not_eq_true'] at hmatch
        exact hmatch.2
      change (if viewer.manages d' = true then Except.ok d'
        else if d'.published = true then .ok d' else .error Refusal.not_found) = .ok d at h
      split at h
      next hmanages =>
          obtain rfl := Except.ok.inj h
          exact ⟨List.mem_of_find?_eq_some hfound, hlive, .inr (.inr hmanages)⟩
      next =>
          split at h
          next hpublished =>
              obtain rfl := Except.ok.inj h
              exact ⟨List.mem_of_find?_eq_some hfound, hlive, .inl hpublished⟩
          next => cases h

theorem dataset_eq {d d' : Dataset} (hd : d ∈ s.datasets) (hd' : d' ∈ s.datasets)
    (h : d.id = d'.id) : d = d' :=
  List.inj_on_of_nodup_map s.unique hd hd' h

/-! ## The views that go through `find_dataset` -/

theorem allowed_of_find_dataset {dataset_uuid : Str} {d : Dataset}
    (hd : find_dataset s viewer dataset_uuid = .ok d)
    (haccess : requireAccess viewer d = .ok ()) (hmem : source.dataset ∈ s.datasets)
    (hsame : source.dataset.id = d.id) (hreviewed : Reviewed viewer source) :
    Allowed viewer source := by
  obtain ⟨hd, hlive, hvisible⟩ := find_dataset_eq_ok hd
  obtain rfl := dataset_eq hmem hd hsame
  exact ⟨hlive, hvisible, requireAccess_eq_ok.mp haccess, hreviewed⟩

theorem sourceLink_allowed {dataset_uuid source_link_id : Str}
    (h : Gives (SourceLinkDownloadView.get env s viewer dataset_uuid source_link_id) source) :
    Allowed viewer source := by
  obtain ⟨d, hd, hrest⟩ := gives_bind.mp h
  obtain ⟨⟨⟩, haccess, hlookup⟩ := gives_bind.mp hrest
  obtain ⟨l, hl, hfile⟩ := gives_bind.mp hlookup
  have hfound := get_object_or_404_eq_ok.mp hl
  have hsame := List.find?_some hfound
  simp only [Bool.and_eq_true, beq_iff_eq] at hsame
  have hgiven : source = .link l := by
    split at hfile
    next => exact (Option.some.inj (gives_ok.mp hfile)).symm
    next =>
        split at hfile
        next => exact (Option.some.inj (gives_ok.mp hfile)).symm
        next => exact absurd hfile not_gives_error
  rw [hgiven]
  exact allowed_of_find_dataset hd haccess (s.link_dataset l (List.mem_of_find?_eq_some hfound))
    hsame.2 trivial

theorem sourceView_allowed {dataset_uuid source_id : Str}
    (h : Gives (SourceViewDownloadView.get env s viewer dataset_uuid source_id) source) :
    Allowed viewer source := by
  obtain ⟨d, hd, hrest⟩ := gives_bind.mp h
  obtain ⟨v, hv, hcheck⟩ := gives_bind.mp hrest
  obtain ⟨⟨⟩, haccess, hrows⟩ := gives_bind.mp hcheck
  have hfound := get_object_or_404_eq_ok.mp hv
  have hsame := List.find?_some hfound
  simp only [Bool.and_eq_true, beq_iff_eq] at hsame
  have hmem := s.view_dataset v (List.mem_of_find?_eq_some hfound)
  obtain rfl := dataset_eq hmem (find_dataset_eq_ok hd).1 hsame.2
  split at hrows
  next =>
      obtain rfl := Option.some.inj (gives_ok.mp hrows)
      exact allowed_of_find_dataset hd haccess hmem rfl trivial
  next => exact absurd hrows not_gives_error

theorem query_allowed {dataset_uuid : Str} {query_id : Nat}
    (h : Gives (CustomDatasetQueryDownloadView.get s viewer dataset_uuid query_id) source) :
    Allowed viewer source := by
  obtain ⟨d, hd, hrest⟩ := gives_bind.mp h
  obtain ⟨⟨⟩, haccess, hlookup⟩ := gives_bind.mp hrest
  obtain ⟨q, hq, hcheck⟩ := gives_bind.mp hlookup
  obtain ⟨⟨⟩, hreviewed, hrows⟩ := gives_bind.mp hcheck
  have hfound := get_object_or_404_eq_ok.mp hq
  have hsame := List.find?_some hfound
  simp only [Bool.and_eq_true, beq_iff_eq] at hsame
  obtain rfl := Option.some.inj (gives_ok.mp hrows)
  exact allowed_of_find_dataset hd haccess (s.query_dataset q (List.mem_of_find?_eq_some hfound))
    hsame.2 (requireReviewed_eq_ok.mp hreviewed)

theorem preview_allowed {get_preview_data : Dataset → Except Refusal Source} {dataset_uuid : Str}
    (hdata : ∀ d source, get_preview_data d = .ok source → source.dataset ∈ s.datasets ∧
      source.dataset.id = d.id ∧ Reviewed viewer source)
    (h : Gives (DatasetPreviewView.get env s viewer get_preview_data dataset_uuid) source) :
    Allowed viewer source := by
  obtain ⟨d, hd, hrest⟩ := gives_bind.mp h
  obtain ⟨⟨⟩, haccess, hlookup⟩ := gives_bind.mp hrest
  obtain ⟨source', hsource, hrows⟩ := gives_bind.mp hlookup
  obtain ⟨hmem, hsame, hreviewed⟩ := hdata d source' hsource
  split at hrows
  next => cases gives_ok.mp hrows
  next =>
      obtain rfl := Option.some.inj (gives_ok.mp hrows)
      exact allowed_of_find_dataset hd haccess hmem hsame hreviewed

theorem tablePreview_data {table_uuid : Str} {d : Dataset}
    (h : SourceTablePreviewView.get_preview_data s table_uuid d = .ok source) :
    source.dataset ∈ s.datasets ∧ source.dataset.id = d.id ∧ Reviewed viewer source := by
  unfold SourceTablePreviewView.get_preview_data at h
  cases hfound : s.tables.find? fun t => t.id == table_uuid && t.dataset.id == d.id with
  | none =>
      rw [hfound] at h
      cases h
  | some t =>
      rw [hfound] at h
      obtain rfl := Except.ok.inj h
      have hsame := List.find?_some hfound
      simp only [Bool.and_eq_true, beq_iff_eq] at hsame
      exact ⟨s.table_dataset t (List.mem_of_find?_eq_some hfound), hsame.2, trivial⟩

theorem queryPreview_data {query_id : Nat} {d : Dataset}
    (h : CustomDatasetQueryPreviewView.get_preview_data s viewer query_id d = .ok source) :
    source.dataset ∈ s.datasets ∧ source.dataset.id = d.id ∧ Reviewed viewer source := by
  unfold CustomDatasetQueryPreviewView.get_preview_data at h
  cases hfound : s.queries.find? fun q => q.id == query_id && q.dataset.id == d.id with
  | none =>
      rw [hfound] at h
      cases h
  | some q =>
      rw [hfound] at h
      have hsame := List.find?_some hfound
      simp only [Bool.and_eq_true, beq_iff_eq] at hsame
      cases hreviewed : requireReviewed viewer q with
      | error e =>
          change (requireReviewed viewer q >>= fun _ => .ok (Source.query q)) = _ at h
          rw [hreviewed] at h
          cases h
      | ok u =>
          change (requireReviewed viewer q >>= fun _ => .ok (Source.query q)) = _ at h
          rw [hreviewed] at h
          obtain rfl := Except.ok.inj h
          exact ⟨s.query_dataset q (List.mem_of_find?_eq_some hfound), hsame.2,
            requireReviewed_eq_ok.mp hreviewed⟩

/-! ## The views that look for themselves -/

theorem user_can_preview_iff : source.user_can_preview viewer = true ↔ Reviewed viewer source := by
  cases source with
  | query q => simp [Source.user_can_preview, Reviewed]
  | _ => exact iff_of_true rfl trivial

theorem dataCutPreview_gives_iff {method : Method} {object : PreviewObject} :
    Gives (DataCutPreviewView.dispatch env s viewer method object) source ↔
      method = .GET ∧ env.data_cut_preview_flag viewer.user = true ∧
        DataCutPreviewView.get_object s object = some source ∧
        source.dataset.user_has_access viewer.user = some true ∧ Reviewed viewer source ∧
        source.has_preview_data env = true := by
  unfold DataCutPreviewView.dispatch
  rw [gives_bind]
  constructor
  · rintro ⟨model, hmodel, hrest⟩
    obtain ⟨⟨⟩, haccess, hshown⟩ := gives_bind.mp hrest
    split at hshown
    next hflag =>
        obtain ⟨hmethod, hdata⟩ := gives_onGet.mp hshown
        split at hdata
        next hpreview =>
            obtain rfl := Option.some.inj (gives_ok.mp hdata)
            simp only [Bool.and_eq_true, user_can_preview_iff] at hpreview
            exact ⟨hmethod, hflag, get_object_or_404_eq_ok.mp hmodel,
              requireAccess_eq_ok.mp haccess, hpreview⟩
        next => cases gives_ok.mp hdata
    next => exact absurd hshown not_gives_error
  · rintro ⟨rfl, hflag, hobject, haccess, hreviewed, hdata⟩
    refine ⟨source, get_object_or_404_eq_ok.mpr hobject, gives_bind.mpr ⟨(),
      requireAccess_eq_ok.mpr haccess, ?_⟩⟩
    rw [if_pos hflag, gives_onGet, user_can_preview_iff.mpr hreviewed, hdata]
    exact ⟨rfl, gives_ok.mpr rfl⟩

theorem columns_left_iff {fields : List Str} {columns : List Str} :
    (fields.filter fun c => columns.contains c).isEmpty = false ↔ ∃ c ∈ fields, c ∈ columns := by
  rw [List.isEmpty_eq_false_iff_exists_mem]
  simp only [List.mem_filter, List.contains_iff_mem]

theorem gridPost_gives_iff {download : GridDownload} {source' : Source} :
    Gives (DataGridDataView.post env download source') source ↔ source' = source ∧
      (∀ columns, download = some columns → source.data_grid_download_enabled = true) ∧
      ∃ c ∈ env.column_config source, ∀ columns, download = some columns → c ∈ columns := by
  cases download with
  | none =>
      have hne : (∃ c ∈ env.column_config source, ∀ columns : List Str,
          none = some columns → c ∈ columns) ↔ (env.column_config source).isEmpty = false := by
        rw [List.isEmpty_eq_false_iff_exists_mem]
        simp
      rw [hne]
      unfold DataGridDataView.post
      dsimp only
      constructor
      · intro h
        split at h
        next => exact absurd h not_gives_error
        next hcolumns =>
            obtain rfl := Option.some.inj (gives_ok.mp h)
            exact ⟨rfl, by simp, by simpa using hcolumns⟩
      · rintro ⟨rfl, -, hcolumns⟩
        rw [if_neg (by simp [hcolumns])]
        exact gives_ok.mpr rfl
  | some columns =>
      simp only [Option.some.injEq, forall_eq']
      rw [← columns_left_iff]
      unfold DataGridDataView.post
      dsimp only
      constructor
      · intro h
        split at h
        next henabled =>
            split at h
            next => exact absurd h not_gives_error
            next hcolumns =>
                obtain rfl := Option.some.inj (gives_ok.mp h)
                exact ⟨rfl, henabled, by simpa using hcolumns⟩
        next => exact absurd h not_gives_error
      · rintro ⟨rfl, henabled, hcolumns⟩
        rw [if_pos henabled, if_neg (Bool.eq_false_iff.mp hcolumns)]
        exact gives_ok.mpr rfl

theorem grid_gives_iff {method : Method} {download : GridDownload} {dataset_uuid : Str}
    {object : GridObject} :
    Gives (DataGridDataView.dispatch env s viewer method download dataset_uuid object) source ↔
      method = .POST ∧ DataGridDataView.get_object s viewer dataset_uuid object = some source ∧
        source.dataset.user_has_access viewer.user = some true ∧
        source.data_grid_enabled = true ∧
        (∀ columns, download = some columns → source.data_grid_download_enabled = true) ∧
        ∃ c ∈ env.column_config source, ∀ columns, download = some columns → c ∈ columns := by
  unfold DataGridDataView.dispatch
  rw [gives_bind]
  constructor
  · rintro ⟨source', hobject, hrest⟩
    obtain ⟨⟨⟩, haccess, hhandler⟩ := gives_bind.mp hrest
    split at hhandler
    next henabled =>
        cases method with
        | POST =>
            obtain ⟨rfl, hdownload, hcolumns⟩ := gridPost_gives_iff.mp hhandler
            exact ⟨rfl, get_object_or_404_eq_ok.mp hobject, requireAccess_eq_ok.mp haccess,
              henabled, hdownload, hcolumns⟩
        | OPTIONS => cases gives_ok.mp hhandler
        | GET => exact absurd hhandler not_gives_error
        | HEAD => exact absurd hhandler not_gives_error
        | PUT => exact absurd hhandler not_gives_error
        | DELETE => exact absurd hhandler not_gives_error
        | other => exact absurd hhandler not_gives_error
    next => exact absurd hhandler not_gives_error
  · rintro ⟨rfl, hobject, haccess, henabled, hpost⟩
    refine ⟨source, get_object_or_404_eq_ok.mpr hobject, gives_bind.mpr ⟨(),
      requireAccess_eq_ok.mpr haccess, ?_⟩⟩
    rw [if_pos henabled]
    exact gridPost_gives_iff.mpr ⟨rfl, hpost⟩

theorem grid_visible {dataset_uuid : Str} {object : GridObject}
    (h : DataGridDataView.get_object s viewer dataset_uuid object = some source) :
    Visible viewer source.dataset := by
  have hsees {d : Dataset} (hd : viewer.seesPublished d = true) : Visible viewer d := by
    rcases Bool.or_eq_true_iff.mp hd with hsuper | hpublished
    · exact .inr (.inl hsuper)
    · exact .inl hpublished
  cases object with
  | source_table object_id =>
      obtain ⟨t, ht, rfl⟩ := Option.map_eq_some_iff.mp h
      have hmatch := List.find?_some ht
      simp only [Bool.and_eq_true] at hmatch
      exact hsees hmatch.2
  | query object_id =>
      obtain ⟨q, hq, rfl⟩ := Option.map_eq_some_iff.mp h
      have hmatch := List.find?_some hq
      simp only [Bool.and_eq_true] at hmatch
      exact hsees hmatch.2

theorem visualisationPreview_gives_iff {dataset_uuid : Str} {object_id : Nat} :
    Gives (DatasetVisualisationPreview.get s viewer dataset_uuid object_id) source ↔
      ∃ d ∈ s.datasets, d.id = dataset_uuid ∧ d.user_has_access viewer.user = some true ∧
        ∃ v, (s.visualisations.find? fun v => v.dataset.id == d.id && v.id == object_id) = some v ∧
          v.query.getD [] ≠ [] ∧ source = .visualisation v := by
  unfold DatasetVisualisationPreview.get
  rw [gives_bind]
  constructor
  · rintro ⟨d, hd, hrest⟩
    obtain ⟨⟨⟩, haccess, hrows⟩ := gives_bind.mp hrest
    have hfound := get_object_or_404_eq_ok.mp hd
    split at hrows
    next => exact absurd hrows not_gives_error
    next v hv =>
        split at hrows
        next => cases gives_ok.mp hrows
        next hquery =>
            exact ⟨d, List.mem_of_find?_eq_some hfound, by simpa using List.find?_some hfound,
              requireAccess_eq_ok.mp haccess, v, hv, by simpa using hquery,
              (Option.some.inj (gives_ok.mp hrows)).symm⟩
  · rintro ⟨d, hd, rfl, haccess, v, hv, hquery, rfl⟩
    have hfound : s.datasets.find? (fun d' => d'.id == d.id) = some d := by
      cases hf : s.datasets.find? fun d' => d'.id == d.id with
      | none => simpa using List.find?_eq_none.mp hf d hd
      | some d' =>
          have hid : d'.id = d.id := by simpa using List.find?_some hf
          rw [dataset_eq (List.mem_of_find?_eq_some hf) hd hid]
    refine ⟨d, get_object_or_404_eq_ok.mpr hfound, gives_bind.mpr ⟨(),
      requireAccess_eq_ok.mpr haccess, ?_⟩⟩
    rw [hv]
    dsimp only
    rw [if_neg (by simpa using hquery)]
    exact gives_ok.mpr rfl

end Checks

/-! ## When nothing is given that may not be -/

/-- A request is given data only of sources that it may be given data of, exactly when the
checks that three of the views leave out hold anyway. -/
theorem given_only_if_allowed_iff (env : Environment) (s : Sources) (viewer : Viewer)
    (r : Request) :
    (∀ source, Gives (serve env s viewer r) source → Allowed viewer source) ↔
      Kept env s viewer r := by
  obtain ⟨url, method⟩ := r
  unfold serve Kept
  cases url with
  | dataset_source_link_download dataset_uuid source_link_id =>
      exact iff_of_true (fun source h => sourceLink_allowed (gives_onGet.mp h).2) trivial
  | dataset_source_view_download dataset_uuid source_id =>
      exact iff_of_true (fun source h => sourceView_allowed (gives_onGet.mp h).2) trivial
  | dataset_query_download dataset_uuid query_id =>
      exact iff_of_true (fun source h => query_allowed (gives_onGet.mp h).2) trivial
  | dataset_table_preview dataset_uuid table_uuid =>
      exact iff_of_true (fun source h =>
        preview_allowed (fun d source => tablePreview_data) (gives_onGet.mp h).2) trivial
  | dataset_query_preview dataset_uuid query_id =>
      exact iff_of_true (fun source h =>
        preview_allowed (fun d source => queryPreview_data) (gives_onGet.mp h).2) trivial
  | data_cut_preview dataset_uuid object =>
      simp only [dataCutPreview_gives_iff]
      constructor
      · intro h hmethod hflag source hobject haccess hreviewed hdata
        have hallowed := h source ⟨hmethod, hflag, hobject, haccess, hreviewed, hdata⟩
        exact ⟨hallowed.live, hallowed.visible⟩
      · rintro h source ⟨hmethod, hflag, hobject, haccess, hreviewed, hdata⟩
        obtain ⟨hlive, hvisible⟩ := h hmethod hflag source hobject haccess hreviewed hdata
        exact ⟨hlive, hvisible, haccess, hreviewed⟩
  | grid_data dataset_uuid object download =>
      simp only [grid_gives_iff]
      constructor
      · intro h hmethod source hobject haccess henabled hdownload hcolumns
        have hallowed := h source ⟨hmethod, hobject, haccess, henabled, hdownload, hcolumns⟩
        exact ⟨hallowed.live, hallowed.reviewed⟩
      · rintro h source ⟨hmethod, hobject, haccess, henabled, hdownload, hcolumns⟩
        obtain ⟨hlive, hreviewed⟩ := h hmethod source hobject haccess henabled hdownload hcolumns
        exact ⟨hlive, grid_visible hobject, haccess, hreviewed⟩
  | dataset_visualisation_preview dataset_uuid object_id =>
      simp only [gives_onGet, visualisationPreview_gives_iff]
      constructor
      · intro h hmethod d hd hid haccess v hv hquery
        have hallowed := h _ ⟨hmethod, d, hd, hid, haccess, v, hv, hquery, rfl⟩
        have hmatch := List.find?_some hv
        simp only [Bool.and_eq_true, beq_iff_eq] at hmatch
        have hmem := s.visualisation_dataset v (List.mem_of_find?_eq_some hv)
        obtain rfl := dataset_eq hmem hd hmatch.1
        exact ⟨hallowed.live, hallowed.visible⟩
      · rintro h source ⟨hmethod, d, hd, hid, haccess, v, hv, hquery, rfl⟩
        have hmatch := List.find?_some hv
        simp only [Bool.and_eq_true, beq_iff_eq] at hmatch
        have hmem := s.visualisation_dataset v (List.mem_of_find?_eq_some hv)
        obtain rfl := dataset_eq hmem hd hmatch.1
        obtain ⟨hlive, hvisible⟩ := h hmethod _ hd hid haccess v hv hquery
        exact ⟨hlive, hvisible, haccess, trivial⟩

/-! ## What is given nevertheless -/

namespace Draft

/-- A data cut that every user has access to. -/
def dataset (published deleted : Bool) : Dataset where
  id := "d"
  name := "Trade"
  user_access_type := .REQUIRES_AUTHENTICATION
  authorized_email_domains := []
  deleted := deleted
  published := published
  user_permissions := []
  type := .DATACUT

def query (d : Dataset) (reviewed : Bool) : CustomDatasetQuery :=
  ⟨1, d, "datasets", "SELECT 1", reviewed, true⟩

def visualisation (d : Dataset) : DataSetVisualisation := ⟨1, d, "datasets", some "SELECT 1"⟩

def sources (d : Dataset) (reviewed : Bool) : Sources where
  datasets := [d]
  links := []
  views := []
  tables := []
  queries := [query d reviewed]
  visualisations := [visualisation d]
  unique := List.nodup_singleton _
  link_dataset l hl := absurd hl List.not_mem_nil
  view_dataset v hv := absurd hv List.not_mem_nil
  table_dataset t ht := absurd ht List.not_mem_nil
  query_dataset q hq := by
    rw [List.mem_singleton.mp hq]
    exact List.mem_singleton_self _
  visualisation_dataset v hv := by
    rw [List.mem_singleton.mp hv]
    exact List.mem_singleton_self _

def environment : Environment where
  get_object _ := .ok ()
  view_exists _ _ _ := true
  columns _ := ["n"]
  column_config _ := ["n"]
  data_cut_preview_flag _ := true

/-- A user without any permission. -/
def viewer : Viewer := ⟨⟨1, "ann@trade.gov.uk", false⟩, fun _ => false⟩

end Draft

open Draft in
/-- A user without any permission is given rows of a reviewed query of an unpublished dataset,
of a query that is not reviewed, and of a visualisation of a deleted dataset. -/
theorem given_though_not_allowed :
    (serve environment (sources (dataset false false) true) viewer
        ⟨.data_cut_preview "d" (.query 1), .GET⟩ =
          .ok (.rows (.query (query (dataset false false) true))) ∧
      ¬ Allowed viewer (.query (query (dataset false false) true))) ∧
    (serve environment (sources (dataset true false) false) viewer
        ⟨.grid_data "d" (.query 1) none, .POST⟩ =
          .ok (.rows (.query (query (dataset true false) false))) ∧
      ¬ Allowed viewer (.query (query (dataset true false) false))) ∧
    (serve environment (sources (dataset true true) true) viewer
        ⟨.dataset_visualisation_preview "d" 1, .GET⟩ =
          .ok (.rows (.visualisation (visualisation (dataset true true)))) ∧
      ¬ Allowed viewer (.visualisation (visualisation (dataset true true)))) := by
  refine ⟨⟨by rfl, fun h => ?_⟩, ⟨by rfl, fun h => ?_⟩, by rfl, fun h => ?_⟩
  · have hvisible : false = true ∨ false = true ∨ false = true := h.visible
    simp at hvisible
  · have hreviewed : false = true ∨ false = true := h.reviewed
    simp at hreviewed
  · have hlive : true = false := h.live
    cases hlive

end Datasets
