import DataWorkspace.Async.Machine
import DataWorkspace.FileBrowser.Listing
import DataWorkspace.Py.Split

/-!
# What the file browser shows

Each navigation and each refresh sends a request for a listing, and each response that arrives is
shown.  So the browser shows the first thousand entries of the prefix of the response that has
arrived last (`Kept`), which need not be the prefix of the breadcrumbs, nor all of it
(`shows_iff`).
-/

namespace FileBrowser

namespace View

open Py Async

/-! ## What the code does -/

/-- The settings: the folder that is home, and the name of one in it, each with a slash. -/
structure Config where
  Prefix : Str
  bigdataPrefix : Str
  home : Prefix.getLast? = some '/'
  bigdata : ∃ name, '/' ∉ name ∧ bigdataPrefix = name ++ "/"

structure Breadcrumb where
  Prefix : Str
  label : Str
deriving DecidableEq

/-- The scope of `ViewController`, and the requests that it has sent, with the numbers of those
that have been answered or have failed. -/
structure Scope where
  currentPrefix : Str
  breadcrumbs : List Breadcrumb
  bigdata : Option Str
  prefixes : List Str
  /-- The keys, and `isCsv`. -/
  objects : List (Key × Bool)
  initialising : Bool
  inBigdata : Bool
  requests : List Str
  arrived : List Nat
  failed : List Nat
  errors : List (Str × Failure)

/-- The entries of a response: there are at most a thousand. -/
def listObjectsV2 (contents : List Key) (Prefix : Str) : List Entry :=
  (entries contents Prefix).take 1000

variable (config : Config) (contents : List Key)

/-- The breadcrumbs for all labels but the last one. -/
def crumbs : Str → List Str → List Breadcrumb
  | Prefix, label :: label' :: labels =>
      ⟨Prefix ++ label ++ "/", label⟩ :: crumbs (Prefix ++ label ++ "/") (label' :: labels)
  | _, _ => []

def setBreadcrumbs (currentPrefix : Str) : List Breadcrumb :=
  ⟨config.Prefix, "home"⟩ ::
    crumbs config.Prefix ((currentPrefix.drop config.Prefix.length).splitOn '/')

def Config.bigdataFolder : Str := config.Prefix ++ config.bigdataPrefix

/-- `listObjects`, up to where it waits. -/
def Scope.listObjects (s : Scope) : Scope :=
  { s with requests := s.requests ++ [s.currentPrefix] }

/-- `listObjects`, from the response on. -/
def Scope.show (s : Scope) (Prefix : Str) (response : List Entry) : Scope :=
  { s with
    bigdata := if Prefix = config.Prefix then some config.bigdataFolder else none
    prefixes := (response.filterMap Entry.folder?).filter (· ≠ config.bigdataFolder)
    objects := ((response.filterMap Entry.file?).filter (· ≠ Prefix)).map fun key =>
      (key, endswith key "csv")
    initialising := false
    inBigdata := startswith s.currentPrefix config.bigdataFolder }

/-- The controller at its start. -/
def Config.start : Scope :=
  Scope.listObjects
    { currentPrefix := config.Prefix
      breadcrumbs := setBreadcrumbs config config.Prefix
      bigdata := none
      prefixes := []
      objects := []
      initialising := true
      inBigdata := false
      requests := []
      arrived := []
      failed := []
      errors := [] }

/-- The user goes to a prefix or asks for a refresh, and a request is answered or fails. -/
inductive Action where
  | setCurrentPrefix (Prefix : Str)
  | listObjects
  | respond (request : Nat)
  | fail (request : Nat) (err : Failure)

/-- The prefixes that the page has links to. -/
def Scope.links (s : Scope) : List Str :=
  s.breadcrumbs.map Breadcrumb.Prefix ++ s.bigdata.toList ++ s.prefixes

/-- The prefix of a request that is not settled. -/
def Scope.awaited (s : Scope) (request : Nat) : Option Str :=
  if request ∈ s.arrived ∨ request ∈ s.failed then none else s.requests[request]?

def Scope.step (s : Scope) : Action → Option Scope
  | .setCurrentPrefix Prefix =>
      if Prefix ∈ s.links then
        let s := { s with currentPrefix := Prefix }.listObjects
        some { s with breadcrumbs := setBreadcrumbs config Prefix }
      else none
  | .listObjects => some s.listObjects
  | .respond request => (s.awaited request).map fun Prefix =>
      let s := s.show config Prefix (listObjectsV2 contents Prefix)
      { s with arrived := s.arrived ++ [request] }
  | .fail request err => (s.awaited request).map fun Prefix =>
      { s with failed := s.failed ++ [request], errors := s.errors ++ [(Prefix, err)] }

def Config.machine : Machine Scope Action := ⟨Scope.step config contents⟩

/-! ## What is expected -/

/-- The folders and files directly under the prefix that the breadcrumbs name.  There is always a
folder for big data at home, and the key of a folder is no file in it. -/
structure Shows (s : Scope) (Prefix : Str) : Prop where
  named : s.breadcrumbs.getLast?.map Breadcrumb.Prefix = some Prefix
  folders : ∀ folder, folder ∈ s.prefixes ∨ s.bigdata = some folder ↔
    .CommonPrefix folder ∈ entries contents Prefix ∨
      Prefix = config.Prefix ∧ folder = config.bigdataFolder
  files : ∀ key, key ∈ s.objects.map Prod.fst ↔
    .Object key ∈ entries contents Prefix ∧ key ≠ Prefix

/-- The prefix of the response that has arrived last. -/
def Scope.last (s : Scope) : Option Str :=
  s.arrived.getLast?.bind fun request => s.requests[request]?

/-- An entry that has no row of its own. -/
def Hidden (Prefix : Str) (entry : Entry) : Prop :=
  entry = .Object Prefix ∨ entry = .CommonPrefix config.bigdataFolder

/-- The last response is one for the current prefix, and all that it leaves out is hidden.  Or it
is one for another prefix, and both have nothing to show. -/
def Fresh (s : Scope) : Prop :=
  ∃ Prefix, s.last = some Prefix ∧
    (Prefix = s.currentPrefix ∧ (∀ entry ∈ (entries contents Prefix).drop 1000,
        Hidden config Prefix entry) ∨
      Prefix ≠ s.currentPrefix ∧ Prefix ≠ config.Prefix ∧ s.currentPrefix ≠ config.Prefix ∧
        (∀ entry ∈ listObjectsV2 contents Prefix, Hidden config Prefix entry) ∧
        ∀ entry ∈ entries contents s.currentPrefix, Hidden config s.currentPrefix entry)

/-! ## Folders -/

section Folders

variable {config contents}

/-- A prefix that the user can get to. -/
structure Folder (config : Config) (Prefix : Str) : Prop where
  under : config.Prefix <+: Prefix
  slash : Prefix.getLast? = some '/'

theorem Folder.home : Folder config config.Prefix := ⟨List.prefix_rfl, config.home⟩

theorem Folder.child {Prefix name : Str} (h : config.Prefix <+: Prefix) :
    Folder config (Prefix ++ name ++ "/") where
  under := by
    rw [List.append_assoc]
    exact h.trans (List.prefix_append _ _)
  slash := List.getLast?_concat

theorem Folder.bigdata : Folder config config.bigdataFolder := by
  obtain ⟨name, _, hname⟩ := config.bigdata
  rw [Config.bigdataFolder, hname, ← List.append_assoc]
  exact .child List.prefix_rfl

theorem eq_of_names {Prefix Prefix' name name' : Str} (hslash : Prefix.getLast? = some '/')
    (hslash' : Prefix'.getLast? = some '/') (hname : '/' ∉ name) (hname' : '/' ∉ name')
    (h : Prefix ++ name = Prefix' ++ name') : Prefix = Prefix' := by
  have hreverse : name.reverse ++ Prefix.reverse = name'.reverse ++ Prefix'.reverse := by
    rw [← List.reverse_append, ← List.reverse_append, h]
  obtain ⟨rest, hrest⟩ := List.getLast?_eq_some_iff.mp hslash
  obtain ⟨rest', hrest'⟩ := List.getLast?_eq_some_iff.mp hslash'
  subst hrest hrest'
  simp only [List.reverse_append, List.reverse_singleton, List.singleton_append] at hreverse
  have hnames := eq_of_slash (by simpa using hname) (by simpa using hname') hreverse
  rw [List.reverse_inj.mp hnames] at h
  exact List.append_cancel_right h

theorem splitOn_slash {label rest : Str} (h : '/' ∉ label) :
    (label ++ '/' :: rest).splitOn '/' = label :: rest.splitOn '/' := by
  induction label with
  | nil =>
      rw [List.nil_append, List.splitOn_cons_eq_if_modifyHead, if_pos (by simp)]
  | cons c label ih =>
      have hc : c ≠ '/' := fun heq => h (heq ▸ List.mem_cons_self)
      rw [List.cons_append, List.splitOn_cons_eq_if_modifyHead, if_neg (by simpa using hc),
        ih fun hmem => h (List.mem_cons_of_mem _ hmem)]
      rfl

theorem crumbs_cons {Prefix label : Str} {labels : List Str} (h : labels ≠ []) :
    crumbs Prefix (label :: labels) =
      ⟨Prefix ++ label ++ "/", label⟩ :: crumbs (Prefix ++ label ++ "/") labels := by
  obtain ⟨label', labels, rfl⟩ := List.exists_cons_of_ne_nil h
  rw [crumbs]

theorem getLast?_behind {c : Char} (text rest : Str) (h : (text ++ rest).getLast? = some c) :
    rest = [] ∨ rest.getLast? = some c := by
  cases rest with
  | nil => exact .inl rfl
  | cons d rest =>
      rw [List.getLast?_append_of_ne_nil _ (List.cons_ne_nil d rest)] at h
      exact .inr h

theorem getLast?_crumbs (rest Prefix label : Str) (h : rest = [] ∨ rest.getLast? = some '/') :
    ((⟨Prefix, label⟩ : Breadcrumb) :: crumbs Prefix (rest.splitOn '/')).getLast?.map
      Breadcrumb.Prefix = some (Prefix ++ rest) := by
  rcases h with rfl | h
  · simp [crumbs]
  · obtain ⟨label', rest', hrest, hlabel⟩ :=
      List.eq_append_cons_of_mem (List.mem_of_getLast? h)
    subst hrest
    have hrest' : rest' = [] ∨ rest'.getLast? = some '/' :=
      getLast?_behind (label' ++ ['/']) rest' (by simpa using h)
    have ih := getLast?_crumbs rest' (Prefix ++ label' ++ "/") label' hrest'
    rw [splitOn_slash hlabel, crumbs_cons (List.splitOn_ne_nil _ _), List.getLast?_cons_cons, ih]
    simp
termination_by rest.length

theorem folder_of_crumbs : ∀ {labels : List Str} {Prefix : Str} {crumb : Breadcrumb},
    config.Prefix <+: Prefix → crumb ∈ crumbs Prefix labels → Folder config crumb.Prefix
  | [], _, _, _, h => by simp [crumbs] at h
  | [_], _, _, _, h => by simp [crumbs] at h
  | label :: label' :: labels, Prefix, crumb, hunder, h => by
      have hchild : Folder config (Prefix ++ label ++ "/") := .child hunder
      rw [crumbs] at h
      rcases List.mem_cons.mp h with rfl | h
      · exact hchild
      · exact folder_of_crumbs hchild.under h

theorem named_setBreadcrumbs {Prefix : Str} (h : Folder config Prefix) :
    (setBreadcrumbs config Prefix).getLast?.map Breadcrumb.Prefix = some Prefix := by
  obtain ⟨⟨rest, rfl⟩, hslash⟩ := h
  rw [setBreadcrumbs, List.drop_left]
  exact getLast?_crumbs rest config.Prefix "home" (getLast?_behind _ rest hslash)

theorem folder_of_entry {Prefix folder : Str} (hPrefix : Folder config Prefix)
    (h : .CommonPrefix folder ∈ entries contents Prefix) : Folder config folder := by
  obtain ⟨name, _, rfl⟩ := folder_shape h
  exact .child hPrefix.under

end Folders

/-! ## The invariant -/

section Invariant

variable {config contents} {s s' : Scope}

theorem mem_listObjectsV2 {Prefix : Str} {entry : Entry}
    (h : entry ∈ listObjectsV2 contents Prefix) : entry ∈ entries contents Prefix :=
  List.mem_of_mem_take h

theorem mem_folders {response : List Entry} {folder : Str} :
    folder ∈ response.filterMap Entry.folder? ↔ .CommonPrefix folder ∈ response := by
  rw [List.mem_filterMap]
  constructor
  · rintro ⟨entry, hentry, h⟩
    cases entry with
    | CommonPrefix folder' => cases h; exact hentry
    | Object key => cases h
  · exact fun h => ⟨_, h, rfl⟩

theorem mem_files {response : List Entry} {key : Key} :
    key ∈ response.filterMap Entry.file? ↔ .Object key ∈ response := by
  rw [List.mem_filterMap]
  constructor
  · rintro ⟨entry, hentry, h⟩
    cases entry with
    | CommonPrefix folder => cases h
    | Object key' => cases h; exact hentry
  · exact fun h => ⟨_, h, rfl⟩

/-- What is shown is the response for the prefix. -/
structure Kept (config : Config) (contents : List Key) (s : Scope) (Prefix : Str) : Prop where
  last : s.last = some Prefix
  bigdata : s.bigdata = if Prefix = config.Prefix then some config.bigdataFolder else none
  prefixes : ∀ folder, folder ∈ s.prefixes ↔
    .CommonPrefix folder ∈ listObjectsV2 contents Prefix ∧ folder ≠ config.bigdataFolder
  objects : ∀ key, key ∈ s.objects.map Prod.fst ↔
    .Object key ∈ listObjectsV2 contents Prefix ∧ key ≠ Prefix

structure Inv (config : Config) (contents : List Key) (s : Scope) : Prop where
  current : Folder config s.currentPrefix
  breadcrumbs : s.breadcrumbs = setBreadcrumbs config s.currentPrefix
  requests : s.requests ≠ [] ∧ ∀ Prefix ∈ s.requests, Folder config Prefix
  arrived : ∀ request ∈ s.arrived, request < s.requests.length
  shown : (s.arrived = [] ∧ s.bigdata = none ∧ s.prefixes = []) ∨
    ∃ Prefix, Folder config Prefix ∧ Kept config contents s Prefix

variable (config contents) in
theorem Inv.start : Inv config contents config.start where
  current := .home
  breadcrumbs := rfl
  requests := by
    refine ⟨List.cons_ne_nil _ _, fun Prefix h => ?_⟩
    obtain rfl := List.mem_singleton.mp h
    exact .home
  arrived _ h := by cases h
  shown := .inl ⟨rfl, rfl, rfl⟩

theorem Inv.links (h : Inv config contents s) {Prefix : Str} (hlink : Prefix ∈ s.links) :
    Folder config Prefix := by
  have hcrumbs : Prefix ∈ s.breadcrumbs.map Breadcrumb.Prefix → Folder config Prefix := by
    intro hmem
    obtain ⟨crumb, hcrumb, rfl⟩ := List.mem_map.mp hmem
    rw [h.breadcrumbs, setBreadcrumbs] at hcrumb
    rcases List.mem_cons.mp hcrumb with rfl | hcrumb
    · exact .home
    · exact folder_of_crumbs List.prefix_rfl hcrumb
  rw [Scope.links, List.append_assoc, List.mem_append] at hlink
  rcases hlink with hcrumb | hrow
  · exact hcrumbs hcrumb
  · rcases h.shown with ⟨_, hbigdata, hprefixes⟩ | ⟨shown, hshown, hkept⟩
    · rw [hbigdata, hprefixes] at hrow
      cases hrow
    · rcases List.mem_append.mp hrow with hbigdata | hprefix
      · rw [hkept.bigdata] at hbigdata
        split at hbigdata
        next =>
            obtain rfl := List.mem_singleton.mp hbigdata
            exact .bigdata
        next => cases hbigdata
      · exact folder_of_entry hshown (mem_listObjectsV2 ((hkept.prefixes Prefix).mp hprefix).1)

theorem last_listObjects (h : ∀ request ∈ s.arrived, request < s.requests.length) (Prefix : Str) :
    (s.arrived.getLast?.bind fun request => (s.requests ++ [Prefix])[request]?) = s.last := by
  rw [Scope.last]
  cases hlast : s.arrived.getLast? with
  | none => rfl
  | some request =>
      exact List.getElem?_append_left (h request (List.mem_of_getLast? hlast))

theorem Inv.request (h : Inv config contents s) {Prefix : Str} (hPrefix : Folder config Prefix) :
    Inv config contents
      { s with
        currentPrefix := Prefix
        requests := s.requests ++ [Prefix]
        breadcrumbs := setBreadcrumbs config Prefix } where
  current := hPrefix
  breadcrumbs := rfl
  requests := by
    refine ⟨by simp, fun Prefix' hmem => ?_⟩
    rcases List.mem_append.mp hmem with hmem | hmem
    · exact h.requests.2 Prefix' hmem
    · obtain rfl := List.mem_singleton.mp hmem
      exact hPrefix
  arrived request hmem := by
    have hlt := h.arrived request hmem
    simp only [List.length_append]
    omega
  shown := by
    refine h.shown.imp_right fun ⟨shown, hshown, hkept⟩ => ⟨shown, hshown, ?_⟩
    exact ⟨(last_listObjects h.arrived Prefix).trans hkept.last, hkept.bigdata, hkept.prefixes,
      hkept.objects⟩

theorem awaited_some {request : Nat} {Prefix : Str} (h : s.awaited request = some Prefix) :
    s.requests[request]? = some Prefix := by
  rw [Scope.awaited] at h
  split at h
  next => cases h
  next => exact h

theorem Inv.step (h : Inv config contents s) {a : Action}
    (hstep : s.step config contents a = some s') : Inv config contents s' := by
  cases a with
  | setCurrentPrefix Prefix =>
      rw [Scope.step] at hstep
      split at hstep
      next hlink =>
          cases hstep
          exact h.request (h.links hlink)
      next => cases hstep
  | listObjects =>
      cases hstep
      have hrequest := h.request h.current
      rw [← h.breadcrumbs] at hrequest
      exact hrequest
  | respond request =>
      obtain ⟨Prefix, hawaited, rfl⟩ := Option.map_eq_some_iff.mp hstep
      have hget := awaited_some hawaited
      obtain ⟨hlt, hPrefix⟩ := List.getElem?_eq_some_iff.mp hget
      refine ⟨h.current, h.breadcrumbs, h.requests, fun request' hmem => ?_, .inr ⟨Prefix, ?_, ?_⟩⟩
      · rcases List.mem_append.mp hmem with hmem | hmem
        · exact h.arrived request' hmem
        · obtain rfl := List.mem_singleton.mp hmem
          exact hlt
      · exact h.requests.2 Prefix (hPrefix ▸ List.getElem_mem hlt)
      · refine ⟨?_, rfl, fun folder => ?_, fun key => ?_⟩
        · simpa [Scope.last, Scope.show] using hget
        · show folder ∈ (_ : List Str).filter _ ↔ _
          rw [List.mem_filter, mem_folders, decide_eq_true_iff]
        · show key ∈ (((_ : List Key).filter _).map _).map _ ↔ _
          rw [List.map_map, List.map_id'', List.mem_filter, mem_files, decide_eq_true_iff]
          exact fun _ => rfl
  | fail request err =>
      obtain ⟨Prefix, hawaited, rfl⟩ := Option.map_eq_some_iff.mp hstep
      refine ⟨h.current, h.breadcrumbs, h.requests, h.arrived, ?_⟩
      exact h.shown.imp_right fun ⟨shown, hshown, hkept⟩ =>
        ⟨shown, hshown, hkept.last, hkept.bigdata, hkept.prefixes, hkept.objects⟩

end Invariant

/-! ## When it is what is expected -/

section Shown

variable {config contents} {s : Scope} {Prefix : Str}

/-- The folders that are expected at a prefix. -/
def FolderAt (config : Config) (contents : List Key) (Prefix folder : Str) : Prop :=
  .CommonPrefix folder ∈ entries contents Prefix ∨
    Prefix = config.Prefix ∧ folder = config.bigdataFolder

theorem name_of_folderAt {folder : Str} (h : FolderAt config contents Prefix folder) :
    ∃ name, '/' ∉ name ∧ folder = Prefix ++ name ++ "/" := by
  rcases h with hentry | ⟨rfl, rfl⟩
  · exact folder_shape hentry
  · obtain ⟨name, hname, hbigdata⟩ := config.bigdata
    exact ⟨name, hname, by rw [Config.bigdataFolder, hbigdata, ← List.append_assoc]⟩

theorem folderAt_unique {Prefix' folder : Str} (hPrefix : Folder config Prefix)
    (hPrefix' : Folder config Prefix') (h : FolderAt config contents Prefix folder)
    (h' : FolderAt config contents Prefix' folder) : Prefix = Prefix' := by
  obtain ⟨name, hname, hfolder⟩ := name_of_folderAt h
  obtain ⟨name', hname', hfolder'⟩ := name_of_folderAt h'
  have heq : Prefix ++ name = Prefix' ++ name' :=
    List.append_cancel_right (hfolder.symm.trans hfolder')
  exact eq_of_names hPrefix.slash hPrefix'.slash hname hname' heq

theorem file_unique {Prefix' : Str} {key : Key} (hPrefix : Folder config Prefix)
    (hPrefix' : Folder config Prefix') (h : .Object key ∈ entries contents Prefix)
    (h' : .Object key ∈ entries contents Prefix') : Prefix = Prefix' := by
  obtain ⟨_, name, hname, hkey⟩ := file_shape h
  obtain ⟨_, name', hname', hkey'⟩ := file_shape h'
  exact eq_of_names hPrefix.slash hPrefix'.slash hname hname' (hkey.symm.trans hkey')

theorem home_of_bigdata (hPrefix : Folder config Prefix)
    (h : .CommonPrefix config.bigdataFolder ∈ entries contents Prefix) : Prefix = config.Prefix :=
  folderAt_unique hPrefix .home (.inl h) (.inr ⟨rfl, rfl⟩)

theorem Kept.folder_iff (h : Kept config contents s Prefix) (folder : Str) :
    folder ∈ s.prefixes ∨ s.bigdata = some folder ↔
      .CommonPrefix folder ∈ listObjectsV2 contents Prefix ∧ folder ≠ config.bigdataFolder ∨
        Prefix = config.Prefix ∧ folder = config.bigdataFolder := by
  rw [h.prefixes, h.bigdata]
  refine or_congr_right ?_
  by_cases hhome : Prefix = config.Prefix
  · simp [hhome, eq_comm]
  · simp [hhome]

theorem Kept.folderAt (h : Kept config contents s Prefix) {folder : Str}
    (hfolder : folder ∈ s.prefixes ∨ s.bigdata = some folder) :
    FolderAt config contents Prefix folder :=
  ((h.folder_iff folder).mp hfolder).imp_left fun hmem => mem_listObjectsV2 hmem.1

theorem take_or_drop {entry : Entry} (h : entry ∈ entries contents Prefix) :
    entry ∈ listObjectsV2 contents Prefix ∨ entry ∈ (entries contents Prefix).drop 1000 := by
  rw [← List.take_append_drop 1000 (entries contents Prefix)] at h
  exact List.mem_append.mp h

theorem not_take_and_drop {entry : Entry} (h : entry ∈ listObjectsV2 contents Prefix)
    (h' : entry ∈ (entries contents Prefix).drop 1000) : False := by
  have hnodup : (entries contents Prefix).Nodup := List.nodup_dedup _
  rw [← List.take_append_drop 1000 (entries contents Prefix)] at hnodup
  exact (List.nodup_append.mp hnodup).2.2 entry h entry h' rfl

theorem Kept.hidden_of_shows (hkept : Kept config contents s Prefix)
    (hshows : Shows config contents s Prefix) :
    ∀ entry ∈ (entries contents Prefix).drop 1000, Hidden config Prefix entry := by
  intro entry hdrop
  have hentry := List.mem_of_mem_drop hdrop
  cases entry with
  | CommonPrefix folder =>
      have hrow := (hkept.folder_iff folder).mp ((hshows.folders folder).mpr (.inl hentry))
      rcases hrow with ⟨htake, _⟩ | ⟨_, rfl⟩
      · exact (not_take_and_drop htake hdrop).elim
      · exact .inr rfl
  | Object key =>
      by_cases hkey : key = Prefix
      · exact .inl (congrArg _ hkey)
      · have hrow := (hkept.objects key).mp ((hshows.files key).mpr ⟨hentry, hkey⟩)
        exact (not_take_and_drop hrow.1 hdrop).elim

theorem Kept.shows_of_hidden (hkept : Kept config contents s Prefix)
    (hPrefix : Folder config Prefix)
    (hnamed : s.breadcrumbs.getLast?.map Breadcrumb.Prefix = some Prefix)
    (hhidden : ∀ entry ∈ (entries contents Prefix).drop 1000, Hidden config Prefix entry) :
    Shows config contents s Prefix where
  named := hnamed
  folders folder := by
    refine ⟨hkept.folderAt, fun hfolder => (hkept.folder_iff folder).mpr ?_⟩
    rcases hfolder with hentry | hhome
    · by_cases hbigdata : folder = config.bigdataFolder
      · subst hbigdata
        exact .inr ⟨home_of_bigdata hPrefix hentry, rfl⟩
      · rcases take_or_drop hentry with htake | hdrop
        · exact .inl ⟨htake, hbigdata⟩
        · rcases hhidden _ hdrop with h | h
          · cases h
          · exact absurd (Entry.CommonPrefix.inj h) hbigdata
    · exact .inr hhome
  files key := by
    rw [hkept.objects]
    refine and_congr_left fun hkey => ⟨mem_listObjectsV2, fun hentry => ?_⟩
    rcases take_or_drop hentry with htake | hdrop
    · exact htake
    · rcases hhidden _ hdrop with h | h
      · exact absurd (Entry.Object.inj h) hkey
      · cases h

variable {current : Str}

theorem Kept.bare_of_shows (hkept : Kept config contents s Prefix) (hPrefix : Folder config Prefix)
    (hcurrent : Folder config current) (hne : Prefix ≠ current)
    (hshows : Shows config contents s current) :
    Prefix ≠ config.Prefix ∧ current ≠ config.Prefix ∧
      (∀ entry ∈ listObjectsV2 contents Prefix, Hidden config Prefix entry) ∧
        ∀ entry ∈ entries contents current, Hidden config current entry := by
  have hnone {folder : Str} (h : FolderAt config contents Prefix folder)
      (h' : FolderAt config contents current folder) : False :=
    hne (folderAt_unique hPrefix hcurrent h h')
  have hshown {folder : Str} (h : FolderAt config contents current folder) : False :=
    hnone (hkept.folderAt ((hshows.folders folder).mpr h)) h
  refine ⟨fun hhome => ?_, fun hhome => hshown (.inr ⟨hhome, rfl⟩), fun entry hentry => ?_,
    fun entry hentry => ?_⟩
  · have hrow := (hkept.folder_iff config.bigdataFolder).mpr (.inr ⟨hhome, rfl⟩)
    exact hnone (hkept.folderAt hrow) ((hshows.folders _).mp hrow)
  · cases entry with
    | CommonPrefix folder =>
        by_cases hbigdata : folder = config.bigdataFolder
        · exact .inr (congrArg _ hbigdata)
        · have hrow := (hkept.folder_iff folder).mpr (.inl ⟨hentry, hbigdata⟩)
          exact (hnone (hkept.folderAt hrow) ((hshows.folders _).mp hrow)).elim
    | Object key =>
        by_cases hkey : key = Prefix
        · exact .inl (congrArg _ hkey)
        · have hrow := (hshows.files key).mp ((hkept.objects key).mpr ⟨hentry, hkey⟩)
          exact (hne (file_unique hPrefix hcurrent (mem_listObjectsV2 hentry) hrow.1)).elim
  · cases entry with
    | CommonPrefix folder => exact (hshown (.inl hentry)).elim
    | Object key =>
        by_cases hkey : key = current
        · exact .inl (congrArg _ hkey)
        · have hrow := (hkept.objects key).mp ((hshows.files key).mpr ⟨hentry, hkey⟩)
          exact (hne (file_unique hPrefix hcurrent (mem_listObjectsV2 hrow.1) hentry)).elim

theorem Kept.shows_of_bare (hkept : Kept config contents s Prefix)
    (hcurrent : Folder config current)
    (hnamed : s.breadcrumbs.getLast?.map Breadcrumb.Prefix = some current)
    (hhome : Prefix ≠ config.Prefix) (hhome' : current ≠ config.Prefix)
    (hbare : ∀ entry ∈ listObjectsV2 contents Prefix, Hidden config Prefix entry)
    (hbare' : ∀ entry ∈ entries contents current, Hidden config current entry) :
    Shows config contents s current where
  named := hnamed
  folders folder := by
    rw [hkept.folder_iff]
    refine iff_of_false ?_ ?_
    · rintro (⟨hentry, hne⟩ | ⟨h, _⟩)
      · rcases hbare _ hentry with h | h
        · cases h
        · exact hne (Entry.CommonPrefix.inj h)
      · exact hhome h
    · rintro (hentry | ⟨h, _⟩)
      · rcases hbare' _ hentry with h | h
        · cases h
        · rw [Entry.CommonPrefix.inj h] at hentry
          exact hhome' (home_of_bigdata hcurrent hentry)
      · exact hhome' h
  files key := by
    rw [hkept.objects]
    refine iff_of_false ?_ ?_
    · rintro ⟨hentry, hne⟩
      rcases hbare _ hentry with h | h
      · exact hne (Entry.Object.inj h)
      · cases h
    · rintro ⟨hentry, hne⟩
      rcases hbare' _ hentry with h | h
      · exact hne (Entry.Object.inj h)
      · cases h

end Shown

/-- Once every response has arrived, the browser shows what is under the prefix of the breadcrumbs
exactly if the last response is fresh. -/
theorem shows_iff {config : Config} {contents : List Key} {actions : List Action} {s : Scope}
    (h : (config.machine contents).after config.start actions = some s)
    (harrived : ∀ request < s.requests.length, request ∈ s.arrived) :
    (∃ Prefix, Shows config contents s Prefix) ↔ Fresh config contents s := by
  have hinv : Inv config contents s :=
    Machine.after_invariant (P := Inv config contents) (fun hs hstep => hs.step hstep)
      (Inv.start config contents) h
  have hfirst := harrived 0 (List.length_pos_iff.mpr hinv.requests.1)
  obtain ⟨Prefix, hPrefix, hkept⟩ := hinv.shown.resolve_left fun hnone => by
    rw [hnone.1] at hfirst
    cases hfirst
  have hnamed : s.breadcrumbs.getLast?.map Breadcrumb.Prefix = some s.currentPrefix := by
    rw [hinv.breadcrumbs]
    exact named_setBreadcrumbs hinv.current
  constructor
  · rintro ⟨current, hshows⟩
    obtain rfl : s.currentPrefix = current :=
      Option.some.inj (hnamed.symm.trans hshows.named)
    refine ⟨Prefix, hkept.last, ?_⟩
    by_cases heq : Prefix = s.currentPrefix
    · rw [← heq] at hshows
      exact .inl ⟨heq, hkept.hidden_of_shows hshows⟩
    · exact .inr ⟨heq, hkept.bare_of_shows hPrefix hinv.current heq hshows⟩
  · rintro ⟨Prefix', hlast, hfresh⟩
    obtain rfl : Prefix = Prefix' := Option.some.inj (hkept.last.symm.trans hlast)
    refine ⟨s.currentPrefix, ?_⟩
    rcases hfresh with ⟨heq, hhidden⟩ | ⟨_, hhome, hhome', hbare, hbare'⟩
    · rw [← heq] at hnamed ⊢
      exact hkept.shows_of_hidden hPrefix hnamed hhidden
    · exact hkept.shows_of_bare hinv.current hnamed hhome hhome' hbare hbare'

/-! ## A folder and a file -/

def userConfig : Config where
  Prefix := "user/"
  bigdataPrefix := "bigdata/"
  home := by decide
  bigdata := ⟨"bigdata", by decide, by decide⟩

def twoKeys : List Key := ["user/a/x", "user/b"]

/-- The user goes to the folder when home is shown. -/
def there : List Action := [.respond 0, .setCurrentPrefix "user/a/", .respond 1]

def folderShown : Scope where
  currentPrefix := "user/a/"
  breadcrumbs := [⟨"user/", "home"⟩, ⟨"user/a/", "a"⟩]
  bigdata := none
  prefixes := []
  objects := [("user/a/x", false)]
  initialising := false
  inBigdata := false
  requests := ["user/", "user/a/"]
  arrived := [0, 1]
  failed := []
  errors := []

theorem shows_folder : ∃ Prefix, Shows userConfig twoKeys folderShown Prefix := by
  have hrun : (userConfig.machine twoKeys).after userConfig.start there = some folderShown := rfl
  have hnone : (entries twoKeys "user/a/").drop 1000 = [] := rfl
  refine (shows_iff hrun (by decide)).mpr ⟨"user/a/", rfl, .inl ⟨rfl, fun entry h => ?_⟩⟩
  rw [hnone] at h
  cases h

/-- The user goes there and back, and the response for home arrives first. -/
def andBack : List Action :=
  [.respond 0, .setCurrentPrefix "user/a/", .setCurrentPrefix "user/", .respond 2, .respond 1]

def otherShown : Scope :=
  { folderShown with
    currentPrefix := "user/"
    breadcrumbs := [⟨"user/", "home"⟩]
    requests := ["user/", "user/a/", "user/"]
    arrived := [0, 2, 1] }

theorem shows_other_folder :
    (userConfig.machine twoKeys).after userConfig.start andBack = some otherShown ∧
      (∀ request < otherShown.requests.length, request ∈ otherShown.arrived) ∧
        ¬ ∃ Prefix, Shows userConfig twoKeys otherShown Prefix := by
  refine ⟨rfl, by decide, ?_⟩
  rintro ⟨Prefix, hshows⟩
  obtain rfl : "user/" = Prefix := Option.some.inj hshows.named
  have hrow := (hshows.folders "user/a/").mpr (.inl (by decide))
  exact absurd hrow (by decide)

end View

end FileBrowser
