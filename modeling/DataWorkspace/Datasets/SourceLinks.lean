import DataWorkspace.Py.Text
import DataWorkspace.Storage.References
import Mathlib.Logic.Function.Basic

/-!
# Source links and the files they refer to

A source link of a dataset is a link to another site, or to an object of the uploads bucket.  A
file is uploaded with its link.  Later the link may be given another URL, deleted, or copied with
its dataset.  A copy has the URL of the link it is made of, and so the object.

`save` deletes an object where the URL of a link was one of the bucket and is not any more, and
`delete` where a local link is deleted.  Both delete the object of the URL that the link has by
then, and neither looks for other links to it.  `files_kept_iff` says of which sequences of
requests every step deletes just the objects that no link refers to any more.
-/

namespace Datasets

open Py Storage

namespace SourceLinks

/-! ## Links -/

/-- A name without a slash: the text of a `uuid4`, or the name of an uploaded file. -/
structure Segment where
  text : Str
  no_slash : '/' ∉ text
deriving DecidableEq

inductive LinkType where
  | EXTERNAL
  | LOCAL
deriving DecidableEq, Repr

/-- A row of `app_sourcelink`. -/
structure Row where
  id : Segment
  dataset : Nat
  link_type : LinkType
  url : Str
deriving DecidableEq

/-- A `SourceLink` in memory.  Its id is unset in a copy that is to be saved. -/
structure SourceLink where
  id : Option Segment
  dataset : Nat
  link_type : LinkType
  url : Str
  _original_url : Str

/-- The link as it is read from the table. -/
def Row.load (row : Row) : SourceLink where
  id := some row.id
  dataset := row.dataset
  link_type := row.link_type
  url := row.url
  _original_url := row.url

/-- `SourceLink(dataset=dataset)`, with the default of its id. -/
def SourceLink.new (id : Segment) (dataset : Nat) : SourceLink where
  id := some id
  dataset := dataset
  link_type := .EXTERNAL
  url := []
  _original_url := []

def is_s3_url (url : Str) : Bool := startswith url "s3://"

def SourceLink._is_s3_link (link : SourceLink) : Bool := is_s3_url link.url

def SourceLink.was_s3_link (link : SourceLink) : Bool := is_s3_url link._original_url

/-- The field of the URL in a form. -/
def validUrl (url : Str) : Bool := decide (url ≠ [] ∧ url.length ≤ 256)

/-! ## The bucket -/

/-- Where there is an object S3 may refuse to tell, and `head_object` says if it does not. -/
def local_file_is_accessible (head_object : Bool) (objects : Str → Bool) (key : Str) : Bool :=
  objects key && head_object

def _delete_s3_file (head_object : Bool) (objects : Str → Bool) (key : Str) : Str → Bool :=
  if local_file_is_accessible head_object objects key then Function.update objects key false
  else objects

/-! ## The table -/

/-- The links, the keys in the bucket, and the datasets that are there and not deleted. -/
structure Site where
  links : List Row
  objects : Str → Bool
  live : Nat → Bool

namespace Site

variable (site : Site)

def get (id : Segment) : Option Row := site.links.find? fun row => decide (row.id = id)

def taken (id : Segment) : Bool := site.links.any fun row => decide (row.id = id)

/-- `Model.save`, which updates the row with the id if there is one. -/
def write (row : Row) : Site :=
  if site.taken row.id then
    { site with links := site.links.map fun r => if r.id = row.id then row else r }
  else { site with links := site.links ++ [row] }

end Site

/-- The link type that `save` leaves. -/
def SourceLink.saved_type (link : SourceLink) : LinkType :=
  if link.id ≠ none ∧ link._original_url ≠ link.url then
    if link._is_s3_link then .LOCAL else .EXTERNAL
  else link.link_type

/-- The row that is written, with `fresh` for the id of a copy. -/
def SourceLink.row (link : SourceLink) (fresh : Segment) : Row where
  id := link.id.getD fresh
  dataset := link.dataset
  link_type := link.saved_type
  url := link.url

def SourceLink.save (link : SourceLink) (fresh : Segment) (head_object : Bool) (site : Site) :
    Site :=
  let site := site.write (link.row fresh)
  if link.was_s3_link && !link._is_s3_link then
    { site with objects := _delete_s3_file head_object site.objects link.url }
  else site

def SourceLink.delete (link : SourceLink) (head_object : Bool) (site : Site) : Site where
  links := site.links.filter fun row => decide (some row.id ≠ link.id)
  objects :=
    if link.link_type = .LOCAL then _delete_s3_file head_object site.objects link.url
    else site.objects
  live := site.live

/-! ## Requests -/

/-- `os.path.join`, of two paths. -/
def os_path_join (path p : Str) : Str :=
  if startswith p "/" then p
  else if path.isEmpty || endswith path "/" then path ++ p
  else path ++ "/" ++ p

def uploadUrl (id file : Segment) : Str :=
  [("sourcelink" : Str), id.text, file.text].foldl os_path_join "s3://"

/-- The form of an upload, whose dataset need not be the one of the page. -/
structure SourceLinkUploadForm where
  dataset : Nat
  file : Segment

/-- `SourceLinkUploadView`, with the default of the id, and if S3 took the file.  The row is not
written where its URL does not fit the column. -/
def SourceLinkUploadView.post (site : Site) (dataset_id : Nat) (id : Segment)
    (form : SourceLinkUploadForm) (put_object : Bool) : Site :=
  if site.live dataset_id = false ∨ put_object = false then site
  else
    let url := uploadUrl id form.file
    let stored := { site with objects := Function.update site.objects url true }
    if site.taken id ∨ 256 < url.length then stored
    else
      let source_link := { SourceLink.new id form.dataset with link_type := .LOCAL, url := url }
      source_link.save id true stored

/-- The links of a dataset, for its copy. -/
def related_objects (site : Site) (dataset : Nat) : List Row :=
  site.links.filter fun row => decide (row.dataset = dataset)

/-- The copy of a link, for the copy of its dataset. -/
def Row.clone (row : Row) (clone : Nat) : SourceLink :=
  { row.load with id := none, dataset := clone }

/-- No two links get one id, and none the id of a link. -/
def Fresh (site : Site) (dataset : Nat) (fresh : Segment → Segment) : Prop :=
  (site.links.map Row.id ++ (related_objects site dataset).map fun row => fresh row.id).Nodup

instance (site : Site) (dataset : Nat) (fresh : Segment → Segment) :
    Decidable (Fresh site dataset fresh) :=
  inferInstanceAs (Decidable (List.Nodup _))

/-- `DataSet.clone`, with the id of the copy, and the id of the copy of each link. -/
def clone (site : Site) (dataset clone : Nat) (fresh : Segment → Segment) : Site :=
  (related_objects site dataset).foldl
    (fun site row => (row.clone clone).save (fresh row.id) true site)
    { site with live := Function.update site.live clone true }

/-- A request about one link or one dataset.  A form with several links is one after the other.
A request for which S3 refuses to delete is rolled back, and is none. -/
inductive Op where
  | upload (dataset_id : Nat) (id : Segment) (form : SourceLinkUploadForm) (put_object : Bool)
  /-- The page of a dataset, with a new link. -/
  | add (dataset : Nat) (id : Segment) (url : Str)
  /-- The page of a dataset, with a URL for a link. -/
  | change (id : Segment) (url : Str) (head_object : Bool)
  /-- The page of a dataset, with a link ticked for deletion.  What its form has for the URL is
  taken over before, if it is valid. -/
  | delete (id : Segment) (url : Str) (head_object : Bool)
  | clone (dataset clone : Nat) (fresh : Segment → Segment)
  /-- `DataSet.delete`, which deletes the rows with `force` only. -/
  | delete_dataset (dataset : Nat) (force : Bool)

/-- A link with what a form has for its URL. -/
def Row.posted (row : Row) (url : Str) : SourceLink :=
  if validUrl url then { row.load with url := url } else row.load

def Site.serve (site : Site) : Op → Site
  | .upload dataset_id id form put_object =>
      SourceLinkUploadView.post site dataset_id id form put_object
  | .add dataset id url =>
      if site.live dataset && validUrl url && !site.taken id then
        ({ SourceLink.new id dataset with url := url }).save id true site
      else site
  | .change id url head_object =>
      match site.get id with
      | none => site
      | some row =>
          if site.live row.dataset && validUrl url then
            (row.posted url).save id head_object site
          else site
  | .delete id url head_object =>
      match site.get id with
      | none => site
      | some row =>
          if site.live row.dataset then (row.posted url).delete head_object site else site
  | .clone dataset clone fresh =>
      if site.live dataset = true ∧ Fresh site dataset fresh then
        SourceLinks.clone site dataset clone fresh
      else site
  | .delete_dataset dataset force =>
      { site with
        links :=
          if force then site.links.filter fun row => decide (row.dataset ≠ dataset) else site.links
        live := Function.update site.live dataset false }

/-- No link was made yet. -/
def Site.empty (objects : Str → Bool) (live : Nat → Bool) : Site := ⟨[], objects, live⟩

/-! ## The property and the condition -/

/-- The key of the object that a row refers to. -/
def Row.refs (row : Row) : Set Str := {key | row.link_type = .LOCAL ∧ row.url = key}

/-- The keys of the objects in the bucket. -/
def Site.stored (site : Site) : Set Str := {key | site.objects key = true}

def Site.referred (site : Site) : Set Str := Storage.referred Row.refs site.links

/-- The keys of the objects that other links refer to. -/
def Site.others (site : Site) (id : Segment) : Set Str :=
  Storage.others Row.id Row.refs site.links id

/-- Every request deletes the objects that lose their last link, and none with a link. -/
def Site.Kept (site : Site) : List Op → Prop
  | [] => True
  | op :: rest =>
      Collected site.stored (site.serve op).stored site.referred (site.serve op).referred ∧
        (site.serve op).Kept rest

/-- A file that is in the bucket loses no link but by the deletion of the last one, with its URL
as it is, and that deletion finds the file.  The deletion of any other link deletes no file. -/
def Op.Careful (site : Site) : Op → Prop
  | .upload .. => True
  | .add .. => True
  | .change id url _ =>
      ∀ row, site.get id = some row → site.live row.dataset = true → validUrl url = true →
        row.link_type = .LOCAL → url ≠ row.url → row.url ∈ site.stored → row.url ∈ site.others id
  | .delete id url head_object =>
      ∀ row, site.get id = some row → site.live row.dataset = true → row.link_type = .LOCAL →
        (head_object = true → (row.posted url).url ∈ site.stored →
          (row.posted url).url ∉ site.others id) ∧
        (row.url ∈ site.stored → row.url ∉ site.others id →
          head_object = true ∧ row.url = (row.posted url).url)
  | .clone .. => True
  | .delete_dataset dataset force =>
      force = true → ∀ row ∈ site.links, row.dataset = dataset → row.link_type = .LOCAL →
        row.url ∈ site.stored → ∃ row' ∈ site.links, row'.dataset ≠ dataset ∧ row.url ∈ row'.refs

def Site.Careful (site : Site) : List Op → Prop
  | [] => True
  | op :: rest => op.Careful site ∧ (site.serve op).Careful rest

/-! ## What is written -/

def Row.Typed (row : Row) : Prop := row.link_type = .LOCAL ↔ is_s3_url row.url = true

structure Site.Ok (site : Site) : Prop where
  nodup : (site.links.map Row.id).Nodup
  typed : ∀ row ∈ site.links, row.Typed

theorem Site.ok_empty (objects : Str → Bool) (live : Nat → Bool) :
    (Site.empty objects live).Ok where
  nodup := List.nodup_nil
  typed _ h := absurd h List.not_mem_nil

namespace SourceLink

variable {link : SourceLink} {fresh : Segment}

theorem typed_row
    (h : link.id ≠ none ∧ link._original_url ≠ link.url ∨
      (link.link_type = .LOCAL ↔ is_s3_url link.url = true)) :
    (link.row fresh).Typed := by
  show link.saved_type = .LOCAL ↔ is_s3_url link.url = true
  rw [saved_type, _is_s3_link]
  by_cases hchanged : link.id ≠ none ∧ link._original_url ≠ link.url
  · rw [if_pos hchanged]
    cases is_s3_url link.url <;> decide
  · rw [if_neg hchanged]
    exact h.resolve_left hchanged

end SourceLink

namespace Site

variable {site : Site} {row : Row}

theorem taken_iff {id : Segment} : site.taken id = true ↔ ∃ r ∈ site.links, r.id = id := by
  rw [taken, List.any_eq_true]
  simp only [decide_eq_true_eq]

theorem get_some {id : Segment} (h : site.get id = some row) : row ∈ site.links ∧ row.id = id :=
  ⟨List.mem_of_find?_eq_some h, by simpa using List.find?_some h⟩

theorem Ok.write (h : site.Ok) (hrow : row.Typed) : (site.write row).Ok := by
  rw [Site.write]
  split
  next htaken =>
    constructor
    · show (List.map Row.id (site.links.map _)).Nodup
      rw [map_id_replace row]
      exact h.nodup
    · intro r hr
      obtain ⟨r', hr', rfl⟩ := List.mem_map.mp hr
      by_cases hid : r'.id = row.id
      · rw [if_pos hid]
        exact hrow
      · rw [if_neg hid]
        exact h.typed r' hr'
  next htaken =>
    constructor
    · show (List.map Row.id (site.links ++ [row])).Nodup
      rw [List.map_append, List.nodup_append]
      refine ⟨h.nodup, List.nodup_singleton _, ?_⟩
      intro id hid id' hid' he
      obtain ⟨r, hr, rfl⟩ := List.mem_map.mp hid
      obtain rfl : id' = row.id := List.mem_singleton.mp hid'
      exact htaken (taken_iff.mpr ⟨r, hr, he⟩)
    · intro r hr
      rcases List.mem_append.mp hr with hr | hr
      · exact h.typed r hr
      · rw [List.mem_singleton.mp hr]
        exact hrow

theorem Ok.s3_of_refs (h : site.Ok) (hrow : row ∈ site.links) {key : Str} (hkey : key ∈ row.refs) :
    is_s3_url key = true := by
  rw [← hkey.2]
  exact (h.typed row hrow).mp hkey.1

theorem Ok.s3_of_others (h : site.Ok) {id : Segment} {key : Str} (hkey : key ∈ site.others id) :
    is_s3_url key = true := by
  obtain ⟨r, hr, -, hkey⟩ := hkey
  exact h.s3_of_refs hr hkey

theorem Ok.referred_eq (h : site.Ok) (hrow : row ∈ site.links) :
    site.referred = row.refs ∪ site.others row.id :=
  Storage.referred_eq h.nodup hrow

end Site

theorem stored_delete_s3_file {head_object : Bool} {objects : Str → Bool} {key : Str} :
    {k | _delete_s3_file head_object objects key k = true} =
      {k | objects k = true} \ {k | head_object = true ∧ k = key} := by
  ext k
  simp only [_delete_s3_file, Set.mem_ofPred_eq, Set.mem_sdiff]
  by_cases haccessible : local_file_is_accessible head_object objects key = true
  · rw [if_pos haccessible]
    obtain ⟨hobject, hhead⟩ := Bool.and_eq_true_iff.mp haccessible
    by_cases hk : k = key
    · simp [hk, hhead]
    · simp [hk]
  · rw [if_neg haccessible]
    constructor
    · intro hobject
      refine ⟨hobject, ?_⟩
      rintro ⟨hhead, rfl⟩
      exact haccessible (Bool.and_eq_true_iff.mpr ⟨hobject, hhead⟩)
    · exact And.left

section

variable {site : Site} {link : SourceLink} {fresh : Segment} {head_object : Bool}

theorem Site.Ok.save (h : site.Ok) (hrow : (link.row fresh).Typed) :
    (link.save fresh head_object site).Ok := by
  have hwrite := h.write hrow
  rw [SourceLink.save]
  split
  next => exact ⟨hwrite.nodup, hwrite.typed⟩
  next => exact hwrite

theorem links_save :
    (link.save fresh head_object site).links = (site.write (link.row fresh)).links := by
  rw [SourceLink.save]
  split <;> rfl

theorem Site.objects_write (row : Row) : (site.write row).objects = site.objects := by
  rw [Site.write]
  split <;> rfl

theorem stored_save :
    (link.save fresh head_object site).stored =
      site.stored \ {k | (link.was_s3_link && !link._is_s3_link) = true ∧ head_object = true ∧
        k = link.url} := by
  rw [SourceLink.save]
  by_cases hs3 : (link.was_s3_link && !link._is_s3_link) = true
  · rw [if_pos hs3]
    simp only [hs3, true_and]
    exact stored_delete_s3_file.trans (by rw [Site.objects_write, Site.stored])
  · rw [if_neg hs3]
    simp [hs3, Site.stored, Site.objects_write]

theorem save_of_not_given_up (hs3 : (link.was_s3_link && !link._is_s3_link) = false) :
    link.save fresh head_object site = site.write (link.row fresh) := by
  rw [SourceLink.save, if_neg (by rw [hs3]; exact Bool.false_ne_true)]

theorem Site.write_new {row : Row} (htaken : site.taken row.id = false) :
    site.write row = { site with links := site.links ++ [row] } := by
  rw [Site.write, if_neg (by rw [htaken]; exact Bool.false_ne_true)]

theorem Site.write_taken {row : Row} (h : ∃ r ∈ site.links, r.id = row.id) :
    site.write row =
      { site with links := site.links.map fun r => if r.id = row.id then row else r } := by
  rw [Site.write, if_pos (Site.taken_iff.mpr h)]

theorem Site.taken_eq_false {id : Segment} (h : ∀ r ∈ site.links, r.id ≠ id) :
    site.taken id = false := by
  rw [← Bool.not_eq_true, Site.taken_iff]
  rintro ⟨r, hr, hid⟩
  exact h r hr hid

end

/-! ## What a request does -/

section

variable {site : Site} {row : Row} {url : Str} {head_object : Bool}

@[simp] theorem posted_id : (row.posted url).id = some row.id := by
  rw [Row.posted]
  split <;> rfl

@[simp] theorem posted_original_url : (row.posted url)._original_url = row.url := by
  rw [Row.posted]
  split <;> rfl

@[simp] theorem posted_link_type : (row.posted url).link_type = row.link_type := by
  rw [Row.posted]
  split <;> rfl

theorem posted_url (hvalid : validUrl url = true) : (row.posted url).url = url := by
  rw [Row.posted, if_pos hvalid]

theorem posted_typed (htyped : row.Typed) (fresh : Segment) :
    ((row.posted url).row fresh).Typed := by
  refine SourceLink.typed_row ?_
  by_cases hurl : row.url = (row.posted url).url
  · rw [posted_link_type, ← hurl]
    exact .inr htyped
  · rw [posted_id, posted_original_url]
    exact .inl ⟨Option.some_ne_none _, hurl⟩

theorem posted_saved_type (hurl : (row.posted url).url = row.url) :
    (row.posted url).saved_type = row.link_type := by
  rw [SourceLink.saved_type, hurl, posted_original_url, if_neg fun h => h.2 rfl, posted_link_type]

theorem save_posted_collected_iff (h : site.Ok) (hrow : row ∈ site.links)
    (hvalid : validUrl url = true) :
    Collected site.stored ((row.posted url).save row.id head_object site).stored site.referred
        ((row.posted url).save row.id head_object site).referred ↔
      (row.link_type = .LOCAL → url ≠ row.url → row.url ∈ site.stored →
        row.url ∈ site.others row.id) := by
  have hurl : (row.posted url).url = url := posted_url hvalid
  have hid : ((row.posted url).row row.id).id = row.id := by
    rw [SourceLink.row, posted_id, Option.getD_some]
  have htyped : ((row.posted url).row row.id).Typed := posted_typed (h.typed row hrow) row.id
  have hreferred : ((row.posted url).save row.id head_object site).referred =
      ((row.posted url).row row.id).refs ∪ site.others row.id := by
    rw [Site.referred, links_save, Site.write_taken ⟨row, hrow, hid.symm⟩]
    refine (referred_replace ⟨row, hrow, hid.symm⟩).trans ?_
    rw [hid, Site.others]
  rw [stored_save, h.referred_eq hrow, hreferred, collected_union_iff]
  constructor
  · rintro ⟨-, hfreed⟩ hlocal hne hstored
    by_contra hothers
    have hnot : row.url ∉ ((row.posted url).row row.id).refs :=
      fun hrefs => hne (hurl.symm.trans hrefs.2)
    obtain ⟨-, -, he⟩ := hfreed row.url hstored ⟨hlocal, rfl⟩ hnot hothers
    exact hne (hurl.symm.trans he.symm)
  · intro hcareful
    constructor
    · rintro key - ⟨hs3, -, rfl⟩
      have hnot : is_s3_url (row.posted url).url ≠ true :=
        Bool.eq_false_iff.mp ((Bool.not_eq_true' _).mp (Bool.and_eq_true_iff.mp hs3).2)
      exact ⟨fun hrefs => hnot (htyped.mp hrefs.1), fun hothers => hnot (h.s3_of_others hothers)⟩
    · rintro key hkey ⟨hlocal, rfl⟩ hnot hothers
      by_cases hsame : url = row.url
      · refine absurd ⟨?_, hurl.trans hsame⟩ hnot
        exact (posted_saved_type (hurl.trans hsame)).trans hlocal
      · exact absurd (hcareful hlocal hsame hkey) hothers

theorem delete_posted_collected_iff (h : site.Ok) (hrow : row ∈ site.links) :
    Collected site.stored ((row.posted url).delete head_object site).stored site.referred
        ((row.posted url).delete head_object site).referred ↔
      (row.link_type = .LOCAL →
        (head_object = true → (row.posted url).url ∈ site.stored →
          (row.posted url).url ∉ site.others row.id) ∧
        (row.url ∈ site.stored → row.url ∉ site.others row.id →
          head_object = true ∧ row.url = (row.posted url).url)) := by
  have hreferred : ((row.posted url).delete head_object site).referred = site.others row.id := by
    rw [Site.referred, SourceLink.delete]
    refine Eq.trans ?_ (referred_remove row.id)
    simp
  rw [h.referred_eq hrow, hreferred]
  by_cases hlocal : row.link_type = .LOCAL
  · have hstored : ((row.posted url).delete head_object site).stored =
        site.stored \ {k | head_object = true ∧ k = (row.posted url).url} := by
      rw [Site.stored, SourceLink.delete]
      simp only [posted_link_type, if_pos hlocal]
      exact stored_delete_s3_file
    rw [hstored, collected_gone_iff]
    constructor
    · rintro ⟨hkept, hfreed⟩ -
      exact ⟨fun hhead hkey => hkept _ hkey ⟨hhead, rfl⟩,
        fun hkey hothers => hfreed _ hkey ⟨hlocal, rfl⟩ hothers⟩
    · intro hcareful
      obtain ⟨hkept, hfreed⟩ := hcareful hlocal
      constructor
      · rintro key hkey ⟨hhead, rfl⟩
        exact hkept hhead hkey
      · rintro key hkey ⟨-, rfl⟩ hothers
        exact hfreed hkey hothers
  · have hstored : ((row.posted url).delete head_object site).stored = site.stored := by
      rw [Site.stored, SourceLink.delete]
      simp only [posted_link_type, if_neg hlocal]
      rfl
    rw [hstored, collected_dropped_iff]
    exact iff_of_true (fun _ _ hrefs => absurd hrefs.1 hlocal) fun hlocal' => absurd hlocal' hlocal

theorem force_collected_iff {dataset : Nat} {live : Nat → Bool} :
    Collected site.stored site.stored site.referred
        (⟨site.links.filter fun row => decide (row.dataset ≠ dataset), site.objects, live⟩ :
          Site).referred ↔
      ∀ row ∈ site.links, row.dataset = dataset → row.link_type = .LOCAL →
        row.url ∈ site.stored →
          ∃ row' ∈ site.links, row'.dataset ≠ dataset ∧ row.url ∈ row'.refs := by
  have hunion : _ = referred Row.refs site.links :=
    referred_filter_union fun row => decide (row.dataset ≠ dataset)
  rw [Site.referred, Site.referred, ← hunion, collected_dropped_iff]
  simp only [Storage.referred, Set.mem_ofPred_eq, List.mem_filter, Bool.not_eq_true',
    decide_eq_false_iff_not, decide_eq_true_eq, not_not, and_assoc]
  constructor
  · intro h row hrow hdataset hlocal hstored
    exact h row.url hstored ⟨row, hrow, hdataset, hlocal, rfl⟩
  · rintro h key hkey ⟨row, hrow, hdataset, hlocal, rfl⟩
    exact h row hrow hdataset hlocal hkey

end

/-! ## Links that are added -/

structure Site.Added (site site' : Site) (rows : List Row) : Prop where
  links : site'.links = site.links ++ rows
  nodup : ((site.links ++ rows).map Row.id).Nodup
  typed : ∀ row ∈ rows, row.Typed
  objects : ∀ key, site.objects key = true → site'.objects key = true

namespace Site.Added

variable {site site' : Site} {rows : List Row}

theorem none (h : site.Ok) (hlinks : site'.links = site.links)
    (hobjects : ∀ key, site.objects key = true → site'.objects key = true) :
    site.Added site' [] where
  links := hlinks.trans (List.append_nil _).symm
  nodup := by
    rw [List.append_nil]
    exact h.nodup
  typed _ hrow := absurd hrow List.not_mem_nil
  objects := hobjects

theorem ok (hadded : site.Added site' rows) (h : site.Ok) : site'.Ok where
  nodup := by
    rw [hadded.links]
    exact hadded.nodup
  typed row hrow := by
    rw [hadded.links] at hrow
    exact (List.mem_append.mp hrow).elim (h.typed row) (hadded.typed row)

theorem collected (hadded : site.Added site' rows) :
    Collected site.stored site'.stored site.referred site'.referred := by
  refine collected_of_subset hadded.objects ?_
  rw [Site.referred, Site.referred, hadded.links, referred_append]
  exact Set.subset_union_left

end Site.Added

section

variable {site : Site}

theorem nodup_append_new (h : site.Ok) {row : Row} (htaken : site.taken row.id = false) :
    ((site.links ++ [row]).map Row.id).Nodup := by
  rw [List.map_append, List.nodup_append]
  refine ⟨h.nodup, List.nodup_singleton _, ?_⟩
  intro id hid id' hid' he
  obtain ⟨r, hr, rfl⟩ := List.mem_map.mp hid
  obtain rfl : id' = row.id := List.mem_singleton.mp hid'
  exact Bool.eq_false_iff.mp htaken (Site.taken_iff.mpr ⟨r, hr, he⟩)

theorem save_new {link : SourceLink} {fresh : Segment} {head_object : Bool}
    (htaken : site.taken (link.row fresh).id = false)
    (hs3 : (link.was_s3_link && !link._is_s3_link) = false) :
    link.save fresh head_object site = { site with links := site.links ++ [link.row fresh] } := by
  rw [save_of_not_given_up hs3, Site.write_new htaken]

theorem added_save (h : site.Ok) (dataset : Nat) (link_type : LinkType) (head_object : Bool)
    {id : Segment} {url : Str} (htaken : site.taken id = false) (hurl : url ≠ []) :
    ∃ rows, site.Added
      (({ SourceLink.new id dataset with link_type := link_type, url := url }).save id head_object
        site) rows := by
  rw [save_new htaken rfl]
  refine ⟨_, rfl, nodup_append_new h htaken, ?_, fun _ hkey => hkey⟩
  intro row hrow
  rw [List.mem_singleton.mp hrow]
  exact SourceLink.typed_row (.inl ⟨Option.some_ne_none id, hurl.symm⟩)

theorem startswith_os_path_join {path p s : Str} (hp : startswith p "/" = false)
    (h : startswith path s = true) : startswith (os_path_join path p) s = true := by
  rw [os_path_join, if_neg (by rw [hp]; exact Bool.false_ne_true)]
  obtain ⟨t, rfl⟩ := startswith_iff.mp h
  split
  · rw [List.append_assoc]
    exact startswith_append s (t ++ p)
  · rw [List.append_assoc, List.append_assoc]
    exact startswith_append s (t ++ ("/" ++ p))

theorem Segment.not_startswith (segment : Segment) : startswith segment.text "/" = false := by
  rw [← Bool.not_eq_true, startswith_iff]
  rintro ⟨t, ht⟩
  refine segment.no_slash ?_
  rw [← ht]
  exact List.mem_cons_self

theorem is_s3_uploadUrl (id file : Segment) : is_s3_url (uploadUrl id file) = true := by
  have hdir : startswith (os_path_join "s3://" "sourcelink") "s3://" = true := by decide
  exact startswith_os_path_join file.not_startswith
    (startswith_os_path_join id.not_startswith hdir)

theorem uploadUrl_ne_nil (id file : Segment) : uploadUrl id file ≠ [] := by
  intro he
  have hs3 := is_s3_uploadUrl id file
  rw [he] at hs3
  cases hs3

theorem added_upload (h : site.Ok) (dataset_id : Nat) (id : Segment) (form : SourceLinkUploadForm)
    (put_object : Bool) :
    ∃ rows, site.Added (SourceLinkUploadView.post site dataset_id id form put_object) rows := by
  have hstored : ∀ key, site.objects key = true →
      Function.update site.objects (uploadUrl id form.file) true key = true := by
    intro key hkey
    by_cases he : key = uploadUrl id form.file
    · rw [he, Function.update_self]
    · rw [Function.update_of_ne he]
      exact hkey
  rw [SourceLinkUploadView.post]
  split
  next => exact ⟨[], .none h rfl fun _ hkey => hkey⟩
  next =>
    dsimp only
    split
    next => exact ⟨[], .none h rfl hstored⟩
    next hrefused =>
      have htaken : site.taken id = false := by
        rw [← Bool.not_eq_true]
        exact fun htaken => hrefused (.inl htaken)
      have hok : ({ site with
          objects := Function.update site.objects (uploadUrl id form.file) true } : Site).Ok :=
        ⟨h.nodup, h.typed⟩
      obtain ⟨rows, hadded⟩ := added_save hok form.dataset .LOCAL true htaken
        (uploadUrl_ne_nil id form.file)
      exact ⟨rows, hadded.links, hadded.nodup, hadded.typed,
        fun key hkey => hadded.objects key (hstored key hkey)⟩

theorem row_clone (row : Row) (clone : Nat) (fresh : Segment) :
    (row.clone clone).row fresh = { row with id := fresh, dataset := clone } := by
  rw [SourceLink.row, SourceLink.saved_type, if_neg fun h => h.1 rfl]
  rfl

theorem clone_not_given_up (row : Row) (clone : Nat) :
    ((row.clone clone).was_s3_link && !(row.clone clone)._is_s3_link) = false :=
  Bool.and_not_self _

theorem foldl_clone (site : Site) (clone : Nat) (fresh : Segment → Segment) (rows : List Row)
    (hfresh : (site.links.map Row.id ++ rows.map fun row => fresh row.id).Nodup) :
    rows.foldl (fun site row => (row.clone clone).save (fresh row.id) true site) site =
      { site with
        links := site.links ++ rows.map fun row =>
          { row with id := fresh row.id, dataset := clone } } := by
  induction rows generalizing site with
  | nil => rw [List.map_nil, List.append_nil]; rfl
  | cons row rest ih =>
      have htaken : site.taken (fresh row.id) = false := by
        refine Site.taken_eq_false fun r hr he => ?_
        exact (List.nodup_append.mp hfresh).2.2 _ (List.mem_map_of_mem hr) _ List.mem_cons_self he
      rw [List.foldl_cons, save_new (by rw [row_clone]; exact htaken)
        (clone_not_given_up row clone), row_clone, ih _ (by simpa using hfresh)]
      simp only [List.append_assoc, List.singleton_append, List.map_cons]

theorem added_clone (h : site.Ok) {dataset : Nat} (clone : Nat) {fresh : Segment → Segment}
    (hfresh : Fresh site dataset fresh) :
    ∃ rows, site.Added (SourceLinks.clone site dataset clone fresh) rows := by
  have hcopies := foldl_clone { site with live := Function.update site.live clone true } clone fresh
    (related_objects site dataset) hfresh
  rw [SourceLinks.clone, hcopies]
  refine ⟨_, rfl, ?_, ?_, fun _ hkey => hkey⟩
  · rw [List.map_append, List.map_map]
    exact hfresh
  · intro row hrow
    obtain ⟨r, hr, rfl⟩ := List.mem_map.mp hrow
    exact h.typed r (List.mem_of_mem_filter hr)

end

/-! ## Sequences of requests -/

section

variable {site : Site}

theorem added_serve (h : site.Ok) :
    (∀ dataset_id id form put_object,
      ∃ rows, site.Added (site.serve (.upload dataset_id id form put_object)) rows) ∧
    (∀ dataset id url, ∃ rows, site.Added (site.serve (.add dataset id url)) rows) ∧
    ∀ dataset clone fresh, ∃ rows, site.Added (site.serve (.clone dataset clone fresh)) rows := by
  refine ⟨added_upload h, ?_, ?_⟩
  · intro dataset id url
    rw [Site.serve]
    split
    next hadd =>
      simp only [Bool.and_eq_true, Bool.not_eq_true'] at hadd
      obtain ⟨⟨-, hvalid⟩, htaken⟩ := hadd
      exact added_save h dataset .EXTERNAL true htaken (of_decide_eq_true hvalid).1
    next => exact ⟨[], .none h rfl fun _ hkey => hkey⟩
  · intro dataset clone fresh
    rw [Site.serve]
    split
    next hclone => exact added_clone h clone hclone.2
    next => exact ⟨[], .none h rfl fun _ hkey => hkey⟩

theorem Site.Ok.filter (h : site.Ok) (p : Row → Bool) (objects : Str → Bool) (live : Nat → Bool) :
    Site.Ok ⟨site.links.filter p, objects, live⟩ where
  nodup := h.nodup.sublist (List.filter_sublist.map Row.id)
  typed row hrow := h.typed row (List.mem_of_mem_filter hrow)

theorem Site.Ok.serve (h : site.Ok) (op : Op) : (site.serve op).Ok := by
  cases op with
  | upload dataset_id id form put_object =>
      obtain ⟨rows, hadded⟩ := (added_serve h).1 dataset_id id form put_object
      exact hadded.ok h
  | add dataset id url =>
      obtain ⟨rows, hadded⟩ := (added_serve h).2.1 dataset id url
      exact hadded.ok h
  | clone dataset clone fresh =>
      obtain ⟨rows, hadded⟩ := (added_serve h).2.2 dataset clone fresh
      exact hadded.ok h
  | change id url head_object =>
      rw [Site.serve]
      split
      next => exact h
      next row hget =>
        split
        next => exact h.save (posted_typed (h.typed row (Site.get_some hget).1) id)
        next => exact h
  | delete id url head_object =>
      rw [Site.serve]
      split
      next => exact h
      next =>
        split
        next => exact h.filter _ _ _
        next => exact h
  | delete_dataset dataset force =>
      cases force with
      | false => exact ⟨h.nodup, h.typed⟩
      | true => exact h.filter _ _ _

theorem Site.collected_self : Collected site.stored site.stored site.referred site.referred :=
  collected_of_subset (Set.Subset.refl _) (Set.Subset.refl _)

theorem serve_collected_iff (h : site.Ok) (op : Op) :
    Collected site.stored (site.serve op).stored site.referred (site.serve op).referred ↔
      op.Careful site := by
  cases op with
  | upload dataset_id id form put_object =>
      obtain ⟨rows, hadded⟩ := (added_serve h).1 dataset_id id form put_object
      exact iff_of_true hadded.collected trivial
  | add dataset id url =>
      obtain ⟨rows, hadded⟩ := (added_serve h).2.1 dataset id url
      exact iff_of_true hadded.collected trivial
  | clone dataset clone fresh =>
      obtain ⟨rows, hadded⟩ := (added_serve h).2.2 dataset clone fresh
      exact iff_of_true hadded.collected trivial
  | change id url head_object =>
      rw [Site.serve, Op.Careful]
      cases hget : site.get id with
      | none => exact iff_of_true Site.collected_self fun row hrow => by cases hrow
      | some row =>
          obtain ⟨hrow, rfl⟩ := Site.get_some hget
          by_cases hserved : (site.live row.dataset && validUrl url) = true
          · obtain ⟨hlive, hvalid⟩ := Bool.and_eq_true_iff.mp hserved
            dsimp only
            rw [if_pos hserved, save_posted_collected_iff h hrow hvalid]
            constructor
            · rintro hcareful _ ⟨⟩ - -
              exact hcareful
            · intro hcareful
              exact hcareful row rfl hlive hvalid
          · dsimp only
            rw [if_neg hserved]
            refine iff_of_true Site.collected_self ?_
            rintro _ ⟨⟩ hlive hvalid
            exact absurd (Bool.and_eq_true_iff.mpr ⟨hlive, hvalid⟩) hserved
  | delete id url head_object =>
      rw [Site.serve, Op.Careful]
      cases hget : site.get id with
      | none => exact iff_of_true Site.collected_self fun row hrow => by cases hrow
      | some row =>
          obtain ⟨hrow, rfl⟩ := Site.get_some hget
          by_cases hlive : site.live row.dataset = true
          · dsimp only
            rw [if_pos hlive, delete_posted_collected_iff h hrow]
            constructor
            · rintro hcareful _ ⟨⟩ -
              exact hcareful
            · intro hcareful
              exact hcareful row rfl hlive
          · dsimp only
            rw [if_neg hlive]
            refine iff_of_true Site.collected_self ?_
            rintro _ ⟨⟩ hlive'
            exact absurd hlive' hlive
  | delete_dataset dataset force =>
      cases force with
      | false => exact iff_of_true Site.collected_self fun hforce => by cases hforce
      | true =>
          refine force_collected_iff.trans ⟨fun h _ => h, fun h => h rfl⟩

theorem kept_iff (h : site.Ok) (ops : List Op) : site.Kept ops ↔ site.Careful ops := by
  induction ops generalizing site with
  | nil => exact Iff.rfl
  | cons op rest ih => exact and_congr (serve_collected_iff h op) (ih (h.serve op))

end

/-- Every request of a sequence deletes just the objects that no link refers to any more, if and
only if the sequence is careful. -/
theorem files_kept_iff (objects : Str → Bool) (live : Nat → Bool) (ops : List Op) :
    (Site.empty objects live).Kept ops ↔ (Site.empty objects live).Careful ops :=
  kept_iff (Site.ok_empty objects live) ops

/-! ## Three careless sequences -/

section Examples

def first : Segment := ⟨"1", by decide⟩

def second : Segment := ⟨"2", by decide⟩

def start : Site := Site.empty (fun _ => false) fun dataset => decide (dataset = 1)

/-- A file is uploaded to the dataset. -/
def upload : Op := .upload 1 first ⟨1, ⟨"a.csv", by decide⟩⟩ true

/-- The row of the file. -/
def uploaded : Row := ⟨first, 1, .LOCAL, "s3://sourcelink/1/a.csv"⟩

theorem links_upload : (start.serve upload).links = [uploaded] := by decide +kernel

theorem not_kept_change {url : Str} (hne : url ≠ uploaded.url) (hvalid : validUrl url = true) :
    ¬ start.Kept [upload, .change first url true] := by
  have hok : start.Ok := Site.ok_empty _ _
  rw [kept_iff hok]
  rintro ⟨-, hcareful, -⟩
  have hget : (start.serve upload).get first = some uploaded := by decide +kernel
  have hstored : uploaded.url ∈ (start.serve upload).stored := by
    show (start.serve upload).objects uploaded.url = true
    decide +kernel
  obtain ⟨r, hr, hid, -⟩ := hcareful uploaded hget rfl hvalid rfl hne hstored
  rw [links_upload] at hr
  exact hid (congrArg Row.id (List.mem_singleton.mp hr))

/-- The URL of the link is replaced, by that of another site or of another file, and the file
stays.  The dataset is copied, one of the two links is deleted, and so is the file. -/
theorem files_not_kept :
    (¬ start.Kept [upload, .change first "https://example.com" true]) ∧
    (¬ start.Kept [upload, .change first "s3://sourcelink/2/b.csv" true]) ∧
    ¬ start.Kept
      [upload, .clone 1 2 fun _ => second, .delete first "s3://sourcelink/1/a.csv" true] := by
  refine ⟨not_kept_change (by decide) (by decide), not_kept_change (by decide) (by decide), ?_⟩
  have hok : start.Ok := Site.ok_empty _ _
  rw [kept_iff hok]
  rintro ⟨-, -, hcareful, -⟩
  let site := (start.serve upload).serve (.clone 1 2 fun _ => second)
  have hlinks : site.links = [uploaded, { uploaded with id := second, dataset := 2 }] := by
    decide +kernel
  have hstored : site.objects uploaded.url = true := by decide +kernel
  have hget : site.get first = some uploaded := by decide +kernel
  refine (hcareful uploaded hget rfl rfl).1 rfl hstored ?_
  refine ⟨{ uploaded with id := second, dataset := 2 }, ?_, by decide, rfl, rfl⟩
  show _ ∈ site.links
  rw [hlinks]
  exact List.mem_cons_of_mem _ List.mem_cons_self

end Examples

end SourceLinks

end Datasets
