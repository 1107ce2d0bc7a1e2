import DataWorkspace.Mirrors.Requests

/-!
# Mirroring a pypi project

`transfer_project` reads the page of a project, copies the files it links to that are not in
the bucket yet, and puts an index page of all of them into the bucket.  A file is tried ten
times while the connection or the data fails.  The variable `code` holds the last code that
was answered, to any request, and after the tries it is all that is looked at.

`index_complete_iff` says when every file of a published index page is in the bucket: when
for none that is missing all tries fail.
-/

namespace Mirrors

open Py

/-! ## The project -/

/-- A link of a project page. -/
structure Link where
  href : Option Str
  string : Str
  data_requires_python : Option Str
deriving DecidableEq, Repr

/-- A file of the index page. -/
structure LinkData where
  s3_path : Str
  filename : Str
  frag : Str
  python_version_attr : Str
deriving DecidableEq, Repr

/-- What is answered while a project is mirrored. -/
structure Upstream where
  /-- The code of the project page, `none` where the request raises. -/
  page : Option Code
  /-- The links of the page, with what comes of the tries to copy them. -/
  links : List (Link × (Nat → Attempt))
  /-- Whether the files of the project can be listed. -/
  lists : Bool
  /-- What comes of the tries to put the index page. -/
  index : Nat → PutResult

/-- `html.escape(s)`. -/
def escape (s : Str) : Str := s.flatMap fun c =>
  if c = '&' then "&amp;" else if c = '<' then "&lt;" else if c = '>' then "&gt;"
  else if c = '"' then "&quot;" else if c = '\'' then "&#x27;" else [c]

def pypi_prefix : Str := "pypi/"

section

variable (project_name : Str)

/-- The start of the keys of a project. -/
def project_root : Str := pypi_prefix ++ project_name ++ "/"

def file_key (filename : Str) : Str := project_root project_name ++ filename

/-- `s3_list_keys_relative_to_prefix`. -/
def s3_list_keys_relative_to_prefix (keys : List Str) (key_start : Str) : List Str :=
  (keys.filter fun key => startswith key key_start).map (·.drop key_start.length)

/-- `absolute.split("#")` into two, which raises for any other number of parts. -/
def split_frag (link : Link) : Option (Str × Str) :=
  match link.href.map (·.splitOn '#') with
  | some [absolute_no_frag, frag] => some (absolute_no_frag, frag)
  | _ => none

def python_version_attr (link : Link) : Str :=
  match link.data_requires_python with
  | none => []
  | some python_version => " data-requires-python=\"" ++ escape python_version ++ "\""

def link_data (link : Link) (frag : Str) : LinkData where
  s3_path := "/" ++ file_key project_name link.string
  filename := link.string
  frag := frag
  python_version_attr := python_version_attr link

/-- What `transfer_project` knows of, between two links. -/
structure Transfer where
  code : Code
  link_data : List LinkData
  keys : List Str

/-- One link.  Where it raises, what is left are the keys of the bucket. -/
def transfer_link (existing_project_filenames : List Str) (t : Transfer)
    (file : Link × (Nat → Attempt)) : Except (List Str) Transfer :=
  match split_frag file.1 with
  | none => .error t.keys
  | some (_, frag) =>
      let t := { t with link_data := t.link_data ++ [link_data project_name file.1 frag] }
      if file.1.string ∈ existing_project_filenames then .ok t
      else
        let (code, stored) := tries file.2 10 0 t.code
        let keys := if stored then t.keys ++ [file_key project_name file.1.string] else t.keys
        match code with
        | none => .error keys
        | some code => if code ≠ 200 then .error keys else .ok { t with code := code, keys := keys }

/-- The links in turn. -/
def transfer_links (existing_project_filenames : List Str) :
    List (Link × (Nat → Attempt)) → Transfer → Except (List Str) Transfer
  | [], t => .ok t
  | file :: files, t =>
      match transfer_link project_name existing_project_filenames t file with
      | .error keys => .error keys
      | .ok t => transfer_links existing_project_filenames files t

end

/-- At most `n` tries to put the index page, as the tries to copy a file. -/
def put_index (index : Nat → PutResult) : (n k : Nat) → Code → Option Code × Bool
  | 0, _, code => (some code, false)
  | n + 1, k, code =>
      match index k with
      | .answered code => (some code, (index k).stores)
      | .raised _ _ =>
          let rest := put_index index n (k + 1) code
          (rest.1, (index k).stores || rest.2)
      | .no_credentials => (none, false)

/-- The index page of a project. -/
structure IndexPage where
  link_data : List LinkData
  html_str : Str
deriving DecidableEq, Repr

/-- The line of a file. -/
def html_link (bucket_host bucket_name : Str) (link : LinkData) : Str :=
  ("<a href=\"https://" : Str) ++ bucket_host ++ "/" ++ bucket_name ++ link.s3_path ++ "#" ++
    link.frag ++ "\"" ++ link.python_version_attr ++ ">" ++ link.filename ++ "</a>"

def html_str (bucket_host bucket_name : Str) (link_data : List LinkData) : Str :=
  ("<!DOCTYPE html><html><body>" : Str) ++ link_data.flatMap (html_link bucket_host bucket_name) ++
    "</body></html>"

/-- What comes of mirroring a project: the keys in the bucket, the index page that was put
there, if any, and whether an exception was raised. -/
structure Outcome where
  keys : List Str
  index : Option IndexPage
  raised : Bool

/-- `transfer_project`. -/
def transfer_project (bucket_host bucket_name project_name : Str) (upstream : Upstream)
    (keys : List Str) : Outcome :=
  match upstream.page with
  | none => ⟨keys, none, true⟩
  | some code =>
      if code ≠ 200 then ⟨keys, none, true⟩
      else if upstream.lists = false then ⟨keys, none, true⟩
      else
        let existing_project_filenames :=
          s3_list_keys_relative_to_prefix keys (project_root project_name)
        match transfer_links project_name existing_project_filenames upstream.links
            ⟨code, [], keys⟩ with
        | .error keys => ⟨keys, none, true⟩
        | .ok t =>
            let html := html_str bucket_host bucket_name t.link_data
            if isAscii html = false then ⟨t.keys, none, true⟩
            else
              let (code, stored) := put_index upstream.index 5 0 t.code
              ⟨t.keys, if stored then some ⟨t.link_data, html⟩ else none, code ≠ some 200⟩

/-! ## The links -/

section Links

variable {project_name : Str} {existing : List Str} {t t' : Transfer}
  {file : Link × (Nat → Attempt)} {files : List (Link × (Nat → Attempt))}

def key_of (project_name : Str) (file : Link × (Nat → Attempt)) : Str :=
  file_key project_name file.1.string

/-- A link that is passed is listed, and its file was there before or stored, unless all tries
to copy it failed. -/
theorem transfer_link_ok (ht : t.code = 200)
    (h : transfer_link project_name existing t file = .ok t') :
    t'.code = 200 ∧
      (∃ frag, t'.link_data = t.link_data ++ [link_data project_name file.1 frag]) ∧
      ∀ key, key ∈ t'.keys ↔ key ∈ t.keys ∨
        key = key_of project_name file ∧ file.1.string ∉ existing ∧ ¬ GivenUp file.2 := by
  rw [transfer_link] at h
  split at h
  next => cases h
  next absolute_no_frag frag hsplit =>
    split at h
    next hexisting =>
      cases h
      refine ⟨ht, ⟨frag, rfl⟩, fun key => ?_⟩
      exact ⟨.inl, fun hkey => hkey.elim id fun hnew => absurd hexisting hnew.2.1⟩
    next hexisting =>
      have hstored := @tries_stored_iff file.2 t.code
      dsimp only at h
      generalize tries file.2 10 0 t.code = result at h hstored
      obtain ⟨code, stored⟩ := result
      dsimp only at h hstored
      cases code with
      | none => cases h
      | some code =>
          dsimp only at h
          split at h
          next => cases h
          next hcode =>
            cases h
            obtain rfl := not_not.mp hcode
            refine ⟨rfl, ⟨frag, rfl⟩, fun key => ?_⟩
            rw [← hstored rfl]
            cases stored with
            | false => simp
            | true => simp [key_of, hexisting]

theorem transfer_links_ok (ht : t.code = 200)
    (h : transfer_links project_name existing files t = .ok t') :
    t'.code = 200 ∧
      (∃ data, t'.link_data = t.link_data ++ data ∧
        data.map LinkData.s3_path = files.map fun file => "/" ++ key_of project_name file) ∧
      ∀ key, key ∈ t'.keys ↔ key ∈ t.keys ∨ ∃ file ∈ files,
        key = key_of project_name file ∧ file.1.string ∉ existing ∧ ¬ GivenUp file.2 := by
  induction files generalizing t with
  | nil =>
      cases h
      exact ⟨ht, ⟨[], (List.append_nil _).symm, rfl⟩, fun key => by simp⟩
  | cons file files ih =>
      rw [transfer_links] at h
      split at h
      next => cases h
      next t₁ hone =>
        obtain ⟨hcode, ⟨frag, hdata⟩, hkeys⟩ := transfer_link_ok ht hone
        obtain ⟨hcode', ⟨data, hdata', hpaths⟩, hkeys'⟩ := ih hcode h
        refine ⟨hcode', ⟨link_data project_name file.1 frag :: data, ?_, ?_⟩, fun key => ?_⟩
        · rw [hdata', hdata, List.append_assoc, List.singleton_append]
        · rw [List.map_cons, List.map_cons, hpaths]
          rfl
        · rw [hkeys', hkeys, or_assoc]
          simp only [List.mem_cons, exists_eq_or_imp]

theorem mem_existing_iff {keys : List Str} {filename : Str} :
    filename ∈ s3_list_keys_relative_to_prefix keys (project_root project_name) ↔
      file_key project_name filename ∈ keys := by
  simp only [ s3_list_keys_relative_to_prefix, List.mem_map, List.mem_filter, startswith_iff]
  constructor
  · rintro ⟨key, ⟨hkey, rest, rfl⟩, rfl⟩
    rwa [file_key, List.drop_left]
  · intro hkey
    exact ⟨_, ⟨hkey, List.prefix_append _ _⟩, List.drop_left ..⟩

end Links

/-! ## The index page -/

section Index

variable {bucket_host bucket_name project_name : Str} {upstream : Upstream} {keys : List Str}
  {page : IndexPage}

/-- The object of a path is in the bucket. -/
def Present (keys : List Str) (s3_path : Str) : Prop := ∃ key ∈ keys, s3_path = "/" ++ key

theorem index_page_eq
    (h : (transfer_project bucket_host bucket_name project_name upstream keys).index = some page) :
    page.link_data.map LinkData.s3_path =
        upstream.links.map (fun file => "/" ++ key_of project_name file) ∧
      ∀ key, key ∈ (transfer_project bucket_host bucket_name project_name upstream keys).keys ↔
        key ∈ keys ∨ ∃ file ∈ upstream.links, key = key_of project_name file ∧
          key_of project_name file ∉ keys ∧ ¬ GivenUp file.2 := by
  rw [transfer_project] at h ⊢
  split at h
  next => cases h
  next code hpage =>
    split at h
    next => cases h
    next hcode =>
      split at h
      next => cases h
      next hlists =>
        dsimp only at h ⊢
        split at h
        next => cases h
        next t hlinks =>
          split at h
          next => cases h
          next hascii =>
            obtain ⟨-, ⟨data, hdata, hpaths⟩, hkeys⟩ :=
              transfer_links_ok (not_not.mp hcode) hlinks
            dsimp only at h
            split at h
            next =>
              cases h
              refine ⟨?_, fun key => ?_⟩
              · rw [hdata, List.nil_append, hpaths]
              · rw [if_neg hcode, if_neg hlists, if_neg hascii, hkeys]
                simp only [mem_existing_iff, key_of]
            next => cases h

/-- Every file of an index page that was put in place is in the bucket exactly when for every
file that was not there before some try, to copy it or another file of its name, did not fail
or failed after the file was stored. -/
theorem index_complete_iff
    (h : (transfer_project bucket_host bucket_name project_name upstream keys).index = some page) :
    (∀ link ∈ page.link_data,
      Present (transfer_project bucket_host bucket_name project_name upstream keys).keys
        link.s3_path) ↔
      ∀ file ∈ upstream.links, key_of project_name file ∉ keys →
        ∃ file' ∈ upstream.links, file'.1.string = file.1.string ∧ ¬ GivenUp file'.2 := by
  obtain ⟨hpaths, hkeys⟩ := index_page_eq h
  have hlisted : (∀ link ∈ page.link_data,
      Present (transfer_project bucket_host bucket_name project_name upstream keys).keys
        link.s3_path) ↔ ∀ file ∈ upstream.links,
      key_of project_name file ∈
        (transfer_project bucket_host bucket_name project_name upstream keys).keys := by
    have hmap := congrArg (fun paths => ∀ path ∈ paths, Present
      (transfer_project bucket_host bucket_name project_name upstream keys).keys path) hpaths
    simp only [List.forall_mem_map] at hmap
    rw [hmap]
    refine forall₂_congr fun file _ => ?_
    constructor
    · rintro ⟨key, hkey, heq⟩
      rwa [List.append_cancel_left heq]
    · intro hkey
      exact ⟨_, hkey, rfl⟩
  rw [hlisted]
  refine forall₂_congr fun file _ => ?_
  rw [hkeys]
  have hname {file' : Link × (Nat → Attempt)} :
      key_of project_name file = key_of project_name file' ↔ file'.1.string = file.1.string :=
    ⟨fun heq => (List.append_cancel_left heq).symm, fun heq => by rw [key_of, key_of, heq]⟩
  constructor
  · rintro (hkey | ⟨file', hfile', heq, -, hnot⟩) hnew
    · exact absurd hkey hnew
    · exact ⟨file', hfile', hname.mp heq, hnot⟩
  · intro hall
    by_cases hnew : key_of project_name file ∈ keys
    · exact .inl hnew
    · obtain ⟨file', hfile', heq, hnot⟩ := hall hnew
      exact .inr ⟨file', hfile', hname.mpr heq, hname.mpr heq ▸ hnew, hnot⟩

end Index

/-! ## A page with one file -/

section Examples

/-- The file is copied at the first try. -/
def copied : Attempt := ⟨.ok ⟨200, some 1024, .ok ()⟩, .answered 200⟩

/-- The connection to the source fails. -/
def unreachable : Attempt := ⟨.error .HttpConnectionError, .answered 200⟩

def wheel : Link where
  href := some "https://files.pythonhosted.org/packages/sample-1.0.whl#sha256=0a"
  string := "sample-1.0.whl"
  data_requires_python := none

def onePage (attempt : Attempt) : Upstream where
  page := some 200
  links := [(wheel, fun _ => attempt)]
  lists := true
  index := fun _ => .answered 200

def wheelPage : IndexPage where
  link_data := [link_data "sample" wheel "sha256=0a"]
  html_str := html_str "s3.eu-west-2.amazonaws.com" "mirrors" [link_data "sample" wheel "sha256=0a"]

/-- The project is mirrored into an empty bucket. -/
def mirror_sample (attempt : Attempt) : Outcome :=
  transfer_project "s3.eu-west-2.amazonaws.com" "mirrors" "sample" (onePage attempt) []

theorem index_complete_copied : (mirror_sample copied).index = some wheelPage ∧
    ∀ link ∈ wheelPage.link_data, Present (mirror_sample copied).keys link.s3_path := by
  have hindex : (mirror_sample copied).index = some wheelPage := by decide +kernel
  refine ⟨hindex, (index_complete_iff hindex).mpr fun file hfile _ => ⟨file, hfile, rfl, ?_⟩⟩
  obtain rfl := List.mem_singleton.mp hfile
  exact fun h => absurd (h 0 (by decide)).1 (by decide)

/-- All ten connections fail, and the index page lists the file that nobody copied. -/
theorem index_incomplete : (mirror_sample unreachable).index = some wheelPage ∧
    (mirror_sample unreachable).raised = false ∧
    ¬ ∀ link ∈ wheelPage.link_data, Present (mirror_sample unreachable).keys link.s3_path := by
  have hkeys : (mirror_sample unreachable).keys = [] := by decide +kernel
  refine ⟨by decide +kernel, by decide +kernel, fun hall => ?_⟩
  obtain ⟨key, hkey, -⟩ := hall _ (List.mem_singleton_self _)
  rw [hkeys] at hkey
  cases hkey

end Examples

end Mirrors
