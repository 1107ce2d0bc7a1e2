import DataWorkspace.Http.Requoted
import DataWorkspace.Proxy.Paths

/-!
# The URLs of mirrors

`handle_mirror` appends the decoded path of a request to the root of the mirrors and has
`yarl` read the text as a URL again.  The text is read as a whole: a `?` or a `#` of the
path ends it, an escape the path still holds is taken as one, and dot segments are
resolved, those that lead out of the root among them.

`dispatch_below_iff` says for which paths what is asked for is what lies below the root
under the path of the request: the `Plain` ones.
-/

namespace Proxy

open Py Http Async

/-! ## URLs -/

/-- The parts of an absolute URL that say which resource is asked for. -/
structure Url where
  scheme : Str
  authority : Str
  raw_path : Str
deriving DecidableEq, Repr

/-- `url.path`. -/
def Url.path (url : Url) : Str := unquote url.raw_path

/-- A character of a path, not the start of a query or of a fragment. -/
def pathChar (c : Char) : Bool := c != '?' && c != '#'

/-- A path that a URL can hold as it is. -/
structure Plain (t : Str) : Prop where
  chars : t.all pathChar = true
  literal : Literal t

/-- The root of the mirrors, an absolute URL of a directory. -/
structure MirrorRoot where
  scheme : Str
  authority : Str
  directory : Str
  closed : directory = [] ∨ ∃ t, directory = t ++ ['/']
  plain : Plain directory

namespace MirrorRoot

def origin (root : MirrorRoot) : Str := root.scheme ++ "://" ++ root.authority

def path (root : MirrorRoot) : Str := '/' :: root.directory

/-- The root as it is configured. -/
def text (root : MirrorRoot) : Str := root.origin ++ root.path

end MirrorRoot

/-- What `yarl` documents about `URL(text)` for the texts below an origin: the path ends at
the first `?` or `#`, it is percent-encoded, and its dot segments are resolved. -/
structure ReadsUrls (URL : Str → Option Url) (requote : Str → Str) (root : MirrorRoot) : Prop where
  requotes : Requotes requote
  url : ∀ rest, URL (root.origin ++ '/' :: rest) =
    some ⟨root.scheme, root.authority,
      removeDotSegments (requote ('/' :: rest.takeWhile pathChar))⟩

/-- The URL has the scheme and the host of the root, its first segments are those of the
root, and the rest of its path is the given one. -/
def Url.Below (root : MirrorRoot) (mirror_path : Str) (url : Url) : Prop :=
  url.scheme = root.scheme ∧ url.authority = root.authority ∧ url.path = root.path ++ mirror_path

/-- `path[len(mirror_local_root):]`. -/
def mirror_path (path : Str) : Str := path.drop mirror_local_root.length

/-! ## Plain paths -/

section Plain

variable {s t : Str}

theorem literal_append_slash : Literal (s ++ '/' :: t) ↔ Literal s ∧ Literal t := by
  have hescape := hasEscape_append (c := '/') (by decide) s t
  have hsegs : segments (s ++ '/' :: t) = segments s ++ segments t :=
    List.splitOn_append_cons_self s t
  constructor
  · intro h
    have hnone := h.no_escape
    rw [hescape, Bool.or_eq_false_iff] at hnone
    have hdots := h.no_dots
    rw [hsegs] at hdots
    exact ⟨⟨hnone.1, fun x hx => hdots x (List.mem_append_left _ hx)⟩,
      ⟨hnone.2, fun x hx => hdots x (List.mem_append_right _ hx)⟩⟩
  · rintro ⟨hs, ht⟩
    refine ⟨by rw [hescape, hs.no_escape, ht.no_escape]; rfl, ?_⟩
    intro x hx
    rw [hsegs, List.mem_append] at hx
    exact hx.elim (hs.no_dots x) (ht.no_dots x)

theorem MirrorRoot.plain_append (root : MirrorRoot) : Plain (root.directory ++ t) ↔ Plain t := by
  have hchars : (root.directory ++ t).all pathChar = t.all pathChar := by
    rw [List.all_append, root.plain.chars, Bool.true_and]
  have hliteral : Literal (root.directory ++ t) ↔ Literal t := by
    rcases root.closed with hnil | ⟨d, hd⟩
    · rw [hnil, List.nil_append]
    · have hplain := root.plain.literal
      rw [hd, show d ++ ['/'] = d ++ '/' :: [] from rfl, literal_append_slash] at hplain
      rw [hd, List.append_assoc, List.singleton_append, literal_append_slash]
      exact ⟨And.right, fun h => ⟨hplain.1, h⟩⟩
  constructor
  · intro h
    exact ⟨hchars ▸ h.chars, hliteral.mp h.literal⟩
  · intro h
    exact ⟨hchars.trans h.chars, hliteral.mpr h.literal⟩

end Plain

/-! ## What is asked for -/

section Upstream

variable {cfg : Config} {URL : Str → Option Url} {requote : Str → Str} {root : MirrorRoot}

theorem ReadsUrls.path_iff (reads : ReadsUrls URL requote root) (t : Str) :
    unquote (removeDotSegments (requote ('/' :: t.takeWhile pathChar))) = '/' :: t ↔ Plain t := by
  constructor
  · intro heq
    have hle := reads.requotes.length_unquote_removeDotSegments_le (t.takeWhile pathChar)
    rw [heq, List.length_cons, List.length_cons] at hle
    have hall : t.takeWhile pathChar = t :=
      (List.takeWhile_prefix pathChar).eq_of_length_le (by omega)
    rw [hall] at heq
    exact ⟨List.all_eq_true.mpr (List.takeWhile_eq_self_iff.mp hall),
      (reads.requotes.unquote_removeDotSegments_iff t).mp heq⟩
  · intro hplain
    rw [List.takeWhile_eq_self_iff.mpr (List.all_eq_true.mp hplain.chars)]
    exact (reads.requotes.unquote_removeDotSegments_iff t).mpr hplain.literal

theorem ReadsUrls.below_iff (reads : ReadsUrls URL requote root) (t : Str) :
    (∃ url, URL (root.text ++ t) = some url ∧ url.Below root t) ↔ Plain t := by
  have hurl := reads.url (root.directory ++ t)
  have hpath := reads.path_iff (root.directory ++ t)
  rw [root.plain_append] at hpath
  have htext : root.text ++ t = root.origin ++ '/' :: (root.directory ++ t) := by
    rw [MirrorRoot.text, MirrorRoot.path, List.append_assoc, List.cons_append]
  rw [← hpath, htext, hurl]
  constructor
  · rintro ⟨url, hsome, -, -, heq⟩
    cases hsome
    exact heq
  · intro heq
    exact ⟨_, rfl, rfl, rfl, heq⟩

theorem dispatch_mirror {d : Downstream} (h : is_mirror_requested d.request = true) :
    dispatch cfg d = handle_mirror cfg d d.request.method d.request.path := by
  have happ : is_app_requested cfg d.request = false := by
    rw [is_mirror_requested] at h
    rw [is_app_requested, h, Bool.not_true, Bool.and_false, Bool.false_and]
  rw [dispatch, happ, h]
  rfl

/-- The one request that `handle_mirror` forwards. -/
def mirror_request (cfg : Config) (d : Downstream) : UpstreamRequest where
  forward := .mirror
  websocket := false
  method := d.request.method
  url := ⟨cfg.mirror_remote_root ++ mirror_path d.request.path, none, none⟩
  query := []
  headers := mirror_headers d
  data := get_data d.request

theorem performs_mirror_iff {d : Downstream} (h : is_mirror_requested d.request = true)
    {u : UpstreamRequest} :
    (∃ tr, Performs (dispatch cfg d) tr (.upstream u)) ↔ u = mirror_request cfg d := by
  rw [dispatch_mirror h]
  constructor
  · rintro ⟨tr, k, hsteps⟩
    have honly := (handle_http_only cfg d (mirror_request cfg d)).steps hsteps
    rcases honly.1 with heq | hforwards
    · cases heq
      rfl
    · cases hforwards
  · rintro rfl
    exact ⟨[], _, .refl⟩

/-- What is asked for on behalf of a request for a mirror lies below the root of the
mirrors, under the path of the request, exactly where that path is plain. -/
theorem dispatch_below_iff (reads : ReadsUrls URL requote root)
    (hroot : cfg.mirror_remote_root = root.text) {d : Downstream}
    (hmirror : is_mirror_requested d.request = true) :
    (∀ tr u, Performs (dispatch cfg d) tr (.upstream u) →
      ∃ url, URL u.url.base = some url ∧ url.Below root (mirror_path d.request.path)) ↔
      Plain (mirror_path d.request.path) := by
  have hbase : (mirror_request cfg d).url.base = root.text ++ mirror_path d.request.path := by
    rw [← hroot]
    rfl
  rw [← reads.below_iff, ← hbase]
  constructor
  · intro h
    obtain ⟨tr, hperforms⟩ := (performs_mirror_iff hmirror).mpr rfl
    exact h tr _ hperforms
  · intro h tr u hperforms
    obtain rfl := (performs_mirror_iff hmirror).mp ⟨tr, hperforms⟩
    exact h

end Upstream

/-! ## A path that leaves the root -/

/-- `URL(text)` for the texts in which nothing has to be encoded. -/
def read_url (text : Str) : Option Url :=
  let (scheme, sep, rest) := partition "://" text
  let inAuthority (c : Char) : Bool := c != '/' && pathChar c
  if sep = [] then none
  else some ⟨scheme, rest.takeWhile inAuthority,
    removeDotSegments ((rest.dropWhile inAuthority).takeWhile pathChar)⟩

/-- A folder of a bucket with the mirrors. -/
def remoteFolder : MirrorRoot where
  scheme := "http"
  authority := "127.0.0.1:8006"
  directory := "some-remote-folder/"
  closed := .inr ⟨"some-remote-folder", by decide⟩
  plain := ⟨by decide, by decide, by decide⟩

def mirrorConfig : Config :=
  { testConfig with mirror_remote_root := "http://127.0.0.1:8006/some-remote-folder/" }

theorem reads_remoteFolder : ReadsUrls read_url id remoteFolder where
  requotes := ⟨fun _ => (List.map_id _).symm, fun _ _ => rfl, fun _ => rfl⟩
  url rest := by
    have hpartition : partition "://" (remoteFolder.origin ++ '/' :: rest) =
        ("http".toList, "://".toList, "127.0.0.1:8006".toList ++ '/' :: rest) := rfl
    have hauthority : ∀ c ∈ ("127.0.0.1:8006" : Str), (c != '/' && pathChar c) = true :=
      List.all_eq_true.mp (by decide)
    unfold read_url
    rw [hpartition]
    simp only [List.takeWhile_append_of_pos hauthority, List.dropWhile_append_of_pos hauthority]
    rfl

/-- A request for a path by a user who is logged in. -/
def mirrorPage (path raw_path : Str) : Downstream where
  request := rootPage path raw_path
  sso_profile_headers := []
  session := ⟨some "cookie", []⟩

def simplePage : Downstream := mirrorPage "/__mirror/pypi/simple/" "/__mirror/pypi/simple/"

theorem dispatch_below_simple : Plain "pypi/simple/" ∧
    ∀ tr u, Performs (dispatch mirrorConfig simplePage) tr (.upstream u) →
      ∃ url, read_url u.url.base = some url ∧ url.Below remoteFolder "pypi/simple/" := by
  have hplain : Plain "pypi/simple/" := ⟨by decide, by decide, by decide⟩
  exact ⟨hplain, (dispatch_below_iff reads_remoteFolder (by decide)
    (d := simplePage) (by decide)).mpr hplain⟩

/-- A request whose decoded path leads out of the folder. -/
def escapingPage : Downstream :=
  mirrorPage "/__mirror/../another-folder/key" "/__mirror/%2e%2e/another-folder/key"

theorem dispatch_out_of_folder :
    escapingPage.request.path = unquote escapingPage.request.raw_path_qs ∧
      is_mirror_requested escapingPage.request = true ∧
      ∃ tr u, Performs (dispatch mirrorConfig escapingPage) tr (.upstream u) ∧
        read_url u.url.base = some ⟨"http", "127.0.0.1:8006", "/another-folder/key"⟩ ∧
        ¬ ∃ url, read_url u.url.base = some url ∧
          url.Below remoteFolder (mirror_path escapingPage.request.path) := by
  have hmirror : is_mirror_requested escapingPage.request = true := by decide
  have hurl : read_url (mirror_request mirrorConfig escapingPage).url.base =
      some ⟨"http", "127.0.0.1:8006", "/another-folder/key"⟩ := by decide
  obtain ⟨tr, hperforms⟩ := (performs_mirror_iff hmirror).mpr rfl
  refine ⟨by decide +kernel, hmirror, tr, _, hperforms, hurl, ?_⟩
  rintro ⟨url, hsome, -, -, hpath⟩
  rw [hurl] at hsome
  cases hsome
  exact absurd hpath (by decide +kernel)

end Proxy
