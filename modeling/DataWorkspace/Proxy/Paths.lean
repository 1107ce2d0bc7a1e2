import DataWorkspace.Http.DotSegments
import DataWorkspace.Proxy.Forwarding

/-!
# The path of a request and the path that is forwarded

The proxy decides by the path of a request whether to ask for a login and whether the
whitelist applies.  It decodes the path for that, and does not resolve its dot segments.
The URL of the admin application is made with the same path, and there the dot segments
are resolved.

Each path predicate asks for one area of the site.  `requested_iff_agree` says when all
of them see the same before and after: when the dot segments of the path lead neither
into an area nor out of one.
-/

namespace Proxy

open Py Http Async

/-! ## Areas -/

/-- The areas of the site that the proxy treats in a way of their own. -/
inductive Area where
  | data_explorer | files | credentials | dataset | table | healthcheck | service_discovery
deriving DecidableEq, Repr

def Area.requested (cfg : Config) (r : Request) : Area → Bool
  | .data_explorer => is_data_explorer_requested cfg r
  | .files => is_requesting_files cfg r
  | .credentials => is_requesting_credentials cfg r
  | .dataset => is_dataset_requested cfg r
  | .table => is_table_requested cfg r
  | .healthcheck => is_healthcheck_requested cfg r
  | .service_discovery => is_service_discovery cfg r

/-- The host is that of an application. -/
def isAppHost (cfg : Config) (r : Request) : Bool :=
  endswith r.host (("." : Str) ++ cfg.root_domain_no_port) && !is_superset_requested cfg r

def Area.visible (cfg : Config) (r : Request) : Area → Bool
  | .data_explorer => r.host == cfg.root_domain_no_port
  | .files => r.host == cfg.root_domain_no_port
  | .credentials => r.host == cfg.root_domain_no_port
  | .dataset => r.host == cfg.root_domain_no_port
  | .table => r.host == cfg.root_domain_no_port && r.method == ("POST" : Str)
  | .healthcheck => r.method == ("GET" : Str) && !isAppHost cfg r
  | .service_discovery => r.host == cfg.root_domain_no_port && r.method == ("GET" : Str)

/-- The directories of the dataset API below `/api/v1`. -/
def dataset_directories : List Str :=
  ["dataset", "reference-dataset", "eventlog", "account", "application-instance", "core"]

/-- The segments of a path lie in the area. -/
def Area.covers (segs : List Str) : Area → Bool
  | .data_explorer => under ["data-explorer"] segs
  | .files => segs == (["files"] : List Str)
  | .credentials => segs == (["api", "v1", "aws_credentials"] : List Str)
  | .dataset => dataset_directories.any fun name => under ["api", "v1", name] segs
  | .table => under ["api", "v1", "table"] segs
  | .healthcheck => segs == (["healthcheck"] : List Str)
  | .service_discovery => segs == (["api", "v1", "application"] : List Str)

section Areas

variable {cfg : Config} {r : Request} {t : Str}

theorem path_beq (root : Str) (ht : r.path = '/' :: t) :
    (r.path == '/' :: root) = (segments t == segments root) := by
  rw [ht, Bool.eq_iff_iff, beq_iff_eq, beq_iff_eq, segments_inj, List.cons_inj_right]

theorem path_startswith (root : Str) (ht : r.path = '/' :: t) :
    startswith r.path ('/' :: (root ++ ['/'])) = under (segments root) (segments t) := by
  rw [ht, ← startswith_slash root t]
  rfl

theorem healthcheck_app (h : r.path = "/healthcheck") : is_app_requested cfg r = isAppHost cfg r := by
  rw [is_app_requested, isAppHost, h, show startswith "/healthcheck" mirror_local_root = false from rfl]
  rw [Bool.not_false, Bool.and_true]

theorem requested_eq (ht : r.path = '/' :: t) (a : Area) :
    a.requested cfg r = (a.visible cfg r && a.covers (segments t)) := by
  have hroot (root : Str) (b : Bool) : (b && startswith r.path ('/' :: (root ++ ['/']))) =
      (b && under (segments root) (segments t)) := by rw [path_startswith root ht]
  have heq (root : Str) (b : Bool) : (b && r.path == '/' :: root) =
      (b && segments t == segments root) := by rw [path_beq root ht]
  cases a with
  | data_explorer =>
      rw [Area.requested, is_data_explorer_requested, Bool.and_comm]
      exact hroot "data-explorer" _
  | files => exact heq "files" _
  | credentials => exact heq "api/v1/aws_credentials" _
  | dataset =>
      rw [Area.requested, is_dataset_requested, Bool.and_comm]
      refine congrArg (r.host == cfg.root_domain_no_port && ·) ?_
      simp only [dataset_roots, List.any_cons, List.any_nil]
      refine congrArg₂ or (path_startswith "api/v1/dataset" ht) ?_
      refine congrArg₂ or (path_startswith "api/v1/reference-dataset" ht) ?_
      refine congrArg₂ or (path_startswith "api/v1/eventlog" ht) ?_
      refine congrArg₂ or (path_startswith "api/v1/account" ht) ?_
      refine congrArg₂ or (path_startswith "api/v1/application-instance" ht) ?_
      exact congrArg₂ or (path_startswith "api/v1/core" ht) rfl
  | table =>
      rw [Area.requested, is_table_requested, Bool.and_assoc, Bool.and_comm]
      exact hroot "api/v1/table" _
  | healthcheck =>
      rw [Area.requested, is_healthcheck_requested, Bool.and_assoc]
      by_cases h : r.path = "/healthcheck"
      · rw [healthcheck_app h, Bool.and_comm]
        exact heq "healthcheck" _
      · have hne : (r.path == ("/healthcheck" : Str)) = false := beq_eq_false_iff_ne.mpr h
        have hsegs := path_beq "healthcheck" ht
        rw [hne, Bool.false_and]
        exact ((congrArg (Area.visible cfg r .healthcheck && ·) (hsegs.symm.trans hne)).trans
          (Bool.and_false _)).symm
  | service_discovery =>
      rw [Area.requested, is_service_discovery, Bool.and_assoc, Bool.and_comm]
      exact heq "api/v1/application" _

end Areas

/-! ## The path of the URL of the admin application -/

section Upstream

variable {cfg : Config} {r : Request} {with_path : Str → Str} {safe : Str}

/-- The request as it would be with the path of the URL it is forwarded to: the path
`URL(admin_root).with_path(request.url.path).path`. -/
def asForwarded (with_path : Str → Str) (r : Request) : Request :=
  { r with path := unquote (with_path r.path) }

theorem visible_asForwarded (a : Area) :
    a.visible cfg (asForwarded with_path r) = a.visible cfg r := by
  cases a <;> rfl

/-- Resolving takes the path into the area, or out of it. -/
def Area.crossed (segs : List Str) (a : Area) : Bool := a.covers segs != a.covers (resolve [] segs)

/-- All path predicates have the same value for the path of a request and for the path
that is forwarded, exactly when the dot segments of the path cross the border of no
area. -/
theorem requested_iff_agree
    (hwith : ∀ p, startswith p "/" = true → with_path p = removeDotSegments (quote safe p))
    (hslash : '/' ∈ safe) (hpercent : '%' ∉ safe) {t : Str} (ht : r.path = '/' :: t) :
    (∀ a : Area, a.requested cfg (asForwarded with_path r) = a.requested cfg r) ↔
      ∀ a : Area, a.visible cfg r = true → a.crossed (segments t) = false := by
  have hpath : (asForwarded with_path r).path = '/' :: joinSegments (resolve [] (segments t)) := by
    rw [asForwarded, ht, hwith _ rfl, removeDotSegments_quote hslash hpercent,
      unquote_quote hpercent]
    rfl
  refine forall_congr' fun a => ?_
  rw [requested_eq hpath, requested_eq ht, visible_asForwarded, segments_resolved, Area.crossed]
  cases a.visible cfg r <;> cases a.covers (segments t) <;>
    cases a.covers (resolve [] (segments t)) <;> decide

end Upstream

/-! ## A path that crosses a border -/

/-- The characters `with_path` leaves as they are, next to those that are always safe. -/
def path_safe : Str := "!$'()*,;=@:/+"

/-- `URL(admin_root).with_path(path).raw_path`. -/
def url_with_path (path : Str) : Str := removeDotSegments (quote path_safe path)

/-- A request for a path of the root domain, by a user who is logged in. -/
def rootPage (path raw_path : Str) : Request where
  method := "GET"
  scheme := "http"
  host := "dataworkspace.test"
  port := 8000
  authority := "dataworkspace.test:8000"
  path := path
  path_qs := path
  raw_path_qs := raw_path
  query := []
  headers := [("host", "dataworkspace.test:8000"), ("x-forwarded-for", "8.8.8.8")]
  cookies := [("data_workspace_session", "cookie")]
  content := []

/-- Dot segments within an area of the site cross no border. -/
theorem requested_agree_example :
    (∀ a : Area, a.requested testConfig (asForwarded url_with_path (rootPage "/files/./x" "/files/./x")) =
        a.requested testConfig (rootPage "/files/./x" "/files/./x")) ↔
      ∀ a : Area, a.visible testConfig (rootPage "/files/./x" "/files/./x") = true →
        a.crossed (segments "files/./x") = false :=
  requested_iff_agree (fun _ _ => rfl) (by decide) (by decide) rfl

/-- The whitelist does not apply to the request, and what is forwarded is for the data
explorer, to which it applies. -/
theorem data_explorer_without_whitelist :
    ∃ r : Request, r.path = unquote r.raw_path_qs ∧
      is_data_explorer_requested testConfig r = false ∧
      ip_whitelist_required testConfig r = false ∧ peer_ip_in_whitelist testConfig r = some false ∧
      is_data_explorer_requested testConfig (asForwarded url_with_path r) = true ∧
      ∃ tr u, Performs (serve testConfig r) tr (.upstream u) ∧ u.forward = .admin ∧
        u.url = ⟨testConfig.admin_root, some r.path, none⟩ := by
  refine ⟨rootPage "/x/../data-explorer/" "/x/%2e%2e/data-explorer/", by decide +kernel, by decide,
    by decide, by decide, by decide +kernel,
    [⟨.redis_get (redis_key "cookie" session_token_key), some "token"⟩,
      ⟨.profile_get (redis_profile_key "token"), some ann⟩], ?u, ⟨?k, ?_⟩, ?_, ?_⟩
  rotate_left 2
  · refine .op (a := some ("token" : Str)) rfl ?_
    refine .op (a := some ann) rfl ?_
    exact .refl
  · rfl
  · rfl

end Proxy
