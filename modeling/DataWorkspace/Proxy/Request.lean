import DataWorkspace.Http.Headers
import DataWorkspace.Py.Net
import DataWorkspace.Py.Space

/-!
# Requests to the proxy

The proxy stands in front of the Django admin application, the tools and
visualisations, Superset and the mirrors.  It tells by the host, the path and the
method of a request where to send it and how it has to be authenticated.  The
predicates that do so are collected here, under the names they have in the source.

A request has the parts of its URL as `yarl` gives them: `path` and `path_qs` are
decoded, `host` is without the port, and `raw_path_qs` is the path and query as they
were sent.
-/

namespace Proxy

open Py Http

/-- The environment the proxy is started with. -/
structure Config where
  root_domain : Str
  admin_root : Str
  superset_root : Str
  mirror_remote_root : Str
  sso_base_url : Str
  sso_client_id : Str
  sso_client_secret : Str
  basic_auth_user : Str
  basic_auth_password : Str
  x_forwarded_for_trusted_hops : Int
  application_ip_whitelist : List Str
  cookie_name : Str
deriving DecidableEq, Repr

namespace Config

/-- `root_domain.partition(":")[0]`. -/
def root_domain_no_port (cfg : Config) : Str := (partition ":" cfg.root_domain).1

def root_port (cfg : Config) : Option Int := int? (partition ":" cfg.root_domain).2.2

end Config

/-- The environment of the tests. -/
def testConfig : Config where
  root_domain := "dataworkspace.test:8000"
  admin_root := "http://localhost:8002"
  superset_root := "http://localhost:8008"
  mirror_remote_root := "http://localhost:8006/"
  sso_base_url := "http://localhost:8005/"
  sso_client_id := "the-client-id"
  sso_client_secret := "the-client-secret"
  basic_auth_user := "the-user"
  basic_auth_password := "the-password"
  x_forwarded_for_trusted_hops := 1
  application_ip_whitelist := ["127.0.0.1/32"]
  cookie_name := "data_workspace_session"

/-- The start of the paths that are sent to a mirror. -/
def mirror_local_root : Str := "/__mirror/"

/-- A request, as the web framework hands it over. -/
structure Request where
  method : Str
  /-- `request.url.scheme`, before `x-forwarded-proto` is looked at. -/
  scheme : Str
  host : Str
  port : Nat
  /-- The host and port of the URL as text. -/
  authority : Str
  /-- The decoded path. -/
  path : Str
  /-- The path and query, decoded. -/
  path_qs : Str
  /-- The path and query as they were sent. -/
  raw_path_qs : Str
  /-- The decoded query parameters. -/
  query : List (Str × Str)
  headers : Headers
  cookies : List (Str × Str)
  content : Str
deriving DecidableEq, Repr

section Predicates

variable (cfg : Config) (request : Request)

def is_service_discovery : Bool :=
  request.path == ("/api/v1/application" : Str) && request.host == cfg.root_domain_no_port &&
    request.method == ("GET" : Str)

def is_superset_requested : Bool :=
  request.host == ("superset." : Str) ++ cfg.root_domain_no_port ||
    request.host == ("superset-edit." : Str) ++ cfg.root_domain_no_port ||
    request.host == ("superset-admin." : Str) ++ cfg.root_domain_no_port

def is_data_explorer_requested : Bool :=
  startswith request.path "/data-explorer/" && request.host == cfg.root_domain_no_port

def is_app_requested : Bool :=
  endswith request.host (("." : Str) ++ cfg.root_domain_no_port) &&
    !startswith request.path mirror_local_root && !is_superset_requested cfg request

def is_mirror_requested : Bool := startswith request.path mirror_local_root

def is_requesting_credentials : Bool :=
  request.host == cfg.root_domain_no_port && request.path == ("/api/v1/aws_credentials" : Str)

def is_requesting_files : Bool :=
  request.host == cfg.root_domain_no_port && request.path == ("/files" : Str)

/-- The starts of the paths of the dataset API. -/
def dataset_roots : List Str :=
  ["/api/v1/dataset/", "/api/v1/reference-dataset/", "/api/v1/eventlog/", "/api/v1/account/",
    "/api/v1/application-instance/", "/api/v1/core/"]

def is_dataset_requested : Bool :=
  dataset_roots.any (startswith request.path) && request.host == cfg.root_domain_no_port

def is_hawk_auth_required : Bool := is_dataset_requested cfg request

def is_healthcheck_requested : Bool :=
  request.path == ("/healthcheck" : Str) && request.method == ("GET" : Str) &&
    !is_app_requested cfg request

def is_table_requested : Bool :=
  startswith request.path "/api/v1/table/" && request.host == cfg.root_domain_no_port &&
    request.method == ("POST" : Str)

def is_sso_auth_required : Bool :=
  !is_healthcheck_requested cfg request && !is_service_discovery cfg request &&
    !is_table_requested cfg request && !is_dataset_requested cfg request

/-- Whether the peer of the request has to be in the whitelist. -/
def ip_whitelist_required : Bool :=
  is_app_requested cfg request || is_superset_requested cfg request ||
    is_mirror_requested request || is_requesting_credentials cfg request ||
    is_requesting_files cfg request || is_data_explorer_requested cfg request

end Predicates

/-! ## The peer -/

/-- The address of the peer: an entry of `x-forwarded-for`, counted from the end.
`none` where the header or the entry is missing. -/
def get_peer_ip (cfg : Config) (request : Request) : Option Str := do
  let forwarded ← request.headers.get? "x-forwarded-for"
  let entry ← index? (forwarded.splitOn ',') (-cfg.x_forwarded_for_trusted_hops)
  some (stripSpace entry)

/-- Whether an address is in one of the networks.  `none` where a text it comes to
is no address or no network. -/
def inWhitelist (peer_ip : Str) : List Str → Option Bool
  | [] => some false
  | address_or_subnet :: rest =>
      match parseIPv4 peer_ip, parseNetwork address_or_subnet with
      | some address, some network => if network.mem address then some true else inWhitelist peer_ip rest
      | _, _ => none

/-- Whether the peer is in the whitelist, or `none` where that raises. -/
def peer_ip_in_whitelist (cfg : Config) (request : Request) : Option Bool :=
  (get_peer_ip cfg request).bind fun peer_ip => inWhitelist peer_ip cfg.application_ip_whitelist

/-! ## The URL -/

/-- The scheme, as the load balancer reports it. -/
def request_scheme (request : Request) : Str :=
  (request.headers.get? "x-forwarded-proto").getD request.scheme

/-- `str(request.url.with_scheme(request_scheme(request)))`. -/
def request_url (request : Request) : Str :=
  lower (request_scheme request) ++ "://" ++ request.authority ++ request.raw_path_qs

/-! ## Facts about the predicates -/

section Facts

variable {cfg : Config} {request : Request}

end Facts

end Proxy
