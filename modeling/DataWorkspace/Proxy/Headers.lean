import DataWorkspace.Proxy.Session

/-!
# The headers of forwarded requests

Each kind of server gets its own selection of the headers of the client, and behind
them what the proxy adds.  The admin application gets the headers on a list.  The
others get all headers but a few.
-/

namespace Proxy

open Py Http Async

/-- A request on its way through the proxy, with what the middlewares attach to it. -/
structure Downstream where
  request : Request
  sso_profile_headers : Headers
  session : Session
deriving DecidableEq, Repr

/-- The headers of the client that the admin application gets. -/
def required_admin_headers : List Str :=
  ["cookie", "host", "x-csrftoken", "x-data-workspace-no-modify-application-instance",
    "x-scheme", "x-forwarded-proto", "referer", "user-agent"]

def onlyHeaders (names : List Str) (h : Headers) : Headers := h.filter fun kv => lower kv.1 ∈ names

def exceptHeaders (names : List Str) (h : Headers) : Headers := h.filter fun kv => lower kv.1 ∉ names

def without_transfer_encoding (h : Headers) : Headers := exceptHeaders ["transfer-encoding"] h

def admin_headers_request (d : Downstream) : Headers :=
  onlyHeaders required_admin_headers d.request.headers ++ d.sso_profile_headers

def admin_headers_proxy (d : Downstream) : Headers :=
  onlyHeaders ("content-length" :: "content-type" :: required_admin_headers) d.request.headers ++
    d.sso_profile_headers

def mirror_headers (d : Downstream) : Headers :=
  exceptHeaders ["host", "transfer-encoding"] d.request.headers

def application_headers (d : Downstream) : Headers :=
  without_transfer_encoding d.request.headers ++
    (match d.request.headers.get? "x-forwarded-proto" with
      | some proto => [("x-scheme", proto)]
      | none => []) ++
    d.sso_profile_headers

/-- `s.capitalize()`, for ASCII text. -/
def capitalize : Str → Str
  | [] => []
  | c :: s => c.toUpper :: lower s

/-- `multi_word_header` as `Multi-Word-Header`. -/
def standardise_header (header : Str) : Str :=
  List.intercalate ['-'] (((header.map fun c => if c = '_' then '-' else c).splitOn '-').map capitalize)

/-- The headers that tell Superset what the user may see. -/
def credentials_headers (credentials : List (Str × Str)) (dashboards : List Str) : Headers :=
  (credentials.map fun kv => (("Credentials-" : Str) ++ standardise_header kv.1, kv.2)) ++
    [(("Dashboards" : Str), List.intercalate [','] dashboards)]

/-- The headers Superset gets, with the credentials and the dashboards of the user. -/
def superset_headers_of (d : Downstream) (credentials : List (Str × Str)) (dashboards : List Str) :
    Headers :=
  without_transfer_encoding d.request.headers ++ credentials_headers credentials dashboards ++
    d.sso_profile_headers

/-- `superset_headers(downstream_request, path)`. -/
def superset_headers (cfg : Config) (d : Downstream) (path : Str) : M Headers :=
  if startswith path "/static/" then .pure (superset_headers_of d [] [])
  else do
    let response ← await (.superset_credentials
      (cfg.admin_root ++ "/api/v1/core/get-superset-role-credentials") (admin_headers_request d))
    match response with
    | none => .raise .other
    | some r =>
        if r.status = 200 then .pure (superset_headers_of d r.credentials r.dashboards)
        else .raise (.user "Unable to fetch credentials for superset" r.status)

example : standardise_header "db_host" = "Db-Host" := by decide

/-- The headers that tell a server who the user is. -/
def profile_headers (p : Profile) : Headers :=
  [("sso-profile-email", p.email),
    ("sso-profile-contact-email", p.contact_email.getD []),
    ("sso-profile-related-emails", List.intercalate [','] (p.related_emails.getD [])),
    ("sso-profile-user-id", p.user_id),
    ("sso-profile-first-name", p.first_name),
    ("sso-profile-last-name", p.last_name)]

end Proxy
