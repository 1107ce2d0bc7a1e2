import DataWorkspace.Proxy.Headers

/-!
# Forwarding

`handle` sends an authenticated request on to the server it is for.  An application
is looked up first, and started when it is not running.  Whatever goes wrong, the
browser gets an error page of the admin application.

The content security policies of the responses are left out, and so is the report to
Google Analytics, which runs in a task of its own.
-/

namespace Proxy

open Py Http Async

/-- `get_data(downstream_request)`. -/
def get_data (request : Request) : Data :=
  if request.headers.contains "content-length" = false ∧
      lower ((request.headers.get? "transfer-encoding").getD []) ≠ "chunked" then .empty
  else .content request.content

/-- Whether the request asks for a websocket. -/
def is_websocket (request : Request) : Bool :=
  lower ((request.headers.get? "connection").getD []) == ("upgrade" : Str) &&
    lower ((request.headers.get? "upgrade").getD []) == ("websocket" : Str)

/-- `handle_http`, and `handle_websocket` for websockets. -/
def handle_http (cfg : Config) (d : Downstream) (upstream : UpstreamRequest) : M Response := do
  let response ← await (.upstream upstream)
  match response with
  | none => .raise .other
  | some r =>
      with_cookie cfg d.request d.session
        { status := r.status, headers := without_transfer_encoding r.headers, set_cookie := none }

/-- `handle_admin`. -/
def handle_admin (cfg : Config) (d : Downstream) (method : Str) (headers : Headers) (path : Str)
    (query : List (Str × Str)) (data : Data) : M Response :=
  handle_http cfg d
    { forward := .admin, websocket := false, method := method
      url := ⟨cfg.admin_root, some path, none⟩
      query := query, headers := headers, data := data }

/-- A page of the admin application that the proxy asks for by itself. -/
def admin_page (cfg : Config) (d : Downstream) (url : UpstreamUrl) (params : List (Str × Str)) :
    M Response :=
  handle_http cfg d
    { forward := .admin, websocket := false, method := "GET", url := url, query := params
      headers := admin_headers_request d, data := .empty }

/-- `handle_mirror`. -/
def handle_mirror (cfg : Config) (d : Downstream) (method path : Str) : M Response :=
  handle_http cfg d
    { forward := .mirror, websocket := false, method := method
      url := ⟨cfg.mirror_remote_root ++ path.drop mirror_local_root.length, none, none⟩
      query := [], headers := mirror_headers d, data := get_data d.request }

/-- `handle_superset`. -/
def handle_superset (cfg : Config) (d : Downstream) (method path : Str)
    (query : List (Str × Str)) : M Response := do
  let _ ← orRaise (d.request.headers.get? "host")
  let headers ← superset_headers cfg d path
  handle_http cfg d
    { forward := .superset, websocket := false, method := method
      url := ⟨cfg.superset_root, some path, none⟩
      query := query, headers := headers, data := get_data d.request }

/-! ## Applications -/

/-- The host of an application, and the port the request overrides: `name--8888` is
port 8888 of `name`. -/
def public_host_and_port (cfg : Config) (host : Str) : Str × Option Int :=
  let public_host := (partition (("." : Str) ++ cfg.root_domain_no_port) host).1
  let (possible_public_host, _, override) := rpartition "--" public_host
  match int? override with
  | some port => if 1 ≤ port ∧ port ≤ 65535 then (possible_public_host, some port) else (public_host, none)
  | none => (public_host, none)

/-- Whether the client asks not to start or stop applications. -/
def noModify (request : Request) : Bool :=
  request.headers.contains "x-data-workspace-no-modify-application-instance"

/-- The application is starting or running. -/
def isUp (application : Application) : Bool :=
  application.state == ("SPAWNING" : Str) || application.state == ("RUNNING" : Str)

/-- Look an application up, and start it when it does not exist. -/
def find_application (d : Downstream) (host_api_url : Str) : M Application := do
  let found ← orRaise (← await (.application_api "GET" host_api_url (admin_headers_request d)))
  if found.status ≠ 200 ∧ found.status ≠ 404 then
    .raise (.user "Unable to start the application" found.status)
  else if found.status = 200 ∧ isUp found.application = false then do
    if noModify d.request then .pure ()
    else
      let _ ← orRaise (← await (.application_api "DELETE" host_api_url (admin_headers_request d)))
      .pure ()
    .raise (.user (("Application " : Str) ++ found.application.state) 500)
  else do
    let started ←
      if found.status = 200 then .pure found
      else if noModify d.request then .raise (.user "Application stopped while starting" 500)
      else orRaise (← await (.application_api "PUT" host_api_url (admin_headers_request d)))
    if started.status ≠ 200 then .raise (.user "Unable to start the application" started.status)
    else if isUp started.application = false then
      .raise (.user (("Attempted to start the application, but it " : Str) ++
        started.application.state) 500)
    else .pure started.application

/-- A request to an application itself. -/
def application_request (d : Downstream) (websocket : Bool) (method : Str) (url : UpstreamUrl)
    (query : List (Str × Str)) : UpstreamRequest where
  forward := .application
  websocket := websocket
  method := method
  url := url
  query := query
  headers := application_headers d
  data := if websocket then .empty else get_data d.request

/-- `handle_application_http_spawning`: the page that waits, unless the application
answers already. -/
def handle_application_http_spawning (cfg : Config) (d : Downstream) (method : Str)
    (url : UpstreamUrl) (query : List (Str × Str)) (host_html_path host_api_url : Str) :
    M Response := do
  let _ ← orRaise (d.request.headers.get? "host")
  let attempted : Except Exc Response ←
    (handle_http cfg d (application_request d false method url query)).attempt
  match attempted with
  | .error _ => admin_page cfg d ⟨cfg.admin_root ++ host_html_path ++ "/spawning", none, none⟩ []
  | .ok response => do
      -- the state is set in another task, whose outcome nobody awaits
      let _ ← await (.application_api "PATCH" host_api_url (admin_headers_request d))
      .pure response

/-- `handle_application`. -/
def handle_application (cfg : Config) (d : Downstream) (method path : Str)
    (query : List (Str × Str)) : M Response := do
  let (public_host, port_override) := public_host_and_port cfg d.request.host
  let host_api_url := cfg.admin_root ++ "/api/v1/application/" ++ public_host
  let host_html_path := ("/tools/" : Str) ++ public_host
  let application ← find_application d host_api_url
  match application.proxy_url with
  | none => admin_page cfg d ⟨cfg.admin_root ++ host_html_path ++ "/spawning", none, none⟩ []
  | some proxy_url =>
      let url : UpstreamUrl := ⟨proxy_url, some path, port_override⟩
      if is_websocket d.request then
        handle_http cfg d (application_request d true "GET" url query)
      else if application.state = "SPAWNING" then
        handle_application_http_spawning cfg d method url query host_html_path host_api_url
      else if application.state = "RUNNING" ∧ application.wrap ≠ "NONE" ∧ port_override = none then
        admin_page cfg d ⟨cfg.admin_root ++ host_html_path ++ "/running", none, none⟩ []
      else do
        let _ ← orRaise (d.request.headers.get? "host")
        handle_http cfg d (application_request d false method url query)

/-! ## Dispatch -/

def routed_methods : List Str := ["DELETE", "GET", "HEAD", "OPTIONS", "PATCH", "POST", "PUT"]

/-- The server a request is for. -/
def dispatch (cfg : Config) (d : Downstream) : M Response :=
  let r := d.request
  if is_app_requested cfg r then handle_application cfg d r.method r.path r.query
  else if is_mirror_requested r then handle_mirror cfg d r.method r.path
  else if is_superset_requested cfg r then handle_superset cfg d r.method r.path r.query
  else handle_admin cfg d r.method (admin_headers_proxy d) r.path r.query (get_data r)

/-- The page for an exception. -/
def error_page (cfg : Config) (d : Downstream) : Exc → M Response
  | .user message status =>
      admin_page cfg d ⟨cfg.admin_root, some (("/error_" : Str) ++ str status), none⟩
        [("message", message)]
  | .other => admin_page cfg d ⟨cfg.admin_root, some "/error_500", none⟩ []

/-- `handle`.  Other methods have no route. -/
def handle (cfg : Config) (d : Downstream) : M Response :=
  if d.request.method ∈ routed_methods then do
    let outcome : Except Exc Response ← (dispatch cfg d).attempt
    match outcome with
    | .ok response => .pure response
    | .error e => if is_websocket d.request then .raise e else error_page cfg d e
  else .raise .other

end Proxy
