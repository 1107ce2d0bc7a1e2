import DataWorkspace.Proxy.Handlers
import DataWorkspace.Py.Quote

/-!
# Authentication

A request passes through the middlewares in order.  The first gives it a session,
the next three authenticate it by SSO, by basic auth or by hawk, where each decides
by the predicates on requests whether it is concerned, and the last checks the
address of the peer.  Then it is forwarded.

A browser without a token is redirected to SSO and comes back with a code.  The URL
it was on its way to travels in the `state` parameter, behind a random key, and
stands in the session under that key.
-/

namespace Proxy

open Py Http Async

/-! ## Staff SSO -/

def PROFILE_CACHE_PREFIX : Str := "data_workspace_profile"

/-- Where SSO sends the browser back to. -/
def redirect_from_sso_path : Str := "/__redirect_from_sso"

/-- `URL(u).scheme`, or `none` where there is none to build a URL with. -/
def url_scheme (u : Str) : Option Str :=
  match partition ":" u with
  | (scheme, _ :: _, rest) =>
      if scheme ≠ [] ∧ (scheme.all fun c => c.isAlphanum || c ∈ ['+', '-', '.']) ∧
          (rest = [] ∨ ¬ rest.all Char.isDigit) then some (lower scheme)
      else none
  | _ => none

/-- The URL SSO sends the browser back to. -/
def get_redirect_uri_callback (cfg : Config) (scheme : Str) : Str :=
  scheme ++ "://" ++ cfg.root_domain_no_port ++
    (match cfg.root_port with
      | some port => (":" : Str) ++ (toString port).toList
      | none => []) ++
    redirect_from_sso_path

/-- The `state` parameter, quoted for the query of a URL. -/
def sso_state_of (session_key redirect_uri_final : Str) : Str :=
  quote [] (session_key ++ "_" ++ redirect_uri_final)

def authorise_url (cfg : Config) (sso_state scheme : Str) : Str :=
  cfg.sso_base_url ++ "o/authorize/" ++ "?scope=read write&state=" ++ sso_state ++
    "&redirect_uri=" ++ quote [] (get_redirect_uri_callback cfg scheme) ++
    "&response_type=code&client_id=" ++ cfg.sso_client_id

def redirect (location : Str) : Response where
  status := 302
  headers := [("Location", location)]
  set_cookie := none

/-- `redirection_to_sso`. -/
def redirection_to_sso (cfg : Config) (request : Request) (s : Session)
    (redirect_uri_final : Str) : M Response := do
  let scheme ← orRaise (url_scheme redirect_uri_final)
  let session_key : Str ← await .token_hex
  with_new_cookie cfg request (set_value s session_key redirect_uri_final)
    (redirect (authorise_url cfg (sso_state_of session_key redirect_uri_final) scheme))

/-- The key and the URL in a `state` parameter. -/
def parse_sso_state (sso_state : Str) : Str × Str :=
  ((partition "_" (unquote sso_state)).1, (partition "_" (unquote sso_state)).2.2)

/-- A request that comes back from SSO. -/
def redirect_from_sso (cfg : Config) (request : Request) (s : Session) : M Response := do
  let code ← orRaise (request.query.lookup ("code" : Str))
  let sso_state ← orRaise (request.query.lookup ("state" : Str))
  let redirect_uri_final_from_url := (parse_sso_state sso_state).2
  let redirect_uri_final_from_session ← get_value s (parse_sso_state sso_state).1
  if redirect_uri_final_from_session ≠ some redirect_uri_final_from_url then
    redirection_to_sso cfg request s redirect_uri_final_from_url
  else do
    let access_token ← orRaise (← await
      (.sso_token code (get_redirect_uri_callback cfg (request_scheme request))))
    with_new_cookie cfg request (set_value s session_token_key access_token)
      (redirect redirect_uri_final_from_url)

def redis_profile_key (token : Str) : Str :=
  PROFILE_CACHE_PREFIX ++ "___" ++ session_token_key ++ "___" ++ token

def find_profile (token : Str) : M (Option Profile) := do
  let key ← ascii (redis_profile_key token)
  let cached : Option Profile ← await (.profile_get key)
  match cached with
  | some profile => .pure (some profile)
  | none => do
      let me ← orRaise (← await (.sso_me token))
      match me with
      | none => .pure none
      | some profile => do
          await (.profile_set key profile)
          .pure (some profile)

/-- `authenticate_by_staff_sso`. -/
def authenticate_by_staff_sso (cfg : Config) (handler : Downstream → M Response)
    (request : Request) (s : Session) : M Response :=
  if is_sso_auth_required cfg request = false then handler ⟨request, [], s⟩
  else do
    let token ← get_value s session_token_key
    if request.path = redirect_from_sso_path then redirect_from_sso cfg request s
    else
      match token with
      | none => redirection_to_sso cfg request s (request_url request)
      | some token => do
          let profile ← find_profile token
          match profile with
          | none => redirection_to_sso cfg request s (request_url request)
          | some profile => handler ⟨request, profile_headers profile, s⟩

/-! ## Basic auth, hawk and the whitelist -/

/-- The refusal of a request. -/
def unauthorized : Response := ⟨401, [], none⟩

/-- The value of the `Authorization` header that basic auth asks for. -/
def required_auth_value (cfg : Config) : Str :=
  b64encode (encode (cfg.basic_auth_user ++ ":" ++ cfg.basic_auth_password))

/-- The value of the `Authorization` header of a request, behind `Basic `. -/
def auth_value (authorization : Str) : Str := strip (authorization.drop 6)

/-- The request carries the user and password of basic auth. -/
def basicAuthenticated (cfg : Config) (request : Request) : Bool :=
  (request.headers.get? "authorization").any fun v => auth_value v == required_auth_value cfg

/-- `authenticate_by_basic_auth`. -/
def authenticate_by_basic_auth (cfg : Config) (handler : Downstream → M Response)
    (d : Downstream) : M Response :=
  if is_service_discovery cfg d.request = false then handler d
  else
    match d.request.headers.get? "authorization" with
    | none => .pure unauthorized
    | some authorization => do
        let value ← ascii (auth_value authorization)
        if value ≠ required_auth_value cfg then .pure unauthorized else handler d

/-- What is checked of a request with a hawk header. -/
def hawkRequest (request : Request) (authorization content_type : Str) : HawkRequest where
  authorization := authorization
  method := request.method
  host := request.host
  port := request.port
  path_qs := request.path_qs
  content_type := content_type
  content := request.content

/-- `authenticate_by_hawk_auth`. -/
def authenticate_by_hawk_auth (cfg : Config) (handler : Downstream → M Response)
    (d : Downstream) : M Response :=
  if is_hawk_auth_required cfg d.request = false then handler d
  else
    match d.request.headers.get? "authorization" with
    | none => .pure unauthorized
    | some authorization => do
        let content_type ← orRaise (d.request.headers.get? "content-type")
        let error_message : Option Str ←
          await (.hawk (hawkRequest d.request authorization content_type))
        match error_message with
        | some _ => .pure unauthorized
        | none => handler d

/-- `authenticate_by_ip_whitelist`. -/
def authenticate_by_ip_whitelist (cfg : Config) (handler : Downstream → M Response)
    (d : Downstream) : M Response :=
  if ip_whitelist_required cfg d.request = false then handler d
  else do
    let peer_ip_in_whitelist ← orRaise (peer_ip_in_whitelist cfg d.request)
    if peer_ip_in_whitelist then handler d
    else handle_admin cfg d "GET" (admin_headers_request d) "/error_403" [] .empty

/-! ## The proxy -/

/-- What the proxy does with a request. -/
def serve (cfg : Config) (request : Request) : M Response :=
  authenticate_by_staff_sso cfg
    (authenticate_by_basic_auth cfg
      (authenticate_by_hawk_auth cfg
        (authenticate_by_ip_whitelist cfg (handle cfg))))
    request (Session.of cfg request)

end Proxy
