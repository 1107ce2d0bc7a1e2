import DataWorkspace.Async.Prog
import DataWorkspace.Proxy.Request

/-!
# What the proxy awaits

While it handles a request the proxy waits for Redis, for random numbers, for SSO,
for the check of a hawk header, for two APIs of the admin application, and for the
server it forwards to.  These are the operations of its programs.  An operation that
may fail has a value for failure among its answers.
-/

namespace Proxy

open Py Http Async

/-- A profile, as SSO reports it.  Older cached profiles lack two of the fields. -/
structure Profile where
  email : Str
  contact_email : Option Str
  related_emails : Option (List Str)
  user_id : Str
  first_name : Str
  last_name : Str
deriving DecidableEq, Repr

/-- What is checked about a hawk header. -/
structure HawkRequest where
  authorization : Str
  method : Str
  host : Str
  port : Nat
  path_qs : Str
  content_type : Str
  content : Str
deriving DecidableEq, Repr

/-- The kinds of server a request is forwarded to. -/
inductive Forward where
  | admin | application | superset | mirror
deriving DecidableEq, Repr

/-- `URL(base)`, possibly with another path and another port. -/
structure UpstreamUrl where
  base : Str
  with_path : Option Str
  with_port : Option Int
deriving DecidableEq, Repr

/-- The body of a forwarded request: nothing, or the body of the request. -/
inductive Data where
  | empty
  | content (s : Str)
deriving DecidableEq, Repr

structure UpstreamRequest where
  forward : Forward
  websocket : Bool
  method : Str
  url : UpstreamUrl
  query : List (Str × Str)
  headers : Headers
  data : Data
deriving DecidableEq, Repr

/-- The reply to a forwarded request. -/
structure UpstreamResponse where
  status : Nat
  headers : Headers
deriving DecidableEq, Repr

/-- What the application API says about an application. -/
structure Application where
  state : Str
  proxy_url : Option Str
  wrap : Str
deriving DecidableEq, Repr

/-- A reply of the application API. -/
structure ApiResponse where
  status : Nat
  application : Application
deriving DecidableEq, Repr

/-- A reply of the API for the credentials of Superset. -/
structure SupersetResponse where
  status : Nat
  credentials : List (Str × Str)
  dashboards : List Str
deriving DecidableEq, Repr

/-- The operations. -/
inductive Op where
  /-- `GET` and `SET` of a value of a session. -/
  | redis_get (key : Str)
  | redis_set (key value : Str)
  /-- `GET` and `SET` of a cached profile. -/
  | profile_get (key : Str)
  | profile_set (key : Str) (profile : Profile)
  /-- `secrets.token_urlsafe(64)` and `secrets.token_hex(32)`. -/
  | token_urlsafe
  | token_hex
  /-- Exchange a code for a token, and ask who a token belongs to. -/
  | sso_token (code redirect_uri : Str)
  | sso_me (token : Str)
  | hawk (request : HawkRequest)
  | application_api (method url : Str) (headers : Headers)
  | superset_credentials (url : Str) (headers : Headers)
  | upstream (request : UpstreamRequest)
deriving DecidableEq

/-- The answers.  `none` stands for an exception, except that `redis_get` and
`profile_get` answer `none` for a missing key and `hawk` answers the error message,
if any. -/
@[reducible] def Ans : Op → Type
  | .redis_get _ => Option Str
  | .redis_set _ _ => Unit
  | .profile_get _ => Option Profile
  | .profile_set _ _ => Unit
  | .token_urlsafe => Str
  | .token_hex => Str
  | .sso_token _ _ => Option Str
  | .sso_me _ => Option (Option Profile)
  | .hawk _ => Option Str
  | .application_api _ _ _ => Option ApiResponse
  | .superset_credentials _ _ => Option SupersetResponse
  | .upstream _ => Option UpstreamResponse

inductive Exc where
  | user (message : Str) (status : Nat)
  | other
deriving DecidableEq, Repr

/-- The programs of the proxy. -/
abbrev M := Prog Ans Exc

/-- Await one operation. -/
def await (o : Op) : M (Ans o) := .perform o

/-- A value, or an exception where Python raises one. -/
def orRaise {α : Type} (v : Option α) : M α := .ofOption .other v

/-- `s.encode("ascii")`. -/
def ascii (s : Str) : M Str := if isAscii s then .pure s else .raise .other

theorem wp_ascii {σ : Type} {I : Interp Ans σ} {s : Str} {Q : Except Exc Str → σ → Prop} {t : σ}
    (hok : isAscii s = true → Q (.ok s) t) (hraise : isAscii s = false → Q (.error .other) t) :
    wp I (ascii s) Q t := by
  unfold ascii
  split
  case isTrue h => exact hok h
  case isFalse h => exact hraise (Bool.not_eq_true _ ▸ h)

/-- A `set-cookie` header. -/
structure SetCookie where
  name : Str
  value : Str
  domain : Str
  path : Str
  same_site : Str
  secure : Bool
deriving DecidableEq, Repr

/-- A response to a browser. -/
structure Response where
  status : Nat
  headers : Headers
  set_cookie : Option SetCookie
deriving DecidableEq, Repr

/-- Where a response sends the browser. -/
def Response.location (r : Response) : Option Str := r.headers.get? "Location"

end Proxy
