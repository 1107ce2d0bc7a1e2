import DataWorkspace.Proxy.Effects
import DataWorkspace.Py.Collections

/-!
# Sessions

A session is a set of keys in Redis under the value of a cookie.  Values are read
one by one, and the values set while a request is handled are written when the
response is given its cookie.  A response gets a new cookie where the request logs
in or is sent to log in, and else the cookie of the request.

`redis_key_inj` says that the keys of two sessions differ.  The value of a cookie
and a key are only joined by underscores, and a browser may send any value, so this
rests on the keys: they have no underscore, but for that of the token.
-/

namespace Proxy

open Py Http Async

def REDIS_KEY_PREFIX : Str := "data_workspace_session___cookie"

/-- Cookies of these paths are sent to embedded pages too. -/
def embed_path : Str := "/visualisations/link"

def session_token_key : Str := "staff_sso_access_token"

def redis_key (cookie_value key : Str) : Str :=
  REDIS_KEY_PREFIX ++ "___" ++ cookie_value ++ "___" ++ key

/-- The session of a request: the value of its cookie, and what was set since. -/
structure Session where
  cookie_value : Option Str
  to_set : List (Str × Str)
deriving DecidableEq, Repr

/-- The session of a request before anything is set.  An empty cookie is none. -/
def Session.of (cfg : Config) (request : Request) : Session where
  cookie_value := ((request.cookies.lookup cfg.cookie_name).filter fun v => !v.isEmpty)
  to_set := []

/-- `get_value(key)`. -/
def get_value (s : Session) (key : Str) : M (Option Str) :=
  match s.cookie_value with
  | none => .pure none
  | some cookie_value => do
      let k ← ascii (redis_key cookie_value key)
      await (.redis_get k)

theorem wp_get_value {σ : Type} {I : Interp Ans σ} {s : Session} {key : Str}
    {Q : Except Exc (Option Str) → σ → Prop} {t : σ}
    (hnone : s.cookie_value = none → Q (.ok none) t)
    (hget : ∀ c, s.cookie_value = some c →
      I.pre (.redis_get (redis_key c key)) t ∧
        ∀ v t', I.step (.redis_get (redis_key c key)) t v t' → Q (.ok v) t')
    (hraise : ∀ c, s.cookie_value = some c → isAscii (redis_key c key) = false →
      Q (.error .other) t) : wp I (get_value s key) Q t := by
  unfold get_value
  split
  case h_1 h => exact hnone h
  case h_2 c h =>
    refine (wp_bind _ _ _ _).mpr (wp_ascii (fun _ => ?_) (hraise c h))
    exact hget c h

/-- `set_value(key, value)`. -/
def set_value (s : Session) (key value : Str) : Session :=
  { s with to_set := setItem key value s.to_set }

def write_values (cookie_value : Str) : List (Str × Str) → M Unit
  | [] => .pure ()
  | (key, value) :: to_set => do
      let k ← ascii (redis_key cookie_value key)
      let v ← ascii value
      await (.redis_set k v)
      write_values cookie_value to_set

/-- The cookie of a response. -/
def cookieFor (cfg : Config) (request : Request) (cookie_value : Str) : SetCookie :=
  let is_embed := startswith request.path (embed_path ++ "/")
  { name := cfg.cookie_name
    value := cookie_value
    domain := cfg.root_domain_no_port
    path := if is_embed then embed_path else "/"
    same_site := if is_embed then "None" else "Lax"
    secure := request_scheme request == ("https" : Str) }

/-- `with_cookie(response)`. -/
def with_cookie (cfg : Config) (request : Request) (s : Session) (response : Response) :
    M Response := do
  let cookie_value ←
    match s.cookie_value with
    | some v => .pure v
    | none => await .token_urlsafe
  write_values cookie_value s.to_set
  .pure { response with set_cookie := some (cookieFor cfg request cookie_value) }

/-- `with_new_cookie(response)`. -/
def with_new_cookie (cfg : Config) (request : Request) (s : Session) (response : Response) :
    M Response := do
  let cookie_value : Str ← await .token_urlsafe
  with_cookie cfg request { s with cookie_value := some cookie_value } response

/-! ## Keys -/

/-- The keys of sessions: those without an underscore, and that of the token. -/
def IsSessionKey (key : Str) : Prop := '_' ∉ key ∨ key = session_token_key

/-- The text behind the last underscore. -/
private def lastPart (s : Str) : Str := s.rtakeWhile fun c => c != '_'

private theorem lastPart_append {key : Str} (h : '_' ∉ key) (s : Str) :
    lastPart (s ++ '_' :: key) = key := by
  have hall : ∀ c ∈ key, (c != '_') = true := fun c hc => by
    rw [bne_iff_ne]
    exact fun he => h (he ▸ hc)
  unfold lastPart List.rtakeWhile
  rw [List.reverse_append, List.reverse_cons, List.append_assoc,
    List.takeWhile_append_of_pos (by simpa using hall)]
  simp

private theorem lastPart_redis_key {key : Str} (h : '_' ∉ key) (c : Str) :
    lastPart (redis_key c key) = key := by
  have hsplit : redis_key c key = (REDIS_KEY_PREFIX ++ "___" ++ c ++ "__") ++ '_' :: key := by
    rw [redis_key, show ("___" : Str) = ("__" : Str) ++ ['_'] from rfl]
    simp only [List.append_assoc, List.singleton_append]
  rw [hsplit, lastPart_append h]

/-- The letter that stands two before the last part of a key in Redis. -/
private def letterBefore (s : Str) : Option Char := (s.rdropWhile fun c => c != '_').dropLast.getLast?

private theorem letterBefore_append {key : Str} (h : '_' ∉ key) (s : Str) (c : Char) :
    letterBefore (s ++ c :: '_' :: key) = some c := by
  have hall : ∀ d ∈ key, (d != '_') = true := fun d hd => by
    rw [bne_iff_ne]
    exact fun he => h (he ▸ hd)
  have hsplit : s ++ c :: '_' :: key = (s ++ [c] ++ ['_']) ++ key := by simp
  unfold letterBefore
  rw [hsplit, List.rdropWhile, List.reverse_append,
    List.dropWhile_append_of_pos (by simpa using hall)]
  simp

private theorem letterBefore_plain {key : Str} (h : '_' ∉ key) (c : Str) :
    letterBefore (redis_key c key) = some '_' := by
  have hsplit : redis_key c key = (REDIS_KEY_PREFIX ++ "___" ++ c ++ "_") ++ '_' :: '_' :: key := by
    rw [redis_key, show ("___" : Str) = ("_" : Str) ++ ['_', '_'] from rfl]
    simp only [List.append_assoc, List.cons_append, List.nil_append]
  rw [hsplit, letterBefore_append h]

private theorem letterBefore_token (c : Str) :
    letterBefore (redis_key c session_token_key) = some 's' := by
  have hsplit : redis_key c session_token_key =
      (REDIS_KEY_PREFIX ++ "___" ++ c ++ "___" ++ "staff_sso_acces") ++
        's' :: '_' :: ("token" : Str) := by
    rw [redis_key, show session_token_key = ("staff_sso_acces" : Str) ++ 's' :: '_' :: "token" from rfl]
    simp only [List.append_assoc]
  rw [hsplit, letterBefore_append (by decide)]

/-- The keys of a session in Redis tell the cookie and the key, whatever value the
browser sent as its cookie. -/
theorem redis_key_inj {c c' key key' : Str} (hk : IsSessionKey key) (hk' : IsSessionKey key')
    (h : redis_key c key = redis_key c' key') : c = c' ∧ key = key' := by
  have hkey : key = key' := by
    rcases hk with hk | rfl <;> rcases hk' with hk' | rfl
    · rw [← lastPart_redis_key hk c, h, lastPart_redis_key hk' c']
    · have hl := letterBefore_plain hk c
      rw [h, letterBefore_token] at hl
      exact absurd hl (by decide)
    · have hl := letterBefore_plain hk' c'
      rw [← h, letterBefore_token] at hl
      exact absurd hl (by decide)
    · rfl
  subst hkey
  refine ⟨?_, rfl⟩
  unfold redis_key at h
  exact List.append_cancel_left (List.append_cancel_right (List.append_cancel_right h))

end Proxy
