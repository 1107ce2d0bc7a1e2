import DataWorkspace.Proxy.Flows

/-!
# The URL after a login

A browser that is redirected to SSO has the URL it was on its way to in the `state`
parameter.  The state is quoted once, for the query of the authorise URL, and the web
framework decodes the query of the callback once.  Then `parse_sso_state` decodes it
again.

This changes a URL that has an escape.  It does not agree with the session any more, so
the browser is sent to SSO with the URL it has become, and comes back, until no escape
is left (`EndsAt.unescaped`).  The browser ends at the URL it was on its way to exactly
if there was no escape to begin with (`ends_at_request_url_iff`).
-/

namespace Proxy

open Py Http Async

/-! ## Following a redirect -/

/-- The request is redirected to SSO with a key and a URL in the state, and the URL is
stored under the key in the session of the cookie. -/
structure SentToSso (cfg : Config) (r : Request) (tr : Trace) (cookie : SetCookie) (k u : Str) :
    Prop where
  returns : ∃ response scheme, Returns (serve cfg r) tr (.ok response) ∧
    response.location = some (authorise_url cfg (sso_state_of k u) scheme) ∧
      response.set_cookie = some cookie
  key : IsKey k
  token : IsToken cookie.value
  written : (⟨.redis_set (redis_key cookie.value k) u, ()⟩ : Event Ans) ∈ tr

/-- The browser comes back from SSO with the state as it was in the authorise URL, which
the web framework decodes.  It sends the cookie if its path is that of the site, and
only the session of the cookie has the key. -/
structure ComesBack (cfg : Config) (decode : Str → Str) (cookie : SetCookie) (k u : Str)
    (r : Request) (tr : Trace) : Prop where
  path : IsCallback r
  code : (r.query.lookup ("code" : Str)).isSome = true
  state : r.query.lookup ("state" : Str) = some (decode (sso_state_of k u))
  carried : (Session.of cfg r).cookie_value = some cookie.value ↔ cookie.path = "/"
  session : ∀ c a, (⟨.redis_get (redis_key c k), a⟩ : Event Ans) ∈ tr →
    a = if c = cookie.value then some u else none

/-- A browser that has the cookie and was redirected to SSO is finally sent to a
location, possibly after some more redirects to SSO. -/
inductive EndsAt (cfg : Config) (decode : Str → Str) : SetCookie → Str → Str → Str → Prop where
  | here {cookie : SetCookie} {k u loc : Str} {r : Request} {tr : Trace} {response : Response} :
      ComesBack cfg decode cookie k u r tr → Returns (serve cfg r) tr (.ok response) →
      (∀ k', (⟨.token_hex, k'⟩ : Event Ans) ∉ tr) → response.location = some loc →
      EndsAt cfg decode cookie k u loc
  | again {cookie cookie' : SetCookie} {k k' u u' loc : Str} {r : Request} {tr : Trace} :
      ComesBack cfg decode cookie k u r tr → SentToSso cfg r tr cookie' k' u' →
      EndsAt cfg decode cookie' k' u' loc → EndsAt cfg decode cookie k u loc

section RoundTrip

variable {cfg : Config} {decode : Str → Str} {r : Request} {tr : Trace} {cookie : SetCookie}
  {k u loc : Str}

/-! ## One round -/

theorem SentToSso.target (h : SentToSso cfg r tr cookie k u) :
    targetOf r = some u ∧ isAscii u = true ∧ (url_scheme u).isSome = true := by
  obtain ⟨response, scheme, hreturns, -, -⟩ := h.returns
  obtain ⟨tr₁, hwrite⟩ := hreturns.pre_of_mem h.written (wp_serve_outcome cfg r)
  rcases hwrite with ⟨_, _, -, -, -, hu, hascii, hscheme⟩ | ⟨-, c, u', -, hkey, -⟩
  · exact ⟨hu, hascii, hscheme⟩
  · obtain ⟨-, rfl⟩ := redis_key_inj (.inl h.key.no_underscore) (.inr rfl) hkey
    exact absurd h.key.no_underscore (by decide)

theorem sentToSso_of_login {c : Str} (hsso : is_sso_auth_required cfg r = true)
    (hcall : ¬ IsCallback r) (hcookie : (Session.of cfg r).cookie_value = none)
    (hscheme : (url_scheme (request_url r)).isSome = true) (hu : isAscii (request_url r) = true)
    (hk : IsKey k) (hc : IsToken c) :
    SentToSso cfg r (redirectEvents k c (request_url r)) (cookieFor cfg r c) k (request_url r) := by
  obtain ⟨scheme, hscheme⟩ := Option.isSome_iff_exists.mp hscheme
  have hreturns := returns_login hsso hcall hcookie hscheme (isAscii_redis_key hc.2 hk.ascii) hu
  exact ⟨⟨_, scheme, hreturns, rfl, rfl⟩, hk, hc, by simp [redirectEvents, cookieFor]⟩

theorem matched_of_returns {response : Response} (hcall : IsCallback r)
    (h : Returns (serve cfg r) tr (.ok response))
    (hkey : ∀ k, (⟨.token_hex, k⟩ : Event Ans) ∉ tr) (hloc : response.location = some loc) :
    Matched cfg r tr loc := by
  have hpost : wp (tracing fun _ _ => True) (serve cfg r)
      (fun x tr => ∀ response, x = .ok response → (∀ k, (⟨.token_hex, k⟩ : Event Ans) ∉ tr) →
        ∀ u, response.location = some u → Matched cfg r tr u) [] := by
    refine wp_serve (fun _ _ _ _ => trivial) (fun _ _ _ _ h => nomatch h) ?_
      (fun h => absurd hcall h) ?_ fun d tr hd => absurd hcall hd.path
    · rintro tr - response ⟨⟩ - u hu
      cases hu
    · intro _ tr _
      refine wp_redirect_from_sso (fun _ _ _ _ => trivial) (fun _ _ _ h => nomatch h)
        (fun st tr' _ _ => ?_) fun u _ _ token tr' hu _ _ => ?_
      · refine wp_redirection_to_sso (fun _ _ _ _ => trivial) (fun _ _ _ _ => trivial)
          (fun _ _ h => nomatch h) (fun _ _ _ _ h => nomatch h) fun scheme k c a response _ hkey => ?_
        exact absurd (by simp) (hkey k)
      · refine wp_with_new_cookie trivial (fun _ _ => trivial) (fun _ _ _ h => nomatch h) ?_
        rintro c a response ⟨⟩ - u' hu'
        rw [location_redirect] at hu'
        obtain rfl := Option.some.inj hu'
        refine hu.mono ?_
        rw [List.append_assoc]
        exact List.prefix_append _ _
  exact h.post hpost response rfl hkey loc hloc

theorem ComesBack.parse (hdecode : ∀ s, decode (quote [] s) = s)
    (h : ComesBack cfg decode cookie k u r tr) (hk : IsKey k) (hu : isAscii u = true) :
    ∃ st, r.query.lookup ("state" : Str) = some st ∧ parse_sso_state st = (k, unquote u) :=
  ⟨_, h.state, by rw [sso_state_of, hdecode, parse_sso_state_append hk hu]⟩

theorem EndsAt.unescaped (hdecode : ∀ s, decode (quote [] s) = s)
    (h : EndsAt cfg decode cookie k u loc) (hk : IsKey k) (hu : isAscii u = true) :
    hasEscape loc = false ∧ ∃ n, loc = unquote^[n] u := by
  induction h with
  | @here cookie k u loc r tr response hback hreturns hkey hloc =>
      obtain ⟨st, hst, hparse⟩ := hback.parse hdecode hk hu
      obtain ⟨st', c, hst', -, rfl, hget⟩ := matched_of_returns hback.path hreturns hkey hloc
      obtain rfl := Option.some.inj (hst.symm.trans hst')
      rw [hparse] at hget ⊢
      have hsession := hback.session c _ hget
      split at hsession
      · have hsame : unquote u = u := Option.some.inj hsession
        exact ⟨by rw [hsame]; exact (unquote_eq_self_iff hu).mp hsame, 1, rfl⟩
      · cases hsession
  | @again cookie cookie' k k' u u' loc r tr hback hsent _ ih =>
      obtain ⟨st, hst, hparse⟩ := hback.parse hdecode hk hu
      obtain ⟨htarget, hascii, -⟩ := hsent.target
      obtain ⟨hescape, n, hn⟩ := ih hsent.key hascii
      have hu' : u' = unquote u := by
        rw [targetOf, if_pos hback.path, hst, Option.map_some, hparse] at htarget
        exact (Option.some.inj htarget).symm
      exact ⟨hescape, n + 1, by rw [hn, hu']; rfl⟩

/-! ## The whole way -/

def returning (cfg : Config) (decode : Str → Str) (cookie : SetCookie) (k u : Str) : Request :=
  comesBack [(cfg.cookie_name, cookie.value)] (decode (sso_state_of k u))

theorem cookie_value_comesBack {c : Str} (hc : c ≠ []) (sso_state : Str) :
    (Session.of cfg (comesBack [(cfg.cookie_name, c)] sso_state)).cookie_value = some c := by
  have hlookup : (comesBack [(cfg.cookie_name, c)] sso_state).cookies.lookup cfg.cookie_name =
      some c := by
    rw [comesBack, List.lookup_cons, beq_self_eq_true]
  have hne : (!c.isEmpty) = true := by simpa using hc
  rw [Session.of, hlookup, Option.filter_some, hne]
  rfl

/-- Looking for a token and for the URL, a callback finds the URL in its own session. -/
theorem session_of_event {c c₀ : Str} {a : Option Str} (hk : IsKey k)
    (h : redis_key c k = redis_key c₀ session_token_key ∧ a = none ∨
      redis_key c k = redis_key c₀ k ∧ a = some u) :
    a = if c = c₀ then some u else none := by
  rcases h with ⟨hkey, -⟩ | ⟨hkey, rfl⟩
  · obtain ⟨-, rfl⟩ := redis_key_inj (.inl hk.no_underscore) (.inr rfl) hkey
    exact absurd hk.no_underscore (by decide)
  · obtain ⟨rfl, -⟩ := redis_key_inj (.inl hk.no_underscore) (.inl hk.no_underscore) hkey
    exact (if_pos rfl).symm

/-- With the cookie of the site a browser comes back to a URL without an escape. -/
theorem endsAt_of_cookie (hdecode : ∀ s, decode (quote [] s) = s) (hpath : cookie.path = "/")
    (htoken : IsToken cookie.value) (hk : IsKey k) (hu : isAscii u = true)
    (hescape : hasEscape u = false) : EndsAt cfg decode cookie k u u := by
  have hparse : parse_sso_state (decode (sso_state_of k u)) = (k, u) := by
    rw [sso_state_of, hdecode, parse_sso_state_append hk hu, unquote_of_not_hasEscape hu hescape]
  have hcarried : (Session.of cfg (returning cfg decode cookie k u)).cookie_value =
      some cookie.value := cookie_value_comesBack htoken.1 _
  have hreturns : Returns (serve cfg (returning cfg decode cookie k u))
      (callbackEvents cfg (returning cfg decode cookie k u) cookie.value k u "code" "token" "c") _ :=
    returns_callback rfl hcarried rfl rfl hparse (isAscii_redis_key htoken.2 (by decide))
      (isAscii_redis_key htoken.2 hk.ascii) (by decide) (by decide)
  refine .here (r := returning cfg decode cookie k u)
    ⟨rfl, rfl, rfl, ⟨fun _ => hpath, fun _ => hcarried⟩, ?_⟩ hreturns ?_ rfl
  · intro c a hmem
    exact session_of_event hk (by simpa [callbackEvents] using hmem)
  · simp [callbackEvents]

theorem endsAt_of_not_hasEscape (hdecode : ∀ s, decode (quote [] s) = s)
    (htoken : IsToken cookie.value) (hk : IsKey k) (hu : isAscii u = true)
    (hscheme : (url_scheme u).isSome = true) (hescape : hasEscape u = false) :
    EndsAt cfg decode cookie k u u := by
  by_cases hpath : cookie.path = "/"
  · exact endsAt_of_cookie hdecode hpath htoken hk hu hescape
  · -- the cookie of an embedded page is not sent, and the browser is redirected once more
    obtain ⟨scheme, hscheme⟩ := Option.isSome_iff_exists.mp hscheme
    have hparse : parse_sso_state (decode (sso_state_of k u)) = (k, u) := by
      rw [sso_state_of, hdecode, parse_sso_state_append hk hu, unquote_of_not_hasEscape hu hescape]
    have hback : Returns (serve cfg (comesBack [] (decode (sso_state_of k u))))
        (redirectEvents "a" "c" u) _ :=
      returns_back rfl rfl rfl rfl hparse hscheme (by decide) hu
    have htoken' : IsToken "c" := by decide
    have hsent : SentToSso cfg (comesBack [] (decode (sso_state_of k u))) (redirectEvents "a" "c" u)
        (cookieFor cfg (comesBack [] (decode (sso_state_of k u))) "c") "a" u :=
      ⟨⟨_, scheme, hback, rfl, rfl⟩, by decide, htoken', by simp [redirectEvents]; rfl⟩
    refine .again (r := comesBack [] (decode (sso_state_of k u)))
      ⟨rfl, rfl, rfl, iff_of_false (by simp [Session.of, comesBack, frontPage]) hpath, ?_⟩ hsent
      (endsAt_of_cookie hdecode rfl htoken' (by decide) hu hescape)
    intro c a hmem
    simp [redirectEvents] at hmem

theorem endsAt_of_hasEscape (hdecode : ∀ s, decode (quote [] s) = s) (hpath : cookie.path = "/")
    (htoken : IsToken cookie.value) (hk : IsKey k) (hu : isAscii u = true)
    (hescape : hasEscape u = true) (hdecoded : isAscii (unquote u) = true)
    (hscheme : (url_scheme (unquote u)).isSome = true)
    (h : EndsAt cfg decode (cookieFor cfg (returning cfg decode cookie k u) "c") "a" (unquote u)
      loc) : EndsAt cfg decode cookie k u loc := by
  obtain ⟨scheme, hscheme⟩ := Option.isSome_iff_exists.mp hscheme
  have hparse : parse_sso_state (decode (sso_state_of k u)) = (k, unquote u) := by
    rw [sso_state_of, hdecode, parse_sso_state_append hk hu]
  have hcarried : (Session.of cfg (returning cfg decode cookie k u)).cookie_value =
      some cookie.value := cookie_value_comesBack htoken.1 _
  have hchanged : some u ≠ some (unquote u) := fun h => by
    rw [(unquote_eq_self_iff hu).mp (Option.some.inj h).symm] at hescape
    cases hescape
  have hback : Returns (serve cfg (returning cfg decode cookie k u))
      ([⟨.redis_get (redis_key cookie.value session_token_key), none⟩,
        ⟨.redis_get (redis_key cookie.value k), some u⟩] ++ redirectEvents "a" "c" (unquote u)) _ :=
    returns_disagree rfl hcarried rfl rfl hparse hchanged (isAscii_redis_key htoken.2 (by decide))
      (isAscii_redis_key htoken.2 hk.ascii) hscheme (by decide) hdecoded
  have htoken' : IsToken "c" := by decide
  refine .again (r := returning cfg decode cookie k u) ⟨rfl, rfl, rfl, ⟨fun _ => hpath, fun _ => hcarried⟩, ?_⟩
    ⟨⟨_, scheme, hback, rfl, rfl⟩, by decide, htoken', by simp [redirectEvents]; rfl⟩ h
  intro c a hmem
  exact session_of_event hk (by simpa [redirectEvents] using hmem)

end RoundTrip

/-- A request with a plus sign in a parameter. -/
def searchPage : Request :=
  { frontPage with path_qs := "/?q=a+b", raw_path_qs := "/?q=a%2Bb", query := [("q", "a+b")] }

end Proxy
