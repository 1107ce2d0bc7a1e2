import DataWorkspace.Proxy.HandlerRules

/-!
# What a request writes and where it is sent

A request writes a session in two cases: when it is redirected to SSO, under a new key
of a new session, and when it comes back from SSO with what the session says, where the
token goes to a new session.  `WritesAllowed` is the condition on the writes and
`Outcome` is what is known of the response, both in terms of the events of the one
request.  `wp_serve_outcome` proves them of every request.
-/

namespace Proxy

open Py Http Async

/-- The request comes back from SSO. -/
def IsCallback (r : Request) : Prop := r.path = redirect_from_sso_path

instance (r : Request) : Decidable (IsCallback r) := inferInstanceAs (Decidable (_ = _))

/-- The URL a redirect to SSO is to lead back to: that of the request, or the one that
came back from SSO. -/
def targetOf (r : Request) : Option Str :=
  if IsCallback r then (r.query.lookup ("state" : Str)).map fun st => (parse_sso_state st).2
  else some (request_url r)

/-- The session of the request has the URL of its `state` under the key of its `state`. -/
def Matched (cfg : Config) (r : Request) (tr : Trace) (u : Str) : Prop :=
  ∃ st c, r.query.lookup ("state" : Str) = some st ∧ (Session.of cfg r).cookie_value = some c ∧
    (parse_sso_state st).2 = u ∧
      (⟨.redis_get (redis_key c (parse_sso_state st).1), some u⟩ : Event Ans) ∈ tr

/-- A write for a redirect to SSO. -/
def RedirectWrite (r : Request) (key value : Str) (tr : Trace) : Prop :=
  ∃ c k, (⟨.token_urlsafe, c⟩ : Event Ans) ∈ tr ∧ (⟨.token_hex, k⟩ : Event Ans) ∈ tr ∧
    key = redis_key c k ∧ targetOf r = some value ∧ isAscii value = true ∧
      (url_scheme value).isSome = true

/-- The write of an access token. -/
def TokenWrite (cfg : Config) (r : Request) (key : Str) (tr : Trace) : Prop :=
  IsCallback r ∧ ∃ c u, (⟨.token_urlsafe, c⟩ : Event Ans) ∈ tr ∧
    key = redis_key c session_token_key ∧ Matched cfg r tr u

/-- The condition on the writes of a request. -/
def WritesAllowed (cfg : Config) (r : Request) : Op → Trace → Prop
  | .redis_set key value, tr => RedirectWrite r key value tr ∨ TokenWrite cfg r key tr
  | _, _ => True

structure Outcome (cfg : Config) (r : Request) (response : Response) (tr : Trace) : Prop where
  /-- The cookie is that of the request, or a new one. -/
  cookie : ∀ c, response.set_cookie.map SetCookie.value = some c →
    (Session.of cfg r).cookie_value = some c ∨ (⟨.token_urlsafe, c⟩ : Event Ans) ∈ tr
  /-- A request that comes back from SSO is sent to SSO again, or on to the URL of its
  session. -/
  location : IsCallback r → ∀ loc, response.location = some loc →
    (∃ sso_state scheme, loc = authorise_url cfg sso_state scheme) ∨ Matched cfg r tr loc
  /-- Any other request that wrote a session is sent to SSO. -/
  redirect : ¬ IsCallback r → ∀ key value a, (⟨.redis_set key value, a⟩ : Event Ans) ∈ tr →
    ∃ k scheme, response.location = some (authorise_url cfg (sso_state_of k value) scheme)

/-- A text of hexadecimal digits, as `secrets.token_hex` returns. -/
def IsKey (k : Str) : Prop := ∀ d ∈ k, (hexValue d).isSome = true

instance (k : Str) : Decidable (IsKey k) := List.decidableBAll _ k

theorem IsKey.no_underscore {k : Str} (h : IsKey k) : '_' ∉ k := fun hmem =>
  absurd (h '_' hmem) (by decide)

theorem IsKey.ascii {k : Str} (h : IsKey k) : isAscii k = true :=
  List.all_eq_true.mpr fun c hc => decide_eq_true (hexValue_ascii (h c hc))

/-- A text that is not empty and ASCII, as `secrets.token_urlsafe` returns. -/
def IsToken (c : Str) : Prop := c ≠ [] ∧ isAscii c = true

instance (c : Str) : Decidable (IsToken c) := inferInstanceAs (Decidable (_ ∧ _))

theorem isAscii_redis_key {c key : Str} (hc : isAscii c = true) (hkey : isAscii key = true) :
    isAscii (redis_key c key) = true := by
  rw [redis_key, isAscii_append, isAscii_append, isAscii_append, hc, hkey]
  decide

/-- The state that comes back is taken apart at the underscore behind the key, and the
URL in it is decoded once more. -/
theorem parse_sso_state_append {k u : Str} (hk : IsKey k) (hu : isAscii u = true) :
    parse_sso_state (k ++ "_" ++ u) = (k, unquote u) := by
  have hplain : ∀ c ∈ k ++ ['_'], c.toNat < 0x80 ∧ c ≠ '%' := by
    intro c hc
    rcases List.mem_append.mp hc with hc | hc
    · refine ⟨hexValue_ascii (hk c hc), ?_⟩
      rintro rfl
      exact absurd (hk '%' hc) (by decide)
    · rw [List.mem_singleton.mp hc]
      decide
  have hdecoded : unquote (k ++ "_" ++ u) = k ++ '_' :: unquote u := by
    rw [show k ++ "_" ++ u = (k ++ ['_']) ++ u from rfl, unquote_append hplain hu, List.append_assoc]
    rfl
  rw [parse_sso_state, hdecoded, show ("_" : Str) = ['_'] from rfl,
    partition_append_singleton _ hk.no_underscore]

section Rules

variable {cfg : Config} {r : Request} {pre : Op → Trace → Prop}
  {Q : Except Exc Response → Trace → Prop} {tr : Trace}

theorem writesAllowed_of_not_writes {o : Op} (h : o.writes = false) (tr : Trace) :
    WritesAllowed cfg r o tr := by
  cases o <;> trivial

theorem wp_with_new_cookie {key value : Str} {response : Response} (htoken : pre .token_urlsafe tr)
    (hwrite : isAscii value = true → ∀ c,
      pre (.redis_set (redis_key c key) value) (tr ++ [⟨.token_urlsafe, c⟩]))
    (hraise : ∀ c, isAscii (redis_key c key) = false ∨ isAscii value = false →
      Q (.error .other) (tr ++ [⟨.token_urlsafe, c⟩]))
    (hQ : ∀ c a, Q (.ok { response with set_cookie := some (cookieFor cfg r c) })
      (tr ++ [⟨.token_urlsafe, c⟩] ++ [⟨.redis_set (redis_key c key) value, a⟩])) :
    wp (tracing pre) (with_new_cookie cfg r (set_value (Session.of cfg r) key value) response)
      Q tr := by
  unfold with_new_cookie with_cookie
  refine ⟨htoken, ?_⟩
  rintro c tr' rfl
  change wp _ (write_values c [(key, value)] >>= _) _ _
  rw [wp_bind, write_values, wp_bind]
  refine wp_ascii (fun _ => ?_) fun h => hraise c (.inl h)
  rw [andThen_ok, wp_bind]
  refine wp_ascii (fun hascii => ⟨hwrite hascii c, ?_⟩) fun h => hraise c (.inr h)
  rintro a tr' rfl
  exact hQ c a

theorem wp_redirection_to_sso {u : Str}
    (hdraw : ∀ o tr, o.forwards = false → o.writes = false → pre o tr)
    (hwrite : isAscii u = true → (url_scheme u).isSome = true → ∀ k c,
      pre (.redis_set (redis_key c k) u) (tr ++ [⟨.token_hex, k⟩] ++ [⟨.token_urlsafe, c⟩]))
    (hnone : url_scheme u = none → Q (.error .other) tr)
    (hraise : ∀ k c, isAscii (redis_key c k) = false ∨ isAscii u = false →
      Q (.error .other) (tr ++ [⟨.token_hex, k⟩] ++ [⟨.token_urlsafe, c⟩]))
    (hQ : ∀ scheme k c a,
      Q (.ok { redirect (authorise_url cfg (sso_state_of k u) scheme) with
          set_cookie := some (cookieFor cfg r c) })
        (tr ++ [⟨.token_hex, k⟩] ++ [⟨.token_urlsafe, c⟩] ++ [⟨.redis_set (redis_key c k) u, a⟩])) :
    wp (tracing pre) (redirection_to_sso cfg r (Session.of cfg r) u) Q tr := by
  unfold redirection_to_sso
  rw [wp_bind]
  refine wp_ofOption hnone fun scheme hscheme => ⟨hdraw _ _ rfl rfl, ?_⟩
  rintro k tr' rfl
  exact wp_with_new_cookie (hdraw _ _ rfl rfl)
    (fun hascii => hwrite hascii (by rw [hscheme]; rfl) k) (hraise k) (hQ scheme k)

/-- Why a request that comes back from SSO may fail: it has no code or no state, its
cookie is no key for Redis, or SSO has no token for the code. -/
def CallbackFails (cfg : Config) (r : Request) (tr : Trace) : Prop :=
  r.query.lookup ("code" : Str) = none ∨ r.query.lookup ("state" : Str) = none ∨
    (∃ st c, r.query.lookup ("state" : Str) = some st ∧ (Session.of cfg r).cookie_value = some c ∧
      isAscii (redis_key c (parse_sso_state st).1) = false) ∨
    ∃ code redirect_uri, (⟨.sso_token code redirect_uri, none⟩ : Event Ans) ∈ tr

/-- A request that comes back from SSO goes on if its session agrees, and goes back if
it does not. -/
theorem wp_redirect_from_sso (hquiet : ∀ o tr, o.forwards = false → o.writes = false → pre o tr)
    (hraise : ∀ tr', CallbackFails cfg r tr' → Q (.error .other) tr')
    (hback : ∀ st tr', r.query.lookup ("state" : Str) = some st → Calm tr tr' →
      wp (tracing pre) (redirection_to_sso cfg r (Session.of cfg r) (parse_sso_state st).2) Q tr')
    (hon : ∀ u code redirect_uri token tr', Matched cfg r tr' u → Calm tr tr' →
      (⟨.sso_token code redirect_uri, some token⟩ : Event Ans) ∈ tr' →
      wp (tracing pre) (with_new_cookie cfg r (set_value (Session.of cfg r) session_token_key token)
        (redirect u)) Q tr') :
    wp (tracing pre) (redirect_from_sso cfg r (Session.of cfg r)) Q tr := by
  unfold redirect_from_sso
  rw [wp_bind]
  refine wp_ofOption (fun hcode => hraise _ (.inl hcode)) fun code _ => ?_
  rw [andThen_ok, wp_bind]
  refine wp_ofOption (fun hst => hraise _ (.inr (.inl hst))) fun st hst => ?_
  rw [andThen_ok]
  dsimp only
  rw [wp_bind]
  refine wp_get_value (fun _ => ?_) (fun c hc => ⟨hquiet _ _ rfl rfl, ?_⟩)
    fun c hc hkey => hraise _ (.inr (.inr (.inl ⟨st, c, hst, hc, hkey⟩)))
  · rw [andThen_ok, if_pos (by simp)]
    exact hback st _ hst (.refl tr)
  · rintro stored tr' rfl
    have hcalm := (Calm.refl tr).snoc (o := .redis_get (redis_key c (parse_sso_state st).1)) rfl
      stored
    rw [andThen_ok]
    split
    case isTrue => exact hback st _ hst hcalm
    case isFalse hsame =>
      rw [ne_eq, not_not] at hsame
      refine ⟨hquiet _ _ rfl rfl, ?_⟩
      rintro token tr' rfl
      change wp _ (orRaise token >>= _) _ _
      rw [wp_bind]
      refine wp_ofOption (fun hnone => ?_) fun access_token htoken => ?_
      · subst hnone
        exact hraise _ (.inr (.inr (.inr ⟨code, _,
          List.mem_append_right _ (List.mem_singleton_self _)⟩)))
      · subst htoken
        exact hon _ code _ access_token _ ⟨st, c, hst, hc, rfl, by simp [hsame]⟩
          (hcalm.snoc rfl _) (List.mem_append_right _ (List.mem_singleton_self _))

theorem Matched.mono {tr' : Trace} {u : Str} (h : Matched cfg r tr u) (htr : tr <+: tr') :
    Matched cfg r tr' u := by
  obtain ⟨st, c, hst, hc, hu, hmem⟩ := h
  exact ⟨st, c, hst, hc, hu, htr.subset hmem⟩

theorem location_redirect (location : Str) (cookie : Option SetCookie) :
    Response.location { redirect location with set_cookie := cookie } = some location := rfl

theorem outcome_redirection {u : Str} (htarget : targetOf r = some u)
    (hcalm : ¬ IsCallback r → Calm [] tr) :
    wp (tracing (WritesAllowed cfg r)) (redirection_to_sso cfg r (Session.of cfg r) u)
      (fun x tr' => ∀ response, x = .ok response → Outcome cfg r response tr') tr := by
  refine wp_redirection_to_sso (fun _ _ _ h => writesAllowed_of_not_writes h _)
    (fun hascii hscheme k c => .inl ⟨c, k, by simp, by simp, rfl, htarget, hascii, hscheme⟩)
    (fun _ _ h => nomatch h) (fun _ _ _ _ h => nomatch h) ?_
  rintro scheme k c a _ ⟨⟩
  refine ⟨fun c' hc' => ?_, fun _ loc hloc => ?_, fun hcall key value b hmem => ?_⟩
  · obtain rfl : c = c' := Option.some.inj hc'
    exact .inr (by simp)
  · rw [location_redirect] at hloc
    exact .inl ⟨_, scheme, (Option.some.inj hloc).symm⟩
  · refine ⟨k, scheme, ?_⟩
    have hvalue : value = u := by
      rcases List.mem_append.mp hmem with hmem | hmem
      · have hw := ((hcalm hcall).snoc (o := .token_hex) rfl k |>.snoc (o := .token_urlsafe) rfl c).writes hmem
        cases hw
      · cases List.mem_singleton.mp hmem
        rfl
    rw [location_redirect, hvalue]

theorem wp_serve_outcome (cfg : Config) (r : Request) :
    wp (tracing (WritesAllowed cfg r)) (serve cfg r)
      (fun x tr => ∀ response, x = .ok response → Outcome cfg r response tr) [] := by
  have hquiet (o : Op) (tr : Trace) (h : o.writes = false) : WritesAllowed cfg r o tr :=
    writesAllowed_of_not_writes h tr
  have hcalmWrites {tr : Trace} (hcalm : Calm [] tr) {key value : Str} {a : Unit} :
      (⟨.redis_set key value, a⟩ : Event Ans) ∉ tr := fun hmem => nomatch hcalm.writes hmem
  refine wp_serve (fun o tr _ h => hquiet o tr h) (fun _ _ _ _ h => nomatch h) ?_ ?_ ?_ ?_
  · rintro tr hcalm _ ⟨⟩
    exact ⟨(fun _ h => nomatch h), (fun _ _ h => nomatch h),
      fun _ _ _ _ hmem => absurd hmem (hcalmWrites hcalm)⟩
  · intro hpath tr hcalm
    exact outcome_redirection (if_neg (show ¬ IsCallback r from hpath)) fun _ => hcalm
  · intro hpath tr hcalm
    refine wp_redirect_from_sso (fun o tr _ h => hquiet o tr h) (fun _ _ _ h => nomatch h)
      (fun st tr' hst _ => ?_) fun u _ _ token tr' hu _ _ => ?_
    · have htarget : targetOf r = some (parse_sso_state st).2 := by
        rw [targetOf, if_pos (show IsCallback r from hpath), hst]
        rfl
      exact outcome_redirection htarget fun h => absurd hpath h
    · refine wp_with_new_cookie (hquiet _ _ rfl)
        (fun _ c => .inr ⟨hpath, c, u, by simp, rfl, hu.mono (List.prefix_append _ _)⟩)
        (fun _ _ _ h => nomatch h) ?_
      rintro c a _ ⟨⟩
      refine ⟨fun c' hc' => ?_, fun _ loc hloc => .inr ?_, fun h => absurd hpath h⟩
      · obtain rfl : c = c' := Option.some.inj hc'
        exact .inr (by simp)
      · rw [location_redirect] at hloc
        obtain rfl := Option.some.inj hloc
        refine hu.mono ?_
        rw [List.append_assoc]
        exact List.prefix_append _ _
  · intro d tr hd
    refine wp_mono (fun x tr' h => h.2) _ tr (wp_behind_whitelist (R := Outcome cfg r) ?_)
    exact
      { session := by rw [hd.session]; rfl
        api := fun _ _ _ _ => trivial
        credentials := fun _ _ _ => trivial
        token := fun _ => trivial
        upstream := fun _ _ _ _ => trivial
        response := fun response c tr' htr hc =>
          ⟨fun c' hc' => by
              obtain rfl : c = c' := Option.some.inj hc'
              rwa [hd.session] at hc,
            fun hcall => absurd hcall hd.path,
            fun _ _ _ _ hmem => absurd hmem (hcalmWrites (hd.calm.trans htr))⟩
        patch := fun response method url headers a tr' h =>
          ⟨fun c hc => (h.cookie c hc).imp_right (List.mem_append_left _),
            fun hcall => absurd hcall hd.path,
            fun hcall key value b hmem => by
              refine h.redirect hcall key value b ?_
              rcases List.mem_append.mp hmem with hmem | hmem
              · exact hmem
              · cases List.mem_singleton.mp hmem⟩ }

/-! ## One request after the other

The events of a request that logs in, of one that comes back from SSO to a session that
does not agree, and of one that comes back to its own session. -/

theorem ascii_eq {s : Str} (h : isAscii s = true) : ascii s = .pure s := if_pos h

theorem steps_with_new_cookie {key value c : Str} (response : Response)
    (hkey : isAscii (redis_key c key) = true) (hvalue : isAscii value = true) (tr : Trace) :
    Steps (tracing fun _ _ => True)
      (with_new_cookie cfg r (set_value (Session.of cfg r) key value) response) tr
      (.pure { response with set_cookie := some (cookieFor cfg r c) })
      (tr ++ [⟨.token_urlsafe, c⟩] ++ [⟨.redis_set (redis_key c key) value, ()⟩]) := by
  unfold with_new_cookie
  refine .op (a := c) rfl ?_
  change Steps _ (write_values c [(key, value)] >>= _) _ _ _
  rw [write_values, ascii_eq hkey, ascii_eq hvalue]
  exact .op (a := ()) rfl .refl

/-- The events of a redirect to SSO. -/
def redirectEvents (k c u : Str) : Trace :=
  [⟨.token_hex, k⟩, ⟨.token_urlsafe, c⟩, ⟨.redis_set (redis_key c k) u, ()⟩]

theorem steps_redirection_to_sso {k c u scheme : Str} (hscheme : url_scheme u = some scheme)
    (hkey : isAscii (redis_key c k) = true) (hu : isAscii u = true) (tr : Trace) :
    Steps (tracing fun _ _ => True) (redirection_to_sso cfg r (Session.of cfg r) u) tr
      (.pure { redirect (authorise_url cfg (sso_state_of k u) scheme) with
        set_cookie := some (cookieFor cfg r c) })
      (tr ++ redirectEvents k c u) := by
  unfold redirection_to_sso
  rw [hscheme]
  refine .op (a := k) rfl ?_
  have hevents : tr ++ redirectEvents k c u =
      tr ++ [⟨.token_hex, k⟩] ++ [⟨.token_urlsafe, c⟩] ++ [⟨.redis_set (redis_key c k) u, ()⟩] := by
    simp [redirectEvents]
  rw [hevents]
  exact steps_with_new_cookie (redirect (authorise_url cfg (sso_state_of k u) scheme)) hkey hu _

theorem returns_login {k c scheme : Str} (hsso : is_sso_auth_required cfg r = true)
    (hpath : ¬ IsCallback r) (hcookie : (Session.of cfg r).cookie_value = none)
    (hscheme : url_scheme (request_url r) = some scheme)
    (hkey : isAscii (redis_key c k) = true) (hu : isAscii (request_url r) = true) :
    Returns (serve cfg r) (redirectEvents k c (request_url r))
      (.ok { redirect (authorise_url cfg (sso_state_of k (request_url r)) scheme) with
        set_cookie := some (cookieFor cfg r c) }) := by
  have hserve : serve cfg r = redirection_to_sso cfg r (Session.of cfg r) (request_url r) := by
    unfold serve authenticate_by_staff_sso get_value
    rw [if_neg (by rw [hsso]; decide), hcookie, Prog.pure_bind, if_neg (show ¬ r.path = _ from hpath)]
  rw [hserve]
  exact steps_redirection_to_sso hscheme hkey hu []

theorem returns_back {code st k c scheme k₀ u : Str} (hpath : IsCallback r)
    (hcookie : (Session.of cfg r).cookie_value = none)
    (hcode : r.query.lookup ("code" : Str) = some code)
    (hst : r.query.lookup ("state" : Str) = some st) (hparse : parse_sso_state st = (k₀, u))
    (hscheme : url_scheme u = some scheme) (hkey : isAscii (redis_key c k) = true)
    (hu : isAscii u = true) :
    Returns (serve cfg r) (redirectEvents k c u)
      (.ok { redirect (authorise_url cfg (sso_state_of k u) scheme) with
        set_cookie := some (cookieFor cfg r c) }) := by
  have hsso : ¬ is_sso_auth_required cfg r = false := fun h => not_callback h hpath
  have hserve : serve cfg r =
      redirection_to_sso cfg r (Session.of cfg r) (parse_sso_state st).2 := by
    unfold serve authenticate_by_staff_sso redirect_from_sso get_value
    rw [if_neg hsso, hcookie, Prog.pure_bind, if_pos (show r.path = _ from hpath), hcode, hst]
    rfl
  rw [hserve, hparse]
  exact steps_redirection_to_sso hscheme hkey hu []

theorem returns_disagree {c₀ code st k c scheme k₀ u : Str} {found : Option Str}
    (hpath : IsCallback r) (hcookie : (Session.of cfg r).cookie_value = some c₀)
    (hcode : r.query.lookup ("code" : Str) = some code)
    (hst : r.query.lookup ("state" : Str) = some st) (hparse : parse_sso_state st = (k₀, u))
    (hfound : found ≠ some u) (htokenKey : isAscii (redis_key c₀ session_token_key) = true)
    (hk : isAscii (redis_key c₀ k₀) = true) (hscheme : url_scheme u = some scheme)
    (hkey : isAscii (redis_key c k) = true) (hu : isAscii u = true) :
    Returns (serve cfg r)
      ([⟨.redis_get (redis_key c₀ session_token_key), none⟩, ⟨.redis_get (redis_key c₀ k₀), found⟩] ++
        redirectEvents k c u)
      (.ok { redirect (authorise_url cfg (sso_state_of k u) scheme) with
        set_cookie := some (cookieFor cfg r c) }) := by
  have hsso : ¬ is_sso_auth_required cfg r = false := fun h => not_callback h hpath
  unfold serve authenticate_by_staff_sso redirect_from_sso get_value
  rw [if_neg hsso, hcookie]
  dsimp only
  rw [ascii_eq htokenKey, hcode, hst]
  refine .op (a := none) rfl ?_
  change Steps _ (if r.path = redirect_from_sso_path then _ else _) _ _ _
  rw [if_pos (show r.path = _ from hpath)]
  change Steps _ ((ascii (redis_key c₀ (parse_sso_state st).1) >>= _) >>= _) _ _ _
  rw [hparse, ascii_eq hk]
  refine .op (a := found) rfl ?_
  change Steps _ (if found ≠ some u then _ else _) _ _ _
  rw [if_pos hfound]
  exact steps_redirection_to_sso hscheme hkey hu _

/-- The events of a request that comes back from SSO to its own session. -/
def callbackEvents (cfg : Config) (r : Request) (c₀ k u code token c : Str) : Trace :=
  [⟨.redis_get (redis_key c₀ session_token_key), none⟩, ⟨.redis_get (redis_key c₀ k), some u⟩,
    ⟨.sso_token code (get_redirect_uri_callback cfg (request_scheme r)), some token⟩,
    ⟨.token_urlsafe, c⟩, ⟨.redis_set (redis_key c session_token_key) token, ()⟩]

/-- A request that comes back from SSO to its own session is sent on to the URL there. -/
theorem returns_callback {c₀ code st k u token c : Str} (hpath : IsCallback r)
    (hcookie : (Session.of cfg r).cookie_value = some c₀)
    (hcode : r.query.lookup ("code" : Str) = some code)
    (hst : r.query.lookup ("state" : Str) = some st) (hparse : parse_sso_state st = (k, u))
    (htokenKey : isAscii (redis_key c₀ session_token_key) = true)
    (hk : isAscii (redis_key c₀ k) = true)
    (hkey : isAscii (redis_key c session_token_key) = true) (htoken : isAscii token = true) :
    Returns (serve cfg r) (callbackEvents cfg r c₀ k u code token c)
      (.ok { redirect u with set_cookie := some (cookieFor cfg r c) }) := by
  have hsso : ¬ is_sso_auth_required cfg r = false := fun h => not_callback h hpath
  unfold serve authenticate_by_staff_sso redirect_from_sso get_value
  rw [if_neg hsso, hcookie]
  dsimp only
  rw [ascii_eq htokenKey, hcode, hst]
  refine .op (a := none) rfl ?_
  change Steps _ (if r.path = redirect_from_sso_path then _ else _) _ _ _
  rw [if_pos (show r.path = _ from hpath)]
  change Steps _ ((ascii (redis_key c₀ (parse_sso_state st).1) >>= _) >>= _) _ _ _
  rw [hparse, ascii_eq hk]
  refine .op (a := some u) rfl ?_
  change Steps _ (if some u ≠ some u then _ else _) _ _ _
  rw [if_neg (not_not_intro rfl)]
  refine .op (a := some token) rfl ?_
  exact steps_with_new_cookie (redirect u) hkey htoken _

end Rules

end Proxy
