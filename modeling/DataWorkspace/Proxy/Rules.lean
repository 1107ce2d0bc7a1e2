import DataWorkspace.Proxy.Middlewares

/-!
# Rules for the programs of the proxy

What a part of the proxy may do is said once here.  `Silent` programs forward nothing,
`handle_http` forwards the one request it is given, and `wp_serve` takes the proof that
`serve` meets a condition apart along its middlewares.  What is known of a request that
is handed on to `handle` is `HandedOn`.

Few parts of the proxy write sessions.  `Calm tr tr'` says that the events of `tr'`
behind those of `tr` write none.
-/

namespace Proxy

open Py Http Async

/-- What happened so far while a request was handled. -/
abbrev Trace := List (Event Ans)

/-- The operation forwards the request, or part of it. -/
def Op.forwards : Op → Bool
  | .application_api _ _ _ => true
  | .superset_credentials _ _ => true
  | .upstream _ => true
  | _ => false

/-- The operation writes a value of a session. -/
def Op.writes : Op → Bool
  | .redis_set _ _ => true
  | _ => false

/-- The events behind `tr` write no session. -/
def Calm (tr tr' : Trace) : Prop := ∃ es, tr' = tr ++ es ∧ ∀ e ∈ es, e.1.writes = false

theorem Calm.refl (tr : Trace) : Calm tr tr := ⟨[], (List.append_nil tr).symm, by simp⟩

theorem Calm.trans {tr tr' tr'' : Trace} (h : Calm tr tr') (h' : Calm tr' tr'') : Calm tr tr'' := by
  obtain ⟨es, rfl, hes⟩ := h
  obtain ⟨es', rfl, hes'⟩ := h'
  refine ⟨es ++ es', List.append_assoc .., fun e he => ?_⟩
  rcases List.mem_append.mp he with he | he
  · exact hes e he
  · exact hes' e he

theorem Calm.snoc {tr tr' : Trace} (h : Calm tr tr') {o : Op} (ho : o.writes = false) (a : Ans o) :
    Calm tr (tr' ++ [⟨o, a⟩]) :=
  h.trans ⟨[⟨o, a⟩], rfl, by simpa using ho⟩

theorem Calm.prefix {tr tr' : Trace} (h : Calm tr tr') : tr <+: tr' := by
  obtain ⟨es, rfl, -⟩ := h
  exact List.prefix_append _ _

theorem Calm.writes {tr : Trace} (h : Calm [] tr) {e : Event Ans} (he : e ∈ tr) : e.1.writes = false := by
  obtain ⟨es, rfl, hes⟩ := h
  exact hes e he

/-! ## Operations that forward nothing -/

/-- The program forwards nothing. -/
def Silent {α : Type} (p : M α) : Prop := p.Only fun o => o.forwards = false

theorem silent_ascii (s : Str) : Silent (ascii s) := by
  unfold ascii
  split <;> trivial

theorem silent_orRaise {α : Type} (v : Option α) : Silent (orRaise v) := by
  cases v <;> trivial

theorem silent_await {o : Op} (h : o.forwards = false) : Silent (await o) := ⟨h, fun _ => trivial⟩

theorem silent_write_values (cookie_value : Str) :
    ∀ to_set, Silent (write_values cookie_value to_set)
  | [] => trivial
  | _ :: to_set =>
      (silent_ascii _).bind fun _ => (silent_ascii _).bind fun _ =>
        (silent_await rfl).bind fun _ => silent_write_values cookie_value to_set

theorem silent_with_cookie (cfg : Config) (r : Request) (s : Session) (response : Response) :
    Silent (with_cookie cfg r s response) := by
  have hrest (c : Str) : Silent (write_values c s.to_set >>= fun _ =>
      .pure { response with set_cookie := some (cookieFor cfg r c) }) :=
    (silent_write_values c _).bind fun _ => trivial
  unfold with_cookie
  cases s.cookie_value with
  | some v => exact hrest v
  | none => exact (silent_await rfl).bind hrest

theorem silent_with_new_cookie (cfg : Config) (r : Request) (s : Session) (response : Response) :
    Silent (with_new_cookie cfg r s response) :=
  (silent_await rfl).bind fun _ => silent_with_cookie ..

theorem silent_redirection_to_sso (cfg : Config) (r : Request) (s : Session) (u : Str) :
    Silent (redirection_to_sso cfg r s u) :=
  (silent_orRaise _).bind fun _ => (silent_await rfl).bind fun _ => silent_with_new_cookie ..

theorem silent_get_value (s : Session) (key : Str) : Silent (get_value s key) := by
  unfold get_value
  split
  · trivial
  · exact (silent_ascii _).bind fun _ => silent_await rfl

theorem silent_redirect_from_sso (cfg : Config) (r : Request) (s : Session) :
    Silent (redirect_from_sso cfg r s) := by
  refine (silent_orRaise _).bind fun _ => (silent_orRaise _).bind fun _ =>
    (silent_get_value ..).bind fun _ => ?_
  split
  · exact silent_redirection_to_sso ..
  · exact (silent_await rfl).bind fun _ => (silent_orRaise _).bind fun _ =>
      silent_with_new_cookie ..

theorem handle_http_only (cfg : Config) (d : Downstream) (upstream : UpstreamRequest) :
    (handle_http cfg d upstream).Only fun o => o = .upstream upstream ∨ o.forwards = false := by
  refine Prog.Only.bind ⟨.inl rfl, fun _ => trivial⟩ fun response => ?_
  cases response with
  | none => trivial
  | some response => exact (silent_with_cookie ..).mono fun _ h => .inr h

/-! ## The middlewares -/

def TokenOf (cfg : Config) (r : Request) (profile : Profile) (tr : Trace) : Prop :=
  ∃ cookie token, (Session.of cfg r).cookie_value = some cookie ∧
    (⟨.redis_get (redis_key cookie session_token_key), some token⟩ : Event Ans) ∈ tr ∧
    ((⟨.profile_get (redis_profile_key token), some profile⟩ : Event Ans) ∈ tr ∨
      (⟨.sso_me token, some (some profile)⟩ : Event Ans) ∈ tr)

/-- The hawk header of the request was found valid. -/
def HawkAuthenticated (r : Request) (tr : Trace) : Prop :=
  ∃ authorization content_type, r.headers.get? "authorization" = some authorization ∧
    r.headers.get? "content-type" = some content_type ∧
    (⟨.hawk (hawkRequest r authorization content_type), none⟩ : Event Ans) ∈ tr

/-- What is known of a request when the last middleware gets it. -/
structure HandedOn (cfg : Config) (r : Request) (d : Downstream) (tr : Trace) : Prop where
  request : d.request = r
  session : d.session = Session.of cfg r
  sso : is_sso_auth_required cfg r = false ∧ d.sso_profile_headers = [] ∨
    ∃ profile, TokenOf cfg r profile tr ∧ d.sso_profile_headers = profile_headers profile
  basic : is_service_discovery cfg r = true → basicAuthenticated cfg r = true
  hawk : is_hawk_auth_required cfg r = true → HawkAuthenticated r tr
  path : r.path ≠ redirect_from_sso_path
  calm : Calm [] tr

section Rules

variable {cfg : Config} {r : Request}

theorem TokenOf.mono {profile : Profile} {tr tr' : Trace} (h : TokenOf cfg r profile tr)
    (htr : tr <+: tr') : TokenOf cfg r profile tr' := by
  obtain ⟨cookie, token, hc, ht, hp⟩ := h
  exact ⟨cookie, token, hc, htr.subset ht, hp.imp (htr.subset ·) (htr.subset ·)⟩

theorem HawkAuthenticated.mono {tr tr' : Trace} (h : HawkAuthenticated r tr) (htr : tr <+: tr') :
    HawkAuthenticated r tr' := by
  obtain ⟨authorization, content_type, ha, hc, hh⟩ := h
  exact ⟨authorization, content_type, ha, hc, htr.subset hh⟩

theorem not_callback (h : is_sso_auth_required cfg r = false) : r.path ≠ redirect_from_sso_path := by
  intro hpath
  rw [is_sso_auth_required, is_healthcheck_requested, is_service_discovery, is_table_requested,
    is_dataset_requested, hpath] at h
  cases h

variable {pre : Op → Trace → Prop} {Q : Except Exc Response → Trace → Prop}

theorem wp_find_profile {token : Str} {Q : Except Exc (Option Profile) → Trace → Prop} {tr : Trace}
    (hquiet : ∀ o tr, o.forwards = false → o.writes = false → pre o tr)
    (hfound : ∀ profile tr', Calm tr tr' →
      (⟨.profile_get (redis_profile_key token), some profile⟩ : Event Ans) ∈ tr' ∨
        (⟨.sso_me token, some (some profile)⟩ : Event Ans) ∈ tr' → Q (.ok (some profile)) tr')
    (hnone : ∀ tr', Calm tr tr' → Q (.ok none) tr')
    (hraise : ∀ e tr', Calm tr tr' → Q (.error e) tr') :
    wp (tracing pre) (find_profile token) Q tr := by
  unfold find_profile
  rw [wp_bind]
  refine wp_ascii (fun _ => ⟨hquiet _ _ rfl rfl, ?_⟩) fun _ => hraise _ _ (.refl tr)
  rintro cached tr' rfl
  have hcached := (Calm.refl tr).snoc (o := .profile_get (redis_profile_key token)) rfl cached
  cases cached with
  | some profile => exact hfound profile _ hcached (.inl (by simp))
  | none =>
      refine ⟨hquiet _ _ rfl rfl, ?_⟩
      rintro me tr' rfl
      have hme := hcached.snoc (o := .sso_me token) rfl me
      cases me with
      | none => exact hraise _ _ hme
      | some me =>
          cases me with
          | none => exact hnone _ hme
          | some profile =>
              refine ⟨hquiet _ _ rfl rfl, ?_⟩
              rintro u tr' rfl
              exact hfound profile _ (hme.snoc rfl u) (.inr (by simp))

theorem wp_authenticate_by_basic_auth {d : Downstream} {tr : Trace} (hd : d.request = r)
    (hsession : d.session = Session.of cfg r)
    (hsso : is_sso_auth_required cfg r = false ∧ d.sso_profile_headers = [] ∨
      ∃ profile, TokenOf cfg r profile tr ∧ d.sso_profile_headers = profile_headers profile)
    (hpath : r.path ≠ redirect_from_sso_path) (hcalm : Calm [] tr)
    (hquiet : ∀ o tr, o.forwards = false → o.writes = false → pre o tr)
    (hraise : ∀ e tr, Calm [] tr → Q (.error e) tr)
    (hrefuse : ∀ tr, Calm [] tr → Q (.ok unauthorized) tr)
    {handler : Downstream → M Response}
    (hhandle : ∀ d tr, HandedOn cfg r d tr → wp (tracing pre) (handler d) Q tr) :
    wp (tracing pre) (authenticate_by_basic_auth cfg (authenticate_by_hawk_auth cfg handler) d)
      Q tr := by
  have hhawk (hbasic : is_service_discovery cfg r = true → basicAuthenticated cfg r = true) :
      wp (tracing pre) (authenticate_by_hawk_auth cfg handler d) Q tr := by
    unfold authenticate_by_hawk_auth
    rw [hd]
    split
    case isTrue hreq =>
      refine hhandle d tr ⟨hd, hsession, hsso, hbasic, fun h => ?_, hpath, hcalm⟩
      rw [hreq] at h
      cases h
    case isFalse =>
      split
      case h_1 => exact hrefuse _ hcalm
      case h_2 authorization hauth =>
        rw [wp_bind]
        refine wp_ofOption (fun _ => hraise _ _ hcalm) fun content_type hct =>
          ⟨hquiet _ _ rfl rfl, ?_⟩
        rintro error_message tr' rfl
        have hcalm' := hcalm.snoc (o := .hawk (hawkRequest r authorization content_type)) rfl
          error_message
        cases error_message with
        | some message => exact hrefuse _ hcalm'
        | none =>
            refine hhandle d _ ⟨hd, hsession, ?_, hbasic, fun _ => ?_, hpath, hcalm'⟩
            · exact hsso.imp_right fun ⟨profile, ht, hp⟩ =>
                ⟨profile, ht.mono (List.prefix_append _ _), hp⟩
            · exact ⟨authorization, content_type, hauth, hct, by simp⟩
  unfold authenticate_by_basic_auth
  rw [hd]
  split
  case isTrue hreq =>
    refine hhawk fun h => ?_
    rw [hreq] at h
    cases h
  case isFalse =>
    split
    case h_1 => exact hrefuse _ hcalm
    case h_2 authorization hauth =>
      rw [wp_bind]
      refine wp_ascii (fun _ => ?_) fun _ => hraise _ _ hcalm
      rw [andThen_ok]
      split
      case isTrue => exact hrefuse _ hcalm
      case isFalse hvalue =>
        refine hhawk fun _ => ?_
        rw [basicAuthenticated, hauth]
        simpa using hvalue

/-- A condition holds of `serve` when it holds of the two redirects and of what the last
middleware does with a request it is handed. -/
theorem wp_serve (hquiet : ∀ o tr, o.forwards = false → o.writes = false → pre o tr)
    (hraise : ∀ e tr, Calm [] tr → Q (.error e) tr)
    (hrefuse : ∀ tr, Calm [] tr → Q (.ok unauthorized) tr)
    (hlogin : r.path ≠ redirect_from_sso_path → ∀ tr, Calm [] tr →
      wp (tracing pre) (redirection_to_sso cfg r (Session.of cfg r) (request_url r)) Q tr)
    (hcallback : r.path = redirect_from_sso_path → ∀ tr, Calm [] tr →
      wp (tracing pre) (redirect_from_sso cfg r (Session.of cfg r)) Q tr)
    (hhandle : ∀ d tr, HandedOn cfg r d tr →
      wp (tracing pre) (authenticate_by_ip_whitelist cfg (handle cfg) d) Q tr) :
    wp (tracing pre) (serve cfg r) Q [] := by
  unfold serve authenticate_by_staff_sso
  split
  case isTrue hreq =>
    exact wp_authenticate_by_basic_auth rfl rfl (.inl ⟨hreq, rfl⟩) (not_callback hreq) (.refl [])
      hquiet hraise hrefuse hhandle
  case isFalse =>
    rw [wp_bind]
    refine wp_get_value (fun _ => ?_) (fun cookie hcookie => ⟨hquiet _ _ rfl rfl, ?_⟩)
      fun _ _ _ => hraise _ _ (.refl [])
    · rw [andThen_ok]
      split
      case isTrue hpath => exact hcallback hpath _ (.refl [])
      case isFalse hpath => exact hlogin hpath _ (.refl [])
    · rintro token tr' rfl
      have hcalm := (Calm.refl []).snoc (o := .redis_get (redis_key cookie session_token_key)) rfl
        token
      rw [andThen_ok]
      split
      case isTrue hpath => exact hcallback hpath _ hcalm
      case isFalse hpath =>
        cases token with
        | none => exact hlogin hpath _ hcalm
        | some token =>
            rw [wp_bind]
            refine wp_find_profile hquiet (fun profile tr' htr hprofile => ?_)
              (fun tr' htr => hlogin hpath tr' (hcalm.trans htr))
              fun e tr' htr => hraise e tr' (hcalm.trans htr)
            refine wp_authenticate_by_basic_auth rfl rfl (.inr ⟨profile, ⟨cookie, token, hcookie, ?_,
              hprofile⟩, rfl⟩) hpath (hcalm.trans htr) hquiet hraise hrefuse hhandle
            exact htr.prefix.subset (by simp)

end Rules

end Proxy
