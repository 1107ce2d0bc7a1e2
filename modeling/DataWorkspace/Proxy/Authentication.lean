import DataWorkspace.Proxy.Rules

/-!
# What is forwarded has been authenticated

Every operation that forwards a request, or asks the admin application something on
its behalf, has to come after a successful authentication and after the check of the
peer.  `Admitted` says so of an operation and of the events before it, so that it can
be followed through the middlewares as the condition of a weakest precondition.

One kind of request escapes: a health check is taken for one whatever the host, and
only the hosts of applications are excluded.
-/

namespace Proxy

open Py Http Async

/-! ## Authentication -/

/-- The request carries the user and password where they are asked for. -/
def BasicAuthenticated (cfg : Config) (r : Request) : Prop :=
  is_service_discovery cfg r = true ∧ basicAuthenticated cfg r = true

/-- The health check of the root domain. -/
def is_root_healthcheck (cfg : Config) (r : Request) : Bool :=
  r.path == ("/healthcheck" : Str) && r.method == ("GET" : Str) &&
    r.host == cfg.root_domain_no_port

/-- The request is authenticated, or it is one that need not be: the health check of
the root domain, or a request to the table API, which the admin application
authenticates. -/
def Authenticated (cfg : Config) (r : Request) (tr : Trace) : Prop :=
  is_root_healthcheck cfg r = true ∨ is_table_requested cfg r = true ∨
    (∃ profile, TokenOf cfg r profile tr) ∨ BasicAuthenticated cfg r ∨ HawkAuthenticated r tr

/-- The page that says the peer is not allowed. -/
def IsForbiddenPage (cfg : Config) : Op → Prop
  | .upstream u =>
      u.forward = .admin ∧ u.method = "GET" ∧ u.url = ⟨cfg.admin_root, some "/error_403", none⟩ ∧
        u.query = [] ∧ u.data = .empty
  | _ => False

/-- The operation is for an application, for Superset or for a mirror. -/
def Op.restricted : Op → Bool
  | .application_api _ _ _ => true
  | .superset_credentials _ _ => true
  | .upstream u => u.forward != .admin
  | _ => false

/-- What is for an application, for Superset or for a mirror, or is done for a request
to which the whitelist applies, is for a peer in the whitelist.  Others are only shown
the page that says they are not in it. -/
def PeerAdmitted (cfg : Config) (r : Request) (o : Op) : Prop :=
  o.restricted = true ∨ ip_whitelist_required cfg r = true →
    peer_ip_in_whitelist cfg r = some true ∨ IsForbiddenPage cfg o

/-- The operation may be performed after these events. -/
def Admitted (cfg : Config) (r : Request) (o : Op) (tr : Trace) : Prop :=
  o.forwards = true → Authenticated cfg r tr ∧ PeerAdmitted cfg r o

section Admission

variable {cfg : Config} {r : Request}

theorem Authenticated.mono {tr tr' : Trace} (h : Authenticated cfg r tr) (htr : tr <+: tr') :
    Authenticated cfg r tr' := by
  rcases h with h | h | h | h | h
  · exact .inl h
  · exact .inr (.inl h)
  · exact .inr (.inr (.inl (h.imp fun _ ht => ht.mono htr)))
  · exact .inr (.inr (.inr (.inl h)))
  · exact .inr (.inr (.inr (.inr (h.mono htr))))

theorem admitted_of_not_forwards {o : Op} (h : o.forwards = false) (tr : Trace) :
    Admitted cfg r o tr := by
  intro ho
  rw [h] at ho
  cases ho

/-! ## The last middleware -/

theorem not_restricted_of_silent {o : Op} (h : o.forwards = false) : o.restricted = false := by
  cases o <;> first | rfl | cases h

theorem handle_http_not_restricted (cfg : Config) (d : Downstream) {upstream : UpstreamRequest}
    (h : upstream.forward = .admin) :
    (handle_http cfg d upstream).Only fun o => o.restricted = false := by
  refine (handle_http_only cfg d upstream).mono fun o ho => ?_
  rcases ho with rfl | ho
  · rw [Op.restricted, h]
    rfl
  · exact not_restricted_of_silent ho

theorem handle_not_restricted {d : Downstream} (h : ip_whitelist_required cfg d.request = false) :
    (handle cfg d).Only fun o => o.restricted = false := by
  simp only [ip_whitelist_required, Bool.or_eq_false_iff] at h
  obtain ⟨⟨⟨⟨⟨happ, hsup⟩, hmirror⟩, -⟩, -⟩, -⟩ := h
  unfold handle
  split
  case isFalse => trivial
  case isTrue =>
    refine Prog.Only.bind (Prog.Only.attempt ?_) fun outcome => ?_
    · rw [dispatch, happ, hmirror, hsup]
      exact handle_http_not_restricted _ _ rfl
    · rcases outcome with e | response
      · dsimp only
        split
        · trivial
        · cases e with
          | user message status => exact handle_http_not_restricted _ _ rfl
          | other => exact handle_http_not_restricted _ _ rfl
      · trivial

/-! ## The middlewares -/

/-- The condition under which the middlewares let operations through. -/
abbrev admission (cfg : Config) (r : Request) : Interp Ans Trace := tracing (Admitted cfg r)

theorem wp_of_silent {α : Type} {p : M α} (hp : Silent p) (tr : Trace) :
    wp (admission cfg r) p (fun _ _ => True) tr :=
  wp_of_only hp (fun _ _ _ ho => admitted_of_not_forwards ho _) fun _ _ _ => trivial

theorem wp_authenticate_by_ip_whitelist {d : Downstream} (hd : d.request = r) {tr : Trace}
    (ha : Authenticated cfg r tr) :
    wp (admission cfg r) (authenticate_by_ip_whitelist cfg (handle cfg) d) (fun _ _ => True) tr := by
  unfold authenticate_by_ip_whitelist
  rw [hd]
  split
  case isTrue hreq =>
    refine wp_of_only (handle_not_restricted (by rwa [hd]))
      (fun o es _ ho _ => ⟨ha.mono (List.prefix_append _ _), fun h => ?_⟩) fun _ _ _ => trivial
    rcases h with h | h
    · rw [ho] at h
      cases h
    · rw [hreq] at h
      cases h
  case isFalse =>
    rw [wp_bind]
    refine wp_ofOption (fun _ => trivial) fun peer hpeer => ?_
    cases peer with
    | true =>
        exact wp_of_only (Prog.only_true _)
          (fun _ _ _ _ _ => ⟨ha.mono (List.prefix_append _ _), fun _ => .inl hpeer⟩) fun _ _ _ => trivial
    | false =>
        refine wp_of_only (handle_http_only ..)
          (fun o es _ ho hf => ⟨ha.mono (List.prefix_append _ _), fun _ => .inr ?_⟩) fun _ _ _ => trivial
        rcases ho with rfl | ho
        · exact ⟨rfl, rfl, rfl, rfl, rfl⟩
        · rw [ho] at hf
          cases hf

theorem HandedOn.authenticated {d : Downstream} {tr : Trace} (h : HandedOn cfg r d tr)
    (hcheck : is_healthcheck_requested cfg r = true → r.host = cfg.root_domain_no_port) :
    Authenticated cfg r tr := by
  rcases h.sso with ⟨hsso, -⟩ | ⟨profile, ht, -⟩
  · simp only [is_sso_auth_required, Bool.and_eq_false_iff, Bool.not_eq_false'] at hsso
    rcases hsso with ((hhealth | hdiscovery) | htable) | hdataset
    · have hhost := hcheck hhealth
      simp only [is_healthcheck_requested, Bool.and_eq_true, beq_iff_eq] at hhealth
      refine .inl ?_
      rw [is_root_healthcheck, hhealth.1.1, hhealth.1.2, hhost]
      simp
    · exact .inr (.inr (.inr (.inl ⟨hdiscovery, h.basic hdiscovery⟩)))
    · exact .inr (.inl htable)
    · exact .inr (.inr (.inr (.inr (h.hawk hdataset))))
  · exact .inr (.inr (.inl ⟨profile, ht⟩))

/-! ## Health checks -/

theorem healthcheck_cases (h : is_healthcheck_requested cfg r = true) :
    r.path = "/healthcheck" ∧ r.method = "GET" ∧ is_app_requested cfg r = false := by
  unfold is_healthcheck_requested at h
  simp only [Bool.and_eq_true, beq_iff_eq, Bool.not_eq_true'] at h
  exact ⟨h.1.1, h.1.2, h.2⟩

/-- A health check passes the first three authentications. -/
theorem serve_healthcheck (h : is_healthcheck_requested cfg r = true) :
    serve cfg r = authenticate_by_ip_whitelist cfg (handle cfg) ⟨r, [], Session.of cfg r⟩ := by
  obtain ⟨hpath, -, -⟩ := healthcheck_cases h
  have hsso : is_sso_auth_required cfg r = false := by rw [is_sso_auth_required, h]; rfl
  have hbasic : is_service_discovery cfg r = false := by
    rw [is_service_discovery, hpath]
    rfl
  have hhawk : is_hawk_auth_required cfg r = false := by
    rw [is_hawk_auth_required, is_dataset_requested, hpath]
    rfl
  unfold serve authenticate_by_staff_sso authenticate_by_basic_auth authenticate_by_hawk_auth
  rw [if_pos hsso, if_pos hbasic, if_pos hhawk]

theorem ip_whitelist_required_healthcheck (h : is_healthcheck_requested cfg r = true) :
    ip_whitelist_required cfg r = is_superset_requested cfg r := by
  obtain ⟨hpath, -, happ⟩ := healthcheck_cases h
  have hmirror : is_mirror_requested r = false := by
    rw [is_mirror_requested, hpath]
    rfl
  have hcredentials : is_requesting_credentials cfg r = false := by
    rw [is_requesting_credentials, hpath]
    exact Bool.and_false _
  have hfiles : is_requesting_files cfg r = false := by
    rw [is_requesting_files, hpath]
    exact Bool.and_false _
  have hexplorer : is_data_explorer_requested cfg r = false := by
    rw [is_data_explorer_requested, hpath]
    rfl
  rw [ip_whitelist_required, happ, hmirror, hcredentials, hfiles, hexplorer]
  cases is_superset_requested cfg r <;> rfl

theorem dispatch_healthcheck (h : is_healthcheck_requested cfg r = true) {d : Downstream}
    (hd : d.request = r) :
    dispatch cfg d =
      if is_superset_requested cfg r = true then handle_superset cfg d r.method r.path r.query
      else handle_admin cfg d r.method (admin_headers_proxy d) r.path r.query (get_data r) := by
  obtain ⟨hpath, -, happ⟩ := healthcheck_cases h
  have hmirror : is_mirror_requested r = false := by
    rw [is_mirror_requested, hpath]
    rfl
  rw [dispatch, hd, happ, hmirror]
  rfl

/-- A health check of another host than the root domain, for which something is
forwarded.  Nothing is for Superset when the address of the peer cannot be told, or
when a websocket is asked for without naming the host. -/
def is_stray_healthcheck (cfg : Config) (r : Request) : Bool :=
  is_healthcheck_requested cfg r && r.host != cfg.root_domain_no_port &&
    (!is_superset_requested cfg r ||
      match peer_ip_in_whitelist cfg r with
      | none => false
      | some false => true
      | some true => r.headers.contains "host" || !is_websocket r)

theorem performs_handle_healthcheck (h : is_healthcheck_requested cfg r = true)
    (hws : is_superset_requested cfg r = true →
      (r.headers.contains "host" || !is_websocket r) = true) {d : Downstream} (hd : d.request = r) :
    ∃ o, Performs (handle cfg d) [] o ∧ o.forwards = true := by
  obtain ⟨hpath, hmethod, -⟩ := healthcheck_cases h
  have hrouted : d.request.method ∈ routed_methods := by
    rw [hd, hmethod]
    decide
  rw [handle, if_pos hrouted, dispatch_healthcheck h hd]
  split
  case isFalse => exact ⟨_, ⟨_, .refl⟩, rfl⟩
  case isTrue hsup =>
    have hws := hws hsup
    rw [handle_superset, hd]
    rw [Headers.contains] at hws
    cases hhost : r.headers.get? "host" with
    | some host =>
        have hstatic : ¬ startswith r.path "/static/" = true := by
          rw [hpath]
          decide
        rw [superset_headers, if_neg hstatic]
        exact ⟨_, ⟨_, .refl⟩, rfl⟩
    | none =>
        rw [hhost, Option.isSome_none, Bool.false_or, Bool.not_eq_true'] at hws
        change ∃ o, Performs
          (if is_websocket r = true then .raise .other else error_page cfg d .other) [] o ∧ _
        rw [hws]
        exact ⟨_, ⟨_, .refl⟩, rfl⟩

theorem performs_of_stray (h : is_stray_healthcheck cfg r = true) :
    ∃ o, Performs (serve cfg r) [] o ∧ o.forwards = true := by
  simp only [is_stray_healthcheck, Bool.and_eq_true, Bool.or_eq_true, Bool.not_eq_true'] at h
  obtain ⟨⟨hcheck, -⟩, hstray⟩ := h
  rw [serve_healthcheck hcheck, authenticate_by_ip_whitelist,
    ip_whitelist_required_healthcheck hcheck]
  cases hsup : is_superset_requested cfg r with
  | false =>
      refine performs_handle_healthcheck hcheck (fun h => ?_) rfl
      rw [hsup] at h
      cases h
  | true =>
      rcases hstray with hstray | hstray
      · rw [hsup] at hstray
        cases hstray
      · cases hpeer : peer_ip_in_whitelist cfg r with
        | none =>
            rw [hpeer] at hstray
            cases hstray
        | some peer =>
            cases peer with
            | false => exact ⟨_, ⟨_, .refl⟩, rfl⟩
            | true =>
                rw [hpeer] at hstray
                exact performs_handle_healthcheck hcheck (fun _ => by simpa using hstray) rfl

theorem silent_of_not_stray (hcheck : is_healthcheck_requested cfg r = true)
    (hhost : r.host ≠ cfg.root_domain_no_port) (h : is_stray_healthcheck cfg r = false) :
    Silent (serve cfg r) := by
  have hhost' : (r.host != cfg.root_domain_no_port) = true := by simpa using hhost
  rw [is_stray_healthcheck, hcheck, hhost', Bool.true_and, Bool.true_and, Bool.or_eq_false_iff,
    Bool.not_eq_false'] at h
  obtain ⟨hsup, h⟩ := h
  rw [serve_healthcheck hcheck, authenticate_by_ip_whitelist,
    ip_whitelist_required_healthcheck hcheck, if_neg (by rw [hsup]; decide)]
  cases hpeer : peer_ip_in_whitelist cfg r with
  | none => trivial
  | some peer =>
      rw [hpeer] at h
      cases peer with
      | false => cases h
      | true =>
          simp only [Bool.or_eq_false_iff, Bool.not_eq_false', Headers.contains,
            Option.isSome_eq_false_iff, Option.isNone_iff_eq_none] at h
          obtain ⟨-, hmethod, -⟩ := healthcheck_cases hcheck
          have hrouted : r.method ∈ routed_methods := by
            rw [hmethod]
            decide
          change Silent (handle cfg ⟨r, [], Session.of cfg r⟩)
          rw [handle, if_pos hrouted, dispatch_healthcheck hcheck rfl, if_pos hsup, handle_superset,
            h.1]
          change Silent (if is_websocket r = true then .raise .other else error_page cfg _ .other)
          rw [if_pos h.2]
          trivial

/-! ## The theorem -/

theorem wp_admission (h : is_stray_healthcheck cfg r = false) :
    wp (admission cfg r) (serve cfg r) (fun _ _ => True) [] := by
  by_cases hcheck : is_healthcheck_requested cfg r = true ∧ r.host ≠ cfg.root_domain_no_port
  · exact wp_of_silent (silent_of_not_stray hcheck.1 hcheck.2 h) []
  · refine wp_serve (fun o tr ho _ => admitted_of_not_forwards ho tr) (fun _ _ _ => trivial)
      (fun _ _ => trivial) (fun _ tr _ => wp_of_silent (silent_redirection_to_sso ..) tr)
      (fun _ tr _ => wp_of_silent (silent_redirect_from_sso ..) tr) fun d tr hd => ?_
    refine wp_authenticate_by_ip_whitelist hd.request (hd.authenticated fun hhealth => ?_)
    by_contra hhost
    exact hcheck ⟨hhealth, hhost⟩

theorem not_authenticated_of_stray (h : is_stray_healthcheck cfg r = true) :
    ¬ Authenticated cfg r [] := by
  simp only [is_stray_healthcheck, Bool.and_eq_true, bne_iff_ne, ne_eq] at h
  obtain ⟨⟨hcheck, hhost⟩, -⟩ := h
  obtain ⟨hpath, -, -⟩ := healthcheck_cases hcheck
  rintro (h | h | h | h | h)
  · simp only [is_root_healthcheck, Bool.and_eq_true, beq_iff_eq] at h
    exact hhost h.2
  · rw [is_table_requested, hpath] at h
    cases h
  · obtain ⟨_, _, _, _, h, _⟩ := h
    cases h
  · rw [BasicAuthenticated, is_service_discovery, hpath] at h
    cases h.1
  · obtain ⟨_, _, _, _, h⟩ := h
    cases h

end Admission

/-! ## A health check of Superset -/

/-- A health check of Superset, from a peer in the whitelist and without credentials. -/
def supersetHealthcheck : Request where
  method := "GET"
  scheme := "http"
  host := "superset.dataworkspace.test"
  port := 8000
  authority := "superset.dataworkspace.test:8000"
  path := "/healthcheck"
  path_qs := "/healthcheck"
  raw_path_qs := "/healthcheck"
  query := []
  headers := [("host", "superset.dataworkspace.test:8000"), ("x-forwarded-for", "127.0.0.1")]
  cookies := []
  content := []

end Proxy
