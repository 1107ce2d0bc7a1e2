import DataWorkspace.Proxy.Rules

/-!
# Rules for the handlers

`SentAs` says with which headers a request is forwarded, for every kind of server.
`wp_behind_whitelist` follows a condition through everything the last middleware and
`handle` do with a request: it is enough that the condition admits what is forwarded so,
and that the responses that are given a cookie have the property in question.
-/

namespace Proxy

open Py Http Async

def SentAs (d : Downstream) (tr : Trace) (u : UpstreamRequest) : Prop :=
  match u.forward with
  | .admin => u.headers = admin_headers_request d ∨ u.headers = admin_headers_proxy d
  | .application => u.headers = application_headers d
  | .mirror => u.headers = mirror_headers d
  | .superset =>
      if startswith d.request.path "/static/" then u.headers = superset_headers_of d [] []
      else ∃ url reply,
        (⟨.superset_credentials url (admin_headers_request d), some reply⟩ : Event Ans) ∈ tr ∧
          u.headers = superset_headers_of d reply.credentials reply.dashboards

/-- The outcome of a program that writes no session and returns values with `R` only. -/
def Ends {α : Type} (tr₀ : Trace) (R : α → Trace → Prop) : Except Exc α → Trace → Prop :=
  fun x tr => Calm tr₀ tr ∧ ∀ y, x = .ok y → R y tr

/-- What the handlers have to be told about a condition `pre` and about a property `R` of
responses. -/
structure Handles (cfg : Config) (d : Downstream) (pre : Op → Trace → Prop)
    (R : Response → Trace → Prop) (tr₀ : Trace) : Prop where
  session : d.session.to_set = []
  api : ∀ method url headers tr, pre (.application_api method url headers) tr
  credentials : ∀ url headers tr, pre (.superset_credentials url headers) tr
  token : ∀ tr, pre .token_urlsafe tr
  upstream : ∀ u tr, Calm tr₀ tr → SentAs d tr u → pre (.upstream u) tr
  response : ∀ (response : Response) c tr, Calm tr₀ tr →
    d.session.cookie_value = some c ∨ (⟨.token_urlsafe, c⟩ : Event Ans) ∈ tr →
      R { response with set_cookie := some (cookieFor cfg d.request c) } tr
  patch : ∀ response method url headers a tr, R response tr →
    R response (tr ++ [⟨.application_api method url headers, a⟩])

section Handlers

variable {cfg : Config} {d : Downstream} {pre : Op → Trace → Prop} {R : Response → Trace → Prop}
  {tr₀ tr : Trace}

theorem Ends.error {α : Type} {R : α → Trace → Prop} (h : Calm tr₀ tr) (e : Exc) :
    Ends tr₀ R (.error e) tr :=
  ⟨h, fun _ he => nomatch he⟩

theorem Ends.ok {α : Type} {R : α → Trace → Prop} {y : α} (h : Calm tr₀ tr) (hy : R y tr) :
    Ends tr₀ R (.ok y) tr :=
  ⟨h, fun _ he => Except.ok.inj he ▸ hy⟩

/-- A sequence ends well when what follows does, from wherever the first part stops. -/
theorem wp_seq {α β : Type} {p : M α} {f : α → M β} {R : β → Trace → Prop} {R' : α → Trace → Prop}
    (hp : wp (tracing pre) p (Ends tr₀ R') tr)
    (hf : ∀ a tr', Calm tr₀ tr' → R' a tr' → wp (tracing pre) (f a) (Ends tr₀ R) tr') :
    wp (tracing pre) (p >>= f) (Ends tr₀ R) tr := by
  rw [wp_bind]
  refine wp_mono (fun x tr' hx => ?_) p tr hp
  obtain ⟨hcalm, hx⟩ := hx
  cases x with
  | ok a => exact hf a tr' hcalm (hx a rfl)
  | error e => exact .error hcalm e

theorem wp_orRaise {α : Type} {v : Option α} (h : Calm tr₀ tr) :
    wp (tracing pre) (orRaise v) (Ends tr₀ fun _ _ => True) tr :=
  wp_ofOption (fun _ => .error h _) fun _ _ => .ok h trivial

theorem wp_handle_http (hh : Handles cfg d pre R tr₀) (h : Calm tr₀ tr) {u : UpstreamRequest}
    (hu : SentAs d tr u) : wp (tracing pre) (handle_http cfg d u) (Ends tr₀ R) tr := by
  refine wp_seq ⟨hh.upstream u tr h hu, ?_⟩ fun response tr' h' (_ : True) => ?_
  · rintro a tr' rfl
    exact .ok (h.snoc rfl a) trivial
  · cases response with
    | none => exact .error h' _
    | some reply =>
        dsimp only
        unfold with_cookie
        rw [hh.session]
        cases hc : d.session.cookie_value with
        | some c => exact .ok h' (hh.response _ c tr' h' (.inl hc))
        | none =>
            refine ⟨hh.token tr', ?_⟩
            rintro c tr'' rfl
            exact .ok (h'.snoc rfl c) (hh.response _ c _ (h'.snoc rfl c) (.inr (by simp)))

theorem wp_admin_page (hh : Handles cfg d pre R tr₀) (h : Calm tr₀ tr) (url : UpstreamUrl)
    (params : List (Str × Str)) :
    wp (tracing pre) (admin_page cfg d url params) (Ends tr₀ R) tr :=
  wp_handle_http hh h (.inl rfl)

theorem wp_application_request (hh : Handles cfg d pre R tr₀) (h : Calm tr₀ tr) (websocket : Bool)
    (method : Str) (url : UpstreamUrl) (query : List (Str × Str)) :
    wp (tracing pre) (handle_http cfg d (application_request d websocket method url query))
      (Ends tr₀ R) tr :=
  wp_handle_http hh h rfl

theorem wp_application_api (hh : Handles cfg d pre R tr₀) (h : Calm tr₀ tr) (method url : Str)
    (headers : Headers) :
    wp (tracing pre) (await (.application_api method url headers)) (Ends tr₀ fun _ _ => True) tr := by
  refine ⟨hh.api .., ?_⟩
  rintro a tr' rfl
  exact .ok (h.snoc rfl a) trivial

theorem wp_find_application (hh : Handles cfg d pre R tr₀) (h : Calm tr₀ tr) (host_api_url : Str) :
    wp (tracing pre) (find_application d host_api_url) (Ends tr₀ fun _ _ => True) tr := by
  unfold find_application
  refine wp_seq (wp_application_api hh h ..) fun _ _ h _ => wp_seq (wp_orRaise h) fun found _ h _ => ?_
  split
  · exact .error h _
  · split
    · split
      · exact .error h _
      · exact wp_seq (wp_application_api hh h ..) fun _ _ h _ =>
          wp_seq (wp_orRaise h) fun _ _ h _ => .error h _
    · have hrest {tr : Trace} (h : Calm tr₀ tr) (started : ApiResponse) :
          wp (tracing pre)
            (if started.status ≠ 200 then
              .raise (.user "Unable to start the application" started.status)
            else if isUp started.application = false then
              .raise (.user (("Attempted to start the application, but it " : Str) ++
                started.application.state) 500)
            else .pure started.application : M Application) (Ends tr₀ fun _ _ => True) tr := by
        split
        · exact .error h _
        · split
          · exact .error h _
          · exact .ok h trivial
      split
      · exact hrest h _
      · split
        · exact .error h _
        · exact wp_seq (wp_application_api hh h ..) fun _ _ h _ =>
            wp_seq (wp_orRaise h) fun started _ h _ => hrest h started

theorem wp_handle_application (hh : Handles cfg d pre R tr₀) (h : Calm tr₀ tr) (method path : Str)
    (query : List (Str × Str)) :
    wp (tracing pre) (handle_application cfg d method path query) (Ends tr₀ R) tr := by
  unfold handle_application
  rcases public_host_and_port cfg d.request.host with ⟨public_host, port_override⟩
  refine wp_seq (wp_find_application hh h _) fun application _ h _ => ?_
  split
  · exact wp_admin_page hh h ..
  · dsimp only
    split
    · exact wp_application_request hh h ..
    · split
      · refine wp_seq (wp_orRaise h) fun _ tr h _ => ?_
        rw [wp_bind, wp_attempt]
        refine wp_mono (fun attempted tr' ha => ?_) _ tr (wp_application_request hh h ..)
        cases attempted with
        | error e => exact wp_admin_page hh ha.1 ..
        | ok response =>
            refine ⟨hh.api .., ?_⟩
            rintro a tr'' rfl
            exact .ok (ha.1.snoc rfl a) (hh.patch _ _ _ _ a _ (ha.2 response rfl))
      · split
        · exact wp_admin_page hh h ..
        · exact wp_seq (wp_orRaise h) fun _ _ h _ => wp_application_request hh h ..

/-- Superset gets the reply of the admin application, unless a static file is asked for. -/
theorem wp_superset_headers (hh : Handles cfg d pre R tr₀) (h : Calm tr₀ tr) :
    wp (tracing pre) (superset_headers cfg d d.request.path)
      (Ends tr₀ fun headers tr => ∀ u : UpstreamRequest, u.forward = .superset →
        u.headers = headers → SentAs d tr u) tr := by
  unfold superset_headers
  split
  case isTrue hstatic =>
    refine .ok h fun u hu hheaders => ?_
    rw [SentAs, hu]
    dsimp only
    rw [if_pos hstatic, hheaders]
  case isFalse hstatic =>
    rw [wp_bind]
    refine ⟨hh.credentials .., ?_⟩
    rintro response tr' rfl
    rw [wp_pure, andThen_ok]
    have h := h.snoc (o := .superset_credentials (cfg.admin_root ++
      "/api/v1/core/get-superset-role-credentials") (admin_headers_request d)) rfl response
    cases response with
    | none => exact .error h _
    | some reply =>
        dsimp only
        split
        · refine .ok h fun u hu hheaders => ?_
          rw [SentAs, hu]
          dsimp only
          rw [if_neg hstatic]
          exact ⟨_, reply, List.mem_append_right _ (List.mem_singleton_self _), hheaders⟩
        · exact .error h _

theorem wp_handle_superset (hh : Handles cfg d pre R tr₀) (h : Calm tr₀ tr) (method : Str)
    (query : List (Str × Str)) :
    wp (tracing pre) (handle_superset cfg d method d.request.path query) (Ends tr₀ R) tr := by
  unfold handle_superset
  refine wp_seq (wp_orRaise h) fun _ tr h _ => ?_
  exact wp_seq (wp_superset_headers hh h) fun headers tr h hs => wp_handle_http hh h (hs _ rfl rfl)

theorem wp_dispatch (hh : Handles cfg d pre R tr₀) (h : Calm tr₀ tr) :
    wp (tracing pre) (dispatch cfg d) (Ends tr₀ R) tr := by
  unfold dispatch
  dsimp only
  split
  · exact wp_handle_application hh h ..
  · split
    · exact wp_handle_http hh h rfl
    · split
      · exact wp_handle_superset hh h ..
      · exact wp_handle_http hh h (.inr rfl)

theorem wp_handle (hh : Handles cfg d pre R tr₀) (h : Calm tr₀ tr) :
    wp (tracing pre) (handle cfg d) (Ends tr₀ R) tr := by
  unfold handle
  split
  case isFalse => exact .error h _
  case isTrue =>
    rw [wp_bind, wp_attempt]
    refine wp_mono (fun outcome tr' ho => ?_) _ tr (wp_dispatch hh h)
    cases outcome with
    | ok response => exact ho
    | error e =>
        rw [andThen_ok]
        dsimp only
        split
        · exact .error ho.1 _
        · cases e with
          | user message status => exact wp_admin_page hh ho.1 ..
          | other => exact wp_admin_page hh ho.1 ..

/-- What the last middleware does with a request meets a condition the handlers meet. -/
theorem wp_behind_whitelist (hh : Handles cfg d pre R tr₀) :
    wp (tracing pre) (authenticate_by_ip_whitelist cfg (handle cfg) d) (Ends tr₀ R) tr₀ := by
  have h := Calm.refl tr₀
  unfold authenticate_by_ip_whitelist
  split
  · exact wp_handle hh h
  · refine wp_seq (wp_orRaise h) fun peer tr h _ => ?_
    cases peer with
    | true => exact wp_handle hh h
    | false => exact wp_handle_http hh h (.inl rfl)

end Handlers

end Proxy
