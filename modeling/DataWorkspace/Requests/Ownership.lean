import DataWorkspace.Requests.AccessRequests
import DataWorkspace.Requests.DataRequests
import DataWorkspace.Requests.Subscriptions
import Mathlib.Logic.Function.Basic

/-!
# Whose request it is

The access requests, the data requests and the subscriptions to datasets, with the requests of
any users to their pages, one after the other.  The id in the URL may be that of any row.

`private_iff` says which sequences of requests keep every user to the rows that the user made:
those in which the pages that look at no owner are asked for the user's own rows only.
`maker_after_iff` says that, in every sequence, a row stays with the user who made it.
-/

namespace Requests

open Py Async Filings

/-! ## The site -/

structure Site where
  access_requests : Nat → Option RequestAccess.AccessRequest
  data_requests : Nat → Option RequestData.DataRequest
  subscriptions : List Subscriptions.DataSetSubscription

/-- A request to the pages.  Those that create a row are given the id it gets, and those that
may ask for a ticket what Zendesk answers. -/
inductive Page where
  | request_access (fresh : Nat) (dataset_uuid : Option Nat)
      (find_dataset_or_visualisation : Nat → Except Exc RequestAccess.CatalogueItem)
      (user_has_access user_has_tools_access : Bool) (posted : Option (Str × Str))
  | access (pk : Nat)
      (find_dataset_or_visualisation : Nat → Except Exc RequestAccess.CatalogueItem)
      (zendesk : Except Bool Nat) (request : RequestAccess.Request)
  | request_data (fresh : Nat)
  | data (pk : Nat) (zendesk : Except Bool Nat) (request : RequestData.Request)
  | subscription (request : Subscriptions.Request)

/-- The row that is created, where its id is new. -/
def insert {ρ : Type} (rows : Nat → Option ρ) (fresh : Nat) (row : ρ) : Nat → Option ρ :=
  match rows fresh with
  | none => Function.update rows fresh (some row)
  | some _ => rows

/-- A request to the pages of one row. -/
def visitRow {ρ α : Type} (requester : ρ → Nat) (zendesk : Except Bool Nat) (view : M ρ α)
    (rows : Nat → Option ρ) (pk : Nat) : (Nat → Option ρ) × List Event :=
  match rows pk with
  | none => (rows, [])
  | some row =>
      let v := visit requester zendesk view row
      (Function.update rows pk (some v.row), v.events)

def Site.serve (site : Site) (user : Nat) : Page → Site × List Event
  | .request_access fresh dataset_uuid find_dataset_or_visualisation user_has_access
      user_has_tools_access posted =>
      match RequestAccess.DatasetAccessRequest.dispatch user dataset_uuid
          find_dataset_or_visualisation user_has_access user_has_tools_access posted with
      | .ok (some (access_request, _)) =>
          ({ site with access_requests := insert site.access_requests fresh access_request },
            [.changed access_request.requester])
      | _ => (site, [])
  | .access pk find_dataset_or_visualisation zendesk request =>
      let (rows, events) := visitRow RequestAccess.AccessRequest.requester zendesk
        (request.serve user find_dataset_or_visualisation) site.access_requests pk
      ({ site with access_requests := rows }, events)
  | .request_data fresh =>
      let data_request := RequestData.created user
      ({ site with data_requests := insert site.data_requests fresh data_request },
        [.changed data_request.requester])
  | .data pk zendesk request =>
      let (rows, events) := visitRow RequestData.DataRequest.requester zendesk request.serve
        site.data_requests pk
      ({ site with data_requests := rows }, events)
  | .subscription request =>
      let served := request.serve site.subscriptions user
      ({ site with subscriptions := served.subscriptions }, served.events)

inductive Row where
  | access_request (pk : Nat)
  | data_request (pk : Nat)
  | subscription (pk : Nat)
deriving DecidableEq, Repr

/-- Whose a row is.  `maker_serve` says that it is the user who made it. -/
def Site.maker (site : Site) : Row → Option Nat
  | .access_request pk => (site.access_requests pk).map RequestAccess.AccessRequest.requester
  | .data_request pk => (site.data_requests pk).map RequestData.DataRequest.requester
  | .subscription pk =>
      (Subscriptions.get_object site.subscriptions pk).map
        Subscriptions.DataSetSubscription.user

/-- The site after some requests, one after the other. -/
def Site.after (site : Site) : List (Nat × Page) → Site
  | [] => site
  | (user, page) :: rest => (site.serve user page).1.after rest

/-! ## The property and the condition -/

/-- Every request of the sequence gets at rows of its user only, and raises tickets in the name
of its user only. -/
def Site.Private (site : Site) : List (Nat × Page) → Prop
  | [] => True
  | (user, page) :: rest =>
      (∀ e ∈ (site.serve user page).2, e.owner = user) ∧ (site.serve user page).1.Private rest

/-- The row is the user's, if there is one. -/
def Owns {ρ : Type} (requester : ρ → Nat) (rows : Nat → Option ρ) (user pk : Nat) : Prop :=
  ∀ row, rows pk = some row → requester row = user

/-- A page that looks at no owner is asked for a row of the user. -/
def Page.Guarded (site : Site) (user : Nat) : Page → Prop
  | .request_access .. => True
  | .access pk _ _ request =>
      request.page.guarded = true ∨
        Owns RequestAccess.AccessRequest.requester site.access_requests user pk
  | .request_data _ => True
  | .data pk _ _ => Owns RequestData.DataRequest.requester site.data_requests user pk
  | .subscription request =>
      ∀ pk, request.unguarded = some pk → Subscriptions.Own site.subscriptions user pk

def Site.Guarded (site : Site) : List (Nat × Page) → Prop
  | [] => True
  | (user, page) :: rest => page.Guarded site user ∧ (site.serve user page).1.Guarded rest

/-! ## The pages of one row -/

section

variable {ρ α : Type} {requester : ρ → Nat} {zendesk : Except Bool Nat} {view : M ρ α}
  {rows : Nat → Option ρ} {user pk : Nat}

theorem visitRow_mine_iff
    (hmine : ∀ row, requester row = user → (visit requester zendesk view row).Mine requester user)
    (hread : ∀ row, .read (requester row) ∈ (visit requester zendesk view row).events) :
    (∀ e ∈ (visitRow requester zendesk view rows pk).2, e.owner = user) ↔
      Owns requester rows user pk := by
  rw [visitRow, Owns]
  cases hrow : rows pk with
  | none =>
      exact iff_of_true (fun e he => absurd he List.not_mem_nil) fun row hrow' => by cases hrow'
  | some row =>
      constructor
      · intro h row' hrow'
        cases hrow'
        exact h _ (hread row)
      · intro h
        exact (hmine row (h row rfl)).2

theorem visitRow_mine
    (hmine : ∀ row, requester row = user → (visit requester zendesk view row).Mine requester user)
    (hother : ∀ row, requester row ≠ user → (visit requester zendesk view row).events = []) :
    ∀ e ∈ (visitRow requester zendesk view rows pk).2, e.owner = user := by
  rw [visitRow]
  cases rows pk with
  | none => exact fun e he => absurd he List.not_mem_nil
  | some row =>
      by_cases hrow : requester row = user
      · exact (hmine row hrow).2
      · dsimp only
        rw [hother row hrow]
        exact fun e he => absurd he List.not_mem_nil

theorem visitRow_requester
    (hkept : ∀ row, requester (visit requester zendesk view row).row = requester row) (pk' : Nat) :
    ((visitRow requester zendesk view rows pk).1 pk').map requester =
      (rows pk').map requester := by
  rw [visitRow]
  cases hrow : rows pk with
  | none => rfl
  | some row =>
      dsimp only
      by_cases hpk : pk' = pk
      · rw [hpk, Function.update_self, hrow]
        exact congrArg some (hkept row)
      · rw [Function.update_of_ne hpk]

theorem insert_requester (requester : ρ → Nat) (rows : Nat → Option ρ) (fresh : Nat) (row : ρ)
    (pk' : Nat) :
    (insert rows fresh row pk').map requester = (rows pk').map requester ∨
      rows pk' = none ∧ (insert rows fresh row pk').map requester = some (requester row) := by
  rw [insert]
  cases hrow : rows fresh with
  | some row' => exact .inl rfl
  | none =>
      dsimp only
      by_cases hpk : pk' = fresh
      · rw [hpk, Function.update_self]
        exact .inr ⟨hrow, rfl⟩
      · exact .inl (by rw [Function.update_of_ne hpk])

end

/-! ## Access requests -/

section

open RequestAccess

variable {user : Nat} {zendesk : Except Bool Nat} {row : AccessRequest}
  {find_dataset_or_visualisation : Nat → Except Exc CatalogueItem}

theorem meets_show {page : RequestAccess.Page} {v : Visit AccessRequest} :
    Meets (visiting AccessRequest.requester zendesk user)
      (renderItem find_dataset_or_visualisation page row) v := by
  rw [renderItem]
  split <;> trivial

theorem meets_handle (request : RequestAccess.Request) (h : row.requester = user) :
    Meets (visiting AccessRequest.requester zendesk user)
      (request.handle user find_dataset_or_visualisation) ⟨row, []⟩ := by
  cases request with
  | show_form page => exact meets_get
  | post_form edit => exact meets_post fun _ _ hform => (RequestAccess.Edit.keeps hform).1
  | summary_get => exact meets_load meets_show
  | summary_post => trivial
  | confirmation_get =>
      refine meets_load ?_
      split
      next => exact meets_load meets_show
      next =>
        cases catalogueItem find_dataset_or_visualisation row with
        | error e => trivial
        | ok catalogue_item =>
            refine meets_filing ?_ (fun _ => rfl) fun _ => meets_load meets_show
            unfold ticketFor
            split
            · rfl
            · exact h

theorem access_mine (request : RequestAccess.Request) (h : row.requester = user) :
    (visit AccessRequest.requester zendesk (request.serve user find_dataset_or_visualisation)
      row).Mine AccessRequest.requester user := by
  refine visit_mine ?_ h
  rw [Request.serve]
  split
  · refine meets_check ?_
    rw [if_neg (not_not_intro h)]
    exact meets_handle request h
  · exact meets_handle request h

theorem access_other {request : RequestAccess.Request} (hguarded : request.page.guarded = true)
    (h : row.requester ≠ user) :
    (visit AccessRequest.requester zendesk (request.serve user find_dataset_or_visualisation)
      row).events = [] := by
  rw [Request.serve, if_pos hguarded, RequestAccessMixin.dispatch, visit_check, if_pos h]
  rfl

theorem access_read {request : RequestAccess.Request} (hguarded : ¬ request.page.guarded = true) :
    .read row.requester ∈ (visit AccessRequest.requester zendesk
      (request.serve user find_dataset_or_visualisation) row).events := by
  rw [Request.serve, if_neg hguarded]
  cases request with
  | show_form page => exact read_of_load
  | post_form edit => exact read_of_load
  | summary_get => exact absurd rfl hguarded
  | summary_post => exact absurd rfl hguarded
  | confirmation_get => exact absurd rfl hguarded

theorem access_guarded_iff {rows : Nat → Option AccessRequest} {pk : Nat}
    {request : RequestAccess.Request} :
    (∀ e ∈ (visitRow AccessRequest.requester zendesk
        (request.serve user find_dataset_or_visualisation) rows pk).2, e.owner = user) ↔
      request.page.guarded = true ∨ Owns AccessRequest.requester rows user pk := by
  by_cases hguarded : request.page.guarded = true
  · exact iff_of_true (visitRow_mine (fun _ => access_mine request)
      fun _ => access_other hguarded) (.inl hguarded)
  · rw [visitRow_mine_iff (fun _ => access_mine request) fun _ => access_read hguarded]
    exact ⟨.inr, fun h => h.resolve_left hguarded⟩

theorem access_kept (request : RequestAccess.Request) :
    (visit AccessRequest.requester zendesk (request.serve user find_dataset_or_visualisation)
      row).row.requester = row.requester := by
  by_cases h : row.requester = user
  · exact (access_mine request h).1.trans h.symm
  · rw [Request.serve]
    split
    next =>
      rw [RequestAccessMixin.dispatch, visit_check, if_pos h]
      rfl
    next hguarded =>
      cases request with
      | show_form page => rfl
      | post_form edit =>
          have hmeets : Meets (visiting AccessRequest.requester zendesk row.requester)
              (UpdateView.post edit.page edit.form edit.get_success_url) ⟨row, []⟩ :=
            meets_post fun _ _ hform => (RequestAccess.Edit.keeps hform).1
          exact (visit_mine hmeets rfl).1
      | summary_get => exact absurd rfl hguarded
      | summary_post => exact absurd rfl hguarded
      | confirmation_get => exact absurd rfl hguarded

theorem requester_of_dispatch {dataset_uuid : Option Nat} {user_has_access : Bool}
    {user_has_tools_access : Bool} {posted : Option (Str × Str)} {page : RequestAccess.Page}
    (h : DatasetAccessRequest.dispatch user dataset_uuid find_dataset_or_visualisation
      user_has_access user_has_tools_access posted = .ok (some (row, page))) :
    row.requester = user := by
  unfold DatasetAccessRequest.dispatch at h
  split at h
  next =>
    split at h
    next => cases h
    next =>
      cases h
      rfl
  next =>
    split at h
    next => cases h
    next =>
      split at h
      next =>
        split at h
        next => cases h
        next =>
          cases h
          rfl
      next =>
        obtain ⟨_, _, h⟩ := Option.bind_eq_some_iff.mp (Except.ok.inj h)
        obtain ⟨_, _, h⟩ := Option.bind_eq_some_iff.mp h
        obtain ⟨_, _, h⟩ := Option.bind_eq_some_iff.mp h
        split at h
        all_goals
          cases h
          rfl

end

/-! ## Data requests -/

section

open RequestData

variable {user : Nat} {zendesk : Except Bool Nat} {row : DataRequest}

theorem data_mine (request : RequestData.Request) (h : row.requester = user) :
    (visit DataRequest.requester zendesk request.serve row).Mine DataRequest.requester user := by
  refine visit_mine ?_ h
  cases request with
  | get url => exact meets_get
  | post_form edit change => exact meets_post fun _ _ hform => (RequestData.Edit.keeps hform).1
  | check_answers_post =>
      refine meets_load ?_
      dsimp only
      split
      next => trivial
      next =>
        split
        next => trivial
        next => exact meets_filing h (fun _ => rfl) fun _ => trivial

theorem data_read (request : RequestData.Request) :
    .read row.requester ∈ (visit DataRequest.requester zendesk request.serve row).events := by
  cases request with
  | get url => exact read_of_load
  | post_form edit change => exact read_of_load
  | check_answers_post => exact read_of_load

end

/-! ## Sequences of requests -/

section

variable {site : Site} {user : Nat} {page : Page}

theorem maker_serve (row : Row) :
    (site.serve user page).1.maker row = site.maker row ∨
      site.maker row = none ∧ (site.serve user page).1.maker row = some user := by
  cases page with
  | request_access fresh dataset_uuid find user_has_access user_has_tools_access posted =>
      rw [Site.serve]
      split
      next access_request page hdispatch =>
        cases row with
        | access_request pk =>
            rcases insert_requester RequestAccess.AccessRequest.requester site.access_requests fresh
              access_request pk with h | h
            · exact .inl h
            · exact .inr ⟨Option.map_eq_none_iff.mpr h.1,
                h.2.trans (congrArg some (requester_of_dispatch hdispatch))⟩
        | data_request pk => exact .inl rfl
        | subscription pk => exact .inl rfl
      next => exact .inl rfl
  | access pk find zendesk request =>
      refine .inl ?_
      cases row with
      | access_request pk' => exact visitRow_requester (fun _ => access_kept request) pk'
      | data_request pk' => rfl
      | subscription pk' => rfl
  | request_data fresh =>
      cases row with
      | access_request pk => exact .inl rfl
      | data_request pk =>
          rcases insert_requester RequestData.DataRequest.requester site.data_requests fresh
            (RequestData.created user) pk with h | h
          · exact .inl h
          · exact .inr ⟨Option.map_eq_none_iff.mpr h.1, h.2⟩
      | subscription pk => exact .inl rfl
  | data pk zendesk request =>
      refine .inl ?_
      cases row with
      | access_request pk' => rfl
      | data_request pk' =>
          exact visitRow_requester (fun _ => (data_mine request rfl).1) pk'
      | subscription pk' => rfl
  | subscription request =>
      cases row with
      | access_request pk => exact .inl rfl
      | data_request pk => exact .inl rfl
      | subscription pk =>
          rcases Subscriptions.user_of_serve site.subscriptions user request pk with h | h
          · exact .inl h
          · exact .inr ⟨Option.map_eq_none_iff.mpr h.1, h.2⟩

theorem maker_after_iff (site : Site) (pages : List (Nat × Page)) (row : Row) (owner : Nat) :
    (site.after pages).maker row = some owner ↔
      site.maker row = some owner ∨
      ∃ before page rest, pages = before ++ (owner, page) :: rest ∧
        (site.after before).maker row = none ∧
        ((site.after before).serve owner page).1.maker row = some owner := by
  induction pages generalizing site with
  | nil =>
      refine ⟨.inl, fun h => h.resolve_right ?_⟩
      rintro ⟨before, page, rest, heq, -⟩
      exact absurd heq.symm (List.append_ne_nil_of_right_ne_nil before (List.cons_ne_nil _ _))
  | cons entry rest ih =>
      obtain ⟨user, page⟩ := entry
      have hserve : (site.serve user page).1.maker row = site.maker row ∨
          site.maker row = none ∧ (site.serve user page).1.maker row = some user :=
        maker_serve row
      refine (ih _).trans ⟨fun h => ?_, fun h => ?_⟩
      · rcases h with h | ⟨before, page', rest', rfl, hnone, hmade⟩
        · rcases hserve with hsame | hnew
          · exact .inl (hsame ▸ h)
          · obtain rfl : user = owner := Option.some.inj (hnew.2.symm.trans h)
            exact .inr ⟨[], page, rest, rfl, hnew⟩
        · exact .inr ⟨(user, page) :: before, page', rest', rfl, hnone, hmade⟩
      · rcases h with h | ⟨before, page', rest', heq, hnone, hmade⟩
        · rcases hserve with hsame | hnew
          · exact .inl (hsame.trans h)
          · exact absurd (hnew.1.symm.trans h) (Option.some_ne_none _).symm
        · cases before with
          | nil =>
              cases heq
              exact .inl hmade
          | cons entry' before =>
              cases heq
              exact .inr ⟨before, page', rest', rfl, hnone, hmade⟩

theorem serve_mine_iff :
    (∀ e ∈ (site.serve user page).2, e.owner = user) ↔ page.Guarded site user := by
  cases page with
  | request_access fresh dataset_uuid find user_has_access user_has_tools_access posted =>
      refine iff_of_true ?_ trivial
      rw [Site.serve]
      split
      next access_request page hdispatch =>
        exact owner_of_singleton (requester_of_dispatch hdispatch)
      next => exact fun e he => absurd he List.not_mem_nil
  | access pk find zendesk request => exact access_guarded_iff
  | request_data fresh => exact iff_of_true (owner_of_singleton rfl) trivial
  | data pk zendesk request =>
      exact visitRow_mine_iff (fun _ => data_mine request) fun _ => data_read request
  | subscription request => exact Subscriptions.mine_serve_iff

/-- A sequence of requests, from any state of the site, keeps every user to the rows of that
user and raises no ticket in another's name exactly where the pages that look at no owner are
asked for the user's own rows only. -/
theorem private_iff (site : Site) (pages : List (Nat × Page)) :
    site.Private pages ↔ site.Guarded pages := by
  induction pages generalizing site with
  | nil => exact Iff.rfl
  | cons entry rest ih => exact and_congr serve_mine_iff (ih _)

end

/-! ## The requests of another user -/

section Examples

/-- A site with a complete data request of user 7, an access request and a subscription. -/
def sample : Site where
  access_requests := fun pk => if pk = 1 then some (RequestAccess.created 7 none none none) else none
  data_requests := fun pk =>
    if pk = 1 then some { RequestData.created 7 with
      requester_role := some .IAO, data_description := "Sales", data_purpose := "Planning"
      security_classification := some .official }
    else none
  subscriptions := [⟨1, 7, 5, false, false⟩]

/-- User 8 posts the answers of user 7, and a ticket is raised in the name of user 7.  User 8
writes the access request and the subscription of user 7. -/
theorem not_private :
    (¬ sample.Private [(8, .data 1 (.ok 3) .check_answers_post)]) ∧
    (¬ sample.Private [(8, .access 1 (fun _ => .error .Http404) (.ok 3)
      (.post_form (.tools_3 "manager@example.com" "Models")))]) ∧
    ¬ sample.Private [(8, .subscription (.options_post 1 ⟨false, false, "columns"⟩))] := by
  refine ⟨fun h => ?_, fun h => ?_, fun h => ?_⟩
  · exact absurd (h.1 (.raised 7) (by decide +kernel)) (by decide)
  · exact absurd (h.1 (.changed 7) (by decide +kernel)) (by decide)
  · exact absurd (h.1 (.changed 7) (by decide +kernel)) (by decide)

end Examples

end Requests
