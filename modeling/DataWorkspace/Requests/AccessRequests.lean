import DataWorkspace.Requests.UpdateViews
import DataWorkspace.Py.Digits

/-!
# The pages of an access request

The forms write their own values into the row.  The confirmation page asks for a ticket where
the row has no reference, and writes the row with the one it is given.  All pages but the one
on SPSS and Stata look first whether the row is the user's own.
-/

namespace RequestAccess

open Py Async Filings Requests

/-! ## Rows -/

structure AccessRequest where
  requester : Nat
  catalogue_item_id : Option Nat
  contact_email : Option Str
  reason_for_access : Option Str
  training_screenshot : Option Str
  spss_and_stata : Bool
  line_manager_email_address : Option Str
  reason_for_spss_and_stata : Option Str
  zendesk_reference_number : Option Str
deriving DecidableEq, Repr

/-- A text that is there and is not empty. -/
def truthy (value : Option Str) : Bool := value.any (· ≠ [])

inductive Journey where
  | tools_access_only
  | dataset_access_only
  | dataset_and_tools_access
deriving DecidableEq, Repr

def AccessRequest.journey (access_request : AccessRequest) : Option Journey :=
  match truthy access_request.contact_email, truthy access_request.training_screenshot with
  | false, true => some .tools_access_only
  | true, false => some .dataset_access_only
  | true, true => some .dataset_and_tools_access
  | false, false => none

/-- `AccessRequest.objects.create`. -/
def created (requester : Nat) (catalogue_item_id : Option Nat)
    (contact_email reason_for_access : Option Str) : AccessRequest where
  requester := requester
  catalogue_item_id := catalogue_item_id
  contact_email := contact_email
  reason_for_access := reason_for_access
  training_screenshot := none
  spss_and_stata := false
  line_manager_email_address := none
  reason_for_spss_and_stata := none
  zendesk_reference_number := none

/-! ## Forms -/

/-- A file that is posted, and what comes of it. -/
structure Upload where
  /-- The name under which it is stored, or an exception. -/
  file : Option (Except Unit Str)
  /-- Whether the file to keep, this one or the one before, is found to be malware. -/
  malware : Except Unit Bool

def DatasetAccessRequestForm (contact_email reason_for_access : Str) : Form AccessRequest :=
  fun access_request => .ok do
    let contact_email ← required_text (some 256) contact_email
    let reason_for_access ← required_text none reason_for_access
    pure { access_request with
      contact_email := some contact_email, reason_for_access := some reason_for_access }

def ToolsAccessRequestFormPart1 (training_screenshot : Upload) : Form AccessRequest :=
  fun access_request =>
    if training_screenshot.file.isNone ∧ truthy access_request.training_screenshot = false then
      .ok none
    else
      match training_screenshot.malware with
      | .error _ => .error .uncaught
      | .ok true => .ok none
      | .ok false =>
          match training_screenshot.file with
          | none => .ok (some access_request)
          | some (.error _) => .error .uncaught
          | some (.ok name) => .ok (some { access_request with training_screenshot := some name })

def ToolsAccessRequestFormPart2 (spss_and_stata : Bool) : Form AccessRequest :=
  fun access_request => .ok (some { access_request with spss_and_stata := spss_and_stata })

def ToolsAccessRequestFormPart3 (line_manager_email_address reason_for_spss_and_stata : Str) :
    Form AccessRequest :=
  fun access_request => .ok do
    let line_manager_email_address ← required_text (some 256) line_manager_email_address
    let reason_for_spss_and_stata ← required_text none reason_for_spss_and_stata
    pure { access_request with
      line_manager_email_address := some line_manager_email_address
      reason_for_spss_and_stata := some reason_for_spss_and_stata }

/-! ## Views -/

inductive Page where
  | dataset_request_update
  | tools_1
  | tools_2
  | tools_3
  | summary_page
  | confirmation_page
deriving DecidableEq, Repr

abbrev View := M AccessRequest (Response Page AccessRequest)

/-- `RequestAccessMixin.dispatch`. -/
def RequestAccessMixin.dispatch (user : Nat) (view : View) : View := do
  let access_request : AccessRequest ← execute .check
  if access_request.requester ≠ user then .raise .Http404 else view

/-- What is found for the id of a catalogue item: a master dataset or a data cut, or a
visualisation with or without a template. -/
inductive CatalogueItem where
  | dataset (datacut : Bool)
  | visualisation (has_template : Bool)
deriving DecidableEq, Repr

/-- The item of a row, as `find_dataset_or_visualisation` answers. -/
def catalogueItem (find_dataset_or_visualisation : Nat → Except Exc CatalogueItem)
    (access_request : AccessRequest) : Except Exc (Option CatalogueItem) :=
  match access_request.catalogue_item_id with
  | none => .ok none
  | some id => (find_dataset_or_visualisation id).map some

/-- The ticket that is asked for. -/
def ticketFor (user : Nat) (access_request : AccessRequest) : Option CatalogueItem → Ticket
  | some (.visualisation true) => ⟨user, some "visualisation-access-request"⟩
  | _ => ⟨access_request.requester, none⟩

/-- The page with the item of the row. -/
def renderItem (find_dataset_or_visualisation : Nat → Except Exc CatalogueItem) (page : Page)
    (access_request : AccessRequest) : View :=
  match catalogueItem find_dataset_or_visualisation access_request with
  | .error e => .raise e
  | .ok _ => .pure (.render page access_request)

/-- The item is of the types that need no tools. -/
def CatalogueItem.withoutTools : CatalogueItem → Bool
  | .dataset datacut => datacut
  | .visualisation _ => true

/-- `DatasetAccessRequest.dispatch`: the row that is created, if any, and the page to go to.
The form is the one that is posted, if it is. -/
def DatasetAccessRequest.dispatch (user : Nat) (dataset_uuid : Option Nat)
    (find_dataset_or_visualisation : Nat → Except Exc CatalogueItem)
    (user_has_access user_has_tools_access : Bool) (posted : Option (Str × Str)) :
    Except Exc (Option (AccessRequest × Page)) :=
  match dataset_uuid with
  | none =>
      .ok (if user_has_tools_access then none else some (created user none none none, .tools_1))
  | some id =>
      match find_dataset_or_visualisation id with
      | .error e => .error e
      | .ok catalogue_item =>
          if user_has_access then
            .ok (if user_has_tools_access then none
              else some (created user (some id) none none, .tools_1))
          else .ok do
            let (contact_email, reason_for_access) ← posted
            let contact_email ← required_text (some 256) contact_email
            let reason_for_access ← required_text none reason_for_access
            let access_request :=
              created user (some id) (some contact_email) (some reason_for_access)
            if user_has_tools_access || catalogue_item.withoutTools then
              pure (access_request, .summary_page)
            else pure (access_request, .tools_1)

def DatasetAccessRequestUpdate.get_success_url (access_request : AccessRequest) : Page :=
  if access_request.journey = some .dataset_access_only then .summary_page else .tools_1

def ToolsAccessRequestPart2.get_success_url (access_request : AccessRequest) : Page :=
  if access_request.spss_and_stata then .tools_3 else .summary_page

def AccessRequestSummaryPage.get (find_dataset_or_visualisation : Nat → Except Exc CatalogueItem) :
    View := do
  let access_request : AccessRequest ← execute .load
  renderItem find_dataset_or_visualisation .summary_page access_request

def withReference (access_request : AccessRequest) (ticket_id : Nat) : AccessRequest :=
  { access_request with zendesk_reference_number := some (str ticket_id) }

def AccessRequestConfirmationPage.get (user : Nat)
    (find_dataset_or_visualisation : Nat → Except Exc CatalogueItem) : View := do
  let access_request : AccessRequest ← execute .load
  if truthy access_request.zendesk_reference_number then do
    let access_request : AccessRequest ← execute .load
    renderItem find_dataset_or_visualisation .confirmation_page access_request
  else
    match catalogueItem find_dataset_or_visualisation access_request with
    | .error e => .raise e
    | .ok catalogue_item => do
        file (ticketFor user access_request catalogue_item) (withReference access_request)
        let access_request : AccessRequest ← execute .load
        renderItem find_dataset_or_visualisation .confirmation_page access_request

/-- A form that is posted to a page. -/
inductive Edit where
  | dataset (contact_email reason_for_access : Str)
  | tools_1 (training_screenshot : Upload)
  | tools_2 (spss_and_stata : Bool)
  | tools_3 (line_manager_email_address reason_for_spss_and_stata : Str)

namespace Edit

def page : Edit → Page
  | .dataset _ _ => .dataset_request_update
  | .tools_1 _ => .tools_1
  | .tools_2 _ => .tools_2
  | .tools_3 _ _ => .tools_3

def form : Edit → Form AccessRequest
  | .dataset contact_email reason_for_access =>
      DatasetAccessRequestForm contact_email reason_for_access
  | .tools_1 training_screenshot => ToolsAccessRequestFormPart1 training_screenshot
  | .tools_2 spss_and_stata => ToolsAccessRequestFormPart2 spss_and_stata
  | .tools_3 line_manager_email_address reason_for_spss_and_stata =>
      ToolsAccessRequestFormPart3 line_manager_email_address reason_for_spss_and_stata

def get_success_url : Edit → AccessRequest → Page
  | .dataset _ _ => DatasetAccessRequestUpdate.get_success_url
  | .tools_1 _ => fun _ => .tools_2
  | .tools_2 _ => ToolsAccessRequestPart2.get_success_url
  | .tools_3 _ _ => fun _ => .summary_page

end Edit

/-- A request to the pages of a row. -/
inductive Request where
  /-- The page of a form. -/
  | show_form (page : Page)
  | post_form (edit : Edit)
  | summary_get
  | summary_post
  | confirmation_get

/-- The pages whose views have the mixin. -/
def Page.guarded : Page → Bool
  | .tools_3 => false
  | _ => true

def Request.page : Request → Page
  | .show_form page => page
  | .post_form edit => edit.page
  | .summary_get => .summary_page
  | .summary_post => .summary_page
  | .confirmation_get => .confirmation_page

section

variable (user : Nat) (find_dataset_or_visualisation : Nat → Except Exc CatalogueItem)

/-- What a page does with a request, once it is let through. -/
def Request.handle : Request → View
  | .show_form page => DetailView.get page
  | .post_form edit => UpdateView.post edit.page edit.form edit.get_success_url
  | .summary_get => AccessRequestSummaryPage.get find_dataset_or_visualisation
  | .summary_post => .pure (.redirect .confirmation_page)
  | .confirmation_get => AccessRequestConfirmationPage.get user find_dataset_or_visualisation

/-- `View.dispatch`. -/
def Request.serve (request : Request) : View :=
  if request.page.guarded then
    RequestAccessMixin.dispatch user (request.handle user find_dataset_or_visualisation)
  else request.handle user find_dataset_or_visualisation

/-! ## Plans -/

/-- What a request does with the row that it loads. -/
def Request.plan : Request → Plan AccessRequest
  | .post_form edit => formPlan edit.form
  | .confirmation_get => fun access_request =>
      if truthy access_request.zendesk_reference_number then .leave
      else
        match catalogueItem find_dataset_or_visualisation access_request with
        | .error _ => .leave
        | .ok _ => .file
  | _ => fun _ => .leave

/-- The reference of a row, where it has one. -/
def filing : Filing AccessRequest Str where
  reference access_request := access_request.zendesk_reference_number.filter (· ≠ [])
  file := withReference
  Sound _ := True
  sound_file _ _ := trivial
  reference_file _ ticket_id := by simp [withReference, str_ne_nil]

end

section

variable {user : Nat} {find_dataset_or_visualisation : Nat → Except Exc CatalogueItem}

theorem reference_eq_none {access_request : AccessRequest} :
    filing.reference access_request = none ↔
      truthy access_request.zendesk_reference_number = false := by
  cases h : access_request.zendesk_reference_number <;> simp [filing, truthy, h]

theorem Edit.keeps {edit : Edit} {access_request object : AccessRequest}
    (h : edit.form access_request = .ok (some object)) :
    object.requester = access_request.requester ∧
      object.zendesk_reference_number = access_request.zendesk_reference_number := by
  cases edit with
  | dataset contact_email reason_for_access =>
      obtain ⟨_, _, hobject⟩ := Option.bind_eq_some_iff.mp (Except.ok.inj h)
      obtain ⟨_, _, hobject⟩ := Option.bind_eq_some_iff.mp hobject
      rw [← Option.some.inj hobject]
      exact ⟨rfl, rfl⟩
  | tools_1 training_screenshot =>
      rw [Edit.form, ToolsAccessRequestFormPart1] at h
      split at h
      next => cases h
      next =>
        split at h
        next => cases h
        next => cases h
        next =>
          split at h
          next =>
            rw [← Option.some.inj (Except.ok.inj h)]
            exact ⟨rfl, rfl⟩
          next => cases h
          next =>
            rw [← Option.some.inj (Except.ok.inj h)]
            exact ⟨rfl, rfl⟩
  | tools_2 spss_and_stata =>
      rw [← Option.some.inj (Except.ok.inj h)]
      exact ⟨rfl, rfl⟩
  | tools_3 line_manager_email_address reason_for_spss_and_stata =>
      obtain ⟨_, _, hobject⟩ := Option.bind_eq_some_iff.mp (Except.ok.inj h)
      obtain ⟨_, _, hobject⟩ := Option.bind_eq_some_iff.mp hobject
      rw [← Option.some.inj hobject]
      exact ⟨rfl, rfl⟩

theorem Request.allows (request : Request) :
    filing.Allows (request.plan find_dataset_or_visualisation) := by
  cases request with
  | show_form page => exact allows_leave
  | post_form edit =>
      refine allows_formPlan fun access_request object h _ => ⟨trivial, ?_⟩
      show object.zendesk_reference_number.filter _ = _
      rw [(Edit.keeps h).2]
      rfl
  | summary_get => exact allows_leave
  | summary_post => exact allows_leave
  | confirmation_get =>
      refine ⟨fun access_request object hplan => ?_, fun access_request hplan _ => ?_⟩
      · dsimp only [Request.plan] at hplan
        split at hplan
        next => cases hplan
        next => split at hplan <;> cases hplan
      · dsimp only [Request.plan] at hplan
        split at hplan
        next => cases hplan
        next hfalsy => exact reference_eq_none.mpr (Bool.not_eq_true _ ▸ hfalsy)

theorem meets_renderItem {plan : Plan AccessRequest} {page : Page}
    {access_request : AccessRequest} {stage : Stage AccessRequest} :
    Meets (summing (Stage.adv plan) fun o stage => stage.Performs filing o)
      (renderItem find_dataset_or_visualisation page access_request) stage := by
  rw [renderItem]
  split <;> trivial

theorem meets_reload {plan : Plan AccessRequest} {page : Page} :
    Meets (summing (Stage.adv plan) fun o stage => stage.Performs filing o)
      (execute .load >>= renderItem find_dataset_or_visualisation page) .ended :=
  Meets.perform (.inr rfl) fun _ => meets_renderItem

theorem Request.follows_handle (request : Request) :
    Follows filing (request.plan find_dataset_or_visualisation)
      (request.handle user find_dataset_or_visualisation) := by
  cases request with
  | show_form page => exact follows_get
  | post_form edit => exact follows_post
  | summary_get => exact follows_load fun _ => meets_renderItem
  | summary_post => trivial
  | confirmation_get =>
      refine follows_load fun access_request => ?_
      rw [Stage.decide]
      by_cases htruthy : truthy access_request.zendesk_reference_number = true
      · have hplan : Request.plan find_dataset_or_visualisation .confirmation_get access_request =
            .leave := if_pos htruthy
        rw [hplan, if_pos htruthy]
        exact meets_reload
      · rw [if_neg htruthy]
        cases hitem : catalogueItem find_dataset_or_visualisation access_request with
        | error e => trivial
        | ok catalogue_item =>
            have hplan : Request.plan find_dataset_or_visualisation .confirmation_get
                access_request = .file := by
              dsimp only [Request.plan]
              rw [if_neg htruthy, hitem]
            rw [hplan]
            exact meets_file meets_reload

theorem Request.follows (request : Request) :
    Follows filing (request.plan find_dataset_or_visualisation)
      (request.serve user find_dataset_or_visualisation) := by
  rw [Request.serve]
  split
  · refine follows_check fun access_request => ?_
    split
    · exact follows_raise
    · exact request.follows_handle
  · exact request.follows_handle

end

end RequestAccess
