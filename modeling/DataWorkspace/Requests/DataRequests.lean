import DataWorkspace.Requests.UpdateViews
import DataWorkspace.Py.Digits

/-!
# The pages of a data request

The forms write their own values into the row, which is a draft.  Where the answers are posted
and the row is still a draft, a ticket is asked for in the name of its requester, and the row is
written as submitted with its reference.  No page looks whose row it is.
-/

namespace RequestData

open Py Async Filings Requests

/-! ## Rows -/

inductive RoleType where
  | IAO | IAM | other
deriving DecidableEq, Repr

inductive SecurityClassificationType where
  | official | commercial | personal | locsen | secret | top_secret | unknown
deriving DecidableEq, Repr

inductive DataRequestStatus where
  | draft | submitted
deriving DecidableEq, Repr

/-- A choice that was not made yet is `none`, for the empty text that is stored. -/
structure DataRequest where
  requester : Nat
  requester_role : Option RoleType
  name_of_owner_or_manager : Str
  data_description : Str
  data_purpose : Str
  data_location : Str
  data_licence : Str
  security_classification : Option SecurityClassificationType
  status : DataRequestStatus
  zendesk_ticket_id : Str
deriving DecidableEq, Repr

/-- `DataRequest.objects.create(requester=request.user)`. -/
def created (requester : Nat) : DataRequest where
  requester := requester
  requester_role := none
  name_of_owner_or_manager := []
  data_description := []
  data_purpose := []
  data_location := []
  data_licence := []
  security_classification := none
  status := .draft
  zendesk_ticket_id := []

/-- The value of a choice. -/
def RoleType.value : RoleType → Str
  | .IAO => "IAO"
  | .IAM => "IAM"
  | .other => "other"

def SecurityClassificationType.value : SecurityClassificationType → Str
  | .official => "official"
  | .commercial => "commercially-sensitive"
  | .personal => "personal"
  | .locsen => "locsen"
  | .secret => "secret"
  | .top_secret => "top-secret"
  | .unknown => "unknown"

/-- `ChoiceField.clean`. -/
def choice {γ : Type} (value : γ → Str) (choices : List γ) (posted : Str) : Option γ :=
  choices.find? fun c => decide (value c = posted)

/-! ## Forms -/

def RequestDataWhoAreYouForm (requester_role : Str) : Form DataRequest := fun data_request => .ok do
  let requester_role ← choice RoleType.value [.IAO, .IAM, .other] requester_role
  pure { data_request with requester_role := some requester_role }

def RequestDataDescriptionForm (data_description : Str) : Form DataRequest := fun data_request =>
  .ok do
    let data_description ← required_text none data_description
    pure { data_request with data_description := data_description }

def RequestDataPurposeForm (data_purpose : Str) : Form DataRequest := fun data_request => .ok do
  let data_purpose ← required_text none data_purpose
  pure { data_request with data_purpose := data_purpose }

def RequestDataSecurityClassificationForm (security_classification : Str) : Form DataRequest :=
  fun data_request => .ok do
    let security_classification ← choice SecurityClassificationType.value
      [.official, .commercial, .personal, .locsen, .secret, .top_secret, .unknown]
      security_classification
    pure { data_request with security_classification := some security_classification }

def RequestDataLocationForm (data_location : Str) : Form DataRequest := fun data_request => .ok do
  let data_location ← optional_text none data_location
  pure { data_request with data_location := data_location }

def RequestDataOwnerOrManagerForm (name_of_owner_or_manager : Str) : Form DataRequest :=
  fun data_request => .ok do
    let name_of_owner_or_manager ← optional_text (some 256) name_of_owner_or_manager
    pure { data_request with name_of_owner_or_manager := name_of_owner_or_manager }

def RequestDataLicenceForm (data_licence : Str) : Form DataRequest := fun data_request => .ok do
  let data_licence ← required_text none data_licence
  pure { data_request with data_licence := data_licence }

/-- `obj.clean_fields(exclude=["zendesk_ticket_id"])` raises nothing. -/
def DataRequest.clean_fields (obj : DataRequest) : Bool :=
  obj.requester_role.isSome && decide (obj.name_of_owner_or_manager.length ≤ 256) &&
    decide (obj.data_description ≠ []) && decide (obj.data_purpose ≠ []) &&
    obj.security_classification.isSome

/-! ## Views -/

inductive Page where
  | who_are_you
  | describe_data
  | purpose_of_data
  | security_classification
  | location_of_data
  | licence_of_data
  | owner_or_manager
  | check_answers
  | confirmation_page
deriving DecidableEq, Repr

/-- A page, with or without `?change`. -/
structure Url where
  page : Page
  change : Bool
deriving DecidableEq, Repr

abbrev View := M DataRequest (Response Url DataRequest)

def ownsOrManages (data_request : DataRequest) : Bool :=
  data_request.requester_role = some .IAM || data_request.requester_role = some .IAO

def RequestDataWhoAreYou.get_success_url (change : Bool) (object : DataRequest) : Url :=
  if change then
    if !ownsOrManages object && decide (object.name_of_owner_or_manager = []) then
      ⟨.owner_or_manager, true⟩
    else ⟨.check_answers, false⟩
  else if ownsOrManages object then ⟨.describe_data, false⟩
  else ⟨.owner_or_manager, false⟩

def nextUnlessChange (page : Page) (change : Bool) (_ : DataRequest) : Url :=
  if change then ⟨.check_answers, false⟩ else ⟨page, false⟩

def submitted (obj : DataRequest) (ticket_id : Nat) : DataRequest :=
  { obj with status := .submitted, zendesk_ticket_id := str ticket_id }

def RequestDataCheckAnswers.post : View := do
  let obj : DataRequest ← execute .load
  if obj.status ≠ .draft then .pure (.redirect ⟨.confirmation_page, false⟩)
  else if obj.clean_fields = false then .pure .HttpResponseBadRequest
  else do
    file ⟨obj.requester, some "request-for-data"⟩ (submitted obj)
    .pure (.redirect ⟨.confirmation_page, false⟩)

/-- A form that is posted to a page. -/
inductive Edit where
  | who_are_you (requester_role : Str)
  | description (data_description : Str)
  | purpose (data_purpose : Str)
  | security_classification (value : Str)
  | location (data_location : Str)
  | licence (data_licence : Str)
  | owner_or_manager (name_of_owner_or_manager : Str)

namespace Edit

def page : Edit → Page
  | .who_are_you _ => .who_are_you
  | .description _ => .describe_data
  | .purpose _ => .purpose_of_data
  | .security_classification _ => .security_classification
  | .location _ => .location_of_data
  | .licence _ => .licence_of_data
  | .owner_or_manager _ => .owner_or_manager

def form : Edit → Form DataRequest
  | .who_are_you requester_role => RequestDataWhoAreYouForm requester_role
  | .description data_description => RequestDataDescriptionForm data_description
  | .purpose data_purpose => RequestDataPurposeForm data_purpose
  | .security_classification value => RequestDataSecurityClassificationForm value
  | .location data_location => RequestDataLocationForm data_location
  | .licence data_licence => RequestDataLicenceForm data_licence
  | .owner_or_manager name_of_owner_or_manager =>
      RequestDataOwnerOrManagerForm name_of_owner_or_manager

def get_success_url (change : Bool) : Edit → DataRequest → Url
  | .who_are_you _ => RequestDataWhoAreYou.get_success_url change
  | .description _ => nextUnlessChange .purpose_of_data change
  | .purpose _ => nextUnlessChange .security_classification change
  | .security_classification _ => nextUnlessChange .location_of_data change
  | .location _ => nextUnlessChange .licence_of_data change
  | .licence _ => fun _ => ⟨.check_answers, false⟩
  | .owner_or_manager _ => nextUnlessChange .describe_data change

end Edit

/-- A request to the pages of a row. -/
inductive Request where
  /-- Any page is shown, those of the forms and the last two. -/
  | get (url : Url)
  | post_form (edit : Edit) (change : Bool)
  | check_answers_post

def Request.serve : Request → View
  | .get url => DetailView.get url
  | .post_form edit change =>
      UpdateView.post ⟨edit.page, change⟩ edit.form (edit.get_success_url change)
  | .check_answers_post => RequestDataCheckAnswers.post

/-! ## Plans -/

/-- What a request does with the row that it loads. -/
def Request.plan : Request → Plan DataRequest
  | .get _ => fun _ => .leave
  | .post_form edit _ => formPlan edit.form
  | .check_answers_post => fun obj =>
      if obj.status ≠ .draft then .leave else if obj.clean_fields = false then .leave else .file

/-- The reference of a row, where it has one.  A row without one is a draft. -/
def filing : Filing DataRequest Str where
  reference obj := if obj.zendesk_ticket_id = [] then none else some obj.zendesk_ticket_id
  file := submitted
  Sound obj := obj.status = .draft ↔ obj.zendesk_ticket_id = []
  sound_file obj ticket_id := by simp [submitted, str_ne_nil]
  reference_file obj ticket_id := by simp [submitted, str_ne_nil]

theorem Edit.keeps {edit : Edit} {data_request object : DataRequest}
    (h : edit.form data_request = .ok (some object)) :
    object.requester = data_request.requester ∧ object.status = data_request.status ∧
      object.zendesk_ticket_id = data_request.zendesk_ticket_id := by
  cases edit <;>
  · obtain ⟨_, _, hobject⟩ := Option.bind_eq_some_iff.mp (Except.ok.inj h)
    rw [← Option.some.inj hobject]
    exact ⟨rfl, rfl, rfl⟩

theorem Request.allows (request : Request) : filing.Allows request.plan := by
  cases request with
  | get url => exact allows_leave
  | post_form edit change =>
      refine allows_formPlan fun data_request object h hsound => ?_
      obtain ⟨-, hstatus, hticket⟩ := Edit.keeps h
      refine ⟨?_, ?_⟩
      · show object.status = .draft ↔ object.zendesk_ticket_id = []
        rw [hstatus, hticket]
        exact hsound
      · show (if object.zendesk_ticket_id = [] then none else some object.zendesk_ticket_id) = _
        rw [hticket]
        rfl
  | check_answers_post =>
      refine ⟨fun obj object hplan => ?_, fun obj hplan hsound => ?_⟩
      · dsimp only [Request.plan] at hplan
        split at hplan
        next => cases hplan
        next => split at hplan <;> cases hplan
      · dsimp only [Request.plan] at hplan
        split at hplan
        next => cases hplan
        next hdraft => exact if_pos (hsound.mp (not_not.mp hdraft))

theorem Request.follows (request : Request) : Follows filing request.plan request.serve := by
  cases request with
  | get url => exact follows_get
  | post_form edit change => exact follows_post
  | check_answers_post =>
      refine follows_load fun obj => ?_
      rw [Stage.decide]
      by_cases hdraft : obj.status ≠ .draft
      · rw [if_pos hdraft]
        trivial
      · rw [if_neg hdraft]
        by_cases hclean : obj.clean_fields = false
        · rw [if_pos hclean]
          trivial
        · have hplan : Request.plan .check_answers_post obj = .file := by
            dsimp only [Request.plan]
            rw [if_neg hdraft, if_neg hclean]
          rw [if_neg hclean, hplan]
          exact meets_file trivial

end RequestData
