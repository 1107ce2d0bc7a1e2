import DataWorkspace.Async.Logged
import DataWorkspace.Http.Method
import DataWorkspace.Py.Space

/-!
# Requests for access to visualisations

The confirmation page of an access request to a visualisation creates a Zendesk ticket, and
sends its contacts a link to the page on which access is given.  The link has a token with
the email address of the requester and the number of the ticket.

The page of a project gives access to the account with the address that is posted.  If it is
the address of the token, the ticket of the token is marked solved.  The token does not say
which visualisation its ticket is about.
-/

namespace AccessRequests

open Py Async Http

/-! ## Rows -/

structure Account where
  id : Nat
  email : Str
deriving DecidableEq, Repr

/-- The template of a visualisation, as far as the pages look at it. -/
structure VisualisationTemplate where
  gitlab_project_id : Option Nat
deriving DecidableEq, Repr

structure VisualisationCatalogueItem where
  id : Str
  visualisation_template : Option VisualisationTemplate
  published : Bool
  deleted : Bool
  enquiries_contact : Option Str
  secondary_enquiries_contact : Option Str
deriving DecidableEq, Repr

structure AccessRequest where
  pk : Nat
  requester : Nat
  catalogue_item_id : Option Str
  zendesk_reference_number : Option Nat
deriving DecidableEq, Repr

/-- A ticket for an access request: its requester, with the address at the time, and the
visualisation that it is about. -/
structure Ticket where
  id : Nat
  requester : Nat
  email : Str
  visualisation : Option Str
deriving DecidableEq, Repr

/-- A link to the page of a project that was sent for a ticket. -/
structure Link where
  ticket : Nat
  project : Nat
  token : Str
deriving DecidableEq, Repr

structure World where
  accounts : List Account
  items : List VisualisationCatalogueItem
  access_requests : List AccessRequest
  /-- The accounts and the visualisations that they may view. -/
  permissions : List (Nat × Str)
  tickets : List Ticket
  links : List Link
deriving DecidableEq, Repr

inductive Effect where
  | create_ticket (ticket : Ticket)
  | send_link (contact : Str) (link : Link)
  | save_reference (pk : Nat) (zendesk_reference_number : Nat)
  | create_permission (user : Nat) (visualisation : Str)
  | update_zendesk_ticket (ticket_id : Nat) (comment : Str)
  /-- That access was granted. -/
  | send_email (email_address : Str)
deriving DecidableEq, Repr

/-- An effect, as far as the rows, the tickets and the links tell. -/
def World.apply (w : World) : Effect → World
  | .create_ticket ticket => { w with tickets := w.tickets ++ [ticket] }
  | .send_link _ link => { w with links := w.links ++ [link] }
  | .save_reference pk n =>
      { w with access_requests := w.access_requests.map fun r =>
          if r.pk = pk then { r with zendesk_reference_number := some n } else r }
  | .create_permission user visualisation =>
      { w with permissions := w.permissions ++ [(user, visualisation)] }
  | .update_zendesk_ticket _ _ => w
  | .send_email _ => w

inductive Exc where
  | Http404
  | PermissionDenied
  | InvalidToken
  | KeyError
  | NoReverseMatch
  | AttributeError
  | MultipleObjectsReturned
  | other
deriving DecidableEq, Repr

abbrev Act (α : Type) := Logged Effect Exc α

def raise {α : Type} (e : Exc) : Act α := .quietly (.error e)

inductive Reply where
  /-- A page, with an error of the form. -/
  | page (email_address : Str) (email_address_error : Str)
  | confirmation
  | redirect
  | not_allowed
deriving DecidableEq, Repr

/-! ## What is outside -/

/-- `Fernet`, on the two values that a token has. -/
structure Fernet where
  encrypt : Nat → Str × Nat → Str
  decrypt : Str → Option (Str × Nat)
  decrypt_encrypt : ∀ nonce data, decrypt (encrypt nonce data) = some data
  encrypt_ne_nil : ∀ nonce data, encrypt nonce data ≠ []

structure Library where
  fernet : Fernet
  /-- `str.lower`. -/
  lower : Str → Str
  /-- `EmailValidator()`. -/
  valid_email : Str → Bool

/-- What GitLab, Zendesk and the mail service answer during a request, and what the
permissions of its user are. -/
structure Answers where
  /-- The number of a new ticket. -/
  create_ticket : Except Exc Nat
  /-- What a new token is made with. -/
  nonce : Nat
  send_email : Str → Except Exc Unit
  update_ticket : Except Exc Unit
  develops : Bool
  gitlab_project : Except Exc Unit
  gitlab_has_developer_access : Except Exc Bool
  branches : Except Exc Unit
  manages_unpublished : Bool
  /-- Whether there is a dataset of this id, and whether it is found for the user. -/
  dataset : Str → Option (Except Exc Unit)

variable (lib : Library) (w : World) (a : Answers)

/-! ## The confirmation page -/

def find_dataset_or_visualisation (model_id : Str) :
    Except Exc (Option VisualisationCatalogueItem) :=
  match a.dataset model_id with
  | some found => found.map fun _ => none
  | none =>
      match w.items.find? fun item => item.id == model_id && !item.deleted with
      | none => .error .Http404
      | some visualisation =>
          if a.manages_unpublished then .ok (some visualisation)
          else if visualisation.published then .ok (some visualisation) else .error .Http404

/-- A new ticket. -/
def create_support_request (user : Account) (visualisation : Option Str) : Act Nat :=
  match a.create_ticket with
  | .ok id => .perform (.create_ticket ⟨id, user.id, user.email, visualisation⟩) (.ok id)
  | .error e => raise e

/-- The contacts of an item, each once. -/
def contacts (dataset : VisualisationCatalogueItem) : List Str :=
  (dataset.enquiries_contact.toList ++ dataset.secondary_enquiries_contact.toList).dedup

/-- The link is sent to one contact. -/
def send_link (link : Link) (contact : Str) : Act Unit :=
  match a.send_email contact with
  | .ok () => .perform (.send_link contact link) (.ok ())
  | .error e => raise e

def notify_visualisation_access_request (user : Account) (dataset : VisualisationCatalogueItem)
    (template : VisualisationTemplate) : Act Nat := do
  let ticket_reference ← create_support_request a user (some dataset.id)
  match template.gitlab_project_id with
  | none => raise .NoReverseMatch
  | some project => do
      let give_access_token := lib.fernet.encrypt a.nonce (user.email, ticket_reference)
      (contacts dataset).forM (send_link a ⟨ticket_reference, project, give_access_token⟩)
      pure ticket_reference

def ticketFor (user : Account) (access_request : AccessRequest) : Act Nat :=
  match access_request.catalogue_item_id with
  | none => create_support_request a user none
  | some id => do
      let catalogue_item ← .quietly (find_dataset_or_visualisation w a id)
      match catalogue_item with
      | none => create_support_request a user none
      | some visualisation =>
          match visualisation.visualisation_template with
          | some template => notify_visualisation_access_request lib a user visualisation template
          | none => create_support_request a user (some visualisation.id)

/-- `AccessRequestConfirmationPage.get`. -/
def AccessRequestConfirmationPage.get (user : Account) (pk : Nat) : Act Reply :=
  match w.access_requests.find? fun r => r.pk == pk with
  | none => raise .Http404
  | some access_request =>
      if access_request.requester ≠ user.id then raise .Http404
      else
        match access_request.zendesk_reference_number with
        | some _ => pure .confirmation
        | none => do
            let ticket ← ticketFor lib w a user access_request
            .perform (.save_reference pk ticket) (.ok ())
            pure .confirmation

/-! ## The page on which access is given -/

/-- `email.strip().lower()`. -/
def normalize (email : Str) : Str := lib.lower (stripSpace email)

def itemOf (gitlab_project_id : Nat) : Except Exc VisualisationCatalogueItem :=
  match w.items.find? fun item =>
      item.visualisation_template.any fun t => t.gitlab_project_id == some gitlab_project_id with
  | some item => .ok item
  | none => .error .other

/-- `decrypt_token`, of a token that is there and is not empty. -/
def tokenData (token : Option Str) : Except Exc (Option (Str × Nat)) :=
  match token with
  | none => .ok none
  | some s =>
      if s = [] then .ok none
      else
        match lib.fernet.decrypt s with
        | some data => .ok (some data)
        | none => .error .InvalidToken

/-- `token_data.get("email", "").strip().lower()`. -/
def tokenEmail (token_data : Option (Str × Nat)) : Str :=
  normalize lib ((token_data.map Prod.fst).getD [])

/-- The ticket of the token is marked solved. -/
def update_zendesk_ticket (developer : Account) (token_data : Option (Str × Nat)) : Act Unit :=
  match token_data with
  | none => raise .KeyError
  | some (_, ticket) =>
      match a.update_ticket with
      | .ok () => .perform (.update_zendesk_ticket ticket ("Access granted by " ++ developer.email)) (.ok ())
      | .error e => raise e

def solveTicket (developer : Account) (token_data : Option (Str × Nat)) (email_address : Str) :
    Act Unit :=
  if email_address = tokenEmail lib token_data then update_zendesk_ticket a developer token_data
  else pure ()

/-- The mail to the account. -/
def notifyAccount (email_address : Str) (catalogue_item : VisualisationCatalogueItem) : Act Unit :=
  if catalogue_item.published then
    match catalogue_item.enquiries_contact with
    | none => raise .AttributeError
    | some _ => .perform (.send_email email_address) (a.send_email email_address)
  else pure ()

/-- After access was given. -/
def afterwards (developer : Account) (token_data : Option (Str × Nat)) (email_address : Str)
    (catalogue_item : VisualisationCatalogueItem) : Act Reply := do
  solveTicket lib a developer token_data email_address
  notifyAccount a email_address catalogue_item
  pure .redirect

def visualisation_users_give_access_html_POST (developer : Account) (gitlab_project : Nat)
    (token_data : Option (Str × Nat)) (posted : Option Str) : Act Reply := do
  .quietly a.branches
  let item ← .quietly (itemOf w gitlab_project)
  match posted with
  | none => raise .KeyError
  | some posted =>
      let email_address := normalize lib posted
      if email_address = [] then pure (.page email_address "Enter the user's email address")
      else if !lib.valid_email email_address then
        pure (.page email_address
          "Enter the user's email address in the correct format, like name@example.com")
      else
        match w.accounts.filter fun user => user.email == email_address with
        | [] => pure (.page email_address "The user must have previously visited Data Workspace")
        | [user] =>
            if w.permissions.contains (user.id, item.id) then
              pure (.page email_address "already has access")
            else do
              .perform (.create_permission user.id item.id) (.ok ())
              afterwards lib a developer token_data email_address item
        | _ => raise .MultipleObjectsReturned

def visualisation_users_give_access_html_view (developer : Account) (method : Method)
    (gitlab_project_id : Nat) (token : Option Str) (posted : Option Str) : Act Reply := do
  if !a.develops then raise .PermissionDenied
  else do
    .quietly a.gitlab_project
    let has_access ← .quietly a.gitlab_has_developer_access
    if !has_access then raise .PermissionDenied
    else do
      let token_data ← .quietly (tokenData lib token)
      match method with
      | .GET => do
          .quietly a.branches
          pure (.page ((token_data.map Prod.fst).getD []) [])
      | .POST =>
          visualisation_users_give_access_html_POST lib w a developer gitlab_project_id token_data
            posted
      | _ => pure .not_allowed

/-! ## Requests -/

inductive Request where
  | confirmation (user : Account) (pk : Nat)
  | give_access (developer : Account) (method : Method) (gitlab_project_id : Nat)
      (token : Option Str) (posted : Option Str)
deriving DecidableEq, Repr

def serve : Request → Act Reply
  | .confirmation user pk => AccessRequestConfirmationPage.get lib w a user pk
  | .give_access developer method gitlab_project_id token posted =>
      visualisation_users_give_access_html_view lib w a developer method gitlab_project_id token posted

def World.after (w : World) (effects : List Effect) : World := effects.foldl World.apply w

end AccessRequests
