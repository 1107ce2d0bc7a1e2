import DataWorkspace.Async.Shared
import DataWorkspace.Py.Text

/-!
# Approving and publishing visualisations

A visualisation is an application template of a GitLab project.  Its developers approve
it on one page and publish it on another, where its catalogue item is published as well.

Each page is a program over the rows of the database.  What GitLab answers about a project
and about its developers may be anything.  `act` says what a query answers and what a
`save` writes: every column of the object it is called on.
-/

namespace Visualisations

open Py Async

/-! ## Rows -/

/-- The columns of an application template that the pages read. -/
structure ApplicationTemplate where
  id : Nat
  gitlab_project_id : Option Nat
  visible : Bool
deriving DecidableEq, Repr

structure VisualisationApproval where
  id : Nat
  approved : Bool
  approver : Nat
  visualisation : Nat
deriving DecidableEq, Repr

structure VisualisationCatalogueItem where
  id : Nat
  visualisation_template : Option Nat
  published : Bool
  name : Str
  slug : Str
  short_description : Str
  description : Option Str
  enquiries_contact : Option Nat
  secondary_enquiries_contact : Option Nat
  information_asset_owner : Option Nat
  information_asset_manager : Option Nat
  licence : Str
  retention_policy : Option Str
  restrictions_on_usage : Option Str
  personal_data : Option Str
deriving DecidableEq, Repr

/-- The tables the pages read and write. -/
structure Db where
  users : Nat → Bool
  templates : Nat → Option ApplicationTemplate
  items : Nat → Option VisualisationCatalogueItem
  approvals : List VisualisationApproval

/-- What `filter(visualisation=…, approved=True)` finds. -/
def Db.standing (s : Db) (visualisation : Nat) : List VisualisationApproval :=
  s.approvals.filter fun a => a.visualisation == visualisation && a.approved

def Db.setTemplate (s : Db) (t : ApplicationTemplate) : Db :=
  { s with templates := Function.update s.templates t.id (some t) }

def Db.setItem (s : Db) (item : VisualisationCatalogueItem) : Db :=
  { s with items := Function.update s.items item.id (some item) }

/-- An `UPDATE` of the row with the id, or an `INSERT` where there is none. -/
def Db.setApproval (s : Db) (a : VisualisationApproval) : Db :=
  { s with
    approvals := if s.approvals.any fun b => b.id == a.id then
        s.approvals.map fun b => if b.id = a.id then a else b
      else s.approvals ++ [a] }

/-! ## What the pages await -/

inductive Exc where
  | PermissionDenied
  | Http404
  | KeyError
  | ValueError
  | AttributeError
  | IntegrityError
  | failed
deriving DecidableEq, Repr

inductive Op where
  /-- `has_perm("applications.develop_visualisations")`. -/
  | has_perm (user : Nat)
  /-- The status and the id that GitLab gives for a project. -/
  | gitlab_project (id : Nat)
  | gitlab_has_developer_access (user project : Nat)
  | application_template (project : Nat)
  | approvals (visualisation : Nat)
  | count_approvals (visualisation : Nat)
  | visualisation_exists (id : Nat)
  | user_exists (id : Nat)
  | save_approval (id : Option Nat) (approved : Bool) (approver visualisation : Nat)
  | catalogue_item (template : Nat)
  | template (id : Nat)
  | save_template (t : ApplicationTemplate)
  | save_item (item : VisualisationCatalogueItem)
deriving DecidableEq, Repr

abbrev Ans : Op → Type
  | .has_perm _ => Bool
  | .gitlab_project _ => Nat × Nat
  | .gitlab_has_developer_access _ _ => Bool
  | .application_template _ => Except Exc ApplicationTemplate
  | .approvals _ => List VisualisationApproval
  | .count_approvals _ => Nat
  | .visualisation_exists _ => Bool
  | .user_exists _ => Bool
  | .save_approval _ _ _ _ => Nat
  | .catalogue_item _ => Option VisualisationCatalogueItem
  | .template _ => Option ApplicationTemplate
  | .save_template _ => Unit
  | .save_item _ => Unit

/-- The template of a project, and a new one with its catalogue item where there is none.
Neither is published.  Creating them may fail. -/
inductive TemplateOf (project : Nat) (s : Db) : Except Exc ApplicationTemplate → Db → Prop where
  | found {t : ApplicationTemplate} :
      s.templates t.id = some t → t.gitlab_project_id = some project →
      TemplateOf project s (.ok t) s
  | created {t : ApplicationTemplate} {item : VisualisationCatalogueItem} :
      s.templates t.id = none → t.gitlab_project_id = some project → t.visible = false →
      s.items item.id = none → item.visualisation_template = some t.id → item.published = false →
      TemplateOf project s (.ok t) ((s.setTemplate t).setItem item)
  | refused {e : Exc} : TemplateOf project s (.error e) s

/-- What an operation answers and does. -/
def act : (o : Op) → Db → Ans o → Db → Prop
  | .has_perm _, s, _, s' => s' = s
  | .gitlab_project _, s, _, s' => s' = s
  | .gitlab_has_developer_access _ _, s, _, s' => s' = s
  | .application_template project, s, a, s' => TemplateOf project s a s'
  | .approvals visualisation, s, a, s' => a = s.standing visualisation ∧ s' = s
  | .count_approvals visualisation, s, n, s' => n = (s.standing visualisation).length ∧ s' = s
  | .visualisation_exists id, s, a, s' => a = (s.templates id).isSome ∧ s' = s
  | .user_exists id, s, a, s' => a = s.users id ∧ s' = s
  | .save_approval none approved approver visualisation, s, id, s' =>
      (∀ a ∈ s.approvals, a.id ≠ id) ∧ s' = s.setApproval ⟨id, approved, approver, visualisation⟩
  | .save_approval (some pk) approved approver visualisation, s, id, s' =>
      id = pk ∧ s' = s.setApproval ⟨pk, approved, approver, visualisation⟩
  | .catalogue_item template, s, a, s' =>
      s' = s ∧ match a with
        | some item => s.items item.id = some item ∧ item.visualisation_template = some template
        | none => ∀ id item, s.items id = some item → item.visualisation_template ≠ some template
  | .template id, s, a, s' => a = s.templates id ∧ s' = s
  | .save_template t, s, _, s' => s' = s.setTemplate t
  | .save_item item, s, _, s' => s' = s.setItem item

/-- A choice among the answers, where everybody is a developer of every project and the
template of a project has its id.  It is `none` where it does not know one. -/
def pick : (o : Op) → (s : Db) → Option (Ans o × Db)
  | .has_perm _, s => some (true, s)
  | .gitlab_project id, s => some ((200, id), s)
  | .gitlab_has_developer_access _ _, s => some (true, s)
  | .application_template project, s =>
      match s.templates project with
      | some t =>
          if t.id = project ∧ t.gitlab_project_id = some project then some (.ok t, s) else none
      | none => none
  | .approvals visualisation, s => some (s.standing visualisation, s)
  | .count_approvals visualisation, s => some ((s.standing visualisation).length, s)
  | .visualisation_exists id, s => some ((s.templates id).isSome, s)
  | .user_exists id, s => some (s.users id, s)
  | .save_approval none approved approver visualisation, s =>
      if ∀ a ∈ s.approvals, a.id ≠ s.approvals.length then
        some (s.approvals.length, s.setApproval ⟨s.approvals.length, approved, approver, visualisation⟩)
      else none
  | .save_approval (some pk) approved approver visualisation, s =>
      some (pk, s.setApproval ⟨pk, approved, approver, visualisation⟩)
  | .catalogue_item template, s =>
      match s.items template with
      | some item =>
          if item.id = template ∧ item.visualisation_template = some template then some (some item, s)
          else none
      | none => none
  | .template id, s => some (s.templates id, s)
  | .save_template t, s => some ((), s.setTemplate t)
  | .save_item item, s => some ((), s.setItem item)

theorem act_of_pick {o : Op} {s s' : Db} {a : Ans o} (h : pick o s = some (a, s')) :
    act o s a s' := by
  cases o with
  | application_template project =>
      simp only [pick] at h
      split at h
      next t ht =>
        split at h
        next hid =>
          obtain ⟨rfl, rfl⟩ := Prod.mk.inj (Option.some.inj h)
          exact .found (hid.1 ▸ ht) hid.2
        next => cases h
      next => cases h
  | save_approval id approved approver visualisation =>
      cases id with
      | none =>
          simp only [pick] at h
          split at h
          next hfresh =>
            obtain ⟨rfl, rfl⟩ := Prod.mk.inj (Option.some.inj h)
            exact ⟨hfresh, rfl⟩
          next => cases h
      | some pk =>
          obtain ⟨rfl, rfl⟩ := Prod.mk.inj (Option.some.inj h)
          exact ⟨rfl, rfl⟩
  | catalogue_item template =>
      simp only [pick] at h
      split at h
      next item hitem =>
        split at h
        next hid =>
          obtain ⟨rfl, rfl⟩ := Prod.mk.inj (Option.some.inj h)
          exact ⟨rfl, hid.1 ▸ hitem, hid.2⟩
        next => cases h
      next => cases h
  | has_perm user => cases h; rfl
  | gitlab_project id => cases h; rfl
  | gitlab_has_developer_access user project => cases h; rfl
  | approvals visualisation => cases h; exact ⟨rfl, rfl⟩
  | count_approvals visualisation => cases h; exact ⟨rfl, rfl⟩
  | visualisation_exists id => cases h; exact ⟨rfl, rfl⟩
  | user_exists id => cases h; exact ⟨rfl, rfl⟩
  | template id => cases h; exact ⟨rfl, rfl⟩
  | save_template t => cases h; rfl
  | save_item item => cases h; rfl

abbrev M := Prog Ans Exc

/-- One operation. -/
def ask (o : Op) : M (Ans o) := .perform o

def orRaise {α : Type} : Except Exc α → M α
  | .ok a => .pure a
  | .error e => .raise e

/-! ## Responses -/

/-- Where the link of an error leads. -/
inductive Link where
  | this_page
  | approvals
  | catalogue_item
deriving DecidableEq, Repr

inductive Response where
  | redirect
  /-- A page with the errors of the fields of its form. -/
  | form (status : Nat) (errors : List (Str × Str))
  /-- A page with an error and its link. -/
  | publish (errors : List (Link × Str))
  | status (status : Nat) (content : Str)
deriving DecidableEq, Repr

/-! ## The page of approvals -/

/-- What is posted to the page of approvals.  An id that is missing or no id is `none`. -/
structure ApprovalPost where
  approved : Bool
  visualisation : Option Nat
  approver : Option Nat
  action : Option Str
deriving DecidableEq, Repr

/-- `ModelChoiceField.clean`: the object with the posted id, if there is one. -/
def chooseVisualisation : Option Nat → M (Option Nat)
  | none => pure none
  | some id => do
      let found ← ask (.visualisation_exists id)
      pure (if found then some id else none)

def chooseApprover : Option Nat → M (Option Nat)
  | none => pure none
  | some id => do
      let found ← ask (.user_exists id)
      pure (if found then some id else none)

/-- The error of a choice that was not found. -/
def choiceError (field : Str) (posted : Option Nat) : Str × Str :=
  (field, if posted.isNone then "This field is required."
    else "Select a valid choice. That choice is not one of the available choices.")

/-- The errors of the form.  `clean_approved` wants the box of a new approval ticked. -/
def formErrors (initial_approved : Bool) (data : ApprovalPost)
    (visualisation approver : Option Nat) : List (Str × Str) :=
  (if !initial_approved && !data.approved then
    [(("approved", "You must confirm that you have reviewed this visualisation") : Str × Str)]
    else []) ++
  (if visualisation.isNone then [choiceError "visualisation" data.visualisation] else []) ++
  (if approver.isNone then [choiceError "approver" data.approver] else [])

/-- `VisualisationApproval.save`.  A new object has `approved=True` at first. -/
def VisualisationApproval.save (instance_ : Option VisualisationApproval) (approved : Bool)
    (approver visualisation : Nat) : M Unit :=
  let initial_approved := (instance_.map VisualisationApproval.approved).getD true
  if initial_approved = false ∧ approved = true then .raise .ValueError
  else if initial_approved = approved ∧ instance_.isSome then .raise .ValueError
  else do
    let _ ← ask (.save_approval (instance_.map VisualisationApproval.id) approved approver
      visualisation)
    pure ()

def visualisation_approvals_html_POST (user project : Nat) (data : ApprovalPost) : M Response := do
  let found ← ask (.application_template project)
  let application_template ← orRaise found
  let approvals ← ask (.approvals application_template.id)
  let approval := approvals.find? fun a => a.approver == user
  let visualisation ← chooseVisualisation data.visualisation
  let approver ← chooseApprover data.approver
  -- `clean` reads the action, whatever errors there are
  let action ← .ofOption .KeyError data.action
  let approved := if action = "unapprove" then false else data.approved
  let errors := formErrors approval.isSome data visualisation approver
  match visualisation, approver, errors with
  | some visualisation, some approver, [] => do
      VisualisationApproval.save approval approved approver visualisation
      pure .redirect
  | _, _, errors => pure (.form 400 errors)

def visualisation_approvals_html_GET (project : Nat) : M Response := do
  let found ← ask (.application_template project)
  let application_template ← orRaise found
  let _ ← ask (.approvals application_template.id)
  pure (.form 200 [])

/-! ## The page to publish on -/

def _visualisation_is_approved (application_template : ApplicationTemplate) : M Bool := do
  let count ← ask (.count_approvals application_template.id)
  pure (2 ≤ count)

def _visualisation_is_published (application_template : ApplicationTemplate) : Bool :=
  application_template.visible

/-- Whether a text is set. -/
def isSet (s : Option Str) : Bool := !(s.getD []).isEmpty

def _visualisation_catalogue_item_is_complete (item : VisualisationCatalogueItem) : Bool :=
  item.visualisation_template.isSome && !item.name.isEmpty && !item.slug.isEmpty &&
    !item.short_description.isEmpty && isSet item.description &&
    item.enquiries_contact.isSome && item.secondary_enquiries_contact.isSome &&
    item.information_asset_owner.isSome && item.information_asset_manager.isSome &&
    !item.licence.isEmpty && isSet item.retention_policy && isSet item.restrictions_on_usage &&
    isSet item.personal_data

/-- The error where fewer than two have approved. -/
def notApproved : Link × Str :=
  (.approvals, "The visualisation must be approved by two developers before it can be published.")

def catalogueError (approved published : Bool) : Link × Str :=
  if !approved then notApproved
  else if !published then
    (.this_page, "The visualisation must be published before you can add it to the catalogue.")
  else
    (.catalogue_item,
      "You must complete all fields of the catalogue item before it can be published.")

def _set_published_on_catalogue_item (catalogue_item : Option VisualisationCatalogueItem)
    (publish : Bool) : M Response := do
  let item ← .ofOption .AttributeError catalogue_item
  let id ← .ofOption .AttributeError item.visualisation_template
  let row ← ask (.template id)
  let template ← .ofOption .failed row
  let approved ← _visualisation_is_approved template
  let published := _visualisation_is_published template
  if publish = false ∨ approved && published && _visualisation_catalogue_item_is_complete item then do
    ask (.save_item { item with published := publish })
    pure .redirect
  else pure (.publish [catalogueError approved published])

def _set_published_on_visualisation (application_template : ApplicationTemplate)
    (publish : Bool) : M Response := do
  let approved ← _visualisation_is_approved application_template
  if publish = false ∨ approved then do
    ask (.save_template { application_template with visible := publish })
    pure .redirect
  else pure (.publish [notApproved])

/-- The actions of the page. -/
inductive Action where
  | publish_catalogue
  | unpublish_catalogue
  | publish_visualisation
  | unpublish_visualisation
deriving DecidableEq, Repr

/-- The action with a name, in any case. -/
def Action.ofName (name : Str) : Option Action :=
  if lower name = "publish-catalogue" then some .publish_catalogue
  else if lower name = "unpublish-catalogue" then some .unpublish_catalogue
  else if lower name = "publish-visualisation" then some .publish_visualisation
  else if lower name = "unpublish-visualisation" then some .unpublish_visualisation
  else none

def visualisation_publish_html_POST (project : Nat) (action : Str) : M Response := do
  let found ← ask (.application_template project)
  let application_template ← orRaise found
  -- the template is looked up again for its catalogue item
  let again ← ask (.application_template project)
  let template ← orRaise again
  let catalogue_item ← ask (.catalogue_item template.id)
  match Action.ofName action with
  | some .publish_catalogue => _set_published_on_catalogue_item catalogue_item true
  | some .unpublish_catalogue => _set_published_on_catalogue_item catalogue_item false
  | some .publish_visualisation => _set_published_on_visualisation application_template true
  | some .unpublish_visualisation => _set_published_on_visualisation application_template false
  | none => pure (.status 400 (("Invalid action: " : Str) ++ lower action ++
      (" is not one of [publish-catalogue|unpublish-catalogue|publish-visualisation]" : Str)))

def visualisation_publish_html_GET (project : Nat) : M Response := do
  let found ← ask (.application_template project)
  let application_template ← orRaise found
  let _ ← ask (.catalogue_item application_template.id)
  let _ ← _visualisation_is_approved application_template
  pure (.publish [])

/-! ## Requests -/

inductive Method where
  | GET
  | POST
  | other
deriving DecidableEq, Repr

inductive Page where
  | approvals (data : ApprovalPost)
  | publish (action : Str)
deriving DecidableEq, Repr

structure Request where
  user : Nat
  method : Method
  project : Nat
  page : Page
deriving DecidableEq, Repr

/-- `_visualisation_gitlab_project`. -/
def _visualisation_gitlab_project (id : Nat) : M Nat := do
  let answer ← ask (.gitlab_project id)
  if answer.1 = 404 then .raise .Http404
  else if answer.1 ≠ 200 then .raise .failed
  else pure answer.2

/-- What a page does once the user may see it. -/
def Request.page_of (r : Request) (project : Nat) : M Response :=
  match r.page, r.method with
  | .approvals _, .GET => visualisation_approvals_html_GET project
  | .approvals data, .POST => visualisation_approvals_html_POST r.user project data
  | .publish _, .GET => visualisation_publish_html_GET project
  | .publish action, .POST => visualisation_publish_html_POST project action
  | _, .other => pure (.status 405 [])

/-- `visualisation_approvals_html_view` and `visualisation_publish_html_view`. -/
def Request.view (r : Request) : M Response := do
  let develops ← ask (.has_perm r.user)
  if develops then do
    let project ← _visualisation_gitlab_project r.project
    let access ← ask (.gitlab_has_developer_access r.user r.project)
    if access then r.page_of project else .raise .PermissionDenied
  else .raise .PermissionDenied

end Visualisations
