import DataWorkspace.Applications.Effects

/-!
# The application API

`application_api_view` asks whether the user may use a public host, and then reads,
creates, changes or stops the instance that starts or runs there.  To the API an instance
that is stopped does not exist.

Stopping is done in other places too: by the tools page, by the release of a commit of a
visualisation and by `kill_idle_fargate`.  Those send a message to stop what was spawned
first, and the API does not.
-/

namespace Applications

open Py Datasets Async

/-! ## Finding and stopping -/

/-- `get_api_visible_application_instance_by_public_host` and its like, `none` where
`DoesNotExist` is caught. -/
def find (q : InstanceQuery) : M (Option ApplicationInstance) :=
  .op (.get_instance q) fun
    | .ok a => .pure (some a)
    | .error .DoesNotExist => .pure none
    | .error e => .raise e

/-- `set_application_stopped(application_instance)`. -/
def set_application_stopped (application_instance : ApplicationInstance) : M Unit :=
  save application_instance.id (.state_and_integrity .STOPPED application_instance.id)

/-- `stop_spawner_and_application(application_instance)`. -/
def stop_spawner_and_application (application_instance : ApplicationInstance) : M Unit := do
  await (.delay (.stop application_instance.spawner application_instance.id))
  set_application_stopped application_instance

/-- `tools_html_POST`, after the form was read. -/
def tools_html_POST (user : User) (public_host : Str) : M Unit := do
  let found : Option ApplicationInstance ← find (.owned user public_host)
  match found with
  | none => .pure ()
  | some application_instance => stop_spawner_and_application application_instance

/-- `visualisation_branch_html_POST`: release a commit. -/
def visualisation_branch_html_POST (application_template : ApplicationTemplate)
    (release_commit : Str) : M Unit := do
  call (.ecr_retag application_template
    (application_template.host_basename ++ "--" ++ release_commit)
    application_template.host_basename)
  let found : Option ApplicationInstance ← find (.visible application_template.host_basename)
  match found with
  | none => .pure ()
  | some application_instance => stop_spawner_and_application application_instance

/-- One instance of `kill_idle_fargate`.  An error is caught, but not for one that is
still starting. -/
def kill_if_idle (application_instance : ApplicationInstance) : M Unit :=
  if application_instance.state = .SPAWNING then stop_spawner_and_application application_instance
  else do
    let busy : Except Exc Bool ←
      (call (.application_instance_max_cpu application_instance)).attempt
    match busy with
    | .ok false => do
        let _ : Except Exc Unit ← (stop_spawner_and_application application_instance).attempt
        .pure ()
    | _ => .pure ()

/-- `kill_idle_fargate`. -/
def kill_idle_fargate : M Unit := do
  let instances : List ApplicationInstance ← await .old_instances
  instances.forM kill_if_idle

/-! ## Permission -/

/-- `p() or q()`. -/
def orElse (p q : M Bool) : M Bool := do
  let b ← p
  if b then .pure true else q

def visualisation_catalogue_item (t : ApplicationTemplate) :
    M (Option VisualisationCatalogueItem) :=
  if t.application_type = .VISUALISATION then do
    let item : VisualisationCatalogueItem ← call (.catalogue_item t)
    .pure (some item)
  else .pure none

section Rules

variable (dep : Deployment) (user : User) (found : FoundHost)
  (item : Option VisualisationCatalogueItem)

def is_tool_and_correct_user_and_allowed_to_start : M Bool :=
  if found.application_template.application_type = .TOOL ∧
      found.user = some (dep.short_hash user) then
    call (.has_perm user "applications.start_all_applications")
  else .pure false

def is_published_visualisation_and_requires_authentication : M Bool :=
  .pure (found.commit_id.isNone && found.application_template.visible &&
    item.any fun item =>
      item.user_access_type == .REQUIRES_AUTHENTICATION || item.user_access_type == .OPEN)

def is_published_visualisation_and_requires_authorisation_and_has_authorisation : M Bool :=
  match item with
  | some item =>
      if found.commit_id = none ∧ found.application_template.visible = true ∧
          item.user_access_type = .REQUIRES_AUTHORIZATION then
        call (.visualisation_permission user item)
      else .pure false
  | none => .pure false

def is_visualisation_preview_and_has_gitlab_developer : M Bool :=
  if found.commit_id.isSome = true ∧ item.isSome = true then
    call (.gitlab_has_developer_access user found.application_template.gitlab_project_id)
  else .pure false

end Rules

/-- `application_api_is_allowed(request, public_host)`. -/
def application_api_is_allowed (dep : Deployment) (user : User) (public_host : Str) : M Bool :=
  match application_template_tag_user_commit_from_host dep.templates public_host with
  | .error .DoesNotExist => .pure false
  | .error .too_many => .raise .failed
  | .ok found => do
      let item ← visualisation_catalogue_item found.application_template
      orElse (is_tool_and_correct_user_and_allowed_to_start dep user found)
        (orElse (is_published_visualisation_and_requires_authentication found item)
          (orElse
            (is_published_visualisation_and_requires_authorisation_and_has_authorisation user found
              item)
            (is_visualisation_preview_and_has_gitlab_developer user found item)))

/-! ## Requests -/

inductive Method where
  | GET | PUT | PATCH | DELETE | other
deriving DecidableEq, Repr

/-- A request to the API. -/
structure Request where
  user : User
  method : Method
  public_host : Str
  /-- `json.loads(request.body)["state"]`, if there is one. -/
  state : Option Str
deriving DecidableEq, Repr

/-- What is told about an instance. -/
structure ApplicationDict where
  proxy_url : Str
  state : InstanceState
  user : Str
  wrap : Str
  name : Str
deriving DecidableEq, Repr

structure Response where
  status : Nat
  application : Option ApplicationDict
deriving DecidableEq, Repr

/-- `api_application_dict(application_instance)`. -/
def api_application_dict (dep : Deployment) (application_instance : ApplicationInstance) :
    M ApplicationDict := do
  let spawner_state : InstanceState ← call (.spawner_state application_instance)
  .pure
    { proxy_url := application_instance.proxy_url
      state := if spawner_state = .RUNNING then application_instance.state else spawner_state
      user := dep.short_hash application_instance.owner
      wrap := application_instance.application_template.wrap
      name := application_instance.application_template.nice_name }

/-- `application_api_GET`. -/
def application_api_GET (dep : Deployment) (public_host : Str) : M Response := do
  let found : Option ApplicationInstance ← find (.visible public_host)
  match found with
  | none => .pure ⟨404, none⟩
  | some application_instance => do
      let dict ← api_application_dict dep application_instance
      .pure ⟨200, some dict⟩

/-- The processor and memory of a new instance. -/
def size (user : User) (t : ApplicationTemplate) : M (Option Str × Option Str) :=
  match t.application_type with
  | .TOOL => call (.tool_configuration user t)
  | .VISUALISATION => .pure (some t.default_cpu, some t.default_memory)

/-- The row of an instance that is to be spawned. -/
def new_instance (dep : Deployment) (user : User) (public_host : Str) (t : ApplicationTemplate)
    (commit_id cpu memory : Option Str) : NewInstance where
  owner := user
  public_host := public_host
  application_template := t
  spawner := t.spawner
  spawner_application_template_options := dep.application_options t
  spawner_application_instance_id := .empty
  state := .SPAWNING
  single_running_or_spawning_integrity := public_host
  cpu := cpu
  memory := memory
  commit_id := commit_id

/-- `ApplicationInstance.objects.create(…)`, and the message to spawn what was created. -/
def create_and_spawn (dep : Deployment) (user : User) (tag : Option Str) (new : NewInstance) :
    M ApplicationInstance := do
  let created : Option ApplicationInstance ← await (.create_instance new)
  match created with
  | none => get (.visible new.public_host)
  | some application_instance => do
      await (.delay (.spawn new.application_template.spawner user tag application_instance.id
        (dep.application_options new.application_template)))
      .pure application_instance

/-- `application_api_PUT`. -/
def application_api_PUT (dep : Deployment) (user : User) (public_host : Str) : M Response := do
  let existing : Option ApplicationInstance ← find (.visible public_host)
  match existing with
  | some _ => .pure ⟨409, none⟩
  | none =>
      match application_template_tag_user_commit_from_host dep.templates public_host with
      | .error .DoesNotExist => .pure ⟨400, none⟩
      | .error .too_many => .raise .failed
      | .ok found => do
          let (cpu, memory) ← size user found.application_template
          let application_instance ← create_and_spawn dep user found.tag
            (new_instance dep user public_host found.application_template found.commit_id cpu memory)
          let dict ← api_application_dict dep application_instance
          .pure ⟨200, some dict⟩

/-- `application_api_PATCH`. -/
def application_api_PATCH (public_host : Str) (state : Option Str) : M Response := do
  let found : Option ApplicationInstance ← find (.visible public_host)
  match found with
  | none => .pure ⟨404, none⟩
  | some application_instance =>
      match state with
      | none => .raise .KeyError
      | some state =>
          if state ≠ "RUNNING" then .pure ⟨400, none⟩
          else do
            save application_instance.id (.state .RUNNING)
            .pure ⟨200, none⟩

/-- `application_api_DELETE`. -/
def application_api_DELETE (public_host : Str) : M Response := do
  let found : Option ApplicationInstance ← find (.visible public_host)
  match found with
  | none => .pure ⟨200, none⟩
  | some application_instance => do
      set_application_stopped application_instance
      .pure ⟨200, none⟩

/-- The handler of a method. -/
def application_api_method (dep : Deployment) (request : Request) : M Response :=
  match request.method with
  | .GET => application_api_GET dep request.public_host
  | .PUT => application_api_PUT dep request.user request.public_host
  | .PATCH => application_api_PATCH request.public_host request.state
  | .DELETE => application_api_DELETE request.public_host
  | .other => .pure ⟨405, none⟩

/-- `application_api_view(request, public_host)`. -/
def application_api_view (dep : Deployment) (request : Request) : M Response := do
  let allowed ← application_api_is_allowed dep request.user request.public_host
  if allowed then application_api_method dep request else .pure ⟨403, none⟩

end Applications
