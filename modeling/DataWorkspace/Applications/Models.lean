import DataWorkspace.Datasets.Models

/-!
# Applications

An application template is a tool, which every user runs an instance of, or a
visualisation, which its readers share.  An application instance is one that was
started.  It is known by its public host, the leftmost part of the domain name it is
reached at.

The records have the fields that spawning, stopping and the application API read or
write.  The table of templates carries the constraint of the database that no two
templates have one `host_basename`.
-/

namespace Applications

open Py Datasets

/-- The kinds of templates. -/
inductive ApplicationType where
  | TOOL
  | VISUALISATION
deriving DecidableEq, Repr

inductive SpawnerName where
  | PROCESS
  | FARGATE
deriving DecidableEq, Repr

inductive InstanceState where
  | SPAWNING
  | RUNNING
  | STOPPED
deriving DecidableEq, Repr

structure ApplicationTemplate where
  id : Str
  visible : Bool
  wrap : Str
  host_basename : Str
  nice_name : Str
  spawner : SpawnerName
  spawner_options : Str
  application_type : ApplicationType
  default_memory : Str
  default_cpu : Str
  gitlab_project_id : Option Nat
deriving DecidableEq, Repr

/-- The templates of a deployment. -/
structure TemplateTable where
  rows : List ApplicationTemplate
  /-- `host_basename` is unique. -/
  unique : (rows.map ApplicationTemplate.host_basename).Nodup

/-- What a spawner knows an instance by.  It is stored as a JSON object, at first an
empty one. -/
inductive SpawnerInstanceId where
  | empty
  | process (process_id : Nat)
  | fargate (pipeline_id : Option Nat) (task_arn : Option Str)
deriving DecidableEq, Repr

/-- An application that was started. -/
structure ApplicationInstance where
  id : Str
  owner : User
  public_host : Str
  application_template : ApplicationTemplate
  spawner : SpawnerName
  spawner_application_template_options : Str
  spawner_application_instance_id : SpawnerInstanceId
  state : InstanceState
  proxy_url : Str
  cpu : Option Str
  memory : Option Str
  single_running_or_spawning_integrity : Str
  commit_id : Option Str
deriving DecidableEq, Repr

/-- `state__in=["RUNNING", "SPAWNING"]`. -/
def ApplicationInstance.isVisible (a : ApplicationInstance) : Bool :=
  a.state == .RUNNING || a.state == .SPAWNING

/-- A database user that was made for an instance. -/
structure ApplicationInstanceDbUsers where
  db_id : Str
  db_username : Str
  db_persistent_role : Str
  application_instance : Str
deriving DecidableEq, Repr

structure VisualisationCatalogueItem where
  id : Str
  user_access_type : UserAccessType
deriving DecidableEq, Repr

theorem ApplicationInstance.isVisible_iff {a : ApplicationInstance} :
    a.isVisible = true ↔ a.state ≠ .STOPPED := by
  rw [isVisible]
  cases a.state <;> decide

end Applications
