import DataWorkspace.Py.Collections
import DataWorkspace.Py.Removing
import DataWorkspace.Superset.Login

/-!
# The private role of a Superset user

Before each request the private role of the user is brought up to date.  A user of the
public host is given the data sources of the dashboards that the request names, and then
what is no longer due is removed.  An editor loses all data sources first, and is then
given those of the charts and datasets he owns.

Both remove permissions from the list they iterate over, so that the permission after a
removed one is skipped.  `permissions_as_due_iff` says when all that is not due is gone.
-/

namespace Superset

open Py

/-! ## Permissions -/

structure PermissionView where
  permission : Str
  view_menu : Str
deriving DecidableEq, Repr

/-- The permissions of a role.  The database has each at most once. -/
structure Permissions where
  list : List PermissionView
  nodup : list.Nodup
deriving DecidableEq

instance : Membership PermissionView Permissions := ⟨fun role pv => pv ∈ role.list⟩

def Permissions.none : Permissions := ⟨[], List.nodup_nil⟩

/-- What is relied on of the security manager. -/
structure SecurityManager where
  find_permission_view_menu : Str → Str → Option PermissionView
  add_permission_view_menu : Str → Option Str → Option PermissionView
  add_permission_role : Permissions → Option PermissionView → Permissions
  /-- A permission is found and added under the name that is asked for. -/
  permission_of_found : ∀ {permission view_menu pv},
    find_permission_view_menu permission view_menu = some pv → pv.permission = permission
  permission_of_added : ∀ {permission view_menu pv},
    add_permission_view_menu permission view_menu = some pv → pv.permission = permission
  /-- A permission the role does not have is appended. -/
  add_permission_role_list : ∀ role pv, (add_permission_role role (some pv)).list =
    if pv ∈ role.list then role.list else role.list ++ [pv]
  add_permission_role_none : ∀ role, add_permission_role role none = role

/-- `for perm in role.permissions: if p(perm): sm.del_permission_role(role, perm)`. -/
def Permissions.removing (p : PermissionView → Bool) (role : Permissions) : Permissions where
  list := Py.removing p role.list
  nodup := by
    rw [removing_eq_sweep role.nodup]
    exact role.nodup.sublist (sweep_sublist _)

def PUBLIC_ROLE_PERMISSIONS : List (Str × Str) :=
  [("can_csrf_token", "Superset"), ("can_dashboard", "Superset"), ("can_explore_json", "Superset"),
    ("can_favstar", "Superset"), ("can_log", "Superset"), ("can_read", "Annotation"),
    ("can_read", "Chart"), ("can_read", "CssTemplate"), ("can_read", "Dashboard"),
    ("can_warm_up_cache", "Superset")]

/-! ## What is stored -/

/-- A chart. -/
structure Slice where
  perm : Option Str
  owners : List Nat
deriving DecidableEq, Repr

/-- A dataset. -/
structure SqlaTable where
  perm : Option Str
  owners : List Nat
  is_sqllab_view : Bool
deriving DecidableEq, Repr

structure Dashboard where
  slices : List Slice
deriving DecidableEq, Repr

/-- A signed in user: an account and its place in the list of accounts. -/
structure User where
  id : Nat
  account : Account
deriving DecidableEq, Repr

/-- The name of the private role. -/
def User.role_name (user : User) : Str := user.account.username ++ "-Role"

/-- The database of Superset.  The look up of a dashboard is `none` for an id that the
database refuses. -/
structure Database where
  dashboard : Str → Option (Option Dashboard)
  slices : List Slice
  tables : List SqlaTable
  roles : Dict Str Permissions
  /-- The roles given to users. -/
  user_roles : List (Nat × Str)

/-! ## Before a request -/

/-- The charts of the dashboards that a header names. -/
def Database.given (db : Database) (dashboards : Str) : Option (List Slice) :=
  (((dashboards.splitOn ',').filter fun dashboard_id => !dashboard_id.isEmpty).mapM db.dashboard).map
    fun found => found.flatMap fun dashboard => (dashboard.map Dashboard.slices).getD []

section

variable (sm : SecurityManager) (db : Database) (user : User) (role_name : Str)

/-- `sm.add_role(role_name)`, or the role that is there. -/
def Database.role : Permissions := (db.roles.get? role_name).getD .none

def Database.save (role : Permissions) : Database :=
  { db with
    roles := db.roles.set role_name role
    user_roles := db.user_roles ++ [(user.id, role_name)] }

def is_datasource_access (perm : PermissionView) : Bool := perm.permission == "datasource_access"

def apply_public_role_permissions (dashboards : Str) : Option Database := do
  let minimum := PUBLIC_ROLE_PERMISSIONS.foldl (fun role perm =>
    sm.add_permission_role role (sm.find_permission_view_menu perm.1 perm.2)) (db.role role_name)
  let slices ← db.given dashboards
  let datasource_perms := slices.map fun datasource =>
    sm.add_permission_view_menu "datasource_access" datasource.perm
  let role := datasource_perms.foldl (fun role perm =>
    if perm.any fun pv => decide (pv ∈ role.list) then role else sm.add_permission_role role perm)
    minimum
  some (db.save user role_name (role.removing fun perm =>
    is_datasource_access perm && !datasource_perms.contains (some perm)))

def apply_datasource_perm (role : Permissions) (perm : Option Str) : Permissions :=
  sm.add_permission_role role (sm.add_permission_view_menu "datasource_access" perm)

def delete_datasource_perms (role : Permissions) : Permissions :=
  role.removing is_datasource_access

/-- The data sources of the charts and then of the datasets that a user owns. -/
def Database.owned : List (Option Str) :=
  ((db.slices.filter fun datasource => datasource.owners.contains user.id).map Slice.perm) ++
    ((db.tables.filter fun table => table.owners.contains user.id).map SqlaTable.perm)

def apply_editor_role_permissions : Database :=
  let role := (db.owned user).foldl (apply_datasource_perm sm)
    (delete_datasource_perms (db.role role_name))
  let tables := db.tables.map fun table =>
    if table.owners.contains user.id then { table with is_sqllab_view := false } else table
  Database.save { db with tables } user role_name role

/-- What `before_request` does for a signed in user, `none` where a query raises. -/
def Database.before_request (r : Request) : Option Database :=
  match Superset.before_request user.account r with
  | some (role_name, some dashboards) =>
      apply_public_role_permissions sm db user role_name dashboards
  | some (role_name, none) => some (apply_editor_role_permissions sm db user role_name)
  | none => some db

end

/-! ## What is due -/

section

variable (sm : SecurityManager) (db : Database) (user : User) (r : Request)

/-- A data source of a chart of a dashboard that the request names. -/
def GivenDue (pv : PermissionView) : Prop :=
  ∃ dashboard_id ∈ r.dashboards.splitOn ',', dashboard_id ≠ [] ∧
    ∃ dashboard, db.dashboard dashboard_id = some (some dashboard) ∧
      ∃ datasource ∈ dashboard.slices,
        sm.add_permission_view_menu "datasource_access" datasource.perm = some pv

/-- A data source of a chart or dataset that the user owns. -/
def OwnedDue (pv : PermissionView) : Prop :=
  (∃ datasource ∈ db.slices, user.id ∈ datasource.owners ∧
    sm.add_permission_view_menu "datasource_access" datasource.perm = some pv) ∨
  ∃ table ∈ db.tables, user.id ∈ table.owners ∧
    sm.add_permission_view_menu "datasource_access" table.perm = some pv

/-- The data sources that are due on the host of the request. -/
def Due (pv : PermissionView) : Prop :=
  match r.role with
  | .Public => GivenDue sm db r pv
  | .Editor => OwnedDue sm db user pv
  | .Admin => False

/-- The data sources of the role of the user are those that are due. -/
def AsDue (db' : Database) : Prop :=
  ∀ pv, is_datasource_access pv = true →
    (pv ∈ (db'.role user.role_name).list ↔ Due sm db user r pv)

/-- For a user of the public host no two data sources that are no longer due stand side by
side in the role.  For an editor every data source is due that an odd number of others
stands before, in its run of data sources. -/
def NoneSkipped : Prop :=
  match r.role with
  | .Public => (db.role user.role_name).list.IsChain fun a b =>
      ¬ ((is_datasource_access a = true ∧ ¬ GivenDue sm db r a) ∧
        is_datasource_access b = true ∧ ¬ GivenDue sm db r b)
  | .Editor => ∀ pv, is_datasource_access pv = true →
      Skipped is_datasource_access (db.role user.role_name).list pv →
        OwnedDue sm db user pv
  | .Admin => False

end

/-! ## The loops -/

theorem mem_removing {p : PermissionView → Bool} {role : Permissions} {pv : PermissionView} :
    pv ∈ (role.removing p).list ↔ pv ∈ sweep p role.list := by
  have h : (role.removing p).list = sweep p role.list := removing_eq_sweep role.nodup
  rw [h]

theorem role_save {db : Database} {user : User} {role_name : Str} {role : Permissions} :
    (db.save user role_name role).role role_name = role := by
  unfold Database.role Database.save
  rw [Dict.get?_set]
  simp

section

variable {sm : SecurityManager} {db db' : Database} {user : User} {r : Request}

theorem SecurityManager.add_list (sm : SecurityManager) (role : Permissions)
    (perm : Option PermissionView) :
    ∃ added, (sm.add_permission_role role perm).list = role.list ++ added ∧
      (∀ pv ∈ added, perm = some pv) ∧ ∀ pv, perm = some pv → pv ∈ role.list ++ added := by
  cases perm with
  | none => exact ⟨[], by simp [sm.add_permission_role_none], by simp, by simp⟩
  | some pv =>
      rw [sm.add_permission_role_list]
      split
      next h => exact ⟨[], by simp, by simp, by simpa using h⟩
      next h => exact ⟨[pv], rfl, by simp, by simp⟩

theorem add_missing_list (sm : SecurityManager) (role : Permissions)
    (perm : Option PermissionView) :
    ∃ added, (if perm.any fun pv => decide (pv ∈ role.list) then role
        else sm.add_permission_role role perm).list = role.list ++ added ∧
      (∀ pv ∈ added, perm = some pv) ∧ ∀ pv, perm = some pv → pv ∈ role.list ++ added := by
  split
  next h =>
      cases perm with
      | none => cases h
      | some pv => exact ⟨[], by simp, by simp, by simpa using h⟩
  next h => exact sm.add_list role perm

theorem foldl_add_list {add : Permissions → Option PermissionView → Permissions}
    (hadd : ∀ role perm, ∃ added, (add role perm).list = role.list ++ added ∧
      (∀ pv ∈ added, perm = some pv) ∧ ∀ pv, perm = some pv → pv ∈ role.list ++ added)
    (perms : List (Option PermissionView)) : ∀ role : Permissions,
      ∃ added, (perms.foldl add role).list = role.list ++ added ∧
        (∀ pv ∈ added, some pv ∈ perms) ∧ ∀ pv, some pv ∈ perms → pv ∈ role.list ++ added := by
  induction perms with
  | nil => exact fun role => ⟨[], by simp, by simp, by simp⟩
  | cons perm perms ih =>
      intro role
      obtain ⟨first, hfirst, hof, hthere⟩ := hadd role perm
      obtain ⟨rest, hrest, hofrest, hthererest⟩ := ih (add role perm)
      refine ⟨first ++ rest, ?_, fun pv hpv => ?_, fun pv hpv => ?_⟩
      · rw [List.foldl_cons, hrest, hfirst, List.append_assoc]
      · rcases List.mem_append.mp hpv with hpv | hpv
        · exact List.mem_cons.mpr (.inl (hof pv hpv).symm)
        · exact List.mem_cons_of_mem _ (hofrest pv hpv)
      · rw [hfirst] at hthererest
        rw [← List.append_assoc]
        rcases List.mem_cons.mp hpv with hpv | hpv
        · exact List.mem_append_left _ (hthere pv hpv.symm)
        · exact hthererest pv hpv

theorem minimum_list (sm : SecurityManager) (role : Permissions) :
    ∃ added, (PUBLIC_ROLE_PERMISSIONS.foldl (fun role perm =>
      sm.add_permission_role role (sm.find_permission_view_menu perm.1 perm.2)) role).list =
        role.list ++ added ∧ ∀ pv ∈ added, is_datasource_access pv = false := by
  obtain ⟨added, hlist, hof, -⟩ := foldl_add_list sm.add_list
    (PUBLIC_ROLE_PERMISSIONS.map fun perm => sm.find_permission_view_menu perm.1 perm.2) role
  rw [List.foldl_map] at hlist
  refine ⟨added, hlist, fun pv hpv => ?_⟩
  obtain ⟨perm, hperm, hfound⟩ := List.mem_map.mp (hof pv hpv)
  have hother : ∀ perm ∈ PUBLIC_ROLE_PERMISSIONS, (perm.1 == ("datasource_access" : Str)) = false := by
    decide
  unfold is_datasource_access
  rw [sm.permission_of_found hfound]
  exact hother perm hperm

theorem mem_given_iff {slices : List Slice} (h : db.given r.dashboards = some slices)
    (pv : PermissionView) :
    some pv ∈ (slices.map fun datasource =>
      sm.add_permission_view_menu "datasource_access" datasource.perm) ↔ GivenDue sm db r pv := by
  obtain ⟨found, hfound, rfl⟩ := Option.map_eq_some_iff.mp h
  have hmem := mem_mapM_iff hfound
  simp only [List.mem_map, List.mem_flatMap]
  constructor
  · rintro ⟨datasource, ⟨dashboard, hdashboard, hin⟩, hperm⟩
    obtain ⟨dashboard_id, hid, hget⟩ := (hmem dashboard).mp hdashboard
    obtain ⟨hsplit, hne⟩ := List.mem_filter.mp hid
    cases dashboard with
    | none => exact absurd hin List.not_mem_nil
    | some dashboard =>
        exact ⟨dashboard_id, hsplit, by simpa using hne, dashboard, hget, datasource, hin, hperm⟩
  · rintro ⟨dashboard_id, hsplit, hne, dashboard, hget, datasource, hin, hperm⟩
    refine ⟨datasource, ⟨some dashboard, (hmem _).mpr ⟨dashboard_id, ?_, hget⟩, hin⟩, hperm⟩
    exact List.mem_filter.mpr ⟨hsplit, by simpa using hne⟩

theorem mem_owned_iff {pv : PermissionView} :
    some pv ∈ (db.owned user).map (sm.add_permission_view_menu "datasource_access") ↔
      OwnedDue sm db user pv := by
  unfold Database.owned OwnedDue
  simp only [List.map_append, List.map_map, List.mem_append, List.mem_map, List.mem_filter,
    List.contains_iff_mem, Function.comp_apply, and_assoc]

/-! ## When everything is as it is due -/

theorem isChain_append_of_not {p : PermissionView → Bool} {l added : List PermissionView}
    (hadded : ∀ pv ∈ added, p pv = false) :
    (l ++ added).IsChain (fun a b => ¬ (p a = true ∧ p b = true)) ↔
      l.IsChain fun a b => ¬ (p a = true ∧ p b = true) := by
  rw [List.isChain_append]
  refine ⟨And.left, fun h => ⟨h, ?_, fun x _ y hy => ?_⟩⟩
  · rw [← sweep_removes_all_iff]
    exact fun z hz => hadded z ((sweep_sublist _).subset hz)
  · simp [hadded y (List.mem_of_mem_head? hy)]

theorem removing_as_due_iff {role : Permissions} {p : PermissionView → Bool}
    {due : PermissionView → Prop} {prior added : List PermissionView}
    (hlist : role.list = prior ++ added)
    (hp : ∀ pv, p pv = true ↔ is_datasource_access pv = true ∧ ¬ due pv)
    (hadded : ∀ pv ∈ added, p pv = false) (hdue : ∀ pv, due pv → pv ∈ role.list) :
    (∀ pv, is_datasource_access pv = true → (pv ∈ (role.removing p).list ↔ due pv)) ↔
      prior.IsChain fun a b => ¬ ((is_datasource_access a = true ∧ ¬ due a) ∧
        is_datasource_access b = true ∧ ¬ due b) := by
  have hnot {pv : PermissionView} (hpv : due pv) : p pv = false := by
    rw [Bool.eq_false_iff, ne_eq, hp]
    exact fun h => h.2 hpv
  simp only [← hp, mem_removing]
  rw [← isChain_append_of_not hadded, ← hlist, ← sweep_removes_all_iff]
  constructor
  · intro h pv hpv
    rw [Bool.eq_false_iff, ne_eq, hp]
    exact fun hstale => hstale.2 ((h pv hstale.1).mp hpv)
  · intro h pv hds
    constructor
    · intro hpv
      by_contra hndue
      have hstale := (hp pv).mpr ⟨hds, hndue⟩
      rw [h pv hpv] at hstale
      cases hstale
    · exact fun hpv => mem_sweep_of_not (hdue pv hpv) (hnot hpv)

theorem public_as_due_iff (hpublic : r.role = .Public)
    (h : apply_public_role_permissions sm db user user.role_name r.dashboards = some db') :
    AsDue sm db user r db' ↔ NoneSkipped sm db user r := by
  obtain ⟨slices, hslices, h⟩ := Option.bind_eq_some_iff.mp h
  obtain rfl := Option.some.inj h
  obtain ⟨first, hfirst, hfirst_not⟩ := minimum_list sm (db.role user.role_name)
  obtain ⟨added, hadded, hof, hthere⟩ := foldl_add_list (add_missing_list sm)
    (slices.map fun datasource => sm.add_permission_view_menu "datasource_access" datasource.perm)
    (PUBLIC_ROLE_PERMISSIONS.foldl (fun role perm =>
      sm.add_permission_role role (sm.find_permission_view_menu perm.1 perm.2))
      (db.role user.role_name))
  rw [hfirst, List.append_assoc] at hadded
  rw [hfirst, List.append_assoc] at hthere
  unfold AsDue NoneSkipped Due
  simp only [hpublic, role_save]
  refine removing_as_due_iff hadded (fun pv => ?_) (fun pv hpv => ?_) fun pv hpv => ?_
  · rw [← mem_given_iff hslices]
    simp
  · rcases List.mem_append.mp hpv with hpv | hpv
    · rw [hfirst_not pv hpv]
      rfl
    · simpa using fun _ => hof pv hpv
  · rw [hadded]
    exact hthere pv ((mem_given_iff hslices pv).mpr hpv)

theorem editor_as_due_iff (heditor : r.role = .Editor) :
    AsDue sm db user r (apply_editor_role_permissions sm db user user.role_name) ↔
      NoneSkipped sm db user r := by
  obtain ⟨added, hadded, hof, hthere⟩ := foldl_add_list sm.add_list
    ((db.owned user).map (sm.add_permission_view_menu "datasource_access"))
    (delete_datasource_perms (db.role user.role_name))
  rw [List.foldl_map] at hadded
  have hafter : ((apply_editor_role_permissions sm db user user.role_name).role
      user.role_name).list = (delete_datasource_perms (db.role user.role_name)).list ++ added := by
    unfold apply_editor_role_permissions
    rw [role_save]
    exact hadded
  unfold AsDue NoneSkipped Due
  simp only [heditor, hafter]
  refine forall₂_congr fun pv hpv => ?_
  have hskipped : pv ∈ (delete_datasource_perms (db.role user.role_name)).list ↔
      Skipped is_datasource_access (db.role user.role_name).list pv :=
    mem_removing.trans (mem_sweep_iff hpv)
  constructor
  · intro h hs
    exact h.mp (List.mem_append_left _ (hskipped.mpr hs))
  · intro h
    constructor
    · intro hmem
      rcases List.mem_append.mp hmem with hmem | hmem
      · exact h (hskipped.mp hmem)
      · exact mem_owned_iff.mp (hof pv hmem)
    · exact fun hdue => hthere pv (mem_owned_iff.mpr hdue)

/-- It finishes for an editor, and for a public user if the database takes every id of the
header. -/
theorem before_request_isSome_iff (hrole : r.role ≠ .Admin) :
    (db.before_request sm user r).isSome = true ↔
      (r.role = .Public → (db.given r.dashboards).isSome = true) := by
  unfold Database.before_request Superset.before_request
  cases hr : r.role with
  | Public =>
      cases hgiven : db.given r.dashboards with
      | none => simp [apply_public_role_permissions, hgiven]
      | some slices => simp [apply_public_role_permissions, hgiven]
  | Editor => simp
  | Admin => exact absurd hr hrole

/-- After `before_request` the data sources of the role of the user are those that are due
exactly when none that is not due was skipped. -/
theorem permissions_as_due_iff (hrole : r.role ≠ .Admin)
    (h : db.before_request sm user r = some db') :
    AsDue sm db user r db' ↔ NoneSkipped sm db user r := by
  unfold Database.before_request Superset.before_request at h
  cases hr : r.role with
  | Public =>
      rw [hr] at h
      exact public_as_due_iff hr h
  | Editor =>
      rw [hr] at h
      obtain rfl := Option.some.inj h
      exact editor_as_due_iff hr
  | Admin => exact absurd hr hrole

end

/-! ## Two data sources that are no longer due -/

namespace Stale

def manager : SecurityManager where
  find_permission_view_menu permission view_menu := some ⟨permission, view_menu⟩
  add_permission_view_menu permission view_menu := view_menu.map fun v => ⟨permission, v⟩
  add_permission_role role perm :=
    match perm with
    | none => role
    | some pv =>
        if h : pv ∈ role.list then role
        else ⟨role.list ++ [pv], List.nodup_append.mpr ⟨role.nodup, List.nodup_singleton pv, by
          intro a ha b hb hab
          rw [List.mem_singleton] at hb
          exact h (hb ▸ hab ▸ ha)⟩⟩
  permission_of_found h := by
    obtain rfl := Option.some.inj h
    rfl
  permission_of_added h := by
    obtain ⟨v, -, rfl⟩ := Option.map_eq_some_iff.mp h
    rfl
  add_permission_role_list role pv := by
    dsimp only
    split <;> rfl
  add_permission_role_none _ := rfl

/-- The data source of a chart. -/
def access (name : Str) : PermissionView := ⟨"datasource_access", name⟩

def user : User := ⟨0, ⟨"ann--Public", [], [], [], "Public"⟩⟩

def request : Request := viewRequest "ann" "ann@example.com" false none

/-- The dashboard of the request is no longer there, and the role has some data sources. -/
def db (role : Permissions) : Database where
  dashboard _ := some none
  slices := []
  tables := []
  roles := Dict.empty.set "ann--Public-Role" role
  user_roles := []

theorem role_db (role : Permissions) : (db role).role user.role_name = role := by
  unfold Database.role db
  rw [Dict.get?_set]
  rfl

theorem not_due (role : Permissions) (pv : PermissionView) :
    ¬ GivenDue manager (db role) request pv := by
  rintro ⟨_, _, _, dashboard, h, _⟩
  cases h

def one : Permissions := ⟨[access "a"], List.nodup_singleton _⟩

def two : Permissions := ⟨[access "a", access "b"], by decide⟩

end Stale

open Stale in
theorem single_permission_removed : ∃ db', (db one).before_request manager user request = some db' ∧
    AsDue manager (db one) user request db' := by
  have hsome : ((db one).before_request manager user request).isSome = true :=
    (before_request_isSome_iff (by decide)).mpr fun _ => by decide
  obtain ⟨db', hdb'⟩ := Option.isSome_iff_exists.mp hsome
  refine ⟨db', hdb', (permissions_as_due_iff (by decide) hdb').mpr ?_⟩
  show ((db one).role user.role_name).list.IsChain _
  rw [role_db]
  exact List.isChain_singleton _

open Stale in
/-- Of two data sources that are no longer due the second is still there afterwards. -/
theorem second_permission_stays : ∃ db',
    (db two).before_request manager user request = some db' ∧
      access "b" ∈ (db'.role user.role_name).list ∧
      ¬ Due manager (db two) user request (access "b") := by
  refine ⟨_, rfl, ?_, not_due two _⟩
  show access "b" ∈ (((db two).save user user.role_name _).role user.role_name).list
  rw [role_save, mem_removing]
  decide

end Superset
