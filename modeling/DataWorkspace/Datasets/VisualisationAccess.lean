import DataWorkspace.Applications.HostRoundTrip
import DataWorkspace.Applications.Workspace
import DataWorkspace.Datasets.Access

/-!
# Who may open a visualisation

Whether a user may open a visualisation is decided by its catalogue item, by the search
and by the API of applications.  The search looks at the rows of a join with the
permissions, and an open visualisation where only others have one is not accessible in it.
Neither the search nor the API knows of email domains.

`visualisation_decisions_agree_iff` says when the three agree.
-/

namespace Datasets

open Py Async Applications
open Core (user_email_domain)

/-! ## Catalogue items -/

structure VisualisationCatalogueItem where
  id : Str
  name : Str
  visualisation_template : Option Str
  user_access_type : UserAccessType
  authorized_email_domains : List Str
  deleted : Bool
  published : Bool
  user_permissions : List Nat
deriving DecidableEq, Repr

/-- What the API of applications reads of it. -/
def VisualisationCatalogueItem.item (v : VisualisationCatalogueItem) :
    Applications.VisualisationCatalogueItem := ⟨v.id, v.user_access_type⟩

structure ItemTable where
  rows : List VisualisationCatalogueItem
  /-- `id` is the primary key. -/
  unique : (rows.map VisualisationCatalogueItem.id).Nodup
  /-- A template has at most one item. -/
  one_to_one : ∀ v ∈ rows, ∀ v' ∈ rows, v.visualisation_template ≠ none →
    v.visualisation_template = v'.visualisation_template → v = v'

/-! ## The three decisions -/

/-- `user_access_type in [REQUIRES_AUTHENTICATION, OPEN]`. -/
def VisualisationCatalogueItem.isOpen (v : VisualisationCatalogueItem) : Bool :=
  v.user_access_type == .REQUIRES_AUTHENTICATION || v.user_access_type == .OPEN

/-- `user_has_access`, `none` where it raises. -/
def VisualisationCatalogueItem.user_has_access (v : VisualisationCatalogueItem) (user : User) :
    Option Bool := do
  let domain ← user_email_domain user
  some (v.isOpen || v.user_permissions.contains user.id ||
    v.authorized_email_domains.contains domain)

/-- Who a search is made for.  `manages` is the permission to manage unpublished
visualisations, `matching` what the search vector says. -/
structure VisualisationSearch where
  user : User
  manages : Bool
  matching : VisualisationCatalogueItem → Bool

/-- `access_filter`, on a row of the join. -/
def VisualisationSearch.accessFilter (q : VisualisationSearch) (v : VisualisationCatalogueItem)
    (permission : Option Nat) : Bool :=
  (v.isOpen && (permission == some q.user.id || permission.isNone)) ||
    (v.user_access_type == .REQUIRES_AUTHORIZATION && permission == some q.user.id)

def get_visualisations_data_for_user_matching_query (q : VisualisationSearch)
    (visualisations : List VisualisationCatalogueItem) : List SearchResult :=
  (visualisations.filter fun v =>
    !v.deleted && (v.published || q.manages) && q.matching v).map fun v =>
    { id := v.id
      name := v.name
      published := v.published
      is_open_data := v.user_access_type == .OPEN
      has_access := (permissionRows v.user_permissions).any (q.accessFilter v) }

def answers (table : ItemTable) (others : (o : Op) → Ans o) : (o : Op) → Unit → Ans o × Unit
  | .external (.catalogue_item t), _ =>
      ((table.rows.find? fun v => v.visualisation_template == some t.id).map
        VisualisationCatalogueItem.item, ())
  | .external (.visualisation_permission user item), _ =>
      (some (table.rows.any fun v => v.id == item.id && v.user_permissions.contains user.id), ())
  | o, _ => (others o, ())

section Decisions

variable (table : ItemTable) (user : User) (v : VisualisationCatalogueItem)

/-- The catalogue item lets the user in. -/
def ItemHasAccess : Prop := v.user_has_access user = some true

/-- A search that finds the item marks it as accessible. -/
def ItemIsMarked (q : VisualisationSearch) : Prop :=
  ∃ r ∈ get_visualisations_data_for_user_matching_query q table.rows,
    r.id = v.id ∧ r.has_access = true

def LetsOpen (dep : Deployment) (public_host : Str) (others : (o : Op) → Ans o) : Prop :=
  ((application_api_is_allowed dep user public_host).run (answers table others) ()).1 = .ok true

/-- The three decisions agree. -/
structure VisualisationDecisionsAgree (manages : Bool) (dep : Deployment) (public_host : Str)
    (others : (o : Op) → Ans o) : Prop where
  marked : ∀ q : VisualisationSearch, q.user = user → q.manages = manages →
    q.matching v = true → (ItemIsMarked table v q ↔ ItemHasAccess user v)
  opened : LetsOpen table user dep public_host others ↔ ItemHasAccess user v

/-- One of the three rules lets the user in. -/
def ItemDue : Prop :=
  v.isOpen = true ∨ user.id ∈ v.user_permissions ∨
    ∃ domain, user_email_domain user = some domain ∧ domain ∈ v.authorized_email_domains

/-- The item is shown to the user, who has a permission, or it is open and nobody has one. -/
structure ItemPlain (manages : Bool) : Prop where
  domain : (user_email_domain user).isSome = true
  deleted : v.deleted = false
  visible : v.published = true ∨ manages = true
  permission : user.id ∈ v.user_permissions ∨ v.isOpen = true ∧ v.user_permissions = []

end Decisions

/-! ## What each decision comes to -/

theorem item_isOpen_iff {v : VisualisationCatalogueItem} :
    v.isOpen = true ↔ v.user_access_type ≠ .REQUIRES_AUTHORIZATION := by
  cases h : v.user_access_type <;> simp [VisualisationCatalogueItem.isOpen, h]

section

variable {table : ItemTable} {user : User} {v : VisualisationCatalogueItem}

theorem itemHasAccess_iff :
    ItemHasAccess user v ↔ (user_email_domain user).isSome = true ∧ ItemDue user v := by
  unfold ItemHasAccess VisualisationCatalogueItem.user_has_access ItemDue
  cases user_email_domain user with
  | none => simp
  | some domain => simp [or_assoc]

theorem none_mem_permissionRows {permissions : List Nat} :
    none ∈ permissionRows permissions ↔ permissions = [] := by
  unfold permissionRows
  split
  next h => simp [List.isEmpty_iff.mp h]
  next h => simpa using h

theorem any_accessFilter_iff (q : VisualisationSearch) :
    (permissionRows v.user_permissions).any (q.accessFilter v) = true ↔
      q.user.id ∈ v.user_permissions ∨ v.isOpen = true ∧ v.user_permissions = [] := by
  rw [List.any_eq_true, ← mem_permissionRows, ← none_mem_permissionRows]
  constructor
  · rintro ⟨p, hp, h⟩
    simp only [VisualisationSearch.accessFilter, Bool.or_eq_true, Bool.and_eq_true, beq_iff_eq,
      Option.isNone_iff_eq_none] at h
    rcases h with ⟨hopen, rfl | rfl⟩ | ⟨-, rfl⟩
    · exact .inl hp
    · exact .inr ⟨hopen, hp⟩
    · exact .inl hp
  · rintro (hp | ⟨hopen, hp⟩)
    · refine ⟨_, hp, ?_⟩
      cases h : v.user_access_type <;>
        simp [VisualisationSearch.accessFilter, VisualisationCatalogueItem.isOpen, h]
    · exact ⟨_, hp, by simp [VisualisationSearch.accessFilter, hopen]⟩

theorem itemIsMarked_iff (hv : v ∈ table.rows) {q : VisualisationSearch}
    (hmatching : q.matching v = true) :
    ItemIsMarked table v q ↔ v.deleted = false ∧ (v.published = true ∨ q.manages = true) ∧
      (q.user.id ∈ v.user_permissions ∨ v.isOpen = true ∧ v.user_permissions = []) := by
  rw [← any_accessFilter_iff q]
  constructor
  · rintro ⟨r, hr, hid, haccess⟩
    obtain ⟨v', hv', rfl⟩ := List.mem_map.mp hr
    obtain ⟨hmem, hvisible⟩ := List.mem_filter.mp hv'
    obtain rfl : v' = v := List.inj_on_of_nodup_map table.unique hmem hv hid
    simp only [Bool.and_eq_true, Bool.not_eq_true', Bool.or_eq_true] at hvisible
    exact ⟨hvisible.1.1, hvisible.1.2, haccess⟩
  · rintro ⟨hdeleted, hvisible, haccess⟩
    refine ⟨_, List.mem_map.mpr ⟨v, List.mem_filter.mpr ⟨hv, ?_⟩, rfl⟩, rfl, haccess⟩
    simp [hdeleted, hvisible, hmatching]

variable {dep : Deployment} {public_host : Str} {found : FoundHost}

theorem run_call {exec : (o : Op) → Unit → Ans o × Unit} {x : External} {reply : x.Reply}
    (h : exec (.external x) () = (some reply, ())) :
    (call x).run exec () = (.ok reply, ()) := by
  unfold call
  rw [Prog.run, h]
  rfl

theorem run_call_some {exec : (o : Op) → Unit → Ans o × Unit} {x : External} {reply : x.Reply}
    (h : exec (.external x) () = (some reply, ())) :
    Prog.run exec (call x >>= fun r => .pure (some r)) () = (.ok (some reply), ()) := by
  rw [Prog.run_bind, run_call h]
  rfl

theorem run_orElse {exec : (o : Op) → Unit → Ans o × Unit} {p q : M Bool} {b : Bool}
    (h : p.run exec () = (.ok b, ())) :
    (orElse p q).run exec () = if b then (.ok true, ()) else q.run exec () := by
  unfold orElse
  rw [Prog.run_bind, h]
  cases b <;> rfl

theorem letsOpen_iff (hv : v ∈ table.rows)
    (hfound : application_template_tag_user_commit_from_host dep.templates public_host = .ok found)
    (htemplate : v.visualisation_template = some found.application_template.id)
    (htype : found.application_template.application_type = .VISUALISATION)
    (hvisible : found.application_template.visible = true) (hcommit : found.commit_id = none)
    (others : (o : Op) → Ans o) :
    LetsOpen table user dep public_host others ↔
      v.isOpen = true ∨ user.id ∈ v.user_permissions := by
  have hitem : table.rows.find? (fun v => v.visualisation_template ==
      some found.application_template.id) = some v := by
    cases hf : table.rows.find? fun v => v.visualisation_template ==
        some found.application_template.id with
    | none =>
        have hnone := List.find?_eq_none.mp hf v hv
        simp [htemplate] at hnone
    | some v' =>
        have hv' : v'.visualisation_template = some found.application_template.id := by
          simpa using List.find?_some hf
        rw [table.one_to_one v hv v' (List.mem_of_find?_eq_some hf) (by simp [htemplate])
          (htemplate.trans hv'.symm)]
  have hpermission : (table.rows.any fun v' => v'.id == v.id &&
      v'.user_permissions.contains user.id) = v.user_permissions.contains user.id := by
    rw [Bool.eq_iff_iff, List.any_eq_true]
    constructor
    · rintro ⟨v', hv', h⟩
      simp only [Bool.and_eq_true, beq_iff_eq] at h
      obtain rfl : v' = v := List.inj_on_of_nodup_map table.unique hv' hv h.1
      exact h.2
    · exact fun h => ⟨v, hv, by simpa using h⟩
  have hcatalogue : (visualisation_catalogue_item found.application_template).run
      (answers table others) () = (.ok (some v.item), ()) := by
    have hanswer : answers table others (.external (.catalogue_item found.application_template)) () =
        (some v.item, ()) := by
      simp only [answers, hitem]
      rfl
    rw [visualisation_catalogue_item, if_pos htype]
    exact run_call_some hanswer
  have htool : is_tool_and_correct_user_and_allowed_to_start dep user found = .pure false := by
    refine if_neg ?_
    rintro ⟨h, -⟩
    rw [htype] at h
    cases h
  have hpreview : is_visualisation_preview_and_has_gitlab_developer user found (some v.item) =
      .pure false := by
    refine if_neg ?_
    simp [hcommit]
  have hopened : is_published_visualisation_and_requires_authentication found (some v.item) =
      .pure v.isOpen := by
    simp [is_published_visualisation_and_requires_authentication, hcommit, hvisible,
      VisualisationCatalogueItem.isOpen, VisualisationCatalogueItem.item]
  unfold LetsOpen application_api_is_allowed
  rw [hfound]
  show ((visualisation_catalogue_item found.application_template >>= fun item => _).run _ _).1 = _ ↔ _
  rw [Prog.run_bind, hcatalogue]
  show ((orElse _ _).run _ _).1 = _ ↔ _
  rw [htool, hopened, hpreview, run_orElse (b := false) rfl, run_orElse (b := v.isOpen) rfl]
  cases hopen : v.isOpen with
  | true => exact ⟨fun _ => .inl rfl, fun _ => rfl⟩
  | false =>
      have hauth : v.user_access_type = .REQUIRES_AUTHORIZATION := by
        by_contra hne
        rw [item_isOpen_iff.mpr hne] at hopen
        cases hopen
      have hrule : is_published_visualisation_and_requires_authorisation_and_has_authorisation user
          found (some v.item) = call (.visualisation_permission user v.item) :=
        if_pos ⟨hcommit, hvisible, hauth⟩
      have hanswer : answers table others (.external (.visualisation_permission user v.item)) () =
          (some (v.user_permissions.contains user.id), ()) := by
        rw [← hpermission]
        rfl
      rw [hrule, run_orElse (run_call hanswer)]
      cases hb : v.user_permissions.contains user.id with
      | true => exact ⟨fun _ => .inr (by simpa using hb), fun _ => rfl⟩
      | false =>
          have hnot : user.id ∉ v.user_permissions := by simpa using hb
          simp [Prog.run, hnot]

/-! ## When they agree -/

/-- For a visible visualisation with a catalogue item the three decisions agree exactly when
an item that lets the user in is shown to him, and he has a permission or it is open and
nobody has one. -/
theorem visualisation_decisions_agree_iff (hv : v ∈ table.rows) {manages : Bool}
    (hfound : application_template_tag_user_commit_from_host dep.templates public_host = .ok found)
    (htemplate : v.visualisation_template = some found.application_template.id)
    (htype : found.application_template.application_type = .VISUALISATION)
    (hvisible : found.application_template.visible = true) (hcommit : found.commit_id = none)
    (others : (o : Op) → Ans o) :
    VisualisationDecisionsAgree table user v manages dep public_host others ↔
      (ItemDue user v → ItemPlain user v manages) := by
  have hopened : LetsOpen table user dep public_host others ↔ _ :=
    letsOpen_iff hv hfound htemplate htype hvisible hcommit others
  constructor
  · intro h hdue
    let q : VisualisationSearch := ⟨user, manages, fun _ => true⟩
    have hmarked := h.marked q rfl rfl rfl
    rw [itemIsMarked_iff hv rfl] at hmarked
    have hdomain : (user_email_domain user).isSome = true := by
      rcases hdue with hopen | hpermission | ⟨domain, hdomain, -⟩
      · exact (itemHasAccess_iff.mp (h.opened.mp (hopened.mpr (.inl hopen)))).1
      · exact (itemHasAccess_iff.mp (h.opened.mp (hopened.mpr (.inr hpermission)))).1
      · exact Option.isSome_of_mem hdomain
    obtain ⟨hdeleted, hshown, hpermission⟩ := hmarked.mpr (itemHasAccess_iff.mpr ⟨hdomain, hdue⟩)
    exact ⟨hdomain, hdeleted, hshown, hpermission⟩
  · intro h
    have hrule : (v.isOpen = true ∨ user.id ∈ v.user_permissions) ↔ ItemHasAccess user v := by
      rw [itemHasAccess_iff]
      constructor
      · intro hr
        have hdue : ItemDue user v := hr.imp_right .inl
        exact ⟨(h hdue).domain, hdue⟩
      · rintro ⟨-, hdue⟩
        rcases (h hdue).permission with hpermission | hopen
        · exact .inr hpermission
        · exact .inl hopen.1
    refine ⟨fun q hq hmanages hmatching => ?_, hopened.trans hrule⟩
    rw [itemIsMarked_iff hv hmatching, ← hrule, hq, hmanages]
    constructor
    · rintro ⟨-, -, hpermission | hopen⟩
      · exact .inr hpermission
      · exact .inl hopen.1
    · intro hr
      have hplain := h (hr.imp_right .inl)
      exact ⟨hplain.deleted, hplain.visible, hplain.permission⟩

end

/-! ## A user with an email domain -/

namespace Dash

def item (domains : List Str) (user_permissions : List Nat) : VisualisationCatalogueItem where
  id := "v"
  name := "Dash"
  visualisation_template := some "1"
  user_access_type := .REQUIRES_AUTHORIZATION
  authorized_email_domains := domains
  deleted := false
  published := true
  user_permissions := user_permissions

def table (domains : List Str) (user_permissions : List Nat) : ItemTable where
  rows := [item domains user_permissions]
  unique := List.nodup_singleton _
  one_to_one := by
    intro v hv v' hv' _ _
    rw [List.mem_singleton.mp hv, List.mem_singleton.mp hv']

theorem mem_table (domains : List Str) (user_permissions : List Nat) :
    item domains user_permissions ∈ (table domains user_permissions).rows :=
  List.mem_singleton_self _

def dep : Deployment := { Small.dep with templates := dashTable }

/-- Everything else answers with nothing. -/
def others : (o : Op) → Ans o
  | .get_instance _ => .error .DoesNotExist
  | .old_instances => []
  | .create_instance _ => none
  | .save_instance _ _ => none
  | .create_db_user _ => ()
  | .in_use_usenames _ _ => []
  | .db_persistent_roles _ _ => []
  | .delay _ => ()
  | .receive => .stop .FARGATE []
  | .run_task _ _ => .error .other
  | .stop_task _ _ => ()
  | .external _ => none
  | .postgres_user _ => []
  | .core (.team_schema_names _) => []
  | .core .postgres_password => []
  | .core (.query _ _) => []
  | .core (.ensure_db_role _ _) => ()
  | .core (.execute _ _) => none
  | .core (.acquire _) => none
  | .core .release => ()
  | .core (.create_database_user _ _) => ()
  | .acquire _ => none
  | .release _ => ()
  | .usenames _ => []
  | .drop _ _ => none

/-- A user of the domain. -/
def user : User := ⟨1, "ann@trade.gov.uk", false⟩

theorem found_dash : application_template_tag_user_commit_from_host dep.templates "dash" =
    .ok ⟨dash, some "dash", none, none⟩ := by
  rfl

end Dash

open Dash in
theorem visualisation_decisions_agree_with_permission :
    VisualisationDecisionsAgree (table ["trade.gov.uk"] [1]) user (item ["trade.gov.uk"] [1]) false
      dep "dash" others := by
  refine (visualisation_decisions_agree_iff (mem_table _ _) found_dash rfl rfl rfl rfl
    others).mpr fun _ => ?_
  exact ⟨by decide, rfl, .inl rfl, .inl (List.mem_singleton_self _)⟩

open Dash in
/-- A user whose email domain is authorised has access, and may not open the host. -/
theorem visualisation_decisions_differ_for_domain :
    application_template_tag_user_commit_from_host dep.templates "dash" =
        .ok ⟨dash, some "dash", none, none⟩ ∧
      item ["trade.gov.uk"] [] ∈ (table ["trade.gov.uk"] []).rows ∧
      ¬ VisualisationDecisionsAgree (table ["trade.gov.uk"] []) user (item ["trade.gov.uk"] [])
        false dep "dash" others := by
  refine ⟨found_dash, mem_table _ _, fun h => ?_⟩
  have haccess : ItemHasAccess user (item ["trade.gov.uk"] []) := by
    show _ = _
    decide
  have hopened : LetsOpen (table ["trade.gov.uk"] []) user dep "dash" others :=
    h.opened.mpr haccess
  have hopen : (item ["trade.gov.uk"] []).isOpen = true ∨
      user.id ∈ (item ["trade.gov.uk"] []).user_permissions :=
    (letsOpen_iff (mem_table _ _) found_dash rfl rfl rfl rfl others).mp hopened
  revert hopen
  decide

end Datasets
