import DataWorkspace.Datasets.Downloads
import DataWorkspace.Sql.Rows

/-!
# The permissions on the admin forms of users and visualisations

The form of a user lists the master datasets, the data cuts and the visualisations that may
be given to the user, and the form of a visualisation template the master datasets.  What is
selected is posted.  The save compares it with the permissions that there are, grants what is
new and revokes what is no longer selected.

The forms only list datasets that require authorization, and visualisations that are not
deleted.  The saves look at more: at every permission on a dataset that is not deleted, and
at every permission on a visualisation.  `save_right_iff` says when nothing is lost.
-/

namespace PermissionForms

open Py Sql Datasets

/-! ## Rows -/

/-- A dataset, with what the forms read of it. -/
structure DataSet where
  id : Str
  type : DataSetType
  user_access_type : UserAccessType
  deleted : Bool
deriving DecidableEq

/-- A `VisualisationCatalogueItem`, with what the forms read of it. -/
structure Visualisation where
  id : Str
  deleted : Bool
deriving DecidableEq

/-- The permissions of the applications, which have checkboxes. -/
inductive Codename where
  | start_all_applications
  | develop_visualisations
  | access_appstream
  | access_quicksight
deriving DecidableEq

/-- The permissions of the applications in the order of the code. -/
def Codename.all : List Codename :=
  [.start_all_applications, .develop_visualisations, .access_appstream, .access_quicksight]

/-- What a save logs and sets off. -/
inductive Event where
  | GRANTED_USER_PERMISSION (permission : Codename)
  | REVOKED_USER_PERMISSION (permission : Codename)
  | GRANTED_DATASET_PERMISSION (dataset : DataSet)
  | REVOKED_DATASET_PERMISSION (dataset : DataSet)
  | GRANTED_VISUALISATION_PERMISSION (visualisation : Visualisation)
  | REVOKED_VISUALISATION_PERMISSION (visualisation : Visualisation)
  /-- `clear_schema_info_cache_for_user` and `remove_data_explorer_user_cached_credentials`. -/
  | caches_cleared
  /-- `sync_quicksight_permissions.delay`. -/
  | quicksight_sync
deriving DecidableEq

structure World where
  user_permissions : Nat → List Codename
  dataset_permissions : Rows (Nat × DataSet)
  visualisation_permissions : Rows (Nat × Visualisation)
  template_permissions : Rows (Nat × DataSet)
  /-- The names of catalogue items by the templates they are of. -/
  item_names : Nat → Option Str
  log : List Event

section

variable {κ : Type} [DecidableEq κ]

def heldBy (t : Rows (Nat × κ)) (holder : Nat) : List κ :=
  ((t.items.items.map Prod.snd).filter fun r => r.1 = holder).map Prod.snd

end

/-! ## The forms -/

/-- A queryset of a form: the datasets of a type that require authorization. -/
def offered (type : DataSetType) (d : DataSet) : Bool :=
  d.type = type && !d.deleted && d.user_access_type = .REQUIRES_AUTHORIZATION

/-- `DataSet.objects.live().filter(…)`: the datasets with rows of a holder. -/
def liveHeldBy (t : Rows (Nat × DataSet)) (holder : Nat) : List DataSet :=
  (heldBy t holder).filter fun d => !d.deleted

/-- The `initial` of a field of datasets. -/
def initialDatasets (t : Rows (Nat × DataSet)) (holder : Nat) (type : DataSetType) :
    List DataSet :=
  (liveHeldBy t holder).filter fun d => d.type = type

/-- The options of a field that are selected when the form is shown. -/
def shownDatasets (t : Rows (Nat × DataSet)) (holder : Nat) (type : DataSetType) :
    List DataSet :=
  (initialDatasets t holder type).filter (offered type)

/-- `cleaned_data` of `AppUserEditForm`: what is posted is among the options. -/
structure UserPost where
  permission : Codename → Bool
  master_datasets : List DataSet
  data_cut_datasets : List DataSet
  visualisations : List Visualisation
  masters_offered : ∀ d ∈ master_datasets, offered .MASTER d = true
  cuts_offered : ∀ d ∈ data_cut_datasets, offered .DATACUT d = true
  visualisations_live : ∀ v ∈ visualisations, v.deleted = false

theorem offered_of_mem_shown {t : Rows (Nat × DataSet)} {holder : Nat} {type : DataSetType} :
    ∀ d ∈ shownDatasets t holder type, offered type d = true :=
  fun _ hd => (List.mem_filter.mp hd).2

/-- What is posted when nothing on the form was changed. -/
def UserPost.unchanged (w : World) (user : Nat) : UserPost where
  permission c := (w.user_permissions user).contains c
  master_datasets := shownDatasets w.dataset_permissions user .MASTER
  data_cut_datasets := shownDatasets w.dataset_permissions user .DATACUT
  visualisations :=
    (heldBy w.visualisation_permissions user).filter fun v => !v.deleted
  masters_offered := offered_of_mem_shown
  cuts_offered := offered_of_mem_shown
  visualisations_live v hv := by simpa using (List.mem_filter.mp hv).2

/-! ## `AppUserAdmin.save_model` -/

def World.logged (w : World) (e : Event) : World := { w with log := w.log ++ [e] }

/-- Give or take the permission of a checkbox. -/
def savePermission (user : Nat) (post : UserPost) (w : World) (c : Codename) : World :=
  if post.permission c ∧ ¬ (w.user_permissions user).contains c then
    World.logged { w with
      user_permissions := Function.update w.user_permissions user
        (w.user_permissions user ++ [c]) } (.GRANTED_USER_PERMISSION c)
  else if ¬ post.permission c ∧ (w.user_permissions user).contains c then
    World.logged { w with
      user_permissions := Function.update w.user_permissions user
        ((w.user_permissions user).filter fun c' => c' ≠ c) } (.REVOKED_USER_PERMISSION c)
  else w

def grantDataset (user : Nat) (w : World) (d : DataSet) : World :=
  World.logged { w with dataset_permissions := w.dataset_permissions.insert (user, d) }
    (.GRANTED_DATASET_PERMISSION d)

def revokeDataset (user : Nat) (w : World) (d : DataSet) : World :=
  World.logged { w with
    dataset_permissions := w.dataset_permissions.delete fun r => r = (user, d) }
    (.REVOKED_DATASET_PERMISSION d)

/-- The datasets of the first set that are not in the second one. -/
def setDiff (a b : List DataSet) : List DataSet := a.dedup.filter fun d => d ∉ b

/-- `authorized_datasets - current_datasets`. -/
def grantedDatasets (user : Nat) (post : UserPost) (w : World) : List DataSet :=
  setDiff (post.master_datasets ++ post.data_cut_datasets) (liveHeldBy w.dataset_permissions user)

/-- `current_datasets - authorized_datasets`. -/
def revokedDatasets (user : Nat) (post : UserPost) (w : World) : List DataSet :=
  setDiff (liveHeldBy w.dataset_permissions user) (post.master_datasets ++ post.data_cut_datasets)

/-- The part of `save_model` about datasets. -/
def saveDatasets (user : Nat) (post : UserPost) (w : World) : World :=
  let saved := (revokedDatasets user post w).foldl (revokeDataset user)
    ((grantedDatasets user post w).foldl (grantDataset user) w)
  if (grantedDatasets user post w ++ revokedDatasets user post w).isEmpty then saved
  else saved.logged .caches_cleared

/-- `update_quicksight_permissions`. -/
def updatesQuicksight (user : Nat) (post : UserPost) (w : World) : Bool :=
  (grantedDatasets user post w ++ revokedDatasets user post w).any fun d => d.type = .MASTER

/-- Grant a visualisation that is selected, unless the user has it. -/
def grantVisualisation (user : Nat) (w : World) (v : Visualisation) : World :=
  if v ∈ heldBy w.visualisation_permissions user then w
  else World.logged { w with
    visualisation_permissions := w.visualisation_permissions.insert (user, v) }
    (.GRANTED_VISUALISATION_PERMISSION v)

/-- Revoke a visualisation that the user has, unless it is selected. -/
def revokeVisualisation (user : Nat) (post : UserPost) (w : World) (v : Visualisation) : World :=
  if v ∈ post.visualisations then w
  else World.logged { w with
    visualisation_permissions := w.visualisation_permissions.delete fun r => r = (user, v) }
    (.REVOKED_VISUALISATION_PERMISSION v)

/-- The part of `save_model` about visualisations, which looks at the deleted ones too. -/
def saveVisualisations (user : Nat) (post : UserPost) (w : World) : World :=
  let w := post.visualisations.foldl (grantVisualisation user) w
  (heldBy w.visualisation_permissions user).foldl (revokeVisualisation user post) w

/-- The part of `save_model` about the checkboxes. -/
def savePermissions (user : Nat) (post : UserPost) (w : World) : World :=
  Codename.all.foldl (savePermission user post) w

/-- `AppUserAdmin.save_model`. -/
def saveUser (user : Nat) (post : UserPost) (w : World) : World :=
  let permitted := savePermissions user post w
  let saved := saveVisualisations user post (saveDatasets user post permitted)
  if updatesQuicksight user post permitted then saved.logged .quicksight_sync else saved

/-! ## `VisualisationTemplateAdmin.save_model` -/

/-- A template that is saved, with the name it has on the form. -/
structure Template where
  pk : Nat
  nice_name : Str

/-- `cleaned_data` of `VisualisationTemplateEditForm`. -/
structure TemplatePost where
  master_datasets : List DataSet
  masters_offered : ∀ d ∈ master_datasets, offered .MASTER d = true

/-- What is posted when nothing on the form was changed. -/
def TemplatePost.unchanged (w : World) (template : Template) : TemplatePost where
  master_datasets := shownDatasets w.template_permissions template.pk .MASTER
  masters_offered := offered_of_mem_shown

def grantToTemplate (template : Template) (w : World) (d : DataSet) : World :=
  World.logged { w with
    template_permissions := w.template_permissions.insert (template.pk, d) }
    (.GRANTED_DATASET_PERMISSION d)

def revokeFromTemplate (template : Template) (w : World) (d : DataSet) : World :=
  World.logged { w with
    template_permissions := w.template_permissions.delete fun r => r = (template.pk, d) }
    (.REVOKED_DATASET_PERMISSION d)

/-- `VisualisationTemplateAdmin.save_model`. -/
def saveTemplate (template : Template) (post : TemplatePost) (w : World) : World :=
  let current_master_datasets := liveHeldBy w.template_permissions template.pk
  let w := (setDiff post.master_datasets current_master_datasets).foldl
    (grantToTemplate template) w
  let w := (setDiff current_master_datasets post.master_datasets).foldl
    (revokeFromTemplate template) w
  -- `update_or_create`
  { w with item_names := Function.update w.item_names template.pk (some template.nice_name) }

/-! ## What a save may change -/

/-- The groups of permissions on the form of a user. -/
inductive Group where
  | applications
  | master_datasets
  | data_cut_datasets
  | visualisations

/-- Two posts select the same in a group. -/
def UserPost.Agree (p p' : UserPost) : Group → Prop
  | .applications => p.permission = p'.permission
  | .master_datasets => ∀ d, d ∈ p.master_datasets ↔ d ∈ p'.master_datasets
  | .data_cut_datasets => ∀ d, d ∈ p.data_cut_datasets ↔ d ∈ p'.data_cut_datasets
  | .visualisations => ∀ v, v ∈ p.visualisations ↔ v ∈ p'.visualisations

/-- The rows of a group are the same, with their primary keys. -/
def World.SameRows (w w' : World) : Group → Prop
  | .applications => w.user_permissions = w'.user_permissions
  | .master_datasets =>
      w.dataset_permissions.those (fun r => r.2.type = .MASTER) =
        w'.dataset_permissions.those fun r => r.2.type = .MASTER
  | .data_cut_datasets =>
      w.dataset_permissions.those (fun r => r.2.type = .DATACUT) =
        w'.dataset_permissions.those fun r => r.2.type = .DATACUT
  | .visualisations => w.visualisation_permissions = w'.visualisation_permissions

/-- What a save of a user is to do: nothing, when nothing was changed, and else nothing to
the groups that were not changed. -/
structure UserSaveRight (user : Nat) (w : World) : Prop where
  unchanged : saveUser user (.unchanged w user) w = w
  others : ∀ (post : UserPost) (g : Group), post.Agree (.unchanged w user) g →
    (saveUser user post w).SameRows w g

/-- What a save of a template is to do: when nothing was changed, the permissions and the
name of its catalogue item stay, and else the permissions on what is no master dataset. -/
structure TemplateSaveRight (template : Template) (w : World) : Prop where
  unchanged : (saveTemplate template (.unchanged w template) w).template_permissions =
    w.template_permissions
  unlogged : (saveTemplate template (.unchanged w template) w).log = w.log
  named : ∀ name, w.item_names template.pk = some name →
    (saveTemplate template (.unchanged w template) w).item_names template.pk = some name
  others : ∀ post : TemplatePost,
    (saveTemplate template post w).template_permissions.those (fun r => r.2.type ≠ .MASTER) =
      w.template_permissions.those fun r => r.2.type ≠ .MASTER

/-! ## Loops -/

section

variable {α : Type} {f : World → α → World}

theorem foldl_eq_self {w : World} : ∀ {l : List α}, (∀ a ∈ l, f w a = w) → l.foldl f w = w
  | [], _ => rfl
  | a :: l, h => by
      rw [List.foldl_cons, h a List.mem_cons_self]
      exact foldl_eq_self fun b hb => h b (List.mem_cons_of_mem _ hb)

theorem foldl_keeps {β : Type} {g : World → β} : ∀ {l : List α} {w : World},
    (∀ a ∈ l, ∀ w, g (f w a) = g w) → g (l.foldl f w) = g w
  | [], _, _ => rfl
  | a :: l, w, h => by
      rw [List.foldl_cons, foldl_keeps fun b hb => h b (List.mem_cons_of_mem _ hb)]
      exact h a List.mem_cons_self w

theorem length_log_foldl {p : α → Bool}
    (h : ∀ w a, (f w a).log.length = w.log.length + if p a then 1 else 0) :
    ∀ (l : List α) (w : World), (l.foldl f w).log.length = w.log.length + l.countP p
  | [], w => by simp
  | a :: l, w => by
      rw [List.foldl_cons, length_log_foldl h l, h, List.countP_cons]
      omega

end

theorem length_log_logged (w : World) (e : Event) :
    (w.logged e).log.length = w.log.length + 1 := by
  simp [World.logged]

theorem mem_setDiff {a b : List DataSet} {d : DataSet} : d ∈ setDiff a b ↔ d ∈ a ∧ d ∉ b := by
  simp [setDiff]

theorem setDiff_eq_nil {a b : List DataSet} : setDiff a b = [] ↔ ∀ d ∈ a, d ∈ b := by
  simp [List.eq_nil_iff_forall_not_mem, mem_setDiff]

theorem mem_shownDatasets {t : Rows (Nat × DataSet)} {holder : Nat} {type : DataSetType}
    {d : DataSet} :
    d ∈ shownDatasets t holder type ↔ d ∈ liveHeldBy t holder ∧ offered type d = true := by
  simp only [shownDatasets, initialDatasets, List.mem_filter, decide_eq_true_eq, and_assoc]
  constructor
  · rintro ⟨h, -, ho⟩
    exact ⟨h, ho⟩
  · rintro ⟨h, ho⟩
    refine ⟨h, ?_, ho⟩
    simp only [offered, Bool.and_eq_true, decide_eq_true_eq] at ho
    exact ho.1.1

theorem type_of_offered {type : DataSetType} {d : DataSet} (h : offered type d = true) :
    d.type = type := by
  simp only [offered, Bool.and_eq_true, decide_eq_true_eq] at h
  exact h.1.1

/-! ## The save of a user -/

section

variable {user : Nat} {post : UserPost} {w : World}

theorem keeps_savePermission {β : Type} {g : World → β}
    (hlog : ∀ w e, g (World.logged w e) = g w)
    (hperm : ∀ (w : World) perms, g { w with user_permissions := perms } = g w)
    (w : World) (c : Codename) : g (savePermission user post w c) = g w := by
  unfold savePermission
  split
  · rw [hlog, hperm]
  · split
    · rw [hlog, hperm]
    · rfl

theorem dataset_permissions_savePermissions :
    (savePermissions user post w).dataset_permissions = w.dataset_permissions :=
  foldl_keeps (β := Rows (Nat × DataSet)) fun c _ w =>
    keeps_savePermission (fun _ _ => rfl) (fun _ _ => rfl) w c

theorem visualisation_permissions_savePermissions :
    (savePermissions user post w).visualisation_permissions = w.visualisation_permissions :=
  foldl_keeps (β := Rows (Nat × Visualisation)) fun c _ w =>
    keeps_savePermission (fun _ _ => rfl) (fun _ _ => rfl) w c

theorem savePermissions_eq_self
    (h : ∀ c, post.permission c = (w.user_permissions user).contains c) :
    savePermissions user post w = w := by
  refine foldl_eq_self fun c _ => ?_
  unfold savePermission
  rw [h]
  cases (w.user_permissions user).contains c <;> simp

theorem keeps_saveDatasets {β : Type} {g : World → β}
    (hlog : ∀ w e, g (World.logged w e) = g w)
    (hgrant : ∀ d ∈ grantedDatasets user post w, ∀ w', g (grantDataset user w' d) = g w')
    (hrevoke : ∀ d ∈ revokedDatasets user post w, ∀ w', g (revokeDataset user w' d) = g w') :
    g (saveDatasets user post w) = g w := by
  have hsaved : g ((revokedDatasets user post w).foldl (revokeDataset user)
      ((grantedDatasets user post w).foldl (grantDataset user) w)) = g w := by
    rw [foldl_keeps hrevoke, foldl_keeps hgrant]
  simp only [saveDatasets]
  split
  · exact hsaved
  · rw [hlog, hsaved]

theorem keeps_saveVisualisations {β : Type} {g : World → β}
    (hlog : ∀ w e, g (World.logged w e) = g w)
    (hrows : ∀ (w : World) rows, g { w with visualisation_permissions := rows } = g w)
    (w : World) : g (saveVisualisations user post w) = g w := by
  have hgrant : ∀ w' v, g (grantVisualisation user w' v) = g w' := by
    intro w' v
    unfold grantVisualisation
    split
    · rfl
    · rw [hlog, hrows]
  have hrevoke : ∀ w' v, g (revokeVisualisation user post w' v) = g w' := by
    intro w' v
    unfold revokeVisualisation
    split
    · rfl
    · rw [hlog, hrows]
  rw [saveVisualisations, foldl_keeps fun v _ w' => hrevoke w' v,
    foldl_keeps fun v _ w' => hgrant w' v]

theorem saveVisualisations_eq_self
    (h : ∀ v, v ∈ post.visualisations ↔ v ∈ heldBy w.visualisation_permissions user) :
    saveVisualisations user post w = w := by
  have hgrant : post.visualisations.foldl (grantVisualisation user) w = w :=
    foldl_eq_self fun v hv => if_pos ((h v).mp hv)
  rw [saveVisualisations, hgrant]
  exact foldl_eq_self fun v hv => if_pos ((h v).mpr hv)

theorem saveDatasets_eq_self (hgrant : grantedDatasets user post w = [])
    (hrevoke : revokedDatasets user post w = []) : saveDatasets user post w = w := by
  simp [saveDatasets, hgrant, hrevoke]

theorem keeps_saveUser {β : Type} {g : World → β}
    (hlog : ∀ w e, g (World.logged w e) = g w) :
    g (saveUser user post w) =
      g (saveVisualisations user post (saveDatasets user post (savePermissions user post w))) := by
  simp only [saveUser]
  split
  · rw [hlog]
  · rfl

end

/-! ## Saving a user unchanged -/

section

variable {user : Nat} {w : World}

theorem granted_unchanged : grantedDatasets user (.unchanged w user) w = [] := by
  refine setDiff_eq_nil.mpr fun d hd => ?_
  rcases List.mem_append.mp hd with hd | hd
  · exact (mem_shownDatasets.mp hd).1
  · exact (mem_shownDatasets.mp hd).1

theorem revoked_unchanged : revokedDatasets user (.unchanged w user) w = [] ↔
    ∀ d ∈ liveHeldBy w.dataset_permissions user,
      offered .MASTER d = true ∨ offered .DATACUT d = true := by
  rw [revokedDatasets, setDiff_eq_nil]
  refine forall₂_congr fun d hd => ?_
  simp only [UserPost.unchanged, List.mem_append, mem_shownDatasets, hd, true_and]

theorem saveUser_unchanged
    (hd : ∀ d ∈ liveHeldBy w.dataset_permissions user,
      offered .MASTER d = true ∨ offered .DATACUT d = true)
    (hv : ∀ v ∈ heldBy w.visualisation_permissions user, v.deleted = false) :
    saveUser user (.unchanged w user) w = w := by
  have hperm : savePermissions user (.unchanged w user) w = w :=
    savePermissions_eq_self fun _ => rfl
  have hvis : saveVisualisations user (.unchanged w user) w = w := by
    refine saveVisualisations_eq_self fun v => ?_
    simp only [UserPost.unchanged, List.mem_filter, Bool.not_eq_true']
    exact ⟨fun h => h.1, fun h => ⟨h, hv v h⟩⟩
  simp only [saveUser, hperm, saveDatasets_eq_self granted_unchanged (revoked_unchanged.mpr hd),
    hvis, updatesQuicksight, granted_unchanged, revoked_unchanged.mpr hd]
  rfl

variable (user w) in
theorem length_log_saveDatasets (post : UserPost) :
    w.log.length + (revokedDatasets user post w).length ≤
      (saveDatasets user post w).log.length := by
  have hgrant := length_log_foldl (f := grantDataset user) (p := fun _ => true)
    (fun w _ => length_log_logged _ _) (grantedDatasets user post w) w
  have hrevoke := length_log_foldl (f := revokeDataset user) (p := fun _ => true)
    (fun w _ => length_log_logged _ _) (revokedDatasets user post w)
    ((grantedDatasets user post w).foldl (grantDataset user) w)
  rw [List.countP_true] at hgrant hrevoke
  simp only [saveDatasets]
  split
  · omega
  · rw [length_log_logged]
    omega

theorem length_log_saveVisualisations {post : UserPost}
    (h : ∀ v ∈ post.visualisations, v ∈ heldBy w.visualisation_permissions user) :
    (saveVisualisations user post w).log.length = w.log.length +
      (heldBy w.visualisation_permissions user).countP fun v => v ∉ post.visualisations := by
  have hgrant : post.visualisations.foldl (grantVisualisation user) w = w :=
    foldl_eq_self fun v hv => if_pos (h v hv)
  rw [saveVisualisations, hgrant]
  refine length_log_foldl (fun w v => ?_) _ w
  by_cases hv : v ∈ post.visualisations
  · simp [revokeVisualisation, hv]
  · simp [revokeVisualisation, hv, length_log_logged]

theorem held_of_unchanged (h : saveUser user (.unchanged w user) w = w) :
    (∀ d ∈ liveHeldBy w.dataset_permissions user,
      offered .MASTER d = true ∨ offered .DATACUT d = true) ∧
    ∀ v ∈ heldBy w.visualisation_permissions user, v.deleted = false := by
  have hperm : savePermissions user (.unchanged w user) w = w :=
    savePermissions_eq_self fun _ => rfl
  have hrows : (saveDatasets user (.unchanged w user) w).visualisation_permissions =
      w.visualisation_permissions :=
    keeps_saveDatasets (g := World.visualisation_permissions) (fun _ _ => rfl)
      (fun _ _ _ => rfl) fun _ _ _ => rfl
  have hshown : ∀ v ∈ (UserPost.unchanged w user).visualisations,
      v ∈ heldBy (saveDatasets user (.unchanged w user) w).visualisation_permissions user := by
    rw [hrows]
    exact fun v hv => (List.mem_filter.mp hv).1
  have hdatasets := length_log_saveDatasets user w (.unchanged w user)
  have hvis := length_log_saveVisualisations hshown
  rw [hrows] at hvis
  have hlen := congrArg (fun w => w.log.length) h
  simp only [saveUser, hperm] at hlen
  have hle : (saveVisualisations user (.unchanged w user)
      (saveDatasets user (.unchanged w user) w)).log.length ≤ w.log.length := by
    rw [← hlen]
    split
    · rw [length_log_logged]
      exact Nat.le_succ _
    · exact Nat.le_refl _
  constructor
  · refine revoked_unchanged.mp (List.length_eq_zero_iff.mp ?_)
    omega
  · intro v hv
    have hzero : (heldBy w.visualisation_permissions user).countP
        (fun v => v ∉ (UserPost.unchanged w user).visualisations) = 0 := by omega
    have hmem := List.countP_eq_zero.mp hzero v hv
    simp only [decide_not, Bool.not_eq_true', decide_eq_false_iff_not, not_not] at hmem
    exact (UserPost.unchanged w user).visualisations_live v hmem

/-! ## Groups that were not changed -/

theorem those_saveDatasets {post : UserPost} {type : DataSetType}
    (hd : ∀ d ∈ liveHeldBy w.dataset_permissions user, d.type = type → offered type d = true)
    (hpost : ∀ d, d ∈ post.master_datasets ++ post.data_cut_datasets → d.type = type →
      d ∈ shownDatasets w.dataset_permissions user type)
    (hshown : ∀ d ∈ shownDatasets w.dataset_permissions user type,
      d ∈ post.master_datasets ++ post.data_cut_datasets) :
    (saveDatasets user post w).dataset_permissions.those (fun r => r.2.type = type) =
      w.dataset_permissions.those fun r => r.2.type = type := by
  refine keeps_saveDatasets (g := fun w => w.dataset_permissions.those fun r => r.2.type = type)
    (fun _ _ => rfl) (fun d hmem w' => ?_) fun d hmem w' => ?_
  · obtain ⟨hposted, hnot⟩ := mem_setDiff.mp hmem
    refine Rows.those_insert (decide_eq_false fun ht => hnot ?_)
    exact (mem_shownDatasets.mp (hpost d hposted ht)).1
  · obtain ⟨hheld, hnot⟩ := mem_setDiff.mp hmem
    have hne : ¬ d.type = type := fun ht =>
      hnot (hshown d (mem_shownDatasets.mpr ⟨hheld, hd d hheld ht⟩))
    refine Rows.those_delete (p := fun r => r = (user, d)) fun r hr => ?_
    rw [of_decide_eq_true hr]
    exact decide_eq_false hne

theorem dataset_permissions_saveUser {post : UserPost} :
    (saveUser user post w).dataset_permissions =
      (saveDatasets user post (savePermissions user post w)).dataset_permissions := by
  rw [keeps_saveUser (g := World.dataset_permissions) fun _ _ => rfl]
  exact keeps_saveVisualisations (g := World.dataset_permissions) (fun _ _ => rfl)
    (fun _ _ => rfl) _

theorem visualisation_permissions_saveDatasets {post : UserPost} :
    (saveDatasets user post (savePermissions user post w)).visualisation_permissions =
      w.visualisation_permissions := by
  rw [keeps_saveDatasets (g := World.visualisation_permissions) (fun _ _ => rfl)
    (fun _ _ _ => rfl) fun _ _ _ => rfl]
  exact visualisation_permissions_savePermissions

theorem sameRows_saveUser
    (hd : ∀ d ∈ liveHeldBy w.dataset_permissions user,
      offered .MASTER d = true ∨ offered .DATACUT d = true)
    (hv : ∀ v ∈ heldBy w.visualisation_permissions user, v.deleted = false)
    (post : UserPost) (g : Group) (hg : post.Agree (.unchanged w user) g) :
    (saveUser user post w).SameRows w g := by
  have hdatasets : (savePermissions user post w).dataset_permissions = w.dataset_permissions :=
    dataset_permissions_savePermissions
  cases g with
  | applications =>
      have hperm : savePermissions user post w = w :=
        savePermissions_eq_self fun c => congrFun hg c
      simp only [World.SameRows]
      rw [keeps_saveUser (g := World.user_permissions) fun _ _ => rfl,
        keeps_saveVisualisations (g := World.user_permissions) (fun _ _ => rfl) fun _ _ => rfl,
        keeps_saveDatasets (g := World.user_permissions) (fun _ _ => rfl) (fun _ _ _ => rfl)
          fun _ _ _ => rfl, hperm]
  | master_datasets =>
      simp only [World.SameRows]
      rw [dataset_permissions_saveUser, those_saveDatasets, hdatasets]
      · rw [hdatasets]
        intro d hmem ht
        rcases hd d hmem with h | h
        · exact h
        · exact absurd (ht.symm.trans (type_of_offered h)) nofun
      · rw [hdatasets]
        intro d hmem ht
        rcases List.mem_append.mp hmem with hmem | hmem
        · exact (hg d).mp hmem
        · exact absurd (ht.symm.trans (type_of_offered (post.cuts_offered d hmem))) nofun
      · rw [hdatasets]
        exact fun d hmem => List.mem_append_left _ ((hg d).mpr hmem)
  | data_cut_datasets =>
      simp only [World.SameRows]
      rw [dataset_permissions_saveUser, those_saveDatasets, hdatasets]
      · rw [hdatasets]
        intro d hmem ht
        rcases hd d hmem with h | h
        · exact absurd (ht.symm.trans (type_of_offered h)) nofun
        · exact h
      · rw [hdatasets]
        intro d hmem ht
        rcases List.mem_append.mp hmem with hmem | hmem
        · exact absurd (ht.symm.trans (type_of_offered (post.masters_offered d hmem))) nofun
        · exact (hg d).mp hmem
      · rw [hdatasets]
        exact fun d hmem => List.mem_append_right _ ((hg d).mpr hmem)
  | visualisations =>
      have hself : saveVisualisations user post
          (saveDatasets user post (savePermissions user post w)) =
          saveDatasets user post (savePermissions user post w) := by
        refine saveVisualisations_eq_self fun v => ?_
        rw [visualisation_permissions_saveDatasets, hg v]
        simp only [UserPost.unchanged, List.mem_filter, Bool.not_eq_true']
        exact ⟨fun h => h.1, fun h => ⟨h, hv v h⟩⟩
      simp only [World.SameRows]
      rw [keeps_saveUser (g := World.visualisation_permissions) fun _ _ => rfl, hself]
      exact visualisation_permissions_saveDatasets

end

/-! ## Saving a template -/

section

variable {template : Template} {w : World}

theorem granted_template : setDiff (TemplatePost.unchanged w template).master_datasets
    (liveHeldBy w.template_permissions template.pk) = [] :=
  setDiff_eq_nil.mpr fun _ hd => (mem_shownDatasets.mp hd).1

theorem revoked_template : setDiff (liveHeldBy w.template_permissions template.pk)
    (TemplatePost.unchanged w template).master_datasets = [] ↔
      ∀ d ∈ liveHeldBy w.template_permissions template.pk, offered .MASTER d = true := by
  rw [setDiff_eq_nil]
  refine forall₂_congr fun d hd => ?_
  simp only [TemplatePost.unchanged, mem_shownDatasets, hd, true_and]

theorem templateSaveRight_iff :
    TemplateSaveRight template w ↔
      (∀ d ∈ liveHeldBy w.template_permissions template.pk, offered .MASTER d = true) ∧
      ∀ name, w.item_names template.pk = some name → name = template.nice_name := by
  constructor
  · intro h
    refine ⟨revoked_template.mp ?_, fun name hname => ?_⟩
    · have hlen := congrArg List.length h.unlogged
      have hrevoke := length_log_foldl (f := revokeFromTemplate template) (p := fun _ => true)
        (fun w _ => length_log_logged _ _) (setDiff (liveHeldBy w.template_permissions template.pk)
          (TemplatePost.unchanged w template).master_datasets) w
      simp only [saveTemplate, granted_template, List.foldl_nil] at hlen
      rw [hlen, List.countP_true] at hrevoke
      exact List.length_eq_zero_iff.mp (by omega)
    · have hsaved := h.named name hname
      simp only [saveTemplate, Function.update_self, Option.some.injEq] at hsaved
      exact hsaved.symm
  · rintro ⟨hd, hname⟩
    have hsave : saveTemplate template (.unchanged w template) w =
        { w with item_names :=
            Function.update w.item_names template.pk (some template.nice_name) } := by
      simp only [saveTemplate, granted_template, revoked_template.mpr hd, List.foldl_nil]
    refine ⟨by rw [hsave], by rw [hsave], fun name h => ?_, fun post => ?_⟩
    · rw [hsave, hname name h]
      exact Function.update_self ..
    · simp only [saveTemplate]
      rw [foldl_keeps (g := fun w => w.template_permissions.those fun r => r.2.type ≠ .MASTER),
        foldl_keeps (g := fun w => w.template_permissions.those fun r => r.2.type ≠ .MASTER)]
      · intro d hmem w'
        refine Rows.those_insert ?_
        simp [type_of_offered (post.masters_offered d (mem_setDiff.mp hmem).1)]
      · intro d hmem w'
        refine Rows.those_delete (p := fun r => r = (template.pk, d)) fun r hr => ?_
        rw [of_decide_eq_true hr]
        simp [type_of_offered (hd d (mem_setDiff.mp hmem).1)]

end

/-- The saves keep what was not changed exactly for holders whose permissions are all on the
form: those of users on datasets that are not deleted are on datasets that require
authorization, and those on visualisations on ones that are not deleted; those of templates
are on master datasets that require authorization, and the catalogue item of the template
has its name. -/
theorem save_right_iff (user : Nat) (w : World) (template : Template) (w' : World) :
    (UserSaveRight user w ↔
      (∀ d ∈ liveHeldBy w.dataset_permissions user,
        offered .MASTER d = true ∨ offered .DATACUT d = true) ∧
      ∀ v ∈ heldBy w.visualisation_permissions user, v.deleted = false) ∧
    (TemplateSaveRight template w' ↔
      (∀ d ∈ liveHeldBy w'.template_permissions template.pk, offered .MASTER d = true) ∧
      ∀ name, w'.item_names template.pk = some name → name = template.nice_name) := by
  refine ⟨⟨fun h => held_of_unchanged h.unchanged, fun h => ⟨?_, ?_⟩⟩, templateSaveRight_iff⟩
  · exact saveUser_unchanged h.1 h.2
  · exact sameRows_saveUser h.1 h.2

/-! ## A dataset that was opened -/

/-- A master dataset that no longer requires authorization. -/
def opened : DataSet := ⟨"opened", .MASTER, .OPEN, false⟩

def openedWorld : World where
  user_permissions _ := []
  dataset_permissions := (⟨.empty, 0, nofun⟩ : Rows (Nat × DataSet)).insert (1, opened)
  visualisation_permissions := ⟨.empty, 0, nofun⟩
  template_permissions := (⟨.empty, 0, nofun⟩ : Rows (Nat × DataSet)).insert (7, opened)
  item_names _ := some "Trade"
  log := []

/-- The permissions on it are lost when the forms are saved as they are shown. -/
theorem opened_revoked :
    ¬ UserSaveRight 1 openedWorld ∧ ¬ TemplateSaveRight ⟨7, "Trade"⟩ openedWorld := by
  constructor
  · intro h
    have hlog := congrArg World.log h.unchanged
    exact absurd hlog (by decide)
  · intro h
    exact absurd h.unlogged (by decide)

end PermissionForms
