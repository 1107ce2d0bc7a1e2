import DataWorkspace.Applications.Workspace

/-!
# Whose tool it is

The public host of a tool ends in the short hash of its user.  Whether a user may use a
host is decided from the parts of the host, and an instance is created from the same
parts, so a tool belongs to the user it is named after (`tools_belong_to_owners`).
-/

namespace Applications

open Py Datasets Async

def IsToolOf (dep : Deployment) (t : ApplicationTemplate) (public_host : Str) (user : User) : Prop :=
  ∃ found, application_template_tag_user_commit_from_host dep.templates public_host = .ok found ∧
    found.application_template = t ∧ found.user = some (dep.short_hash user)

def IsOthersTool (dep : Deployment) (public_host : Str) (user : User) : Prop :=
  ∃ found, application_template_tag_user_commit_from_host dep.templates public_host = .ok found ∧
    found.application_template.application_type = .TOOL ∧
      found.user ≠ some (dep.short_hash user)

section Permission

variable {dep : Deployment} {user : User} {public_host : Str}

theorem not_allowed (h : IsOthersTool dep public_host user) :
    application_api_is_allowed dep user public_host = .pure false := by
  obtain ⟨found, hfound, htool, hother⟩ := h
  have hrule : is_tool_and_correct_user_and_allowed_to_start dep user found = .pure false :=
    if_neg fun hx => hother hx.2
  have hitem : visualisation_catalogue_item found.application_template = .pure none :=
    if_neg (by rw [htool]; decide)
  have hauthentication :
      is_published_visualisation_and_requires_authentication found none = .pure false := by
    simp [is_published_visualisation_and_requires_authentication]
  have hpreview :
      is_visualisation_preview_and_has_gitlab_developer user found none = .pure false :=
    if_neg fun hx => Bool.false_ne_true hx.2
  rw [application_api_is_allowed, hfound]
  simp only [hitem, Prog.pure_bind, hrule, hauthentication, hpreview]
  rfl

theorem forbidden {request : Request} (h : IsOthersTool dep request.public_host request.user) :
    application_api_view dep request = .pure ⟨403, none⟩ := by
  rw [application_api_view, not_allowed h]
  rfl

theorem hash_of_allowed {t : ApplicationTemplate} {owner : User} {tr : List (Event Ans)}
    (htool : t.application_type = .TOOL) (h : IsToolOf dep t public_host owner)
    (hr : Returns (application_api_is_allowed dep user public_host) tr (.ok true)) :
    dep.short_hash user = dep.short_hash owner := by
  by_contra hne
  obtain ⟨found, hfound, rfl, howner⟩ := h
  have hothers : IsOthersTool dep public_host user := by
    refine ⟨found, hfound, htool, ?_⟩
    rw [howner]
    exact fun he => hne (Option.some.inj he).symm
  rw [not_allowed hothers] at hr
  cases hr

end Permission

/-! ## The rows -/

/-- The tools among the rows are named after their owners. -/
def InstanceTable.Owned (dep : Deployment) (t : InstanceTable) : Prop :=
  ∀ a ∈ t.rows, a.application_template.application_type = .TOOL →
    IsToolOf dep a.application_template a.public_host a.owner

def OwnedOp (dep : Deployment) : Op → Prop
  | .create_instance new => new.application_template.application_type = .TOOL →
      IsToolOf dep new.application_template new.public_host new.owner
  | _ => True

section Rows

variable {dep : Deployment}

theorem only_owned_view (request : Request) : (application_api_view dep request).Only (OwnedOp dep) := by
  by_cases hothers : IsOthersTool dep request.public_host request.user
  · rw [forbidden hothers]
    trivial
  · refine only_application_api_view request (fun o ho => ?_)
      (fun found cpu memory hfound htool => ⟨found, hfound, rfl, ?_⟩) fun _ _ _ _ _ => trivial
    · cases o with
      | create_instance new => exact ho.elim
      | _ => trivial
    · by_contra hne
      exact hothers ⟨found, hfound, htool, hne⟩

theorem Task.only_owned (t : Task) : (t.prog dep).Only (OwnedOp dep) := by
  cases t with
  | application_api_view request => exact (only_owned_view request).bind fun _ => trivial
  | _ =>
      refine (Task.only _).mono fun o ho => ?_
      cases o with
      | create_instance new => exact ho.elim
      | _ => trivial

theorem Update.apply_template (u : Update) (a : ApplicationInstance) :
    (u.apply a).application_template = a.application_template := by
  cases u <;> rfl

theorem Update.apply_public_host (u : Update) (a : ApplicationInstance) :
    (u.apply a).public_host = a.public_host := by
  cases u <;> rfl

theorem Update.apply_owner (u : Update) (a : ApplicationInstance) : (u.apply a).owner = a.owner := by
  cases u <;> rfl

theorem owned_of_step {o : Op} {t t' : InstanceTable} (hs : RowsStep o t t') (ho : OwnedOp dep o)
    (h : t.Owned dep) : t'.Owned dep := by
  cases hs with
  | same he => exact he ▸ h
  | created new id he ht =>
      subst he
      intro b hb htool
      rcases (InstanceTable.mem_insert ht).mp hb with rfl | hb
      · exact ho htool
      · exact h b hb htool
  | saved id u he ht =>
      intro b hb htool
      obtain ⟨a, ha, hab⟩ := (InstanceTable.mem_update ht).mp hb
      split at hab
      next =>
        subst hab
        rw [u.apply_template] at htool ⊢
        rw [u.apply_public_host, u.apply_owner]
        exact h a ha htool
      next =>
        subst hab
        exact h a ha htool

end Rows

/-! ## Runs -/

section Runs

variable {ι : Type} [DecidableEq ι] {dep : Deployment} {kind : ι → Task} {w₀ : World}
  {c : Config Ans Exc Unit ι World}

theorem owned_of_run (h₀ : w₀.instances.Owned dep)
    (h : (workspace dep kind).Run Always w₀ c) : c.store.instances.Owned dep := by
  refine h.invariant (I := fun c => c.store.instances.Owned dep) h₀ ?_
  intro c i o k a s hrun hi _ ha ih
  exact owned_of_step (effect_of_act ha).rows (hrun.only hi (kind i).only_owned) ih

/-- What holds of a tool: it is named after its owner, only a user with the hash of the
owner is allowed to use its host, and the requests of all others do nothing. -/
structure BelongsToOwner (dep : Deployment) (a : ApplicationInstance) : Prop where
  named : IsToolOf dep a.application_template a.public_host a.owner
  allowed : ∀ user tr, Returns (application_api_is_allowed dep user a.public_host) tr (.ok true) →
    dep.short_hash user = dep.short_hash a.owner
  refused : ∀ request, request.public_host = a.public_host →
    dep.short_hash request.user ≠ dep.short_hash a.owner →
      application_api_view dep request = .pure ⟨403, none⟩

/-- Every tool belongs to its owner, and a request for any host that is found to be a tool
of another user is refused and does nothing. -/
theorem tools_belong_to_owners (h₀ : w₀.instances.Owned dep)
    (h : (workspace dep kind).Run Always w₀ c) :
    (∀ a ∈ c.store.instances.rows, a.application_template.application_type = .TOOL →
      BelongsToOwner dep a) ∧
    ∀ request, IsOthersTool dep request.public_host request.user →
      application_api_view dep request = .pure ⟨403, none⟩ := by
  refine ⟨fun a ha htool => ?_, fun request => forbidden⟩
  have howned := owned_of_run h₀ h a ha htool
  refine ⟨howned, fun user tr hr => hash_of_allowed htool howned hr, fun request hhost hne => ?_⟩
  obtain ⟨found, hfound, htemplate, huser⟩ := howned
  refine forbidden ⟨found, hhost ▸ hfound, htemplate ▸ htool, ?_⟩
  rw [huser]
  exact fun he => hne (Option.some.inj he).symm

/-- Where the first user has created the tool, the second one is refused. -/
theorem tools_belong_to_owners_example :
    let c := Small.after (fun _ : Unit => Small.request .PUT none) (List.replicate 9 ())
    (∀ a ∈ c.store.instances.rows, a.application_template.application_type = .TOOL →
      BelongsToOwner Small.dep a) ∧
    (∀ request, IsOthersTool Small.dep request.public_host request.user →
      application_api_view Small.dep request = .pure ⟨403, none⟩) ∧
    c.store.instances.rows.map (fun a => (a.public_host, a.owner)) = [(Small.host, Small.ann)] ∧
    IsOthersTool Small.dep Small.host Small.bob := by
  have hempty : Small.world.instances.Owned Small.dep := fun a ha => absurd ha List.not_mem_nil
  obtain ⟨howned, hforbidden⟩ := tools_belong_to_owners hempty
    (Small.run_after (fun _ : Unit => Small.request .PUT none) (List.replicate 9 ()))
  refine ⟨howned, hforbidden, by decide +kernel, ⟨Small.rstudio, none, some "ab12cd34", none⟩, ?_⟩
  exact ⟨by rfl, rfl, by decide⟩

end Runs

end Applications
