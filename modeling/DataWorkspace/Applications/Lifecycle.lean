import DataWorkspace.Applications.Workspace

/-!
# The states of an instance

An instance starts, runs and is stopped.  The API looks at instances that start or run
only, and relies on `single_running_or_spawning_integrity` to keep two of them from one
public host.

The handlers read an instance first and save it later.  `application_api_PATCH` saves
`RUNNING` on an instance that may have been stopped meanwhile, and then two instances may
run at one public host (`stopped_instance_revived`).  When that does not happen, at most
one is visible at a host and what is stopped stays stopped (`lifecycle`).
-/

namespace Applications

open Py Datasets Async

/-! ## What the tasks write -/

/-- How the rows of instances are written. -/
def RowOp : Op → Prop
  | .create_instance new =>
      new.state = .SPAWNING ∧ new.single_running_or_spawning_integrity = new.public_host
  | .save_instance id u =>
      (u = .state .RUNNING ∨ u = .state_and_integrity .STOPPED id) ∨
        (∃ sid, u = .spawner_application_instance_id sid) ∨ ∃ url, u = .proxy_url url
  | _ => True

theorem Task.rowOp {dep : Deployment} (t : Task) {o : Op} (h : t.Footprint dep o) : RowOp o := by
  have hstop (ho : StopOp o) : RowOp o := by
    cases o with
    | create_instance new => exact ho.elim
    | save_instance id u => exact .inl (.inr ho)
    | _ => trivial
  have hdatabase (ho : DatabaseOp o) : RowOp o := by
    cases o with
    | create_instance new => exact ho.elim
    | save_instance id u => exact ho.elim
    | _ => trivial
  cases t with
  | application_api_view request =>
      rcases h with ho | ⟨found, cpu, memory, -, rfl⟩ | ⟨name, user, tag, id, options, rfl⟩
      · cases o with
        | create_instance new => exact ho.elim
        | save_instance id u => exact .inl ho
        | _ => trivial
      · exact ⟨rfl, rfl⟩
      · trivial
  | tools_html_POST user public_host => exact hstop h
  | visualisation_branch_html_POST t release_commit => exact hstop h
  | kill_idle_fargate => exact hstop h
  | worker =>
      cases o with
      | create_instance new => exact h.elim
      | save_instance id u => exact .inr h
      | _ => trivial
  | delete_unused_datasets_users => exact hdatabase h
  | cleanup_temporary_query_tables query_logs => exact hdatabase h
  | new_private_database_credentials suffix source_tables db_user dw_user force => exact hdatabase h

/-! ## Invariants -/

def InstanceTable.Kept (t : InstanceTable) : Prop :=
  ∀ a ∈ t.rows, a.state ≠ .STOPPED → a.single_running_or_spawning_integrity = a.public_host

theorem InstanceTable.Kept.eq_of_host {t : InstanceTable} (h : t.Kept) {a b : ApplicationInstance}
    (ha : a ∈ t.rows) (hb : b ∈ t.rows) (hva : a.isVisible = true) (hvb : b.isVisible = true)
    (hhost : a.public_host = b.public_host) : a = b := by
  have hia := h a ha (ApplicationInstance.isVisible_iff.mp hva)
  have hib := h b hb (ApplicationInstance.isVisible_iff.mp hvb)
  exact InstanceTable.eq_of_integrity ha hb (hia.trans (hhost.trans hib.symm))

def InstanceTable.Stopped (t : InstanceTable) (id : Str) : Prop :=
  ∃ a ∈ t.rows, a.id = id ∧ a.state = .STOPPED

instance (t : InstanceTable) (id : Str) : Decidable (t.Stopped id) :=
  inferInstanceAs (Decidable (∃ a ∈ t.rows, a.id = id ∧ a.state = .STOPPED))

def Op.sets_running : Op → Option Str
  | .save_instance id (.state .RUNNING) => some id
  | _ => none

/-- An operation that sets an instance to running finds it not stopped. -/
def NotRevived {ι : Type} (c : Config Ans Exc Unit ι World) (_ : ι) (o : Op) : Prop :=
  ∀ id ∈ o.sets_running, ¬ c.store.instances.Stopped id

instance {ι : Type} (c : Config Ans Exc Unit ι World) (i : ι) (o : Op) :
    Decidable (NotRevived c i o) :=
  inferInstanceAs (Decidable (∀ id ∈ o.sets_running, ¬ c.store.instances.Stopped id))

section Steps

variable {o : Op} {t t' : InstanceTable}

theorem kept_of_step (hs : RowsStep o t t') (ho : RowOp o)
    (hno : ∀ id ∈ o.sets_running, ¬ t.Stopped id) (h : t.Kept) :
    t'.Kept := by
  cases hs with
  | same he => exact he ▸ h
  | created new id he ht =>
      subst he
      intro b hb hstate
      rcases (InstanceTable.mem_insert ht).mp hb with rfl | hb
      · exact ho.2
      · exact h b hb hstate
  | saved id u he ht =>
      subst he
      intro b hb hstate
      obtain ⟨a, ha, hab⟩ := (InstanceTable.mem_update ht).mp hb
      split at hab
      next hid =>
        rcases ho with (rfl | rfl) | ⟨sid, rfl⟩ | ⟨url, rfl⟩
        · subst hab
          exact h a ha fun hst => hno id rfl ⟨a, ha, hid, hst⟩
        · subst hab
          exact absurd rfl hstate
        · subst hab
          exact h a ha hstate
        · subst hab
          exact h a ha hstate
      next =>
        subst hab
        exact h a ha hstate

theorem stopped_of_step (hs : RowsStep o t t') (ho : RowOp o)
    (hno : ∀ id ∈ o.sets_running, ¬ t.Stopped id) {id : Str}
    (h : t.Stopped id) : t'.Stopped id := by
  obtain ⟨a, ha, hid, hstate⟩ := h
  cases hs with
  | same he => exact he ▸ ⟨a, ha, hid, hstate⟩
  | created new i he ht => exact ⟨a, (InstanceTable.mem_insert ht).mpr (.inr ha), hid, hstate⟩
  | saved i u he ht =>
      subst he
      refine ⟨_, (InstanceTable.mem_update ht).mpr ⟨a, ha, rfl⟩, ?_⟩
      split
      next hi =>
        rcases ho with (rfl | rfl) | ⟨sid, rfl⟩ | ⟨url, rfl⟩
        · exact absurd ⟨a, ha, hi, hstate⟩ (hno i rfl)
        · exact ⟨hid, rfl⟩
        · exact ⟨hid, hstate⟩
        · exact ⟨hid, hstate⟩
      next => exact ⟨hid, hstate⟩

end Steps

/-! ## Runs -/

section Runs

variable {ι : Type} [DecidableEq ι] {dep : Deployment} {kind : ι → Task} {w₀ : World}
  {c : Config Ans Exc Unit ι World}

theorem kept_of_run (h : (workspace dep kind).Run NotRevived w₀ c) (h₀ : w₀.instances.Kept) :
    c.store.instances.Kept := by
  refine h.invariant (I := fun c => c.store.instances.Kept) h₀ ?_
  intro c i o k a s hrun hi hok ha ih
  exact kept_of_step (effect_of_act ha).rows ((kind i).rowOp (hrun.only hi (kind i).only)) hok ih

theorem stopped_of_later {c' : Config Ans Exc Unit ι World} {id : Str}
    (h : (workspace dep kind).Run NotRevived w₀ c)
    (h' : (workspace dep kind).Later NotRevived c c') (hs : c.store.instances.Stopped id) :
    c'.store.instances.Stopped id := by
  refine h'.keeps (I := fun c => c.store.instances.Stopped id) h ?_ hs
  intro c i o k a s hrun hi hok ha ih
  exact stopped_of_step (effect_of_act ha).rows ((kind i).rowOp (hrun.only hi (kind i).only)) hok ih

/-- When no handler sets an instance to running that was stopped meanwhile, at most one
instance starts or runs at a public host, and what is stopped stays stopped. -/
theorem lifecycle (h₀ : w₀.instances.Kept) (h : (workspace dep kind).Run NotRevived w₀ c) :
    (∀ a ∈ c.store.instances.rows, ∀ b ∈ c.store.instances.rows, a.isVisible = true →
      b.isVisible = true → a.public_host = b.public_host → a = b) ∧
    ∀ c', (workspace dep kind).Later NotRevived c c' → ∀ a ∈ c.store.instances.rows,
      a.state = .STOPPED → ∀ b ∈ c'.store.instances.rows, b.id = a.id → b.state = .STOPPED := by
  refine ⟨fun a ha b hb => (kept_of_run h h₀).eq_of_host ha hb, ?_⟩
  intro c' hlater a ha hstate b hb hid
  obtain ⟨b', hb', hid', hstate'⟩ := stopped_of_later h hlater ⟨a, ha, rfl, hstate⟩
  rw [InstanceTable.eq_of_id hb hb' (hid.trans hid'.symm)]
  exact hstate'

end Runs

/-! ## An instance is revived

A second instance is created between the reading and the saving of `PATCH`. -/

namespace Revived

/-- The requests. -/
inductive Step where
  | put | patch | delete | put_again
deriving DecidableEq, Repr

def kind : Step → Task
  | .put => Small.request .PUT none
  | .patch => Small.request .PATCH (some "RUNNING")
  | .delete => Small.request .DELETE none
  | .put_again => Small.request .PUT none

/-- The first instance is created and read by the handler of `PATCH`, and then stopped. -/
def stopping : List Step :=
  List.replicate 9 .put ++ List.replicate 2 .patch ++ List.replicate 4 .delete

/-- The second instance is created, and the first one saved. -/
def reviving : List Step := List.replicate 9 .put_again ++ List.replicate 2 .patch

def states (c : Config Ans Exc Unit Step World) : List (Str × Str × InstanceState) :=
  c.store.instances.rows.map fun a => (a.id, a.public_host, a.state)

/-- The configuration after the first part. -/
def stopped : Config Ans Exc Unit Step World := Small.after kind stopping

/-- The configuration after both parts. -/
def revived : Config Ans Exc Unit Step World := stopped.play Small.pick Always reviving

/-- The same requests, when `RUNNING` is not saved on what was stopped. -/
def guarded : Config Ans Exc Unit Step World :=
  ((workspace Small.dep kind).start Small.world).play Small.pick NotRevived (stopping ++ reviving)

end Revived

open Revived in
/-- An instance that was stopped is set to running, beside a second one at its host. -/
theorem stopped_instance_revived :
    (workspace Small.dep kind).Run Always Small.world stopped ∧
      (workspace Small.dep kind).Later Always stopped revived ∧
      states stopped = [(("0" : Str), Small.host, .STOPPED)] ∧
      states revived = [(("1" : Str), Small.host, .SPAWNING), (("0" : Str), Small.host, .RUNNING)] := by
  refine ⟨Small.run_after kind stopping, ?_, ?_, ?_⟩
  · exact Config.later_play (fun _ => act_of_waiting) stopped reviving
  · decide +kernel
  · decide +kernel

open Revived in
/-- When the handler of `PATCH` does not go on, one instance starts and one stays stopped. -/
theorem lifecycle_guarded :
    states guarded =
        [(("1" : Str), Small.host, .SPAWNING), (("0" : Str), Small.host, .STOPPED)] ∧
    (∀ a ∈ guarded.store.instances.rows, ∀ b ∈ guarded.store.instances.rows, a.isVisible = true →
      b.isVisible = true → a.public_host = b.public_host → a = b) ∧
    ∀ c', (workspace Small.dep kind).Later NotRevived guarded c' →
      ∀ a ∈ guarded.store.instances.rows, a.state = .STOPPED →
        ∀ b ∈ c'.store.instances.rows, b.id = a.id → b.state = .STOPPED := by
  have hempty : Small.world.instances.Kept := fun a ha => absurd ha List.not_mem_nil
  refine ⟨by decide +kernel, lifecycle hempty ?_⟩
  exact Shared.run_play (fun _ => act_of_waiting) Small.world (stopping ++ reviving)

end Applications
