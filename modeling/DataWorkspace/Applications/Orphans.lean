import DataWorkspace.Applications.Lifecycle
import DataWorkspace.Applications.Working
import DataWorkspace.Async.Handover
import Mathlib.Data.Fintype.Basic

/-!
# Tasks that nobody stops

`FargateSpawner.spawn` starts a task, stores its ARN, and looks once whether the instance
was stopped meanwhile.  Later it stores the address of the task and is over.
`FargateSpawner.stop` reads the ARN from the row.  Whoever stops an instance sends a
message to stop its task first, except the API, which only sets the state.

A task may be left running when its instance was stopped after that one look
(`task_orphaned`).  When a stop is still to come for a task that its spawner leaves alone,
all tasks of what is stopped are asked to stop (`no_orphans`).

No two workers spawn one instance: an instance is created once and its message is taken
once.  Without this a worker could store one ARN over another.
-/

namespace Applications

open Py Datasets Async

/-! ## One worker for each instance

A message to spawn is a token: the id of an instance and the options it is spawned with. -/

def Message.token : Message → Option (Str × Str)
  | .spawn _ _ _ id options => some (id, options)
  | .stop _ _ => none

/-- What an event does with a token. -/
def spawning : Event Ans → Option (Passing (Str × Str))
  | ⟨.create_instance new, some a⟩ =>
      some (.makes (a.id, new.spawner_application_template_options))
  | ⟨.delay (.spawn _ _ _ id options), _⟩ => some (.posts (id, options))
  | ⟨.receive, .spawn _ _ _ id options⟩ => some (.picks (id, options))
  | _ => none

def World.Made (w : World) (n : Str × Str) : Prop :=
  ∃ a ∈ w.instances.rows, a.id = n.1 ∧ a.spawner_application_template_options = n.2

/-- The tokens that no worker has taken. -/
def World.inbox (w : World) : List (Str × Str) := w.messages.filterMap Message.token

section Tokens

variable {dep : Deployment} {ι : Type} {kind : ι → Task} {o : Op} {w w' : World} {r : Ans o}

theorem Update.apply_options (u : Update) (a : ApplicationInstance) :
    (u.apply a).spawner_application_template_options = a.spawner_application_template_options := by
  cases u <;> rfl

theorem made_of_act (h : act dep o w r w') {n : Str × Str} (hn : w.Made n) : w'.Made n := by
  obtain ⟨a, ha, hid, hoptions⟩ := hn
  cases (effect_of_act h).rows with
  | same he => exact ⟨a, he ▸ ha, hid, hoptions⟩
  | created new id he ht =>
      exact ⟨a, (InstanceTable.mem_insert ht).mpr (.inr ha), hid, hoptions⟩
  | saved id u he ht =>
      refine ⟨_, (InstanceTable.mem_update ht).mpr ⟨a, ha, rfl⟩, ?_⟩
      split
      next => exact ⟨(InstanceTable.apply_id u a).trans hid, (u.apply_options a).trans hoptions⟩
      next => exact ⟨hid, hoptions⟩

theorem token_posted (o : Op) (r : Ans o) :
    o.sent.filterMap Message.token = (spawning ⟨o, r⟩).elim [] Passing.posted := by
  cases o with
  | create_instance new => cases r <;> rfl
  | delay m => cases m <;> rfl
  | receive => cases (r : Message) <;> rfl
  | _ => rfl

theorem token_taken (o : Op) (r : Ans o) :
    (received o r).filterMap Message.token = (spawning ⟨o, r⟩).elim [] Passing.taken := by
  cases o with
  | create_instance new => cases r <;> rfl
  | delay m => cases m <;> rfl
  | receive => cases (r : Message) <;> rfl
  | _ => rfl

theorem keepsTokens : KeepsTokens spawning (workspace dep kind) World.Made World.inbox where
  stays h := made_of_act h
  make {i o s r s' n} h he := by
    cases o with
    | create_instance new =>
        rcases h with ⟨rfl, -, -⟩ | ⟨id, t, rfl, ht, rfl⟩
        · cases he
        · cases he
          refine ⟨fun ⟨a, ha, hid, _⟩ => InstanceTable.not_mem_of_insert ht a ha hid, ?_⟩
          exact ⟨_, (InstanceTable.mem_insert ht).mpr (.inl rfl), rfl, rfl⟩
    | delay m => cases m <;> cases he
    | receive => cases (r : Message) <;> cases he
    | _ => cases he
  kept {i o s r s'} h := by
    have hperm := (effect_of_act h).messages.filterMap Message.token
    rw [List.filterMap_append, List.filterMap_append, token_posted o r, token_taken o r] at hperm
    exact hperm

/-- An operation that posts no token. -/
def PostsNone (o : Op) : Prop := ∀ r n, spawning ⟨o, r⟩ ≠ some (.posts n)

theorem postsNone_of_ne (h : ∀ name user tag id options,
    o ≠ .delay (.spawn name user tag id options)) : PostsNone o := by
  intro r n he
  cases o with
  | create_instance new => cases r <;> cases he
  | delay m =>
      cases m with
      | spawn name user tag id options => exact h name user tag id options rfl
      | stop name id => cases he
  | receive => cases (r : Message) <;> cases he
  | _ => cases he

theorem Task.postsFairly_of (t : Task) (h : ∀ name user tag id options,
    ¬ t.Footprint dep (.delay (.spawn name user tag id options))) :
    PostsFairly spawning (t.prog dep) := by
  refine Meets.of_only t.only fun o _ ho r n he => absurd he (postsNone_of_ne ?_ r n)
  intro name user tag id options heq
  exact h name user tag id options (heq ▸ ho)

theorem postsFairly_view (request : Request) :
    PostsFairly spawning (Task.prog dep (.application_api_view request)) := by
  have hapi : ∀ o s, ApiOp o → postsHeld spawning o s := by
    intro o s h r n he
    refine absurd he (postsNone_of_ne (fun name user tag id options ho => ?_) r n)
    subst ho
    exact h
  refine Meets.bind (meets_application_api_view request hapi fun found cpu memory s _ => ?_)
    fun _ _ => trivial
  refine Meets.perform (fun r n he => ?_) fun created => ?_
  · cases r <;> cases he
  · cases created with
    | none => exact .of_only (P := ApiOp) (only_get trivial) hapi
    | some a =>
        refine Meets.perform (fun r n he => ?_) fun _ => trivial
        cases he
        exact List.mem_cons_self ..

theorem Task.postsFairly : ∀ t : Task, PostsFairly spawning (t.prog dep)
  | .application_api_view request => postsFairly_view request
  | .tools_html_POST _ _ => Task.postsFairly_of _ fun _ _ _ _ _ h => h
  | .visualisation_branch_html_POST _ _ => Task.postsFairly_of _ fun _ _ _ _ _ h => h
  | .kill_idle_fargate => Task.postsFairly_of _ fun _ _ _ _ _ h => h
  | .worker => Task.postsFairly_of _ fun _ _ _ _ _ h => h
  | .delete_unused_datasets_users => Task.postsFairly_of _ fun _ _ _ _ _ h => h
  | .cleanup_temporary_query_tables _ => Task.postsFairly_of _ fun _ _ _ _ _ h => h
  | .new_private_database_credentials _ _ _ _ _ => Task.postsFairly_of _ fun _ _ _ _ _ h => h

end Tokens

/-! ## What holds of a worker -/

/-- What a worker has done fits together. -/
structure Worked.Good (dep : Deployment) (s : Worked) : Prop where
  found : ∀ a m, s.read = some (.ok a) → s.message = some m → a.id = m.application_instance_id
  spawns : ∀ arn ∈ s.task_arns, ∃ name user tag id options,
    s.message = some (.spawn name user tag id options) ∧
      (dep.fargate_options options).isSome = true
  recorded : s.published = true → ∀ arn ∈ s.task_arns, s.recorded = some arn

section Good

variable {dep : Deployment} {s : Worked} {o : Op} {w w' : World} {r : Ans o}

theorem Worked.Good.after (h : s.Good dep) (ho : WorkerStep dep o s) (ha : act dep o w r w') :
    (s.after ⟨o, r⟩).Good dep := by
  have hb := s.becomes_after ⟨o, r⟩
  generalize s.after ⟨o, r⟩ = s' at hb
  cases hb with
  | same => exact h
  | took m he =>
      cases he
      obtain rfl : s = {} := ho
      exact ⟨fun a m hread => (nomatch hread), fun arn harn => (nomatch harn),
        fun _ arn harn => (nomatch harn)⟩
  | read id r' he =>
      cases he
      refine ⟨fun a m hread hm => ?_, h.spawns, h.recorded⟩
      cases hs : s.read with
      | some r'' =>
          refine h.found a m ?_ hm
          simpa [hs] using hread
      | none =>
          have hid := ho hs
          rw [show s.message = some m from hm, Option.map_some, Option.some.injEq] at hid
          simp only [hs, Option.none_or, Option.some.injEq] at hread
          obtain ⟨rfl, -⟩ := ha
          obtain ⟨-, hfinds⟩ := InstanceTable.mem_of_get hread
          exact (beq_iff_eq.mp hfinds).trans hid.symm
  | started cluster_name definition_arn arn he =>
      cases he
      obtain ⟨hpublished, name, user, tag, id, options, hm, hoptions⟩ := ho
      refine ⟨h.found, fun arn' harn => ?_, fun hp => ?_⟩
      · rcases List.mem_cons.mp harn with rfl | harn
        · exact ⟨name, user, tag, id, options, hm, hoptions⟩
        · exact h.spawns arn' harn
      · rw [show s.published = true from hp] at hpublished
        cases hpublished
  | recorded id sid he =>
      cases he
      exact ⟨h.found, h.spawns, fun _ arn harn => (ho.2.2 arn harn).2⟩
  | published id url he =>
      cases he
      exact ⟨h.found, h.spawns, fun _ => ho.2⟩
  | asked cluster_name arn he => exact ⟨h.found, h.spawns, h.recorded⟩

end Good

/-! ## Runs -/

section Runs

variable {ι : Type}

/-- What a task has done with its message so far. -/
def worked (c : Config Ans Exc Unit ι World) (i : ι) : Worked := c.summary Worked.after {} i

/-- A stop is still to come for the task of an instance, or has come. -/
def StopComes (dep : Deployment) (c : Config Ans Exc Unit ι World) (id task_arn : Str) : Prop :=
  task_arn ∈ c.store.stop_requested ∨ .stop .FARGATE id ∈ c.store.messages ∨
    ∃ j, (worked c j).Told id ∨ (worked c j).Stops dep task_arn

/-- A task of an instance that its spawner has started. -/
def StartedBy (c : Config Ans Exc Unit ι World) (i : ι) (id task_arn : Str) : Prop :=
  (worked c i).Spawns id ∧ task_arn ∈ (worked c i).task_arns

/-- The instance that an operation stops. -/
def Op.marks_stopped : Op → Option Str
  | .save_instance id (.state_and_integrity .STOPPED _) => some id
  | _ => none

/-- The instance whose address an operation stores. -/
def Op.publishes : Op → Option Str
  | .save_instance id (.proxy_url _) => some id
  | _ => none

/-- When an instance is stopped, a stop comes for the tasks whose spawner has stored an
address.  When a spawner stores the address of an instance that was stopped, a stop comes
for its task. -/
structure StopsKnown (dep : Deployment) (c : Config Ans Exc Unit ι World) (i : ι) (o : Op) :
    Prop where
  marked : ∀ id ∈ o.marks_stopped, ∀ j, ∀ task_arn ∈ (worked c j).task_arns,
    (worked c j).Spawns id → (worked c j).published = true → StopComes dep c id task_arn
  published : ∀ id ∈ o.publishes, c.store.instances.Stopped id →
    ∀ task_arn ∈ (worked c i).task_arns, StopComes dep c id task_arn

variable [DecidableEq ι] {dep : Deployment} {kind : ι → Task} {w₀ : World}
  {ok : Config Ans Exc Unit ι World → ι → Op → Prop} {c : Config Ans Exc Unit ι World}

section Step

variable {i j : ι} {o : Op} {r : Ans o} {p : M Unit} {w : World}

theorem worked_go_self : worked (c.go i ⟨o, r⟩ p w) i = (worked c i).after ⟨o, r⟩ :=
  Config.summary_go_self ..

theorem worked_go_of_ne (h : j ≠ i) : worked (c.go i ⟨o, r⟩ p w) j = worked c j :=
  Config.summary_go_of_ne _ _ h

end Step

theorem good_of_run (h : (workspace dep kind).Run ok w₀ c) (i : ι) : (worked c i).Good dep := by
  refine h.invariant (I := fun c => ∀ i, (worked c i).Good dep) (fun i => ?_) ?_ i
  · exact ⟨fun a m hread => (nomatch hread), fun arn harn => (nomatch harn),
      fun _ arn harn => (nomatch harn)⟩
  · intro c i o k a s hrun hi _ ha ih j
    by_cases hj : j = i
    · subst hj
      rw [worked_go_self]
      exact (ih j).after (hrun.pre hi (kind j).wp_working) ha
    · rw [worked_go_of_ne hj]
      exact ih j

theorem asked_of_run (h : (workspace dep kind).Run ok w₀ c) :
    ∀ i, ∀ arn ∈ (worked c i).asked, arn ∈ c.store.stop_requested := by
  refine h.invariant (I := fun c => ∀ i, ∀ arn ∈ (worked c i).asked,
    arn ∈ c.store.stop_requested) (fun i arn harn => (nomatch harn)) ?_
  intro c i o k a s hrun hi _ ha ih j arn harn
  rw [Config.go_store, (effect_of_act ha).stop_requested]
  by_cases hj : j = i
  · subst hj
    rw [worked_go_self] at harn
    have hb := (worked c j).becomes_after ⟨o, a⟩
    generalize (worked c j).after ⟨o, a⟩ = s' at hb harn
    cases hb with
    | asked cluster_name arn' he =>
        obtain rfl : o = .stop_task cluster_name arn' := he
        rcases List.mem_cons.mp harn with rfl | harn
        · exact List.mem_append_right _ (List.mem_singleton_self _)
        · exact List.mem_append_left _ (ih j arn harn)
    | _ => exact List.mem_append_left _ (ih j arn harn)
  · rw [worked_go_of_ne hj] at harn
    exact List.mem_append_left _ (ih j arn harn)

theorem picked_of_run (h : (workspace dep kind).Run ok w₀ c) :
    ∀ i name user tag id options, (worked c i).message = some (.spawn name user tag id options) →
      (id, options) ∈ (c.summary (Hands.after spawning) {} i).picked := by
  refine h.invariant (I := fun c => ∀ i name user tag id options,
    (worked c i).message = some (.spawn name user tag id options) →
      (id, options) ∈ (c.summary (Hands.after spawning) {} i).picked)
    (fun i name user tag id options hm => (nomatch hm)) ?_
  intro c i o k a s hrun hi _ ha ih j name user tag id options hm
  by_cases hj : j = i
  · subst hj
    rw [worked_go_self] at hm
    rw [Config.summary_go_self]
    have hb := (worked c j).becomes_after ⟨o, a⟩
    generalize (worked c j).after ⟨o, a⟩ = s' at hb hm
    cases hb with
    | took m he =>
        cases he
        obtain rfl := Option.some.inj hm
        exact List.mem_cons_self ..
    | _ => exact mem_picked_after (ih j name user tag id options hm)
  · rw [worked_go_of_ne hj] at hm
    rw [Config.summary_go_of_ne _ _ hj]
    exact ih j name user tag id options hm

section OneSpawner

variable (h₀ : w₀.messages = []) (h : (workspace dep kind).Run ok w₀ c)

include h₀ h

theorem placed_of_run : Placed spawning World.Made World.inbox c := by
  have hinbox : w₀.inbox = [] := by rw [World.inbox, h₀, List.filterMap_nil]
  refine keepsTokens.placed (fun i => (kind i).postsFairly) ?_ (fun n hn => ?_) h
  · rw [hinbox]
    exact List.nodup_nil
  · rw [hinbox] at hn
    cases hn

theorem row_of_spawns {i : ι} {name : SpawnerName} {user : User} {tag : Option Str}
    {id options : Str} (hm : (worked c i).message = some (.spawn name user tag id options)) :
    ∃ a ∈ c.store.instances.rows,
      a.id = id ∧ a.spawner_application_template_options = options :=
  (placed_of_run h₀ h).made (p := .picked i) (picked_of_run h i _ _ _ _ _ hm)

theorem one_spawner {i j : ι} {id : Str} (hi : (worked c i).Spawns id)
    (hj : (worked c j).Spawns id) : i = j := by
  obtain ⟨name, user, tag, options, hmi⟩ := hi
  obtain ⟨name', user', tag', options', hmj⟩ := hj
  obtain ⟨a, ha, haid, rfl⟩ := row_of_spawns h₀ h hmi
  obtain ⟨b, hb, hbid, rfl⟩ := row_of_spawns h₀ h hmj
  obtain rfl := InstanceTable.eq_of_id ha hb (haid.trans hbid.symm)
  exact (placed_of_run h₀ h).picked_once (picked_of_run h i _ _ _ _ _ hmi)
    (picked_of_run h j _ _ _ _ _ hmj)

end OneSpawner

theorem RowsStep.keeps_sid {o : Op} {t t' : InstanceTable} {a : ApplicationInstance}
    (hs : RowsStep o t t') (ha : a ∈ t.rows)
    (hne : ∀ sid, o ≠ .save_instance a.id (.spawner_application_instance_id sid)) :
    ∃ b ∈ t'.rows, b.id = a.id ∧
      b.spawner_application_instance_id = a.spawner_application_instance_id := by
  cases hs with
  | same he => exact ⟨a, he ▸ ha, rfl, rfl⟩
  | created new id he ht => exact ⟨a, (InstanceTable.mem_insert ht).mpr (.inr ha), rfl, rfl⟩
  | saved id u he ht =>
      refine ⟨_, (InstanceTable.mem_update ht).mpr ⟨a, ha, rfl⟩, ?_⟩
      split
      next hid =>
        refine ⟨InstanceTable.apply_id u a, ?_⟩
        cases u with
        | spawner_application_instance_id sid =>
            exact absurd (hid ▸ he) (hne sid)
        | _ => rfl
      next => exact ⟨rfl, rfl⟩

theorem recorded_of_run (h₀ : w₀.messages = []) (h : (workspace dep kind).Run ok w₀ c) :
    ∀ i id arn, (worked c i).Spawns id → (worked c i).recorded = some arn →
      ∃ a ∈ c.store.instances.rows,
        a.id = id ∧ a.spawner_application_instance_id.task_arn?.join = some arn := by
  refine h.invariant (I := fun c => ∀ i id arn, (worked c i).Spawns id →
    (worked c i).recorded = some arn → ∃ a ∈ c.store.instances.rows,
      a.id = id ∧ a.spawner_application_instance_id.task_arn?.join = some arn)
    (fun i id arn _ hrecorded => (nomatch hrecorded)) ?_
  intro c i o k a s hrun hi _ ha ih j id arn hspawns hrecorded
  have hpre : WorkerStep dep o (worked c i) := hrun.pre hi (kind i).wp_working
  by_cases hsave : ∃ id' sid, o = .save_instance id' (.spawner_application_instance_id sid)
  · obtain ⟨id', sid, rfl⟩ := hsave
    obtain ⟨⟨b, hread, rfl⟩, ⟨id', hspawns'⟩, -⟩ := hpre
    have hid : b.id = id' := by
      obtain ⟨name, user, tag, options, hm⟩ := hspawns'
      exact (good_of_run hrun i).found b _ hread hm
    subst hid
    by_cases hj : j = i
    · subst hj
      rw [worked_go_self] at hspawns hrecorded
      rcases ha with ⟨rfl, rfl, -⟩ | ⟨t, rfl, ht, rfl⟩
      · exact ih j id arn hspawns hrecorded
      · have hidb : id = b.id := by
          obtain ⟨name, user, tag, options, hm⟩ := hspawns
          exact ((good_of_run hrun j).found b _ hread hm).symm
        obtain ⟨name, user, tag, options, hm⟩ := hspawns'
        obtain ⟨row, hrow, hrowid, -⟩ := row_of_spawns h₀ hrun hm
        refine ⟨_, (InstanceTable.mem_update ht).mpr ⟨row, hrow, rfl⟩, ?_⟩
        rw [if_pos hrowid]
        exact ⟨hrowid.trans hidb.symm, hrecorded⟩
    · rw [worked_go_of_ne hj] at hspawns hrecorded
      obtain ⟨row, hrow, hrowid, harn⟩ := ih j id arn hspawns hrecorded
      have hrows := (effect_of_act (show act dep _ c.store a s from ha)).rows
      obtain ⟨row', hrow', hid', hsid⟩ := hrows.keeps_sid hrow fun sid' he => by
        have hid : b.id = row.id := (Op.save_instance.inj he).1
        exact hj (one_spawner h₀ hrun (hrowid ▸ hspawns) (hid ▸ hspawns'))
      exact ⟨row', hrow', hid'.trans hrowid, hsid ▸ harn⟩
  · have hbefore : (worked c j).Spawns id ∧ (worked c j).recorded = some arn := by
      by_cases hj : j = i
      · subst hj
        rw [worked_go_self] at hspawns hrecorded
        have hb := (worked c j).becomes_after ⟨o, a⟩
        generalize (worked c j).after ⟨o, a⟩ = s' at hb hspawns hrecorded
        cases hb with
        | took m he =>
            cases he
            rw [show worked c j = {} from hpre] at hrecorded
            cases hrecorded
        | recorded id' sid he =>
            cases he
            exact absurd ⟨id', sid, rfl⟩ hsave
        | _ => exact ⟨hspawns, hrecorded⟩
      · rw [worked_go_of_ne hj] at hspawns hrecorded
        exact ⟨hspawns, hrecorded⟩
    obtain ⟨row, hrow, hrowid, harn⟩ := ih j id arn hbefore.1 hbefore.2
    obtain ⟨row', hrow', hid', hsid⟩ := (effect_of_act ha).rows.keeps_sid hrow
      fun sid he => hsave ⟨_, _, he⟩
    exact ⟨row', hrow', hid'.trans hrowid, hsid ▸ harn⟩

theorem row_of_published (h₀ : w₀.messages = []) (h : (workspace dep kind).Run ok w₀ c) {i : ι}
    {id arn : Str} (hs : StartedBy c i id arn) (hp : (worked c i).published = true) :
    ∃ a ∈ c.store.instances.rows, a.id = id ∧ a.task_arn dep = some arn := by
  have hgood := good_of_run h i
  obtain ⟨name, user, tag, id', options, hm, hoptions⟩ := hgood.spawns arn hs.2
  obtain ⟨name', user', tag', options', hm'⟩ := hs.1
  cases hm.symm.trans hm'
  obtain ⟨a, ha, haid, harn⟩ := recorded_of_run h₀ h i id arn hs.1 (hgood.recorded hp arn hs.2)
  obtain ⟨b, hb, hbid, hboptions⟩ := row_of_spawns h₀ h hm
  obtain rfl := InstanceTable.eq_of_id ha hb (haid.trans hbid.symm)
  obtain ⟨o, ho⟩ := Option.isSome_iff_exists.mp hoptions
  refine ⟨a, ha, haid, ?_⟩
  rw [ApplicationInstance.task_arn, hboptions, dep.cluster_name_of_options ho]
  exact harn

/-! ## Stops that are to come -/

theorem stopped_before {o : Op} {t t' : InstanceTable} {id : Str} (hs : RowsStep o t t')
    (ho : RowOp o) (h : t'.Stopped id) : t.Stopped id ∨ o.marks_stopped = some id := by
  obtain ⟨b, hb, hid, hstate⟩ := h
  cases hs with
  | same he => exact .inl ⟨b, he ▸ hb, hid, hstate⟩
  | created new i he ht =>
      subst he
      rcases (InstanceTable.mem_insert ht).mp hb with rfl | hb
      · have hnew : new.state = .STOPPED := hstate
        cases hnew.symm.trans ho.1
      · exact .inl ⟨b, hb, hid, hstate⟩
  | saved i u he ht =>
      subst he
      obtain ⟨a, ha, hab⟩ := (InstanceTable.mem_update ht).mp hb
      split at hab
      next hi =>
        have haid : a.id = id := by
          rw [← hid, ← hab]
          exact (InstanceTable.apply_id u a).symm
        rcases ho with (rfl | rfl) | ⟨sid, rfl⟩ | ⟨url, rfl⟩
        · subst hab
          cases hstate
        · exact .inr (congrArg some (hi.symm.trans haid))
        · subst hab
          exact .inl ⟨a, ha, haid, hstate⟩
        · subst hab
          exact .inl ⟨a, ha, haid, hstate⟩
      next =>
        subst hab
        exact .inl ⟨a, ha, hid, hstate⟩

theorem tells_go {s : Worked} {o : Op} {r : Ans o} {w w' : World} {id arn : Str}
    (hpre : WorkerStep dep o s) (ha : act dep o w r w')
    (hrow : ∃ a ∈ w'.instances.rows, a.id = id ∧ a.task_arn dep = some arn)
    (h : s.Told id ∨ s.Stops dep arn) :
    (s.after ⟨o, r⟩).Told id ∨ (s.after ⟨o, r⟩).Stops dep arn := by
  have hb := s.becomes_after ⟨o, r⟩
  generalize s.after ⟨o, r⟩ = s' at hb
  cases hb with
  | took m he =>
      cases he
      obtain rfl : s = {} := hpre
      rcases h with h | ⟨id', a, hm, -⟩
      · cases h.1
      · cases hm
  | read id' r' he =>
      cases he
      rcases h with h | ⟨id'', a, hm, hread, harn⟩
      · have hid := hpre h.2
        rw [h.1, Option.map_some, Option.some.injEq] at hid
        obtain rfl : id = id' := hid
        obtain ⟨a, harow, haid, harn⟩ := hrow
        obtain ⟨hr, rfl⟩ := ha
        subst haid
        have hfound : r' = .ok a := hr.trans (InstanceTable.get_id harow)
        refine .inr ⟨a.id, a, h.1, ?_, harn⟩
        rw [h.2, Option.none_or, hfound]
      · refine .inr ⟨id'', a, hm, ?_, harn⟩
        rw [hread]
        rfl
  | _ =>
      rcases h with h | ⟨id', a, hm, hread, harn⟩
      · exact .inl h
      · exact .inr ⟨id', a, hm, hread, harn⟩

theorem stopComes_go {i : ι} {o : Op} {r : Ans o} {p : M Unit} {w : World} {id arn : Str}
    (hpre : WorkerStep dep o (worked c i)) (ha : act dep o c.store r w)
    (hrow : ∃ a ∈ w.instances.rows, a.id = id ∧ a.task_arn dep = some arn)
    (h : StopComes dep c id arn) : StopComes dep (c.go i ⟨o, r⟩ p w) id arn := by
  have heffect := effect_of_act ha
  rcases h with h | h | ⟨j, h⟩
  · refine .inl ?_
    rw [Config.go_store, heffect.stop_requested]
    exact List.mem_append_left _ h
  · rcases List.mem_append.mp (heffect.messages.mem_iff.mp (List.mem_append_left _ h)) with h | h
    · cases o with
      | receive =>
          refine .inr (.inr ⟨i, .inl ?_⟩)
          rw [worked_go_self, show worked c i = {} from hpre]
          exact ⟨congrArg some (List.mem_singleton.mp h).symm, rfl⟩
      | _ => cases h
    · exact .inr (.inl h)
  · refine .inr (.inr ⟨j, ?_⟩)
    by_cases hj : j = i
    · subst hj
      rw [worked_go_self]
      exact tells_go hpre ha hrow h
    · rw [worked_go_of_ne hj]
      exact h

theorem stopComes_of_run (h₀ : w₀.messages = [])
    (h : (workspace dep kind).Run (StopsKnown dep) w₀ c) :
    ∀ i id arn, StartedBy c i id arn → (worked c i).published = true →
      c.store.instances.Stopped id → StopComes dep c id arn := by
  refine h.invariant (I := fun c => ∀ i id arn, StartedBy c i id arn →
    (worked c i).published = true → c.store.instances.Stopped id → StopComes dep c id arn)
    (fun i id arn _ hp => (nomatch hp)) ?_
  intro c i o k a s hrun hi hok ha ih j id arn hs hp hstopped
  have hpre : WorkerStep dep o (worked c i) := hrun.pre hi (kind i).wp_working
  have hrow := row_of_published h₀ (hrun.step hi hok ha) hs hp
  have hbefore := stopped_before (effect_of_act ha).rows ((kind i).rowOp (hrun.only hi (kind i).only))
    hstopped
  -- a worker that had started the task and stored its address before
  have hold (hs : StartedBy c j id arn) (hp : (worked c j).published = true) :
      StopComes dep c id arn := by
    rcases hbefore with hbefore | hmarks
    · exact ih j id arn hs hp hbefore
    · exact hok.marked id hmarks j arn hs.2 hs.1 hp
  refine stopComes_go hpre ha hrow ?_
  by_cases hj : j = i
  · subst hj
    rw [StartedBy, worked_go_self] at hs
    rw [worked_go_self] at hp
    have hb := (worked c j).becomes_after ⟨o, a⟩
    generalize (worked c j).after ⟨o, a⟩ = s' at hb hs hp
    cases hb with
    | took m he =>
        cases he
        have harn : arn ∈ (worked c j).task_arns := hs.2
        rw [show worked c j = {} from hpre] at harn
        cases harn
    | started cluster_name definition_arn arn' he =>
        cases he
        have hpublished : (worked c j).published = true := hp
        rw [hpre.1] at hpublished
        cases hpublished
    | published id' url he =>
        cases he
        obtain ⟨⟨b, hread, rfl⟩, -⟩ := hpre
        obtain ⟨name, user, tag, options, hm⟩ := hs.1
        obtain rfl : b.id = id := (good_of_run hrun j).found b _ hread hm
        rcases hbefore with hbefore | hmarks
        · exact hok.published b.id rfl hbefore arn hs.2
        · cases hmarks
    | _ => exact hold hs hp
  · rw [StartedBy, worked_go_of_ne hj] at hs
    rw [worked_go_of_ne hj] at hp
    exact hold hs hp

/-- Every task is over, or waits for a message when there is none. -/
def AtRest (c : Config Ans Exc Unit ι World) : Prop :=
  c.store.messages = [] ∧ ∀ i o, (c.tasks i).next = some o → o = .receive

theorem over_of_atRest (h : (workspace dep kind).Run ok w₀ c) (hq : AtRest c) (i : ι) :
    (worked c i).Over dep := by
  cases hi : c.tasks i with
  | pure u => exact h.post (r := .ok u) hi (kind i).wp_working
  | raise e => exact h.post (r := .error e) hi (kind i).wp_working
  | op o k =>
      obtain rfl : o = .receive := hq.2 i o (by rw [hi, Prog.next])
      have hpre : WorkerStep dep .receive (worked c i) := h.pre hi (kind i).wp_working
      rw [show worked c i = {} from hpre]
      exact over_start

/-- When nothing remains to be done, every task that was started for an instance that is
stopped was asked to stop. -/
theorem no_orphans (h₀ : w₀.messages = []) (h : (workspace dep kind).Run (StopsKnown dep) w₀ c)
    (hrest : AtRest c) (a : ApplicationInstance) (ha : a ∈ c.store.instances.rows)
    (hstate : a.state = .STOPPED) (i : ι) (task_arn : Str) (hs : StartedBy c i a.id task_arn) :
    task_arn ∈ c.store.stop_requested := by
  have hover := over_of_atRest h hrest
  rcases (hover i).started task_arn hs.2 with hp | hasked
  · rcases stopComes_of_run h₀ h i a.id task_arn hs hp ⟨a, ha, rfl, hstate⟩ with hc | hc | ⟨j, hc⟩
    · exact hc
    · rw [hrest.1] at hc
      cases hc
    · rcases hc with hc | hc
      · exact absurd hc ((hover j).read a.id)
      · exact asked_of_run h j task_arn ((hover j).stopped task_arn hc)
  · exact asked_of_run h i task_arn hasked

end Runs

/-! ## Deciding the condition -/

section Decidable

variable {s : Worked} {dep : Deployment} {id task_arn : Str}

theorem Worked.spawns_iff : s.Spawns id ↔ (s.message.bind Message.token).map Prod.fst = some id := by
  constructor
  · rintro ⟨name, user, tag, options, hm⟩
    rw [hm]
    rfl
  · intro h
    obtain ⟨token, htoken, rfl⟩ := Option.map_eq_some_iff.mp h
    obtain ⟨m, hm, htoken⟩ := Option.bind_eq_some_iff.mp htoken
    cases m with
    | spawn name user tag id options =>
        cases htoken
        exact ⟨name, user, tag, options, hm⟩
    | stop name id => cases htoken

instance : Decidable (s.Spawns id) := decidable_of_iff _ Worked.spawns_iff.symm

instance : Decidable (s.Told id) :=
  decidable_of_iff (s.message = some (.stop .FARGATE id) ∧ s.read.isNone = true)
    (and_congr_right fun _ => Option.isNone_iff_eq_none)

/-- The task that a worker is to stop. -/
def Worked.stops? (dep : Deployment) (s : Worked) : Option Str :=
  match s.message, s.read with
  | some (.stop .FARGATE _), some (.ok a) => a.task_arn dep
  | _, _ => none

theorem Worked.stops_iff : s.Stops dep task_arn ↔ s.stops? dep = some task_arn := by
  constructor
  · rintro ⟨id, a, hm, hread, harn⟩
    rw [stops?, hm, hread]
    exact harn
  · intro h
    rw [stops?] at h
    split at h
    next id a hm hread => exact ⟨id, a, hm, hread, h⟩
    next => cases h

instance : Decidable (s.Stops dep task_arn) := decidable_of_iff _ Worked.stops_iff.symm

variable {ι : Type} [Fintype ι]

instance (c : Config Ans Exc Unit ι World) : Decidable (StopComes dep c id task_arn) :=
  inferInstanceAs (Decidable (_ ∨ _ ∨ ∃ _, _ ∨ _))

instance (c : Config Ans Exc Unit ι World) (i : ι) (o : Op) : Decidable (StopsKnown dep c i o) :=
  decidable_of_iff ((∀ id ∈ o.marks_stopped, ∀ j, ∀ task_arn ∈ (worked c j).task_arns,
      (worked c j).Spawns id → (worked c j).published = true → StopComes dep c id task_arn) ∧
    ∀ id ∈ o.publishes, c.store.instances.Stopped id →
      ∀ task_arn ∈ (worked c i).task_arns, StopComes dep c id task_arn)
    ⟨fun h => ⟨h.1, h.2⟩, fun h => ⟨h.marked, h.published⟩⟩

/-- The operation waits for a message. -/
def Op.waits : Op → Bool
  | .receive => true
  | _ => false

omit [Fintype ι] in
theorem atRest_iff {c : Config Ans Exc Unit ι World} :
    AtRest c ↔ c.store.messages = [] ∧ ∀ i, (c.tasks i).next.all Op.waits = true := by
  refine and_congr_right fun _ => forall_congr' fun i => ?_
  cases (c.tasks i).next with
  | none => exact ⟨fun _ => rfl, fun _ o ho => nomatch ho⟩
  | some o =>
      refine ⟨fun h => ?_, fun h o' ho => ?_⟩
      · rw [h o rfl]
        rfl
      · cases ho
        cases o with
        | receive => rfl
        | _ => cases h

instance (c : Config Ans Exc Unit ι World) : Decidable (AtRest c) :=
  decidable_of_iff _ atRest_iff.symm

end Decidable

/-! ## An orphan

The instance is stopped by the API after its spawner has looked. -/

namespace Orphaned

/-- The tool is started, a worker spawns it, it is stopped, and another worker waits for a
message. -/
inductive Step where
  | put | spawner | stop | stopper
deriving DecidableEq, Repr

instance : Fintype Step := ⟨{.put, .spawner, .stop, .stopper}, fun x => by cases x <;> decide⟩

/-- The tool is stopped by the API, or from the page. -/
def kind (api : Bool) : Step → Task
  | .put => Small.request .PUT none
  | .spawner => .worker
  | .stop => if api then Small.request .DELETE none else .tools_html_POST Small.ann Small.host
  | .stopper => .worker

/-- The API stops the instance between the look of its spawner and the end. -/
def orphaning : List Step :=
  List.replicate 6 Step.put ++ List.replicate 12 Step.spawner ++ List.replicate 3 Step.stop ++
    List.replicate 2 Step.spawner

/-- The configuration at the end. -/
def final : Config Ans Exc Unit Step World := Small.after (kind true) orphaning

/-- The page stops the instance when its spawner is over. -/
def telling : List Step :=
  List.replicate 6 Step.put ++ List.replicate 14 Step.spawner ++ List.replicate 3 Step.stop ++
    List.replicate 3 Step.stopper

/-- The configuration at the end of that. -/
def told : Config Ans Exc Unit Step World :=
  ((workspace Small.dep (kind false)).start Small.world).play Small.pick (StopsKnown Small.dep)
    telling

/-- The instance, stopped. -/
def stateOf (c : Config Ans Exc Unit Step World) : List (Str × InstanceState) :=
  c.store.instances.rows.map fun a => (a.id, a.state)

/-- The task of the instance. -/
def task_arn : Str := "task of definition"

end Orphaned

open Orphaned in
/-- The API stops an instance, and nobody asks its task to stop. -/
theorem task_orphaned :
    (workspace Small.dep (kind true)).Run Always Small.world final ∧ AtRest final ∧
      stateOf final = [(("0" : Str), .STOPPED)] ∧ StartedBy final .spawner "0" task_arn ∧
      task_arn ∉ final.store.stop_requested := by
  have hspawns : (worked final .spawner).Spawns "0" := by decide +kernel
  have hstarted : task_arn ∈ (worked final .spawner).task_arns := by decide +kernel
  refine ⟨Small.run_after (kind true) orphaning, ?_, ?_, ⟨hspawns, hstarted⟩, ?_⟩
  · decide +kernel
  · decide +kernel
  · decide +kernel

open Orphaned in
/-- The page stops an instance, and its task is asked to stop. -/
theorem task_stopped :
    AtRest told ∧ stateOf told = [(("0" : Str), .STOPPED)] ∧
      StartedBy told .spawner "0" task_arn ∧ task_arn ∈ told.store.stop_requested := by
  have hspawns : (worked told .spawner).Spawns "0" := by decide +kernel
  have hstarted : task_arn ∈ (worked told .spawner).task_arns := by decide +kernel
  have hrest : AtRest told := by decide +kernel
  have hrows : stateOf told = [(("0" : Str), .STOPPED)] := by decide +kernel
  have hrun : (workspace Small.dep (kind false)).Run (StopsKnown Small.dep) Small.world told :=
    Shared.run_play (fun _ => act_of_waiting) Small.world telling
  refine ⟨hrest, hrows, ⟨hspawns, hstarted⟩, ?_⟩
  obtain ⟨a, ha, he⟩ := List.mem_map.mp (hrows ▸ List.mem_singleton_self _ :
    (("0" : Str), InstanceState.STOPPED) ∈ stateOf told)
  obtain ⟨hid, hstate⟩ := Prod.mk.inj he
  refine no_orphans rfl hrun hrest a ha hstate .spawner task_arn ⟨?_, hstarted⟩
  rw [hid]
  exact hspawns

end Applications
