import DataWorkspace.Core.Credentials
import DataWorkspace.Sql.Reconcile
import Mathlib.Data.List.Dedup

/-!
# What the credentials function does to a permanent role

`new_private_database_credentials` performs two dozen statements in each database.
Most of them leave the privileges and memberships of the permanent role alone:
`Unchanged` is the relation they keep, and `Spares` says which they are.  The six
that revoke and grant follow a plan, and the plan was computed from queries on the
same database.

`Synced` puts this together.  Every table, every schema but the role's own, and
every role is reconciled in the sense of `Sql.Reconciled`, with the queries
deciding what is seen.  `synced_of_run` proves it of every completed run.
-/

namespace Core

open Py Datasets Sql Async

/-! ## Statements that spare a role -/

/-- The statement touches no privilege and no membership of the role, except that
it may make the schema of the role's own name. -/
structure Spares (role : Str) (st : Statement) : Prop where
  revokedTables : (st.effect role).revokedTables = []
  selectedTables : (st.effect role).selectedTables = []
  revokedSchemas : (st.effect role).revokedSchemas = []
  usedSchemas : (st.effect role).usedSchemas = []
  ownedSchemas : ∀ s ∈ (st.effect role).ownedSchemas, s = role
  revokedRoles : (st.effect role).revokedRoles = []
  grantedRoles : (st.effect role).grantedRoles = []

/-- The privileges and memberships of the role are the same on both servers, except
for a schema of the role's own name that was made in between. -/
structure Unchanged (role : Str) (c c' : Cluster) : Prop where
  relations : c'.relations = c.relations
  table : ∀ t p, c'.HasTable role t p ↔ c.HasTable role t p
  schema : ∀ s p, (s = role → role ∈ c.schemas) → (c'.HasSchema role s p ↔ c.HasSchema role s p)
  member : ∀ r, c'.IsMember r role ↔ c.IsMember r role
  schemas : ∀ s ∈ c.schemas, s ∈ c'.schemas

theorem Unchanged.refl (role : Str) (c : Cluster) : Unchanged role c c where
  relations := rfl
  table _ _ := Iff.rfl
  schema _ _ _ := Iff.rfl
  member _ := Iff.rfl
  schemas _ h := h

theorem Unchanged.trans {role : Str} {c c' c'' : Cluster} (h : Unchanged role c c')
    (h' : Unchanged role c' c'') : Unchanged role c c'' where
  relations := h'.relations.trans h.relations
  table t p := (h'.table t p).trans (h.table t p)
  schema s p hs := (h'.schema s p fun he => h.schemas _ (hs he)).trans (h.schema s p hs)
  member r := (h'.member r).trans (h.member r)
  schemas s hs := h'.schemas s (h.schemas s hs)

theorem Spares.unchanged {role : Str} {st : Statement} {c c' : Cluster} (hs : Spares role st)
    (h : st.exec c = some c') : Unchanged role c c' where
  relations := Statement.exec_relations h
  table t p := by simp [Statement.exec_hasTable h, hs.revokedTables, hs.selectedTables]
  schema s p hown := by
    have hno : ¬ (s ∈ (st.effect role).ownedSchemas ∧ s ∉ c.schemas) := by
      rintro ⟨hmem, hnew⟩
      have he := hs.ownedSchemas s hmem
      exact hnew (he ▸ hown he)
    simp [Statement.exec_hasSchema h, hs.revokedSchemas, hs.usedSchemas, hno]
  member r := by simp [Statement.exec_isMember h, hs.revokedRoles, hs.grantedRoles]
  schemas s hmem := (Statement.exec_mem_schemas h s).mpr (.inl hmem)

theorem spares_createRole (role r : Str) : Spares role (.createRole r) := by
  constructor <;> simp [Statement.effect]

theorem spares_createSchema (role r : Str) : Spares role (.createSchema r r) := by
  constructor <;> simp [Statement.effect, eq_comm]

theorem spares_alterUser (role r parameter : Str) : Spares role (.alterUser r parameter) := by
  constructor <;> simp [Statement.effect]

theorem spares_grantRoles {role member : Str} (h : role ≠ member) (roles : List Str) :
    Spares role (.grantRoles roles member) := by
  constructor <;> simp [Statement.effect, h]

theorem unchanged_ensureRole (role r : Str) (c : Cluster) : Unchanged role c (ensureRole c r) := by
  unfold ensureRole
  cases h : Statement.exec c (.createRole r) with
  | none => exact .refl role c
  | some c' => exact (spares_createRole role r).unchanged h

/-! ## Programs that spare a role -/

section Programs

variable {settings : Settings} {role : Str} {db : Database}

def SparingOp (role : Str) (db : Database) : Op → Prop
  | .team_schema_names _ => True
  | .postgres_password => True
  | .query _ _ => True
  | .ensure_db_role db' _ => db' = db
  | .execute db' st => db' = db ∧ Spares role st
  | .acquire _ => True
  | .release => True
  | .create_database_user _ _ => True

/-- A program runs in one database when it touches no other. -/
def OpIn (db : Database) : Op → Prop
  | .query db' _ => db' = db
  | .ensure_db_role db' _ => db' = db
  | .execute db' _ => db' = db
  | _ => True

structure SameElsewhere (db : Database) (w w' : World) : Prop where
  teams : w'.teams = w.teams
  others : ∀ db', db' ≠ db → w'.clusters db' = w.clusters db'

theorem SameElsewhere.refl (db : Database) (w : World) : SameElsewhere db w w :=
  ⟨rfl, fun _ _ => rfl⟩

theorem SameElsewhere.trans {w w' w'' : World} (h : SameElsewhere db w w')
    (h' : SameElsewhere db w' w'') : SameElsewhere db w w'' :=
  ⟨h'.teams.trans h.teams, fun d hd => (h'.others d hd).trans (h.others d hd)⟩

theorem sameElsewhere_setCluster (w : World) (c : Cluster) :
    SameElsewhere db w (w.setCluster db c) where
  teams := rfl
  others d hd := by simp [World.setCluster, hd]

@[simp] theorem World.setCluster_self (w : World) (c : Cluster) :
    (w.setCluster db c).clusters db = c := by simp [World.setCluster]

theorem exec_unchanged {o : Op} (ho : SparingOp role db o) (w : World) :
    Unchanged role (w.clusters db) ((exec settings o w).2.clusters db) := by
  cases o with
  | ensure_db_role db' r =>
      obtain rfl : db' = db := ho
      simpa [exec] using unchanged_ensureRole role r (w.clusters db')
  | execute db' st =>
      obtain ⟨rfl, hst⟩ : db' = db ∧ Spares role st := ho
      simp only [exec]
      cases h : st.exec (w.clusters db') with
      | none => exact .refl _ _
      | some c => simpa using hst.unchanged h
  | acquire timeout =>
      simp only [exec]
      split <;> exact .refl _ _
  | team_schema_names dw_user => exact .refl _ _
  | postgres_password => exact .refl _ _
  | query db' q => exact .refl _ _
  | release => exact .refl _ _
  | create_database_user owner username => exact .refl _ _

theorem run_unchanged {α : Type} {p : M α} (hp : p.Only (SparingOp role db)) (w : World) :
    Unchanged role (w.clusters db) ((p.run (exec settings) w).2.clusters db) :=
  Prog.run_rel (R := fun w w' => Unchanged role (w.clusters db) (w'.clusters db))
    (fun _ => .refl _ _) .trans (fun _ s ho => exec_unchanged ho s) hp w

theorem exec_sameElsewhere {o : Op} (ho : OpIn db o) (w : World) :
    SameElsewhere db w (exec settings o w).2 := by
  cases o with
  | ensure_db_role db' r =>
      obtain rfl : db' = db := ho
      exact sameElsewhere_setCluster w _
  | execute db' st =>
      obtain rfl : db' = db := ho
      simp only [exec]
      cases st.exec (w.clusters db') with
      | none => exact .refl _ _
      | some c => exact sameElsewhere_setCluster w c
  | acquire timeout =>
      simp only [exec]
      split
      · exact .refl _ _
      · exact ⟨rfl, fun _ _ => rfl⟩
  | team_schema_names dw_user => exact .refl _ _
  | postgres_password => exact .refl _ _
  | query db' q => exact .refl _ _
  | release => exact ⟨rfl, fun _ _ => rfl⟩
  | create_database_user owner username => exact ⟨rfl, fun _ _ => rfl⟩

theorem run_sameElsewhere {α : Type} {p : M α} (hp : p.Only (OpIn db)) (w : World) :
    SameElsewhere db w (p.run (exec settings) w).2 :=
  Prog.run_rel (R := SameElsewhere db) (.refl db) .trans (fun _ s ho => exec_sameElsewhere ho s)
    hp w

theorem only_execute {st : Statement} {P : Op → Prop} (h : P (.execute db st)) :
    (execute db st).Only P := by
  refine ⟨h, fun a => ?_⟩
  cases a <;> trivial

theorem only_await {o : Op} {P : Op → Prop} (h : P o) : (await o).Only P := ⟨h, fun _ => trivial⟩

theorem only_withLock {α : Type} {P : Op → Prop} {timeout : Nat} {body : M α}
    (ha : P (.acquire timeout)) (hr : P .release) (hb : body.Only P) :
    (withLock timeout body).Only P := by
  refine ⟨ha, fun a => ?_⟩
  cases a with
  | none => trivial
  | some _ =>
      refine Prog.Only.bind (Prog.Only.attempt hb) fun r => ?_
      refine ⟨hr, fun _ => ?_⟩
      cases r <;> trivial

theorem only_grant_missing {data : DatabaseData} (h : role ≠ data.USER) :
    (grant_missing_db_roles data db).Only (SparingOp role db) := by
  refine ⟨trivial, fun missing => ?_⟩
  dsimp only [Prog.bind]
  split
  · trivial
  · exact only_withLock trivial trivial (only_execute ⟨rfl, spares_grantRoles h _⟩)

theorem only_create_user_and_schemas (db_user : Str) (teams : List Str) :
    (create_user_and_schemas settings db db_user role teams).Only (SparingOp role db) := by
  refine Prog.Only.bind (only_execute ⟨rfl, spares_createRole role db_user⟩) fun _ => ?_
  refine Prog.Only.bind (Prog.Only.forM fun r _ => only_execute ⟨rfl, spares_createSchema role r⟩)
    fun _ => ?_
  exact Prog.Only.forM fun r _ => Prog.Only.forM fun parameter _ =>
    only_execute ⟨rfl, spares_alterUser role r parameter⟩

theorem only_get_new_credentials (suffix db_user : Str) (teams : List Str)
    (tables : List (Str × Str)) :
    (get_new_credentials settings suffix db_user teams db tables).Only (OpIn db) := by
  have hplan : ∀ p db_role, (apply_plan db p db_user db_role).Only (OpIn db) := by
    intro p db_role
    have hunless : ∀ {α : Type} (l : List α) st, (executeUnlessEmpty db l st).Only (OpIn db) := by
      intro α l st
      unfold executeUnlessEmpty
      split
      · trivial
      · exact only_execute rfl
    refine only_withLock trivial trivial ?_
    refine Prog.Only.bind (hunless _ _) fun _ => ?_
    refine Prog.Only.bind (hunless _ _) fun _ => ?_
    refine Prog.Only.bind (hunless _ _) fun _ => ?_
    refine Prog.Only.bind (hunless _ _) fun _ => ?_
    refine Prog.Only.bind (hunless _ _) fun _ => ?_
    refine Prog.Only.bind (hunless _ _) fun _ => ?_
    exact Prog.Only.bind (only_execute rfl) fun _ => only_execute rfl
  have hmissing : ∀ data, (grant_missing_db_roles data db).Only (OpIn db) := by
    intro data
    refine ⟨rfl, fun missing => ?_⟩
    dsimp only [Prog.bind]
    split
    · trivial
    · exact only_withLock trivial trivial (only_execute rfl)
  have hcreate : ∀ db_role,
      (create_user_and_schemas settings db db_user db_role teams).Only (OpIn db) := by
    intro db_role
    refine Prog.Only.bind (only_execute rfl) fun _ => ?_
    refine Prog.Only.bind (Prog.Only.forM fun _ _ => only_execute rfl) fun _ => ?_
    exact Prog.Only.forM fun _ _ => Prog.Only.forM fun _ _ => only_execute rfl
  refine Prog.Only.bind (only_await trivial) fun password => ?_
  refine Prog.Only.bind (only_await rfl) fun existing => ?_
  refine Prog.Only.bind (Prog.Only.forM fun _ _ => only_await rfl) fun _ => ?_
  refine Prog.Only.bind (hmissing _) fun _ => ?_
  refine Prog.Only.bind (p := find_plan ..) ⟨rfl, fun _ => ⟨rfl, fun _ => ⟨rfl, fun _ => trivial⟩⟩⟩
    fun p => ?_
  refine Prog.Only.bind (hcreate _) fun _ => ?_
  refine Prog.Only.bind (hplan p _) fun _ => ?_
  exact Prog.Only.bind (only_execute rfl) fun _ => trivial

end Programs

/-! ## What the queries find -/

section Queries

variable {c : Cluster} {role : Str}

theorem mem_relationsWhere {p : Str × Str → Bool} {t : Str × Str} :
    t ∈ relationsWhere c p ↔ t ∈ c.relations.map Relation.key ∧ p t = true := by
  simp only [relationsWhere, relationsOf, List.mem_append, List.mem_filter, List.mem_map]
  constructor
  · rintro ((⟨⟨r, ⟨hr, -⟩, rfl⟩, hp⟩ | ⟨⟨r, ⟨hr, -⟩, rfl⟩, hp⟩) | ⟨⟨r, ⟨hr, -⟩, rfl⟩, hp⟩) <;>
      exact ⟨⟨r, hr, rfl⟩, hp⟩
  · rintro ⟨⟨r, hr, rfl⟩, hp⟩
    cases hk : r.kind with
    | pg_tables => exact .inl (.inl ⟨⟨r, ⟨hr, by simp [hk]⟩, rfl⟩, hp⟩)
    | pg_views => exact .inl (.inr ⟨⟨r, ⟨hr, by simp [hk]⟩, rfl⟩, hp⟩)
    | pg_matviews => exact .inr ⟨⟨r, ⟨hr, by simp [hk]⟩, rfl⟩, hp⟩

/-- The table is one the role should have and exists. -/
def Allowed (c : Cluster) (tables : List (Str × Str)) (t : Str × Str) : Prop :=
  t ∈ tables ∧ t ∈ c.relations.map Relation.key

/-- The schema has a table the role should have. -/
def AllowedSchema (c : Cluster) (tables : List (Str × Str)) (s : Str) : Prop :=
  ∃ t, Allowed c tables t ∧ t.1 = s

theorem mem_tables_and_views_that_exist {tables : List (Str × Str)} {t : Str × Str} :
    t ∈ tables_and_views_that_exist c tables ↔ Allowed c tables t := by
  unfold tables_and_views_that_exist Allowed
  by_cases h : tables = []
  · simp [h]
  · rw [if_neg h, List.mem_dedup, mem_relationsWhere, decide_eq_true_eq]
    exact and_comm

theorem mem_tables_with_existing_privs {t : Str × Str} :
    t ∈ tables_with_existing_privs c role role ↔
      skippedTableSchema role t.1 = false ∧ ∃ p, c.HasTable role t p := by
  unfold tables_with_existing_privs
  rw [mem_relationsWhere, Bool.and_eq_true, Bool.not_eq_true', Cluster.hasAnyTablePrivilege_iff]
  constructor
  · exact fun h => h.2
  · rintro ⟨hs, p, hp⟩
    exact ⟨hp.exists, hs, p, hp⟩

theorem mem_schemas_with_existing_privs {s : Str} :
    s ∈ schemas_with_existing_privs c role role ↔
      skippedSchema role s = false ∧ ∃ p, c.HasSchema role s p := by
  unfold schemas_with_existing_privs
  rw [List.mem_filter, Bool.and_eq_true, Bool.not_eq_true', Cluster.hasAnySchemaPrivilege_iff]
  constructor
  · exact fun h => h.2
  · rintro ⟨hs, p, hp⟩
    exact ⟨hp.exists, hs, p, hp⟩

theorem mem_db_team_roles_previously_granted {r : Str}
    (hrole : role ≠ "_team_") : r ∈ db_team_roles_previously_granted c role ↔
      r = "_team_" ∧ c.IsMember r role := by
  have hlike : like "\\_team\\_" r = (r == ("_team_" : Str)) := like_escape "_team_" r
  unfold db_team_roles_previously_granted
  rw [List.mem_filter, Bool.and_eq_true, hlike, beq_iff_eq, Cluster.pg_has_role, decide_eq_true_eq]
  constructor
  · rintro ⟨-, rfl, h | h⟩
    · exact absurd h.symm hrole
    · exact ⟨rfl, h⟩
  · rintro ⟨rfl, h⟩
    exact ⟨c.members_exist _ h, rfl, .inr h⟩

end Queries

/-! ## Applying the plan -/

section Apply

variable {settings : Settings} {role : Str} {db : Database} {w w' : World}

/-- What a statement does to the rights of a role, when it succeeds. -/
structure Does (st : Statement) (role : Str) (c c' : Cluster) : Prop where
  relations : c'.relations = c.relations
  table : ∀ t p, c'.HasTable role t p ↔
    (c.HasTable role t p ∧ t ∉ (st.effect role).revokedTables) ∨
      (p = .SELECT ∧ t ∈ (st.effect role).selectedTables)
  schema : ∀ s p, s ∉ (st.effect role).ownedSchemas → (c'.HasSchema role s p ↔
    (c.HasSchema role s p ∧ s ∉ (st.effect role).revokedSchemas) ∨
      (p = .USAGE ∧ s ∈ (st.effect role).usedSchemas))
  member : ∀ r, c'.IsMember r role ↔
    (c.IsMember r role ∧ r ∉ (st.effect role).revokedRoles) ∨ r ∈ (st.effect role).grantedRoles
  schemas : ∀ s ∈ c.schemas, s ∈ c'.schemas

theorem does_of_exec {st : Statement} {c c' : Cluster} (h : st.exec c = some c') (role : Str) :
    Does st role c c' where
  relations := Statement.exec_relations h
  table := Statement.exec_hasTable h role
  schema s p hs := by simp [Statement.exec_hasSchema h, hs]
  member r := Statement.exec_isMember h r role
  schemas s hs := (Statement.exec_mem_schemas h s).mpr (.inl hs)

theorem run_execute_ok {st : Statement}
    (h : (execute db st).run (exec settings) w = (.ok (), w')) :
    st.exec (w.clusters db) = some (w'.clusters db) := by
  simp only [execute, Prog.run, exec] at h
  cases hc : st.exec (w.clusters db) with
  | none => simp [hc, Prog.run] at h
  | some c =>
      simp only [hc, Prog.run, Prod.mk.injEq, true_and] at h
      rw [← h, World.setCluster_self]

theorem Spares.does {st : Statement} (h : Spares role st) (c : Cluster) : Does st role c c where
  relations := rfl
  table t p := by simp [h.revokedTables, h.selectedTables]
  schema s p _ := by simp [h.revokedSchemas, h.usedSchemas]
  member r := by simp [h.revokedRoles, h.grantedRoles]
  schemas s hs := hs

theorem run_executeUnlessEmpty_ok {α : Type} {l : List α} {st : Statement}
    (hnil : l = [] → Spares role st)
    (h : (executeUnlessEmpty db l st).run (exec settings) w = (.ok (), w')) :
    Does st role (w.clusters db) (w'.clusters db) := by
  unfold executeUnlessEmpty at h
  by_cases hl : l.isEmpty = true
  · rw [if_pos hl] at h
    obtain rfl : w = w' := congrArg Prod.snd h
    exact (hnil (List.isEmpty_iff.mp hl)).does _
  · rw [if_neg hl] at h
    exact does_of_exec (run_execute_ok h) role

theorem run_withLock_ok {α : Type} {timeout : Nat} {body : M α} {a : α}
    (h : (withLock timeout body).run (exec settings) w = (.ok a, w')) :
    ∃ w₁, body.run (exec settings) { w with locked := true } = (.ok a, w₁) ∧
      w'.clusters = w₁.clusters := by
  unfold withLock at h
  rw [Prog.run] at h
  by_cases hl : w.locked = true
  · simp [exec, hl, Prog.run] at h
  · simp only [exec, hl, Bool.false_eq_true, if_false, Prog.run_bind, Prog.run_attempt] at h
    rcases hb : body.run (exec settings) { w with locked := true } with ⟨e | b, w₁⟩
    · rw [hb] at h
      cases h
    · rw [hb] at h
      cases h
      exact ⟨w₁, rfl, rfl⟩

structure Applied (p : Plan) (role : Str) (c c' : Cluster) : Prop where
  relations : c'.relations = c.relations
  table : ∀ t q, c'.HasTable role t q ↔
    (c.HasTable role t q ∧ t ∉ p.tables_to_revoke) ∨ (q = .SELECT ∧ t ∈ p.tables_to_grant)
  schema : ∀ s q, c'.HasSchema role s q ↔
    (c.HasSchema role s q ∧ s ∉ p.schemas_to_revoke) ∨ (q = .USAGE ∧ s ∈ p.schemas_to_grant)
  member : ∀ r, c'.IsMember r role ↔
    (c.IsMember r role ∧ r ∉ p.db_team_roles_to_revoke) ∨ r ∈ p.db_team_roles_to_grant
  schemas : ∀ s ∈ c.schemas, s ∈ c'.schemas

theorem run_apply_plan_ok {p : Plan} {db_user : Str} (hne : role ≠ db_user)
    (h : (apply_plan db p db_user role).run (exec settings) w = (.ok (), w')) :
    Applied p role (w.clusters db) (w'.clusters db) := by
  obtain ⟨w₈, h, hw'⟩ := run_withLock_ok h
  obtain ⟨_, w₁, h₁, h⟩ := Prog.run_bind_ok.mp h
  obtain ⟨_, w₂, h₂, h⟩ := Prog.run_bind_ok.mp h
  obtain ⟨_, w₃, h₃, h⟩ := Prog.run_bind_ok.mp h
  obtain ⟨_, w₄, h₄, h⟩ := Prog.run_bind_ok.mp h
  obtain ⟨_, w₅, h₅, h⟩ := Prog.run_bind_ok.mp h
  obtain ⟨_, w₆, h₆, h⟩ := Prog.run_bind_ok.mp h
  obtain ⟨_, w₇, h₇, h₈⟩ := Prog.run_bind_ok.mp h
  have d₁ : Does _ role _ _ := run_executeUnlessEmpty_ok
    (fun hl => by constructor <;> simp [Statement.effect, hl]) h₁
  have d₂ : Does _ role _ _ := run_executeUnlessEmpty_ok
    (fun hl => by constructor <;> simp [Statement.effect, hl]) h₂
  have d₃ : Does _ role _ _ := run_executeUnlessEmpty_ok
    (fun hl => by constructor <;> simp [Statement.effect, hl]) h₃
  have d₄ : Does _ role _ _ := run_executeUnlessEmpty_ok
    (fun hl => by constructor <;> simp [Statement.effect, hl]) h₄
  have d₅ : Does _ role _ _ := run_executeUnlessEmpty_ok
    (fun hl => by constructor <;> simp [Statement.effect, hl]) h₅
  have d₆ : Does _ role _ _ := run_executeUnlessEmpty_ok
    (fun hl => by constructor <;> simp [Statement.effect, hl]) h₆
  have d₇ := does_of_exec (run_execute_ok h₇) role
  have d₈ := does_of_exec (run_execute_ok h₈) role
  rw [hw']
  constructor
  · rw [d₈.relations, d₇.relations, d₆.relations, d₅.relations, d₄.relations, d₃.relations,
      d₂.relations, d₁.relations]
  · intro t q
    rw [d₈.table, d₇.table, d₆.table, d₅.table, d₄.table, d₃.table, d₂.table, d₁.table]
    simp [Statement.effect]
  · intro s q
    rw [d₈.schema s q (by simp [Statement.effect]), d₇.schema s q (by simp [Statement.effect]),
      d₆.schema s q (by simp [Statement.effect]), d₅.schema s q (by simp [Statement.effect]),
      d₄.schema s q (by simp [Statement.effect]), d₃.schema s q (by simp [Statement.effect]),
      d₂.schema s q (by simp [Statement.effect]), d₁.schema s q (by simp [Statement.effect])]
    simp [Statement.effect]
  · intro r
    rw [d₈.member, d₇.member, d₆.member, d₅.member, d₄.member, d₃.member, d₂.member, d₁.member]
    simp [Statement.effect, hne]
  · intro s hs
    exact d₈.schemas s (d₇.schemas s (d₆.schemas s (d₅.schemas s (d₄.schemas s
      (d₃.schemas s (d₂.schemas s (d₁.schemas s hs)))))))

end Apply

/-! ## The role before and after -/

section Synced

variable {settings : Settings} {suffix db_user : Str} {teams : List Str} {db : Database}
  {tables : List (Str × Str)} {w w' : World}

/-- The rights of a role before and after its credentials were made: everything but
its own schema is reconciled, as far as the queries see. -/
structure Synced (role : Str) (teams : List Str) (tables : List (Str × Str)) (c c' : Cluster) :
    Prop where
  relations : c'.relations = c.relations
  table : ∀ t, Reconciled (skippedTableSchema role t.1 = false) (Allowed c tables t) .SELECT
    (c.HasTable role t) (c'.HasTable role t)
  schema : ∀ s, (s = role → role ∈ c.schemas) →
    Reconciled (skippedSchema role s = false) (AllowedSchema c tables s) .USAGE
      (c.HasSchema role s) (c'.HasSchema role s)
  own : AllowedSchema c tables role → c'.HasSchema role role .USAGE
  own_exists : role ∈ c'.schemas
  member : ∀ r, Reconciled (r = ("_team_" : Str)) (r ∈ teams) ()
    (fun _ : Unit => c.IsMember r role) (fun _ => c'.IsMember r role)

theorem permanentRole_startswith (suffix : Str) :
    startswith (permanentRole suffix) USER_SCHEMA_STEM = true :=
  startswith_append _ _

theorem permanentRole_ne_user (settings : Settings) (suffix name : Str) :
    permanentRole suffix ≠ (settings.DATABASES_DATA name).USER := by
  intro he
  have h := settings.user_not_permanent name
  rw [← he, permanentRole_startswith] at h
  cases h

theorem permanentRole_ne_team (suffix : Str) : permanentRole suffix ≠ "_team_" := by
  intro he
  have h := permanentRole_startswith suffix
  rw [he] at h
  exact absurd h (by decide)

theorem own_schema_skipped (role : Str) : skippedSchema role role = true := by
  simp [skippedSchema]

section Reconciling

variable {role : Str} {c₀ c₁ c c' : Cluster} {allowed tables : List (Str × Str)}
  {allowed_schemas team_roles schemas prev : List Str}

theorem Applied.reconciled_table (h : Applied (plan allowed allowed_schemas team_roles
      (tables_with_existing_privs c₁ role role) schemas prev) role c c') {t : Str × Str}
    (h₁ : ∀ q, c₁.HasTable role t q ↔ c₀.HasTable role t q)
    (h₂ : ∀ q, c.HasTable role t q ↔ c₀.HasTable role t q) :
    Reconciled (skippedTableSchema role t.1 = false) (t ∈ allowed) .SELECT (c₀.HasTable role t)
      (c'.HasTable role t) := by
  intro p
  rw [h.table, h₂]
  simp only [plan, List.mem_filter, decide_eq_true_eq, mem_tables_with_existing_privs, h₁]
  tauto

theorem Applied.reconciled_schema (h : Applied (plan allowed allowed_schemas team_roles tables
      (schemas_with_existing_privs c₁ role role) prev) role c c') {s : Str}
    (h₁ : ∀ q, c₁.HasSchema role s q ↔ c₀.HasSchema role s q)
    (h₂ : ∀ q, c.HasSchema role s q ↔ c₀.HasSchema role s q) :
    Reconciled (skippedSchema role s = false) (s ∈ allowed_schemas) .USAGE (c₀.HasSchema role s)
      (c'.HasSchema role s) := by
  intro p
  rw [h.schema, h₂]
  simp only [plan, List.mem_filter, decide_eq_true_eq, mem_schemas_with_existing_privs, h₁]
  tauto

theorem Applied.reconciled_member (hrole : role ≠ "_team_")
    (h : Applied (plan allowed allowed_schemas team_roles tables schemas
      (db_team_roles_previously_granted c₁ role)) role c c') {r : Str}
    (h₁ : c₁.IsMember r role ↔ c₀.IsMember r role) (h₂ : c.IsMember r role ↔ c₀.IsMember r role) :
    Reconciled (r = ("_team_" : Str)) (r ∈ team_roles) () (fun _ : Unit => c₀.IsMember r role)
      (fun _ => c'.IsMember r role) := by
  intro p
  rw [h.member, h₂]
  simp only [plan, List.mem_filter, decide_eq_true_eq, mem_db_team_roles_previously_granted hrole,
    h₁, exists_const]
  tauto

theorem allowed_congr (h : c'.relations = c.relations) (t : Str × Str) :
    Allowed c' tables t ↔ Allowed c tables t := by
  unfold Allowed
  rw [h]

end Reconciling

/-! ## The whole function -/

theorem run_roles {α : Type} (p : M α) (w : World) {r : Str} (hr : r ∈ (w.clusters db).roles) :
    r ∈ ((p.run (exec settings) w).2.clusters db).roles := by
  refine Prog.run_rel (R := fun w w' => ∀ r ∈ (w.clusters db).roles, r ∈ (w'.clusters db).roles)
    (fun _ _ h => h) (fun h h' r hr => h' r (h r hr)) ?_
    (Prog.only_true p) w r hr
  intro o w _ r hr
  cases o with
  | ensure_db_role db' role =>
      by_cases hdb : db = db'
      · subst hdb
        simp only [exec, World.setCluster_self, ensureRole]
        cases h : Statement.exec (w.clusters db) (.createRole role) with
        | none => exact hr
        | some c => exact Statement.exec_roles h hr
      · simpa [exec, World.setCluster, hdb] using hr
  | execute db' st =>
      simp only [exec]
      cases h : st.exec (w.clusters db') with
      | none => exact hr
      | some c =>
          by_cases hdb : db = db'
          · subst hdb
            simpa using Statement.exec_roles h hr
          · simpa [World.setCluster, hdb] using hr
  | acquire timeout =>
      simp only [exec]
      split <;> exact hr
  | team_schema_names dw_user => exact hr
  | postgres_password => exact hr
  | query db' q => exact hr
  | release => exact hr
  | create_database_user owner username => exact hr

theorem run_snd {α : Type} {p : M α} {r : Except Exc α} (h : p.run (exec settings) w = (r, w')) :
    w' = (p.run (exec settings) w).2 := by rw [h]

theorem run_ensure_db_roles : ∀ (l : List Str) {w w' : World} {u : PUnit},
    (l.forM fun role => await (.ensure_db_role db role)).run (exec settings) w = (.ok u, w') →
      ∀ r ∈ l, r ∈ (w'.clusters db).roles
  | r :: l, w, w', u, h, r', hr' => by
      obtain ⟨_, w₁, h₁, h₂⟩ := Prog.run_bind_ok.mp h
      rcases List.mem_cons.mp hr' with rfl | hr'
      · rw [run_snd h₂]
        refine run_roles _ _ ?_
        obtain rfl : w.setCluster db (ensureRole (w.clusters db) r') = w₁ := congrArg Prod.snd h₁
        rw [World.setCluster_self, ensureRole]
        by_cases hr : r' ∈ (w.clusters db).roles
        · simp [Statement.exec, hr]
        · simp [Statement.exec, hr]
      · exact run_ensure_db_roles l h₂ r' hr'

theorem run_create_schemas (role : Str) : ∀ (l : List Str) {w w' : World} {u : PUnit},
    (l.forM fun r => execute db (.createSchema r r)).run (exec settings) w = (.ok u, w') →
      ∀ r ∈ l, r ∈ (w'.clusters db).schemas
  | r :: l, w, w', u, h, r', hr' => by
      obtain ⟨_, w₁, h₁, h₂⟩ := Prog.run_bind_ok.mp h
      rcases List.mem_cons.mp hr' with rfl | hr'
      · have hmem : r' ∈ (w₁.clusters db).schemas :=
          (Statement.exec_mem_schemas (run_execute_ok h₁) r').mpr (.inr ⟨r', rfl⟩)
        rw [run_snd h₂]
        exact (run_unchanged (Prog.Only.forM fun r _ =>
          only_execute ⟨rfl, spares_createSchema role r⟩) w₁).schemas r' hmem
      · exact run_create_schemas role l h₂ r' hr'

theorem get_new_credentials_synced {creds : Credentials}
    (h : (get_new_credentials settings suffix db_user teams db tables).run (exec settings) w =
      (.ok creds, w')) :
    Synced (permanentRole suffix) teams tables (w.clusters db) (w'.clusters db) := by
  have hmaster := permanentRole_ne_user settings suffix db.memorable_name
  have hteam := permanentRole_ne_team suffix
  obtain ⟨_, w₁, h₁, h⟩ := Prog.run_bind_ok.mp h
  obtain rfl : w = w₁ := congrArg Prod.snd h₁
  obtain ⟨existing, w₂, h₂, h⟩ := Prog.run_bind_ok.mp h
  obtain rfl : w = w₂ := congrArg Prod.snd h₂
  obtain rfl : tables_and_views_that_exist (w.clusters db) tables = existing :=
    Except.ok.inj (congrArg Prod.fst h₂)
  obtain ⟨_, w₃, h₃, h⟩ := Prog.run_bind_ok.mp h
  obtain ⟨_, w₄, h₄, h⟩ := Prog.run_bind_ok.mp h
  obtain ⟨p, w₅, h₅, h⟩ := Prog.run_bind_ok.mp h
  obtain ⟨_, w₆, h₆, h⟩ := Prog.run_bind_ok.mp h
  obtain ⟨_, w₇, h₇, h⟩ := Prog.run_bind_ok.mp h
  obtain ⟨_, w₈, h₈, h⟩ := Prog.run_bind_ok.mp h
  obtain rfl : w₈ = w' := congrArg Prod.snd h
  -- up to the queries, and from there to the plan, the role is left alone
  have u₃ : Unchanged (permanentRole suffix) (w.clusters db) (w₃.clusters db) := by
    rw [run_snd h₃]
    refine run_unchanged (Prog.Only.forM fun r _ => ?_) w
    exact ⟨rfl, fun _ => trivial⟩
  have u₄ : Unchanged (permanentRole suffix) (w₃.clusters db) (w₄.clusters db) := by
    rw [run_snd h₄]
    exact run_unchanged (only_grant_missing hmaster) w₃
  obtain rfl : w₄ = w₅ := congrArg Prod.snd h₅
  have u₆ : Unchanged (permanentRole suffix) (w₄.clusters db) (w₆.clusters db) := by
    rw [run_snd h₆]
    exact run_unchanged (only_create_user_and_schemas db_user teams) w₄
  have u₈ : Unchanged (permanentRole suffix) (w₇.clusters db) (w₈.clusters db) :=
    (spares_alterUser _ _ _).unchanged (run_execute_ok h₈)
  have u₀₄ := u₃.trans u₄
  have u₀₆ := u₀₄.trans u₆
  -- the temporary user is new, so it is not the role
  have hne : permanentRole suffix ≠ db_user := by
    intro he
    have hrole : permanentRole suffix ∈ (w₄.clusters db).roles := by
      rw [run_snd h₄]
      exact run_roles _ _ (run_ensure_db_roles _ h₃ _ (by simp))
    obtain ⟨_, w₅, hcreate, -⟩ := Prog.run_bind_ok.mp h₆
    have hexec := run_execute_ok hcreate
    rw [he] at hrole
    simp [Statement.exec, hrole] at hexec
  have hown : permanentRole suffix ∈ (w₆.clusters db).schemas := by
    obtain ⟨_, w₅, -, hrest⟩ := Prog.run_bind_ok.mp h₆
    obtain ⟨_, w₅', hschemas, halter⟩ := Prog.run_bind_ok.mp hrest
    rw [run_snd halter]
    exact (run_unchanged (Prog.Only.forM fun r _ => Prog.Only.forM fun parameter _ =>
      only_execute ⟨rfl, spares_alterUser (permanentRole suffix) r parameter⟩) _).schemas _
        (run_create_schemas (permanentRole suffix) _ hschemas _ (by simp))
  obtain rfl := Except.ok.inj (congrArg Prod.fst h₅)
  have a₇ := run_apply_plan_ok hne h₇
  have hown₇ := a₇.schemas _ hown
  constructor
  · rw [u₈.relations, a₇.relations, u₀₆.relations]
  · intro t
    have hr := a₇.reconciled_table (fun q => u₀₄.table t q) (fun q => u₀₆.table t q)
    intro q
    rw [u₈.table]
    simpa [mem_tables_and_views_that_exist, Allowed] using hr q
  · intro s hs
    have hr := a₇.reconciled_schema (fun q => u₀₄.schema s q hs) (fun q => u₀₆.schema s q hs)
    intro q
    rw [u₈.schema s q fun _ => hown₇]
    simpa [mem_tables_and_views_that_exist, Allowed, AllowedSchema] using hr q
  · intro hallowed
    rw [u₈.schema _ _ fun _ => hown₇, a₇.schema]
    have hunseen : permanentRole suffix ∉ schemas_with_existing_privs (w₄.clusters db)
        (permanentRole suffix) (permanentRole suffix) := by
      rw [mem_schemas_with_existing_privs, own_schema_skipped]
      simp
    have hgrant : permanentRole suffix ∈ ((tables.filter (· ∈ tables_and_views_that_exist
        (w.clusters db) tables)).map Prod.fst).eraseDups.filter (· ∉ schemas_with_existing_privs
          (w₄.clusters db) (permanentRole suffix) (permanentRole suffix)) := by
      refine List.mem_filter.mpr ⟨?_, decide_eq_true hunseen⟩
      simpa [mem_tables_and_views_that_exist, Allowed, AllowedSchema] using hallowed
    exact .inr ⟨rfl, hgrant⟩
  · exact u₈.schemas _ hown₇
  · intro r
    have hr := a₇.reconciled_member hteam (u₀₄.member r) (u₀₆.member r)
    intro q
    rw [u₈.member]
    exact hr q

theorem run_mapM_get_new_credentials (suffix db_user : Str) (teams : List Str) :
    ∀ (items : List (Database × List (Str × Str))) {w w' : World} {creds : List Credentials},
      (items.map Prod.fst).Nodup →
      (items.mapM' fun d => get_new_credentials settings suffix db_user teams d.1 d.2).run
        (exec settings) w = (.ok creds, w') →
      (∀ d ∈ items, Synced (permanentRole suffix) teams d.2 (w.clusters d.1) (w'.clusters d.1)) ∧
        ∀ db, db ∉ items.map Prod.fst → w'.clusters db = w.clusters db
  | [], w, w', creds, _, h => by
      obtain rfl : w = w' := congrArg Prod.snd h
      exact ⟨fun d hd => (List.not_mem_nil hd).elim, fun _ _ => rfl⟩
  | d :: items, w, w', creds, hnodup, h => by
      rw [List.map_cons, List.nodup_cons] at hnodup
      obtain ⟨cred, w₁, h₁, h⟩ := Prog.run_bind_ok.mp h
      obtain ⟨rest, w₂, h₂, h⟩ := Prog.run_bind_ok.mp h
      obtain rfl : w₂ = w' := congrArg Prod.snd h
      obtain ⟨hsynced, hothers⟩ := run_mapM_get_new_credentials suffix db_user teams items hnodup.2 h₂
      have hfirst : SameElsewhere d.1 w w₁ := by
        rw [run_snd h₁]
        exact run_sameElsewhere (only_get_new_credentials suffix db_user teams d.2) w
      constructor
      · intro d' hd'
        rcases List.mem_cons.mp hd' with rfl | hd'
        · rw [hothers d'.1 hnodup.1]
          exact get_new_credentials_synced h₁
        · have hne : d'.1 ≠ d.1 := fun he => hnodup.1 (he ▸ List.mem_map_of_mem hd')
          rw [← hfirst.others d'.1 hne]
          exact hsynced d' hd'
      · intro db hdb
        rw [List.map_cons, List.mem_cons, not_or] at hdb
        rw [hothers db hdb.2, hfirst.others db hdb.1]

theorem synced_of_run {source_tables : List Entry} {dw_user : Option User}
    {force : List Database} {creds : List Credentials}
    (h : (new_private_database_credentials settings suffix source_tables db_user dw_user force).run
      (exec settings) w = (.ok creds, w'))
    (hd : (db, tables) ∈ (database_to_tables source_tables force).items) :
    Synced (permanentRole suffix) (dw_user.elim [] w.teams) tables (w.clusters db)
      (w'.clusters db) := by
  obtain ⟨_, w₁, h₁, h⟩ := Prog.run_bind_ok.mp h
  obtain rfl : w = w₁ := congrArg Prod.snd h₁
  obtain rfl : dw_user.elim [] w.teams = _ := Except.ok.inj (congrArg Prod.fst h₁)
  obtain ⟨creds', w₂, h₂, h⟩ := Prog.run_bind_ok.mp h
  have hclusters : w'.clusters = w₂.clusters := by
    cases dw_user with
    | none =>
        obtain rfl : w₂ = w' := congrArg Prod.snd h
        rfl
    | some owner =>
        obtain rfl := congrArg Prod.snd h
        rfl
  rw [hclusters]
  exact (run_mapM_get_new_credentials suffix db_user _ _
    (database_to_tables source_tables force).nodup h₂).1 _ hd

end Synced

end Core
