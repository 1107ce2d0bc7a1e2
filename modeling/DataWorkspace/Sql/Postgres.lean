import DataWorkspace.Py.Text

/-!
# Roles and privileges in PostgreSQL

A `Cluster` holds the part of a PostgreSQL server that decides who may do what:
the roles and the roles granted to them, the schemas, the relations, and the
access control lists of schemas and relations.  Its fields keep the lists
consistent.  What is granted exists, so an object that is dropped takes its
privileges along.

`Statement.exec` is the meaning of a statement, `none` where the server raises an
error.  Only direct grants count: neither `PUBLIC` nor the roles a role is a
member of give it anything, and `pg_has_role` looks at one step of membership.
Granting what is held and revoking what is not are no errors.

Each statement has a lemma that says what it does to each access control list.
-/

namespace Sql

open Py

/-! ## Clusters -/

/-- The privileges on a table or view. -/
inductive TablePrivilege where
  | SELECT | INSERT | UPDATE | DELETE | TRUNCATE | REFERENCES | TRIGGER
deriving DecidableEq, Repr

inductive SchemaPrivilege where
  | CREATE | USAGE
deriving DecidableEq, Repr

/-- The catalogue view that lists a relation. -/
inductive RelationKind where
  | pg_tables | pg_views | pg_matviews
deriving DecidableEq, Repr

/-- A table, view or materialised view. -/
structure Relation where
  schema : Str
  name : Str
  kind : RelationKind
deriving DecidableEq, Repr

def Relation.key (r : Relation) : Str × Str := (r.schema, r.name)

/-- A role holds a privilege on a table. -/
structure TableGrant where
  grantee : Str
  table : Str × Str
  privilege : TablePrivilege
deriving DecidableEq, Repr

/-- A role holds a privilege on a schema. -/
structure SchemaGrant where
  grantee : Str
  schema : Str
  privilege : SchemaPrivilege
deriving DecidableEq, Repr

structure RoleGrant where
  role : Str
  member : Str
deriving DecidableEq, Repr

/-- The roles, objects and privileges of a server. -/
structure Cluster where
  roles : List Str
  members : List RoleGrant
  schemas : List Str
  relations : List Relation
  tableAcl : List TableGrant
  schemaAcl : List SchemaGrant
  connectAcl : List Str
  /-- Granted roles exist. -/
  members_exist : ∀ m ∈ members, m.role ∈ roles
  /-- Privileges are on tables that exist. -/
  tableAcl_exist : ∀ g ∈ tableAcl, g.table ∈ relations.map Relation.key
  /-- Privileges are on schemas that exist. -/
  schemaAcl_exist : ∀ g ∈ schemaAcl, g.schema ∈ schemas

namespace Cluster

/-- `has_table_privilege`, of one privilege. -/
def HasTable (c : Cluster) (role : Str) (t : Str × Str) (p : TablePrivilege) : Prop :=
  ⟨role, t, p⟩ ∈ c.tableAcl

/-- `has_schema_privilege`, of one privilege. -/
def HasSchema (c : Cluster) (role schema : Str) (p : SchemaPrivilege) : Prop :=
  ⟨role, schema, p⟩ ∈ c.schemaAcl

/-- The role is granted to the member. -/
def IsMember (c : Cluster) (role member : Str) : Prop := ⟨role, member⟩ ∈ c.members

instance (c : Cluster) (role : Str) (t : Str × Str) (p : TablePrivilege) :
    Decidable (c.HasTable role t p) :=
  inferInstanceAs (Decidable (_ ∈ _))

instance (c : Cluster) (role schema : Str) (p : SchemaPrivilege) :
    Decidable (c.HasSchema role schema p) :=
  inferInstanceAs (Decidable (_ ∈ _))

instance (c : Cluster) (role member : Str) : Decidable (c.IsMember role member) :=
  inferInstanceAs (Decidable (_ ∈ _))

/-- `has_table_privilege(role, table, 'SELECT, INSERT, …')`: any of the privileges. -/
def hasAnyTablePrivilege (c : Cluster) (role : Str) (t : Str × Str) : Bool :=
  c.tableAcl.any fun g => g.grantee == role && g.table == t

/-- `has_schema_privilege(role, schema, 'CREATE, USAGE')`. -/
def hasAnySchemaPrivilege (c : Cluster) (role schema : Str) : Bool :=
  c.schemaAcl.any fun g => g.grantee == role && g.schema == schema

/-- `pg_has_role(member, role, 'member')`. -/
def pg_has_role (c : Cluster) (member role : Str) : Bool :=
  decide (role = member ∨ c.IsMember role member)

theorem hasAnyTablePrivilege_iff (c : Cluster) (role : Str) (t : Str × Str) :
    c.hasAnyTablePrivilege role t = true ↔ ∃ p, c.HasTable role t p := by
  simp only [hasAnyTablePrivilege, List.any_eq_true, Bool.and_eq_true, beq_iff_eq]
  constructor
  · rintro ⟨⟨r, t', p⟩, hg, rfl, rfl⟩
    exact ⟨p, hg⟩
  · rintro ⟨p, hp⟩
    exact ⟨_, hp, rfl, rfl⟩

theorem hasAnySchemaPrivilege_iff (c : Cluster) (role schema : Str) :
    c.hasAnySchemaPrivilege role schema = true ↔ ∃ p, c.HasSchema role schema p := by
  simp only [hasAnySchemaPrivilege, List.any_eq_true, Bool.and_eq_true, beq_iff_eq]
  constructor
  · rintro ⟨⟨r, s, p⟩, hg, rfl, rfl⟩
    exact ⟨p, hg⟩
  · rintro ⟨p, hp⟩
    exact ⟨_, hp, rfl, rfl⟩

theorem HasTable.exists {c : Cluster} {role : Str} {t : Str × Str} {p : TablePrivilege}
    (h : c.HasTable role t p) : t ∈ c.relations.map Relation.key :=
  c.tableAcl_exist _ h

theorem HasSchema.exists {c : Cluster} {role schema : Str} {p : SchemaPrivilege}
    (h : c.HasSchema role schema p) : schema ∈ c.schemas :=
  c.schemaAcl_exist _ h

end Cluster

/-! ## Statements -/

inductive Statement where
  /-- `CREATE ROLE`; `CREATE USER` differs only in that the role may log in. -/
  | createRole (role : Str)
  /-- `CREATE SCHEMA IF NOT EXISTS … AUTHORIZATION …`. -/
  | createSchema (schema owner : Str)
  /-- `ALTER USER … SET …`. -/
  | alterUser (user parameter : Str)
  /-- `REVOKE ALL PRIVILEGES ON SCHEMA … FROM …`. -/
  | revokeSchemas (schemas : List Str) (role : Str)
  /-- `REVOKE ALL PRIVILEGES ON … FROM …`. -/
  | revokeTables (tables : List (Str × Str)) (role : Str)
  /-- `GRANT USAGE ON SCHEMA … TO …`. -/
  | grantUsage (schemas : List Str) (role : Str)
  /-- `GRANT SELECT ON … TO …`. -/
  | grantSelect (tables : List (Str × Str)) (role : Str)
  /-- `REVOKE … FROM …`, of roles. -/
  | revokeRoles (roles : List Str) (member : Str)
  /-- `GRANT … TO …`, of roles. -/
  | grantRoles (roles : List Str) (member : Str)
  /-- `GRANT CONNECT ON DATABASE … TO …`. -/
  | grantConnect (role : Str)
deriving DecidableEq, Repr

/-- The server after a statement, or `none` where it raises an error. -/
def Statement.exec (c : Cluster) : Statement → Option Cluster
  | .createRole role =>
      if role ∈ c.roles then none
      else some { c with
        roles := c.roles ++ [role]
        members_exist := fun m hm => List.mem_append_left _ (c.members_exist m hm) }
  | .createSchema schema owner =>
      if schema ∈ c.schemas then some c
      else if owner ∉ c.roles then none
      else some { c with
        schemas := c.schemas ++ [schema]
        schemaAcl := c.schemaAcl ++ [⟨owner, schema, .CREATE⟩, ⟨owner, schema, .USAGE⟩]
        schemaAcl_exist := by
          intro g hg
          simp only [List.mem_append, List.mem_cons, List.not_mem_nil, or_false] at hg ⊢
          rcases hg with hg | rfl | rfl
          · exact .inl (c.schemaAcl_exist g hg)
          · exact .inr rfl
          · exact .inr rfl }
  | .alterUser user _ => if user ∈ c.roles then some c else none
  | .revokeSchemas schemas role =>
      if (∀ s ∈ schemas, s ∈ c.schemas) ∧ role ∈ c.roles then some { c with
        schemaAcl := c.schemaAcl.filter fun g => !(g.grantee == role && g.schema ∈ schemas)
        schemaAcl_exist := fun g hg => c.schemaAcl_exist g (List.mem_of_mem_filter hg) }
      else none
  | .revokeTables tables role =>
      if (∀ t ∈ tables, t ∈ c.relations.map Relation.key) ∧ role ∈ c.roles then some { c with
        tableAcl := c.tableAcl.filter fun g => !(g.grantee == role && g.table ∈ tables)
        tableAcl_exist := fun g hg => c.tableAcl_exist g (List.mem_of_mem_filter hg) }
      else none
  | .grantUsage schemas role =>
      if h : (∀ s ∈ schemas, s ∈ c.schemas) ∧ role ∈ c.roles then some { c with
        schemaAcl := c.schemaAcl ++ schemas.map fun s => ⟨role, s, .USAGE⟩
        schemaAcl_exist := by
          intro g hg
          rcases List.mem_append.mp hg with hg | hg
          · exact c.schemaAcl_exist g hg
          · obtain ⟨s, hs, rfl⟩ := List.mem_map.mp hg
            exact h.1 s hs }
      else none
  | .grantSelect tables role =>
      if h : (∀ t ∈ tables, t ∈ c.relations.map Relation.key) ∧ role ∈ c.roles then some { c with
        tableAcl := c.tableAcl ++ tables.map fun t => ⟨role, t, .SELECT⟩
        tableAcl_exist := by
          intro g hg
          rcases List.mem_append.mp hg with hg | hg
          · exact c.tableAcl_exist g hg
          · obtain ⟨t, ht, rfl⟩ := List.mem_map.mp hg
            exact h.1 t ht }
      else none
  | .revokeRoles roles member =>
      if (∀ r ∈ roles, r ∈ c.roles) ∧ member ∈ c.roles then some { c with
        members := c.members.filter fun m => !(m.member == member && m.role ∈ roles)
        members_exist := fun m hm => c.members_exist m (List.mem_of_mem_filter hm) }
      else none
  | .grantRoles roles member =>
      if h : (∀ r ∈ roles, r ∈ c.roles ∧ r ≠ member ∧ ¬ c.IsMember member r) ∧
          member ∈ c.roles then some { c with
        members := c.members ++ roles.map fun r => ⟨r, member⟩
        members_exist := by
          intro m hm
          rcases List.mem_append.mp hm with hm | hm
          · exact c.members_exist m hm
          · obtain ⟨r, hr, rfl⟩ := List.mem_map.mp hm
            exact (h.1 r hr).1 }
      else none
  | .grantConnect role =>
      if role ∈ c.roles then some { c with connectAcl := c.connectAcl ++ [role] } else none

/-! ## What each statement does -/

section Effects

variable {c c' : Cluster}

/-- What a statement does to the rights of one role. -/
structure Effect where
  /-- The tables on which it loses every privilege. -/
  revokedTables : List (Str × Str) := []
  /-- The tables on which it gets `SELECT`. -/
  selectedTables : List (Str × Str) := []
  /-- The schemas on which it loses every privilege. -/
  revokedSchemas : List Str := []
  /-- The schemas on which it gets `USAGE`. -/
  usedSchemas : List Str := []
  /-- The schemas it owns from now on if they are new. -/
  ownedSchemas : List Str := []
  /-- The roles it is no longer a member of. -/
  revokedRoles : List Str := []
  /-- The roles it becomes a member of. -/
  grantedRoles : List Str := []

/-- The effect of a statement on a role. -/
@[grind =]
def Statement.effect : Statement → Str → Effect
  | .createRole _, _ => {}
  | .createSchema schema owner, r => { ownedSchemas := if r = owner then [schema] else [] }
  | .alterUser _ _, _ => {}
  | .revokeSchemas schemas role, r => { revokedSchemas := if r = role then schemas else [] }
  | .revokeTables tables role, r => { revokedTables := if r = role then tables else [] }
  | .grantUsage schemas role, r => { usedSchemas := if r = role then schemas else [] }
  | .grantSelect tables role, r => { selectedTables := if r = role then tables else [] }
  | .revokeRoles roles member, r => { revokedRoles := if r = member then roles else [] }
  | .grantRoles roles member, r => { grantedRoles := if r = member then roles else [] }
  | .grantConnect _, _ => {}

theorem Statement.exec_relations {st : Statement} (h : st.exec c = some c') :
    c'.relations = c.relations := by
  cases st <;> simp only [Statement.exec] at h <;> split at h <;>
    first | (cases h; rfl) | cases h | (split at h <;> cases h; rfl)

theorem mem_map_select {role r : Str} {t : Str × Str} {p : TablePrivilege}
    {tables : List (Str × Str)} :
    (⟨role, t, p⟩ : TableGrant) ∈ tables.map (fun t => ⟨r, t, .SELECT⟩) ↔
      role = r ∧ p = .SELECT ∧ t ∈ tables := by
  rw [List.mem_map]
  constructor
  · rintro ⟨t', ht', he⟩
    cases he
    exact ⟨rfl, rfl, ht'⟩
  · rintro ⟨rfl, rfl, ht⟩
    exact ⟨t, ht, rfl⟩

theorem Statement.exec_hasTable {st : Statement} (h : st.exec c = some c') (role : Str)
    (t : Str × Str) (p : TablePrivilege) :
    c'.HasTable role t p ↔
      (c.HasTable role t p ∧ t ∉ (st.effect role).revokedTables) ∨
        (p = .SELECT ∧ t ∈ (st.effect role).selectedTables) := by
  unfold Cluster.HasTable
  cases st with
  | revokeTables tables r =>
      simp only [Statement.exec] at h
      split at h
      next =>
        cases h
        by_cases hr : role = r
        · simp [Statement.effect, hr]
        · simp [Statement.effect, hr]
      next => cases h
  | grantSelect tables r =>
      simp only [Statement.exec] at h
      split at h
      next =>
        cases h
        simp only [List.mem_append, mem_map_select]
        by_cases hr : role = r
        · simp [Statement.effect, hr]
        · simp [Statement.effect, hr]
      next => cases h
  | _ =>
      have hacl : c'.tableAcl = c.tableAcl := by
        simp only [Statement.exec] at h
        split at h <;> first | (cases h; rfl) | cases h | (split at h <;> cases h; rfl)
      simp [Statement.effect, hacl]

theorem Statement.exec_hasSchema {st : Statement} (h : st.exec c = some c') (role schema : Str)
    (p : SchemaPrivilege) :
    c'.HasSchema role schema p ↔
      (c.HasSchema role schema p ∧ schema ∉ (st.effect role).revokedSchemas) ∨
        (p = .USAGE ∧ schema ∈ (st.effect role).usedSchemas) ∨
          (schema ∈ (st.effect role).ownedSchemas ∧ schema ∉ c.schemas) := by
  unfold Cluster.HasSchema
  cases st with
  | revokeSchemas schemas r =>
      simp only [Statement.exec] at h
      split at h
      next =>
        cases h
        by_cases hr : role = r
        · simp [Statement.effect, hr]
        · simp [Statement.effect, hr]
      next => cases h
  | grantUsage schemas r =>
      simp only [Statement.exec] at h
      split at h
      next =>
        cases h
        by_cases hr : role = r
        · simp [Statement.effect, hr, and_comm, eq_comm]
        · simp [Statement.effect, hr, Ne.symm hr]
      next => cases h
  | createSchema s owner =>
      simp only [Statement.exec] at h
      split at h
      next hs =>
        cases h
        by_cases hr : role = owner
        · have hno : ¬ (schema = s ∧ schema ∉ c.schemas) := fun hx => hx.2 (hx.1 ▸ hs)
          simp [Statement.effect, hr, hno]
        · simp [Statement.effect, hr]
      next hs =>
        split at h
        · cases h
        · cases h
          by_cases hr : role = owner
          · by_cases hss : schema = s
            · cases p <;> simp [Statement.effect, hr, hss, hs]
            · simp [Statement.effect, hr, hss]
          · simp [Statement.effect, hr]
  | _ =>
      have hacl : c'.schemaAcl = c.schemaAcl := by
        simp only [Statement.exec] at h
        split at h <;> first | (cases h; rfl) | cases h
      simp [Statement.effect, hacl]

theorem Statement.exec_isMember {st : Statement} (h : st.exec c = some c') (role member : Str) :
    c'.IsMember role member ↔
      (c.IsMember role member ∧ role ∉ (st.effect member).revokedRoles) ∨
        role ∈ (st.effect member).grantedRoles := by
  unfold Cluster.IsMember
  cases st with
  | revokeRoles roles m =>
      simp only [Statement.exec] at h
      split at h
      next =>
        cases h
        by_cases hm : member = m
        · simp [Statement.effect, hm]
        · simp [Statement.effect, hm]
      next => cases h
  | grantRoles roles m =>
      simp only [Statement.exec] at h
      split at h
      next =>
        cases h
        by_cases hm : member = m
        · simp [Statement.effect, hm]
        · simp [Statement.effect, hm, Ne.symm hm]
      next => cases h
  | _ =>
      have hmem : c'.members = c.members := by
        simp only [Statement.exec] at h
        split at h <;> first | (cases h; rfl) | cases h | (split at h <;> cases h; rfl)
      simp [Statement.effect, hmem]

theorem Statement.exec_mem_schemas {st : Statement} (h : st.exec c = some c') (schema : Str) :
    schema ∈ c'.schemas ↔ schema ∈ c.schemas ∨ ∃ owner, st = .createSchema schema owner := by
  cases st with
  | createSchema s owner =>
      simp only [Statement.exec] at h
      split at h
      next hs =>
        cases h
        by_cases hss : schema = s
        · simp [hss, hs]
        · simp [Ne.symm hss]
      next =>
        split at h
        · cases h
        · cases h
          simp [eq_comm]
  | _ =>
      have hschemas : c'.schemas = c.schemas := by
        simp only [Statement.exec] at h
        split at h <;> first | (cases h; rfl) | cases h
      simp [hschemas]

theorem Statement.exec_roles {st : Statement} (h : st.exec c = some c') {role : Str}
    (hr : role ∈ c.roles) : role ∈ c'.roles := by
  cases st with
  | createRole r =>
      simp only [Statement.exec] at h
      split at h
      next => cases h
      next =>
        cases h
        exact List.mem_append_left _ hr
  | _ =>
      have hroles : c'.roles = c.roles := by
        simp only [Statement.exec] at h
        split at h <;> first | (cases h; rfl) | cases h | (split at h <;> cases h; rfl)
      rw [hroles]
      exact hr

end Effects

end Sql
