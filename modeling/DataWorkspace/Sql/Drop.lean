import DataWorkspace.Sql.Postgres

/-!
# Taking a role away

The statements that take away what a role has and then the role itself, and the one
that drops a table.

A role that still has privileges cannot be dropped.  What it owns is given to another
role first, which takes a membership in both.  Ownership itself is not part of a
`Cluster`.
-/

namespace Sql

open Py

/-- The statements that take away. -/
inductive DropStatement where
  /-- `REVOKE CONNECT ON DATABASE … FROM …`. -/
  | revokeConnect (role : Str)
  /-- `REVOKE ALL PRIVILEGES ON DATABASE … FROM …`. -/
  | revokeDatabase (role : Str)
  /-- `REASSIGN OWNED BY … TO …`. -/
  | reassignOwned (role new_owner : Str)
  /-- `DROP OWNED BY …`. -/
  | dropOwned (role : Str)
  /-- `DROP USER …`. -/
  | dropUser (role : Str)
  /-- `DROP TABLE IF EXISTS …`. -/
  | dropTable (table : Str × Str)
deriving DecidableEq, Repr

namespace Cluster

/-- Without the privilege to connect. -/
def withoutConnect (c : Cluster) (role : Str) : Cluster :=
  { c with connectAcl := c.connectAcl.filter (· ≠ role) }

/-- Without the privileges of a role. -/
def withoutGrants (c : Cluster) (role : Str) : Cluster :=
  { c with
    tableAcl := c.tableAcl.filter (·.grantee ≠ role)
    schemaAcl := c.schemaAcl.filter (·.grantee ≠ role)
    connectAcl := c.connectAcl.filter (· ≠ role)
    tableAcl_exist := fun g hg => c.tableAcl_exist g (List.mem_of_mem_filter hg)
    schemaAcl_exist := fun g hg => c.schemaAcl_exist g (List.mem_of_mem_filter hg) }

/-- Without a role and its memberships. -/
def withoutRole (c : Cluster) (role : Str) : Cluster :=
  { c with
    roles := c.roles.filter (· ≠ role)
    members := c.members.filter fun m => m.role ≠ role ∧ m.member ≠ role
    members_exist := by
      intro m hm
      have hkept := List.mem_filter.mp hm
      rw [decide_eq_true_eq] at hkept
      exact List.mem_filter.mpr ⟨c.members_exist m hkept.1, decide_eq_true hkept.2.1⟩ }

/-- Without a relation and the privileges on it. -/
def withoutRelation (c : Cluster) (t : Str × Str) : Cluster :=
  { c with
    relations := c.relations.filter (·.key ≠ t)
    tableAcl := c.tableAcl.filter (·.table ≠ t)
    tableAcl_exist := by
      intro g hg
      have hkept := List.mem_filter.mp hg
      obtain ⟨r, hr, hkey⟩ := List.mem_map.mp (c.tableAcl_exist g hkept.1)
      refine List.mem_map.mpr ⟨r, List.mem_filter.mpr ⟨hr, ?_⟩, hkey⟩
      rw [hkey]
      exact hkept.2 }

/-- The role has a privilege on something. -/
def hasPrivileges (c : Cluster) (role : Str) : Bool :=
  c.tableAcl.any (·.grantee == role) || c.schemaAcl.any (·.grantee == role) ||
    c.connectAcl.any (· == role)

end Cluster

/-- The server after a statement made by `user`, or `none` where it raises an error. -/
def DropStatement.exec (c : Cluster) (user : Str) : DropStatement → Option Cluster
  | .revokeConnect role => if role ∈ c.roles then some (c.withoutConnect role) else none
  | .revokeDatabase role => if role ∈ c.roles then some (c.withoutConnect role) else none
  | .reassignOwned role new_owner =>
      if role ∈ c.roles ∧ new_owner ∈ c.roles ∧ c.pg_has_role user role = true ∧
          c.pg_has_role user new_owner = true then some c
      else none
  | .dropOwned role =>
      if role ∈ c.roles ∧ c.pg_has_role user role = true then some (c.withoutGrants role)
      else none
  | .dropUser role =>
      if role ∈ c.roles ∧ c.hasPrivileges role = false then some (c.withoutRole role) else none
  | .dropTable table => some (c.withoutRelation table)

end Sql
