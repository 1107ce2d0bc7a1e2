import DataWorkspace.Core.CredentialsSync

/-!
# Privileges and memberships after a run

What a completed run of `new_private_database_credentials` leaves the permanent
role with, compared with what it should have.

Team roles are granted when a user joins a team.  They are not revoked when the
user leaves, because the query for the roles granted before compares names with
`'\_team\_'` and finds no role but `_team_` itself
(`team_memberships_current_iff`).

The privileges on tables and schemas are exact where the queries look, unless another
privilege hides that one is missing.  In the schemas of PostgreSQL itself, where they do
not look, nothing is taken away (`privileges_aligned`).  The queries do not look either
at the many schemas that the unescaped pattern `'_team_%'` matches besides those of
teams.  So the privileges are exact everywhere only after some states
(`privileges_exact_iff`).
-/

namespace Core

open Py Datasets Sql Async

/-! ## A run

A user has left the team `trade` and may not read any table any more. -/

namespace FormerMember

/-- The database that is looked after. -/
def db : Database := ⟨"1", "datasets"⟩

/-- How the workspace connects to it. -/
def settings : Settings where
  DATABASES_DATA _ := ⟨"datasets", "db", "5432", "postgres"⟩
  PGAUDIT_LOG_SCOPES := "ALL"
  user_not_permanent _ := by decide

/-- The role of the user is still in the team role and may read a system table. -/
def cluster : Cluster where
  roles := ["postgres", "_user_ann", "_team_trade"]
  members := [⟨"_team_trade", "_user_ann"⟩]
  schemas := ["public", "pg_catalog"]
  relations := [⟨"pg_catalog", "pg_authid", .pg_tables⟩]
  tableAcl := [⟨"_user_ann", ("pg_catalog", "pg_authid"), .SELECT⟩]
  schemaAcl := []
  connectAcl := []
  members_exist := by decide
  tableAcl_exist := by decide
  schemaAcl_exist := by decide

def world : World where
  clusters _ := cluster
  teams _ := []
  database_users := []
  password := "secret"
  locked := false

def run : Except Exc (List Credentials) × World :=
  (new_private_database_credentials settings "ann" [] "user_ann_1" none [db]).run (exec settings)
    world

def creds : List Credentials :=
  [⟨"datasets", "1", "datasets", "db", "5432", "user_ann_1", "_user_ann", "secret"⟩]

theorem run_eq : run = (.ok creds, run.2) := Prod.ext rfl rfl

end FormerMember

section Runs

variable {settings : Settings} {suffix db_user : Str} {source_tables : List Entry}
  {dw_user : Option User} {force : List Database} {creds : List Credentials} {w w' : World}
  {db : Database} {tables : List (Str × Str)}

/-! ## Team memberships -/

/-- A role whose name begins as those of team roles do. -/
def IsTeamRole (r : Str) : Prop := startswith r "_team_" = true

theorem Synced.member_iff {role : Str} {teams : List Str} {c c' : Cluster}
    (h : Synced role teams tables c c') (r : Str) :
    (c'.IsMember r role ↔ r ∈ teams) ↔ (r ≠ "_team_" → c.IsMember r role → r ∈ teams) := by
  rw [(h.member r).granted_iff]
  constructor
  · exact fun hx => hx.2
  · exact fun hx => ⟨fun _ _ hq => hq.elim fun _ hm => hm, hx⟩

/-- After a run the role is a member of exactly the roles of the user's current teams
when it was in no other team role before, `_team_` itself apart. -/
theorem team_memberships_current_iff
    (h : (new_private_database_credentials settings suffix source_tables db_user dw_user force).run
      (exec settings) w = (.ok creds, w'))
    (hd : (db, tables) ∈ (database_to_tables source_tables force).items) :
    (∀ r, IsTeamRole r →
      ((w'.clusters db).IsMember r (permanentRole suffix) ↔ r ∈ dw_user.elim [] w.teams)) ↔
    ∀ r, IsTeamRole r → r ≠ "_team_" → (w.clusters db).IsMember r (permanentRole suffix) →
      r ∈ dw_user.elim [] w.teams := by
  have hs := synced_of_run h hd
  constructor
  · exact fun hall r hr => (hs.member_iff r).mp (hall r hr)
  · exact fun hall r hr => (hs.member_iff r).mpr (hall r hr)

/-- The credentials of a user who has left a team come with the membership. -/
theorem former_member_stays :
    FormerMember.run.1 = .ok FormerMember.creds ∧
      (FormerMember.db, []) ∈ (database_to_tables [] [FormerMember.db]).items ∧
      ¬ ∀ r, IsTeamRole r → ((FormerMember.run.2.clusters FormerMember.db).IsMember r
        (permanentRole "ann") ↔ r ∈ (none : Option User).elim [] FormerMember.world.teams) := by
  refine ⟨rfl, by decide, fun hall => ?_⟩
  have hiff := hall "_team_trade" rfl
  exact absurd (hiff.mp (by decide)) (by decide)

theorem former_member_memberships_iff :
    (∀ r, IsTeamRole r → ((FormerMember.run.2.clusters FormerMember.db).IsMember r
      (permanentRole "ann") ↔ r ∈ (none : Option User).elim [] FormerMember.world.teams)) ↔
    ∀ r, IsTeamRole r → r ≠ "_team_" →
      (FormerMember.cluster).IsMember r (permanentRole "ann") →
      r ∈ (none : Option User).elim [] FormerMember.world.teams :=
  team_memberships_current_iff FormerMember.run_eq
    (show (FormerMember.db, []) ∈ (database_to_tables [] [FormerMember.db]).items by decide)

/-! ## Privileges -/

/-- The schema is neither the role's own nor one of a team. -/
def Outside (role schema : Str) : Prop := schema ≠ role ∧ startswith schema "_team_" = false

/-- Where the queries look, the role may read the allowed tables that exist and use their
schemas, and no others, unless it had another privilege only.  In the schemas of
PostgreSQL itself it keeps what it had. -/
structure PrivilegesAligned (role : Str) (tables : List (Str × Str)) (c c' : Cluster) : Prop where
  table : ∀ t, Outside role t.1 → skippedTableSchema role t.1 = false →
    (Allowed c tables t → (∃ p, c.HasTable role t p) → c.HasTable role t .SELECT) →
      (c'.HasTable role t .SELECT ↔ Allowed c tables t)
  schema : ∀ s, Outside role s → skippedSchema role s = false →
    (AllowedSchema c tables s → (∃ p, c.HasSchema role s p) → c.HasSchema role s .USAGE) →
      (c'.HasSchema role s .USAGE ↔ AllowedSchema c tables s)
  systemTable : ∀ t, Outside role t.1 → skippedSchema role t.1 = true →
    (c'.HasTable role t .SELECT ↔ c.HasTable role t .SELECT ∨ Allowed c tables t)
  systemSchema : ∀ s, Outside role s → skippedSchema role s = true →
    (c'.HasSchema role s .USAGE ↔ c.HasSchema role s .USAGE ∨ AllowedSchema c tables s)

structure SamePrivileges (role : Str) (c c' : Cluster) : Prop where
  table : ∀ t p, c'.HasTable role t p ↔ c.HasTable role t p
  schema : ∀ s p, c'.HasSchema role s p ↔ c.HasSchema role s p

theorem Synced.privilegesAligned {role : Str} {teams : List Str} {c c' : Cluster}
    (h : Synced role teams tables c c') : PrivilegesAligned role tables c c' where
  table t _ hseen hsel := by
    refine (h.table t).granted_iff.mpr ⟨fun _ => hsel, fun hns => ?_⟩
    exact absurd hseen hns
  schema s hs hseen huse := by
    refine (h.schema s fun he => absurd he hs.1).granted_iff.mpr ⟨fun _ => huse, fun hns => ?_⟩
    exact absurd hseen hns
  systemTable t _ hsk := by
    have hskt : ¬ skippedTableSchema role t.1 = false := by simp [skippedTableSchema, hsk]
    rw [(h.table t).of_unseen hskt]
    simp
  systemSchema s hs hsk := by
    have hsks : ¬ skippedSchema role s = false := by simp [hsk]
    rw [(h.schema s fun he => absurd he hs.1).of_unseen hsks]
    simp

theorem Synced.samePrivileges {role : Str} {teams teams' : List Str} {c c' c'' : Cluster}
    (h : Synced role teams tables c c') (h' : Synced role teams' tables c' c'') :
    SamePrivileges role c' c'' := by
  have hallowed : ∀ t, Allowed c' tables t ↔ Allowed c tables t := allowed_congr h.relations
  have hschemas : ∀ s, AllowedSchema c' tables s ↔ AllowedSchema c tables s := fun s => by
    simp only [AllowedSchema, hallowed]
  constructor
  · intro t p
    have h₂ := h'.table t
    rw [hallowed] at h₂
    exact (h.table t).idem h₂ p
  · intro s p
    have h₂ := h'.schema s fun _ => h.own_exists
    rw [hschemas] at h₂
    by_cases hs : s = role
    · -- the own schema is skipped, and `USAGE` on it was granted where it is allowed
      subst hs
      rw [h₂.of_unseen (by simp [own_schema_skipped])]
      constructor
      · rintro (hp | ⟨rfl, hw⟩)
        · exact hp
        · exact h.own hw
      · exact .inl
    · exact (h.schema s fun he => absurd he hs).idem h₂ p

/-- After a run the privileges are aligned, and another run changes none. -/
theorem privileges_aligned
    (h : (new_private_database_credentials settings suffix source_tables db_user dw_user force).run
      (exec settings) w = (.ok creds, w'))
    (hd : (db, tables) ∈ (database_to_tables source_tables force).items) :
    PrivilegesAligned (permanentRole suffix) tables (w.clusters db) (w'.clusters db) ∧
      ∀ db_user' creds' w'', (new_private_database_credentials settings suffix source_tables
        db_user' dw_user force).run (exec settings) w' = (.ok creds', w'') →
        SamePrivileges (permanentRole suffix) (w'.clusters db) (w''.clusters db) :=
  have hs := synced_of_run h hd
  ⟨hs.privilegesAligned, fun _ _ _ h' => hs.samePrivileges (synced_of_run h' hd)⟩

theorem former_member_privileges_aligned :
    PrivilegesAligned (permanentRole "ann") [] FormerMember.cluster
        (FormerMember.run.2.clusters FormerMember.db) ∧
      ∀ db_user' creds' w'', (new_private_database_credentials FormerMember.settings "ann" []
        db_user' none [FormerMember.db]).run (exec FormerMember.settings) FormerMember.run.2 =
          (.ok creds', w'') →
        SamePrivileges (permanentRole "ann") (FormerMember.run.2.clusters FormerMember.db)
          (w''.clusters FormerMember.db) :=
  privileges_aligned FormerMember.run_eq (by decide)

/-! ## Exact privileges -/

/-- Outside its own schema and the schemas of teams, the role may read the allowed
tables that exist and use their schemas, and no others. -/
structure PrivilegesExact (role : Str) (tables : List (Str × Str)) (c c' : Cluster) : Prop where
  table : ∀ t, Outside role t.1 → (c'.HasTable role t .SELECT ↔ Allowed c tables t)
  schema : ∀ s, Outside role s → (c'.HasSchema role s .USAGE ↔ AllowedSchema c tables s)

/-- A table of a schema of PostgreSQL itself stays readable, though it is not allowed. -/
theorem system_table_stays_readable :
    FormerMember.run.1 = .ok FormerMember.creds ∧
      (FormerMember.db, []) ∈ (database_to_tables [] [FormerMember.db]).items ∧
      Outside (permanentRole "ann") "pg_catalog" ∧
      ¬ PrivilegesExact (permanentRole "ann") [] FormerMember.cluster
        (FormerMember.run.2.clusters FormerMember.db) := by
  refine ⟨rfl, by decide, by constructor <;> decide, fun hx => ?_⟩
  have hiff := hx.table ("pg_catalog", "pg_authid") (by constructor <;> decide)
  exact absurd (hiff.mp (by decide)).1 (by decide)

/-- The privileges the role had before are ones the queries can bring in order. -/
structure Mendable (role : Str) (tables : List (Str × Str)) (c : Cluster) : Prop where
  /-- No other privilege hides that `SELECT` is missing. -/
  table : ∀ t, Outside role t.1 → skippedTableSchema role t.1 = false → Allowed c tables t →
    (∃ p, c.HasTable role t p) → c.HasTable role t .SELECT
  /-- In the schemas that are skipped only allowed tables may be read. -/
  skippedTable : ∀ t, Outside role t.1 → skippedTableSchema role t.1 = true →
    c.HasTable role t .SELECT → Allowed c tables t
  /-- `CREATE` does not hide that `USAGE` is missing. -/
  schema : ∀ s, Outside role s → skippedSchema role s = false → AllowedSchema c tables s →
    (∃ p, c.HasSchema role s p) → c.HasSchema role s .USAGE
  /-- Of the schemas that are skipped only those of allowed tables may be used. -/
  skippedSchema : ∀ s, Outside role s → skippedSchema role s = true →
    c.HasSchema role s .USAGE → AllowedSchema c tables s

theorem Synced.privilegesExact_iff {role : Str} {teams : List Str} {c c' : Cluster}
    (h : Synced role teams tables c c') :
    PrivilegesExact role tables c c' ↔ Mendable role tables c := by
  have htable := fun t => (h.table t).granted_iff
  have hschema := fun s (hs : Outside role s) =>
    (h.schema s fun he => absurd he hs.1).granted_iff
  constructor
  · intro hx
    refine ⟨fun t ht => ((htable t).mp (hx.table t ht)).1, fun t ht hsk => ?_,
      fun s hs => ((hschema s hs).mp (hx.schema s hs)).1, fun s hs hsk => ?_⟩
    · exact ((htable t).mp (hx.table t ht)).2 (by simp [hsk])
    · exact ((hschema s hs).mp (hx.schema s hs)).2 (by simp [hsk])
  · intro hm
    refine ⟨fun t ht => (htable t).mpr ⟨hm.table t ht, fun hsk => ?_⟩,
      fun s hs => (hschema s hs).mpr ⟨hm.schema s hs, fun hsk => ?_⟩⟩
    · exact hm.skippedTable t ht (by simpa using hsk)
    · exact hm.skippedSchema s hs (by simpa using hsk)

theorem privileges_exact_iff
    (h : (new_private_database_credentials settings suffix source_tables db_user dw_user force).run
      (exec settings) w = (.ok creds, w'))
    (hd : (db, tables) ∈ (database_to_tables source_tables force).items) :
    PrivilegesExact (permanentRole suffix) tables (w.clusters db) (w'.clusters db) ↔
      Mendable (permanentRole suffix) tables (w.clusters db) :=
  (synced_of_run h hd).privilegesExact_iff

theorem former_member_privileges_exact_iff :
    PrivilegesExact (permanentRole "ann") [] FormerMember.cluster
        (FormerMember.run.2.clusters FormerMember.db) ↔
      Mendable (permanentRole "ann") [] FormerMember.cluster :=
  privileges_exact_iff FormerMember.run_eq (by decide)

/-- A schema that is skipped, though it is not of a team. -/
example : skippedTableSchema (permanentRole "ann") "steam_sales" = true := by decide

end Runs

end Core
