import DataWorkspace.Async.Shared
import DataWorkspace.Core.CredentialsSync

/-!
# How far a call has come

A call of `new_private_database_credentials` looks up which of its tables exist, reads
the tables on which the role has a privilege, and revokes and grants the differences in
a section under the lock.  Of the two dozen statements it makes in a database, only two
touch the privileges on tables.

`Progress` says how far a call has come in one database, and `Progress.Planned` what it
may do there next.  `wp_call` proves of the whole function that it keeps to that, over
all the databases it is called for, and that it is not over before all is done.
-/

namespace Core

open Py Datasets Sql Async

/-! ## Calls -/

/-- What one call is asked for. -/
structure Call where
  source_tables : List Entry
  db_user : Str
  dw_user : Option User
  force_create_for_databases : List Database

/-- The program of a call. -/
def Call.prog (settings : Settings) (suffix : Str) (call : Call) : M (List Credentials) :=
  new_private_database_credentials settings suffix call.source_tables call.db_user call.dw_user
    call.force_create_for_databases

def Call.Asks (call : Call) (db : Database) (tables : List (Str × Str)) : Prop :=
  (db, tables) ∈ (database_to_tables call.source_tables call.force_create_for_databases).items

/-! ## How far a call has come -/

/-- What a call has done in one database. -/
structure Progress where
  /-- The tables that exist. -/
  existing : Option (List (Str × Str)) := none
  /-- The tables on which the role had a privilege. -/
  snapshot : Option (List (Str × Str)) := none
  revoked : List (Str × Str) := []
  granted : List (Str × Str) := []
  /-- The section under the lock is over. -/
  closed : Bool := false

namespace Progress

def after (role : Str) (db : Database) : Progress → Event Ans → Progress
  | p, ⟨.query db' (.tables_and_views_that_exist _), rows⟩ =>
      if db' = db then { p with existing := some rows } else p
  | p, ⟨.query db' (.tables_with_existing_privs _ _), rows⟩ =>
      if db' = db then { p with snapshot := some rows } else p
  | p, ⟨.execute db' st, some ()⟩ =>
      if db' = db then
        { p with
          revoked := p.revoked ++ (st.effect role).revokedTables
          granted := p.granted ++ (st.effect role).selectedTables }
      else p
  | p, ⟨.release, _⟩ => if p.snapshot.isSome then { p with closed := true } else p
  | p, _ => p

/-- The call is between its reading and the end of its section. -/
def Open (p : Progress) : Prop := p.snapshot.isSome = true ∧ p.closed = false

/-- The call will revoke the privileges on the table. -/
def Revokes (tables : List (Str × Str)) (p : Progress) (t : Str × Str) : Prop :=
  ∃ existing snapshot, p.existing = some existing ∧ p.snapshot = some snapshot ∧
    t ∈ snapshot.filter (· ∉ tables.filter (· ∈ existing))

/-- The call will grant `SELECT` on the table. -/
def Grants (tables : List (Str × Str)) (p : Progress) (t : Str × Str) : Prop :=
  ∃ existing snapshot, p.existing = some existing ∧ p.snapshot = some snapshot ∧
    t ∈ (tables.filter (· ∈ existing)).filter (· ∉ snapshot)

/-- All that was planned is done. -/
structure Finished (tables : List (Str × Str)) (p : Progress) : Prop where
  existing : p.existing.isSome = true
  snapshot : p.snapshot.isSome = true
  closed : p.closed = true
  revoked : ∀ t, p.Revokes tables t → t ∈ p.revoked
  granted : ∀ t, p.Grants tables t → t ∈ p.granted

/-- What the call may do next in the database. -/
def Planned (role : Str) (db : Database) (tables : List (Str × Str)) : Op → Progress → Prop
  | .query db' (.tables_and_views_that_exist ts), p => db' = db → ts = tables ∧ p.snapshot = none
  | .query db' (.tables_with_existing_privs r s), p =>
      db' = db → r = role ∧ s = role ∧ p.existing.isSome = true ∧ p.snapshot = none
  | .execute db' st, p =>
      db' = db → (∀ t ∈ (st.effect role).revokedTables, p.Open ∧ p.Revokes tables t) ∧
        ∀ t ∈ (st.effect role).selectedTables, p.Open ∧ p.Grants tables t
  | _, _ => True

end Progress

section Program

variable {settings : Settings} {role db_user : Str} {db : Database} {tables : List (Str × Str)}
  {p : Progress} {α : Type}

/-- The progress of a call in one database, and what it may do there. -/
abbrev progress (role : Str) (db : Database) (tables : List (Str × Str)) : Interp Ans Progress :=
  summing (Progress.after role db) (Progress.Planned role db tables)

theorem wp_execute {st : Statement} {F : Unit → Progress → Prop}
    (hpre : Progress.Planned role db tables (.execute db st) p)
    (hF : F () (p.after role db ⟨.execute db st, some ()⟩)) :
    wp (progress role db tables) (execute db st) (onOk F) p := by
  refine wp_summing.mpr ⟨hpre, fun a => ?_⟩
  cases a with
  | none => trivial
  | some _ => exact hF

theorem wp_withLock {timeout : Nat} {body : M α} {F : α → Progress → Prop}
    (h : wp (progress role db tables) body
      (onOk fun a p => F a (p.after role db ⟨.release, ()⟩)) p) :
    wp (progress role db tables) (withLock timeout body) (onOk F) p := by
  refine wp_summing.mpr ⟨trivial, fun a => ?_⟩
  cases a with
  | none => trivial
  | some _ =>
      refine wp_bind_onOk (wp_onOk_attempt h) fun r p hr => ?_
      refine wp_summing.mpr ⟨trivial, fun _ => ?_⟩
      cases r with
      | ok a => exact hr
      | error e => trivial

/-- The statement touches no privilege of the role on a table. -/
structure NoTables (role : Str) (st : Statement) : Prop where
  revoked : (st.effect role).revokedTables = []
  selected : (st.effect role).selectedTables = []

theorem Spares.noTables {st : Statement} (h : Spares role st) : NoTables role st :=
  ⟨h.revokedTables, h.selectedTables⟩

theorem NoTables.after {st : Statement} (h : NoTables role st) (a : Option Unit) :
    p.after role db ⟨.execute db st, a⟩ = p := by
  cases a with
  | none => rfl
  | some _ => simp [Progress.after, h.revoked, h.selected]

theorem NoTables.planned {st : Statement} (h : NoTables role st) :
    Progress.Planned role db tables (.execute db st) p := by
  intro _
  simp [h.revoked, h.selected]

/-- Operations that are no progress wherever a call is. -/
def Idle (role : Str) (db : Database) : Op → Prop
  | .execute db' st => db' = db ∧ Spares role st
  | .ensure_db_role _ _ => True
  | .team_schema_names _ => True
  | .postgres_password => True
  | .create_database_user _ _ => True
  | _ => False

theorem wp_of_idle {q : M α} {F : α → Progress → Prop} (hq : q.Only (Idle role db))
    (hF : ∀ a, F a p) : wp (progress role db tables) q (onOk F) p := by
  refine wp_summing_of_only hq (fun o ho => ?_) (fun o a ho => ?_) fun r => ?_
  · cases o with
    | execute db' st =>
        obtain ⟨rfl, hst⟩ : db' = db ∧ Spares role st := ho
        exact hst.noTables.planned
    | query db' q => exact ho.elim
    | _ => trivial
  · cases o with
    | execute db' st =>
        obtain ⟨rfl, hst⟩ : db' = db ∧ Spares role st := ho
        exact hst.noTables.after a
    | query db' q => exact ho.elim
    | release => exact ho.elim
    | acquire timeout => exact ho.elim
    | _ => rfl
  · cases r with
    | ok a => exact hF a
    | error e => trivial

theorem wp_grant_missing_db_roles {data : DatabaseData} {F : Unit → Progress → Prop}
    (hne : role ≠ data.USER) (hp : p.snapshot = none) (hF : F () p) :
    wp (progress role db tables) (grant_missing_db_roles data db) (onOk F) p := by
  refine wp_summing.mpr ⟨trivial, fun missing => ?_⟩
  have hkeep : p.after role db ⟨.query db .missing_db_roles, missing⟩ = p := rfl
  rw [hkeep]
  dsimp only [Prog.bind]
  split
  · exact hF
  · refine wp_withLock (wp_of_idle (only_execute ⟨rfl, spares_grantRoles hne _⟩) fun a => ?_)
    have hrelease : p.after role db ⟨.release, ()⟩ = p := by simp [Progress.after, hp]
    rw [hrelease]
    exact hF

theorem wp_find_plan {teams : List Str} {allowed : List (Str × Str)}
    {F : Plan → Progress → Prop} (hp : p.snapshot = none) (hex : p.existing.isSome = true)
    (hF : ∀ snapshot schemas team_roles, F (plan allowed (allowed.map Prod.fst).eraseDups teams
      snapshot schemas team_roles) { p with snapshot := some snapshot }) :
    wp (progress role db tables) (find_plan db role role teams allowed) (onOk F) p := by
  refine wp_summing.mpr ⟨fun _ => ⟨rfl, rfl, hex, hp⟩, fun snapshot => ?_⟩
  refine wp_summing.mpr ⟨trivial, fun schemas => ?_⟩
  refine wp_summing.mpr ⟨trivial, fun team_roles => ?_⟩
  have hafter : p.after role db ⟨.query db (.tables_with_existing_privs role role), snapshot⟩ =
      { p with snapshot := some snapshot } := by simp [Progress.after]
  have hF' := hF snapshot schemas team_roles
  rw [← hafter] at hF'
  exact hF'

theorem wp_create_user_and_schemas {teams : List Str} {F : Unit → Progress → Prop} (hF : F () p) :
    wp (progress role db tables) (create_user_and_schemas settings db db_user role teams) (onOk F)
      p := by
  refine wp_of_idle ?_ fun _ => hF
  refine Prog.Only.bind (only_execute ⟨rfl, spares_createRole role db_user⟩) fun _ => ?_
  refine Prog.Only.bind (Prog.Only.forM fun r _ => only_execute ⟨rfl, spares_createSchema role r⟩)
    fun _ => ?_
  exact Prog.Only.forM fun r _ => Prog.Only.forM fun parameter _ =>
    only_execute ⟨rfl, spares_alterUser role r parameter⟩

theorem wp_execute_noTables {st : Statement} {F : Unit → Progress → Prop} (h : NoTables role st)
    (hF : F () p) : wp (progress role db tables) (execute db st) (onOk F) p := by
  refine wp_execute h.planned ?_
  rw [h.after]
  exact hF

theorem wp_executeUnlessEmpty_noTables {β : Type} {l : List β} {st : Statement}
    {F : Unit → Progress → Prop} (h : NoTables role st) (hF : F () p) :
    wp (progress role db tables) (executeUnlessEmpty db l st) (onOk F) p := by
  rw [executeUnlessEmpty]
  split
  · exact hF
  · exact wp_execute_noTables h hF

theorem wp_revokeTables {l : List (Str × Str)} {F : Unit → Progress → Prop}
    (hpre : ∀ t ∈ l, p.Open ∧ p.Revokes tables t) (hF : F () { p with revoked := p.revoked ++ l }) :
    wp (progress role db tables) (executeUnlessEmpty db l (.revokeTables l role)) (onOk F) p := by
  rw [executeUnlessEmpty]
  split
  next hl =>
    obtain rfl := List.isEmpty_iff.mp hl
    rw [List.append_nil] at hF
    exact hF
  next =>
    refine wp_execute (fun _ => ?_) ?_
    · simpa [Statement.effect] using hpre
    · simpa [Progress.after, Statement.effect] using hF

theorem wp_grantSelect {l : List (Str × Str)} {F : Unit → Progress → Prop}
    (hpre : ∀ t ∈ l, p.Open ∧ p.Grants tables t) (hF : F () { p with granted := p.granted ++ l }) :
    wp (progress role db tables) (executeUnlessEmpty db l (.grantSelect l role)) (onOk F) p := by
  rw [executeUnlessEmpty]
  split
  next hl =>
    obtain rfl := List.isEmpty_iff.mp hl
    rw [List.append_nil] at hF
    exact hF
  next =>
    refine wp_execute (fun _ => ?_) ?_
    · simpa [Statement.effect] using hpre
    · simpa [Progress.after, Statement.effect] using hF

theorem wp_apply_plan {pl : Plan} {existing snapshot : List (Str × Str)}
    {F : Unit → Progress → Prop} (hex : p.existing = some existing)
    (hsn : p.snapshot = some snapshot) (hopen : p.closed = false)
    (hr : pl.tables_to_revoke = snapshot.filter (· ∉ tables.filter (· ∈ existing)))
    (hg : pl.tables_to_grant = (tables.filter (· ∈ existing)).filter (· ∉ snapshot))
    (hF : ∀ p' : Progress, p'.Finished tables → F () p') :
    wp (progress role db tables) (apply_plan db pl db_user role) (onOk F) p := by
  have hisOpen : p.Open := ⟨by rw [hsn]; rfl, hopen⟩
  refine wp_withLock ?_
  refine wp_bind_onOk (F := fun _ p' => p' = p) ?_ fun _ p' hp' => ?_
  · exact wp_executeUnlessEmpty_noTables ⟨rfl, rfl⟩ rfl
  subst hp'
  refine wp_bind_onOk (wp_revokeTables (F := fun _ q => q = { p' with
    revoked := p'.revoked ++ pl.tables_to_revoke }) ?_ rfl) fun _ p₁ hp₁ => ?_
  · intro t ht
    rw [hr] at ht
    exact ⟨hisOpen, existing, snapshot, hex, hsn, ht⟩
  refine wp_bind_onOk (F := fun _ q => q = p₁) ?_ fun _ q hq => ?_
  · exact wp_executeUnlessEmpty_noTables ⟨rfl, rfl⟩ rfl
  subst hq
  refine wp_bind_onOk (wp_grantSelect (F := fun _ r => r = { q with
    granted := q.granted ++ pl.tables_to_grant }) ?_ rfl) fun _ p₂ hp₂ => ?_
  · intro t ht
    rw [hg] at ht
    rw [hp₁]
    exact ⟨hisOpen, existing, snapshot, hex, hsn, ht⟩
  refine wp_bind_onOk (F := fun _ r => r = p₂) ?_ fun _ r hr₂ => ?_
  · exact wp_executeUnlessEmpty_noTables ⟨rfl, rfl⟩ rfl
  subst hr₂
  refine wp_bind_onOk (F := fun _ q' => q' = r) ?_ fun _ q' hq' => ?_
  · exact wp_executeUnlessEmpty_noTables ⟨rfl, rfl⟩ rfl
  subst hq'
  refine wp_bind_onOk (F := fun _ r => r = q') ?_ fun _ r hr₃ => ?_
  · exact wp_execute_noTables ⟨rfl, rfl⟩ rfl
  subst hr₃
  refine wp_execute_noTables ⟨rfl, rfl⟩ (hF _ ?_)
  have hrelease : r.after role db ⟨.release, ()⟩ = { r with closed := true } := by
    simp [Progress.after, hp₂, hp₁, hsn]
  rw [hrelease, hp₂, hp₁]
  constructor
  · simp [hex]
  · simp [hsn]
  · rfl
  · rintro t ⟨ex, sn, hex', hsn', ht⟩
    obtain rfl : existing = ex := Option.some.inj (hex.symm.trans hex')
    obtain rfl : snapshot = sn := Option.some.inj (hsn.symm.trans hsn')
    rw [← hr] at ht
    exact List.mem_append_right _ ht
  · rintro t ⟨ex, sn, hex', hsn', ht⟩
    obtain rfl : existing = ex := Option.some.inj (hex.symm.trans hex')
    obtain rfl : snapshot = sn := Option.some.inj (hsn.symm.trans hsn')
    rw [← hg] at ht
    exact List.mem_append_right _ ht

theorem wp_get_new_credentials {suffix : Str} {teams : List Str}
    {F : Credentials → Progress → Prop}
    (hF : ∀ (cred : Credentials) (p' : Progress), p'.Finished tables → F cred p') :
    wp (progress (permanentRole suffix) db tables)
      (get_new_credentials settings suffix db_user teams db tables) (onOk F) {} := by
  have hne := permanentRole_ne_user settings suffix db.memorable_name
  rw [get_new_credentials]
  refine wp_bind_onOk (F := fun _ p => p = {}) (wp_of_idle (only_await trivial) fun _ => rfl)
    fun password p hp => ?_
  subst hp
  refine wp_bind_onOk (F := fun existing p => p = { existing := some existing }) ?_
    fun existing p hp => ?_
  · refine wp_summing.mpr ⟨fun _ => ⟨rfl, rfl⟩, fun existing => ?_⟩
    have hafter : Progress.after (permanentRole suffix) db {}
        ⟨.query db (.tables_and_views_that_exist tables), existing⟩ =
          { existing := some existing } := by simp [Progress.after]
    rw [hafter]
    rfl
  subst hp
  refine wp_bind_onOk (F := fun _ p => p = { existing := some existing }) ?_ fun _ p hp => ?_
  · exact wp_of_idle (Prog.Only.forM fun _ _ => only_await trivial) fun _ => rfl
  subst hp
  refine wp_bind_onOk (F := fun _ p => p = { existing := some existing })
    (wp_grant_missing_db_roles hne rfl rfl) fun _ p hp => ?_
  subst hp
  refine wp_bind_onOk (F := fun pl p => ∃ snapshot,
    p = { existing := some existing, snapshot := some snapshot } ∧
    pl.tables_to_revoke = snapshot.filter (· ∉ tables.filter (· ∈ existing)) ∧
    pl.tables_to_grant = (tables.filter (· ∈ existing)).filter (· ∉ snapshot))
    (wp_find_plan rfl rfl fun snapshot _ _ => ⟨snapshot, rfl, rfl, rfl⟩) fun pl p hpl => ?_
  obtain ⟨snapshot, rfl, hr, hg⟩ := hpl
  refine wp_bind_onOk (F := fun _ p => p = { existing := some existing, snapshot := some snapshot })
    (wp_create_user_and_schemas rfl) fun _ p hp => ?_
  subst hp
  refine wp_bind_onOk (F := fun _ p => p.Finished tables)
    (wp_apply_plan rfl rfl rfl hr hg fun _ h => h) fun _ p hp => ?_
  refine wp_bind_onOk (F := fun _ q => q = p) ?_ fun _ q hq => ?_
  · exact wp_execute_noTables ⟨rfl, rfl⟩ rfl
  subst hq
  exact hF _ _ hp

theorem wp_elsewhere {db' : Database} {q : M α} {F : α → Progress → Prop} (hne : db' ≠ db)
    (hq : q.Only (OpIn db')) (hp : p.snapshot = none ∨ p.closed = true) (hF : ∀ a, F a p) :
    wp (progress role db tables) q (onOk F) p := by
  refine wp_summing_of_only hq (fun o ho => ?_) (fun o a ho => ?_) fun r => ?_
  · cases o with
    | query d r =>
        obtain rfl : d = db' := ho
        cases r <;> simp [Progress.Planned, hne]
    | execute d st =>
        obtain rfl : d = db' := ho
        exact fun he => absurd he hne
    | _ => trivial
  · cases o with
    | query d r =>
        obtain rfl : d = db' := ho
        cases r <;> simp [Progress.after, hne]
    | execute d st =>
        obtain rfl : d = db' := ho
        cases a <;> simp [Progress.after, hne]
    | release =>
        obtain ⟨existing, snapshot, revoked, granted, closed⟩ := p
        rcases hp with hp | hp
        · obtain rfl : snapshot = none := hp
          rfl
        · obtain rfl : closed = true := hp
          simp [Progress.after]
    | _ => rfl
  · cases r with
    | ok a => exact hF a
    | error e => trivial

theorem wp_mapM_elsewhere {suffix : Str} {teams : List Str} :
    ∀ {items : List (Database × List (Str × Str))} {p : Progress}
      {F : List Credentials → Progress → Prop}, db ∉ items.map Prod.fst →
      (p.snapshot = none ∨ p.closed = true) → (∀ creds, F creds p) →
      wp (progress role db tables) (items.mapM' fun d =>
        get_new_credentials settings suffix db_user teams d.1 d.2) (onOk F) p
  | [], _, _, _, _, hF => hF []
  | d :: items, p, F, hdb, hp, hF => by
      rw [List.map_cons, List.mem_cons, not_or] at hdb
      refine wp_bind_onOk (F := fun _ q => q = p) (wp_elsewhere (Ne.symm hdb.1)
        (only_get_new_credentials suffix db_user teams d.2) hp fun _ => rfl) fun cred q hq => ?_
      subst hq
      exact wp_bind_onOk (F := fun _ r => r = q) (wp_mapM_elsewhere hdb.2 hp fun _ => rfl)
        fun creds r hr => hr ▸ hF _

theorem wp_mapM_get_new_credentials {suffix : Str} {teams : List Str} :
    ∀ {items : List (Database × List (Str × Str))}, (items.map Prod.fst).Nodup →
      (db, tables) ∈ items → wp (progress (permanentRole suffix) db tables) (items.mapM' fun d =>
        get_new_credentials settings suffix db_user teams d.1 d.2)
        (onOk fun _ p => p.Finished tables) {}
  | d :: items, hnodup, hd => by
      rw [List.map_cons, List.nodup_cons] at hnodup
      rcases List.mem_cons.mp hd with rfl | hd
      · refine wp_bind_onOk (wp_get_new_credentials fun _ _ h => h) fun cred p hp => ?_
        exact wp_bind_onOk (F := fun _ q => q = p)
          (wp_mapM_elsewhere hnodup.1 (.inr hp.closed) fun _ => rfl) fun creds q hq => hq ▸ hp
      · have hne : d.1 ≠ db := fun he => hnodup.1 (he ▸ List.mem_map_of_mem hd)
        refine wp_bind_onOk (F := fun _ p => p = {}) (wp_elsewhere hne
          (only_get_new_credentials suffix db_user teams d.2) (.inl rfl) fun _ => rfl)
          fun cred p hp => ?_
        subst hp
        exact wp_bind_onOk (wp_mapM_get_new_credentials hnodup.2 hd) fun creds q hq => hq

theorem wp_call {suffix : Str} {call : Call} (hd : call.Asks db tables) :
    wp (progress (permanentRole suffix) db tables) (call.prog settings suffix)
      (onOk fun _ p => p.Finished tables) {} := by
  rw [Call.prog, new_private_database_credentials]
  refine wp_bind_onOk (F := fun _ p => p = {}) (wp_of_idle (only_await trivial) fun _ => rfl)
    fun teams p hp => ?_
  subst hp
  refine wp_bind_onOk (wp_mapM_get_new_credentials (Dict.nodup _) hd) fun creds p hp => ?_
  cases call.dw_user with
  | none => exact hp
  | some owner => exact wp_summing.mpr ⟨trivial, fun _ => hp⟩

end Program

/-! ## The database users a call has made -/

section Made

variable {φ : Type} {adv : φ → Event Ans → φ} {R : φ → Str → Str → Prop} {settings : Settings}
  {suffix db_user : Str} {teams : List Str}

theorem wp_kept_made {α : Type} {p : M α} {F : φ → Prop} {s : φ}
    (hkeep : ∀ s e, F s → F (adv s e)) (hs : F s) :
    wp (summing adv fun _ _ => True) p (onOk fun _ s => F s) s := by
  refine wp_kept p.only_true (fun _ _ _ _ => trivial) (fun s o a _ => hkeep s ⟨o, a⟩) (fun r s hs => ?_) hs
  cases r with
  | ok a => exact hs
  | error e => trivial

theorem wp_get_new_credentials_made {db : Database} {tables : List (Str × Str)} {s : φ}
    (hkeep : ∀ d u s e, R s d u → R (adv s e) d u)
    (hmade : ∀ db u s, R (adv s ⟨.execute db (.createRole u), some ()⟩) db.id u) :
    wp (summing adv fun _ _ => True)
      (get_new_credentials settings suffix db_user teams db tables)
      (onOk fun cred s => R s cred.db_id cred.db_user) s := by
  have hany {α : Type} {p : M α} {s : φ} :
      wp (summing adv fun _ _ => True) p (onOk fun _ _ => True) s :=
    wp_kept_made (F := fun _ => True) (fun _ _ _ => trivial) trivial
  have hkept {α : Type} {p : M α} {s : φ} (hs : R s db.id db_user) :
      wp (summing adv fun _ _ => True) p (onOk fun _ s => R s db.id db_user) s :=
    wp_kept_made (hkeep _ _) hs
  rw [get_new_credentials]
  refine wp_bind_onOk hany fun password s _ => wp_bind_onOk hany fun existing s _ =>
    wp_bind_onOk hany fun _ s _ => wp_bind_onOk hany fun _ s _ => wp_bind_onOk hany fun pl s _ =>
      wp_bind_onOk (F := fun _ s => R s db.id db_user) ?_ fun _ s hs =>
        wp_bind_onOk (hkept hs) fun _ s hs => wp_bind_onOk (hkept hs) fun _ s hs => hs
  refine wp_summing.mpr ⟨trivial, fun a => ?_⟩
  cases a with
  | none => trivial
  | some _ => exact hkept (hmade db db_user s)

theorem wp_mapM_made (hkeep : ∀ d u s e, R s d u → R (adv s e) d u)
    (hmade : ∀ db u s, R (adv s ⟨.execute db (.createRole u), some ()⟩) db.id u) :
    ∀ {items : List (Database × List (Str × Str))} {s : φ},
      wp (summing adv fun _ _ => True) (items.mapM' fun d =>
        get_new_credentials settings suffix db_user teams d.1 d.2)
        (onOk fun creds s => ∀ cred ∈ creds, R s cred.db_id cred.db_user) s
  | [], _ => fun cred hcred => absurd hcred List.not_mem_nil
  | d :: items, s => by
      refine wp_bind_onOk (wp_get_new_credentials_made hkeep hmade) fun cred s hcred => ?_
      refine wp_bind_onOk (wp_onOk_and (wp_mapM_made hkeep hmade)
        (wp_kept_made (hkeep cred.db_id cred.db_user) hcred)) fun creds s hs => ?_
      intro c hc
      rcases List.mem_cons.mp hc with rfl | hc
      · exact hs.2
      · exact hs.1 c hc

theorem wp_new_private_database_credentials_made {source_tables : List Entry}
    {dw_user : Option User} {force : List Database} {s : φ}
    (hkeep : ∀ d u s e, R s d u → R (adv s e) d u)
    (hmade : ∀ db u s, R (adv s ⟨.execute db (.createRole u), some ()⟩) db.id u) :
    wp (summing adv fun _ _ => True)
      (new_private_database_credentials settings suffix source_tables db_user dw_user force)
      (onOk fun creds s => ∀ cred ∈ creds, R s cred.db_id cred.db_user) s := by
  rw [new_private_database_credentials]
  refine wp_bind_onOk (F := fun _ _ => True) (wp_kept_made (fun _ _ _ => trivial) trivial)
    fun teams s _ => wp_bind_onOk (wp_mapM_made hkeep hmade) fun creds s hcreds => ?_
  cases dw_user with
  | none => exact hcreds
  | some owner =>
      refine wp_summing.mpr ⟨trivial, fun _ => ?_⟩
      exact fun cred hcred => hkeep _ _ _ _ (hcreds cred hcred)

end Made

end Core
