import DataWorkspace.Accounts.OneLogin
import DataWorkspace.Py.Regex
import DataWorkspace.YourFiles.Forms

/-!
# Roles for tools

`create_tools_access_iam_role` makes a role of AWS for a user.  The role is named after the
email, the policy of the role is about the files of the `sso_id`, and the ARN of the role is stored
in the profile for good.  AWS tells roles apart by name, whatever the case.  A role of that name
that is there already is taken as it is, and gets a new policy.

`Owned` says that the users with a role have one each, with a policy about their own files.
`Event.Careful` leaves out two kinds of steps: a role is asked for by a user whose email gives the
name of the role of another user, and a login with a new id takes over a user with a role.  In
runs of the other steps `Owned` stays.
-/

namespace Accounts

open Py Async
open Sql (UniqueBy uniqueBy_of_nodup)

/-! ## AWS -/

structure Role where
  name : Str
  policy : Option Str
deriving DecidableEq

/-- The name by which AWS knows a role. -/
abbrev Role.key (role : Role) : Str := lower role.name

def Role.written (name policy : Str) (role : Role) : Role :=
  if role.key = lower name then { role with policy := some policy } else role

theorem Role.key_written (name policy : Str) (role : Role) :
    (Role.written name policy role).key = role.key := by
  rw [Role.written]
  split
  next => rfl
  next => rfl

theorem Role.name_written (name policy : Str) (role : Role) :
    (Role.written name policy role).name = role.name := by
  rw [Role.written]
  split
  next => rfl
  next => rfl

/-- The settings, and what they are put together with. -/
structure Settings where
  lib : YourFiles.Library
  /-- `str` of a UUID. -/
  uuid_str : Uuid → Str
  aws_account : Str
  S3_ROLE_PREFIX : Str
  S3_POLICY_DOCUMENT_TEMPLATE : Str

namespace Settings

variable (cfg : Settings)

def arn (name : Str) : Str :=
  "arn:aws:iam::".toList ++ cfg.aws_account ++ ":role/".toList ++ name

theorem arn_injective {a b : Str} (h : cfg.arn a = cfg.arn b) : a = b :=
  List.append_cancel_left h

/-- The prefix of the files of a user. -/
def prefix_of (sso_id : Uuid) : Str := YourFiles.get_s3_prefix cfg.lib (cfg.uuid_str sso_id)

def policy_document (files : Str) (access_point_id : Option Str) : Str :=
  replace (replace cfg.S3_POLICY_DOCUMENT_TEMPLATE "__S3_PREFIX__" files)
    "__ACCESS_POINT_ID__" (access_point_id.getD [])

end Settings

/-- The tables and the roles of AWS. -/
structure World where
  tables : Tables
  roles : List Role
  unique_name : UniqueBy Role.key roles

namespace World

variable (w : World)

/-- AWS has a role of the name. -/
def has (name : Str) : Bool := w.roles.any fun role => role.key = lower name

/-- A new role, without a policy. -/
def add (name : Str) (h : w.has name = false) : World where
  tables := w.tables
  roles := w.roles ++ [⟨name, none⟩]
  unique_name := w.unique_name.append fun role hrole hkey => by
    have hhas : w.has name = true :=
      List.any_eq_true.mpr ⟨role, hrole, decide_eq_true hkey⟩
    rw [h] at hhas
    cases hhas

def put (name policy : Str) : World where
  tables := w.tables
  roles := w.roles.map (Role.written name policy)
  unique_name := by
    intro i j a b ha hb hab
    rw [List.getElem?_map, Option.map_eq_some_iff] at ha hb
    obtain ⟨a', ha, rfl⟩ := ha
    obtain ⟨b', hb, rfl⟩ := hb
    rw [Role.key_written, Role.key_written] at hab
    exact w.unique_name ha hb hab

end World

/-! ## The program -/

inductive AwsError where
  | EntityAlreadyExists
  | NoSuchEntity
  | other
deriving DecidableEq

inductive RoleOp where
  | db (o : Op)
  | create_role (name : Str)
  | update_assume_role_policy (name : Str)
  | get_role (name : Str)
  | put_role_policy (name policy : Str)

@[reducible] def RoleAns : RoleOp → Type
  | .db o => Ans o
  | .get_role _ => Except AwsError Str
  | _ => Except AwsError Unit

inductive RoleError where
  | db (e : Error)
  | aws (e : AwsError)

abbrev RoleM (α : Type) := Prog RoleAns RoleError α

def call (o : RoleOp) : RoleM (RoleAns o) := .perform o

/-- An operation on the tables. -/
def onTables {α : Type} (p : M α) : RoleM α := p.lift .db (fun _ a => a) .db

def tries {α : Type} (attempt : RoleM (Except AwsError α)) : Nat → RoleM α
  | 0 => .raise (.aws .NoSuchEntity)
  | n + 1 => do
      let r ← attempt
      match r with
      | .ok a => .pure a
      | .error .NoSuchEntity => tries attempt n
      | .error e => .raise (.aws e)

def max_attempts : Nat := 10

/-- `User.objects.get(email=email)`. -/
def get_by_email (email : Str) : M Instance := do
  let r ← orRaise (← await (.get_by_emails [email]))
  .pure ⟨r.1, r.2, none⟩

def ensure_role (role_name : Str) : RoleM Unit := do
  let created : Except AwsError Unit ← call (.create_role role_name)
  match created with
  | .ok _ => .pure ()
  | .error .EntityAlreadyExists =>
      tries (call (.update_assume_role_policy role_name)) max_attempts
  | .error e => .raise (.aws e)

variable (cfg : Settings)

def create_tools_access_iam_role (user_email_address : Str) (user_sso_id : Uuid)
    (access_point_id : Option Str) : RoleM (Str × Str) := do
  let user ← onTables (get_by_email user_email_address)
  let profile ← onTables (get_profile user)
  if profile.tools_access_role_arn ≠ [] then
    .pure (profile.tools_access_role_arn, cfg.prefix_of user_sso_id)
  else do
    let role_name := cfg.S3_ROLE_PREFIX ++ user_email_address
    ensure_role role_name
    let role_arn ← tries (call (.get_role role_name)) max_attempts
    tries (call (.put_role_policy role_name
      (cfg.policy_document (cfg.prefix_of user_sso_id) access_point_id))) max_attempts
    let _ ← onTables (save
      { user with profile := some { profile with tools_access_role_arn := role_arn } })
    .pure (role_arn, cfg.prefix_of user_sso_id)

/-- What the tables and AWS do.  An operation of AWS may also fail, before or after it did
something. -/
inductive RoleActs : (o : RoleOp) → World → RoleAns o → World → Prop where
  | db {w : World} {o : Op} {a : Ans o} {tables : Tables}
      (h : Acts (fun _ => False) o w.tables a tables) :
      RoleActs (.db o) w a { w with tables := tables }
  | created {w : World} {name : Str} {r : Except AwsError Unit} (h : w.has name = false)
      (hr : r ≠ .error .EntityAlreadyExists) : RoleActs (.create_role name) w r (w.add name h)
  | already_exists {w : World} {name : Str} (h : w.has name = true) :
      RoleActs (.create_role name) w (.error .EntityAlreadyExists) w
  | not_created {w : World} {name : Str} :
      RoleActs (.create_role name) w (.error .other) w
  | updated {w : World} {name : Str} {r : Except AwsError Unit} :
      RoleActs (.update_assume_role_policy name) w r w
  | got {w : World} {name : Str} {role : Role} (hmem : role ∈ w.roles)
      (hname : role.key = lower name) :
      RoleActs (.get_role name) w (.ok (cfg.arn role.name)) w
  | not_got {w : World} {name : Str} {e : AwsError} : RoleActs (.get_role name) w (.error e) w
  | put {w : World} {name policy : Str} {r : Except AwsError Unit} :
      RoleActs (.put_role_policy name policy) w r (w.put name policy)
  | not_put {w : World} {name policy : Str} {e : AwsError} :
      RoleActs (.put_role_policy name policy) w (.error e) w

/-- The interpretation of the program. -/
abbrev acting : Interp RoleAns World := ⟨RoleActs cfg, fun _ _ => True⟩

/-! ## What holds of the roles -/

/-- The ARNs that are stored for users are distinct, and each is that of a role with a policy
about the files of its user. -/
structure World.Owned (w : World) : Prop where
  distinct : ∀ {i j a b}, w.tables.get i = some a → w.tables.get j = some b →
    a.profile.tools_access_role_arn ≠ [] →
    a.profile.tools_access_role_arn = b.profile.tools_access_role_arn → i = j
  own_policy : ∀ {i a}, w.tables.get i = some a → a.profile.tools_access_role_arn ≠ [] →
    ∃ role ∈ w.roles, cfg.arn role.name = a.profile.tools_access_role_arn ∧
      ∃ access_point_id,
        role.policy = some (cfg.policy_document (cfg.prefix_of a.profile.sso_id) access_point_id)

/-- No user has the role with the name. -/
def World.Free (w : World) (name : Str) : Prop :=
  ∀ ⦃i a⦄, w.tables.get i = some a → a.profile.tools_access_role_arn ≠ [] →
    ∀ role ∈ w.roles, cfg.arn role.name = a.profile.tools_access_role_arn → role.key ≠ lower name

section Owned

variable {cfg} {w : World} {name policy : Str}

theorem World.has_of_mem {role : Role} (h : role ∈ w.roles) : w.has role.name = true :=
  List.any_eq_true.mpr ⟨role, h, decide_eq_true rfl⟩

theorem World.Owned.add (h : w.Owned cfg) (hname : w.has name = false) :
    (w.add name hname).Owned cfg where
  distinct := h.distinct
  own_policy := by
    intro i a ha hne
    obtain ⟨role, hmem, hrole⟩ := h.own_policy ha hne
    exact ⟨role, List.mem_append_left _ hmem, hrole⟩

theorem World.Owned.free_add (h : w.Owned cfg) (hfree : w.Free cfg name)
    (hname : w.has name = false) : (w.add name hname).Free cfg name := by
  intro i a ha hne role hmem harn
  rcases List.mem_append.mp hmem with hmem | hmem
  · exact hfree ha hne role hmem harn
  · obtain rfl := List.mem_singleton.mp hmem
    obtain ⟨role', hmem', harn', -⟩ := h.own_policy ha hne
    have hsame : role'.name = name := cfg.arn_injective (harn'.trans harn.symm)
    have hhas := World.has_of_mem hmem'
    rw [hsame, hname] at hhas
    cases hhas

theorem World.Owned.put (h : w.Owned cfg) (hfree : w.Free cfg name) :
    (w.put name policy).Owned cfg where
  distinct := h.distinct
  own_policy := by
    intro i a ha hne
    obtain ⟨role, hmem, harn, hrole⟩ := h.own_policy ha hne
    have hwritten : Role.written name policy role = role :=
      if_neg (hfree ha hne role hmem harn)
    exact ⟨role, hwritten ▸ List.mem_map_of_mem hmem, harn, hrole⟩

theorem World.Free.put (hfree : w.Free cfg name) : (w.put name policy).Free cfg name := by
  intro i a ha hne role hmem harn
  obtain ⟨role', hmem', rfl⟩ := List.mem_map.mp hmem
  rw [Role.name_written] at harn
  rw [Role.key_written]
  exact hfree ha hne role' hmem' harn

theorem World.Owned.of_profiles (h : w.Owned cfg) {tables : Tables}
    (hget : ∀ {i a}, tables.get i = some a → ∃ b, w.tables.get i = some b ∧ b.profile = a.profile) :
    ({ w with tables := tables } : World).Owned cfg where
  distinct := by
    intro i j a b ha hb hne hab
    obtain ⟨a', ha', hpa⟩ := hget ha
    obtain ⟨b', hb', hpb⟩ := hget hb
    rw [← hpa] at hne hab
    rw [← hpb] at hab
    exact h.distinct ha' hb' hne hab
  own_policy := by
    intro i a ha hne
    obtain ⟨a', ha', hpa⟩ := hget ha
    rw [← hpa] at hne ⊢
    exact h.own_policy ha' hne

theorem World.Owned.give (h : w.Owned cfg) (hfree : w.Free cfg name) {id : Nat} {a : Account}
    (ha : w.tables.get id = some a) {role : Role} (hmem : role ∈ w.roles)
    (hname : role.key = lower name) {access_point_id : Option Str}
    (hpolicy : role.policy =
      some (cfg.policy_document (cfg.prefix_of a.profile.sso_id) access_point_id))
    {tables : Tables} (hget : tables.get = Function.update w.tables.get id
      (some { a with profile := { a.profile with tools_access_role_arn := cfg.arn role.name } })) :
    ({ w with tables := tables } : World).Owned cfg := by
  have hself : ∀ {b}, tables.get id = some b →
      b = { a with profile := { a.profile with tools_access_role_arn := cfg.arn role.name } } := by
    intro b hb
    rw [hget, Function.update_self] at hb
    exact (Option.some.inj hb).symm
  have hother : ∀ {i b}, i ≠ id → tables.get i = some b → w.tables.get i = some b ∧
      (b.profile.tools_access_role_arn ≠ [] →
        b.profile.tools_access_role_arn ≠ cfg.arn role.name) := by
    intro i b hi hb
    rw [hget, Function.update_of_ne hi] at hb
    exact ⟨hb, fun hne harn => hfree hb hne role hmem harn.symm hname⟩
  constructor
  · intro i j b c hb hc hne hbc
    by_cases hi : i = id
    · subst hi
      by_cases hj : j = i
      · exact hj.symm
      · rw [hself hb] at hne hbc
        obtain ⟨-, hdiff⟩ := hother hj hc
        exact absurd hbc.symm (hdiff (hbc ▸ hne))
    · obtain ⟨hb, hdiff⟩ := hother hi hb
      by_cases hj : j = id
      · subst hj
        rw [hself hc] at hbc
        exact absurd hbc (hdiff hne)
      · exact h.distinct hb (hother hj hc).1 hne hbc
  · intro i b hb hne
    by_cases hi : i = id
    · subst hi
      rw [hself hb]
      exact ⟨role, hmem, rfl, access_point_id, hpolicy⟩
    · exact h.own_policy (hother hi hb).1 hne

/-! ## The steps of the program -/

theorem wp_tries {α : Type} {J : World → Prop} {G : α → World → Prop}
    {attempt : RoleM (Except AwsError α)}
    (h : ∀ w, J w → wp (acting cfg) attempt
      (fun r w' => J w' ∧ ∀ a, r = .ok (.ok a) → G a w') w) (n : Nat) :
    ∀ w, J w → wp (acting cfg) (tries attempt n) (fun r w' => J w' ∧ ∀ a, r = .ok a → G a w') w := by
  induction n with
  | zero => exact fun w hw => ⟨hw, fun _ hr => nomatch hr⟩
  | succ n ih =>
      intro w hw
      refine wp_bind_of (h w hw) (fun r w' hr => ?_) fun e w' hr => ⟨hr.1, fun _ hr => nomatch hr⟩
      cases r with
      | ok a =>
          refine ⟨hr.1, fun a' ha' => ?_⟩
          cases ha'
          exact hr.2 a rfl
      | error e =>
          cases e with
          | NoSuchEntity => exact ih w' hr.1
          | _ => exact ⟨hr.1, fun _ hr => nomatch hr⟩

variable (cfg) in
/-- The tables are as before, and no user has the role of the name. -/
structure World.Working (tables : Tables) (name : Str) (w : World) : Prop where
  tables_eq : w.tables = tables
  owned : w.Owned cfg
  free : w.Free cfg name

variable {tables : Tables}

theorem wp_ensure_role (hw : World.Working cfg tables name w) :
    wp (acting cfg) (ensure_role name) (fun _ => World.Working cfg tables name) w := by
  refine ⟨trivial, fun r w' hact => ?_⟩
  have hw' : World.Working cfg tables name w' := by
    cases hact with
    | created h _ => exact ⟨hw.tables_eq, hw.owned.add h, hw.owned.free_add hw.free h⟩
    | already_exists h => exact hw
    | not_created => exact hw
  cases r with
  | ok _ => exact hw'
  | error e =>
      cases e with
      | EntityAlreadyExists =>
          refine wp_mono (fun _ _ h => h.1) _ _ (wp_tries (G := fun _ _ => True) ?_ _ w' hw')
          intro w hw
          refine ⟨trivial, fun r w' hact => ?_⟩
          cases hact with
          | updated => exact ⟨hw, fun _ _ => trivial⟩
      | _ => exact hw'

theorem wp_get_role (hw : World.Working cfg tables name w) (n : Nat) :
    wp (acting cfg) (tries (call (.get_role name)) n)
      (fun r w' => World.Working cfg tables name w' ∧ ∀ arn, r = .ok arn →
        ∃ role ∈ w'.roles, role.key = lower name ∧ cfg.arn role.name = arn) w := by
  refine wp_tries ?_ n w hw
  intro w hw
  refine ⟨trivial, fun r w' hact => ?_⟩
  cases hact with
  | got hmem hname =>
      refine ⟨hw, fun arn harn => ?_⟩
      cases harn
      exact ⟨_, hmem, hname, rfl⟩
  | not_got => exact ⟨hw, fun _ hr => nomatch hr⟩

theorem wp_put_role_policy (hw : World.Working cfg tables name w) {role : Role}
    (hmem : role ∈ w.roles) (hname : role.key = lower name) (n : Nat) :
    wp (acting cfg) (tries (call (.put_role_policy name policy)) n)
      (fun r w' => World.Working cfg tables name w' ∧ ∀ a, r = .ok a →
        ∃ role' ∈ w'.roles, role'.name = role.name ∧ role'.key = lower name ∧
          role'.policy = some policy) w := by
  have hwritten : ∀ {w : World} {role' : Role}, role' ∈ w.roles → role'.name = role.name →
      ∃ role'' ∈ (w.put name policy).roles, role''.name = role.name ∧ role''.key = lower name ∧
        role''.policy = some policy := by
    intro w role' hmem' hsame
    have hkey : role'.key = lower name := (congrArg lower hsame).trans hname
    refine ⟨Role.written name policy role', List.mem_map_of_mem hmem',
      (Role.name_written ..).trans hsame, (Role.key_written ..).trans hkey, ?_⟩
    rw [Role.written, if_pos hkey]
  refine wp_mono (fun _ _ h => ⟨h.1.1, h.2⟩) _ _ (wp_tries (J := fun w =>
    World.Working cfg tables name w ∧ ∃ role' ∈ w.roles, role'.name = role.name) ?_ n w
      ⟨hw, role, hmem, rfl⟩)
  rintro w ⟨hw, role', hmem', hsame⟩
  refine ⟨trivial, fun r w' hact => ?_⟩
  cases hact with
  | put =>
      obtain ⟨role'', hmem'', hsame'', hrest⟩ := hwritten hmem' hsame
      exact ⟨⟨⟨hw.tables_eq, hw.owned.put hw.free, hw.free.put⟩, role'', hmem'', hsame''⟩,
        fun _ _ => ⟨role'', hmem'', hsame'', hrest⟩⟩
  | not_put => exact ⟨⟨hw, role', hmem', hsame⟩, fun _ hr => nomatch hr⟩

theorem wp_store_arn (h : w.Owned cfg) (hfree : w.Free cfg name) {id : Nat} {a : Account}
    (ha : w.tables.get id = some a) {role : Role} (hmem : role ∈ w.roles)
    (hname : role.key = lower name) {access_point_id : Option Str}
    (hpolicy : role.policy =
      some (cfg.policy_document (cfg.prefix_of a.profile.sso_id) access_point_id)) :
    wp (acting cfg) (onTables (save ⟨id, a.user,
      some { a.profile with tools_access_role_arn := cfg.arn role.name }⟩))
      (fun _ w' => w'.Owned cfg) w := by
  refine ⟨trivial, fun r w' hact => ?_⟩
  cases hact with
  | @db _ _ _ saved hact =>
      rcases hact.save_user with ⟨b, hb, rfl, hget, -⟩ | ⟨rfl, hnone | ⟨rfl, -⟩ | ⟨rfl, -⟩⟩
      · obtain rfl : b = a := Option.some.inj (hb.symm.trans ha)
        have hsame : saved.get = w.tables.get := by
          rw [hget]
          exact Function.update_eq_self_iff.mpr hb.symm
        refine ⟨trivial, fun r w' hact => ?_⟩
        cases hact with
        | @db _ _ _ stored hact =>
            rcases hact.save_profile with ⟨c, hc, rfl, hget, -⟩ | ⟨rfl, hnone | ⟨rfl, -⟩⟩
            · obtain rfl : c = b := Option.some.inj (hc.symm.trans (hsame ▸ hb))
              rw [hsame] at hget
              exact h.give hfree hb hmem hname hpolicy hget
            · rw [hsame, hb] at hnone
              cases hnone
            · exact h.of_profiles fun hi => ⟨_, hsame ▸ hi, rfl⟩
      · rw [ha] at hnone
        cases hnone
      · exact h
      · exact h

theorem wp_create_tools_access_iam_role (h : w.Owned cfg) {id : Nat} {a : Account}
    (ha : w.tables.get id = some a)
    (hfree : a.profile.tools_access_role_arn = [] → w.Free cfg (cfg.S3_ROLE_PREFIX ++ a.user.email))
    (access_point_id : Option Str) :
    wp (acting cfg) (create_tools_access_iam_role cfg a.user.email a.profile.sso_id access_point_id)
      (fun _ w' => w'.Owned cfg) w := by
  refine ⟨trivial, fun r w' hact => ?_⟩
  cases hact with
  | db hact =>
  obtain ⟨rfl, hr⟩ := hact.get_by_emails
  cases r with
  | error e => exact h
  | ok r =>
  obtain rfl := Tables.by_emails_unique hr ha (List.mem_singleton.mpr rfl)
  refine ⟨trivial, fun r w' hact => ?_⟩
  cases hact with
  | db hact =>
  obtain ⟨rfl, rfl⟩ := hact.get_profile
  rw [ha]
  show wp (acting cfg) (if a.profile.tools_access_role_arn ≠ [] then _ else _) _ w
  split
  next => exact h
  next harn =>
    have harn := not_not.mp harn
    refine wp_bind_of (wp_ensure_role ⟨rfl, h, hfree harn⟩) (fun _ w₁ hw₁ => ?_) fun _ _ hw => hw.owned
    refine wp_bind_of (wp_get_role hw₁ _) (fun arn w₂ hw₂ => ?_) fun _ _ hw => hw.1.owned
    obtain ⟨role, hmem, hname, rfl⟩ := hw₂.2 arn rfl
    refine wp_bind_of (wp_put_role_policy hw₂.1 hmem hname _) (fun _ w₃ hw₃ => ?_)
      fun _ _ hw => hw.1.owned
    obtain ⟨role', hmem', hsame, hname', hpolicy⟩ := hw₃.2 () rfl
    rw [← hsame]
    exact wp_bind_of (wp_store_arn hw₃.1.owned hw₃.1.free (hw₃.1.tables_eq ▸ ha) hmem' hname'
      hpolicy) (fun _ _ hw => hw) fun _ _ hw => hw

end Owned

/-! ## Runs -/

/-- A login, or the creation of a role for a user. -/
inductive Action where
  | log_in (login : Login)
  | create_role (id : Nat) (access_point_id : Option Str)

/-- One action from its beginning.  A login may stop before its end. -/
inductive Action.Does : Action → World → World → Prop where
  | log_in {w : World} {login : Login} {c : LoginConfig Unit} (h : Alone login w.tables c) :
      Does (.log_in login) w { w with tables := c.store }
  | create_role {w w' : World} {id : Nat} {a : Account} {access_point_id : Option Str}
      {r : Except RoleError (Str × Str)} (ha : w.tables.get id = some a)
      (h : Steps (acting cfg)
        (create_tools_access_iam_role cfg a.user.email a.profile.sso_id access_point_id) w
        (ended r) w') :
      Does (.create_role id access_point_id) w w'

/-- A login spares the roles.  A role is asked for if the user has one, or nobody has a role of
the name. -/
def Action.Careful (w : World) : Action → Prop
  | .log_in login => login.SparesRoles w.tables
  | .create_role id _ => ∀ a, w.tables.get id = some a → a.profile.tools_access_role_arn = [] →
      w.Free cfg (cfg.S3_ROLE_PREFIX ++ a.user.email)

/-- The states that a sequence of actions comes to, each of which meets the condition. -/
inductive Runs (ok : World → Action → Prop) (w₀ : World) : World → Prop where
  | refl : Runs ok w₀ w₀
  | step {w w' : World} {action : Action} : Runs ok w₀ w → ok w action → action.Does cfg w w' →
      Runs ok w₀ w'

variable {cfg} {w w' w₀ : World}

theorem Kept.of_role {x : Option Account} {b : Account} (h : Kept x (some b))
    (hne : b.profile.tools_access_role_arn ≠ []) : ∃ a, x = some a ∧
      a.profile.tools_access_role_arn = b.profile.tools_access_role_arn ∧
      a.profile.sso_id = b.profile.sso_id := by
  cases x with
  | none => exact absurd h hne
  | some a => exact ⟨a, rfl, h.1.symm, (h.2 (h.1 ▸ hne)).symm⟩

theorem World.Owned.kept (h : w.Owned cfg) {tables : Tables}
    (hkept : ∀ id, Kept (w.tables.get id) (tables.get id)) :
    ({ w with tables := tables } : World).Owned cfg where
  distinct := by
    intro i j a b ha hb hne hab
    have hold : ∀ {k c}, tables.get k = some c → c.profile.tools_access_role_arn ≠ [] →
        ∃ a, w.tables.get k = some a ∧
          a.profile.tools_access_role_arn = c.profile.tools_access_role_arn := by
      intro k c hc hne
      have hk := hkept k
      rw [hc] at hk
      obtain ⟨a, ha, harn, -⟩ := hk.of_role hne
      exact ⟨a, ha, harn⟩
    obtain ⟨a', ha', harn⟩ := hold ha hne
    obtain ⟨b', hb', hbrn⟩ := hold hb (hab ▸ hne)
    exact h.distinct ha' hb' (harn ▸ hne) (harn.trans (hab.trans hbrn.symm))
  own_policy := by
    intro i b hb hne
    have hi := hkept i
    rw [show tables.get i = some b from hb] at hi
    obtain ⟨a, ha, harn, hid⟩ := hi.of_role hne
    rw [← harn, ← hid]
    exact h.own_policy ha (harn ▸ hne)

theorem World.Owned.does (h : w.Owned cfg) {action : Action} (hcareful : action.Careful cfg w)
    (hdoes : action.Does cfg w w') : w'.Owned cfg := by
  cases hdoes with
  | log_in halone => exact h.kept (kept_of_alone hcareful halone)
  | @create_role _ _ id a access_point_id r ha hsteps =>
      have hend := wp_steps hsteps
        (wp_create_tools_access_iam_role h ha (hcareful a ha) access_point_id)
      cases r with
      | ok _ => exact hend
      | error _ => exact hend

/-- In runs of careful actions the users with a role have one each, with a policy about their own
files. -/
theorem roles_owned (h₀ : w₀.Owned cfg) (h : Runs cfg (fun w action => action.Careful cfg w) w₀ w) :
    w.Owned cfg := by
  induction h with
  | refl => exact h₀
  | step _ hcareful hdoes ih => exact ih.does hcareful hdoes

/-! ### Two users of one email -/

section Examples

/-- AWS and the database answer as they can. -/
def rolesAnswer (cfg : Settings) : (o : RoleOp) → World → Option (RoleAns o × World)
  | .db o, w =>
      some ((exec (newId w.tables) o w.tables).1,
        { w with tables := (exec (newId w.tables) o w.tables).2 })
  | .create_role name, w =>
      if h : w.has name = false then some (.ok (), w.add name h)
      else some (.error .EntityAlreadyExists, w)
  | .update_assume_role_policy _, w => some (.ok (), w)
  | .get_role name, w =>
      some ((match w.roles.find? fun role => role.key = lower name with
        | some role => .ok (cfg.arn role.name)
        | none => .error .NoSuchEntity), w)
  | .put_role_policy name policy, w => some (.ok (), w.put name policy)

theorem acts_of_rolesAnswer (o : RoleOp) (w : World) (a : RoleAns o) (w' : World)
    (h : rolesAnswer cfg o w = some (a, w')) : (acting cfg).step o w a w' := by
  cases o with
  | db o =>
      cases h
      exact .db ⟨newId w.tables, newId_new _, id, rfl⟩
  | create_role name =>
      rw [rolesAnswer] at h
      split at h
      next hname =>
        cases h
        exact .created hname nofun
      next hname =>
        cases h
        exact .already_exists (Bool.not_eq_false _ ▸ hname)
  | update_assume_role_policy name =>
      cases h
      exact .updated
  | get_role name =>
      cases h
      split
      next role hrole =>
        have hname := List.find?_some hrole
        exact .got (List.mem_of_find?_eq_some hrole) (of_decide_eq_true hname)
      next => exact .not_got
  | put_role_policy name policy =>
      cases h
      exact .put

/-- The state after an action, with these answers. -/
def Action.after (cfg : Settings) (w : World) : Action → Option World
  | .log_in login => some { w with tables :=
      (((logging_in fun _ => login).start w.tables).play answer Always
        (List.replicate 20 ())).store }
  | .create_role id access_point_id =>
      (w.tables.get id).bind fun a => ((create_tools_access_iam_role cfg a.user.email
        a.profile.sso_id access_point_id).follow (rolesAnswer cfg) w).map Prod.snd

/-- The logins of examples have small ids. -/
def Action.small : Action → Bool
  | .log_in login => login.sso_id ≤ 9
  | .create_role _ _ => true

theorem Action.does_after {action : Action} (hsmall : action.small = true)
    (h : action.after cfg w = some w') : action.Does cfg w w' := by
  cases action with
  | log_in login =>
      cases h
      exact .log_in (Shared.run_play (acts_of_answer fun _ => of_decide_eq_true hsmall) _ _)
  | create_role id access_point_id =>
      rw [Action.after, Option.bind_eq_some_iff] at h
      obtain ⟨a, ha, h⟩ := h
      obtain ⟨r, hr, rfl⟩ := Option.map_eq_some_iff.mp h
      exact .create_role ha (Prog.steps_of_follow acts_of_rolesAnswer hr)

def nobody : World := ⟨noUsers, [], uniqueBy_of_nodup (by decide)⟩

theorem owned_nobody : nobody.Owned cfg where
  distinct h := nomatch h
  own_policy h := nomatch h

def exampleSettings : Settings where
  lib := ⟨Char.isAlphanum, lower, fun s => s, fun _ => .error .other⟩
  uuid_str := str
  aws_account := "1"
  S3_ROLE_PREFIX := "user-"
  S3_POLICY_DOCUMENT_TEMPLATE := "__S3_PREFIX__"

/-- The login of a user with one email. -/
def logsIn (sso_id : Uuid) (email : Str) : Action := .log_in (plainLogin sso_id email)

/-- The state after some actions. -/
def World.afterAll (cfg : Settings) (w : World) : List Action → Option World
  | [] => some w
  | action :: actions => (action.after cfg w).bind fun w' => World.afterAll cfg w' actions

theorem runs_afterAll {actions : List Action} {ok : World → Action → Prop} {w₀ : World}
    (hsmall : ∀ action ∈ actions, action.small = true) (hok : ∀ w, ∀ action ∈ actions, ok w action)
    (hrun : Runs cfg ok w₀ w) (h : w.afterAll cfg actions = some w') : Runs cfg ok w₀ w' := by
  induction actions generalizing w with
  | nil =>
      cases h
      exact hrun
  | cons action actions ih =>
      rw [World.afterAll, Option.bind_eq_some_iff] at h
      obtain ⟨w₁, h₁, h⟩ := h
      have hmem : action ∈ action :: actions := List.mem_cons_self ..
      exact ih (fun a ha => hsmall a (List.mem_cons_of_mem _ ha))
        (fun w a ha => hok w a (List.mem_cons_of_mem _ ha))
        (hrun.step (hok w action hmem) (Action.does_after (hsmall action hmem) h₁)) h

theorem careful_of_no_roles
    (h : (w.tables.rows.all fun a => a.profile.tools_access_role_arn = []) = true)
    (action : Action) : action.Careful cfg w := by
  have hnone : ∀ {id a}, w.tables.get id = some a → a.profile.tools_access_role_arn = [] :=
    fun ha => of_decide_eq_true (List.all_eq_true.mp h _ (Tables.mem_of_get ha))
  cases action with
  | log_in login => exact .inr fun id a ha _ => hnone ha
  | create_role id access_point_id => exact fun _ _ _ _ _ hi hne => absurd (hnone hi) hne

theorem roles_owned_first_role : ∃ w w' : World, nobody.afterAll exampleSettings [logsIn 1
    "ada@example.org"] = some w ∧ (Action.create_role 0 none).after exampleSettings w = some w' ∧
    w'.Owned exampleSettings := by
  have h₁ : (nobody.afterAll exampleSettings [logsIn 1 "ada@example.org"]).isSome := by
    decide +kernel
  obtain ⟨w, hw⟩ := Option.isSome_iff_exists.mp h₁
  have hnone : (nobody.afterAll exampleSettings [logsIn 1 "ada@example.org"]).all (fun w =>
      w.tables.rows.all fun a => a.profile.tools_access_role_arn = []) = true := by decide +kernel
  have h₂ : ((nobody.afterAll exampleSettings [logsIn 1 "ada@example.org"]).bind
      fun w => (Action.create_role 0 none).after exampleSettings w).isSome := by decide +kernel
  rw [hw] at hnone h₂
  obtain ⟨w', hw'⟩ := Option.isSome_iff_exists.mp h₂
  have hlogin : (logsIn 1 "ada@example.org").after exampleSettings nobody = some w := hw
  refine ⟨w, w', hw, hw', roles_owned owned_nobody (.step (.step .refl ?_
    (@Action.does_after exampleSettings nobody w (logsIn 1 "ada@example.org") (by decide) hlogin)) ?_
      (@Action.does_after exampleSettings w w' (.create_role 0 none) rfl hw'))⟩
  · exact careful_of_no_roles rfl _
  · exact careful_of_no_roles hnone _

/-- A user with a role changes the email, and another user comes with the old one and asks for
a role. -/
def emailOfAnother : List Action :=
  [logsIn 1 "ada@example.org", .create_role 0 none, logsIn 1 "grace@example.org",
    logsIn 2 "ADA@example.org", .create_role 1 none]

/-- The second user gets the role of the first, which is now about the files of the second. -/
theorem role_shared : ∃ w, Runs exampleSettings (fun _ _ => True) nobody w ∧
    ¬ w.Owned exampleSettings := by
  have hsome : (nobody.afterAll exampleSettings emailOfAnother).isSome := by decide +kernel
  have harns : (nobody.afterAll exampleSettings emailOfAnother).map (fun w =>
      ((w.tables.get 0).map fun a => a.profile.tools_access_role_arn,
        (w.tables.get 1).map fun a => a.profile.tools_access_role_arn)) =
      some (some "arn:aws:iam::1:role/user-ada@example.org".toList,
        some "arn:aws:iam::1:role/user-ada@example.org".toList) := by decide +kernel
  obtain ⟨w, hw⟩ := Option.isSome_iff_exists.mp hsome
  refine ⟨w, runs_afterAll (by decide) (fun _ _ _ => trivial) .refl hw, fun howned => ?_⟩
  rw [hw, Option.map_some, Option.some_inj, Prod.mk.injEq, Option.map_eq_some_iff,
    Option.map_eq_some_iff] at harns
  obtain ⟨⟨a, ha, harn⟩, ⟨b, hb, hbrn⟩⟩ := harns
  have hne : a.profile.tools_access_role_arn ≠ [] := by
    rw [harn]
    decide
  exact absurd (howned.distinct ha hb hne (harn.trans hbrn.symm)) (by decide)

end Examples

end Accounts
