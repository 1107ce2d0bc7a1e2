import DataWorkspace.Accounts.Bindings

/-!
# The sync of users

A run of the sync asks the activity stream for page after page of users, until a page is empty,
and treats every record as a login.  An `IntegrityError` is logged, and the run goes on.  Any other
exception stops the run, so that the records behind are left out and the position is not saved.  An
`IntegrityError` may also come late, when the id of a user was changed already.

`Login.Applies` is the condition on the tables under which a login ends well, or is refused before
it has changed a user (`wp_login_applies`).  `AllApply` asks for it at every record of a run, and
then the run goes through all records of all pages (`sync_processes`).
-/

namespace Accounts

open Py Async

/-! ## The records -/

/-- The record of a user.  A key may be missing. -/
structure Record where
  /-- `dit:StaffSSO:User:userId`, which need not be a UUID. -/
  user_id : Option (Option Uuid)
  emails : Option (List Str)
  /-- `dit:StaffSSO:User:contactEmailAddress`, and the empty text for `null`. -/
  contact_email : Option Str
  first_name : Option Str
  last_name : Option Str
  /-- `published`, which need not be a time. -/
  published : Option (Option Nat)
  sort : Option Nat

inductive SyncError where
  | KeyError
  | IndexError
  | ValueError
  | ValidationError
  | db (e : Error)
  | Exception
deriving DecidableEq

abbrev SyncM (α : Type) := Prog Ans SyncError α

/-- A value, or an exception where there is none. -/
def orFail {α : Type} (e : SyncError) : Option α → Except SyncError α
  | some a => .ok a
  | none => .error e

/-- The arguments of `create_user_from_sso`. -/
def Record.login (record : Record) : Except SyncError Login := do
  let user_id ← orFail .KeyError record.user_id
  let emails ← orFail .KeyError record.emails
  let contact_email ← orFail .KeyError record.contact_email
  let primary_email ←
    if contact_email ≠ [] then .ok contact_email else orFail .IndexError emails.head?
  let first_name ← orFail .KeyError record.first_name
  let last_name ← orFail .KeyError record.last_name
  let sso_id ← orFail .ValidationError user_id
  .ok ⟨sso_id, primary_email, emails, first_name, last_name, true⟩

/-- The `try` block. -/
def create_user_record (login : Login) : SyncM Unit := do
  let r : Except Error Instance ← (create_user_from_sso login).attempt
  match r with
  | .ok _ => .pure ()
  | .error .IntegrityError => .pure ()
  | .error e => .raise (.db e)

/-- The body of the loop over the records. -/
def Record.process (record : Record) : SyncM Unit :=
  match record.login with
  | .ok login => create_user_record login
  | .error e => .raise e

/-! ## The run -/

/-- What a request for a page comes to. -/
inductive Fetch where
  | hawk_exception
  /-- Another status than 200. -/
  | status (code : Nat)
  | failures
  | records (l : List Record)

def page_end (page : List Record) : Except SyncError Nat := do
  let record ← orFail .IndexError page.getLast?
  let published ← orFail .KeyError record.published
  let last_published ← orFail .ValueError published
  let _ ← orFail .KeyError record.sort
  .ok last_published

/-- `_do_sync_activity_stream_sso_users`, with what the requests come to.  There are no records
behind them.  The position that is returned is saved. -/
def sync_activity_stream_sso_users (last_published : Nat) : List Fetch → SyncM Nat
  | [] => .pure last_published
  | .hawk_exception :: _ => .pure last_published
  | .status _ :: _ => .raise .Exception
  | .failures :: _ => .raise .Exception
  | .records [] :: _ => .pure last_published
  | .records (record :: l) :: rest => do
      (record :: l).forM Record.process
      match page_end (record :: l) with
      | .ok last_published => sync_activity_stream_sso_users last_published rest
      | .error e => .raise e

/-! ## A login on its own -/

/-- A login that ends well, or is refused before it has changed a user.  The user with the id is
there, or nobody has the id and either there is one user with an email of the login, whose username
may become the primary email, or there is none, and one is made or somebody has the username. -/
def Login.Applies (login : Login) (s : Tables) : Prop :=
  ((∃ id a, s.get id = some a ∧ a.profile.sso_id = login.sso_id) ∧ login.row.Fits) ∨
  (∀ id a, s.get id = some a → a.profile.sso_id ≠ login.sso_id) ∧
    ((∃ id a, s.get id = some a ∧ a.user.email ∈ login.emails ∧ login.row.Fits ∧
        (∀ j b, s.get j = some b → b.user.email ∈ login.emails → j = id) ∧
        ∀ j b, s.get j = some b → b.user.username = login.primary_email → j = id) ∨
      (∀ id a, s.get id = some a → a.user.email ∉ login.emails) ∧
        (Tables.new_user login.primary_email).Fits ∧
        ((∃ id a, s.get id = some a ∧ a.user.username = login.primary_email) ∨ login.row.Fits))

/-- What the database does while one login is at work. -/
abbrev alone (reserved : Uuid → Prop) : Interp Ans Tables := ⟨Acts reserved, fun _ _ => True⟩

section Alone

variable {reserved : Uuid → Prop} {login : Login} {s : Tables} {id : Nat} {a : Account}

theorem wp_save_alone {row : User} {p : Option Profile} {profile : Profile}
    (ha : s.get id = some a) (hfits : row.Fits) (hp : p.getD a.profile = profile)
    (hfree : ∀ j b, j ≠ id → s.get j = some b → b.profile.sso_id ≠ profile.sso_id) :
    wp (alone reserved) (save ⟨id, row, p⟩) (fun r s' =>
      r = .ok ⟨id, row, some profile⟩ ∧
          s'.get = Function.update s.get id (some { a with user := row, profile := profile }) ∨
        r = .error .IntegrityError ∧ s'.get = s.get ∧
          ∃ j b, j ≠ id ∧ s.get j = some b ∧ b.user.username = row.username) s := by
  have hlast : ∀ {s₁ : Tables}, s₁.get = Function.update s.get id (some { a with user := row }) →
      wp (alone reserved) (do
        let r : Except Error Unit ← await (.save_profile id profile)
        orRaise r
        .pure (⟨id, row, some profile⟩ : Instance)) (fun r s' =>
          r = .ok ⟨id, row, some profile⟩ ∧
          s'.get = Function.update s.get id (some { a with user := row, profile := profile })) s₁ := by
    intro s₁ hget
    have hself : s₁.get id = some { a with user := row } := by rw [hget, Function.update_self]
    refine ⟨trivial, fun r s' hact => ?_⟩
    rcases hact.save_profile with ⟨b, hb, rfl, hget', -⟩ | ⟨-, hnone | ⟨-, j, b, hj, hb, hid⟩⟩
    · rw [hself] at hb
      cases hb
      refine ⟨rfl, ?_⟩
      rw [hget', hget, Function.update_idem]
    · rw [hself] at hnone
      cases hnone
    · rw [hget, Function.update_of_ne hj] at hb
      exact absurd hid (hfree j b hj hb)
  refine ⟨trivial, fun r s₁ hact => ?_⟩
  rcases hact.save_user with ⟨b, hb, rfl, hget, -⟩ | ⟨rfl, hnone | ⟨rfl, hclash⟩ | ⟨-, hnot⟩⟩
  · obtain rfl : b = a := Option.some.inj (hb.symm.trans ha)
    have hself : s₁.get id = some { b with user := row } := by rw [hget, Function.update_self]
    cases p with
    | some p =>
        obtain rfl : p = profile := hp
        exact wp_mono (fun _ _ h => .inl h) _ _ (hlast hget)
    | none =>
        obtain rfl : b.profile = profile := hp
        refine ⟨trivial, fun r s₂ hact => ?_⟩
        obtain ⟨rfl, rfl⟩ := hact.get_profile
        rw [hself]
        exact wp_mono (fun _ _ h => .inl h) _ _ (hlast hget)
  · rw [hnone] at ha
    cases ha
  · exact .inr ⟨rfl, rfl, hclash⟩
  · exact absurd hfits hnot

/-- The user in memory is the one that is stored. -/
structure Current (user : Instance) (a : Account) (s : Tables) : Prop where
  stored : s.get user.id = some a
  row : a.user = user.user
  profile : ∀ profile, user.profile = some profile → a.profile = profile

theorem Current.profile_eq {user : Instance} (h : Current user a s) :
    user.profile.getD a.profile = a.profile := by
  cases hp : user.profile with
  | none => rfl
  | some profile => exact (h.profile profile hp).symm

theorem other_id (ha : s.get id = some a) :
    ∀ j b, j ≠ id → s.get j = some b → b.profile.sso_id ≠ a.profile.sso_id :=
  fun _ _ hj hb h => hj (Tables.sso_id_inj hb ha h)

theorem wp_check_tools_access_alone {user : Instance} (h : Current user a s) :
    wp (alone reserved) (check_tools_access user) (fun r s' => s' = s ∧
      ∃ user', r = .ok user' ∧ user'.id = user.id ∧ Current user' a s) s := by
  obtain ⟨id, row, p⟩ := user
  refine ⟨trivial, fun permitted s' hact => ?_⟩
  obtain rfl := hact.may_start_all.symm
  cases permitted with
  | false => exact ⟨rfl, _, rfl, rfl, h⟩
  | true =>
      have hrest : wp (alone reserved) (do
          if a.profile.tools_access_role_arn = [] then await (.create_role_later id) else .pure ()
          .pure (⟨id, row, some a.profile⟩ : Instance)) (fun r s' => s' = s ∧
            ∃ user', r = .ok user' ∧ user'.id = id ∧ Current user' a s) s := by
        have hcurrent : Current ⟨id, row, some a.profile⟩ a s :=
          ⟨h.stored, h.row, fun _ hp => Option.some.inj hp⟩
        by_cases hrole : a.profile.tools_access_role_arn = []
        · rw [if_pos hrole]
          refine ⟨trivial, fun _ s' hact => ?_⟩
          obtain rfl := hact.create_role_later.symm
          exact ⟨rfl, _, rfl, rfl, hcurrent⟩
        · rw [if_neg hrole]
          exact ⟨rfl, _, rfl, rfl, hcurrent⟩
      cases p with
      | some profile =>
          obtain rfl := h.profile profile rfl
          exact hrest
      | none =>
          refine ⟨trivial, fun r s' hact => ?_⟩
          obtain ⟨hs, rfl⟩ := hact.get_profile
          obtain rfl := hs.symm
          rw [show s.get id = some a from h.stored]
          exact hrest

/-- What a login comes to that ends well or is refused in time. -/
def WellEnded (s : Tables) (r : Except Error Instance) (s' : Tables) : Prop :=
  (∃ user, r = .ok user) ∨ r = .error .IntegrityError ∧ s'.get = s.get

theorem wp_update_user_alone {user : Instance} (h : Current user a s) (hfits : login.row.Fits) :
    wp (alone reserved) (update_user login user) (fun r s' => (∃ user', r = .ok user') ∨
      r = .error .IntegrityError ∧ s'.get = s.get ∧
        ∃ j b, j ≠ user.id ∧ s.get j = some b ∧ b.user.username = login.primary_email) s := by
  rw [update_user]
  split
  next =>
    refine wp_mono (fun r s' hr => ?_) _ _
      (wp_save_alone h.stored hfits h.profile_eq (other_id h.stored))
    rcases hr with ⟨rfl, -⟩ | hr
    · exact .inl ⟨_, rfl⟩
    · exact .inr hr
  next => exact .inl ⟨user, rfl⟩

theorem wp_set_sso_id_alone (ha : s.get id = some a)
    (hid : ∀ j b, s.get j = some b → b.profile.sso_id = login.sso_id → j = id) :
    wp (alone reserved) (set_sso_id login.sso_id ⟨id, a.user, some a.profile⟩) (fun r s' =>
      r = .ok ⟨id, a.user, some (login.claimed a.profile)⟩ ∧
        s'.get = Function.update s.get id (some { a with profile := login.claimed a.profile })) s := by
  show wp (alone reserved)
    ((save ⟨id, a.user, some (login.claimed a.profile)⟩).attempt >>= fun _ => _) _ s
  rw [wp_bind, wp_attempt]
  refine wp_mono (fun r s' hr => ?_) _ _ (wp_save_alone ha (s.fits a (Tables.mem_of_get ha)) rfl
    fun j b hj hb hsame => hj (hid j b hb hsame))
  rcases hr with ⟨rfl, hget⟩ | ⟨-, -, j, b, hj, hb, hname⟩
  · exact ⟨rfl, hget⟩
  · exact absurd (Tables.username_inj hb ha hname) hj

theorem wp_claim_alone {user : Instance} (h : Current user a s)
    (hid : ∀ j b, s.get j = some b → b.profile.sso_id = login.sso_id → j = user.id) :
    wp (alone reserved) (do
      let user ← save user
      let user ← set_sso_id login.sso_id user
      check_tools_access user) (fun r s' => ∃ user', r = .ok user' ∧ user'.id = user.id ∧
        Current user' { a with profile := login.claimed a.profile } s' ∧
        ∀ j, j ≠ user.id → s'.get j = s.get j) s := by
  obtain ⟨id, row, p⟩ := user
  obtain rfl : a.user = row := h.row
  have hself : a.user.Fits := s.fits a (Tables.mem_of_get h.stored)
  refine (wp_bind _ _ _ _).mpr (wp_mono (fun r s₁ hr => ?_) _ _
    (wp_save_alone h.stored hself h.profile_eq (other_id h.stored)))
  rcases hr with ⟨rfl, hget⟩ | ⟨-, -, j, b, hj, hb, hab⟩
  · have hsame : s₁.get = s.get := by
      rw [hget]
      exact Function.update_eq_self_iff.mpr h.stored.symm
    have hstored : s₁.get id = some a := hsame ▸ h.stored
    refine (wp_bind _ _ _ _).mpr (wp_mono (fun r s₂ hr => ?_) _ _
      (wp_set_sso_id_alone hstored (hsame ▸ hid)))
    obtain ⟨rfl, hget⟩ := hr
    have hcurrent : Current ⟨id, a.user, some (login.claimed a.profile)⟩
        { a with profile := login.claimed a.profile } s₂ :=
      ⟨by rw [hget, Function.update_self], rfl, fun _ hp => Option.some.inj hp⟩
    refine wp_mono (fun r s₃ hr => ?_) _ _ (wp_check_tools_access_alone hcurrent)
    obtain ⟨rfl, user, rfl, hsameId, hcurrent⟩ := hr
    refine ⟨user, rfl, hsameId, hcurrent, fun j hj => ?_⟩
    rw [hget, Function.update_of_ne hj, hsame]
  · exact absurd (Tables.username_inj hb h.stored hab) hj

theorem wp_found_alone (user : Instance) (h : Current user a s) (hfits : login.row.Fits)
    (hid : ∀ j b, s.get j = some b → b.profile.sso_id = login.sso_id → j = user.id)
    (hname : ∀ j b, s.get j = some b → b.user.username = login.primary_email → j = user.id) :
    wp (alone reserved) ((do
      let user ← save user
      let user ← set_sso_id login.sso_id user
      check_tools_access user) >>= update_user login) (fun r _ => ∃ user, r = .ok user) s := by
  refine (wp_bind _ _ _ _).mpr (wp_mono (fun r s₁ hr => ?_) _ _ (wp_claim_alone h hid))
  obtain ⟨user', rfl, hsameId, hcurrent, hother⟩ := hr
  refine wp_mono (fun r s' hr => ?_) _ _ (wp_update_user_alone hcurrent hfits)
  rcases hr with hr | ⟨-, -, j, b, hj, hb, hprimary⟩
  · exact hr
  · rw [hsameId] at hj
    rw [hother j hj] at hb
    exact absurd (hname j b hb hprimary) hj

theorem wp_known_alone (ha : s.get id = some a) (hfits : login.row.Fits) :
    wp (alone reserved) ((if login.check_tools_access_if_user_exists then
        check_tools_access ⟨id, a.user, none⟩ else .pure ⟨id, a.user, none⟩) >>=
      update_user login) (WellEnded s) s := by
  have hcurrent : Current ⟨id, a.user, none⟩ a s := ⟨ha, rfl, fun _ hp => nomatch hp⟩
  have hrest : ∀ {user : Instance}, Current user a s →
      wp (alone reserved) (update_user login user) (WellEnded s) s := by
    intro user hcurrent
    refine wp_mono (fun r s' hr => ?_) _ _ (wp_update_user_alone hcurrent hfits)
    rcases hr with hr | ⟨hr, hget, -⟩
    · exact .inl hr
    · exact .inr ⟨hr, hget⟩
  split
  next =>
    refine (wp_bind _ _ _ _).mpr (wp_mono (fun r s' hr => ?_) _ _
      (wp_check_tools_access_alone hcurrent))
    obtain ⟨rfl, user, rfl, -, hcurrent⟩ := hr
    exact hrest hcurrent
  next => exact hrest hcurrent

theorem wp_login_applies (h : login.Applies s) :
    wp (alone reserved) (create_user_from_sso login) (WellEnded s) s := by
  refine ⟨trivial, fun r s' hact => ?_⟩
  obtain ⟨hs, hr⟩ := hact.get_by_sso_id
  obtain rfl := hs.symm
  rcases h with ⟨⟨id, a, ha, hid⟩, hfits⟩ | ⟨hnoId, hrest⟩
  · cases r with
    | none => exact absurd hid (Tables.by_sso_id_none hr ha)
    | some r =>
        obtain ⟨b, hb, hrow, -⟩ := Tables.by_sso_id_some hr
        obtain ⟨id', row⟩ := r
        obtain rfl : b.user = row := hrow
        exact wp_known_alone hb hfits
  · cases r with
    | some r =>
        obtain ⟨b, hb, -, hid⟩ := Tables.by_sso_id_some hr
        exact absurd hid (hnoId _ b hb)
    | none =>
    have hown : ∀ {id : Nat} j b, s.get j = some b → b.profile.sso_id = login.sso_id → j = id :=
      fun j b hb hid => absurd hid (hnoId j b hb)
    refine ⟨trivial, fun r s' hact => ?_⟩
    obtain ⟨hs, hr⟩ := hact.get_by_emails
    obtain rfl := hs.symm
    rcases hrest with ⟨id, a, ha, he, hfits, hone, hname⟩ | ⟨hnone, hnew, hmade⟩
    · cases r with
      | error e =>
          by_cases hnot : e = .DoesNotExist
          · subst hnot
            exact absurd he (Tables.by_emails_none hr ha)
          · obtain ⟨i, j, b, c, hij, hb, hc, hbe, hce⟩ := Tables.by_emails_many hr hnot
            exact absurd ((hone i b hb hbe).trans (hone j c hc hce).symm) hij
      | ok r =>
          obtain rfl := Tables.by_emails_unique hr ha he
          exact wp_mono (fun _ _ h => .inl h) _ _ (wp_found_alone ⟨id, a.user, none⟩
            ⟨ha, rfl, fun _ hp => nomatch hp⟩ hfits hown hname)
    · cases r with
      | ok r =>
          obtain ⟨b, hb, -, hbe⟩ := Tables.by_emails_ok hr
          exact absurd hbe (hnone _ b hb)
      | error e =>
      obtain rfl := Tables.eq_of_by_emails_none hr hnone
      refine ⟨trivial, fun r s₁ hact => ?_⟩
      rcases hact.create_user with ⟨fresh, hfresh, -, hfree, rfl, hget, -⟩ |
        ⟨rfl, rfl, -⟩ | ⟨-, -, hnot⟩
      · have hfits : login.row.Fits := by
          rcases hmade with ⟨id, a, ha, hname⟩ | hfits
          · exact absurd hname (hfree a (Tables.mem_of_get ha))
          · exact hfits
        have hold : ∀ {j b}, j ≠ s.rows.length → s₁.get j = some b → s.get j = some b := by
          intro j b hj hb
          rw [hget, Function.update_of_ne hj] at hb
          exact hb
        refine wp_mono (fun _ _ h => .inl h) _ _ (wp_found_alone
          ⟨s.rows.length, Tables.new_user login.primary_email, some ⟨fresh, []⟩⟩
          (a := ⟨Tables.new_user login.primary_email, ⟨fresh, []⟩, false⟩)
          ⟨by rw [hget, Function.update_self], rfl, fun _ hp => Option.some.inj hp⟩ hfits ?_ ?_)
        · intro j b hb hid
          by_contra hj
          exact hnoId j b (hold hj hb) hid
        · intro j b hb hname
          by_contra hj
          exact hfree b (Tables.mem_of_get (hold hj hb)) hname
      · refine ⟨trivial, fun r s' hact => ?_⟩
        obtain ⟨rfl, hr⟩ := hact.get_by_emails
        cases r with
        | ok r =>
            obtain ⟨b, hb, -, hbe⟩ := Tables.by_emails_ok hr
            exact absurd hbe (hnone _ b hb)
        | error e =>
            obtain rfl := Tables.eq_of_by_emails_none hr hnone
            exact .inr ⟨rfl, rfl⟩
      · exact absurd hnew hnot

end Alone

/-! ## Whole runs -/

/-- The pages that a run gets. -/
def returned : List Fetch → List (List Record)
  | .records (record :: l) :: rest => (record :: l) :: returned rest
  | _ => []

/-- A request comes to a failure that stops the run. -/
def failing : List Fetch → Bool
  | .records (_ :: _) :: rest => failing rest
  | .status _ :: _ => true
  | .failures :: _ => true
  | _ => false

def position (last_published : Nat) : List (List Record) → Nat
  | [] => last_published
  | page :: pages =>
      match page_end page with
      | .ok last_published => position last_published pages
      | .error _ => position last_published pages

/-- What the database does during a run. -/
abbrev syncing : Interp Ans Tables := alone fun _ => False

/-- The login of the record ended well, or it was refused and left the users as they were. -/
def Record.Handled (record : Record) (s s' : Tables) : Prop :=
  ∃ login, record.login = .ok login ∧ ∃ r,
    Steps syncing (create_user_from_sso login) s (ended r) s' ∧ WellEnded s r s'

inductive Processed : Tables → List Record → Tables → Prop where
  | nil {s : Tables} : Processed s [] s
  | cons {s s₁ s' : Tables} {record : Record} {records : List Record} : record.Handled s s₁ →
      Processed s₁ records s' → Processed s (record :: records) s'

theorem Processed.append {s s₁ s' : Tables} {l l' : List Record} (h : Processed s l s₁)
    (h' : Processed s₁ l' s') : Processed s (l ++ l') s' := by
  induction h with
  | nil => exact h'
  | cons hrecord _ ih => exact .cons hrecord (ih h')

def Record.Appliable (record : Record) (s : Tables) : Prop :=
  ∃ login, record.login = .ok login ∧ login.Applies s

/-- Each record can be applied to the tables that it meets. -/
def AllApply : Tables → List Record → Prop
  | _, [] => True
  | s, record :: records => record.Appliable s ∧
      ∀ s₁, Steps syncing record.process s (ended (.ok ())) s₁ → AllApply s₁ records

section Runs

variable {s s' : Tables}

theorem Record.Appliable.handled {record : Record} (h : record.Appliable s)
    {r : Except SyncError Unit} (hsteps : Steps syncing record.process s (ended r) s') :
    r = .ok () ∧ record.Handled s s' := by
  obtain ⟨login, hlogin, happlies⟩ := h
  rw [Record.process, hlogin] at hsteps
  rcases steps_bind hsteps with ⟨x, s₁, hattempt, hrest⟩ | ⟨e, -, hattempt⟩
  · obtain ⟨y, hy, hlogged⟩ := steps_attempt hattempt
    obtain rfl := Except.ok.inj hy
    have hend : WellEnded s x s₁ := by
      have hpost := wp_steps hlogged (wp_login_applies happlies)
      cases x with
      | ok user => exact hpost
      | error e => exact hpost
    have hdone : r = .ok () ∧ s' = s₁ := by
      rcases hend with ⟨user, rfl⟩ | ⟨rfl, -⟩
      · exact steps_pure hrest
      · exact steps_pure hrest
    obtain ⟨rfl, rfl⟩ := hdone
    exact ⟨rfl, login, hlogin, x, hlogged, hend⟩
  · obtain ⟨y, hy, -⟩ := steps_attempt hattempt
    cases hy

theorem AllApply.page {rest : List Record} : ∀ {page : List Record} {s : Tables},
    AllApply s (page ++ rest) → ∀ {r s'}, Steps syncing (page.forM Record.process) s (ended r) s' →
      r = .ok () ∧ Processed s page s' ∧ AllApply s' rest
  | [], _, h, _, _, hsteps => by
      obtain ⟨hr, hs⟩ := steps_pure hsteps
      rw [hs]
      exact ⟨hr, .nil, h⟩
  | record :: page, _, h, _, _, hsteps => by
      rcases steps_bind hsteps with ⟨_, s₁, hrecord, hrest⟩ | ⟨e, -, hrecord⟩
      · obtain ⟨-, hhandled⟩ := h.1.handled hrecord
        obtain ⟨hr, hprocessed, hall⟩ := AllApply.page (h.2 s₁ hrecord) hrest
        exact ⟨hr, .cons hhandled hprocessed, hall⟩
      · cases (h.1.handled hrecord).1

/-- If each record can be applied to the tables that it meets, and each page ends with a position,
then every record of every page is handled.  The run stops at a failing request only, and otherwise
the position behind the last page is saved. -/
theorem sync_processes {fetches : List Fetch} {last_published : Nat} {r : Except SyncError Nat}
    (happly : AllApply s (returned fetches).flatten)
    (hends : ∀ page ∈ returned fetches, ∃ p, page_end page = .ok p)
    (hsteps : Steps syncing (sync_activity_stream_sso_users last_published fetches) s (ended r) s') :
    Processed s (returned fetches).flatten s' ∧
      r = if failing fetches then .error .Exception
        else .ok (position last_published (returned fetches)) := by
  induction fetches generalizing s last_published with
  | nil =>
      obtain ⟨rfl, rfl⟩ := steps_pure hsteps
      exact ⟨.nil, rfl⟩
  | cons fetch fetches ih =>
      cases fetch with
      | hawk_exception =>
          obtain ⟨rfl, rfl⟩ := steps_pure hsteps
          exact ⟨.nil, rfl⟩
      | status code =>
          obtain ⟨rfl, rfl⟩ := steps_raise hsteps
          exact ⟨.nil, rfl⟩
      | failures =>
          obtain ⟨rfl, rfl⟩ := steps_raise hsteps
          exact ⟨.nil, rfl⟩
      | records page =>
          cases page with
          | nil =>
              obtain ⟨rfl, rfl⟩ := steps_pure hsteps
              exact ⟨.nil, rfl⟩
          | cons record page =>
              obtain ⟨p, hp⟩ := hends (record :: page) (List.mem_cons_self ..)
              rcases steps_bind hsteps with ⟨_, s₁, hpage, hrest⟩ | ⟨e, -, hpage⟩
              · obtain ⟨-, hprocessed, hall⟩ := AllApply.page happly hpage
                rw [hp] at hrest
                obtain ⟨hprocessed', hr⟩ :=
                  ih hall (fun page hmem => hends page (List.mem_cons_of_mem _ hmem)) hrest
                refine ⟨hprocessed.append hprocessed', ?_⟩
                rw [hr, failing, returned, position, hp]
              · cases (AllApply.page happly hpage).1

end Runs

/-! ### A page of one user -/

section Examples

/-- The database answers with `newId` where it needs an id. -/
def syncAnswer (o : Op) (s : Tables) : Option (Ans o × Tables) := some (exec (newId s) o s)

theorem acts_of_syncAnswer (o : Op) (s : Tables) (a : Ans o) (s' : Tables)
    (h : syncAnswer o s = some (a, s')) : syncing.step o s a s' :=
  ⟨newId s, newId_new s, id, Option.some.inj h⟩

def ada : Record where
  user_id := some (some 1)
  emails := some ["ada@example.org".toList]
  contact_email := some []
  first_name := some "Ada".toList
  last_name := some "King".toList
  published := some (some 5)
  sort := some 5

theorem appliable_ada : ada.Appliable noUsers :=
  ⟨_, rfl, .inr ⟨fun _ _ h => (nomatch h), .inr ⟨fun _ _ h => (nomatch h), by decide,
    .inr (by decide)⟩⟩⟩

theorem sync_processes_ada : ∃ r s', Steps syncing
    (sync_activity_stream_sso_users 0 [.records [ada]]) noUsers (ended r) s' ∧
    Processed noUsers [ada] s' ∧ r = .ok 5 := by
  have hsome : ((sync_activity_stream_sso_users 0 [.records [ada]]).follow syncAnswer
      noUsers).isSome := by decide +kernel
  obtain ⟨⟨r, s'⟩, hfollow⟩ := Option.isSome_iff_exists.mp hsome
  have hsteps := Prog.steps_of_follow (I := syncing) acts_of_syncAnswer hfollow
  have happly : AllApply noUsers (returned [.records [ada]]).flatten :=
    ⟨appliable_ada, fun _ _ => trivial⟩
  have hends : ∀ page ∈ returned [.records [ada]], ∃ p, page_end page = .ok p := by
    intro page hpage
    rw [List.mem_singleton.mp hpage]
    exact ⟨5, rfl⟩
  have hrun := sync_processes happly hends hsteps
  exact ⟨r, s', hsteps, hrun⟩

/-- A record without a first name stops the run, and the user of the next record is left out. -/
theorem sync_stopped_by_record : ∃ s', Steps syncing
    (sync_activity_stream_sso_users 0 [.records [{ ada with first_name := none }, ada]]) noUsers
      (ended (.error .KeyError)) s' ∧ s'.rows = [] :=
  ⟨noUsers, .refl, rfl⟩

end Examples

end Accounts
