import DataWorkspace.Async.Shared
import DataWorkspace.Accounts.Logins

/-!
# The user of a login

Any number of logins run at a time.  Between two operations of one the others may do
anything, so the user that a login has in memory may be out of date.

`Stage` says what a login knows of its user, from the answers it got.  Once it has found or
made a user it is bound to it.  A login writes nothing but the user it is bound to, and what it
writes is what it has in memory or what its arguments say (`Stage.Performs`).
-/

namespace Accounts

open Py Async
open Sql (UniqueBy uniqueBy_of_nodup)

/-! ## Where a login is -/

inductive Stage where
  | searching
  /-- No user has the id. -/
  | absent
  /-- No user has an email of the login. -/
  | missing
  /-- The new user was refused. -/
  | clashed
  | bound (id : Nat) (user : User) (profile : Option Profile)
  /-- What the login saved was refused. -/
  | refused
  | failed
deriving DecidableEq

def Stage.adv : Stage → Event Ans → Stage
  | .searching, ⟨.get_by_sso_id _, some r⟩ => .bound r.1 r.2 none
  | .searching, ⟨.get_by_sso_id _, none⟩ => .absent
  | .absent, ⟨.get_by_emails _, .ok r⟩ => .bound r.1 r.2 none
  | .absent, ⟨.get_by_emails _, .error .DoesNotExist⟩ => .missing
  | .absent, ⟨.get_by_emails _, .error _⟩ => .failed
  | .missing, ⟨.create_user _, .ok r⟩ => .bound r.1 r.2.1 (some r.2.2)
  | .missing, ⟨.create_user _, .error .IntegrityError⟩ => .clashed
  | .missing, ⟨.create_user _, .error _⟩ => .failed
  | .clashed, ⟨.get_by_emails _, .ok r⟩ => .bound r.1 r.2 none
  | .clashed, ⟨.get_by_emails _, .error _⟩ => .failed
  | .bound id _ profile, ⟨.save_user _ user, .ok _⟩ => .bound id user profile
  | .bound _ _ _, ⟨.save_user _ _, .error .IntegrityError⟩ => .refused
  | .bound _ _ _, ⟨.save_user _ _, .error _⟩ => .failed
  | .bound id user _, ⟨.get_profile _, some profile⟩ => .bound id user (some profile)
  | .bound _ _ _, ⟨.get_profile _, none⟩ => .failed
  | .bound id user _, ⟨.save_profile _ profile, .ok _⟩ => .bound id user (some profile)
  | .bound _ _ _, ⟨.save_profile _ _, .error .IntegrityError⟩ => .refused
  | .bound _ _ _, ⟨.save_profile _ _, .error _⟩ => .failed
  | .refused, ⟨.get_by_sso_id _, some r⟩ => .bound r.1 r.2 none
  | .refused, ⟨.get_by_sso_id _, none⟩ => .failed
  | s, _ => s

def Login.row (login : Login) : User :=
  ⟨login.primary_email, login.primary_email, login.first_name, login.last_name, false⟩

@[simp] theorem Login.updated_eq (login : Login) (user : User) : login.updated user = login.row := rfl

def Login.claimed (login : Login) (profile : Profile) : Profile :=
  { profile with sso_id := login.sso_id }

section Stages

variable (login : Login)

def Stage.Performs (s : Stage) : Op → Prop
  | .get_by_sso_id sso_id => sso_id = login.sso_id ∧ (s = .searching ∨ s = .refused)
  | .get_by_emails emails => emails = login.emails ∧ (s = .absent ∨ s = .clashed)
  | .create_user email => email = login.primary_email ∧ s = .missing
  | .save_user id user => ∃ user₀ profile, s = .bound id user₀ profile ∧
      (user = user₀ ∨ user = login.row)
  | .get_profile id => ∃ user, s = .bound id user none
  | .save_profile id profile => ∃ user profile₀, s = .bound id user (some profile₀) ∧
      (profile = profile₀ ∨ profile = login.claimed profile₀)
  | .may_start_all id => ∃ user profile, s = .bound id user profile
  | .create_role_later id => ∃ user profile, s = .bound id user profile

abbrev stages : Interp Ans Stage := summing Stage.adv fun o s => s.Performs login o

variable {login}

/-- The user in memory, which is bound. -/
def Instance.stage (user : Instance) : Stage := .bound user.id user.user user.profile

/-- The fields of the user that were set since it was read or saved. -/
inductive Ahead (login : Login) : Instance → Stage → Prop where
  | same {user : Instance} : Ahead login user user.stage
  | updated {user : Instance} :
      Ahead login { user with user := login.row } user.stage
  | claimed {id : Nat} {user : User} {profile : Profile} :
      Ahead login ⟨id, user, some (login.claimed profile)⟩ (.bound id user (some profile))

/-- After `save` the user in memory is bound, or it is known why not. -/
def Saved (user : Instance) : Except Error Instance → Stage → Prop
  | .ok saved, s => saved.id = user.id ∧ saved.profile.isSome ∧ s = saved.stage
  | .error .IntegrityError, s => s = .refused
  | .error _, s => s = .failed

/-- The user in memory is bound, or the login is at its end. -/
def Bound : Except Error Instance → Stage → Prop
  | .ok user, s => s = user.stage
  | .error _, s => s = .refused ∨ s = .failed

theorem bound_of_saved {user : Instance} {r : Except Error Instance} {s : Stage}
    (h : Saved user r s) : Bound r s := by
  cases r with
  | ok saved => exact h.2.2
  | error e =>
      cases e with
      | IntegrityError => exact .inl h
      | _ => exact .inr h

theorem wp_get_profile {α : Type} (user : Instance) {f : Profile → M α}
    {Q : Except Error α → Stage → Prop} (hmissing : Q (.error .DoesNotExist) .failed)
    (hf : ∀ profile, wp (stages login) (f profile) Q
      (.bound user.id user.user (some profile))) :
    wp (stages login) (get_profile user >>= f) Q user.stage := by
  obtain ⟨id, row, profile⟩ := user
  cases profile with
  | some profile => exact hf profile
  | none =>
      refine wp_summing.mpr ⟨⟨row, rfl⟩, fun answer => ?_⟩
      cases answer with
      | none => exact hmissing
      | some profile => exact hf profile

theorem wp_save_profile {id : Nat} {user : User} {profile₀ profile : Profile}
    (h : profile = profile₀ ∨ profile = login.claimed profile₀) :
    wp (stages login) (do
      let r : Except Error Unit ← await (.save_profile id profile)
      orRaise r
      .pure (⟨id, user, some profile⟩ : Instance))
      (Saved ⟨id, user, some profile⟩) (.bound id user (some profile₀)) := by
  refine wp_summing.mpr ⟨⟨user, profile₀, rfl, h⟩, fun answer => ?_⟩
  cases answer with
  | ok _ => exact ⟨rfl, rfl, rfl⟩
  | error e => cases e <;> exact rfl

theorem wp_save {user : Instance} {s : Stage} (h : Ahead login user s) :
    wp (stages login) (save user) (Saved user) s := by
  have herror : ∀ {id : Nat} {u : User} {p : Option Profile} {row : User} (e : Error),
      Saved user (.error e) (Stage.adv (.bound id u p) ⟨.save_user id row, .error e⟩) := by
    intro id u p row e
    cases e <;> exact rfl
  have hrest : ∀ {id : Nat} {row : User} {p : Option Profile},
      wp (stages login) (do
        let profile ← get_profile ⟨id, row, p⟩
        let r : Except Error Unit ← await (.save_profile id profile)
        orRaise r
        .pure (⟨id, row, some profile⟩ : Instance)) (Saved ⟨id, row, p⟩) (.bound id row p) := by
    intro id row p
    refine wp_get_profile ⟨id, row, p⟩ rfl fun profile => ?_
    exact wp_mono (fun r s hr => hr) _ _ (wp_save_profile (.inl rfl))
  cases h with
  | same =>
      obtain ⟨id, row, p⟩ := user
      refine wp_summing.mpr ⟨⟨row, p, rfl, .inl rfl⟩, fun answer => ?_⟩
      cases answer with
      | ok _ => exact hrest
      | error e => exact herror e
  | @updated user =>
      obtain ⟨id, row, p⟩ := user
      refine wp_summing.mpr ⟨⟨row, p, rfl, .inr rfl⟩, fun answer => ?_⟩
      cases answer with
      | ok _ => exact hrest
      | error e => exact herror e
  | @claimed id row profile =>
      refine wp_summing.mpr ⟨⟨row, some profile, rfl, .inl rfl⟩, fun answer => ?_⟩
      cases answer with
      | ok _ => exact wp_save_profile (.inr rfl)
      | error e => exact herror e

theorem wp_get_by_sso_id {α : Type} {f : Option Instance → M α} {s : Stage}
    {Q : Except Error α → Stage → Prop} (hs : s = .searching ∨ s = .refused)
    (hnone : wp (stages login) (f none) Q (s.adv ⟨.get_by_sso_id login.sso_id, none⟩))
    (hsome : ∀ id user, wp (stages login) (f (some ⟨id, user, none⟩)) Q (.bound id user none)) :
    wp (stages login) (get_by_sso_id login.sso_id >>= f) Q s := by
  refine wp_summing.mpr ⟨⟨rfl, hs⟩, fun answer => ?_⟩
  cases answer with
  | none => exact hnone
  | some r =>
      rcases hs with rfl | rfl
      · exact hsome r.1 r.2
      · exact hsome r.1 r.2

theorem wp_get_or_create :
    wp (stages login) (get_or_create login.emails login.primary_email) Bound .absent := by
  refine wp_summing.mpr ⟨⟨rfl, .inl rfl⟩, fun answer => ?_⟩
  cases answer with
  | ok r => exact rfl
  | error e =>
      cases e with
      | DoesNotExist =>
          refine wp_summing.mpr ⟨⟨rfl, rfl⟩, fun answer => ?_⟩
          cases answer with
          | ok r => exact rfl
          | error e =>
              cases e with
              | IntegrityError =>
                  refine wp_summing.mpr ⟨⟨rfl, .inr rfl⟩, fun answer => ?_⟩
                  cases answer with
                  | ok r => exact rfl
                  | error e => cases e <;> exact .inr rfl
              | _ => exact .inr rfl
      | _ => exact .inr rfl

theorem wp_set_sso_id {user : Instance} :
    wp (stages login) (set_sso_id login.sso_id user) Bound user.stage := by
  refine wp_get_profile _ (.inr rfl) fun profile => ?_
  rw [wp_bind, wp_attempt]
  refine wp_mono (fun r s hr => ?_) _ _ (wp_save .claimed)
  cases r with
  | ok saved => exact hr.2.2
  | error e =>
      cases e with
      | IntegrityError =>
          rw [show s = .refused from hr]
          exact wp_get_by_sso_id (.inr rfl) (.inr rfl) fun _ _ => rfl
      | _ => exact .inr hr

theorem wp_check_tools_access (user : Instance) :
    wp (stages login) (check_tools_access user) Bound user.stage := by
  refine wp_summing.mpr ⟨⟨_, _, rfl⟩, fun permitted => ?_⟩
  cases permitted with
  | false => exact rfl
  | true =>
      refine wp_get_profile _ (.inr rfl) fun profile => ?_
      by_cases hrole : profile.tools_access_role_arn = []
      · rw [if_pos hrole]
        exact wp_summing.mpr ⟨⟨_, _, rfl⟩, fun _ => rfl⟩
      · rw [if_neg hrole]
        exact rfl

theorem wp_update_user {user : Instance} :
    wp (stages login) (update_user login user) Bound user.stage := by
  rw [update_user]
  split
  next => exact wp_mono (fun _ _ => bound_of_saved) _ _ (wp_save .updated)
  next => exact rfl

theorem wp_bound_bind {p : M Instance} {f : Instance → M Instance} {s : Stage}
    (hp : wp (stages login) p Bound s)
    (hf : ∀ user : Instance, wp (stages login) (f user) Bound user.stage) :
    wp (stages login) (p >>= f) Bound s :=
  wp_bind_of hp (fun user _ hs => hs ▸ hf user) fun _ _ hs => hs

theorem wp_find_user : wp (stages login) (find_user login) Bound .searching := by
  refine wp_get_by_sso_id (.inl rfl) ?_ fun id row => ?_
  · refine wp_bound_bind wp_get_or_create fun user => ?_
    refine wp_bound_bind (wp_mono (fun _ _ => bound_of_saved) _ _ (wp_save .same)) fun user => ?_
    exact wp_bound_bind wp_set_sso_id wp_check_tools_access
  · show wp (stages login) (if login.check_tools_access_if_user_exists then
      check_tools_access ⟨id, row, none⟩ else .pure ⟨id, row, none⟩) Bound (.bound id row none)
    split
    next => exact wp_check_tools_access ⟨id, row, none⟩
    next => exact rfl

theorem wp_create_user_from_sso :
    wp (stages login) (create_user_from_sso login) Bound .searching :=
  wp_bound_bind wp_find_user fun _ => wp_update_user

end Stages

/-! ## Any number of logins -/

/-- What is left of the logins, and the tables. -/
abbrev LoginConfig (ι : Type) := Config Ans Error Instance ι Tables

section Runs

variable {ι : Type} (logins : ι → Login)

/-- The logins.  `uuid4` gives nobody the id of a login. -/
def logging_in : Shared Ans Error Instance ι Tables where
  prog i := create_user_from_sso (logins i)
  act _ := Acts fun n => ∃ i, n = (logins i).sso_id

/-- What a login knows of its user. -/
def stage (c : LoginConfig ι) (i : ι) : Stage := c.summary Stage.adv .searching i

/-- The login has the user in memory. -/
def BoundTo (c : LoginConfig ι) (i : ι) (id : Nat) : Prop :=
  ∃ user profile, stage c i = .bound id user profile

variable {logins} [DecidableEq ι] {s₀ s : Tables} {c : LoginConfig ι} {i : ι} {o : Op}
  {k : Ans o → M Instance} {a : Ans o} {id : Nat} {account : Account}

theorem performs_of_run (h : (logging_in logins).Run Always s₀ c) (hi : c.tasks i = .op o k) :
    (stage c i).Performs (logins i) o :=
  h.pre hi wp_create_user_from_sso

theorem bound_of_changes (h : (logging_in logins).Run Always s₀ c) (hi : c.tasks i = .op o k)
    (hact : (logging_in logins).act i o c.store a s) (ha : c.store.get id = some account)
    (hne : s.get id ≠ some account) : BoundTo c i id := by
  have hperforms := performs_of_run h hi
  rcases hact.changes ha hne with ⟨user, rfl⟩ | ⟨profile, rfl⟩
  · obtain ⟨user₀, profile, hstage, -⟩ := hperforms
    exact ⟨user₀, profile, hstage⟩
  · obtain ⟨user, profile₀, hstage, -⟩ := hperforms
    exact ⟨user, some profile₀, hstage⟩

theorem Stage.id_of_adv_bound {id' : Nat} {u u' : User} {p p' : Option Profile} {e : Event Ans}
    (h : (Stage.bound id u p).adv e = .bound id' u' p') : id' = id := by
  obtain ⟨o, a⟩ := e
  cases o with
  | save_user j user =>
      cases a with
      | ok _ =>
          cases h
          rfl
      | error e => cases e <;> cases h
  | get_profile j =>
      cases a with
      | none => cases h
      | some profile =>
          cases h
          rfl
  | save_profile j profile =>
      cases a with
      | ok _ =>
          cases h
          rfl
      | error e => cases e <;> cases h
  | _ =>
      cases h
      rfl

theorem matches_of_binds (h : (logging_in logins).Run Always s₀ c) (hi : c.tasks i = .op o k)
    (hact : (logging_in logins).act i o c.store a s) (ha : c.store.get id = some account)
    (hnot : ¬ BoundTo c i id) (hbound : BoundTo (c.go i ⟨o, a⟩ (k a) s) i id) :
    account.profile.sso_id = (logins i).sso_id ∨ account.user.email ∈ (logins i).emails := by
  obtain ⟨u', p', hbound⟩ := hbound
  have hperforms := performs_of_run h hi
  rw [stage, Config.summary_go_self] at hbound
  change (stage c i).adv ⟨o, a⟩ = _ at hbound
  have hstay : ∀ {j u p}, stage c i = .bound j u p → False := by
    intro j u p hstage
    rw [hstage] at hbound
    obtain rfl := Stage.id_of_adv_bound hbound
    exact hnot ⟨u, p, hstage⟩
  cases o with
  | get_by_sso_id n =>
      obtain ⟨rfl, hstage⟩ := hperforms
      have hr := hact.get_by_sso_id.2
      cases a with
      | none => rcases hstage with hs | hs <;> rw [hs] at hbound <;> cases hbound
      | some r =>
          obtain ⟨b, hb, -, hn⟩ := Tables.by_sso_id_some hr
          have hid : r.1 = id := by
            rcases hstage with hs | hs
            · rw [hs] at hbound
              cases hbound
              rfl
            · rw [hs] at hbound
              cases hbound
              rfl
          rw [hid, ha] at hb
          cases hb
          exact .inl hn
  | get_by_emails emails =>
      obtain ⟨rfl, hstage⟩ := hperforms
      have hr := hact.get_by_emails.2
      cases a with
      | error e => rcases hstage with hs | hs <;> rw [hs] at hbound <;> cases e <;> cases hbound
      | ok r =>
          obtain ⟨b, hb, -, he⟩ := Tables.by_emails_ok hr
          have hid : r.1 = id := by
            rcases hstage with hs | hs
            · rw [hs] at hbound
              cases hbound
              rfl
            · rw [hs] at hbound
              cases hbound
              rfl
          rw [hid, ha] at hb
          cases hb
          exact .inr he
  | create_user email =>
      obtain ⟨rfl, hs⟩ := hperforms
      rw [hs] at hbound
      rcases hact.create_user with ⟨fresh, -, -, -, rfl, -, -⟩ | ⟨rfl, -, -⟩ | ⟨rfl, -, -⟩
      · cases hbound
        exact absurd (Tables.lt_of_get ha) (Nat.lt_irrefl _)
      · cases hbound
      · cases hbound
  | save_user j user =>
      obtain ⟨u, p, hs, -⟩ := hperforms
      exact (hstay hs).elim
  | get_profile j =>
      obtain ⟨u, hs⟩ := hperforms
      exact (hstay hs).elim
  | save_profile j profile =>
      obtain ⟨u, p, hs, -⟩ := hperforms
      exact (hstay hs).elim
  | may_start_all j =>
      obtain ⟨u, p, hs⟩ := hperforms
      exact (hstay hs).elim
  | create_role_later j =>
      obtain ⟨u, p, hs⟩ := hperforms
      exact (hstay hs).elim

end Runs

/-! ## Answers of the database

The database of the examples takes the next id where it needs one. -/

/-- An id that is new, and greater than the ids of the logins of examples. -/
def newId (s : Tables) : Uuid := s.sso_ids.foldr max 9 + 1

theorem le_foldr_max {n : Nat} : ∀ {l : List Nat}, n ∈ l → n ≤ l.foldr max 9
  | m :: l, h => by
      rw [List.foldr_cons]
      rcases List.mem_cons.mp h with rfl | h
      · exact Nat.le_max_left ..
      · exact Nat.le_trans (le_foldr_max h) (Nat.le_max_right ..)

theorem newId_new (s : Tables) : newId s ∉ s.sso_ids := by
  intro h
  exact absurd (le_foldr_max h) (Nat.not_succ_le_self _)

theorem nine_lt_newId (s : Tables) : 9 < newId s := by
  have hle : ∀ l : List Nat, 9 ≤ l.foldr max 9 := by
    intro l
    induction l with
    | nil => exact Nat.le_refl _
    | cons m l ih => exact Nat.le_trans ih (Nat.le_max_right ..)
  exact Nat.lt_succ_of_le (hle _)

/-- The database answers with `newId` where it needs an id. -/
def answer {ι : Type} : Choice Ans ι Tables := fun _ o s => some (exec (newId s) o s)

theorem acts_of_answer {ι : Type} {logins : ι → Login} (hids : ∀ i, (logins i).sso_id ≤ 9) (i : ι)
    (o : Op) (s : Tables) (a : Ans o) (s' : Tables) (h : answer i o s = some (a, s')) :
    (logging_in logins).act i o s a s' := by
  refine ⟨newId s, newId_new s, ?_, Option.some.inj h⟩
  rintro ⟨j, hj⟩
  exact absurd (hids j) (Nat.not_le_of_lt (hj ▸ nine_lt_newId s))

def noUsers : Tables where
  rows := []
  sso_ids := []
  unique_username := uniqueBy_of_nodup (by decide)
  unique_sso_id := uniqueBy_of_nodup (by decide)
  fits := by decide
  known := by decide

/-- The login of a user with one email. -/
def plainLogin (sso_id : Uuid) (email : Str) : Login := ⟨sso_id, email, [], "Ada", "King", false⟩

end Accounts
