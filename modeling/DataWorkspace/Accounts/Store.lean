import DataWorkspace.Py.Text
import DataWorkspace.Sql.Unique

/-!
# Users and their profiles

A user has a row in the table of users and a profile, which is made together with the user.
No two users have one username, and no two profiles one `sso_id`.  Nothing says that the
emails of two users differ.

`exec` is what the database does for each operation of a login.  An operation is a statement
with a transaction of its own.  The one exception is `create_user`, since `get_or_create`
makes the user and the profile in one transaction.  A new profile has an id of `uuid4`.  This
is an id that no profile ever had, so `Tables` keeps the ids there were.
-/

namespace Accounts

open Py
open Sql (UniqueBy taken)

/-- A UUID, as a number. -/
abbrev Uuid := Nat

structure User where
  username : Str
  email : Str
  first_name : Str
  last_name : Str
  usable_password : Bool
deriving DecidableEq

structure Profile where
  sso_id : Uuid
  tools_access_role_arn : Str
deriving DecidableEq

/-- A user with the profile, and whether the user has the permission
`start_all_applications`. -/
structure Account where
  user : User
  profile : Profile
  start_all_applications : Bool
deriving DecidableEq

abbrev Account.username (a : Account) : Str := a.user.username

abbrev Account.sso_id (a : Account) : Uuid := a.profile.sso_id

/-- The columns are long enough for the values. -/
def User.Fits (u : User) : Prop :=
  u.username.length ≤ 150 ∧ u.email.length ≤ 254 ∧ u.first_name.length ≤ 150 ∧
    u.last_name.length ≤ 150

instance (u : User) : Decidable u.Fits :=
  inferInstanceAs (Decidable (u.username.length ≤ 150 ∧ u.email.length ≤ 254 ∧
    u.first_name.length ≤ 150 ∧ u.last_name.length ≤ 150))

structure Tables where
  rows : List Account
  /-- The ids that a profile has or had. -/
  sso_ids : List Uuid
  unique_username : UniqueBy Account.username rows
  unique_sso_id : UniqueBy Account.sso_id rows
  fits : ∀ a ∈ rows, a.user.Fits
  known : ∀ a ∈ rows, a.sso_id ∈ sso_ids

namespace Tables

variable (s : Tables)

/-- The account of a user. -/
def get (id : Nat) : Option Account := s.rows[id]?

@[simp] theorem get_mk (rows : List Account) (ids : List Uuid) (h₁ h₂ h₃ h₄) (id : Nat) :
    (Tables.mk rows ids h₁ h₂ h₃ h₄).get id = rows[id]? := rfl

variable {s}

theorem mem_of_get {id : Nat} {a : Account} (h : s.get id = some a) : a ∈ s.rows :=
  List.mem_of_getElem? h

theorem lt_of_get {id : Nat} {a : Account} (h : s.get id = some a) : id < s.rows.length :=
  (List.getElem?_eq_some_iff.mp h).1

theorem username_inj {i j : Nat} {a b : Account} (ha : s.get i = some a) (hb : s.get j = some b)
    (hab : a.user.username = b.user.username) : i = j :=
  s.unique_username ha hb hab

theorem sso_id_inj {i j : Nat} {a b : Account} (ha : s.get i = some a) (hb : s.get j = some b)
    (hab : a.profile.sso_id = b.profile.sso_id) : i = j :=
  s.unique_sso_id ha hb hab

end Tables

/-! ## Operations -/

/-- The exceptions of a login. -/
inductive Error where
  | DoesNotExist
  | MultipleObjectsReturned
  | IntegrityError
  /-- A value is too long for its column. -/
  | DataError
deriving DecidableEq

inductive Op where
  /-- `User.objects.get(profile__sso_id=sso_id)`. -/
  | get_by_sso_id (sso_id : Uuid)
  /-- `User.objects.get(email__in=emails)`. -/
  | get_by_emails (emails : List Str)
  /-- `User.objects.create(email=email, username=email)`. -/
  | create_user (email : Str)
  /-- The row of a user is saved. -/
  | save_user (id : Nat) (user : User)
  | get_profile (id : Nat)
  | save_profile (id : Nat) (profile : Profile)
  /-- The user has the permission `start_all_applications`. -/
  | may_start_all (id : Nat)
  /-- `create_tools_access_iam_role_task.delay(id)`. -/
  | create_role_later (id : Nat)

@[reducible] def Ans : Op → Type
  | .get_by_sso_id _ => Option (Nat × User)
  | .get_by_emails _ => Except Error (Nat × User)
  | .create_user _ => Except Error (Nat × User × Profile)
  | .save_user _ _ => Except Error Unit
  | .get_profile _ => Option Profile
  | .save_profile _ _ => Except Error Unit
  | .may_start_all _ => Bool
  | .create_role_later _ => Unit

namespace Tables

/-- The users that a condition selects, each with the id. -/
def select (s : Tables) (p : Account → Bool) : List (Nat × User) :=
  (s.rows.zipIdx.filter fun r => p r.1).map fun r => (r.2, r.1.user)

theorem mem_select {s : Tables} {p : Account → Bool} {id : Nat} {u : User} :
    (id, u) ∈ s.select p ↔ ∃ a, s.get id = some a ∧ p a = true ∧ a.user = u := by
  simp only [select, List.mem_map, List.mem_filter, Prod.exists, List.mem_zipIdx_iff_getElem?,
    Prod.mk.injEq]
  constructor
  · rintro ⟨a, _, ⟨ha, hp⟩, rfl, rfl⟩
    exact ⟨a, ha, hp, rfl⟩
  · rintro ⟨a, ha, hp, rfl⟩
    exact ⟨a, id, ⟨ha, hp⟩, rfl, rfl⟩

/-- `get`, of a query that gives these users. -/
def single : List (Nat × User) → Except Error (Nat × User)
  | [] => .error .DoesNotExist
  | [r] => .ok r
  | _ => .error .MultipleObjectsReturned

def by_sso_id (s : Tables) (sso_id : Uuid) : Option (Nat × User) :=
  (s.select fun a => a.profile.sso_id = sso_id).head?

def by_emails (s : Tables) (emails : List Str) : Except Error (Nat × User) :=
  single (s.select fun a => a.user.email ∈ emails)

/-- The row of a user that `create` makes. -/
def new_user (email : Str) : User := ⟨email, email, [], [], true⟩

/-- A new user with a profile. -/
def create (s : Tables) (fresh : Uuid) (email : Str) (hfits : (new_user email).Fits)
    (husername : ∀ a ∈ s.rows, a.user.username ≠ email) (hfresh : fresh ∉ s.sso_ids) : Tables where
  rows := s.rows ++ [⟨new_user email, ⟨fresh, []⟩, false⟩]
  sso_ids := fresh :: s.sso_ids
  unique_username := s.unique_username.append husername
  unique_sso_id := s.unique_sso_id.append fun a ha h =>
    hfresh ((show a.sso_id = fresh from h) ▸ s.known a ha)
  fits := by
    intro a ha
    rcases List.mem_append.mp ha with ha | ha
    · exact s.fits a ha
    · rw [List.mem_singleton.mp ha]
      exact hfits
  known := by
    intro a ha
    rcases List.mem_append.mp ha with ha | ha
    · exact List.mem_cons_of_mem _ (s.known a ha)
    · rw [List.mem_singleton.mp ha]
      exact List.mem_cons_self ..

def set_user (s : Tables) (id : Nat) (a : Account) (user : User) (ha : s.get id = some a)
    (hfits : user.Fits) (hfree : taken Account.username s.rows id user.username = false) :
    Tables where
  rows := s.rows.set id { a with user := user }
  sso_ids := s.sso_ids
  unique_username := s.unique_username.set hfree
  unique_sso_id := s.unique_sso_id.set
    (s.unique_sso_id.not_taken (show s.rows[id]? = some a from ha) :)
  fits := by
    intro b hb
    rcases List.mem_or_eq_of_mem_set hb with hb | rfl
    · exact s.fits b hb
    · exact hfits
  known := by
    intro b hb
    rcases List.mem_or_eq_of_mem_set hb with hb | rfl
    · exact s.known b hb
    · exact s.known a (mem_of_get ha)

def set_profile (s : Tables) (id : Nat) (a : Account) (profile : Profile)
    (ha : s.get id = some a) (hfree : taken Account.sso_id s.rows id profile.sso_id = false) :
    Tables where
  rows := s.rows.set id { a with profile := profile }
  sso_ids := profile.sso_id :: s.sso_ids
  unique_username := s.unique_username.set
    (s.unique_username.not_taken (show s.rows[id]? = some a from ha) :)
  unique_sso_id := s.unique_sso_id.set hfree
  fits := by
    intro b hb
    rcases List.mem_or_eq_of_mem_set hb with hb | rfl
    · exact s.fits b hb
    · exact s.fits a (mem_of_get ha)
  known := by
    intro b hb
    rcases List.mem_or_eq_of_mem_set hb with hb | rfl
    · exact List.mem_cons_of_mem _ (s.known b hb)
    · exact List.mem_cons_self ..

end Tables

/-- What the database does.  A new profile has the id `fresh`. -/
def exec (fresh : Uuid) : (o : Op) → Tables → Ans o × Tables
  | .get_by_sso_id sso_id, s => (s.by_sso_id sso_id, s)
  | .get_by_emails emails, s => (s.by_emails emails, s)
  | .create_user email, s =>
      if hfits : (Tables.new_user email).Fits then
        if hfree : (∀ a ∈ s.rows, a.user.username ≠ email) ∧ fresh ∉ s.sso_ids then
          (.ok (s.rows.length, Tables.new_user email, ⟨fresh, []⟩),
            s.create fresh email hfits hfree.1 hfree.2)
        else (.error .IntegrityError, s)
      else (.error .DataError, s)
  | .save_user id user, s =>
      match ha : s.get id with
      | none => (.ok (), s)
      | some a =>
          if hfits : user.Fits then
            if hfree : taken Account.username s.rows id user.username = false then
              (.ok (), s.set_user id a user ha hfits hfree)
            else (.error .IntegrityError, s)
          else (.error .DataError, s)
  | .get_profile id, s => ((s.get id).map (·.profile), s)
  | .save_profile id profile, s =>
      match ha : s.get id with
      | none => (.ok (), s)
      | some a =>
          if hfree : taken Account.sso_id s.rows id profile.sso_id = false then
            (.ok (), s.set_profile id a profile ha hfree)
          else (.error .IntegrityError, s)
  | .may_start_all id, s => (((s.get id).map (·.start_all_applications)).getD false, s)
  | .create_role_later _, s => ((), s)

/-! ## What an operation may do -/

/-- The database does the operation, with a new id that nobody has or had, and that is none
of the reserved ones. -/
def Acts (reserved : Uuid → Prop) (o : Op) (s : Tables) (a : Ans o) (s' : Tables) : Prop :=
  ∃ fresh, fresh ∉ s.sso_ids ∧ ¬ reserved fresh ∧ exec fresh o s = (a, s')

namespace Tables

variable {s : Tables}

theorem map_fst_select (p : Account → Bool) :
    (s.select p).map Prod.fst = (s.rows.zipIdx.filter fun r => p r.1).map Prod.snd := by
  rw [select, List.map_map]
  rfl

theorem nodup_select (p : Account → Bool) : ((s.select p).map Prod.fst).Nodup := by
  rw [map_fst_select]
  refine List.Nodup.sublist (List.filter_sublist.map Prod.snd) ?_
  rw [List.zipIdx_map_snd]
  exact List.nodup_range'

theorem single_ok {l : List (Nat × User)} {r : Nat × User} (h : single l = .ok r) : r ∈ l := by
  match l, h with
  | [_], h =>
      cases h
      exact List.mem_singleton.mpr rfl

theorem single_error {l : List (Nat × User)} {e : Error} (h : single l = .error e) :
    e = .DoesNotExist ∧ l = [] ∨ ∃ r r' rest, e = .MultipleObjectsReturned ∧ l = r :: r' :: rest := by
  match l, h with
  | [], h =>
      cases h
      exact .inl ⟨rfl, rfl⟩
  | r :: r' :: rest, h =>
      cases h
      exact .inr ⟨r, r', rest, rfl, rfl⟩

theorem by_sso_id_some {n : Uuid} {r : Nat × User} (h : s.by_sso_id n = some r) :
    ∃ a, s.get r.1 = some a ∧ a.user = r.2 ∧ a.profile.sso_id = n := by
  obtain ⟨a, ha, hn, hu⟩ := mem_select.mp (List.mem_of_head? h)
  exact ⟨a, ha, hu, of_decide_eq_true hn⟩

theorem by_sso_id_none {n : Uuid} (h : s.by_sso_id n = none) {id : Nat} {a : Account}
    (ha : s.get id = some a) : a.profile.sso_id ≠ n := by
  intro hn
  have hmem : (id, a.user) ∈ s.select fun a => a.profile.sso_id = n :=
    mem_select.mpr ⟨a, ha, decide_eq_true hn, rfl⟩
  rw [List.head?_eq_none_iff.mp h] at hmem
  exact List.not_mem_nil hmem

theorem by_emails_ok {emails : List Str} {r : Nat × User} (h : s.by_emails emails = .ok r) :
    ∃ a, s.get r.1 = some a ∧ a.user = r.2 ∧ a.user.email ∈ emails := by
  obtain ⟨a, ha, hemail, hu⟩ := mem_select.mp (single_ok h)
  exact ⟨a, ha, hu, of_decide_eq_true hemail⟩

theorem by_emails_unique {emails : List Str} {r : Nat × User} (h : s.by_emails emails = .ok r)
    {id : Nat} {a : Account} (ha : s.get id = some a) (he : a.user.email ∈ emails) :
    r = (id, a.user) := by
  have hmem : (id, a.user) ∈ s.select fun a => a.user.email ∈ emails :=
    mem_select.mpr ⟨a, ha, decide_eq_true he, rfl⟩
  rw [by_emails] at h
  match hl : s.select (fun a => a.user.email ∈ emails), h with
  | [_], h =>
      cases h
      rw [hl] at hmem
      exact (List.mem_singleton.mp hmem).symm

theorem by_emails_none {emails : List Str} (h : s.by_emails emails = .error .DoesNotExist) {id : Nat}
    {a : Account} (ha : s.get id = some a) : a.user.email ∉ emails := by
  intro hemail
  have hmem : (id, a.user) ∈ s.select fun a => a.user.email ∈ emails :=
    mem_select.mpr ⟨a, ha, decide_eq_true hemail, rfl⟩
  rcases single_error h with ⟨-, hnil⟩ | ⟨_, _, _, he, _⟩
  · rw [hnil] at hmem
    exact List.not_mem_nil hmem
  · cases he

theorem by_emails_many {emails : List Str} {e : Error} (h : s.by_emails emails = .error e)
    (he : e ≠ .DoesNotExist) : ∃ i j a b, i ≠ j ∧ s.get i = some a ∧ s.get j = some b ∧
      a.user.email ∈ emails ∧ b.user.email ∈ emails := by
  rcases single_error h with ⟨hnone, -⟩ | ⟨⟨i, u⟩, ⟨j, v⟩, rest, -, hl⟩
  · exact absurd hnone he
  · have hnodup := nodup_select (s := s) fun a => a.user.email ∈ emails
    rw [hl, List.map_cons, List.map_cons, List.nodup_cons] at hnodup
    have hij : i ≠ j := fun hij => hnodup.1 (hij ▸ List.mem_cons_self ..)
    obtain ⟨a, ha, hea, -⟩ := mem_select.mp
      (show (i, u) ∈ s.select _ from hl ▸ List.mem_cons_self ..)
    obtain ⟨b, hb, heb, -⟩ := mem_select.mp
      (show (j, v) ∈ s.select _ from hl ▸ List.mem_cons_of_mem _ (List.mem_cons_self ..))
    exact ⟨i, j, a, b, hij, ha, hb, of_decide_eq_true hea, of_decide_eq_true heb⟩

theorem eq_of_by_emails_none {emails : List Str} {e : Error} (h : s.by_emails emails = .error e)
    (hnone : ∀ id a, s.get id = some a → a.user.email ∉ emails) : e = .DoesNotExist := by
  by_contra hnot
  obtain ⟨i, -, a, -, -, ha, -, hmem, -⟩ := by_emails_many h hnot
  exact hnone i a ha hmem

theorem set_getElem? {rows : List Account} {id : Nat} {a b : Account} (ha : rows[id]? = some a) :
    (fun j => (rows.set id b)[j]?) = Function.update (fun j => rows[j]?) id (some b) := by
  funext j
  by_cases hj : j = id
  · subst hj
    rw [Function.update_self, List.getElem?_set_self (List.getElem?_eq_some_iff.mp ha).1]
  · rw [Function.update_of_ne hj, List.getElem?_set_ne (Ne.symm hj)]

theorem append_getElem? {rows : List Account} {b : Account} :
    (fun j => (rows ++ [b])[j]?) = Function.update (fun j => rows[j]?) rows.length (some b) := by
  funext j
  by_cases hj : j = rows.length
  · subst hj
    rw [Function.update_self, List.getElem?_concat_length]
  · rw [Function.update_of_ne hj, List.getElem?_append]
    split
    next => rfl
    next hlt =>
      rw [List.getElem?_singleton, if_neg (by omega), List.getElem?_eq_none (by omega)]

end Tables

namespace Acts

variable {reserved : Uuid → Prop} {s s' : Tables}

theorem get_by_sso_id {n : Uuid} {r : Option (Nat × User)}
    (h : Acts reserved (.get_by_sso_id n) s r s') : s' = s ∧ s.by_sso_id n = r := by
  obtain ⟨_, -, -, he⟩ := h
  cases he
  exact ⟨rfl, rfl⟩

theorem get_by_emails {emails : List Str} {r : Except Error (Nat × User)}
    (h : Acts reserved (.get_by_emails emails) s r s') : s' = s ∧ s.by_emails emails = r := by
  obtain ⟨_, -, -, he⟩ := h
  cases he
  exact ⟨rfl, rfl⟩

theorem create_user {email : Str} {r : Except Error (Nat × User × Profile)}
    (h : Acts reserved (.create_user email) s r s') :
    (∃ fresh, fresh ∉ s.sso_ids ∧ ¬ reserved fresh ∧ (∀ a ∈ s.rows, a.user.username ≠ email) ∧
        r = .ok (s.rows.length, Tables.new_user email, ⟨fresh, []⟩) ∧
        s'.get = Function.update s.get s.rows.length
          (some ⟨Tables.new_user email, ⟨fresh, []⟩, false⟩) ∧ s'.sso_ids = fresh :: s.sso_ids) ∨
      (r = .error .IntegrityError ∧ s' = s ∧ ∃ id a, s.get id = some a ∧ a.user.username = email) ∨
      (r = .error .DataError ∧ s' = s ∧ ¬ (Tables.new_user email).Fits) := by
  obtain ⟨fresh, hfresh, hreserved, he⟩ := h
  rw [exec] at he
  split at he
  next hfits =>
    split at he
    next hfree =>
      cases he
      exact .inl ⟨fresh, hfresh, hreserved, hfree.1, rfl, Tables.append_getElem?, rfl⟩
    next hfree =>
      cases he
      refine .inr (.inl ⟨rfl, rfl, ?_⟩)
      have hnot : ¬ ∀ a ∈ s.rows, a.user.username ≠ email := fun hall => hfree ⟨hall, hfresh⟩
      obtain ⟨a, hnot⟩ := not_forall.mp hnot
      obtain ⟨ha, husername⟩ := Classical.not_imp.mp hnot
      obtain ⟨id, hid⟩ := List.getElem?_of_mem ha
      exact ⟨id, a, hid, not_not.mp husername⟩
  next hfits =>
    cases he
    exact .inr (.inr ⟨rfl, rfl, hfits⟩)

/-- The row of a user is replaced, or somebody has the username, or a value is too long. -/
theorem save_user {id : Nat} {user : User} {r : Except Error Unit}
    (h : Acts reserved (.save_user id user) s r s') :
    (∃ a, s.get id = some a ∧ r = .ok () ∧
        s'.get = Function.update s.get id (some { a with user := user }) ∧ s'.sso_ids = s.sso_ids) ∨
      (s' = s ∧ (s.get id = none ∨
        (r = .error .IntegrityError ∧
          ∃ j b, j ≠ id ∧ s.get j = some b ∧ b.user.username = user.username) ∨
        (r = .error .DataError ∧ ¬ user.Fits))) := by
  obtain ⟨fresh, -, -, he⟩ := h
  rw [exec] at he
  split at he
  next hnone =>
    cases he
    exact .inr ⟨rfl, .inl hnone⟩
  next a ha =>
    split at he
    next hfits =>
      split at he
      next hfree =>
        cases he
        exact .inl ⟨a, ha, rfl, Tables.set_getElem? ha, rfl⟩
      next hfree =>
        cases he
        exact .inr ⟨rfl, .inr (.inl ⟨rfl, Sql.taken_iff.mp (Bool.not_eq_false _ ▸ hfree)⟩)⟩
    next hfits =>
      cases he
      exact .inr ⟨rfl, .inr (.inr ⟨rfl, hfits⟩)⟩

theorem get_profile {id : Nat} {r : Option Profile}
    (h : Acts reserved (.get_profile id) s r s') : s' = s ∧ r = (s.get id).map (·.profile) := by
  obtain ⟨_, -, -, he⟩ := h
  cases he
  exact ⟨rfl, rfl⟩

theorem save_profile {id : Nat} {profile : Profile} {r : Except Error Unit}
    (h : Acts reserved (.save_profile id profile) s r s') :
    (∃ a, s.get id = some a ∧ r = .ok () ∧
        s'.get = Function.update s.get id (some { a with profile := profile }) ∧
        s'.sso_ids = profile.sso_id :: s.sso_ids) ∨
      (s' = s ∧ (s.get id = none ∨ (r = .error .IntegrityError ∧
        ∃ j b, j ≠ id ∧ s.get j = some b ∧ b.profile.sso_id = profile.sso_id))) := by
  obtain ⟨fresh, -, -, he⟩ := h
  rw [exec] at he
  split at he
  next hnone =>
    cases he
    exact .inr ⟨rfl, .inl hnone⟩
  next a ha =>
    split at he
    next hfree =>
      cases he
      exact .inl ⟨a, ha, rfl, Tables.set_getElem? ha, rfl⟩
    next hfree =>
      cases he
      exact .inr ⟨rfl, .inr ⟨rfl, Sql.taken_iff.mp (Bool.not_eq_false _ ▸ hfree)⟩⟩

theorem may_start_all {id : Nat} {r : Bool} (h : Acts reserved (.may_start_all id) s r s') :
    s' = s := by
  obtain ⟨_, -, -, he⟩ := h
  cases he
  rfl

theorem create_role_later {id : Nat} {r : Unit}
    (h : Acts reserved (.create_role_later id) s r s') : s' = s := by
  obtain ⟨_, -, -, he⟩ := h
  cases he
  rfl

theorem changes {o : Op} {r : Ans o} (h : Acts reserved o s r s') {id : Nat} {a : Account}
    (ha : s.get id = some a) (hne : s'.get id ≠ some a) :
    (∃ user, o = .save_user id user) ∨ ∃ profile, o = .save_profile id profile := by
  have hother : ∀ {j : Nat} {b : Account}, s'.get = Function.update s.get j (some b) → j = id := by
    intro j b hget
    by_contra hj
    rw [hget, Function.update_of_ne (Ne.symm hj)] at hne
    exact hne ha
  have hsame : s' ≠ s := fun hs => hne (hs ▸ ha)
  cases o with
  | get_by_sso_id n => exact absurd h.get_by_sso_id.1 hsame
  | get_by_emails emails => exact absurd h.get_by_emails.1 hsame
  | create_user email =>
      rcases h.create_user with ⟨fresh, -, -, -, -, hget, -⟩ | ⟨-, hs, -⟩ | ⟨-, hs, -⟩
      · have hlt := Tables.lt_of_get ha
        rw [hother hget] at hlt
        exact absurd hlt (Nat.lt_irrefl _)
      · exact absurd hs hsame
      · exact absurd hs hsame
  | save_user j user =>
      rcases h.save_user with ⟨b, -, -, hget, -⟩ | ⟨hs, -⟩
      · exact .inl ⟨user, by rw [hother hget]⟩
      · exact absurd hs hsame
  | get_profile j => exact absurd h.get_profile.1 hsame
  | save_profile j profile =>
      rcases h.save_profile with ⟨b, -, -, hget, -⟩ | ⟨hs, -⟩
      · exact .inr ⟨profile, by rw [hother hget]⟩
      · exact absurd hs hsame
  | may_start_all j => exact absurd h.may_start_all hsame
  | create_role_later j => exact absurd h.create_role_later hsame

end Acts

end Accounts
