import DataWorkspace.Async.Prog
import DataWorkspace.Accounts.Store

/-!
# Logins

`create_user_from_sso` looks for the user with the id of the login, then for one with an email
of the login, and makes a user if there is none.  The user that is found by an email gets the
id, and every user that is found gets the primary email and the names.

A user is loaded once and kept in memory, and `save` writes all fields of it.  The profile is
loaded when it is first asked for.  The handler of the signal `post_save` asks for it and saves
it as well, after every save of the user.
-/

namespace Accounts

open Py Async

/-- The arguments of `create_user_from_sso`. -/
structure Login where
  sso_id : Uuid
  primary_email : Str
  other_emails : List Str
  first_name : Str
  last_name : Str
  check_tools_access_if_user_exists : Bool

namespace Login

variable (login : Login)

/-- The emails by which a user is found. -/
def emails : List Str := [login.primary_email] ++ login.other_emails

theorem primary_email_mem : login.primary_email ∈ login.emails := List.mem_cons_self ..

end Login

/-- A user in memory, with the profile if it was loaded. -/
structure Instance where
  id : Nat
  user : User
  profile : Option Profile
deriving DecidableEq

abbrev M (α : Type) := Prog Ans Error α

def await (o : Op) : M (Ans o) := .perform o

/-- A value, or an exception. -/
def orRaise {α : Type} : Except Error α → M α
  | .ok a => .pure a
  | .error e => .raise e

/-- `user.profile`. -/
def get_profile (user : Instance) : M Profile :=
  match user.profile with
  | some profile => .pure profile
  | none => do .ofOption .DoesNotExist (← await (.get_profile user.id))

/-- `user.save()`, with the handler of the signal. -/
def save (user : Instance) : M Instance := do
  orRaise (← await (.save_user user.id user.user))
  let profile ← get_profile user
  orRaise (← await (.save_profile user.id profile))
  .pure { user with profile := some profile }

/-- `_check_tools_access`. -/
def check_tools_access (user : Instance) : M Instance := do
  let permitted : Bool ← await (.may_start_all user.id)
  if permitted then do
    let profile ← get_profile user
    if profile.tools_access_role_arn = [] then await (.create_role_later user.id) else .pure ()
    .pure { user with profile := some profile }
  else .pure user

/-- `User.objects.get(profile__sso_id=sso_id)`. -/
def get_by_sso_id (sso_id : Uuid) : M (Option Instance) := do
  let found : Option (Nat × User) ← await (.get_by_sso_id sso_id)
  .pure (found.map fun r => ⟨r.1, r.2, none⟩)

/-- `User.objects.get_or_create(email__in=emails, …)`. -/
def get_or_create (emails : List Str) (primary_email : Str) : M Instance := do
  let found : Except Error (Nat × User) ← await (.get_by_emails emails)
  match found with
  | .ok r => .pure ⟨r.1, r.2, none⟩
  | .error .DoesNotExist => do
      let created : Except Error (Nat × User × Profile) ← await (.create_user primary_email)
      match created with
      | .ok r => .pure ⟨r.1, r.2.1, some r.2.2⟩
      | .error .IntegrityError => do
          let found : Except Error (Nat × User) ← await (.get_by_emails emails)
          match found with
          | .ok r => .pure ⟨r.1, r.2, none⟩
          | .error .DoesNotExist => .raise .IntegrityError
          | .error e => .raise e
      | .error e => .raise e
  | .error e => .raise e

/-- The user whose `sso_id` is set, or another that has it already. -/
def set_sso_id (sso_id : Uuid) (user : Instance) : M Instance := do
  let profile ← get_profile user
  let r : Except Error Instance ←
    (save { user with profile := some { profile with sso_id := sso_id } }).attempt
  match r with
  | .ok user => .pure user
  | .error .IntegrityError => do
      let found ← get_by_sso_id sso_id
      .ofOption .DoesNotExist found
  | .error e => .raise e

/-- The fields that a login sets. -/
def Login.updated (login : Login) (user : User) : User :=
  { user with
    username := login.primary_email
    email := login.primary_email
    first_name := login.first_name
    last_name := login.last_name
    usable_password := false }

/-- The part after the user is known. -/
def update_user (login : Login) (user : Instance) : M Instance :=
  if login.updated user.user ≠ user.user then save { user with user := login.updated user.user }
  else .pure user

/-- The part that finds the user or makes one. -/
def find_user (login : Login) : M Instance := do
  let found ← get_by_sso_id login.sso_id
  match found with
  | some user =>
      if login.check_tools_access_if_user_exists then check_tools_access user else .pure user
  | none => do
      let user ← get_or_create login.emails login.primary_email
      let user ← save user
      let user ← set_sso_id login.sso_id user
      check_tools_access user

def create_user_from_sso (login : Login) : M Instance := do
  let user ← find_user login
  update_user login user

/-! ## The backend -/

/-- The headers of a request, as far as the backend reads them. -/
structure Meta where
  email : Option Str
  contact_email : Option Str
  related_emails : Option Str
  user_id : Option Uuid
  first_name : Option Str
  last_name : Option Str

/-- `AuthbrokerBackendUsernameIsEmail.authenticate`: the login of a request. -/
def authenticate (headers : Meta) : Option Login := do
  let email ← headers.email
  let contact_email ← headers.contact_email
  let related_emails ← headers.related_emails
  let user_id ← headers.user_id
  let first_name ← headers.first_name
  let last_name ← headers.last_name
  some {
    sso_id := user_id
    primary_email := if contact_email ≠ [] then contact_email else email
    other_emails := [email] ++ (if contact_email ≠ [] then [contact_email] else []) ++
      related_emails.splitOn ','
    first_name := first_name
    last_name := last_name
    check_tools_access_if_user_exists := false }

end Accounts
