import DataWorkspace.Py.Text
import Mathlib.Data.List.GetD

/-!
# Signing in to Superset

Superset does not ask for passwords.  Its login view trusts the `sso-profile`
headers of the request and the host it was sent to, and signs the browser in to
the account named after both.  From then on the session cookie says who the user
is, and the headers are not compared with it.

A run is a list of requests, of any number of browsers.  A request may carry the
cookie of any earlier reply, so cookies are kept and replayed in any way.  Each
reply carries the session as it is after the request.  As a ghost it also carries
the request that signed the session in.

`served_as_named_iff` compares the account a request is served under with the
account named after its own headers and host: they agree throughout a run exactly
when no request carries a session that was signed in by another user or on another
host.
-/

namespace Superset

open Py

/-! ## Requests -/

inductive BaseRole where
  | Public | Editor | Admin
deriving DecidableEq, Repr

def BaseRole.name : BaseRole → Str
  | .Public => "Public"
  | .Editor => "Editor"
  | .Admin => "Admin"

/-- `base_role_names`, by the first label of the host. -/
def base_role_names (label : Str) : Option BaseRole :=
  if label = "superset" then some .Public
  else if label = "superset-edit" then some .Editor
  else if label = "superset-admin" then some .Admin
  else none

/-- A request that the proxy forwards to one of the hosts of Superset. -/
structure Request where
  host : Str
  /-- The role of the host. -/
  role : BaseRole
  role_of_host : base_role_names ((host.splitOn '.').headD []) = some role
  /-- The request is for `/login/`. -/
  is_login : Bool
  next : Option Str
  sso_profile_user_id : Str
  sso_profile_email : Str
  sso_profile_first_name : Str
  sso_profile_last_name : Str
  dashboards : Str
  /-- The reply whose session cookie the request carries. -/
  cookie : Option Nat
deriving DecidableEq

/-- The name of the account for the headers and the host of a request. -/
def Request.username (r : Request) : Str := r.sso_profile_user_id ++ "--" ++ r.role.name

/-- The address of that account: the role goes before the `@`. -/
def Request.email (r : Request) : Str :=
  match r.sso_profile_email.splitOn '@' with
  | [] => []
  | local_part :: rest =>
      List.intercalate ['@'] ((local_part ++ "+" ++ lower r.role.name) :: rest)

/-! ## The login view -/

/-- An account of Superset.  Its id is its place in the list of accounts. -/
structure Account where
  username : Str
  first_name : Str
  last_name : Str
  email : Str
  role_name : Str
deriving DecidableEq, Repr

/-- A session cookie, and as a ghost the request that signed it in. -/
structure Cookie where
  user_id : Option Nat
  login : Option Request
deriving DecidableEq

/-- The accounts, and the cookies of all replies so far. -/
structure State where
  accounts : List Account
  issued : List Cookie
deriving DecidableEq

/-- What Superset is configured with: the administrators, its index page, and which
accounts the security manager refuses to make. -/
structure Config where
  ADMIN_USERS : List Str
  index : Str
  add_user_fails : List Account → Str → Bool

def State.presented (s : State) (r : Request) : Cookie :=
  (r.cookie.bind fun i => s.issued[i]?).getD ⟨none, none⟩

/-- `g.user`: the account of the session, if it is signed in. -/
def State.g_user (s : State) (c : Cookie) : Option Account :=
  c.user_id.bind fun i => s.accounts[i]?

/-- `security_manager.find_user`. -/
def find_user (accounts : List Account) (username : Str) : Option Nat :=
  accounts.findIdx? fun a => a.username == username

/-- The last name of an account tells its role. -/
def Request.last_name (r : Request) : Str :=
  r.sso_profile_last_name ++ " (" ++ r.role.name ++ ")"

/-- Bring the details of an account up to date. -/
def Request.update (r : Request) (a : Account) : Account :=
  { a with first_name := r.sso_profile_first_name, last_name := r.last_name, email := r.email }

/-- The account made for a request. -/
def Request.newAccount (r : Request) : Account where
  username := r.username
  first_name := r.sso_profile_first_name
  last_name := r.last_name
  email := r.email
  role_name := r.role.name

/-- A reply: its status, its location, and the account the session was signed in to. -/
structure Reply where
  status : Nat
  location : Option Str
  logged_in : Option Nat
deriving DecidableEq, Repr

/-- `DataWorkspaceRemoteUserView.login`. -/
def login (cfg : Config) (accounts : List Account) (g_user : Option Account) (r : Request) :
    Reply × List Account :=
  let redirect_url := r.next.getD cfg.index
  match g_user with
  | some _ => (⟨302, some redirect_url, none⟩, accounts)
  | none =>
      if r.role = .Admin ∧ r.sso_profile_email ∉ cfg.ADMIN_USERS then (⟨401, none, none⟩, accounts)
      else
        match find_user accounts r.username with
        | some i => (⟨302, some redirect_url, some i⟩, accounts.modify i r.update)
        | none =>
            if cfg.add_user_fails accounts r.username then (⟨500, none, none⟩, accounts)
            else (⟨302, some redirect_url, some accounts.length⟩, accounts ++ [r.newAccount])

/-- The role `before_request` synchronises for the user of a request, and the dashboards
it is synchronised with.  That of an editor goes by what the editor owns. -/
def before_request (user : Account) (r : Request) : Option (Str × Option Str) :=
  match r.role with
  | .Public => some (user.username ++ "-Role", some r.dashboards)
  | .Editor => some (user.username ++ "-Role", none)
  | .Admin => none

/-! ## Runs -/

/-- How a request was served. -/
structure Served where
  request : Request
  /-- The request that signed in the session it carried. -/
  signed_in_by : Option Request
  /-- The account it was served under. -/
  account : Option Str
  /-- The role that was synchronised for it. -/
  synced : Option (Str × Option Str)
deriving DecidableEq

def step (cfg : Config) (s : State) (r : Request) : Served × State :=
  let c := s.presented r
  let user := s.g_user c
  let synced := user.bind fun a => before_request a r
  let out := if r.is_login then login cfg s.accounts user r else (⟨200, none, none⟩, s.accounts)
  let account :=
    match user with
    | some a => some a.username
    | none => out.1.logged_in.bind fun i => (out.2[i]?).map Account.username
  let cookie : Cookie :=
    match out.1.logged_in with
    | some i => ⟨some i, some r⟩
    | none => c
  (⟨r, c.login, account, synced⟩, { accounts := out.2, issued := s.issued ++ [cookie] })

/-- How the requests of a run are served, one after the other. -/
def serveAll (cfg : Config) : State → List Request → List Served
  | _, [] => []
  | s, r :: rs => (step cfg s r).1 :: serveAll cfg (step cfg s r).2 rs

/-- The state before any request: no accounts and no cookies. -/
def State.initial : State := ⟨[], []⟩

/-! ## The account a session belongs to -/

/-- A session is signed in to the account named after the request that signed it in. -/
def Cookie.Honest (accounts : List Account) (c : Cookie) : Prop :=
  match c.login with
  | none => c.user_id = none
  | some l => ∃ i a, c.user_id = some i ∧ accounts[i]? = some a ∧ a.username = l.username

/-- Every cookie is honest. -/
def State.Honest (s : State) : Prop := ∀ c ∈ s.issued, c.Honest s.accounts

/-- Accounts stay where they are and keep their names. -/
def Keeps (accounts accounts' : List Account) : Prop :=
  ∀ (i : Nat) a, accounts[i]? = some a → ∃ a', accounts'[i]? = some a' ∧ a'.username = a.username

theorem Keeps.refl (accounts : List Account) : Keeps accounts accounts := fun _ a h => ⟨a, h, rfl⟩

theorem Cookie.Honest.keeps {accounts accounts' : List Account} (hk : Keeps accounts accounts')
    {c : Cookie} (h : c.Honest accounts) : c.Honest accounts' := by
  unfold Cookie.Honest at h ⊢
  cases hl : c.login with
  | none =>
      rw [hl] at h
      exact h
  | some l =>
      rw [hl] at h
      obtain ⟨i, a, hi, ha, hname⟩ := h
      obtain ⟨a', ha', hname'⟩ := hk i a ha
      exact ⟨i, a', hi, ha', hname'.trans hname⟩

theorem find_user_some {accounts : List Account} {username : Str} {i : Nat}
    (h : find_user accounts username = some i) :
    ∃ a, accounts[i]? = some a ∧ a.username = username := by
  rw [find_user, List.findIdx?_eq_some_iff_getElem] at h
  obtain ⟨hi, hname, -⟩ := h
  exact ⟨accounts[i], List.getElem?_eq_getElem hi, by simpa using hname⟩

theorem login_spec (cfg : Config) (accounts : List Account) (user : Option Account) (r : Request) :
    Keeps accounts (login cfg accounts user r).2 ∧
      ∀ i, (login cfg accounts user r).1.logged_in = some i →
        user = none ∧ ∃ a, (login cfg accounts user r).2[i]? = some a ∧ a.username = r.username := by
  unfold login
  cases user with
  | some a => exact ⟨.refl _, fun i hi => by cases hi⟩
  | none =>
      dsimp only
      split
      · exact ⟨.refl _, fun i hi => by cases hi⟩
      · cases hf : find_user accounts r.username with
        | some i =>
            obtain ⟨a, ha, hname⟩ := find_user_some hf
            dsimp only
            refine ⟨fun j b hb => ?_, fun j hj => ?_⟩
            · by_cases hij : i = j
              · subst hij
                exact ⟨r.update b, by simp [hb], rfl⟩
              · exact ⟨b, by simp [hij, hb], rfl⟩
            · obtain rfl := Option.some.inj hj
              exact ⟨rfl, r.update a, by simp [ha], hname⟩
        | none =>
            dsimp only
            split
            · exact ⟨.refl _, fun i hi => by cases hi⟩
            · refine ⟨fun j b hb => ⟨b, ?_, rfl⟩, fun j hj => ?_⟩
              · exact List.getElem?_append_left (List.getElem?_eq_some_iff.mp hb).1 ▸ hb
              · obtain rfl := Option.some.inj hj
                exact ⟨rfl, r.newAccount, by simp, rfl⟩

theorem presented_honest {s : State} (h : s.Honest) (r : Request) :
    (s.presented r).Honest s.accounts := by
  unfold State.presented
  cases hc : r.cookie.bind fun i => s.issued[i]? with
  | none => rfl
  | some c =>
      obtain ⟨i, -, hi⟩ := Option.bind_eq_some_iff.mp hc
      exact h c (List.mem_of_getElem? hi)

theorem g_user_of_honest {s : State} {c : Cookie} (h : c.Honest s.accounts) :
    (s.g_user c).map Account.username = c.login.map Request.username := by
  unfold Cookie.Honest at h
  unfold State.g_user
  cases hl : c.login with
  | none =>
      rw [hl] at h
      simp [h]
  | some l =>
      rw [hl] at h
      obtain ⟨i, a, hi, ha, hname⟩ := h
      simp [hi, ha, hname]

theorem step_honest (cfg : Config) {s : State} (h : s.Honest) (r : Request) :
    (step cfg s r).2.Honest := by
  have hpres := presented_honest h r
  obtain ⟨hkeeps, hlogged⟩ := login_spec cfg s.accounts (s.g_user (s.presented r)) r
  intro c hc
  simp only [step] at hc ⊢
  by_cases hlogin : r.is_login = true
  · simp only [if_pos hlogin] at hc ⊢
    rcases List.mem_append.mp hc with hc | hc
    · exact (h c hc).keeps hkeeps
    · rw [List.mem_singleton] at hc
      cases hin : (login cfg s.accounts (s.g_user (s.presented r)) r).1.logged_in with
      | none =>
          rw [hin] at hc
          exact hc ▸ hpres.keeps hkeeps
      | some i =>
          rw [hin] at hc
          obtain ⟨-, a, ha, hname⟩ := hlogged i hin
          rw [hc]
          exact ⟨i, a, rfl, ha, hname⟩
  · simp only [if_neg hlogin] at hc ⊢
    rcases List.mem_append.mp hc with hc | hc
    · exact h c hc
    · rw [List.mem_singleton] at hc
      exact hc ▸ hpres

/-! ## Served under the right account -/

def Served.AsNamed (e : Served) : Prop :=
  (∀ a, e.account = some a → a = e.request.username) ∧
    ∀ role dashboards, e.synced = some (role, dashboards) →
      role = e.request.username ++ "-Role" ∧ ∀ d, dashboards = some d → d = e.request.dashboards

/-- Two requests of one user for hosts of one role. -/
def SameIdentity (l r : Request) : Prop :=
  l.sso_profile_user_id = r.sso_profile_user_id ∧ l.role = r.role

/-- A session that is signed in was signed in by the user and on the host of the
request that carries it. -/
def Served.OwnSession (e : Served) : Prop :=
  ∀ l, e.signed_in_by = some l → SameIdentity l e.request

theorem BaseRole.eq_of_getLast? {a b : BaseRole} (h : a.name.getLast? = b.name.getLast?) :
    a = b := by
  cases a <;> cases b <;> first | rfl | exact absurd h (by decide)

theorem getLast?_username (r : Request) : r.username.getLast? = r.role.name.getLast? := by
  rw [Request.username, List.getLast?_append]
  cases r.role <;> rfl

theorem username_eq_iff (l r : Request) : l.username = r.username ↔ SameIdentity l r := by
  constructor
  · intro h
    have hrole : l.role = r.role := by
      apply BaseRole.eq_of_getLast?
      rw [← getLast?_username, ← getLast?_username, h]
    refine ⟨?_, hrole⟩
    unfold Request.username at h
    rw [hrole] at h
    exact List.append_cancel_right (List.append_cancel_right h)
  · rintro ⟨hid, hrole⟩
    rw [Request.username, Request.username, hid, hrole]

theorem step_asNamed_iff (cfg : Config) {s : State} (h : s.Honest) (r : Request) :
    (step cfg s r).1.AsNamed ↔ (step cfg s r).1.OwnSession := by
  have huser := g_user_of_honest (presented_honest h r)
  have hby : (step cfg s r).1.signed_in_by = (s.presented r).login := rfl
  have hreq : (step cfg s r).1.request = r := rfl
  obtain ⟨-, hlogged⟩ := login_spec cfg s.accounts (s.g_user (s.presented r)) r
  unfold Served.AsNamed Served.OwnSession
  rw [hby, hreq]
  cases hl : (s.presented r).login with
  | none =>
      -- nobody is signed in, and the login view signs in the right account
      rw [hl] at huser
      have hnone : s.g_user (s.presented r) = none := by simpa using huser
      refine ⟨fun _ l hl => (by cases hl), fun _ => ⟨fun a ha => ?_, fun role dashboards hp => ?_⟩⟩
      · simp only [step, hnone] at ha
        rw [hnone] at hlogged
        by_cases hlogin : r.is_login = true
        · simp only [if_pos hlogin] at ha
          obtain ⟨i, hi, hmap⟩ := Option.bind_eq_some_iff.mp ha
          obtain ⟨-, b, hb, hname⟩ := hlogged i hi
          rw [hb] at hmap
          exact (Option.some.inj hmap).symm.trans hname
        · simp [if_neg hlogin] at ha
      · simp [step, hnone] at hp
  | some l =>
      rw [hl] at huser
      obtain ⟨a, ha, hname⟩ := Option.map_eq_some_iff.mp huser
      have haccount : (step cfg s r).1.account = some l.username := by
        simp [step, ha, hname]
      constructor
      · intro hx l' hl'
        obtain rfl := Option.some.inj hl'
        exact (username_eq_iff l r).mp (hx.1 _ haccount)
      · intro hx
        have hown := (username_eq_iff l r).mpr (hx l rfl)
        refine ⟨fun b hb => ?_, fun role dashboards hp => ?_⟩
        · exact (Option.some.inj (haccount.symm.trans hb)).symm.trans hown
        · have hsynced : (step cfg s r).1.synced = before_request a r := by simp [step, ha]
          rw [hsynced, before_request, hname, hown] at hp
          cases hrole : r.role with
          | Public =>
              rw [hrole] at hp
              cases hp
              exact ⟨rfl, fun _ hd => (Option.some.inj hd).symm⟩
          | Editor =>
              rw [hrole] at hp
              cases hp
              exact ⟨rfl, fun _ hd => by cases hd⟩
          | Admin =>
              rw [hrole] at hp
              cases hp

theorem serveAll_asNamed_iff (cfg : Config) : ∀ (rs : List Request) {s : State}, s.Honest →
    ∀ e ∈ serveAll cfg s rs, (e.AsNamed ↔ e.OwnSession)
  | [], _, _, e, he => by cases he
  | r :: rs, s, h, e, he => by
      rcases List.mem_cons.mp he with rfl | he
      · exact step_asNamed_iff cfg h r
      · exact serveAll_asNamed_iff cfg rs (step_honest cfg h r) e he

theorem initial_honest : State.initial.Honest := fun _ hc => by cases hc

/-- In every run, all requests are served under the accounts named after them exactly
when each carries a session of its own user and role, or one that is not signed in. -/
theorem served_as_named_iff (cfg : Config) (rs : List Request) :
    (∀ e ∈ serveAll cfg .initial rs, e.AsNamed) ↔
      ∀ e ∈ serveAll cfg .initial rs, e.OwnSession :=
  forall_congr' fun e => imp_congr_right fun he =>
    serveAll_asNamed_iff cfg rs initial_honest e he

/-! ## Another user in the same browser -/

def viewRequest (user_id email : Str) (is_login : Bool) (cookie : Option Nat) : Request where
  host := "superset.example.com"
  role := .Public
  role_of_host := by decide
  is_login := is_login
  next := none
  sso_profile_user_id := user_id
  sso_profile_email := email
  sso_profile_first_name := []
  sso_profile_last_name := []
  dashboards := "7"
  cookie := cookie

/-- Ann signs in.  Then Bob, who has signed in to the workspace in the same browser,
opens Superset, and is served as Ann. -/
theorem second_user_served_as_first :
    ¬ ∀ e ∈ serveAll ⟨[], "/", fun _ _ => false⟩ .initial
      [viewRequest "ann" "ann@example.com" true none,
        viewRequest "bob" "bob@example.com" false (some 0)], e.AsNamed := by
  intro hall
  have hserved : (⟨viewRequest "bob" "bob@example.com" false (some 0),
      some (viewRequest "ann" "ann@example.com" true none), some "ann--Public",
      some ("ann--Public-Role", some "7")⟩ : Served) ∈ serveAll ⟨[], "/", fun _ _ => false⟩ .initial
        [viewRequest "ann" "ann@example.com" true none,
          viewRequest "bob" "bob@example.com" false (some 0)] := by decide
  exact absurd ((hall _ hserved).1 _ rfl) (by decide)

end Superset
