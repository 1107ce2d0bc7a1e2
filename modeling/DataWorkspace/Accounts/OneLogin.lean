import DataWorkspace.Accounts.Bindings

/-!
# A login that runs alone

Without other logins at work, the profile that a login has in memory is the one that is stored,
and what it found at first still holds.  So a login leaves the role of every user as it is.  It
changes the id of a user with a role only if nobody has the id of the login and the user has one
of its emails (`kept_of_alone`).  The login may also stop before its end.
-/

namespace Accounts

open Py Async

/-- The configurations of a login while nothing else happens. -/
def Alone (login : Login) (s : Tables) : LoginConfig Unit → Prop :=
  (logging_in fun _ => login).Run Always s

/-- The role of a user is the same, and so is the id if there is a role.  A new user has no
role. -/
def Kept : Option Account → Option Account → Prop
  | some a, some b => b.profile.tools_access_role_arn = a.profile.tools_access_role_arn ∧
      (a.profile.tools_access_role_arn ≠ [] → b.profile.sso_id = a.profile.sso_id)
  | none, some b => b.profile.tools_access_role_arn = []
  | some _, none => False
  | none, none => True

theorem Kept.refl : ∀ x : Option Account, Kept x x
  | some _ => ⟨rfl, fun _ => rfl⟩
  | none => trivial

theorem Kept.of_profile {x : Option Account} {a b : Account} (h : Kept x (some a))
    (hp : b.profile = a.profile) : Kept x (some b) := by
  cases x with
  | none => exact (congrArg _ hp).trans h
  | some c => exact ⟨(congrArg _ hp).trans h.1, fun hne => (congrArg _ hp).trans (h.2 hne)⟩

def Login.SparesRoles (login : Login) (s : Tables) : Prop :=
  (∃ id a, s.get id = some a ∧ a.profile.sso_id = login.sso_id) ∨
    ∀ id a, s.get id = some a → a.user.email ∈ login.emails →
      a.profile.tools_access_role_arn = []

section

variable (login : Login) (s₀ : Tables)

def Stage.Agrees (s : Tables) : Stage → Prop
  | .searching => s = s₀
  | .absent => s = s₀ ∧ ∀ id a, s.get id = some a → a.profile.sso_id ≠ login.sso_id
  | .missing => s = s₀ ∧ ∀ id a, s.get id = some a → a.profile.sso_id ≠ login.sso_id
  | .clashed => s = s₀ ∧ ∀ id a, s.get id = some a → a.profile.sso_id ≠ login.sso_id
  | .bound id _ p => ∃ a, s.get id = some a ∧ (∀ profile, p = some profile → a.profile = profile) ∧
      (a.profile.tools_access_role_arn ≠ [] → a.profile.sso_id = login.sso_id)
  | .refused => True
  | .failed => True

structure KeepsRoles (s : Tables) (st : Stage) : Prop where
  kept : ∀ id, Kept (s₀.get id) (s.get id)
  agrees : st.Agrees login s₀ s

variable {login s₀} {s s' : Tables} {st : Stage} {id : Nat} {u : User} {p : Option Profile}
  {reserved : Uuid → Prop}

theorem KeepsRoles.get_by_sso_id (h : KeepsRoles login s₀ s st)
    (hst : st = .searching ∨ st = .refused) {r : Option (Nat × User)}
    (hr : s.by_sso_id login.sso_id = r) :
    KeepsRoles login s₀ s (st.adv ⟨.get_by_sso_id login.sso_id, r⟩) := by
  refine ⟨h.kept, ?_⟩
  cases r with
  | none =>
      rcases hst with rfl | rfl
      · exact ⟨h.agrees, fun id a ha => Tables.by_sso_id_none hr ha⟩
      · trivial
  | some r =>
      obtain ⟨a, ha, -, hid⟩ := Tables.by_sso_id_some hr
      have hbound : ∃ a, s.get r.1 = some a ∧
          (∀ profile, (none : Option Profile) = some profile → a.profile = profile) ∧
            (a.profile.tools_access_role_arn ≠ [] → a.profile.sso_id = login.sso_id) :=
        ⟨a, ha, fun _ hp => (nomatch hp), fun _ => hid⟩
      rcases hst with rfl | rfl
      · exact hbound
      · exact hbound

theorem KeepsRoles.get_by_emails (hspares : login.SparesRoles s₀) (h : KeepsRoles login s₀ s st)
    (hst : st = .absent ∨ st = .clashed) {r : Except Error (Nat × User)}
    (hr : s.by_emails login.emails = r) :
    KeepsRoles login s₀ s (st.adv ⟨.get_by_emails login.emails, r⟩) := by
  refine ⟨h.kept, ?_⟩
  have hagrees : s = s₀ ∧ ∀ id a, s.get id = some a → a.profile.sso_id ≠ login.sso_id := by
    rcases hst with rfl | rfl
    · exact h.agrees
    · exact h.agrees
  cases r with
  | error e =>
      rcases hst with rfl | rfl
      · cases e with
        | DoesNotExist => exact hagrees
        | _ => trivial
      · trivial
  | ok r =>
      obtain ⟨a, ha, -, he⟩ := Tables.by_emails_ok hr
      have hrole : a.profile.tools_access_role_arn = [] := by
        rcases hspares with ⟨id, b, hb, hid⟩ | hall
        · exact absurd hid (hagrees.2 id b (hagrees.1 ▸ hb))
        · exact hall r.1 a (hagrees.1 ▸ ha) he
      have hbound : ∃ a, s.get r.1 = some a ∧
          (∀ profile, (none : Option Profile) = some profile → a.profile = profile) ∧
            (a.profile.tools_access_role_arn ≠ [] → a.profile.sso_id = login.sso_id) :=
        ⟨a, ha, fun _ hp => (nomatch hp), fun hne => absurd hrole hne⟩
      rcases hst with rfl | rfl
      · exact hbound
      · exact hbound

theorem KeepsRoles.create_user (h : KeepsRoles login s₀ s .missing)
    {r : Except Error (Nat × User × Profile)}
    (hact : Acts reserved (.create_user login.primary_email) s r s') :
    KeepsRoles login s₀ s' (Stage.adv .missing ⟨.create_user login.primary_email, r⟩) := by
  obtain ⟨rfl, hnone⟩ := h.agrees
  rcases hact.create_user with ⟨fresh, -, -, -, rfl, hget, -⟩ | ⟨rfl, rfl, -⟩ | ⟨rfl, rfl, -⟩
  · refine ⟨fun id => ?_, ⟨_, by rw [hget, Function.update_self], ?_, fun hne => absurd rfl hne⟩⟩
    · by_cases hid : id = s.rows.length
      · have hold : s.get id = none := hid ▸ List.getElem?_eq_none (Nat.le_refl _)
        rw [hget, hold, hid, Function.update_self]
        exact rfl
      · rw [hget, Function.update_of_ne hid]
        exact Kept.refl _
    · intro profile hp
      exact Option.some.inj hp
  · exact ⟨fun _ => Kept.refl _, rfl, hnone⟩
  · exact ⟨fun _ => Kept.refl _, trivial⟩

theorem KeepsRoles.save_user (h : KeepsRoles login s₀ s (.bound id u p)) {user : User}
    {r : Except Error Unit} (hact : Acts reserved (.save_user id user) s r s') :
    KeepsRoles login s₀ s' (Stage.adv (.bound id u p) ⟨.save_user id user, r⟩) := by
  obtain ⟨a, ha, hp, hid⟩ := h.agrees
  rcases hact.save_user with ⟨b, hb, rfl, hget, -⟩ | ⟨rfl, hnone | ⟨rfl, -⟩ | ⟨rfl, -⟩⟩
  · obtain rfl : b = a := Option.some.inj (hb.symm.trans ha)
    refine ⟨fun j => ?_, { b with user := user }, by rw [hget, Function.update_self], hp, hid⟩
    by_cases hj : j = id
    · subst hj
      rw [hget, Function.update_self]
      have hkept := h.kept j
      rw [hb] at hkept
      exact hkept.of_profile rfl
    · rw [hget, Function.update_of_ne hj]
      exact h.kept j
  · rw [hnone] at ha
    cases ha
  · exact ⟨h.kept, trivial⟩
  · exact ⟨h.kept, trivial⟩

theorem KeepsRoles.save_profile {profile₀ profile : Profile}
    (h : KeepsRoles login s₀ s (.bound id u (some profile₀)))
    (hprofile : profile = profile₀ ∨ profile = login.claimed profile₀) {r : Except Error Unit}
    (hact : Acts reserved (.save_profile id profile) s r s') :
    KeepsRoles login s₀ s' (Stage.adv (.bound id u (some profile₀))
      ⟨.save_profile id profile, r⟩) := by
  obtain ⟨a, ha, hp, hid⟩ := h.agrees
  obtain rfl := hp profile₀ rfl
  have harn : profile.tools_access_role_arn = a.profile.tools_access_role_arn := by
    rcases hprofile with rfl | rfl
    · rfl
    · rfl
  have hsame : a.profile.tools_access_role_arn ≠ [] → profile.sso_id = a.profile.sso_id := by
    intro hne
    rcases hprofile with rfl | rfl
    · rfl
    · exact (hid hne).symm
  rcases hact.save_profile with ⟨b, hb, rfl, hget, -⟩ | ⟨rfl, hnone | ⟨rfl, -⟩⟩
  · obtain rfl : b = a := Option.some.inj (hb.symm.trans ha)
    refine ⟨fun j => ?_, { b with profile := profile }, by rw [hget, Function.update_self], ?_, ?_⟩
    · by_cases hj : j = id
      · subst hj
        rw [hget, Function.update_self]
        have hkept := h.kept j
        rw [hb] at hkept
        cases hx : s₀.get j with
        | none =>
            rw [hx] at hkept
            exact harn.trans hkept
        | some c =>
            rw [hx] at hkept
            refine ⟨harn.trans hkept.1, fun hne => ?_⟩
            exact (hsame (hkept.1 ▸ hne)).trans (hkept.2 hne)
      · rw [hget, Function.update_of_ne hj]
        exact h.kept j
    · intro profile' hp'
      exact Option.some.inj hp'
    · intro hne
      have hne' : b.profile.tools_access_role_arn ≠ [] := harn ▸ hne
      exact (hsame hne').trans (hid hne')
  · rw [hnone] at ha
    cases ha
  · exact ⟨h.kept, trivial⟩

theorem KeepsRoles.step (hspares : login.SparesRoles s₀) (h : KeepsRoles login s₀ s st) {o : Op}
    {r : Ans o} (hperforms : st.Performs login o) (hact : Acts reserved o s r s') :
    KeepsRoles login s₀ s' (st.adv ⟨o, r⟩) := by
  cases o with
  | get_by_sso_id n =>
      obtain ⟨rfl, hr⟩ := hact.get_by_sso_id
      obtain ⟨rfl, hst⟩ := hperforms
      exact h.get_by_sso_id hst hr
  | get_by_emails emails =>
      obtain ⟨rfl, hr⟩ := hact.get_by_emails
      obtain ⟨rfl, hst⟩ := hperforms
      exact h.get_by_emails hspares hst hr
  | create_user email =>
      obtain ⟨rfl, rfl⟩ := hperforms
      exact h.create_user hact
  | save_user id user =>
      obtain ⟨u₀, p, rfl, -⟩ := hperforms
      exact h.save_user hact
  | get_profile id =>
      obtain ⟨rfl, rfl⟩ := hact.get_profile
      obtain ⟨u₀, rfl⟩ := hperforms
      obtain ⟨a, ha, -, hid⟩ := h.agrees
      rw [ha]
      refine ⟨h.kept, a, ha, ?_, hid⟩
      intro profile hp
      exact Option.some.inj hp
  | save_profile id profile =>
      obtain ⟨u₀, profile₀, rfl, hprofile⟩ := hperforms
      exact h.save_profile hprofile hact
  | may_start_all id =>
      obtain rfl := hact.may_start_all
      obtain ⟨u₀, p, rfl⟩ := hperforms
      exact h
  | create_role_later id =>
      obtain rfl := hact.create_role_later
      obtain ⟨u₀, p, rfl⟩ := hperforms
      exact h

theorem kept_of_alone {c : LoginConfig Unit} (hspares : login.SparesRoles s₀)
    (h : Alone login s₀ c) (id : Nat) : Kept (s₀.get id) (c.store.get id) := by
  have hkeeps : KeepsRoles login s₀ c.store (stage c ()) := by
    refine h.invariant (I := fun c => KeepsRoles login s₀ c.store (stage c ()))
      ⟨fun _ => Kept.refl _, rfl⟩ ?_
    intro c i o k a s hrun hi _ hact hkeeps
    have hstage : stage (c.go i ⟨o, a⟩ (k a) s) () = (stage c ()).adv ⟨o, a⟩ :=
      Config.summary_go_self ..
    rw [hstage]
    exact hkeeps.step hspares (performs_of_run hrun hi) hact
  exact hkeeps.kept id

end

end Accounts
