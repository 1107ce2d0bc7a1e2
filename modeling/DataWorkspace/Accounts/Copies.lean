import DataWorkspace.Accounts.Bindings

/-!
# Logins of one id

Logins with one id end with one user and without an exception, if the ids have emails of their
own (`Tidy`).  What is stored for a user is overwritten by logins that read it some time ago, so
the argument is about copies.  A copy is a row or an id that is stored for a user, or that a
login has in memory and may still save.  A user touches a login if a copy has the id of the
login or one of its emails.

`Apart` is the invariant of the copies.  No two users touch one login, and copies of different
users clash in no unique column.  `Stage.Stands` is what the stage of a login says.  A login that
has not found the id can still find the user by an email, and one that has not found an email
either can only be overtaken by a login that makes the user.
-/

namespace Accounts

open Py Async

/-! ## Copies -/

/-- The rows and the ids that are stored for a user or may come to be stored. -/
structure Copies where
  user : Nat → User → Prop
  sso_id : Nat → Uuid → Prop

/-- A user has a copy that a login looks for. -/
def Copies.Touches (C : Copies) (id : Nat) (login : Login) : Prop :=
  (∃ user, C.user id user ∧
    (user.email ∈ login.emails ∨ user.username = login.primary_email)) ∨ C.sso_id id login.sso_id

variable {ι : Type}

section Tidy

variable (logins : ι → Login)

/-- What a login looks for. -/
def Account.Matches (a : Account) (login : Login) : Prop :=
  a.profile.sso_id = login.sso_id ∨ a.user.email ∈ login.emails ∨
    a.user.username = login.primary_email

/-- The logins of one id have the same emails, and those of two ids have none in common.  A
login matches at most one of the users there are, by the id or by an email, and no user
matches logins of two ids.  The names fit. -/
structure Tidy (s : Tables) : Prop where
  primary_email : ∀ {i j}, (logins i).sso_id = (logins j).sso_id →
    (logins i).primary_email = (logins j).primary_email
  emails : ∀ {i j}, (logins i).sso_id = (logins j).sso_id →
    ∀ e, e ∈ (logins i).emails → e ∈ (logins j).emails
  own_emails : ∀ {i j e}, e ∈ (logins i).emails → e ∈ (logins j).emails →
    (logins i).sso_id = (logins j).sso_id
  fits : ∀ i, (logins i).row.Fits
  one : ∀ {i j k a b}, s.get j = some a → s.get k = some b → a.Matches (logins i) →
    b.Matches (logins i) → j = k
  group : ∀ {i i' j a}, s.get j = some a → a.Matches (logins i) → a.Matches (logins i') →
    (logins i).sso_id = (logins i').sso_id
  found : ∀ {i j a}, s.get j = some a → a.user.username = (logins i).primary_email →
    a.profile.sso_id = (logins i).sso_id ∨ a.user.email ∈ (logins i).emails

/-! ## The invariant of the copies -/

/-- The copies of different users clash nowhere, and no two users touch logins of one id. -/
structure Apart (C : Copies) (ids : List Uuid) : Prop where
  usernames : ∀ {j k u v}, C.user j u → C.user k v → u.username = v.username → j = k
  sso_ids : ∀ {j k n}, C.sso_id j n → C.sso_id k n → j = k
  one : ∀ {i j k}, C.Touches j (logins i) → C.Touches k (logins i) → j = k
  group : ∀ {i i' j}, C.Touches j (logins i) → C.Touches j (logins i') →
    (logins i).sso_id = (logins i').sso_id
  /-- All copies of the id are those of the login, or all copies of the row have its emails. -/
  found : ∀ {i j}, C.Touches j (logins i) → (∀ n, C.sso_id j n → n = (logins i).sso_id) ∨
    ∀ u, C.user j u → u.email ∈ (logins i).emails
  known : ∀ {j n}, C.sso_id j n → n ∈ ids ∨ ∃ i, n = (logins i).sso_id
  fits : ∀ {j u}, C.user j u → u.Fits

variable {logins} {s₀ : Tables} {C C' : Copies} {ids : List Uuid} {i i' : ι} {j k : Nat}

theorem Copies.Touches.congr (ht : Tidy logins s₀) (h : C.Touches j (logins i))
    (hid : (logins i).sso_id = (logins i').sso_id) : C.Touches j (logins i') := by
  rcases h with ⟨u, hu, he | hname⟩ | hn
  · exact .inl ⟨u, hu, .inl (ht.emails hid _ he)⟩
  · exact .inl ⟨u, hu, .inr (hname.trans (ht.primary_email hid))⟩
  · exact .inr (hid ▸ hn)

theorem Tidy.same_id_of_row (ht : Tidy logins s₀)
    (h : (logins i).row.email ∈ (logins i').emails ∨
      (logins i).row.username = (logins i').primary_email) :
    (logins i).sso_id = (logins i').sso_id := by
  rcases h with he | hname
  · exact ht.own_emails (logins i).primary_email_mem he
  · refine ht.own_emails (logins i).primary_email_mem ?_
    rw [show (logins i).primary_email = (logins i').primary_email from hname]
    exact (logins i').primary_email_mem

/-- New copies of users that touch a login are those that the login writes. -/
structure Grows (login : Login) (C C' : Copies) : Prop where
  user : ∀ {k u}, C'.user k u → C.user k u ∨ C.Touches k login ∧ u = login.row
  sso_id : ∀ {k n}, C'.sso_id k n → C.sso_id k n ∨ C.Touches k login ∧ n = login.sso_id

theorem Grows.touches (ht : Tidy logins s₀) (hg : Grows (logins i) C C')
    (h : C'.Touches j (logins i')) : C.Touches j (logins i') := by
  rcases h with ⟨u, hu, h⟩ | hn
  · rcases hg.user hu with hu | ⟨htouch, rfl⟩
    · exact .inl ⟨u, hu, h⟩
    · exact htouch.congr ht (ht.same_id_of_row h)
  · rcases hg.sso_id hn with hn | ⟨htouch, hid⟩
    · exact .inr hn
    · exact htouch.congr ht hid.symm

theorem Grows.email (ht : Tidy logins s₀) (ha : Apart logins C ids) (hg : Grows (logins i) C C')
    (htouch : C.Touches j (logins i')) (h : ∀ u, C.user j u → u.email ∈ (logins i').emails) {u : User}
    (hu : C'.user j u) : u.email ∈ (logins i').emails := by
  rcases hg.user hu with hu | ⟨htouch', rfl⟩
  · exact h u hu
  · exact ht.emails (ha.group htouch' htouch) _ (logins i).primary_email_mem

theorem Grows.username (ht : Tidy logins s₀) (ha : Apart logins C ids) (hg : Grows (logins i) C C')
    (htouch : C.Touches j (logins i'))
    (h : ∀ u, C.user j u → u.username = (logins i').primary_email) {u : User} (hu : C'.user j u) :
    u.username = (logins i').primary_email := by
  rcases hg.user hu with hu | ⟨htouch', rfl⟩
  · exact h u hu
  · exact ht.primary_email (ha.group htouch' htouch)

theorem Apart.grow (ht : Tidy logins s₀) (ha : Apart logins C ids) (hg : Grows (logins i) C C')
    {ids' : List Uuid} (hids : ids ⊆ ids') : Apart logins C' ids' where
  usernames := by
    intro j k u v hu hv huv
    rcases hg.user hu with hu | ⟨htouch, rfl⟩
    · rcases hg.user hv with hv | ⟨htouch', rfl⟩
      · exact ha.usernames hu hv huv
      · exact ha.one (.inl ⟨u, hu, .inr huv⟩) htouch'
    · rcases hg.user hv with hv | ⟨htouch', rfl⟩
      · exact ha.one htouch (.inl ⟨v, hv, .inr huv.symm⟩)
      · exact ha.one htouch htouch'
  sso_ids := by
    intro j k n hj hk
    rcases hg.sso_id hj with hj | ⟨htouch, rfl⟩
    · rcases hg.sso_id hk with hk | ⟨htouch', rfl⟩
      · exact ha.sso_ids hj hk
      · exact ha.one (.inr hj) htouch'
    · rcases hg.sso_id hk with hk | ⟨htouch', -⟩
      · exact ha.one htouch (.inr hk)
      · exact ha.one htouch htouch'
  one hj hk := ha.one (hg.touches ht hj) (hg.touches ht hk)
  group h h' := ha.group (hg.touches ht h) (hg.touches ht h')
  found := by
    intro i' j h
    have htouch := hg.touches ht h
    rcases ha.found htouch with hids | hemails
    · refine .inl fun n hn => ?_
      rcases hg.sso_id hn with hn | ⟨htouch', rfl⟩
      · exact hids n hn
      · exact ha.group htouch' htouch
    · exact .inr fun u hu => hg.email ht ha htouch hemails hu
  known := by
    intro j n hn
    rcases hg.sso_id hn with hn | ⟨-, rfl⟩
    · rcases ha.known hn with hn | hn
      · exact .inl (hids hn)
      · exact .inr hn
    · exact .inr ⟨i, rfl⟩
  fits := by
    intro j u hu
    rcases hg.user hu with hu | ⟨-, rfl⟩
    · exact ha.fits hu
    · exact ht.fits i

structure Makes (login : Login) (id : Nat) (fresh : Uuid) (C C' : Copies) : Prop where
  user : ∀ {k u}, C'.user k u → C.user k u ∨
    k = id ∧ (u = Tables.new_user login.primary_email ∨ u = login.row)
  sso_id : ∀ {k n}, C'.sso_id k n → C.sso_id k n ∨ k = id ∧ (n = fresh ∨ n = login.sso_id)

section Makes

variable {id : Nat} {fresh : Uuid}

theorem Makes.row (hm : Makes (logins i) id fresh C C') {u : User} (hu : C'.user k u) :
    C.user k u ∨ k = id ∧ u.username = (logins i).primary_email ∧
      u.email = (logins i).primary_email := by
  rcases hm.user hu with hu | ⟨hk, rfl | rfl⟩
  · exact .inl hu
  · exact .inr ⟨hk, rfl, rfl⟩
  · exact .inr ⟨hk, rfl, rfl⟩

theorem Makes.touches (ht : Tidy logins s₀) (hm : Makes (logins i) id fresh C C')
    (hfresh : ∀ i, fresh ≠ (logins i).sso_id) (h : C'.Touches k (logins i')) :
    C.Touches k (logins i') ∨ k = id ∧ (logins i).sso_id = (logins i').sso_id := by
  rcases h with ⟨u, hu, h⟩ | hn
  · rcases hm.row hu with hu | ⟨hk, hname, hemail⟩
    · exact .inl (.inl ⟨u, hu, h⟩)
    · rw [hname, hemail] at h
      exact .inr ⟨hk, ht.same_id_of_row h⟩
  · rcases hm.sso_id hn with hn | ⟨hk, hn | hn⟩
    · exact .inl (.inr hn)
    · exact absurd hn.symm (hfresh i')
    · exact .inr ⟨hk, hn.symm⟩

theorem Apart.make (ht : Tidy logins s₀) (ha : Apart logins C ids)
    (hm : Makes (logins i) id fresh C C') (hfresh : ∀ i, fresh ≠ (logins i).sso_id)
    (hnew : fresh ∉ ids) (hnone : ∀ k, ¬ C.Touches k (logins i))
    (hnot : ∀ u, ¬ C.user id u) (hnot' : ∀ n, ¬ C.sso_id id n) :
    Apart logins C' (fresh :: ids) where
  usernames := by
    have hother : ∀ {k u}, C.user k u → u.username ≠ (logins i).primary_email :=
      fun hu hname => hnone _ (.inl ⟨_, hu, .inr hname⟩)
    intro j k u v hu hv huv
    rcases hm.row hu with hu | ⟨rfl, hname, -⟩
    · rcases hm.row hv with hv | ⟨rfl, hname, -⟩
      · exact ha.usernames hu hv huv
      · exact absurd (huv.trans hname) (hother hu)
    · rcases hm.row hv with hv | ⟨rfl, -, -⟩
      · exact absurd (huv.symm.trans hname) (hother hv)
      · rfl
  sso_ids := by
    have hother : ∀ {k n}, C.sso_id k n → ¬ (n = fresh ∨ n = (logins i).sso_id) := by
      rintro k n hn (rfl | rfl)
      · rcases ha.known hn with hmem | ⟨i', hid⟩
        · exact hnew hmem
        · exact hfresh i' hid
      · exact hnone _ (.inr hn)
    intro j k n hj hk
    rcases hm.sso_id hj with hj | ⟨rfl, hn⟩
    · rcases hm.sso_id hk with hk | ⟨rfl, hn⟩
      · exact ha.sso_ids hj hk
      · exact absurd hn (hother hj)
    · rcases hm.sso_id hk with hk | ⟨rfl, -⟩
      · exact absurd hn (hother hk)
      · rfl
  one := by
    intro i' j k hj hk
    rcases hm.touches ht hfresh hj with hj | ⟨rfl, hid⟩
    · rcases hm.touches ht hfresh hk with hk | ⟨-, hid⟩
      · exact ha.one hj hk
      · exact absurd (hj.congr ht hid.symm) (hnone j)
    · rcases hm.touches ht hfresh hk with hk | ⟨rfl, -⟩
      · exact absurd (hk.congr ht hid.symm) (hnone k)
      · rfl
  group := by
    intro i₁ i₂ j h₁ h₂
    have hold : ∀ {i'}, ¬ C.Touches id (logins i') := by
      rintro i' (⟨u, hu, -⟩ | hn)
      · exact hnot u hu
      · exact hnot' _ hn
    rcases hm.touches ht hfresh h₁ with h₁ | ⟨rfl, hid₁⟩
    · rcases hm.touches ht hfresh h₂ with h₂ | ⟨rfl, -⟩
      · exact ha.group h₁ h₂
      · exact absurd h₁ hold
    · rcases hm.touches ht hfresh h₂ with h₂ | ⟨-, hid₂⟩
      · exact absurd h₂ hold
      · exact hid₁.symm.trans hid₂
  found := by
    intro i' j h
    rcases hm.touches ht hfresh h with h | ⟨rfl, hid⟩
    · have hj : j ≠ id := by
        rintro rfl
        rcases h with ⟨u, hu, -⟩ | hn
        · exact hnot u hu
        · exact hnot' _ hn
      rcases ha.found h with hids | hemails
      · refine .inl fun n hn => ?_
        rcases hm.sso_id hn with hn | ⟨hj', -⟩
        · exact hids n hn
        · exact absurd hj' hj
      · refine .inr fun u hu => ?_
        rcases hm.row hu with hu | ⟨hj', -⟩
        · exact hemails u hu
        · exact absurd hj' hj
    · refine .inr fun u hu => ?_
      rcases hm.row hu with hu | ⟨-, -, hemail⟩
      · exact absurd hu (hnot u)
      · rw [hemail]
        exact ht.emails hid _ (logins i).primary_email_mem
  known := by
    intro j n hn
    rcases hm.sso_id hn with hn | ⟨-, rfl | rfl⟩
    · rcases ha.known hn with hn | hn
      · exact .inl (List.mem_cons_of_mem _ hn)
      · exact .inr hn
    · exact .inl (List.mem_cons_self ..)
    · exact .inr ⟨i, rfl⟩
  fits := by
    intro j u hu
    obtain ⟨hname, hemail, -, -⟩ := ht.fits i
    rcases hm.user hu with hu | ⟨-, rfl | rfl⟩
    · exact ha.fits hu
    · exact ⟨hname, hemail, Nat.zero_le _, Nat.zero_le _⟩
    · exact ht.fits i

end Makes

end Tidy

end Accounts
