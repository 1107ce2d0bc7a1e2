import DataWorkspace.Accounts.Copies

/-!
# The user of an id

The copies of the users are what the tables hold and what the logins have in memory, and a
login may also save its own fields.  A step of a login leaves the copies as they are, adds those
of a user that it comes to be bound to, or adds those of a user that it makes.  Each step
keeps `Inv`, and where `Inv` holds no operation is refused.
-/

namespace Accounts

open Py Async

variable {ι : Type}

section Invariant

variable (logins : ι → Login)

/-- The copies of users that are stored or in the memory of logins. -/
def copies (s : Tables) (stages : ι → Stage) : Copies where
  user j u := (∃ a, s.get j = some a ∧ a.user = u) ∨
    ∃ i u₀ p, stages i = .bound j u₀ p ∧ (u = u₀ ∨ u = (logins i).row)
  sso_id j n := (∃ a, s.get j = some a ∧ a.profile.sso_id = n) ∨
    ∃ i u p, stages i = .bound j u p ∧
      ((∃ profile, p = some profile ∧ n = profile.sso_id) ∨ n = (logins i).sso_id)

def Stage.Stands (C : Copies) (s : Tables) (login : Login) : Stage → Prop
  | .searching => True
  | .absent => ∀ j, C.Touches j login → ∀ u, C.user j u → u.email ∈ login.emails
  | .missing => ∀ j, C.Touches j login →
      ∀ u, C.user j u → u.email ∈ login.emails ∧ u.username = login.primary_email
  | .clashed => (∀ j, C.Touches j login →
      ∀ u, C.user j u → u.email ∈ login.emails ∧ u.username = login.primary_email) ∧
        ∃ j a, s.get j = some a ∧ a.user.email ∈ login.emails
  | .bound j _ _ => ∃ a, s.get j = some a
  | .refused => False
  | .failed => False

structure Inv (s : Tables) (stages : ι → Stage) : Prop where
  apart : Apart logins (copies logins s stages) s.sso_ids
  stands : ∀ i, (stages i).Stands (copies logins s stages) s (logins i)

variable {logins} {s₀ s s' : Tables} {stages : ι → Stage} {i : ι} {j : Nat}

theorem user_of_get {a : Account} (h : s.get j = some a) :
    (copies logins s stages).user j a.user := .inl ⟨a, h, rfl⟩

theorem sso_id_of_get {a : Account} (h : s.get j = some a) :
    (copies logins s stages).sso_id j a.profile.sso_id := .inl ⟨a, h, rfl⟩

section Bound

variable {u : User} {p : Option Profile}

theorem user_of_bound (h : stages i = .bound j u p) : (copies logins s stages).user j u :=
  .inr ⟨i, u, p, h, .inl rfl⟩

theorem row_of_bound (h : stages i = .bound j u p) :
    (copies logins s stages).user j (logins i).row := .inr ⟨i, u, p, h, .inr rfl⟩

theorem sso_id_of_bound {profile : Profile} (h : stages i = .bound j u (some profile)) :
    (copies logins s stages).sso_id j profile.sso_id :=
  .inr ⟨i, u, _, h, .inl ⟨profile, rfl, rfl⟩⟩

theorem claimed_of_bound (h : stages i = .bound j u p) :
    (copies logins s stages).sso_id j (logins i).sso_id := .inr ⟨i, u, p, h, .inr rfl⟩

theorem touches_of_bound (h : stages i = .bound j u p) :
    (copies logins s stages).Touches j (logins i) := .inr (claimed_of_bound h)

end Bound

theorem Tidy.inv (ht : Tidy logins s) : Inv logins s fun _ => .searching := by
  have huser : ∀ {j u}, (copies logins s fun _ : ι => .searching).user j u →
      ∃ a, s.get j = some a ∧ a.user = u := by
    rintro j u (h | ⟨_, _, _, h, -⟩)
    · exact h
    · cases h
  have hid : ∀ {j n}, (copies logins s fun _ : ι => .searching).sso_id j n →
      ∃ a, s.get j = some a ∧ a.profile.sso_id = n := by
    rintro j n (h | ⟨_, _, _, h, -⟩)
    · exact h
    · cases h
  have htouch : ∀ {j i}, (copies logins s fun _ : ι => .searching).Touches j (logins i) →
      ∃ a, s.get j = some a ∧ a.Matches (logins i) := by
    rintro j i (⟨u, hu, he | hname⟩ | hn)
    · obtain ⟨a, ha, rfl⟩ := huser hu
      exact ⟨a, ha, .inr (.inl he)⟩
    · obtain ⟨a, ha, rfl⟩ := huser hu
      exact ⟨a, ha, .inr (.inr hname)⟩
    · obtain ⟨a, ha, hn⟩ := hid hn
      exact ⟨a, ha, .inl hn⟩
  refine ⟨⟨?_, ?_, ?_, ?_, ?_, ?_, ?_⟩, fun _ => trivial⟩
  · intro j k u v hu hv huv
    obtain ⟨a, ha, rfl⟩ := huser hu
    obtain ⟨b, hb, rfl⟩ := huser hv
    exact Tables.username_inj ha hb huv
  · intro j k n hj hk
    obtain ⟨a, ha, rfl⟩ := hid hj
    obtain ⟨b, hb, hn⟩ := hid hk
    exact Tables.sso_id_inj ha hb hn.symm
  · intro i j k hj hk
    obtain ⟨a, ha, hma⟩ := htouch hj
    obtain ⟨b, hb, hmb⟩ := htouch hk
    exact ht.one ha hb hma hmb
  · intro i i' j h h'
    obtain ⟨a, ha, hm⟩ := htouch h
    obtain ⟨b, hb, hm'⟩ := htouch h'
    obtain rfl : b = a := Option.some.inj (hb.symm.trans ha)
    exact ht.group ha hm hm'
  · intro i j h
    obtain ⟨a, ha, hm⟩ := htouch h
    have hfound : a.profile.sso_id = (logins i).sso_id ∨ a.user.email ∈ (logins i).emails := by
      rcases hm with hn | he | hname
      · exact .inl hn
      · exact .inr he
      · exact ht.found ha hname
    rcases hfound with hn | he
    · refine .inl fun n hn' => ?_
      obtain ⟨b, hb, rfl⟩ := hid hn'
      obtain rfl : b = a := Option.some.inj (hb.symm.trans ha)
      exact hn
    · refine .inr fun u hu => ?_
      obtain ⟨b, hb, rfl⟩ := huser hu
      obtain rfl : b = a := Option.some.inj (hb.symm.trans ha)
      exact he
  · intro j n hn
    obtain ⟨a, ha, rfl⟩ := hid hn
    exact .inl (s.known a (Tables.mem_of_get ha))
  · intro j u hu
    obtain ⟨a, ha, rfl⟩ := huser hu
    exact s.fits a (Tables.mem_of_get ha)

theorem Inv.stored (hinv : Inv logins s stages) {login : Login}
    (h : (copies logins s stages).Touches j login) : ∃ a, s.get j = some a := by
  have hbound : ∀ {i u p}, stages i = .bound j u p → ∃ a, s.get j = some a := by
    intro i u p hi
    have hstands := hinv.stands i
    rw [hi] at hstands
    exact hstands
  rcases h with ⟨u, ⟨a, ha, -⟩ | ⟨i, u₀, p, hi, -⟩, -⟩ | ⟨a, ha, -⟩ | ⟨i, u₀, p, hi, -⟩
  · exact ⟨a, ha⟩
  · exact hbound hi
  · exact ⟨a, ha⟩
  · exact hbound hi

theorem touches_of_email {a : Account} (ha : s.get j = some a) {login : Login}
    (he : a.user.email ∈ login.emails) : (copies logins s stages).Touches j login :=
  .inl ⟨a.user, user_of_get ha, .inl he⟩

theorem Inv.not_many (hinv : Inv logins s stages) {e : Error}
    (h : s.by_emails (logins i).emails = .error e) : e = .DoesNotExist := by
  by_contra he
  obtain ⟨j, k, a, b, hjk, ha, hb, hea, heb⟩ := Tables.by_emails_many h he
  exact hjk (hinv.apart.one (touches_of_email ha hea) (touches_of_email hb heb))

/-! ## A step -/

variable {st : Stage}

structure Copied (C : Copies) (login : Login) (s s' : Tables) (st : Stage) : Prop where
  keeps : ∀ {j a}, s.get j = some a → ∃ a', s'.get j = some a'
  ids : s.sso_ids ⊆ s'.sso_ids
  stored : ∀ {j a}, s'.get j = some a → C.user j a.user ∧ C.sso_id j a.profile.sso_id
  memory : ∀ {j u p}, st = .bound j u p → C.Touches j login ∧ C.user j u ∧
    ∀ {profile}, p = some profile → C.sso_id j profile.sso_id

theorem copied_of_read (hmemory : ∀ {j u p}, st = .bound j u p →
      (copies logins s stages).Touches j (logins i) ∧ (copies logins s stages).user j u ∧
        ∀ {profile}, p = some profile → (copies logins s stages).sso_id j profile.sso_id) :
    Copied (copies logins s stages) (logins i) s s st where
  keeps ha := ⟨_, ha⟩
  ids := fun _ h => h
  stored ha := ⟨user_of_get ha, sso_id_of_get ha⟩
  memory := hmemory

theorem copied_same (hi : stages i = st) : Copied (copies logins s stages) (logins i) s s st := by
  refine copied_of_read fun {j u p} hst => ?_
  rw [hst] at hi
  refine ⟨touches_of_bound hi, user_of_bound hi, ?_⟩
  rintro profile rfl
  exact sso_id_of_bound hi

theorem Makes.stands (ht : Tidy logins s₀) {id : Nat} {fresh : Uuid} {C C' : Copies}
    (hm : Makes (logins i) id fresh C C') (hfresh : ∀ i, fresh ≠ (logins i).sso_id)
    (hnot : ∀ u, ¬ C.user id u) (hnot' : ∀ n, ¬ C.sso_id id n)
    (hkeeps : ∀ {j a}, s.get j = some a → s'.get j = some a) {i' : ι} {st : Stage}
    (hst : st.Stands C s (logins i')) : st.Stands C' s' (logins i') := by
  have hrow : ∀ {j u}, C'.Touches j (logins i') → C'.user j u →
      C.Touches j (logins i') ∧ C.user j u ∨
        u.email ∈ (logins i').emails ∧ u.username = (logins i').primary_email := by
    intro j u htouch hu
    rcases hm.touches ht hfresh htouch with htouch | ⟨rfl, hid⟩
    · rcases hm.row hu with hu | ⟨rfl, -⟩
      · exact .inl ⟨htouch, hu⟩
      · rcases htouch with ⟨v, hv, -⟩ | hn
        · exact absurd hv (hnot v)
        · exact absurd hn (hnot' _)
    · rcases hm.row hu with hu | ⟨-, hname, hemail⟩
      · exact absurd hu (hnot u)
      · rw [hname, hemail]
        exact .inr ⟨ht.emails hid _ (logins i).primary_email_mem, ht.primary_email hid⟩
  have hrows : (∀ j, C.Touches j (logins i') → ∀ u, C.user j u →
        u.email ∈ (logins i').emails ∧ u.username = (logins i').primary_email) →
      ∀ j, C'.Touches j (logins i') → ∀ u, C'.user j u →
        u.email ∈ (logins i').emails ∧ u.username = (logins i').primary_email := by
    intro hst j htouch u hu
    rcases hrow htouch hu with ⟨htouch, hu⟩ | hu
    · exact hst j htouch u hu
    · exact hu
  cases st with
  | searching => trivial
  | absent =>
      intro j htouch u hu
      rcases hrow htouch hu with ⟨htouch, hu⟩ | hu
      · exact hst j htouch u hu
      · exact hu.1
  | missing => exact hrows hst
  | clashed =>
      obtain ⟨hall, j, a, ha, he⟩ := hst
      exact ⟨hrows hall, j, a, hkeeps ha, he⟩
  | bound j u p =>
      obtain ⟨a, ha⟩ := hst
      exact ⟨a, hkeeps ha⟩
  | refused => exact hst
  | failed => exact hst

variable [DecidableEq ι]

theorem Copied.grows (h : Copied (copies logins s stages) (logins i) s s' st) :
    Grows (logins i) (copies logins s stages) (copies logins s' (Function.update stages i st)) where
  user := by
    rintro k u (⟨a, ha, rfl⟩ | ⟨i', u₀, p, hi', hu⟩)
    · exact .inl (h.stored ha).1
    · by_cases hi : i' = i
      · subst hi
        rw [Function.update_self] at hi'
        obtain ⟨htouch, hu₀, -⟩ := h.memory hi'
        rcases hu with rfl | rfl
        · exact .inl hu₀
        · exact .inr ⟨htouch, rfl⟩
      · rw [Function.update_of_ne hi] at hi'
        exact .inl (.inr ⟨i', u₀, p, hi', hu⟩)
  sso_id := by
    rintro k n (⟨a, ha, rfl⟩ | ⟨i', u₀, p, hi', hn⟩)
    · exact .inl (h.stored ha).2
    · by_cases hi : i' = i
      · subst hi
        rw [Function.update_self] at hi'
        obtain ⟨htouch, -, hprofile⟩ := h.memory hi'
        rcases hn with ⟨profile, hp, rfl⟩ | rfl
        · exact .inl (hprofile hp)
        · exact .inr ⟨htouch, rfl⟩
      · rw [Function.update_of_ne hi] at hi'
        exact .inl (.inr ⟨i', u₀, p, hi', hn⟩)

theorem Copied.stands (ht : Tidy logins s₀) (hinv : Inv logins s stages)
    (h : Copied (copies logins s stages) (logins i) s s' st) {i' : ι} {st' : Stage}
    (hst : st'.Stands (copies logins s stages) s (logins i')) :
    st'.Stands (copies logins s' (Function.update stages i st)) s' (logins i') := by
  have hgrows := h.grows
  have hrows : (∀ j, (copies logins s stages).Touches j (logins i') →
      ∀ u, (copies logins s stages).user j u →
        u.email ∈ (logins i').emails ∧ u.username = (logins i').primary_email) →
      ∀ j, (copies logins s' (Function.update stages i st)).Touches j (logins i') →
        ∀ u, (copies logins s' (Function.update stages i st)).user j u →
          u.email ∈ (logins i').emails ∧ u.username = (logins i').primary_email := by
    intro hst j htouch u hu
    have hold := hgrows.touches ht htouch
    exact ⟨hgrows.email ht hinv.apart hold (fun v hv => (hst j hold v hv).1) hu,
      hgrows.username ht hinv.apart hold (fun v hv => (hst j hold v hv).2) hu⟩
  cases st' with
  | searching => trivial
  | absent =>
      intro j htouch u hu
      have hold := hgrows.touches ht htouch
      exact hgrows.email ht hinv.apart hold (hst j hold) hu
  | missing => exact hrows hst
  | clashed =>
      obtain ⟨hall, j, a, ha, he⟩ := hst
      obtain ⟨a', ha'⟩ := h.keeps ha
      exact ⟨hrows hall, j, a', ha',
        (hall j (.inl ⟨a.user, user_of_get ha, .inl he⟩) a'.user (h.stored ha').1).1⟩
  | bound j u p =>
      obtain ⟨a, ha⟩ := hst
      exact h.keeps ha
  | refused => exact hst
  | failed => exact hst

theorem Inv.copied (ht : Tidy logins s₀) (hinv : Inv logins s stages)
    (h : Copied (copies logins s stages) (logins i) s s' st)
    (hst : st.Stands (copies logins s stages) s (logins i)) :
    Inv logins s' (Function.update stages i st) := by
  refine ⟨hinv.apart.grow ht h.grows h.ids, fun i' => ?_⟩
  by_cases hi : i' = i
  · subst hi
    rw [Function.update_self]
    exact h.stands ht hinv hst
  · rw [Function.update_of_ne hi]
    exact h.stands ht hinv (hinv.stands i')

theorem Inv.bind (ht : Tidy logins s₀) (hinv : Inv logins s stages) {a : Account}
    (ha : s.get j = some a) (htouch : (copies logins s stages).Touches j (logins i)) :
    Inv logins s (Function.update stages i (.bound j a.user none)) := by
  refine hinv.copied ht (copied_of_read ?_) ⟨a, ha⟩
  rintro j' u p hst
  cases hst
  exact ⟨htouch, user_of_get ha, fun h => nomatch h⟩

/-! ## The operations -/

theorem Inv.get_by_sso_id (ht : Tidy logins s₀) (hinv : Inv logins s stages)
    {r : Option (Nat × User)} (hr : s.by_sso_id (logins i).sso_id = r) :
    Inv logins s (Function.update stages i
      (Stage.adv .searching ⟨.get_by_sso_id (logins i).sso_id, r⟩)) := by
  cases r with
  | none =>
      refine hinv.copied ht (copied_of_read fun h => nomatch h) fun j htouch => ?_
      obtain ⟨a, ha⟩ := hinv.stored htouch
      rcases hinv.apart.found htouch with hids | hemails
      · exact absurd (hids _ (sso_id_of_get ha)) (Tables.by_sso_id_none hr ha)
      · exact hemails
  | some r =>
      obtain ⟨a, ha, hu, hn⟩ := Tables.by_sso_id_some hr
      have hbind := hinv.bind ht ha (i := i) (.inr (hn ▸ sso_id_of_get ha))
      rw [hu] at hbind
      exact hbind

theorem Inv.get_by_emails (ht : Tidy logins s₀) (hinv : Inv logins s stages)
    (hi : stages i = .absent ∨ stages i = .clashed) {r : Except Error (Nat × User)}
    (hr : s.by_emails (logins i).emails = r) :
    Inv logins s (Function.update stages i
      ((stages i).adv ⟨.get_by_emails (logins i).emails, r⟩)) := by
  have hstands := hinv.stands i
  cases r with
  | ok r =>
      obtain ⟨a, ha, hu, he⟩ := Tables.by_emails_ok hr
      have hbind := hinv.bind ht ha (i := i) (touches_of_email ha he)
      rw [hu] at hbind
      rcases hi with hi | hi
      · rw [hi]
        exact hbind
      · rw [hi]
        exact hbind
  | error e =>
      obtain rfl := hinv.not_many hr
      rcases hi with hi | hi
      · rw [hi] at hstands ⊢
        refine hinv.copied ht (copied_of_read fun h => nomatch h) fun j htouch => ?_
        obtain ⟨a, ha⟩ := hinv.stored htouch
        exact absurd (hstands j htouch a.user (user_of_get ha)) (Tables.by_emails_none hr ha)
      · rw [hi] at hstands
        obtain ⟨-, j, a, ha, he⟩ := hstands
        exact absurd he (Tables.by_emails_none hr ha)

theorem Inv.make (ht : Tidy logins s₀) (hinv : Inv logins s stages) (hi : stages i = .missing)
    {fresh : Uuid} (hnew : fresh ∉ s.sso_ids) (hfresh : ∀ i, fresh ≠ (logins i).sso_id)
    (hfree : ∀ a ∈ s.rows, a.user.username ≠ (logins i).primary_email)
    (hget : s'.get = Function.update s.get s.rows.length
      (some ⟨Tables.new_user (logins i).primary_email, ⟨fresh, []⟩, false⟩))
    (hids : s'.sso_ids = fresh :: s.sso_ids) :
    Inv logins s' (Function.update stages i (.bound s.rows.length
      (Tables.new_user (logins i).primary_email) (some ⟨fresh, []⟩))) := by
  have hnotGet : ∀ a, s.get s.rows.length ≠ some a := fun a ha =>
    Nat.lt_irrefl _ (Tables.lt_of_get ha)
  have hold : ∀ {k a}, s.get k = some a → s'.get k = some a := by
    intro k a ha
    have hk : k ≠ s.rows.length := by
      rintro rfl
      exact hnotGet a ha
    rw [hget, Function.update_of_ne hk]
    exact ha
  have hnotBound : ∀ {i u p}, stages i ≠ .bound s.rows.length u p := by
    intro i u p hbound
    have hstands := hinv.stands i
    rw [hbound] at hstands
    exact hnotGet _ hstands.choose_spec
  have hnotUser : ∀ u, ¬ (copies logins s stages).user s.rows.length u := by
    rintro u (⟨a, ha, -⟩ | ⟨i', _, _, hi', -⟩)
    · exact hnotGet a ha
    · exact hnotBound hi'
  have hnotId : ∀ n, ¬ (copies logins s stages).sso_id s.rows.length n := by
    rintro n (⟨a, ha, -⟩ | ⟨i', _, _, hi', -⟩)
    · exact hnotGet a ha
    · exact hnotBound hi'
  have hnone : ∀ k, ¬ (copies logins s stages).Touches k (logins i) := by
    intro k htouch
    obtain ⟨a, ha⟩ := hinv.stored htouch
    have hstands := hinv.stands i
    rw [hi] at hstands
    exact hfree a (Tables.mem_of_get ha) (hstands k htouch a.user (user_of_get ha)).2
  have hmakes : Makes (logins i) s.rows.length fresh (copies logins s stages)
      (copies logins s' (Function.update stages i (.bound s.rows.length
        (Tables.new_user (logins i).primary_email) (some ⟨fresh, []⟩)))) := by
    constructor
    · rintro k u (⟨a, ha, rfl⟩ | ⟨i', u₀, p, hi', hu⟩)
      · by_cases hk : k = s.rows.length
        · rw [hget, hk, Function.update_self] at ha
          cases ha
          exact .inr ⟨hk, .inl rfl⟩
        · rw [hget, Function.update_of_ne hk] at ha
          exact .inl (user_of_get ha)
      · by_cases hii : i' = i
        · subst hii
          rw [Function.update_self] at hi'
          cases hi'
          exact .inr ⟨rfl, hu⟩
        · rw [Function.update_of_ne hii] at hi'
          exact .inl (.inr ⟨i', u₀, p, hi', hu⟩)
    · rintro k n (⟨a, ha, rfl⟩ | ⟨i', u₀, p, hi', hn⟩)
      · by_cases hk : k = s.rows.length
        · rw [hget, hk, Function.update_self] at ha
          cases ha
          exact .inr ⟨hk, .inl rfl⟩
        · rw [hget, Function.update_of_ne hk] at ha
          exact .inl (sso_id_of_get ha)
      · by_cases hii : i' = i
        · subst hii
          rw [Function.update_self] at hi'
          cases hi'
          rcases hn with ⟨profile, hp, rfl⟩ | rfl
          · cases hp
            exact .inr ⟨rfl, .inl rfl⟩
          · exact .inr ⟨rfl, .inr rfl⟩
        · rw [Function.update_of_ne hii] at hi'
          exact .inl (.inr ⟨i', u₀, p, hi', hn⟩)
  refine ⟨?_, fun i' => ?_⟩
  · rw [hids]
    exact hinv.apart.make ht hmakes hfresh hnew hnone hnotUser hnotId
  · by_cases hii : i' = i
    · subst hii
      rw [Function.update_self]
      exact ⟨_, by rw [hget, Function.update_self]⟩
    · rw [Function.update_of_ne hii]
      exact hmakes.stands ht hfresh hnotUser hnotId hold (hinv.stands i')

theorem Inv.create_user (ht : Tidy logins s₀) (hinv : Inv logins s stages)
    (hi : stages i = .missing) {r : Except Error (Nat × User × Profile)}
    (hact : Acts (fun n => ∃ i, n = (logins i).sso_id)
      (.create_user (logins i).primary_email) s r s') :
    Inv logins s' (Function.update stages i
      (Stage.adv .missing ⟨.create_user (logins i).primary_email, r⟩)) := by
  have hstands := hinv.stands i
  rw [hi] at hstands
  rcases hact.create_user with ⟨fresh, hnew, hreserved, hfree, rfl, hget, hids⟩ |
    ⟨rfl, rfl, j, a, ha, hname⟩ | ⟨-, -, hfits⟩
  · exact hinv.make ht hi hnew (fun i' h => hreserved ⟨i', h⟩) hfree hget hids
  · refine hinv.copied ht (copied_of_read fun h => nomatch h) ⟨hstands, j, a, ha, ?_⟩
    exact (hstands j (.inl ⟨a.user, user_of_get ha, .inr hname⟩) a.user (user_of_get ha)).1
  · obtain ⟨hname, hemail, -, -⟩ := ht.fits i
    exact absurd ⟨hname, hemail, Nat.zero_le _, Nat.zero_le _⟩ hfits

section Bound

variable {id : Nat} {u₀ : User} {p : Option Profile}

theorem Inv.save_user (ht : Tidy logins s₀) (hinv : Inv logins s stages)
    (hi : stages i = .bound id u₀ p) {user : User} (huser : user = u₀ ∨ user = (logins i).row)
    {reserved : Uuid → Prop} {r : Except Error Unit}
    (hact : Acts reserved (.save_user id user) s r s') :
    Inv logins s' (Function.update stages i
      (Stage.adv (.bound id u₀ p) ⟨.save_user id user, r⟩)) := by
  have hcopy : (copies logins s stages).user id user := by
    rcases huser with rfl | rfl
    · exact user_of_bound hi
    · exact row_of_bound hi
  obtain ⟨a, ha⟩ := hinv.stored (touches_of_bound hi)
  rcases hact.save_user with ⟨b, hb, rfl, hget, hids⟩ | ⟨-, hnone | ⟨-, j, b, hj, hb, hname⟩ | ⟨-, hfits⟩⟩
  · have hself : s'.get id = some { b with user := user } := by rw [hget, Function.update_self]
    refine hinv.copied ht ⟨?_, ?_, ?_, ?_⟩ (show ∃ a, s.get id = some a from ⟨a, ha⟩)
    · intro j c hc
      by_cases hj : j = id
      · exact ⟨_, hj ▸ hself⟩
      · exact ⟨c, by rw [hget, Function.update_of_ne hj, hc]⟩
    · rw [hids]
      exact fun _ h => h
    · intro j c hc
      by_cases hj : j = id
      · subst hj
        rw [hself] at hc
        cases hc
        exact ⟨hcopy, (sso_id_of_get hb :)⟩
      · rw [hget, Function.update_of_ne hj] at hc
        exact ⟨user_of_get hc, sso_id_of_get hc⟩
    · rintro j v q hst
      cases hst
      refine ⟨touches_of_bound hi, hcopy, ?_⟩
      rintro profile rfl
      exact sso_id_of_bound hi
  · rw [hnone] at ha
    cases ha
  · exact absurd (hinv.apart.usernames (user_of_get hb) hcopy hname) hj
  · exact absurd (hinv.apart.fits hcopy) hfits

theorem Inv.save_profile (ht : Tidy logins s₀) (hinv : Inv logins s stages) {profile₀ : Profile}
    (hi : stages i = .bound id u₀ (some profile₀)) {profile : Profile}
    (hprofile : profile = profile₀ ∨ profile = (logins i).claimed profile₀)
    {reserved : Uuid → Prop} {r : Except Error Unit}
    (hact : Acts reserved (.save_profile id profile) s r s') :
    Inv logins s' (Function.update stages i
      (Stage.adv (.bound id u₀ (some profile₀)) ⟨.save_profile id profile, r⟩)) := by
  have hcopy : (copies logins s stages).sso_id id profile.sso_id := by
    rcases hprofile with rfl | rfl
    · exact sso_id_of_bound hi
    · exact claimed_of_bound hi
  obtain ⟨a, ha⟩ := hinv.stored (touches_of_bound hi)
  rcases hact.save_profile with ⟨b, hb, rfl, hget, hids⟩ | ⟨-, hnone | ⟨-, j, b, hj, hb, hid⟩⟩
  · have hself : s'.get id = some { b with profile := profile } := by
      rw [hget, Function.update_self]
    refine hinv.copied ht ⟨?_, ?_, ?_, ?_⟩ (show ∃ a, s.get id = some a from ⟨a, ha⟩)
    · intro j c hc
      by_cases hj : j = id
      · exact ⟨_, hj ▸ hself⟩
      · exact ⟨c, by rw [hget, Function.update_of_ne hj, hc]⟩
    · rw [hids]
      exact List.subset_cons_self ..
    · intro j c hc
      by_cases hj : j = id
      · subst hj
        rw [hself] at hc
        cases hc
        exact ⟨(user_of_get hb :), hcopy⟩
      · rw [hget, Function.update_of_ne hj] at hc
        exact ⟨user_of_get hc, sso_id_of_get hc⟩
    · rintro j v q hst
      cases hst
      refine ⟨touches_of_bound hi, user_of_bound hi, ?_⟩
      rintro profile' hp
      cases hp
      exact hcopy
  · rw [hnone] at ha
    cases ha
  · exact absurd (hinv.apart.sso_ids (sso_id_of_get hb) (hid ▸ hcopy)) hj

theorem Inv.get_profile (ht : Tidy logins s₀) (hinv : Inv logins s stages)
    (hi : stages i = .bound id u₀ none) :
    Inv logins s (Function.update stages i
      (Stage.adv (.bound id u₀ none) ⟨.get_profile id, (s.get id).map (·.profile)⟩)) := by
  obtain ⟨a, ha⟩ := hinv.stored (touches_of_bound hi)
  rw [ha]
  refine hinv.copied ht (copied_of_read ?_) (show ∃ a, s.get id = some a from ⟨a, ha⟩)
  rintro j u p hst
  cases hst
  refine ⟨touches_of_bound hi, user_of_bound hi, ?_⟩
  rintro profile hp
  cases hp
  exact sso_id_of_get ha

end Bound

theorem Inv.step (ht : Tidy logins s₀) (hinv : Inv logins s stages) {o : Op} {r : Ans o}
    (hperforms : (stages i).Performs (logins i) o)
    (hact : Acts (fun n => ∃ i, n = (logins i).sso_id) o s r s') :
    Inv logins s' (Function.update stages i ((stages i).adv ⟨o, r⟩)) := by
  have hsame : ∀ {st}, stages i = st → Inv logins s (Function.update stages i st) := by
    intro st hi
    exact hinv.copied ht (copied_same hi) (hi ▸ hinv.stands i)
  cases o with
  | get_by_sso_id n =>
      obtain ⟨rfl, hr⟩ := hact.get_by_sso_id
      obtain ⟨rfl, hi | hi⟩ := hperforms
      · rw [hi]
        exact hinv.get_by_sso_id ht hr
      · have hstands := hinv.stands i
        rw [hi] at hstands
        exact hstands.elim
  | get_by_emails emails =>
      obtain ⟨rfl, hr⟩ := hact.get_by_emails
      obtain ⟨rfl, hi⟩ := hperforms
      exact hinv.get_by_emails ht hi hr
  | create_user email =>
      obtain ⟨rfl, hi⟩ := hperforms
      rw [hi]
      exact hinv.create_user ht hi hact
  | save_user id user =>
      obtain ⟨u₀, p, hi, huser⟩ := hperforms
      rw [hi]
      exact hinv.save_user ht hi huser hact
  | get_profile id =>
      obtain ⟨rfl, rfl⟩ := hact.get_profile
      obtain ⟨u₀, hi⟩ := hperforms
      rw [hi]
      exact hinv.get_profile ht hi
  | save_profile id profile =>
      obtain ⟨u₀, profile₀, hi, hprofile⟩ := hperforms
      rw [hi]
      exact hinv.save_profile ht hi hprofile hact
  | may_start_all id =>
      obtain rfl := hact.may_start_all
      obtain ⟨u₀, p, hi⟩ := hperforms
      rw [hi]
      exact hsame hi
  | create_role_later id =>
      obtain rfl := hact.create_role_later
      obtain ⟨u₀, p, hi⟩ := hperforms
      rw [hi]
      exact hsame hi

end Invariant

/-! ## Runs -/

section Runs

variable {ι : Type} [DecidableEq ι] {logins : ι → Login} {s₀ : Tables} {c : LoginConfig ι}

theorem Tidy.inv_of_run (ht : Tidy logins s₀) (h : (logging_in logins).Run Always s₀ c) :
    Inv logins c.store (stage c) := by
  refine h.invariant (I := fun c => Inv logins c.store (stage c)) ht.inv ?_
  intro c i o k a s hrun hi _ hact hinv
  have hstage : stage (c.go i ⟨o, a⟩ (k a) s) =
      Function.update (stage c) i ((stage c i).adv ⟨o, a⟩) := by
    funext j
    by_cases hj : j = i
    · subst hj
      rw [Function.update_self]
      exact Config.summary_go_self ..
    · rw [Function.update_of_ne hj]
      exact Config.summary_go_of_ne _ _ hj
  rw [hstage]
  exact hinv.step ht (performs_of_run hrun hi) hact

theorem Tidy.not_raised (ht : Tidy logins s₀) (h : (logging_in logins).Run Always s₀ c) (i : ι)
    (e : Error) : c.tasks i ≠ .raise e := by
  intro hi
  have hstands := (ht.inv_of_run h).stands i
  have hend : stage c i = .refused ∨ stage c i = .failed :=
    h.post (r := .error e) hi wp_create_user_from_sso
  rcases hend with hs | hs
  · rw [hs] at hstands
    exact hstands
  · rw [hs] at hstands
    exact hstands

theorem Tidy.one_user (ht : Tidy logins s₀) (h : (logging_in logins).Run Always s₀ c) {i j : ι}
    {u v : Instance} (hid : (logins i).sso_id = (logins j).sso_id) (hi : c.tasks i = .pure u)
    (hj : c.tasks j = .pure v) : u.id = v.id := by
  have hu : stage c i = u.stage := h.post (r := .ok u) hi wp_create_user_from_sso
  have hv : stage c j = v.stage := h.post (r := .ok v) hj wp_create_user_from_sso
  exact (ht.inv_of_run h).apart.one (touches_of_bound hu)
    ((touches_of_bound hv).congr ht hid.symm)

variable (logins s₀)

end Runs

/-! ### Two logins -/

section Examples

/-- Two logins with one id. -/
def twice : Bool → Login := fun _ => plainLogin 1 "ada@example.org"

theorem tidy_twice : Tidy twice noUsers where
  primary_email _ := rfl
  emails _ _ h := h
  own_emails _ _ := rfl
  fits i := by cases i <;> decide
  one h := nomatch h
  group h := nomatch h
  found h := nomatch h

/-- Both logins find nobody, and then one is overtaken by the other. -/
def overtaken : LoginConfig Bool :=
  ((logging_in twice).start noUsers).play answer Always
    ([true, false, true, false, true] ++ List.replicate 20 false ++ List.replicate 20 true)

theorem run_overtaken : (logging_in twice).Run Always noUsers overtaken :=
  Shared.run_play (acts_of_answer fun i => by cases i <;> decide) _ _

/-- Two logins with one email. -/
def sharedEmail : Bool → Login
  | true => plainLogin 1 "ada@example.org"
  | false => plainLogin 2 "ada@example.org"

def firstOver : LoginConfig Bool :=
  ((logging_in sharedEmail).start noUsers).play answer Always (List.replicate 20 true)

def bothOver : LoginConfig Bool := firstOver.play answer Always (List.replicate 20 false)

end Examples

end Accounts
