import DataWorkspace.Core.CallProgress
import DataWorkspace.Core.Privileges

/-!
# Two calls at a time

Two calls of `new_private_database_credentials` for one permanent role run at a time.
Each reads the table privileges of the role before it takes the lock, so it may act on
what the other has changed in the meantime.

When no call reads while the other is between its reading and the end of its section,
the last one to read decides (`one_call_decides`).  `Windows` is the invariant behind
it.  Otherwise the role may end with the privileges of both lists (`two_lists_mixed`).
-/

namespace Core

open Py Datasets Sql Async

/-! ## The system -/

/-- What an operation does while other programs run.  The lock is given when it is free,
and a call may give up waiting for it.  A password may be any text. -/
inductive Acts (settings : Settings) : (o : Op) → World → Ans o → World → Prop where
  | locked {w : World} (timeout : Nat) : w.locked = false →
      Acts settings (.acquire timeout) w (some ()) { w with locked := true }
  | timed_out {w : World} (timeout : Nat) : Acts settings (.acquire timeout) w none w
  | password {w : World} (password : Str) : Acts settings .postgres_password w password w
  | other {w : World} {o : Op} : (∀ timeout, o ≠ .acquire timeout) →
      Acts settings o w (exec settings o w).1 (exec settings o w).2

/-- What an operation does when the lock is waited for, `none` while it has to wait. -/
def waiting (settings : Settings) : (o : Op) → World → Option (Ans o × World)
  | .acquire _, w => if w.locked then none else some (some (), { w with locked := true })
  | o, w => some (exec settings o w)

theorem acts_of_waiting {settings : Settings} (o : Op) (w : World) (a : Ans o) (w' : World)
    (h : waiting settings o w = some (a, w')) : Acts settings o w a w' := by
  cases o with
  | acquire timeout =>
      rw [waiting] at h
      split at h
      next => cases h
      next hl =>
        cases h
        exact .locked timeout (by simpa using hl)
  | _ =>
      obtain rfl : (exec settings _ w).1 = a := congrArg Prod.fst (Option.some.inj h)
      obtain rfl : (exec settings _ w).2 = w' := congrArg Prod.snd (Option.some.inj h)
      refine .other ?_
      rintro _ ⟨⟩

/-- Two calls for one permanent role. -/
def twoCalls (settings : Settings) (suffix : Str) (calls : Bool → Call) :
    Shared Ans Exc (List Credentials) Bool World where
  prog i := (calls i).prog settings suffix
  act _ := Acts settings

/-! ## What a step does to the privileges -/

/-- The role has a privilege on the table. -/
def Granted (role : Str) (c : Cluster) (t : Str × Str) : Prop := ∃ p, c.HasTable role t p

/-- The query for the table privileges looks at the table. -/
def SeenTable (role : Str) (t : Str × Str) : Prop := skippedTableSchema role t.1 = false

/-- The role has privileges on the same tables. -/
structure SameGrants (role : Str) (c c' : Cluster) : Prop where
  relations : c'.relations = c.relations
  granted : ∀ t, Granted role c' t ↔ Granted role c t

/-- What a step of a call may do in the database. -/
inductive Move (role : Str) (db : Database) (tables : List (Str × Str)) (o : Op) (c c' : Cluster)
    (p : Progress) : Progress → Prop where
  | idle : SameGrants role c c' → Move role db tables o c c' p p
  | finds {existing : List (Str × Str)} : SameGrants role c c' → p.snapshot = none →
      (∀ t, t ∈ existing ↔ Allowed c tables t) →
      Move role db tables o c c' p { p with existing := some existing }
  | reads {snapshot : List (Str × Str)} : o = .query db (.tables_with_existing_privs role role) →
      SameGrants role c c' → p.existing.isSome = true → p.snapshot = none →
      (∀ t, t ∈ snapshot ↔ SeenTable role t ∧ Granted role c t) →
      Move role db tables o c c' p { p with snapshot := some snapshot }
  | writes {revoked granted : List (Str × Str)} : c'.relations = c.relations →
      (∀ t ∈ revoked, p.Open ∧ p.Revokes tables t) → (∀ t ∈ granted, p.Open ∧ p.Grants tables t) →
      (∀ t, Granted role c' t ↔ (Granted role c t ∧ t ∉ revoked) ∨ t ∈ granted) →
      Move role db tables o c c' p
        { p with revoked := p.revoked ++ revoked, granted := p.granted ++ granted }
  | closes : SameGrants role c c' → p.snapshot.isSome = true →
      Move role db tables o c c' p { p with closed := true }

section Moves

variable {settings : Settings} {role : Str} {db : Database} {tables : List (Str × Str)}
  {c c' : Cluster}

theorem SameGrants.refl (role : Str) (c : Cluster) : SameGrants role c c := ⟨rfl, fun _ => Iff.rfl⟩

theorem Unchanged.sameGrants (h : Unchanged role c c') : SameGrants role c c' :=
  ⟨h.relations, fun t => exists_congr fun p => h.table t p⟩

theorem granted_of_exec {st : Statement} (h : st.exec c = some c') (t : Str × Str) :
    Granted role c' t ↔ (Granted role c t ∧ t ∉ (st.effect role).revokedTables) ∨
      t ∈ (st.effect role).selectedTables := by
  simp only [Granted, Statement.exec_hasTable h]
  constructor
  · rintro ⟨p, ⟨hp, ht⟩ | ⟨-, ht⟩⟩
    · exact .inl ⟨⟨p, hp⟩, ht⟩
    · exact .inr ht
  · rintro (⟨⟨p, hp⟩, ht⟩ | ht)
    · exact ⟨p, .inl ⟨hp, ht⟩⟩
    · exact ⟨.SELECT, .inr ⟨rfl, ht⟩⟩

theorem setCluster_other {db' : Database} (h : db' ≠ db) (w : World) (c : Cluster) :
    (w.setCluster db' c).clusters db = w.clusters db := by
  simp [World.setCluster, Function.update_of_ne (Ne.symm h)]

theorem move_of_acts {o : Op} {a : Ans o} {w w' : World} {p : Progress}
    (hpre : Progress.Planned role db tables o p) (h : Acts settings o w a w') :
    Move role db tables o (w.clusters db) (w'.clusters db) p (p.after role db ⟨o, a⟩) := by
  cases h with
  | locked timeout => exact .idle (.refl _ _)
  | timed_out timeout => exact .idle (.refl _ _)
  | password password => exact .idle (.refl _ _)
  | other hne =>
      cases o with
      | acquire timeout => exact absurd rfl (hne timeout)
      | team_schema_names dw_user => exact .idle (.refl _ _)
      | postgres_password => exact .idle (.refl _ _)
      | create_database_user owner username => exact .idle (.refl _ _)
      | release =>
          rw [Progress.after]
          split
          next hs => exact .closes (.refl _ _) hs
          next => exact .idle (.refl _ _)
      | ensure_db_role db' r =>
          refine .idle ?_
          by_cases hdb : db' = db
          · subst hdb
            simpa [exec] using (unchanged_ensureRole role r (w.clusters db')).sameGrants
          · rw [exec, setCluster_other hdb]
            exact .refl _ _
      | query db' q =>
          by_cases hdb : db' = db
          · subst hdb
            cases q with
            | tables_and_views_that_exist ts =>
                obtain ⟨rfl, hsn⟩ := hpre rfl
                rw [Progress.after, if_pos rfl]
                exact .finds (.refl _ _) hsn fun t => mem_tables_and_views_that_exist
            | tables_with_existing_privs r s =>
                obtain ⟨rfl, rfl, hex, hsn⟩ := hpre rfl
                rw [Progress.after, if_pos rfl]
                exact .reads rfl (.refl _ _) hex hsn fun t => mem_tables_with_existing_privs
            | missing_db_roles => exact .idle (.refl _ _)
            | schemas_with_existing_privs r s => exact .idle (.refl _ _)
            | db_team_roles_previously_granted r => exact .idle (.refl _ _)
          · have hafter : ∀ a, p.after role db ⟨.query db' q, a⟩ = p := by
              intro a
              cases q <;> simp [Progress.after, hdb]
            rw [hafter]
            exact .idle (.refl _ _)
      | execute db' st =>
          rw [exec]
          cases hst : st.exec (w.clusters db') with
          | none => exact .idle (.refl _ _)
          | some c' =>
              by_cases hdb : db' = db
              · subst hdb
                obtain ⟨hr, hs⟩ := hpre rfl
                simp only [Progress.after, if_true, World.setCluster_self]
                exact .writes (Statement.exec_relations hst) hr hs (granted_of_exec hst)
              · simp only [Progress.after, if_neg hdb, setCluster_other hdb]
                exact .idle (.refl _ _)

end Moves

/-! ## Windows

The last call to read decides.  A call that has done all it planned on a table has left
there what it was asked for, unless another call has read since. -/

section Windows

variable {role : Str} {db : Database} {tables : Bool → List (Str × Str)} {c₀ c c' : Cluster}
  {pr pr' : Bool → Progress} {last : Option Bool}

/-- Both calls are asked for the same tables that exist. -/
def Agree (c₀ : Cluster) (tables : Bool → List (Str × Str)) : Prop :=
  ∀ i j t, Allowed c₀ (tables i) t ↔ Allowed c₀ (tables j) t

/-- The call has read, and has done all it planned on the table. -/
structure Settled (tables : List (Str × Str)) (p : Progress) (t : Str × Str) : Prop where
  read : p.snapshot.isSome = true
  revoked : p.Revokes tables t → t ∈ p.revoked
  granted : p.Grants tables t → t ∈ p.granted

/-- What both calls have done since the privileges were those of `c₀`, when `last` was
the last to read. -/
structure Windows (role : Str) (tables : Bool → List (Str × Str)) (c₀ : Cluster)
    (pr : Bool → Progress) (c : Cluster) (last : Option Bool) : Prop where
  relations : c.relations = c₀.relations
  existing : ∀ i existing, (pr i).existing = some existing →
    ∀ t, t ∈ existing ↔ Allowed c₀ (tables i) t
  seen : ∀ i snapshot, (pr i).snapshot = some snapshot → ∀ t ∈ snapshot, SeenTable role t
  fresh : ∀ i, (pr i).snapshot = none → (pr i).revoked = [] ∧ (pr i).granted = []
  known : ∀ i, (pr i).snapshot.isSome = true → (pr i).existing.isSome = true ∧ last.isSome = true
  read : ∀ i, last = some i → (pr i).snapshot.isSome = true
  one : ∀ i, (pr i).Open → last = some i ∨ Agree c₀ tables
  settled : ∀ i t, SeenTable role t → last = some i ∨ Agree c₀ tables →
    Settled (tables i) (pr i) t → (Granted role c t ↔ Allowed c₀ (tables i) t)
  unseen : ∀ t, ¬ SeenTable role t →
    (Granted role c t ↔ Granted role c₀ t ∨ ∃ i, t ∈ (pr i).granted)
  granted : ∀ i t, t ∈ (pr i).granted → Allowed c₀ (tables i) t

theorem Windows.start : Windows role tables c₀ (fun _ => {}) c₀ none where
  relations := rfl
  existing _ _ h := nomatch h
  seen _ _ h := nomatch h
  fresh _ _ := ⟨rfl, rfl⟩
  known _ h := nomatch h
  read _ h := nomatch h
  one _ h := nomatch h.1
  settled _ _ _ _ h := nomatch h.read
  unseen t _ := by simp
  granted _ _ h := nomatch h

theorem each {P : Bool → Progress → Prop} {i : Bool} (hj : ∀ j, j ≠ i → pr' j = pr j)
    (hi : P i (pr' i)) (h : ∀ j, P j (pr j)) (j : Bool) : P j (pr' j) := by
  by_cases hji : j = i
  · rw [hji]
    exact hi
  · rw [hj j hji]
    exact h j

namespace Windows

variable (h : Windows role tables c₀ pr c last)

include h

theorem mem_allowed {i : Bool} {existing : List (Str × Str)}
    (hex : (pr i).existing = some existing) (t : Str × Str) :
    t ∈ (tables i).filter (· ∈ existing) ↔ Allowed c₀ (tables i) t := by
  rw [List.mem_filter, decide_eq_true_eq, h.existing i existing hex]
  exact ⟨And.right, fun ht => ⟨ht.1, ht⟩⟩

theorem revokes_iff {i : Bool} {t : Str × Str} {snapshot : List (Str × Str)}
    (hs : (pr i).snapshot = some snapshot) :
    (pr i).Revokes (tables i) t ↔ t ∈ snapshot ∧ ¬ Allowed c₀ (tables i) t := by
  constructor
  · rintro ⟨existing, sn, hex, hs', ht⟩
    obtain rfl : snapshot = sn := Option.some.inj (hs.symm.trans hs')
    rw [List.mem_filter, decide_eq_true_eq, h.mem_allowed hex] at ht
    exact ht
  · intro ht
    obtain ⟨existing, hex⟩ := Option.isSome_iff_exists.mp (h.known i (by rw [hs]; rfl)).1
    refine ⟨existing, snapshot, hex, hs, ?_⟩
    rw [List.mem_filter, decide_eq_true_eq, h.mem_allowed hex]
    exact ht

theorem grants_iff {i : Bool} {t : Str × Str} {snapshot : List (Str × Str)}
    (hs : (pr i).snapshot = some snapshot) :
    (pr i).Grants (tables i) t ↔ Allowed c₀ (tables i) t ∧ t ∉ snapshot := by
  constructor
  · rintro ⟨existing, sn, hex, hs', ht⟩
    obtain rfl : snapshot = sn := Option.some.inj (hs.symm.trans hs')
    rw [List.mem_filter, decide_eq_true_eq, h.mem_allowed hex] at ht
    exact ht
  · intro ht
    obtain ⟨existing, hex⟩ := Option.isSome_iff_exists.mp (h.known i (by rw [hs]; rfl)).1
    refine ⟨existing, snapshot, hex, hs, ?_⟩
    rw [List.mem_filter, decide_eq_true_eq, h.mem_allowed hex]
    exact ht

theorem idle (hg : SameGrants role c c') : Windows role tables c₀ pr c' last :=
  { h with
    relations := hg.relations.trans h.relations
    settled := fun i t hs hl hset => (hg.granted t).trans (h.settled i t hs hl hset)
    unseen := fun t hs => (hg.granted t).trans (h.unseen t hs) }

/-- Neither the tables that exist, found before the reading, nor the end of the section
changes what is planned. -/
theorem steady {i : Bool} (hj : ∀ j, j ≠ i → pr' j = pr j)
    (hsn : (pr' i).snapshot = (pr i).snapshot) (hr : (pr' i).revoked = (pr i).revoked)
    (hgr : (pr' i).granted = (pr i).granted)
    (hex : ∀ existing, (pr' i).existing = some existing →
      ∀ t, t ∈ existing ↔ Allowed c₀ (tables i) t)
    (hknown : (pr i).snapshot.isSome = true → (pr' i).existing = (pr i).existing)
    (hopen : (pr' i).Open → (pr i).Open) : Windows role tables c₀ pr' c last where
  relations := h.relations
  existing := each (P := fun j p => ∀ existing, p.existing = some existing → ∀ t, t ∈ existing ↔
    Allowed c₀ (tables j) t) hj hex h.existing
  seen := each (P := fun _ p => ∀ snapshot, p.snapshot = some snapshot →
    ∀ t ∈ snapshot, SeenTable role t) hj (by rw [hsn]; exact h.seen i) h.seen
  fresh := each (P := fun _ p => p.snapshot = none → p.revoked = [] ∧ p.granted = []) hj
    (by rw [hsn, hr, hgr]; exact h.fresh i) h.fresh
  known := each (P := fun _ p => p.snapshot.isSome = true → p.existing.isSome = true ∧ _) hj
    (by rw [hsn]; exact fun hs => (hknown hs) ▸ h.known i hs) h.known
  read := each (P := fun j p => last = some j → p.snapshot.isSome = true) hj
    (hsn ▸ h.read i) h.read
  one := each (P := fun j p => p.Open → last = some j ∨ _) hj (fun ho => h.one i (hopen ho)) h.one
  settled := by
    refine each (P := fun j p => ∀ t, SeenTable role t → last = some j ∨ Agree c₀ tables →
      Settled (tables j) p t → (Granted role c t ↔ Allowed c₀ (tables j) t)) hj ?_ h.settled
    intro t hseen hl hset
    have hs : (pr i).snapshot.isSome = true := hsn ▸ hset.read
    refine h.settled i t hseen hl ⟨hs, fun hrev => ?_, fun hgra => ?_⟩
    · rw [← hr]
      exact hset.revoked (by simpa only [Progress.Revokes, hknown hs, hsn] using hrev)
    · rw [← hgr]
      exact hset.granted (by simpa only [Progress.Grants, hknown hs, hsn] using hgra)
  unseen t hun := by
    rw [h.unseen t hun]
    refine or_congr_right (exists_congr fun j => ?_)
    exact each (P := fun j p => t ∈ (pr j).granted ↔ t ∈ p.granted) hj (by rw [hgr])
      (fun _ => Iff.rfl) j
  granted := each (P := fun j p => ∀ t, t ∈ p.granted → Allowed c₀ (tables j) t) hj
    (hgr ▸ h.granted i) h.granted

theorem reads {i : Bool} {snapshot : List (Str × Str)} (hj : ∀ j, j ≠ i → pr' j = pr j)
    (hi : pr' i = { pr i with snapshot := some snapshot })
    (hother : Agree c₀ tables ∨ ∀ j, j ≠ i → ¬ (pr j).Open)
    (hex : (pr i).existing.isSome = true) (hsn : (pr i).snapshot = none)
    (hmem : ∀ t, t ∈ snapshot ↔ SeenTable role t ∧ Granted role c t) :
    Windows role tables c₀ pr' c (some i) := by
  have hfresh := h.fresh i hsn
  refine
    { relations := h.relations
      existing := each (P := fun j p => ∀ existing, p.existing = some existing → ∀ t, t ∈ existing ↔
        Allowed c₀ (tables j) t) hj (by rw [hi]; exact h.existing i) h.existing
      seen := each (P := fun _ p => ∀ snapshot, p.snapshot = some snapshot →
        ∀ t ∈ snapshot, SeenTable role t) hj ?_ h.seen
      fresh := each (P := fun _ p => p.snapshot = none → p.revoked = [] ∧ p.granted = []) hj
        (by rw [hi]; exact fun _ => hfresh) h.fresh
      known := each (P := fun _ p => p.snapshot.isSome = true → p.existing.isSome = true ∧
        (some i).isSome = true) hj (by rw [hi]; exact fun _ => ⟨hex, rfl⟩)
        fun j hs => ⟨(h.known j hs).1, rfl⟩
      read := ?_
      one := ?_
      settled := ?_
      unseen := ?_
      granted := each (P := fun j p => ∀ t, t ∈ p.granted → Allowed c₀ (tables j) t) hj
        (by rw [hi]; exact h.granted i) h.granted }
  · rw [hi]
    rintro _ ⟨⟩ t ht
    exact ((hmem t).mp ht).1
  · rintro j ⟨⟩
    rw [hi]
    rfl
  · intro j ho
    by_cases hji : j = i
    · exact .inl (congrArg some hji.symm)
    · rw [hj j hji] at ho
      exact .inr (hother.resolve_right fun hno => hno j hji ho)
  · intro j t hseen hl hset
    by_cases hji : j = i
    · -- nothing is done yet, so what is settled was as it should be when it was read
      subst hji
      obtain ⟨existing, hex'⟩ := Option.isSome_iff_exists.mp hex
      have hallowed := h.mem_allowed hex' t
      have hrev : ¬ (pr' j).Revokes (tables j) t := fun hx => by
        have hr := hset.revoked hx
        rw [hi, hfresh.1] at hr
        cases hr
      have hgra : ¬ (pr' j).Grants (tables j) t := fun hx => by
        have hg := hset.granted hx
        rw [hi, hfresh.2] at hg
        cases hg
      have hgranted : Granted role c t ↔ t ∈ snapshot := by simp [hmem, hseen]
      rw [hgranted]
      constructor
      · intro ht
        by_contra hno
        refine hrev ⟨existing, snapshot, by rw [hi]; exact hex', by rw [hi], ?_⟩
        rw [List.mem_filter, decide_eq_true_eq, hallowed]
        exact ⟨ht, hno⟩
      · intro ht
        by_contra hno
        refine hgra ⟨existing, snapshot, by rw [hi]; exact hex', by rw [hi], ?_⟩
        rw [List.mem_filter, decide_eq_true_eq, hallowed]
        exact ⟨ht, hno⟩
    · rw [hj j hji] at hset
      have hne : ¬ some i = some j := fun he => hji (Option.some.inj he).symm
      exact h.settled j t hseen (.inr (hl.resolve_left hne)) hset
  · intro t hun
    rw [h.unseen t hun]
    refine or_congr_right (exists_congr fun j => ?_)
    exact each (P := fun j p => t ∈ (pr j).granted ↔ t ∈ p.granted) hj (by rw [hi])
      (fun _ => Iff.rfl) j

/-- What a call writes between its reading and the end of its section is what it was
asked for, and the other call was asked for the same or has not read since. -/
theorem writes {i : Bool} {revoked granted : List (Str × Str)} (hj : ∀ j, j ≠ i → pr' j = pr j)
    (hi : pr' i = { pr i with
      revoked := (pr i).revoked ++ revoked
      granted := (pr i).granted ++ granted })
    (hrel : c'.relations = c.relations)
    (hr : ∀ t ∈ revoked, (pr i).Open ∧ (pr i).Revokes (tables i) t)
    (hg : ∀ t ∈ granted, (pr i).Open ∧ (pr i).Grants (tables i) t)
    (hgrants : ∀ t, Granted role c' t ↔ (Granted role c t ∧ t ∉ revoked) ∨ t ∈ granted) :
    Windows role tables c₀ pr' c' last := by
  have hrevoked {t : Str × Str} (ht : t ∈ revoked) :
      (pr i).Open ∧ SeenTable role t ∧ ¬ Allowed c₀ (tables i) t := by
    obtain ⟨ho, hrev⟩ := hr t ht
    obtain ⟨snapshot, hs⟩ := Option.isSome_iff_exists.mp ho.1
    obtain ⟨hmem, hno⟩ := (h.revokes_iff hs).mp hrev
    exact ⟨ho, h.seen i snapshot hs t hmem, hno⟩
  have hgranted {t : Str × Str} (ht : t ∈ granted) :
      (pr i).Open ∧ Allowed c₀ (tables i) t := by
    obtain ⟨ho, hgra⟩ := hg t ht
    obtain ⟨snapshot, hs⟩ := Option.isSome_iff_exists.mp ho.1
    exact ⟨ho, ((h.grants_iff hs).mp hgra).1⟩
  have hsame : (pr' i).snapshot = (pr i).snapshot ∧ (pr' i).existing = (pr i).existing ∧
      (pr' i).closed = (pr i).closed := by rw [hi]; exact ⟨rfl, rfl, rfl⟩
  refine
    { relations := hrel.trans h.relations
      existing := each (P := fun j p => ∀ existing, p.existing = some existing → ∀ t, t ∈ existing ↔
        Allowed c₀ (tables j) t) hj (by rw [hsame.2.1]; exact h.existing i) h.existing
      seen := each (P := fun _ p => ∀ snapshot, p.snapshot = some snapshot →
        ∀ t ∈ snapshot, SeenTable role t) hj (by rw [hsame.1]; exact h.seen i) h.seen
      fresh := each (P := fun _ p => p.snapshot = none → p.revoked = [] ∧ p.granted = []) hj ?_
        h.fresh
      known := each (P := fun _ p => p.snapshot.isSome = true → p.existing.isSome = true ∧
        last.isSome = true) hj (by rw [hsame.1, hsame.2.1]; exact h.known i) h.known
      read := each (P := fun j p => last = some j → p.snapshot.isSome = true) hj
        (by rw [hsame.1]; exact h.read i) h.read
      one := each (P := fun j p => p.Open → last = some j ∨ Agree c₀ tables) hj
        (by rw [Progress.Open, hsame.1, hsame.2.2]; exact h.one i) h.one
      settled := ?_
      unseen := ?_
      granted := each (P := fun j p => ∀ t, t ∈ p.granted → Allowed c₀ (tables j) t) hj ?_
        h.granted }
  · rw [hsame.1]
    intro hs
    have hclosed : ¬ (pr i).Open := fun ho => by rw [Progress.Open, hs] at ho; cases ho.1
    have hr' : revoked = [] := List.eq_nil_iff_forall_not_mem.mpr fun t ht => hclosed (hr t ht).1
    have hg' : granted = [] := List.eq_nil_iff_forall_not_mem.mpr fun t ht => hclosed (hg t ht).1
    rw [hi, hr', hg']
    simpa using h.fresh i hs
  · intro j t hseen hl hset
    have hmine {wanted : Prop} (ho : (pr i).Open) (hw : Allowed c₀ (tables i) t ↔ wanted) :
        Allowed c₀ (tables j) t ↔ wanted := by
      by_cases hji : j = i
      · rw [hji]
        exact hw
      · have hagree : Agree c₀ tables := by
          rcases hl with hl | hl
          · refine (h.one i ho).resolve_left fun hi => hji ?_
            exact Option.some.inj (hl.symm.trans hi)
          · exact hl
        exact (hagree j i t).trans hw
    rw [hgrants]
    by_cases hgt : t ∈ granted
    · obtain ⟨ho, hw⟩ := hgranted hgt
      rw [hmine ho (iff_true_intro hw)]
      simp [hgt]
    · by_cases hrt : t ∈ revoked
      · obtain ⟨ho, -, hw⟩ := hrevoked hrt
        rw [hmine ho (iff_false_intro hw)]
        simp [hgt, hrt]
      · have hold : Settled (tables j) (pr j) t := by
          by_cases hji : j = i
          · subst hji
            refine ⟨hsame.1 ▸ hset.read, fun hx => ?_, fun hx => ?_⟩
            · have hmem := hset.revoked (by simpa only [Progress.Revokes, hsame.1, hsame.2.1] using hx)
              rw [hi] at hmem
              exact (List.mem_append.mp hmem).resolve_right hrt
            · have hmem := hset.granted (by simpa only [Progress.Grants, hsame.1, hsame.2.1] using hx)
              rw [hi] at hmem
              exact (List.mem_append.mp hmem).resolve_right hgt
          · rw [hj j hji] at hset
            exact hset
        rw [← h.settled j t hseen hl hold]
        simp [hgt, hrt]
  · intro t hun
    have hrt : t ∉ revoked := fun ht => hun (hrevoked ht).2.1
    rw [hgrants, h.unseen t hun]
    constructor
    · rintro (⟨hc | ⟨j, hjt⟩, -⟩ | hgt)
      · exact .inl hc
      · refine .inr ⟨j, each (P := fun j p => t ∈ (pr j).granted → t ∈ p.granted) hj ?_
          (fun _ => id) j hjt⟩
        rw [hi]
        exact List.mem_append_left _
      · refine .inr ⟨i, ?_⟩
        rw [hi]
        exact List.mem_append_right _ hgt
    · rintro (hc | ⟨j, hjt⟩)
      · exact .inl ⟨.inl hc, hrt⟩
      · by_cases hji : j = i
        · subst hji
          rw [hi] at hjt
          rcases List.mem_append.mp hjt with hjt | hjt
          · exact .inl ⟨.inr ⟨j, hjt⟩, hrt⟩
          · exact .inr hjt
        · rw [hj j hji] at hjt
          exact .inl ⟨.inr ⟨j, hjt⟩, hrt⟩
  · rw [hi]
    intro t ht
    rcases List.mem_append.mp ht with ht | ht
    · exact h.granted i t ht
    · exact (hgranted ht).2

end Windows

end Windows

/-! ## Both calls are over -/

section Outcome

variable {settings : Settings} {suffix : Str} {calls : Bool → Call} {db : Database}
  {tables : Bool → List (Str × Str)} {w : World} {c : Config Ans Exc (List Credentials) Bool World}

/-- How far each call has come. -/
def callProgress (suffix : Str) (db : Database) (c : Config Ans Exc (List Credentials) Bool World)
    (i : Bool) : Progress :=
  c.summary (Progress.after (permanentRole suffix) db) {} i

/-- No call reads the table privileges of the role while the other has read them and has
not left its section under the lock, unless both are asked for the same tables. -/
def Undisturbed (suffix : Str) (db : Database) (tables : Bool → List (Str × Str)) (c₀ : Cluster)
    (c : Config Ans Exc (List Credentials) Bool World) (i : Bool) (o : Op) : Prop :=
  o = .query db (.tables_with_existing_privs (permanentRole suffix) (permanentRole suffix)) →
    Agree c₀ tables ∨ ∀ j, j ≠ i → ¬ (callProgress suffix db c j).Open

/-- The tables on which the role has a privilege when one call was run alone. -/
def GrantedAlone (role : Str) (tables : List (Str × Str)) (c₀ : Cluster) (t : Str × Str) : Prop :=
  Allowed c₀ tables t ∨ ¬ SeenTable role t ∧ Granted role c₀ t

theorem granted_of_run {creds : List Credentials} {call : Call} {tables : List (Str × Str)}
    {w' : World} (h : (call.prog settings suffix).run (exec settings) w = (.ok creds, w'))
    (hd : call.Asks db tables) (t : Str × Str) :
    Granted (permanentRole suffix) (w'.clusters db) t ↔
      GrantedAlone (permanentRole suffix) tables (w.clusters db) t := by
  have hrec := (synced_of_run h hd).table t
  simp only [Granted, GrantedAlone, SeenTable]
  constructor
  · rintro ⟨p, hp⟩
    rcases (hrec p).mp hp with ⟨hold, hkept⟩ | ⟨-, hallowed, -⟩
    · by_cases hw : Allowed (w.clusters db) tables t
      · exact .inl hw
      · exact .inr ⟨fun hseen => hkept ⟨hseen, ⟨p, hold⟩, hw⟩, p, hold⟩
    · exact .inl hallowed
  · rintro (hw | ⟨hun, p, hp⟩)
    · by_cases hheld : ∃ q, (w.clusters db).HasTable (permanentRole suffix) t q
      · obtain ⟨q, hq⟩ := hheld
        exact ⟨q, (hrec q).mpr (.inl ⟨hq, fun hx => hx.2.2 hw⟩)⟩
      · exact ⟨.SELECT, (hrec _).mpr (.inr ⟨rfl, hw, fun hx => hheld hx.2⟩)⟩
    · exact ⟨p, (hrec p).mpr (.inl ⟨hp, fun hx => hun hx.1⟩)⟩

/-- The privileges that two calls leave are not a mixture of their lists. -/
structure NotMixed (settings : Settings) (suffix : Str) (calls : Bool → Call) (db : Database)
    (tables : Bool → List (Str × Str)) (w : World) (c : Cluster) : Prop where
  /-- They are those one of the calls run alone would leave. -/
  alone : ∃ i, (∀ t, Granted (permanentRole suffix) c t ↔
      GrantedAlone (permanentRole suffix) (tables i) (w.clusters db) t) ∧
    ∀ creds w', ((calls i).prog settings suffix).run (exec settings) w = (.ok creds, w') →
      ∀ t, Granted (permanentRole suffix) c t ↔ Granted (permanentRole suffix) (w'.clusters db) t
  /-- A table that neither list allows is not granted. -/
  neither : ∀ t, Outside (permanentRole suffix) t.1 →
    (∀ i, ¬ Allowed (w.clusters db) (tables i) t) → ¬ Granted (permanentRole suffix) c t
  /-- A table that both lists allow is granted. -/
  both : ∀ t, (∀ i, Allowed (w.clusters db) (tables i) t) → Granted (permanentRole suffix) c t

/-- In the schemas that the query for table privileges skips, the lists allow the same
tables, and outside its own schema and those of teams the role had no privilege on others. -/
structure Visible (role : Str) (tables : Bool → List (Str × Str)) (c₀ : Cluster) : Prop where
  lists : ∀ t, ¬ SeenTable role t → ¬ Granted role c₀ t →
    ∀ i j, Allowed c₀ (tables i) t → Allowed c₀ (tables j) t
  prior : ∀ t, ¬ SeenTable role t → Outside role t.1 → Granted role c₀ t →
    ∃ i, Allowed c₀ (tables i) t

theorem windows_of_run (hd : ∀ i, (calls i).Asks db (tables i))
    (h : (twoCalls settings suffix calls).Run (Undisturbed suffix db tables (w.clusters db)) w c) :
    ∃ last, Windows (permanentRole suffix) tables (w.clusters db) (callProgress suffix db c)
      (c.store.clusters db) last := by
  refine h.invariant (I := fun c => ∃ last, Windows (permanentRole suffix) tables (w.clusters db)
    (callProgress suffix db c) (c.store.clusters db) last) ⟨none, .start⟩ ?_
  rintro c i o k a w' hrun hi hok ha ⟨last, hw⟩
  have hpre : Progress.Planned (permanentRole suffix) db (tables i) o
      (callProgress suffix db c i) := hrun.pre hi (wp_call (hd i))
  have hmove := move_of_acts hpre ha
  have hothers : ∀ j, j ≠ i → callProgress suffix db (c.go i ⟨o, a⟩ (k a) w') j =
      callProgress suffix db c j := fun j hj => Config.summary_go_of_ne _ _ hj
  have hself : callProgress suffix db (c.go i ⟨o, a⟩ (k a) w') i =
      (callProgress suffix db c i).after (permanentRole suffix) db ⟨o, a⟩ :=
    Config.summary_go_self _ _
  rw [Config.go_store]
  rw [← hself] at hmove
  generalize hp' : callProgress suffix db (c.go i ⟨o, a⟩ (k a) w') i = p' at hmove
  cases hmove with
  | idle hg =>
      refine ⟨last, (hw.idle hg).steady hothers ?_ ?_ ?_ ?_ ?_ ?_⟩ <;> rw [hp']
      · exact hw.existing i
      · exact fun _ => rfl
      · exact id
  | finds hg hsn hex =>
      refine ⟨last, (hw.idle hg).steady hothers ?_ ?_ ?_ ?_ ?_ ?_⟩ <;> rw [hp']
      · rintro _ ⟨⟩ t
        rw [hex]
        exact allowed_congr hw.relations t
      · intro hs
        rw [hsn] at hs
        cases hs
      · exact id
  | reads ho hg hex hsn hmem =>
      exact ⟨some i, (hw.reads hothers hp' (hok ho) hex hsn hmem).idle hg⟩
  | writes hrel hr hg hgrants => exact ⟨last, hw.writes hothers hp' hrel hr hg hgrants⟩
  | closes hg hs =>
      refine ⟨last, (hw.idle hg).steady hothers ?_ ?_ ?_ ?_ ?_ ?_⟩ <;> rw [hp']
      · exact hw.existing i
      · exact fun _ => rfl
      · exact fun ho => nomatch ho.2

/-- When both calls are over, the last to read has decided, if the windows were in order. -/
theorem one_call_decides (hd : ∀ i, (calls i).Asks db (tables i))
    (hv : Visible (permanentRole suffix) tables (w.clusters db))
    (h : (twoCalls settings suffix calls).Run (Undisturbed suffix db tables (w.clusters db)) w c)
    (hdone : ∀ i, ∃ creds, c.tasks i = .pure creds) :
    NotMixed settings suffix calls db tables w (c.store.clusters db) := by
  obtain ⟨last, hw⟩ := windows_of_run hd h
  have hfin : ∀ i, (callProgress suffix db c i).Finished (tables i) := fun i => by
    obtain ⟨creds, hi⟩ := hdone i
    exact h.post (r := .ok creds) hi (wp_call (hd i))
  obtain ⟨i, rfl⟩ := Option.isSome_iff_exists.mp (hw.known true (hfin true).snapshot).2
  have hseen : ∀ t, SeenTable (permanentRole suffix) t →
      (Granted (permanentRole suffix) (c.store.clusters db) t ↔
        Allowed (w.clusters db) (tables i) t) := fun t ht =>
    hw.settled i t ht (.inl rfl) ⟨(hfin i).snapshot, (hfin i).revoked t, (hfin i).granted t⟩
  have hunseen : ∀ t, ¬ SeenTable (permanentRole suffix) t →
      (Granted (permanentRole suffix) (c.store.clusters db) t ↔
        Granted (permanentRole suffix) (w.clusters db) t ∨
          ∃ j, Allowed (w.clusters db) (tables j) t) := fun t ht => by
    rw [hw.unseen t ht]
    refine or_congr_right (exists_congr fun j => ⟨hw.granted j t, fun ha => ?_⟩)
    obtain ⟨snapshot, hs⟩ := Option.isSome_iff_exists.mp (hfin j).snapshot
    exact (hfin j).granted t ((hw.grants_iff hs).mpr ⟨ha, fun hmem => ht (hw.seen j _ hs t hmem)⟩)
  have halone : ∀ t, Granted (permanentRole suffix) (c.store.clusters db) t ↔
      GrantedAlone (permanentRole suffix) (tables i) (w.clusters db) t := fun t => by
    by_cases ht : SeenTable (permanentRole suffix) t
    · rw [hseen t ht]
      simp [GrantedAlone, ht]
    · rw [hunseen t ht]
      constructor
      · rintro (hg | ⟨j, hj⟩)
        · exact .inr ⟨ht, hg⟩
        · by_cases hg : Granted (permanentRole suffix) (w.clusters db) t
          · exact .inr ⟨ht, hg⟩
          · exact .inl (hv.lists t ht hg j i hj)
      · rintro (ha | ⟨-, hg⟩)
        · exact .inr ⟨i, ha⟩
        · exact .inl hg
  refine ⟨⟨i, halone, fun creds w' hrun t => ?_⟩, fun t hout hno => ?_, fun t hall => ?_⟩
  · rw [halone, granted_of_run hrun (hd i)]
  · rw [halone]
    rintro (ha | ⟨ht, hg⟩)
    · exact hno i ha
    · obtain ⟨j, hj⟩ := hv.prior t ht hout hg
      exact hno j hj
  · rw [halone]
    exact .inl (hall i)

end Outcome

/-! ## Two lists mixed

A tool is started and the Data Explorer is opened while the user's tables change.  Both
calls read before either of them takes the lock. -/

namespace MixedLists

def db : Database := ⟨"1", "datasets"⟩

/-- How the workspace connects to it. -/
def settings : Settings where
  DATABASES_DATA _ := ⟨"datasets", "db", "5432", "postgres"⟩
  PGAUDIT_LOG_SCOPES := "ALL"
  user_not_permanent _ := rfl

/-- Two tables, and no role of the user yet. -/
def cluster : Cluster where
  roles := ["postgres"]
  members := []
  schemas := ["public"]
  relations := [⟨"public", "exports", .pg_tables⟩, ⟨"public", "imports", .pg_tables⟩]
  tableAcl := []
  schemaAcl := []
  connectAcl := []
  members_exist := by decide
  tableAcl_exist := by decide
  schemaAcl_exist := by decide

def world : World where
  clusters _ := cluster
  teams _ := []
  database_users := []
  password := "secret"
  locked := false

def ann : User := ⟨1, "ann@trade.gov.uk", false⟩

/-- One table for each call. -/
def tables (names : Bool → Str) (i : Bool) : List (Str × Str) := [("public", names i)]

/-- One call is for a tool, the other for the Data Explorer. -/
def calls (names : Bool → Str) (i : Bool) : Call where
  source_tables := [⟨db, "public", names i, ⟨"1", "trade", .OPEN⟩⟩]
  db_user := if i then "user_ann_1" else "user_ann_2_explorer"
  dw_user := some ann
  force_create_for_databases := []

theorem asks (names : Bool → Str) (i : Bool) : (calls names i).Asks db (tables names i) := by
  cases i <;> exact List.mem_singleton.mpr rfl

/-- A call waits while the lock is taken. -/
def pick (_ : Bool) : (o : Op) → World → Option (Ans o × World) := waiting settings

/-- The first call comes up to its reading, the second one runs, and the first goes on. -/
def schedule : List Bool :=
  List.replicate 11 true ++ List.replicate 40 false ++ List.replicate 40 true

/-- The configuration at the end. -/
def final (names : Bool → Str) : Config Ans Exc (List Credentials) Bool World :=
  ((twoCalls settings "ab12cd34" (calls names)).start world).play pick Always schedule

theorem run_final (names : Bool → Str) :
    (twoCalls settings "ab12cd34" (calls names)).Run Always world (final names) :=
  Shared.run_play (fun _ => acts_of_waiting) world schedule

/-- The credentials of a call. -/
def creds (i : Bool) : List Credentials :=
  [⟨"datasets", "1", "datasets", "db", "5432", if i then "user_ann_1" else "user_ann_2_explorer",
    "_user_ab12cd34", "secret"⟩]

/-- One call on its own. -/
def alone (names : Bool → Str) (i : Bool) : Except Exc (List Credentials) × World :=
  ((calls names i).prog settings "ab12cd34").run (exec settings) world

/-- One table of the exports and one of the imports. -/
def exportsAndImports (i : Bool) : Str := if i then "exports" else "imports"

def exports (_ : Bool) : Str := "exports"

end MixedLists

open MixedLists in
/-- After both calls are over, the role has the privileges of both lists. -/
theorem two_lists_mixed :
    (twoCalls settings "ab12cd34" (calls exportsAndImports)).Run Always world
        (final exportsAndImports) ∧
      (∀ i, (final exportsAndImports).tasks i = .pure (creds i)) ∧
      ∀ i, (alone exportsAndImports i).1 = .ok (creds i) ∧
        ∃ t, Granted "_user_ab12cd34" ((final exportsAndImports).store.clusters db) t ∧
          ¬ Granted "_user_ab12cd34" ((alone exportsAndImports i).2.clusters db) t := by
  have hover : ∀ i, ((final exportsAndImports).tasks i).value? = some (creds i) := by
    decide +kernel
  have hboth : ∀ i, ((final exportsAndImports).store.clusters db).HasTable "_user_ab12cd34"
      ("public", exportsAndImports i) .SELECT := by decide +kernel
  have halone : ∀ i, (alone exportsAndImports i).1 = .ok (creds i) ∧
      ((alone exportsAndImports i).2.clusters db).hasAnyTablePrivilege "_user_ab12cd34"
        ("public", exportsAndImports !i) = false := by decide +kernel
  refine ⟨run_final _, fun i => Prog.eq_pure_of_value? (hover i), fun i => ⟨(halone i).1, ?_⟩⟩
  refine ⟨("public", exportsAndImports !i), ⟨.SELECT, hboth !i⟩, fun hg => ?_⟩
  have hany := (Cluster.hasAnyTablePrivilege_iff _ _ _).mpr hg
  exact Bool.false_ne_true ((halone i).2.symm.trans hany)

open MixedLists in
/-- Two calls for the same tables leave them granted in any order. -/
theorem same_lists_not_mixed : NotMixed settings "ab12cd34" (calls exports) db (tables exports) world
    ((final exports).store.clusters db) := by
  have hnone : ∀ t, ¬ Granted "_user_ab12cd34" cluster t := by
    rintro t ⟨p, hp⟩
    cases hp
  have hover : ∀ i, ((final exports).tasks i).value? = some (creds i) := by decide +kernel
  refine one_call_decides (asks exports) ?_ ((run_final exports).mono fun c i o _ _ => .inl ?_)
    fun i => ⟨creds i, Prog.eq_pure_of_value? (hover i)⟩
  · exact ⟨fun t _ _ i j h => h, fun t _ _ hg => absurd hg (hnone t)⟩
  · exact fun _ _ _ => Iff.rfl

end Core
