import DataWorkspace.Async.Shared

/-!
# Filing a row once

Requests read a row and write back the whole row that they read, with some changes.  Some of
them file the row in between: they ask another service for a ticket, and write the row with
its reference.  Nothing excludes other requests between the reading and the writing.

A `Filing` says what the reference in a row is and what filing does to it, and a `Plan` what a
request does with the row it reads.  A program follows its plan under `Stage.adv`.  `filed_once`
is about the runs in which no request decides to file while another is filing, and none writes a
reference while another is to write back a row that it read before.
-/

namespace Async

namespace Filings

/-! ## Operations -/

variable {ρ κ τ ε α ι : Type}

inductive Op (ρ κ : Type) where
  /-- The row is read, for a check that comes before. -/
  | check
  /-- The row is read. -/
  | load
  /-- A ticket is asked for. -/
  | create (ticket : κ)
  /-- All columns of the row are written. -/
  | save (row : ρ)
deriving DecidableEq

/-- Where no ticket is answered, one may have been created all the same, and the flag says so.
No program looks at it. -/
@[reducible] def Ans (ρ κ : Type) : Op ρ κ → Type
  | .check => ρ
  | .load => ρ
  | .create _ => Except Bool Nat
  | .save _ => Unit

/-- The row, and the tickets that were created about it. -/
structure Desk (ρ : Type) where
  row : ρ
  tickets : List Nat
deriving DecidableEq

/-- What an operation may answer and do. -/
def act : (o : Op ρ κ) → Desk ρ → Ans ρ κ o → Desk ρ → Prop
  | .check, s, a, s' => a = s.row ∧ s' = s
  | .load, s, a, s' => a = s.row ∧ s' = s
  | .create _, s, .ok id, s' => s' = { s with tickets := s.tickets ++ [id] }
  | .create _, s, .error true, s' => ∃ id, s' = { s with tickets := s.tickets ++ [id] }
  | .create _, s, .error false, s' => s' = s
  | .save row, s, _, s' => s' = { s with row := row }

/-- Requests with a program each, about one row. -/
def requests (prog : ι → Prog (Ans ρ κ) ε α) : Shared (Ans ρ κ) ε α ι (Desk ρ) := ⟨prog, fun _ => act⟩

/-! ## Plans -/

/-- What a request does with the row that it reads. -/
inductive Decision (ρ : Type) where
  | leave
  | write (row : ρ)
  | file
deriving DecidableEq

abbrev Plan (ρ : Type) := ρ → Decision ρ

structure Filing (ρ τ : Type) where
  reference : ρ → Option τ
  file : ρ → Nat → ρ
  Sound : ρ → Prop
  sound_file : ∀ row id, Sound (file row id)
  reference_file : ∀ row id, (reference (file row id)).isSome = true

/-- The plan writes back the reference that it read, and files what has none. -/
structure Filing.Allows (F : Filing ρ τ) (plan : Plan ρ) : Prop where
  write : ∀ row row', plan row = .write row' → F.Sound row →
    F.Sound row' ∧ F.reference row' = F.reference row
  file : ∀ row, plan row = .file → F.Sound row → F.reference row = none

/-- Where a request is. -/
inductive Stage (ρ : Type) where
  | waiting
  /-- The row is to be written back. -/
  | writing (row : ρ)
  /-- A ticket about the row is to be asked for. -/
  | filing (row : ρ)
  /-- The ticket was created, and its reference is to be written. -/
  | filed (row : ρ) (id : Nat)
  /-- A ticket was created, and nobody knows its reference. -/
  | lost
  | ended
deriving DecidableEq

namespace Stage

/-- The stage after a row is read. -/
def decide (plan : Plan ρ) (row : ρ) : Stage ρ :=
  match plan row with
  | .leave => .ended
  | .write row => .writing row
  | .file => .filing row

def adv (plan : Plan ρ) : Stage ρ → Event (Ans ρ κ) → Stage ρ
  | .waiting, ⟨.load, row⟩ => decide plan row
  | .filing row, ⟨.create _, .ok id⟩ => .filed row id
  | .filing _, ⟨.create _, .error true⟩ => .lost
  | .filing _, ⟨.create _, .error false⟩ => .ended
  | .writing _, ⟨.save _, _⟩ => .ended
  | .filed _ _, ⟨.save _, _⟩ => .ended
  | stage, _ => stage

/-- The stage in which an operation is performed. -/
def Performs (F : Filing ρ τ) (stage : Stage ρ) : Op ρ κ → Prop
  | .check => stage = .waiting
  | .load => stage = .waiting ∨ stage = .ended
  | .create _ => ∃ row, stage = .filing row
  | .save row => stage = .writing row ∨ ∃ row₀ id, stage = .filed row₀ id ∧ row = F.file row₀ id

/-- The request files the row. -/
def Files : Stage ρ → Bool
  | .filing _ => true
  | .filed _ _ => true
  | .lost => true
  | _ => false

/-- The request is to write the row back as it read it, with changes. -/
def Writes : Stage ρ → Bool
  | .writing _ => true
  | _ => false

/-- The request is to write a reference. -/
def Refers : Stage ρ → Bool
  | .filed _ _ => true
  | _ => false

/-- What there is while a request is at a stage. -/
def Fits (F : Filing ρ τ) (s : Desk ρ) : Stage ρ → Prop
  | .writing row => F.Sound row ∧ F.reference row = F.reference s.row
  | .filing _ => F.reference s.row = none ∧ s.tickets.length = 0
  | .filed _ _ => F.reference s.row = none ∧ s.tickets.length = 1
  | .lost => F.reference s.row = none ∧ s.tickets.length = 1
  | _ => True

end Stage

/-- A program that follows a plan. -/
def Follows (F : Filing ρ τ) (plan : Plan ρ) (p : Prog (Ans ρ κ) ε α) : Prop :=
  Meets (summing (Stage.adv plan) fun o stage => stage.Performs F o) p .waiting

/-! ## Runs -/

section Runs

abbrev FilingConfig (ρ κ ε α ι : Type) := Config (Ans ρ κ) ε α ι (Desk ρ)

variable (F : Filing ρ τ) (plan : ι → Plan ρ)

/-- Where a request is. -/
def stage (c : FilingConfig ρ κ ε α ι) (i : ι) : Stage ρ :=
  c.summary (Stage.adv (plan i)) .waiting i

/-- No request decides to file while another is filing, or has lost its ticket, and none writes
a reference while another is to write back a row that it read before. -/
def Apart (c : FilingConfig ρ κ ε α ι) (i : ι) : Op ρ κ → Prop
  | .load => stage plan c i = .waiting → plan i c.store.row = .file →
      ∀ j, (stage plan c j).Files = false
  | .save _ => (stage plan c i).Refers = true → ∀ j, (stage plan c j).Writes = false
  | _ => True

/-- The number of tickets that a row has where no request is filing it. -/
def due (row : ρ) : Nat := if (F.reference row).isSome then 1 else 0

structure Kept (c : FilingConfig ρ κ ε α ι) : Prop where
  sound : F.Sound c.store.row
  alone : ∀ i j, (stage plan c i).Files = true → (stage plan c j).Files = true → i = j
  fits : ∀ i, (stage plan c i).Fits F c.store
  free : (∀ i, (stage plan c i).Files = false) → c.store.tickets.length = due F c.store.row

variable {F plan} {c c' : FilingConfig ρ κ ε α ι}

theorem Kept.length_le (h : Kept F plan c) : c.store.tickets.length ≤ 1 := by
  by_cases hfree : ∀ i, (stage plan c i).Files = false
  · rw [h.free hfree, due]
    split <;> omega
  · simp only [not_forall, Bool.not_eq_false] at hfree
    obtain ⟨i, hi⟩ := hfree
    have hfits := h.fits i
    cases hstage : stage plan c i with
    | waiting =>
        rw [hstage] at hi
        cases hi
    | writing row =>
        rw [hstage] at hi
        cases hi
    | ended =>
        rw [hstage] at hi
        cases hi
    | filing row =>
        rw [hstage] at hfits
        exact Nat.le_trans (Nat.le_of_eq hfits.2) (Nat.zero_le 1)
    | filed row id =>
        rw [hstage] at hfits
        exact Nat.le_of_eq hfits.2
    | lost =>
        rw [hstage] at hfits
        exact Nat.le_of_eq hfits.2

theorem Stage.Fits.of_tickets {stage : Stage ρ} {s s' : Desk ρ} (h : stage.Fits F s)
    (hfiles : stage.Files = false) (hrow : s'.row = s.row) : stage.Fits F s' := by
  cases stage with
  | waiting => trivial
  | writing row => exact ⟨h.1, h.2.trans (congrArg F.reference hrow).symm⟩
  | filing row => cases hfiles
  | filed row id => cases hfiles
  | lost => cases hfiles
  | ended => trivial

theorem Stage.Fits.of_reference {stage : Stage ρ} {s s' : Desk ρ} (h : stage.Fits F s)
    (htickets : s'.tickets = s.tickets) (hrow : F.reference s'.row = F.reference s.row) :
    stage.Fits F s' := by
  cases stage with
  | waiting => trivial
  | writing row => exact ⟨h.1, h.2.trans hrow.symm⟩
  | filing row => exact ⟨hrow.trans h.1, htickets ▸ h.2⟩
  | filed row id => exact ⟨hrow.trans h.1, htickets ▸ h.2⟩
  | lost => exact ⟨hrow.trans h.1, htickets ▸ h.2⟩
  | ended => trivial

section Steps

variable [DecidableEq ι] {i : ι} {e : Event (Ans ρ κ)} {p : Prog (Ans ρ κ) ε α} {s : Desk ρ}

theorem stage_go_self : stage plan (c.go i e p s) i = (stage plan c i).adv (plan i) e :=
  Config.summary_go_self ..

theorem stage_go_of_ne {j : ι} (h : j ≠ i) : stage plan (c.go i e p s) j = stage plan c j :=
  Config.summary_go_of_ne _ _ h

theorem Kept.go (h : Kept F plan c) (hsound : F.Sound s.row)
    (hself : ((stage plan c i).adv (plan i) e).Fits F s)
    (hothers : ∀ j, j ≠ i → (stage plan c j).Fits F s)
    (halone : ((stage plan c i).adv (plan i) e).Files = true →
      ∀ j, j ≠ i → (stage plan c j).Files = false)
    (hfree : ((stage plan c i).adv (plan i) e).Files = false →
      (∀ j, j ≠ i → (stage plan c j).Files = false) → s.tickets.length = due F s.row) :
    Kept F plan (c.go i e p s) where
  sound := hsound
  alone j j' hj hj' := by
    by_cases hji : j = i
    · by_cases hji' : j' = i
      · rw [hji, hji']
      · subst hji
        rw [stage_go_self] at hj
        rw [stage_go_of_ne hji', halone hj j' hji'] at hj'
        cases hj'
    · rw [stage_go_of_ne hji] at hj
      by_cases hji' : j' = i
      · subst hji'
        rw [stage_go_self] at hj'
        rw [halone hj' j hji] at hj
        cases hj
      · rw [stage_go_of_ne hji'] at hj'
        exact h.alone j j' hj hj'
  fits j := by
    by_cases hj : j = i
    · subst hj
      rw [stage_go_self]
      exact hself
    · rw [stage_go_of_ne hj]
      exact hothers j hj
  free hnone := by
    refine hfree ?_ fun j hj => ?_
    · rw [← stage_go_self (p := p) (s := s)]
      exact hnone i
    · rw [← stage_go_of_ne (e := e) (p := p) (s := s) hj]
      exact hnone j

theorem Kept.same (h : Kept F plan c) (hadv : (stage plan c i).adv (plan i) e = stage plan c i) :
    Kept F plan (c.go i e p c.store) := by
  refine h.go h.sound ?_ (fun j _ => h.fits j) (fun hfiles j hj => ?_)
    fun hfiles hothers => h.free fun j => ?_
  · rw [hadv]
    exact h.fits i
  · rw [hadv] at hfiles
    exact eq_false_of_ne_true fun hj' => hj (h.alone j i hj' hfiles)
  · by_cases hj : j = i
    · rw [hj, ← hadv]
      exact hfiles
    · exact hothers j hj

omit [DecidableEq ι] in
theorem Kept.others (h : Kept F plan c) (hfiles : (stage plan c i).Files = true) :
    ∀ j, j ≠ i → (stage plan c j).Files = false :=
  fun j hj => eq_false_of_ne_true fun hj' => hj (h.alone j i hj' hfiles)

theorem Kept.load (h : Kept F plan c) (hallows : F.Allows (plan i))
    (hstage : stage plan c i = .waiting ∨ stage plan c i = .ended) (hok : Apart plan c i .load) :
    Kept F plan (c.go i ⟨.load, c.store.row⟩ p c.store) := by
  rcases hstage with hstage | hstage
  · have hadv : (stage plan c i).adv (plan i) (⟨.load, c.store.row⟩ : Event (Ans ρ κ)) =
        Stage.decide (plan i) c.store.row := by
      rw [hstage]
      rfl
    -- where the request does not file, the tickets are those there were
    have hfree (hothers : ∀ j, j ≠ i → (stage plan c j).Files = false) :
        c.store.tickets.length = due F c.store.row := by
      refine h.free fun j => ?_
      by_cases hj : j = i
      · rw [hj, hstage]
        rfl
      · exact hothers j hj
    refine h.go h.sound ?_ (fun j _ => h.fits j) (fun hfiles => ?_) fun _ hothers => hfree hothers
    · rw [hadv, Stage.decide]
      cases hplan : plan i c.store.row with
      | leave => trivial
      | write row => exact hallows.write _ _ hplan h.sound
      | file =>
          have hnone := hallows.file _ hplan h.sound
          refine ⟨hnone, ?_⟩
          rw [h.free (hok hstage hplan), due, hnone]
          rfl
    · rw [hadv, Stage.decide] at hfiles
      cases hplan : plan i c.store.row with
      | leave =>
          rw [hplan] at hfiles
          cases hfiles
      | write row =>
          rw [hplan] at hfiles
          cases hfiles
      | file => exact fun j _ => hok hstage hplan j
  · exact h.same (by rw [hstage]; rfl)

theorem Kept.create {ticket : κ} {a : Except Bool Nat} (h : Kept F plan c)
    (hstage : ∃ row, stage plan c i = .filing row) (hact : act (.create ticket) c.store a s) :
    Kept F plan (c.go i ⟨.create ticket, a⟩ p s) := by
  obtain ⟨row, hstage⟩ := hstage
  have hfits := h.fits i
  rw [hstage] at hfits
  have hothers := h.others (i := i) (by rw [hstage]; rfl)
  have hrow : s.row = c.store.row := by
    rcases a with (_ | _) | id
    · rw [show s = _ from hact]
    · obtain ⟨id, rfl⟩ := hact
      rfl
    · rw [show s = _ from hact]
  refine h.go (hrow ▸ h.sound) ?_ (fun j hj => (h.fits j).of_tickets (hothers j hj) hrow)
    (fun _ => hothers) fun hfiles _ => ?_
  · rw [hstage]
    rcases a with (_ | _) | id
    · trivial
    · obtain ⟨id, rfl⟩ := hact
      exact ⟨hfits.1, by rw [List.length_append, hfits.2]; rfl⟩
    · rw [show s = _ from hact]
      exact ⟨hfits.1, by rw [List.length_append, hfits.2]; rfl⟩
  · rw [hstage] at hfiles
    rcases a with (_ | _) | id
    · rw [show s = _ from hact, due, hfits.1]
      exact hfits.2
    · cases hfiles
    · cases hfiles

theorem Kept.save {row : ρ} (h : Kept F plan c) (hok : Apart plan c i (.save row))
    (hstage : (stage plan c i).Performs F (.save row : Op ρ κ)) :
    Kept F plan (c.go i ⟨.save row, ()⟩ p { c.store with row := row }) := by
  rcases hstage with hstage | ⟨row₀, id, hstage, rfl⟩
  · -- the row is written back with the reference it has
    have hfits := h.fits i
    rw [hstage] at hfits
    refine h.go hfits.1 (hstage ▸ trivial) (fun j _ => (h.fits j).of_reference rfl hfits.2)
      (fun hfiles => ?_) fun _ hothers => ?_
    · rw [hstage] at hfiles
      cases hfiles
    · rw [due, hfits.2]
      refine h.free fun j => ?_
      by_cases hj : j = i
      · rw [hj, hstage]
        rfl
      · exact hothers j hj
  · -- the reference is written, while no other request is to write the row back
    have hfits := h.fits i
    rw [hstage] at hfits
    have hothers := h.others (i := i) (hstage ▸ rfl)
    have hwrites := hok (hstage ▸ rfl)
    refine h.go (F.sound_file _ _) (hstage ▸ trivial) (fun j hj => ?_) (fun _ => hothers)
      fun _ _ => ?_
    · have hfiles := hothers j hj
      have hwrites := hwrites j
      cases hj' : stage plan c j with
      | waiting => trivial
      | ended => trivial
      | writing row =>
          rw [hj'] at hwrites
          cases hwrites
      | filing row =>
          rw [hj'] at hfiles
          cases hfiles
      | filed row id =>
          rw [hj'] at hfiles
          cases hfiles
      | lost =>
          rw [hj'] at hfiles
          cases hfiles
    · rw [due, F.reference_file, if_pos rfl]
      exact hfits.2

end Steps

section

variable [DecidableEq ι] {prog : ι → Prog (Ans ρ κ) ε α} {s₀ : Desk ρ}
  (hprog : ∀ i, Follows F (plan i) (prog i)) (hallows : ∀ i, F.Allows (plan i))
  (hsound : F.Sound s₀.row) (hfresh : s₀.tickets.length = due F s₀.row)

include hprog hallows hsound hfresh

theorem kept_of_run (h : (requests prog).Run (Apart plan) s₀ c) : Kept F plan c := by
  have hstart : Kept F plan ((requests prog).start s₀) :=
    ⟨hsound, fun _ _ hi _ => (by cases hi), fun _ => trivial, fun _ => hfresh⟩
  refine h.invariant hstart fun {c i o k a s} hrun hi hok hact ih => ?_
  have hperforms : (stage plan c i).Performs F o := hrun.pre hi (hprog i)
  cases o with
  | check =>
      obtain ⟨rfl, rfl⟩ := hact
      refine ih.same ?_
      rw [show stage plan c i = .waiting from hperforms]
      rfl
  | load =>
      obtain ⟨rfl, rfl⟩ := hact
      exact ih.load (hallows i) hperforms hok
  | create ticket => exact ih.create hperforms hact
  | save row =>
      rw [show s = _ from hact]
      exact ih.save hok hperforms

theorem filed_once (h : (requests prog).Run (Apart plan) s₀ c) :
    c.store.tickets.length ≤ 1 ∧
      ∀ c', (requests prog).Later (Apart plan) c c' → ∀ ref,
        F.reference c.store.row = some ref → F.reference c'.store.row = some ref := by
  refine ⟨(kept_of_run hprog hallows hsound hfresh h).length_le, fun c' hlater ref href => ?_⟩
  refine hlater.keeps (I := fun c => F.reference c.store.row = some ref) h ?_ href
  intro c i o k a s hrun hi hok hact ih
  have hperforms : (stage plan c i).Performs F o := hrun.pre hi (hprog i)
  have hfits := (kept_of_run hprog hallows hsound hfresh hrun).fits i
  cases o with
  | check =>
      obtain ⟨-, rfl⟩ := hact
      exact ih
  | load =>
      obtain ⟨-, rfl⟩ := hact
      exact ih
  | create ticket =>
      rcases a with (_ | _) | id
      · rw [show s = _ from hact]
        exact ih
      · obtain ⟨id, rfl⟩ := hact
        exact ih
      · rw [show s = _ from hact]
        exact ih
  | save row =>
      rw [show s = _ from hact]
      rcases hperforms with hstage | ⟨row₀, id, hstage, -⟩
      · rw [hstage] at hfits
        exact hfits.2.trans ih
      · rw [hstage] at hfits
        rw [hfits.1] at ih
        cases ih

end

end Runs

end Filings

end Async
