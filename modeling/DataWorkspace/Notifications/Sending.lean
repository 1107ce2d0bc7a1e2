import DataWorkspace.Async.Shared
import DataWorkspace.Notifications.Creating

/-!
# Sending notifications

After the notifications are created, the task lists those without an email and goes
through the list.  Each has a transaction of its own: the row is locked, read again, and
left alone if another task has sent its email since.  Otherwise the email is sent and its
id is recorded in the row.

Any number of tasks run at a time.  A row that is locked stays locked until the transaction
is over, and what a transaction wrote is seen once it commits.  After an email is sent the
transaction commits.

`Stage` says where a task is in its transaction, and `Consistent` relates the rows, the
locks and the emails to the stages.
-/

namespace Notifications

open Py Async

/-! ## The task -/

structure Row (S D U : Type) extends UserNotification S D U where
  email_id : Option Str

/-- What the emails are made from. -/
structure EmailSettings (S D U : Type) where
  columns_template_id : Str
  all_data_template_id : Str
  email_address : U → Str
  dataset_name : D → Str
  dataset_url : D → Str
  manage_subscriptions_url : Str

structure Email where
  template_id : Str
  email_address : Str
  change_date : DateTime
  dataset_name : Str
  dataset_url : Str
  manage_subscriptions_url : Str
  summary : Str
deriving DecidableEq

/-- What comes of sending an email: its id, `EmailSendFailureException`, or another
exception. -/
inductive Sent where
  | email_id (email_id : Str)
  | failure
  | other

/-- What comes of a commit: it may raise `IntegrityError` or another exception. -/
inductive Committed where
  | ok
  | IntegrityError
  | other

/-- The exceptions.  With the first comes the value of `template_id`, which outlives it. -/
inductive Exc where
  | IntegrityError (template_id : Option Str)
  | other

/-- The operations.  An email is sent for the row with the id. -/
inductive Op (S D U : Type) where
  /-- The transaction that creates notifications. -/
  | create_notifications
  /-- The ids of the rows without an email. -/
  | pending
  /-- `select_for_update().get(id=…)`. -/
  | lock (id : Nat)
  /-- `refresh_from_db()`, of which the id of the email is read. -/
  | refresh (id : Nat)
  /-- The changelog of the source. -/
  | changelog (related_object : S)
  | send_email (id : Nat) (email : Email)
  | save (id : Nat) (email_id : Str)
  | commit
  | rollback

/-- The answers.  `none` stands for an exception that is not caught. -/
@[reducible] def Ans (S D U : Type) : Op S D U → Type
  | .create_notifications => Except Exc Unit
  | .pending => List Nat
  | .lock _ => Option (Row S D U)
  | .refresh _ => Option (Option Str)
  | .changelog _ => Option (List DetailedChange)
  | .send_email _ _ => Sent
  | .save _ _ => Unit
  | .commit => Committed
  | .rollback => Unit

section Task

variable {S D U : Type} (settings : EmailSettings S D U)

abbrev M (S D U α : Type) := Prog (Ans S D U) Exc α

def await (o : Op S D U) : M S D U (Ans S D U o) := .perform o

/-- A value, or an exception that is not caught. -/
def orRaise {α : Type} (v : Option α) : M S D U α := .ofOption .other v

/-- The template for a change.  For neither kind it stays what it was. -/
def templateFor (template_id : Option Str) (change : DetailedChange) : Option Str :=
  if schemaChange change.toChange then some settings.columns_template_id
  else if dataChange change.toChange then some settings.all_data_template_id
  else template_id

def emailFor (template_id : Str) (row : Row S D U) (change : DetailedChange) : Email where
  template_id := template_id
  email_address := settings.email_address row.subscription.user
  change_date := change.change_date
  dataset_name := settings.dataset_name row.subscription.dataset
  dataset_url := settings.dataset_url row.subscription.dataset
  manage_subscriptions_url := settings.manage_subscriptions_url
  summary := change.summary

/-- The transaction of one row.  It returns the value of `template_id`. -/
def sendOne (template_id : Option Str) (id : Nat) : M S D U (Option Str) := do
  let row ← orRaise (← await (.lock id))
  let email_id ← orRaise (← await (.refresh id))
  match email_id with
  | some _ => .pure template_id
  | none => do
      let changelog ← orRaise (← await (.changelog row.notification.related_object))
      let change ← orRaise (get_change_item changelog row.notification.changelog_id)
      let template ← orRaise (templateFor settings template_id change)
      let sent : Sent ← await (.send_email id (emailFor settings template row change))
      match sent with
      | .email_id email_id => do
          await (.save id email_id)
          .pure (some template)
      | .failure => .pure (some template)
      | .other => .raise .other

/-- `with transaction.atomic()`, around the transaction of a row. -/
def atomic (body : M S D U (Option Str)) : M S D U (Option Str) := do
  let r : Except Exc (Option Str) ← body.attempt
  match r with
  | .ok template_id => do
      let committed : Committed ← await .commit
      match committed with
      | .ok => .pure template_id
      | .IntegrityError => .raise (.IntegrityError template_id)
      | .other => .raise .other
  | .error e => do
      await .rollback
      .raise e

/-- The loop over the rows. -/
@[grind =]
def sendAll : Option Str → List Nat → M S D U Unit
  | _, [] => .pure ()
  | template_id, id :: ids => do
      let r : Except Exc (Option Str) ← (atomic (sendOne settings template_id id)).attempt
      match r with
      | .ok template_id => sendAll template_id ids
      | .error (.IntegrityError template_id) => sendAll template_id ids
      | .error .other => .raise .other

/-- `send_notifications`. -/
def send_notifications : M S D U Unit := do
  let user_notification_ids : List Nat ← await .pending
  sendAll settings none user_notification_ids

/-- `send_notification_emails`. -/
def send_notification_emails : M S D U Unit := do
  let created : Except Exc Unit ← await .create_notifications
  match created with
  | .ok () => send_notifications settings
  | .error (.IntegrityError _) => .pure ()
  | .error .other => .raise .other

end Task

/-! ## The database and the emails -/

/-- The committed rows, which task has locked a row, what the transaction of a task wrote,
and the emails that were sent, each with the id of its row. -/
structure World (S D U ι : Type) where
  rows : Nat → Option (Row S D U)
  locked : Nat → Option ι
  written : ι → Option (Nat × Str)
  emails : List (Nat × Str)

section Database

variable {S D U ι : Type} [DecidableEq ι]

namespace World

def HasEmail (w : World S D U ι) (id : Nat) (email_id : Option Str) : Prop :=
  ∃ row, w.rows id = some row ∧ row.email_id = email_id

/-- The transaction of a task is over. -/
def release (w : World S D U ι) (i : ι) : World S D U ι :=
  { w with
    locked := fun id => if w.locked id = some i then none else w.locked id
    written := Function.update w.written i none }

/-- What a transaction wrote is committed. -/
def commit (w : World S D U ι) (i : ι) : World S D U ι :=
  match w.written i with
  | none => w.release i
  | some (id, email_id) =>
      { w.release i with
        rows := Function.update w.rows id
          ((w.rows id).map fun row => { row with email_id := some email_id }) }

end World

/-- What the database and the email service do.  A task that waits for a lock is not
answered. -/
inductive Acts (i : ι) : (o : Op S D U) → World S D U ι → Ans S D U o → World S D U ι → Prop where
  /-- New rows have no email. -/
  | created {w : World S D U ι} {rows : Nat → Option (Row S D U)}
      (hold : ∀ id row, w.rows id = some row → rows id = some row)
      (hnew : ∀ id row, w.rows id = none → rows id = some row → row.email_id = none) :
      Acts i .create_notifications w (.ok ()) { w with rows := rows }
  | not_created {w : World S D U ι} {e : Exc} : Acts i .create_notifications w (.error e) w
  | pending {w : World S D U ι} {ids : List Nat} (h : ∀ id, id ∈ ids ↔ w.HasEmail id none) :
      Acts i .pending w ids w
  | lock {w : World S D U ι} {id : Nat} {row : Row S D U} (hfree : w.locked id = none)
      (hrow : w.rows id = some row) :
      Acts i (.lock id) w (some row) { w with locked := Function.update w.locked id (some i) }
  | not_locked {w : World S D U ι} {id : Nat} : Acts i (.lock id) w none w
  | refresh {w : World S D U ι} {id : Nat} {row : Row S D U} (hrow : w.rows id = some row) :
      Acts i (.refresh id) w (some row.email_id) w
  | not_refreshed {w : World S D U ι} {id : Nat} : Acts i (.refresh id) w none w
  | changelog {w : World S D U ι} {obj : S} {changelog : Option (List DetailedChange)} :
      Acts i (.changelog obj) w changelog w
  | sent {w : World S D U ι} {id : Nat} {email : Email} {email_id : Str} :
      Acts i (.send_email id email) w (.email_id email_id)
        { w with emails := (id, email_id) :: w.emails }
  | failure {w : World S D U ι} {id : Nat} {email : Email} :
      Acts i (.send_email id email) w .failure w
  | not_sent {w : World S D U ι} {id : Nat} {email : Email} :
      Acts i (.send_email id email) w .other w
  | save {w : World S D U ι} {id : Nat} {email_id : Str} :
      Acts i (.save id email_id) w ()
        { w with written := Function.update w.written i (some (id, email_id)) }
  | commit {w : World S D U ι} : Acts i .commit w .ok (w.commit i)
  /-- Only a transaction that wrote nothing may fail to commit. -/
  | not_committed {w : World S D U ι} {committed : Committed} (h : w.written i = none) :
      Acts i .commit w committed (w.release i)
  | rollback {w : World S D U ι} : Acts i .rollback w () (w.release i)

def tasks (settings : EmailSettings S D U) : Shared (Ans S D U) Exc Unit ι (World S D U ι) where
  prog _ := send_notification_emails settings
  act := Acts

/-- Before the tasks: nothing is locked or written, and the rows have the ids of the emails
that were sent. -/
structure Initial (w : World S D U ι) : Prop where
  locked : ∀ id, w.locked id = none
  written : ∀ i, w.written i = none
  nodup : (w.emails.map Prod.fst).Nodup
  recorded : ∀ id email_id, w.HasEmail id (some email_id) ↔ (id, email_id) ∈ w.emails

end Database

/-! ## Where a task is -/

/-- Where a task is in its transaction. -/
inductive Stage where
  | idle
  | locked (id : Nat)
  /-- The row is locked and has no email. -/
  | pending (id : Nat)
  | sent (id : Nat) (email_id : Str)
  | saved (id : Nat) (email_id : Str)
deriving DecidableEq

/-- The row that the task has locked. -/
def Stage.row : Stage → Option Nat
  | .idle => none
  | .locked id => some id
  | .pending id => some id
  | .sent id _ => some id
  | .saved id _ => some id

/-- The email that was sent and is not recorded yet. -/
def Stage.email : Stage → Option (Nat × Str)
  | .sent id email_id => some (id, email_id)
  | .saved id email_id => some (id, email_id)
  | _ => none

section Stages

variable {S D U : Type}

def Stage.adv : Stage → Event (Ans S D U) → Stage
  | .idle, ⟨.lock id, some _⟩ => .locked id
  | .locked id, ⟨.refresh _, some none⟩ => .pending id
  | .pending id, ⟨.send_email _ _, .email_id email_id⟩ => .sent id email_id
  | .sent id email_id, ⟨.save _ _, _⟩ => .saved id email_id
  | _, ⟨.commit, _⟩ => .idle
  | _, ⟨.rollback, _⟩ => .idle
  | stage, _ => stage

/-- The stages in which an operation is performed. -/
def InStage : Op S D U → Stage → Prop
  | .create_notifications, stage => stage = .idle
  | .pending, stage => stage = .idle
  | .lock _, stage => stage = .idle
  | .refresh id, stage => stage = .locked id
  | .changelog _, stage => ∃ id, stage = .pending id
  | .send_email id _, stage => stage = .pending id
  | .save id email_id, stage => stage = .sent id email_id
  | .commit, stage => ∀ id email_id, stage ≠ .sent id email_id
  | .rollback, stage => stage.email = none

abbrev stages : Interp (Ans S D U) Stage := summing Stage.adv InStage

variable (settings : EmailSettings S D U)

/-- A transaction ends before it has sent an email, or after it has recorded it. -/
def Unfinished : Except Exc (Option Str) → Stage → Prop
  | .ok _, stage => ∀ id email_id, stage ≠ .sent id email_id
  | .error _, stage => stage.email = none

theorem wp_orRaise {α : Type} {v : Option α} {f : α → M S D U (Option Str)} {stage : Stage}
    (hstage : stage.email = none)
    (hf : ∀ a, v = some a → wp stages (f a) Unfinished stage) :
    wp stages (orRaise v >>= f) Unfinished stage := by
  rw [wp_bind]
  exact wp_ofOption (fun _ => hstage) hf

theorem wp_sendOne (template_id : Option Str) (id : Nat) :
    wp stages (sendOne settings template_id id) Unfinished .idle := by
  refine wp_summing.mpr ⟨rfl, fun row => ?_⟩
  cases row with
  | none => rfl
  | some row =>
      refine wp_summing.mpr ⟨rfl, fun email_id => ?_⟩
      cases email_id with
      | none => rfl
      | some email_id =>
          cases email_id with
          | some email_id => exact fun _ _ => Stage.noConfusion
          | none =>
              refine wp_summing.mpr ⟨⟨id, rfl⟩, fun changelog => ?_⟩
              refine wp_orRaise rfl fun changelog _ => wp_orRaise rfl fun change _ =>
                wp_orRaise rfl fun template _ => wp_summing.mpr ⟨rfl, fun sent => ?_⟩
              cases sent with
              | email_id email_id =>
                  exact wp_summing.mpr ⟨rfl, fun _ => fun _ _ => Stage.noConfusion⟩
              | failure => exact fun _ _ => Stage.noConfusion
              | other => rfl

theorem wp_atomic {body : M S D U (Option Str)} {stage : Stage}
    (hbody : wp stages body Unfinished stage) :
    wp stages (atomic body) (fun _ stage => stage = .idle) stage := by
  unfold atomic
  rw [wp_bind, wp_attempt]
  refine wp_mono (fun r stage' hr => ?_) body stage hbody
  cases r with
  | ok template_id =>
      refine wp_summing.mpr ⟨hr, fun committed => ?_⟩
      have hidle : Stage.adv stage' ⟨Op.commit, committed⟩ = (.idle : Stage) := by
        cases stage' <;> rfl
      rw [hidle]
      cases committed <;> rfl
  | error e =>
      refine wp_summing.mpr ⟨hr, fun done => ?_⟩
      cases stage' <;> rfl

theorem wp_sendAll (ids : List Nat) : ∀ template_id : Option Str,
    wp stages (sendAll settings template_id ids) (fun _ stage => stage = .idle) .idle := by
  induction ids with
  | nil => exact fun _ => rfl
  | cons id ids ih =>
      intro template_id
      unfold sendAll
      rw [wp_bind, wp_attempt]
      refine wp_mono (fun r stage hr => ?_) _ _ (wp_atomic (wp_sendOne settings template_id id))
      rw [show stage = .idle from hr]
      cases r with
      | ok template_id => exact ih template_id
      | error e =>
          cases e with
          | IntegrityError template_id => exact ih template_id
          | other => rfl

theorem wp_stages :
    wp stages (send_notification_emails settings) (fun _ stage => stage = .idle) .idle := by
  refine wp_summing.mpr ⟨rfl, fun created => ?_⟩
  cases created with
  | ok created => exact wp_summing.mpr ⟨rfl, fun ids => wp_sendAll settings ids none⟩
  | error e => cases e <;> rfl

end Stages

/-! ## The invariant -/

section Runs

variable {S D U ι : Type}

structure Consistent (w : World S D U ι) (stage : ι → Stage) : Prop where
  locked : ∀ i id, w.locked id = some i ↔ (stage i).row = some id
  written : ∀ i id email_id, w.written i = some (id, email_id) ↔ stage i = .saved id email_id
  pending : ∀ i id, stage i = .pending id → w.HasEmail id none ∧ id ∉ w.emails.map Prod.fst
  sent : ∀ i id email_id, (stage i).email = some (id, email_id) →
    w.HasEmail id none ∧ (id, email_id) ∈ w.emails
  nodup : (w.emails.map Prod.fst).Nodup
  recorded : ∀ id email_id, w.HasEmail id (some email_id) → (id, email_id) ∈ w.emails
  accounted : ∀ id email_id, (id, email_id) ∈ w.emails →
    w.HasEmail id (some email_id) ∨ ∃ i, (stage i).email = some (id, email_id)

section Steps

variable {w : World S D U ι} {stage : ι → Stage} {i : ι} {id : Nat} {email_id : Str}

theorem Initial.consistent (h : Initial w) : Consistent w fun _ => .idle where
  locked i id := by simp [h.locked id, Stage.row]
  written i id email_id := by simp [h.written i]
  pending i id hstage := nomatch hstage
  sent i id email_id hstage := nomatch hstage
  nodup := h.nodup
  recorded id email_id hrow := (h.recorded id email_id).mp hrow
  accounted id email_id hmem := .inl ((h.recorded id email_id).mpr hmem)

theorem World.HasEmail.unique {a b : Option Str} (ha : w.HasEmail id a) (hb : w.HasEmail id b) :
    a = b := by
  obtain ⟨row, hrow, rfl⟩ := ha
  obtain ⟨row', hrow', rfl⟩ := hb
  rw [hrow] at hrow'
  rw [Option.some.inj hrow']

theorem Stage.row_of_email {s : Stage} (h : s.email = some (id, email_id)) : s.row = some id := by
  cases s with
  | sent id' email_id' =>
      cases h
      rfl
  | saved id' email_id' =>
      cases h
      rfl
  | _ => cases h

theorem Consistent.same_task (h : Consistent w stage) {j : ι} (hi : (stage i).row = some id)
    (hj : (stage j).row = some id) : i = j := by
  rw [← h.locked] at hi hj
  rw [hi] at hj
  exact Option.some.inj hj

theorem Consistent.created (h : Consistent w stage) {rows : Nat → Option (Row S D U)}
    (hold : ∀ id row, w.rows id = some row → rows id = some row)
    (hnew : ∀ id row, w.rows id = none → rows id = some row → row.email_id = none) :
    Consistent { w with rows := rows } stage := by
  have hkept {id : Nat} {e : Option Str} (he : w.HasEmail id e) :
      World.HasEmail { w with rows := rows } id e := by
    obtain ⟨row, hrow, rfl⟩ := he
    exact ⟨row, hold id row hrow, rfl⟩
  refine ⟨h.locked, h.written, fun i id hi => ?_, fun i id e hi => ?_, h.nodup,
    fun id e he => ?_, fun id e he => ?_⟩
  · exact (h.pending i id hi).imp_left hkept
  · exact (h.sent i id e hi).imp_left hkept
  · obtain ⟨row, hrow, he⟩ := he
    cases hw : w.rows id with
    | none =>
        rw [hnew id row hw hrow] at he
        cases he
    | some row' =>
        obtain rfl : row' = row := Option.some.inj ((hold id row' hw).symm.trans hrow)
        exact h.recorded id e ⟨row', hw, he⟩
  · exact (h.accounted id e he).imp_left hkept

variable [DecidableEq ι]

/-- What a step of a task does that leaves the rows as they are: its own lock and its own
write are as the new stage says, and it sends at most the email of its row. -/
structure Moves (w w' : World S D U ι) (i : ι) (old new : Stage) : Prop where
  rows : w'.rows = w.rows
  locked : ∀ id, w'.locked id = some i ↔ new.row = some id
  others : ∀ j ≠ i, ∀ id, w'.locked id = some j ↔ w.locked id = some j
  written : ∀ id email_id, w'.written i = some (id, email_id) ↔ new = .saved id email_id
  writtenOthers : ∀ j ≠ i, w'.written j = w.written j
  pending : ∀ id, new = .pending id → w.HasEmail id none ∧ id ∉ w'.emails.map Prod.fst
  sent : ∀ id email_id, new.email = some (id, email_id) →
    w.HasEmail id none ∧ (id, email_id) ∈ w'.emails
  emails : w'.emails = w.emails ∨ ∃ id email_id, w'.emails = (id, email_id) :: w.emails ∧
    old = .pending id ∧ new.email = some (id, email_id)
  kept : ∀ id email_id, old.email = some (id, email_id) → new.email = some (id, email_id)

theorem Consistent.moves (h : Consistent w stage) {w' : World S D U ι} {new : Stage}
    (hm : Moves w w' i (stage i) new) : Consistent w' (Function.update stage i new) := by
  have hrow {id : Nat} {e : Option Str} : w'.HasEmail id e ↔ w.HasEmail id e := by
    rw [World.HasEmail, World.HasEmail, hm.rows]
  have hsub : w.emails ⊆ w'.emails := by
    rcases hm.emails with he | ⟨id, e, he, -⟩
    · rw [he]
      exact List.Subset.refl _
    · rw [he]
      exact List.subset_cons_self _ _
  refine ⟨fun j id => ?_, fun j id e => ?_, fun j id hj => ?_, fun j id e hj => ?_, ?_,
    fun id e he => ?_, fun id e he => ?_⟩
  · by_cases hj : j = i
    · subst hj
      rw [Function.update_self]
      exact hm.locked id
    · rw [Function.update_of_ne hj, hm.others j hj]
      exact h.locked j id
  · by_cases hj : j = i
    · subst hj
      rw [Function.update_self]
      exact hm.written id e
    · rw [Function.update_of_ne hj, hm.writtenOthers j hj]
      exact h.written j id e
  · by_cases hji : j = i
    · subst hji
      rw [Function.update_self] at hj
      exact (hm.pending id hj).imp_left hrow.mpr
    · rw [Function.update_of_ne hji] at hj
      obtain ⟨hnone, hout⟩ := h.pending j id hj
      refine ⟨hrow.mpr hnone, ?_⟩
      rcases hm.emails with he | ⟨id', e', he, hold, -⟩
      · rw [he]
        exact hout
      · have hne : id' ≠ id := by
          rintro rfl
          exact hji (h.same_task (by rw [hj]; rfl) (by rw [hold]; rfl))
        rw [he, List.map_cons, List.mem_cons, not_or]
        exact ⟨hne.symm, hout⟩
  · by_cases hji : j = i
    · subst hji
      rw [Function.update_self] at hj
      exact (hm.sent id e hj).imp_left hrow.mpr
    · rw [Function.update_of_ne hji] at hj
      exact (h.sent j id e hj).imp hrow.mpr (hsub ·)
  · rcases hm.emails with he | ⟨id, e, he, hold, -⟩
    · rw [he]
      exact h.nodup
    · rw [he, List.map_cons]
      exact List.nodup_cons.mpr ⟨(h.pending i id hold).2, h.nodup⟩
  · exact hsub (h.recorded id e (hrow.mp he))
  · have hstill {e : Str} (he : (id, e) ∈ w.emails) : w'.HasEmail id (some e) ∨
        ∃ j, (Function.update stage i new j).email = some (id, e) := by
      rcases h.accounted id e he with hdone | ⟨j, hj⟩
      · exact .inl (hrow.mpr hdone)
      · refine .inr ⟨j, ?_⟩
        by_cases hji : j = i
        · subst hji
          rw [Function.update_self]
          exact hm.kept id e hj
        · rw [Function.update_of_ne hji]
          exact hj
    rcases hm.emails with he' | ⟨id', e', he', -, hnew⟩
    · rw [he'] at he
      exact hstill he
    · rw [he'] at he
      rcases List.mem_cons.mp he with heq | he
      · cases heq
        exact .inr ⟨i, by rw [Function.update_self]; exact hnew⟩
      · exact hstill he

theorem Consistent.lock (h : Consistent w stage) (hi : stage i = .idle)
    (hfree : w.locked id = none) :
    Consistent { w with locked := Function.update w.locked id (some i) }
      (Function.update stage i (.locked id)) := by
  have hnothing (id' : Nat) : w.locked id' ≠ some i := fun hl => by
    have hrow := (h.locked i id').mp hl
    rw [hi] at hrow
    cases hrow
  refine h.moves
    { rows := rfl
      locked := fun id' => ?_
      others := fun j hj id' => ?_
      written := fun id' e => ?_
      writtenOthers := fun _ _ => rfl
      pending := fun _ hp => nomatch hp
      sent := fun _ _ hs => nomatch hs
      emails := .inl rfl
      kept := fun _ _ hs => ?_ }
  · by_cases hid : id' = id
    · subst hid
      simp [Stage.row]
    · simp [Stage.row, Function.update_of_ne hid, hnothing id', Ne.symm hid]
  · by_cases hid : id' = id
    · subst hid
      simp [hfree, Ne.symm hj]
    · simp [Function.update_of_ne hid]
  · have hnone := h.written i id' e
    rw [hi] at hnone
    exact ⟨fun hl => (nomatch hnone.mp hl), fun hl => (nomatch hl)⟩
  · rw [hi] at hs
    cases hs

theorem Consistent.goes (h : Consistent w stage) (new : Stage) (hrow : new.row = (stage i).row)
    {emails : List (Nat × Str)} {written : ι → Option (Nat × Str)}
    (hwritten : ∀ id email_id, written i = some (id, email_id) ↔ new = .saved id email_id)
    (hothers : ∀ j ≠ i, written j = w.written j)
    (hpending : ∀ id, new = .pending id → w.HasEmail id none ∧ id ∉ emails.map Prod.fst)
    (hsent : ∀ id email_id, new.email = some (id, email_id) →
      w.HasEmail id none ∧ (id, email_id) ∈ emails)
    (hemails : emails = w.emails ∨ ∃ id email_id, emails = (id, email_id) :: w.emails ∧
      stage i = .pending id ∧ new.email = some (id, email_id))
    (hkept : ∀ id email_id, (stage i).email = some (id, email_id) →
      new.email = some (id, email_id)) :
    Consistent { w with emails := emails, written := written } (Function.update stage i new) :=
  h.moves
    { rows := rfl
      locked := fun id => by rw [hrow]; exact h.locked i id
      others := fun _ _ _ => Iff.rfl
      written := hwritten
      writtenOthers := hothers
      pending := hpending
      sent := hsent
      emails := hemails
      kept := hkept }

theorem Consistent.release (h : Consistent w stage) (hi : (stage i).email = none) :
    Consistent (w.release i) (Function.update stage i .idle) := by
  refine h.moves
    { rows := rfl
      locked := fun id => ?_
      others := fun j hj id => ?_
      written := fun id e => ?_
      writtenOthers := fun j hj => Function.update_of_ne hj ..
      pending := fun _ hp => nomatch hp
      sent := fun _ _ hs => nomatch hs
      emails := .inl rfl
      kept := fun _ _ hs => ?_ }
  · simp [World.release, Stage.row]
  · by_cases hl : w.locked id = some i
    · simp [World.release, hl, Ne.symm hj]
    · simp [World.release, hl]
  · simp [World.release]
  · rw [hi] at hs
    cases hs

theorem Consistent.commit (h : Consistent w stage) (hi : stage i = .saved id email_id) :
    Consistent (w.commit i) (Function.update stage i .idle) := by
  obtain ⟨⟨row, hrow, hnone⟩, hmem⟩ := h.sent i id email_id (by rw [hi]; rfl)
  have hcommit : w.commit i = { w.release i with
      rows := Function.update w.rows id (some { row with email_id := some email_id }) } := by
    rw [World.commit, (h.written i id email_id).mpr hi]
    dsimp only
    rw [hrow]
    rfl
  have hself : (w.commit i).HasEmail id (some email_id) := by
    rw [hcommit]
    exact ⟨_, Function.update_self .., rfl⟩
  have hother {id' : Nat} {e : Option Str} (hid : id' ≠ id) :
      (w.commit i).HasEmail id' e ↔ w.HasEmail id' e := by
    rw [hcommit, World.HasEmail, World.HasEmail]
    dsimp only
    rw [Function.update_of_ne hid]
  have hrowOf {j : ι} {id' : Nat} (hji : j ≠ i) (hj : (stage j).row = some id') : id' ≠ id := by
    rintro rfl
    exact hji (h.same_task hj (by rw [hi]; rfl))
  have hemails : (w.commit i).emails = w.emails := by rw [hcommit]; rfl
  refine ⟨fun j id' => ?_, fun j id' e => ?_, fun j id' hj => ?_, fun j id' e hj => ?_, ?_,
    fun id' e he => ?_, fun id' e he => ?_⟩
  · rw [hcommit]
    dsimp only [World.release]
    by_cases hj : j = i
    · subst hj
      simp [Stage.row]
    · rw [Function.update_of_ne hj, ← h.locked]
      by_cases hl : w.locked id' = some i
      · simp [hl, Ne.symm hj]
      · simp [hl]
  · rw [hcommit]
    dsimp only [World.release]
    by_cases hj : j = i
    · subst hj
      simp
    · rw [Function.update_of_ne hj, Function.update_of_ne hj]
      exact h.written j id' e
  · by_cases hji : j = i
    · subst hji
      rw [Function.update_self] at hj
      cases hj
    · rw [Function.update_of_ne hji] at hj
      rw [hother (hrowOf hji (by rw [hj]; rfl)), hemails]
      exact h.pending j id' hj
  · by_cases hji : j = i
    · subst hji
      rw [Function.update_self] at hj
      cases hj
    · rw [Function.update_of_ne hji] at hj
      rw [hother (hrowOf hji (Stage.row_of_email hj)), hemails]
      exact h.sent j id' e hj
  · rw [hemails]
    exact h.nodup
  · rw [hemails]
    by_cases hid : id' = id
    · subst hid
      obtain rfl := Option.some.inj (he.unique hself)
      exact hmem
    · exact h.recorded id' e ((hother hid).mp he)
  · rw [hemails] at he
    by_cases hid : id' = id
    · subst hid
      have hsame : e = email_id := by
        have hpair := List.inj_on_of_nodup_map h.nodup he hmem rfl
        exact congrArg Prod.snd hpair
      rw [hsame]
      exact .inl hself
    · refine (h.accounted id' e he).imp (hother hid).mpr fun ⟨j, hj⟩ => ⟨j, ?_⟩
      have hji : j ≠ i := by
        rintro rfl
        rw [hi] at hj
        cases hj
        exact hid rfl
      rw [Function.update_of_ne hji]
      exact hj

end Steps

/-! ## Runs -/

variable [DecidableEq ι] {settings : EmailSettings S D U}
  {ok : Config (Ans S D U) Exc Unit ι (World S D U ι) → ι → Op S D U → Prop}
  {w₀ : World S D U ι} {c : Config (Ans S D U) Exc Unit ι (World S D U ι)}

/-- The stages of the tasks. -/
def stageOf (c : Config (Ans S D U) Exc Unit ι (World S D U ι)) (i : ι) : Stage :=
  c.summary Stage.adv .idle i

theorem stageOf_go (c : Config (Ans S D U) Exc Unit ι (World S D U ι)) (i : ι)
    (e : Event (Ans S D U)) (p : M S D U Unit) (w : World S D U ι) :
    stageOf (c.go i e p w) = Function.update (stageOf c) i (Stage.adv (stageOf c i) e) := by
  funext j
  by_cases hj : j = i
  · subst hj
    rw [Function.update_self]
    exact Config.summary_go_self ..
  · rw [Function.update_of_ne hj]
    exact Config.summary_go_of_ne _ _ hj

theorem Consistent.acts {w w' : World S D U ι} {stage : ι → Stage} (h : Consistent w stage) {i : ι}
    {o : Op S D U} {a : Ans S D U o} (hin : InStage o (stage i)) (ha : Acts i o w a w') :
    Consistent w' (Function.update stage i (Stage.adv (stage i) ⟨o, a⟩)) := by
  have hstay {e : Event (Ans S D U)} {w' : World S D U ι} (he : Stage.adv (stage i) e = stage i)
      (hw : Consistent w' stage) :
      Consistent w' (Function.update stage i (Stage.adv (stage i) e)) := by
    rw [he, Function.update_eq_self]
    exact hw
  cases ha with
  | created hold hnew =>
      exact hstay (by rw [show stage i = .idle from hin]; rfl) (h.created hold hnew)
  | not_created => exact hstay (by rw [show stage i = .idle from hin]; rfl) h
  | pending => exact hstay (by rw [show stage i = .idle from hin]; rfl) h
  | lock hfree =>
      have hlock := h.lock hin hfree
      rw [show stage i = .idle from hin]
      exact hlock
  | not_locked => exact hstay (by rw [show stage i = .idle from hin]; rfl) h
  | @refresh _ id row hrow =>
      have hin : stage i = .locked id := hin
      cases hemail : row.email_id with
      | some email_id => exact hstay (by rw [hin]; rfl) h
      | none =>
          rw [hin]
          refine h.goes (.pending id) (by rw [hin]; rfl) (fun id' e => ?_) (fun _ _ => rfl)
            (fun id' hp => ?_) (fun _ _ hs => nomatch hs) (.inl rfl) fun id' e hs => ?_
          · rw [h.written i id' e, hin]
            exact ⟨fun hl => (nomatch hl), fun hl => (nomatch hl)⟩
          · cases hp
            refine ⟨⟨row, hrow, hemail⟩, fun hmem => ?_⟩
            obtain ⟨⟨id', e⟩, he, rfl⟩ := List.mem_map.mp hmem
            -- the email of the row was sent by a task that has the row locked
            rcases h.accounted id' e he with hdone | ⟨j, hj⟩
            · cases hdone.unique ⟨row, hrow, hemail⟩
            · obtain rfl := h.same_task (Stage.row_of_email hj) (by rw [hin]; rfl)
              rw [hin] at hj
              cases hj
          · rw [hin] at hs
            cases hs
  | @not_refreshed _ id =>
      have hin : stage i = .locked id := hin
      exact hstay (by rw [hin]; rfl) h
  | changelog =>
      obtain ⟨id, hin⟩ := hin
      exact hstay (by rw [hin]; rfl) h
  | @sent _ id email email_id =>
      have hin : stage i = .pending id := hin
      rw [hin]
      refine h.goes (.sent id email_id) (by rw [hin]; rfl) (fun id' e => ?_)
        (fun _ _ => rfl) (fun _ hp => nomatch hp) (fun id' e hs => ?_)
        (.inr ⟨id, email_id, rfl, hin, rfl⟩) fun id' e hs => ?_
      · rw [h.written i id' e, hin]
        exact ⟨fun hl => (nomatch hl), fun hl => (nomatch hl)⟩
      · cases hs
        exact ⟨(h.pending i id hin).1, List.mem_cons_self ..⟩
      · rw [hin] at hs
        cases hs
  | @failure _ id _ =>
      have hin : stage i = .pending id := hin
      exact hstay (by rw [hin]; rfl) h
  | @not_sent _ id _ =>
      have hin : stage i = .pending id := hin
      exact hstay (by rw [hin]; rfl) h
  | @save _ id email_id =>
      have hin : stage i = .sent id email_id := hin
      rw [hin]
      refine h.goes (.saved id email_id) (by rw [hin]; rfl) (fun id' e => ?_)
        (fun j hj => Function.update_of_ne hj ..) (fun _ hp => nomatch hp) (fun id' e hs => ?_)
        (.inl rfl) fun id' e hs => ?_
      · rw [Function.update_self]
        simp
      · cases hs
        exact h.sent i id email_id (by rw [hin]; rfl)
      · rw [hin] at hs
        exact hs
  | commit =>
      have hidle : Stage.adv (stage i) (⟨.commit, .ok⟩ : Event (Ans S D U)) = .idle := by
        cases stage i <;> rfl
      rw [hidle]
      cases hi : stage i with
      | saved id email_id => exact h.commit hi
      | sent id email_id => exact absurd hi (hin id email_id)
      | _ =>
          have hnone : w.written i = none := by
            rw [Option.eq_none_iff_forall_ne_some]
            rintro ⟨id, email_id⟩ hl
            have hsaved := (h.written i id email_id).mp hl
            rw [hi] at hsaved
            cases hsaved
          rw [World.commit, hnone]
          exact h.release (by rw [hi]; rfl)
  | @not_committed _ committed hnone =>
      have hidle : Stage.adv (stage i) (⟨.commit, committed⟩ : Event (Ans S D U)) = .idle := by
        cases stage i <;> rfl
      rw [hidle]
      refine h.release ?_
      cases hi : stage i with
      | saved id email_id =>
          rw [(h.written i id email_id).mpr hi] at hnone
          cases hnone
      | sent id email_id => exact absurd hi (hin id email_id)
      | _ => rfl
  | rollback =>
      have hidle : Stage.adv (stage i) (⟨.rollback, ()⟩ : Event (Ans S D U)) = .idle := by
        cases stage i <;> rfl
      rw [hidle]
      exact h.release hin

theorem Initial.consistent_of_run (h₀ : Initial w₀) (h : (tasks settings).Run ok w₀ c) :
    Consistent c.store (stageOf c) := by
  refine h.invariant (I := fun c => Consistent c.store (stageOf c)) h₀.consistent ?_
  intro c i o k a w hrun hi _ ha ih
  have hin : InStage o (stageOf c i) := hrun.pre hi (wp_stages settings)
  rw [stageOf_go]
  exact ih.acts hin ha

/-- In every run, at most one email is sent for a row.  What is recorded in a row is the
email that was sent for it, and an email that was sent is recorded, unless the task that
sent it has the row locked and is not over. -/
theorem emails_sent_once (h : (tasks settings).Run ok w₀ c) (h₀ : Initial w₀) :
    (c.store.emails.map Prod.fst).Nodup ∧
      (∀ id email_id, c.store.HasEmail id (some email_id) → (id, email_id) ∈ c.store.emails) ∧
      (∀ id email_id, (id, email_id) ∈ c.store.emails →
        c.store.HasEmail id (some email_id) ∨ ∃ i, c.store.locked id = some i) ∧
      ∀ id i, c.store.locked id = some i → ∀ r, c.tasks i ≠ ended r := by
  have hc := h₀.consistent_of_run h
  refine ⟨hc.nodup, hc.recorded, fun id e he => ?_, fun id i hl r hr => ?_⟩
  · refine (hc.accounted id e he).imp_right fun ⟨i, hi⟩ => ⟨i, ?_⟩
    exact (hc.locked i id).mpr (Stage.row_of_email hi)
  · have hidle : stageOf c i = .idle := h.post hr (wp_stages settings)
    have hrow := (hc.locked i id).mp hl
    rw [hidle] at hrow
    cases hrow

end Runs

/-! ## One task and one row -/

def exampleSettings : EmailSettings Nat Nat Nat where
  columns_template_id := "columns"
  all_data_template_id := "all-data"
  email_address _ := "user@example.com"
  dataset_name _ := "Dataset"
  dataset_url _ := "/datasets/1"
  manage_subscriptions_url := "/datasets/email_preferences"

def newRow : Row Nat Nat Nat := ⟨⟨⟨1, 0⟩, secondSubscription⟩, none⟩

def oneRow : World Nat Nat Nat Unit where
  rows id := if id = 0 then some newRow else none
  locked _ := none
  written _ := none
  emails := []

theorem hasEmail_oneRow (id : Nat) (email_id : Option Str) :
    oneRow.HasEmail id email_id ↔ id = 0 ∧ email_id = none := by
  constructor
  · rintro ⟨row, hrow, rfl⟩
    by_cases hid : id = 0
    · obtain rfl : newRow = row := Option.some.inj ((if_pos hid).symm.trans hrow)
      exact ⟨hid, rfl⟩
    · cases (if_neg hid).symm.trans hrow
  · rintro ⟨rfl, rfl⟩
    exact ⟨newRow, rfl, rfl⟩

theorem initial_oneRow : Initial oneRow where
  locked _ := rfl
  written _ := rfl
  nodup := .nil
  recorded id email_id := by
    rw [hasEmail_oneRow]
    exact ⟨fun h => (nomatch h.2), fun h => (nomatch h)⟩

/-- The email is sent and recorded. -/
theorem emails_sent_once_oneRow :
    ∃ c, (tasks exampleSettings).Run Always oneRow c ∧
      c.store.emails = [(0, ("email" : Str))] ∧
      (c.store.emails.map Prod.fst).Nodup ∧
      (∀ id email_id, c.store.HasEmail id (some email_id) → (id, email_id) ∈ c.store.emails) ∧
      (∀ id email_id, (id, email_id) ∈ c.store.emails →
        c.store.HasEmail id (some email_id) ∨ ∃ i, c.store.locked id = some i) ∧
      ∀ id i, c.store.locked id = some i → ∀ r, c.tasks i ≠ ended r := by
  have hcreated : Acts () .create_notifications oneRow (.ok ()) oneRow :=
    .created (fun _ _ h => h) fun _ _ hnone hrow => nomatch hnone.symm.trans hrow
  have hpending : Acts () .pending oneRow [0] oneRow := .pending fun id => by
    rw [List.mem_singleton]
    exact ((hasEmail_oneRow id none).trans (and_iff_left rfl)).symm
  have h₀ : (tasks exampleSettings).Run Always oneRow ((tasks exampleSettings).start oneRow) :=
    .refl
  have h₁ := h₀.step (i := ()) rfl trivial hcreated
  have h₂ := h₁.step (i := ()) rfl trivial hpending
  have h₃ := h₂.step (i := ()) rfl trivial (@Acts.lock _ _ _ _ _ _ _ _ newRow rfl rfl)
  have h₄ := h₃.step (i := ()) rfl trivial (@Acts.refresh _ _ _ _ _ _ _ _ newRow rfl)
  have h₅ := h₄.step (i := ()) rfl trivial
    (@Acts.changelog _ _ _ _ _ _ _ _ (some [tableCreated]))
  have h₆ := h₅.step (i := ()) rfl trivial (@Acts.sent _ _ _ _ _ _ _ _ _ "email")
  have h₇ := h₆.step (i := ()) rfl trivial .save
  have h₈ := h₇.step (i := ()) rfl trivial .commit
  exact ⟨_, h₈, rfl, emails_sent_once h₈ initial_oneRow⟩

end Notifications
