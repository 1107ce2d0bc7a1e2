import DataWorkspace.Notifications.Sending

/-!
# One notification at a time

The loop over the notifications gives each of them a transaction, and goes on after an
`IntegrityError` and after an email that could not be sent.  Nothing else is caught: not a row
that is gone, nor a change that is no longer in the changelog.  And `template_id` keeps its value
from one notification to the next, where a change has neither a new structure nor a new hash.

`Answers` are what each notification meets, on its own.  `isolated_iff` says when a run does for
every notification what it would do for that notification alone.
-/

namespace Notifications

open Py Async

variable {S D U : Type}

/-! ## A run -/

/-- What is answered while each notification is processed. -/
structure Answers (S D U : Type) where
  pending : List Nat
  pending_nodup : pending.Nodup
  lock : Nat → Option (Row S D U)
  refresh : Nat → Option (Option Str)
  changelog : Nat → Option (List DetailedChange)
  send_email : Nat → Sent
  commit : Nat → Committed

/-- An email that the service was asked to send for a notification, and an id of an email that
was recorded. -/
inductive Event where
  | sent (id : Nat) (email : Email) (answer : Sent)
  | recorded (id : Nat) (email_id : Str)

def Event.id : Event → Nat
  | .sent id _ _ => id
  | .recorded id _ => id

/-- The notification that is processed, what its transaction wrote, and the events. -/
structure Progress where
  current : Nat
  unsaved : List Event
  events : List Event

namespace Answers

variable (a : Answers S D U)

/-- What an operation answers, and what it leaves. -/
def exec : (o : Op S D U) → Progress → Ans S D U o × Progress
  | .create_notifications, p => (.ok (), p)
  | .pending, p => (a.pending, p)
  | .lock id, p => (a.lock id, { p with current := id, unsaved := [] })
  | .refresh id, p => (a.refresh id, p)
  | .changelog _, p => (a.changelog p.current, p)
  | .send_email id email, p =>
      (a.send_email id, { p with events := p.events ++ [.sent id email (a.send_email id)] })
  | .save id email_id, p => ((), { p with unsaved := [.recorded id email_id] })
  | .commit, p =>
      (a.commit p.current,
        match a.commit p.current with
        | .ok => { p with unsaved := [], events := p.events ++ p.unsaved }
        | _ => { p with unsaved := [] })
  | .rollback, p => ((), { p with unsaved := [] })

variable (settings : EmailSettings S D U)

/-! ## A notification on its own -/

/-- What there is to do for a notification. -/
inductive Due where
  /-- A lookup raises, or finds no change. -/
  | raises
  /-- The email was sent already. -/
  | done
  /-- The change has neither a new structure nor a new hash. -/
  | unchanged (row : Row S D U) (change : DetailedChange)
  | email (email : Email) (template_id : Str)

def due (id : Nat) : Due (S := S) (D := D) (U := U) :=
  match a.lock id, a.refresh id with
  | some _, some (some _) => .done
  | some row, some none =>
      match (a.changelog id).bind fun changelog =>
          get_change_item changelog row.notification.changelog_id with
      | none => .raises
      | some change =>
          match templateFor settings none change with
          | none => .unchanged row change
          | some template => .email (emailFor settings template row change) template
  | _, _ => .raises

/-- What is to be done for a notification: an email of its own, with what comes of it. -/
def alone (id : Nat) : List Event :=
  match a.due settings id with
  | .email email _ =>
      .sent id email (a.send_email id) ::
        match a.send_email id, a.commit id with
        | .email_id email_id, .ok => [.recorded id email_id]
        | _, _ => []
  | _ => []

/-- The exception ends the run. -/
def Uncaught (id : Nat) : Prop :=
  match a.due settings id with
  | .raises => True
  | .done => a.commit id = .other
  | .unchanged _ _ => True
  | .email _ _ => a.send_email id = .other ∨ a.commit id = .other

/-- An email was written for the notification, and its template chosen. -/
def Written (id : Nat) : Prop := ∃ email template, a.due settings id = .email email template

def Unchanged (id : Nat) : Prop := ∃ row change, a.due settings id = .unchanged row change

def events : List Event :=
  ((send_notifications settings).run a.exec ⟨0, [], []⟩).2.events

/-- Each notification gets what it would get alone. -/
def Isolated : Prop := a.events settings = a.pending.flatMap (a.alone settings)

/-! ## One transaction -/

variable {a settings}

theorem templateFor_of_none {change : DetailedChange}
    (h : templateFor settings none change = none) (t : Option Str) :
    templateFor settings t change = t := by
  rw [templateFor] at h ⊢
  split at h
  · cases h
  · rename_i hschema
    rw [if_neg hschema]
    split at h
    · cases h
    · rename_i hdata
      rw [if_neg hdata]

theorem templateFor_of_some {change : DetailedChange} {template : Str}
    (h : templateFor settings none change = some template) (t : Option Str) :
    templateFor settings t change = some template := by
  rw [templateFor] at h ⊢
  split at h
  · rename_i hschema
    rw [if_pos hschema, h]
  · rename_i hschema
    rw [if_neg hschema]
    split at h
    · rename_i hdata
      rw [if_pos hdata, h]
    · cases h

/-- What comes of a transaction whose commit is answered like this. -/
def committed (template_id : Option Str) : Committed → Except Exc (Option Str)
  | .ok => .ok template_id
  | .IntegrityError => .error (.IntegrityError template_id)
  | .other => .error .other

variable (a)

/-- The transaction from where the email is written. -/
def mail (id : Nat) (email : Email) (template : Str) (p : Progress) :
    Except Exc (Option Str) × Progress :=
  let p := { p with events := p.events ++ [.sent id email (a.send_email id)] }
  match a.send_email id with
  | .email_id email_id => (.ok (some template), { p with unsaved := [.recorded id email_id] })
  | .failure => (.ok (some template), p)
  | .other => (.error .other, p)

/-- The transaction up to its end. -/
def body (settings : EmailSettings S D U) (t : Option Str) (id : Nat) (p : Progress) :
    Except Exc (Option Str) × Progress :=
  let p := { p with current := id, unsaved := [] }
  match a.due settings id, t with
  | .raises, _ => (.error .other, p)
  | .done, t => (.ok t, p)
  | .unchanged _ _, none => (.error .other, p)
  | .unchanged row change, some template =>
      a.mail id (emailFor settings template row change) template p
  | .email email template, _ => a.mail id email template p

variable {a}

theorem run_mail (id : Nat) (email : Email) (template : Str) (p : Progress) :
    (do
      let sent : Sent ← await (Op.send_email id email)
      match sent with
      | .email_id email_id => do
          await (.save id email_id)
          .pure (some template)
      | .failure => .pure (some template)
      | .other => .raise .other : M S D U (Option Str)).run a.exec p =
      a.mail id email template p := by
  rw [mail, Prog.run_bind]
  simp only [await, Prog.perform, Prog.run, exec]
  cases a.send_email id with
  | email_id email_id => rfl
  | failure => rfl
  | other => rfl

theorem run_sendOne (t : Option Str) (id : Nat) (p : Progress) :
    (sendOne settings t id).run a.exec p = a.body settings t id p := by
  unfold body due sendOne
  simp only [await, Prog.perform, Prog.run, exec, Prog.run_bind]
  cases a.lock id with
  | none => rfl
  | some row =>
      simp only [orRaise, Prog.ofOption, Prog.run]
      cases a.refresh id with
      | none => rfl
      | some email_id =>
          cases email_id with
          | some email_id => rfl
          | none =>
              simp only [Prog.run, Prog.run_bind, exec]
              cases a.changelog id with
              | none => rfl
              | some changelog =>
                  simp only [Prog.run, Option.bind_some]
                  cases get_change_item changelog row.notification.changelog_id with
                  | none => rfl
                  | some change =>
                      simp only [Prog.run]
                      cases htemplate : templateFor settings none change with
                      | none =>
                          rw [templateFor_of_none htemplate]
                          cases t with
                          | none => rfl
                          | some template => exact run_mail ..
                      | some template =>
                          rw [templateFor_of_some htemplate]
                          exact run_mail ..

variable (a)

/-- A transaction is committed where its body returns, and rolled back otherwise. -/
def finish : Except Exc (Option Str) × Progress → Except Exc (Option Str) × Progress
  | (.ok t, p) => (committed t (a.commit p.current), (a.exec .commit p).2)
  | (.error e, p) => (.error e, (a.exec .rollback p).2)

variable {a}

theorem run_atomic (work : M S D U (Option Str)) (p : Progress) :
    (atomic work).run a.exec p = a.finish (work.run a.exec p) := by
  rw [atomic, Prog.run_bind, Prog.run_attempt]
  rcases work.run a.exec p with ⟨e | t, p'⟩
  · rfl
  · simp only [await, Prog.perform, Prog.run, exec, Prog.run_bind, finish]
    cases a.commit p'.current <;> rfl

theorem run_sendAll_cons (t : Option Str) (id : Nat) (ids : List Nat) (p : Progress) :
    (sendAll settings t (id :: ids)).run a.exec p =
      match (atomic (sendOne settings t id)).run a.exec p with
      | (.ok t', p') => (sendAll settings t' ids).run a.exec p'
      | (.error (.IntegrityError t'), p') => (sendAll settings t' ids).run a.exec p'
      | (.error .other, p') => (.error .other, p') := by
  rw [sendAll, Prog.run_bind, Prog.run_attempt]
  rcases (atomic (sendOne settings t id)).run a.exec p with ⟨(_ | _) | t', p'⟩ <;> rfl

theorem finish_mail (id : Nat) (email : Email) (template : Str) (p : Progress)
    (hcurrent : p.current = id) (hunsaved : p.unsaved = []) :
    (a.finish (a.mail id email template p)).1 =
        (match a.send_email id with
          | .other => .error .other
          | _ => committed (some template) (a.commit id)) ∧
      (a.finish (a.mail id email template p)).2.events =
        p.events ++ .sent id email (a.send_email id) ::
          match a.send_email id, a.commit id with
          | .email_id email_id, .ok => [.recorded id email_id]
          | _, _ => [] := by
  unfold mail
  cases a.send_email id with
  | other => exact ⟨rfl, rfl⟩
  | failure => cases hcommit : a.commit id <;> simp [finish, exec, hcurrent, hunsaved, hcommit]
  | email_id email_id => cases hcommit : a.commit id <;> simp [finish, exec, hcurrent, hcommit]

/-- What a notification does to a run: its own events, and the run ends if its exception is not
caught.  The template outlives it. -/
theorem run_sendAll_step (t : Option Str) (id : Nat) (ids : List Nat) (p : Progress)
    (ht : a.Unchanged settings id → t = none) :
    ∃ p', p'.events = p.events ++ a.alone settings id ∧
      (a.Uncaught settings id →
        (sendAll settings t (id :: ids)).run a.exec p = (.error .other, p')) ∧
      (¬ a.Uncaught settings id → ∃ t' : Option Str,
        (t'.isSome = true ↔ t.isSome = true ∨ a.Written settings id) ∧
          (sendAll settings t (id :: ids)).run a.exec p =
            (sendAll settings t' ids).run a.exec p') := by
  refine ⟨(a.finish (a.body settings t id p)).2, ?_⟩
  rw [run_sendAll_cons, run_atomic, run_sendOne]
  cases hdue : a.due settings id with
  | raises =>
      have halone : a.alone settings id = [] := by rw [alone, hdue]
      have huncaught : a.Uncaught settings id := by rw [Uncaught, hdue]; trivial
      have hbody : a.body settings t id p =
          (.error .other, { p with current := id, unsaved := [] }) := by simp only [body, hdue]
      rw [hbody, halone]
      exact ⟨(List.append_nil _).symm, fun _ => rfl, fun h => absurd huncaught h⟩
  | done =>
      have halone : a.alone settings id = [] := by rw [alone, hdue]
      have huncaught : a.Uncaught settings id ↔ a.commit id = .other := by rw [Uncaught, hdue]
      have hwritten : ¬ a.Written settings id := by
        rintro ⟨email, template, he⟩
        rw [hdue] at he
        cases he
      have hbody : a.body settings t id p =
          (.ok t, { p with current := id, unsaved := [] }) := by simp only [body, hdue]
      rw [hbody, halone, huncaught]
      cases hcommit : a.commit id with
      | ok =>
          refine ⟨by simp [finish, exec, hcommit], (fun h => by cases h), fun _ => ⟨t, ?_, ?_⟩⟩
          · simp [hwritten]
          · simp [finish, exec, hcommit, committed]
      | IntegrityError =>
          refine ⟨by simp [finish, exec, hcommit], (fun h => by cases h), fun _ => ⟨t, ?_, ?_⟩⟩
          · simp [hwritten]
          · simp [finish, exec, hcommit, committed]
      | other =>
          refine ⟨by simp [finish, exec, hcommit], fun _ => ?_, fun h => absurd rfl h⟩
          simp [finish, exec, hcommit, committed]
  | unchanged row change =>
      have halone : a.alone settings id = [] := by rw [alone, hdue]
      have huncaught : a.Uncaught settings id := by rw [Uncaught, hdue]; trivial
      have hbody : a.body settings t id p =
          (.error .other, { p with current := id, unsaved := [] }) := by
        rw [ht ⟨row, change, hdue⟩]
        simp only [body, hdue]
      rw [hbody, halone]
      exact ⟨(List.append_nil _).symm, fun _ => rfl, fun h => absurd huncaught h⟩
  | email email template =>
      have huncaught : a.Uncaught settings id ↔ a.send_email id = .other ∨ a.commit id = .other := by
        rw [Uncaught, hdue]
      have hwritten : a.Written settings id := ⟨email, template, hdue⟩
      have hbody : a.body settings t id p =
          a.mail id email template { p with current := id, unsaved := [] } := by simp only [body, hdue]
      obtain ⟨hresult, hevents⟩ :=
        finish_mail (a := a) id email template { p with current := id, unsaved := [] } rfl rfl
      rw [hbody, huncaught, alone, hdue]
      refine ⟨hevents, ?_⟩
      rcases hfinish : a.finish (a.mail id email template { p with current := id, unsaved := [] })
        with ⟨result, p'⟩
      rw [hfinish] at hresult
      dsimp only at hresult
      rw [hresult]
      cases a.send_email id with
      | other => exact ⟨fun _ => rfl, fun h => absurd (.inl rfl) h⟩
      | failure =>
          cases a.commit id with
          | other => exact ⟨fun _ => rfl, fun h => absurd (.inr rfl) h⟩
          | ok => exact ⟨by simp, fun _ => ⟨some template, by simp [hwritten], rfl⟩⟩
          | IntegrityError => exact ⟨by simp, fun _ => ⟨some template, by simp [hwritten], rfl⟩⟩
      | email_id email_id =>
          cases a.commit id with
          | other => exact ⟨fun _ => rfl, fun h => absurd (.inr rfl) h⟩
          | ok => exact ⟨by simp, fun _ => ⟨some template, by simp [hwritten], rfl⟩⟩
          | IntegrityError => exact ⟨by simp, fun _ => ⟨some template, by simp [hwritten], rfl⟩⟩

/-! ## A run of the loop -/

theorem exec_events (o : Op S D U) (p : Progress) : p.events <+: (a.exec o p).2.events := by
  cases o with
  | send_email id email => exact List.prefix_append _ _
  | commit =>
      simp only [exec]
      cases a.commit p.current with
      | ok => exact List.prefix_append _ _
      | IntegrityError => exact List.prefix_refl _
      | other => exact List.prefix_refl _
  | create_notifications => exact List.prefix_refl _
  | pending => exact List.prefix_refl _
  | lock id => exact List.prefix_refl _
  | refresh id => exact List.prefix_refl _
  | changelog obj => exact List.prefix_refl _
  | save id email_id => exact List.prefix_refl _
  | rollback => exact List.prefix_refl _

theorem run_events {α : Type} (work : M S D U α) (p : Progress) :
    p.events <+: (work.run a.exec p).2.events :=
  Prog.run_rel (R := fun p p' => p.events <+: p'.events) (fun _ => List.prefix_refl _)
    List.IsPrefix.trans (fun o s _ => exec_events o s) (Prog.only_true work) p

theorem run_sendAll_cons_events (settings : EmailSettings S D U) (t : Option Str) (id : Nat)
    (ids : List Nat) (p : Progress) :
    ((atomic (sendOne settings t id)).run a.exec p).2.events <+:
      ((sendAll settings t (id :: ids)).run a.exec p).2.events := by
  rw [run_sendAll_cons]
  rcases (atomic (sendOne settings t id)).run a.exec p with ⟨(template_id | _) | t', p'⟩
  · exact run_events (sendAll settings template_id ids) p'
  · exact List.prefix_refl _
  · exact run_events (sendAll settings t' ids) p'

theorem run_sendAll_unchanged {template : Str} {id : Nat} (ids : List Nat) (p : Progress)
    (h : a.Unchanged settings id) :
    ∃ email more, ((sendAll settings (some template) (id :: ids)).run a.exec p).2.events =
      p.events ++ .sent id email (a.send_email id) :: more := by
  obtain ⟨row, change, hdue⟩ := h
  let email : Email := emailFor settings template row change
  have hbody : a.body settings (some template) id p =
      a.mail id email template { p with current := id, unsaved := [] } := by
    simp only [body, hdue, email]
  obtain ⟨-, hevents⟩ :=
    finish_mail (a := a) id email template { p with current := id, unsaved := [] } rfl rfl
  obtain ⟨more, hmore⟩ :=
    run_sendAll_cons_events (a := a) settings (some template) id ids p
  rw [run_atomic, run_sendOne, hbody, hevents] at hmore
  exact ⟨email, _, by rw [← hmore, List.append_assoc, List.cons_append]⟩

/-- The condition along the list, with a template chosen already or not. -/
def Clear (a : Answers S D U) (settings : EmailSettings S D U) : Prop → List Nat → Prop
  | _, [] => True
  | chosen, id :: ids =>
      (a.Unchanged settings id → ¬ chosen) ∧
        (a.Uncaught settings id → ids.flatMap (a.alone settings) = []) ∧
        (¬ a.Uncaught settings id → Clear a settings (chosen ∨ a.Written settings id) ids)

theorem alone_id {id : Nat} {e : Event} (h : e ∈ a.alone settings id) : e.id = id := by
  unfold alone at h
  split at h
  · rcases List.mem_cons.mp h with rfl | h
    · rfl
    · split at h
      · rw [List.mem_singleton.mp h]
        rfl
      · cases h
  · cases h

theorem uncaught_of_unchanged {id : Nat} (h : a.Unchanged settings id) :
    a.Uncaught settings id := by
  obtain ⟨row, change, hdue⟩ := h
  rw [Uncaught, hdue]
  trivial

/-- Along the list: each notification gets what it would get alone, if and only if no uncaught
exception comes before one with an email and no template is left for a change without one. -/
theorem run_sendAll_iff (settings : EmailSettings S D U) (t : Option Str) :
    ∀ (ids : List Nat) (p : Progress), ids.Nodup →
    (((sendAll settings t ids).run a.exec p).2.events =
      p.events ++ ids.flatMap (a.alone settings) ↔ Clear a settings (t.isSome = true) ids) := by
  intro ids
  induction ids generalizing t with
  | nil =>
      intro p _
      refine iff_of_true ?_ trivial
      exact (List.append_nil _).symm
  | cons id ids ih =>
      intro p hnodup
      obtain ⟨hid, hids⟩ := List.nodup_cons.mp hnodup
      by_cases hleft : a.Unchanged settings id ∧ t.isSome = true
      · obtain ⟨hunchanged, hsome⟩ := hleft
        refine iff_of_false ?_ fun h => h.1 hunchanged hsome
        obtain ⟨template, rfl⟩ := Option.isSome_iff_exists.mp hsome
        obtain ⟨email, more, hevents⟩ := run_sendAll_unchanged (p := p) ids hunchanged
        intro he
        have hhead := List.append_cancel_left (hevents.symm.trans he)
        have hmem : Event.sent id email (a.send_email id) ∈
            (id :: ids).flatMap (a.alone settings) := hhead ▸ List.mem_cons_self
        have halone : a.alone settings id = [] := by
          obtain ⟨row, change, hdue⟩ := hunchanged
          rw [alone, hdue]
        rw [List.flatMap_cons, halone, List.nil_append] at hmem
        obtain ⟨id', hid', hevent⟩ := List.mem_flatMap.mp hmem
        have hsame : id = id' := alone_id hevent
        exact hid (hsame ▸ hid')
      · have ht : a.Unchanged settings id → t = none := by
          intro hunchanged
          rw [← Option.not_isSome_iff_eq_none]
          exact fun hsome => hleft ⟨hunchanged, hsome⟩
        obtain ⟨p', hevents, huncaught, hcaught⟩ := run_sendAll_step t id ids p ht
        rw [Clear, List.flatMap_cons, ← List.append_assoc, ← hevents]
        by_cases hraise : a.Uncaught settings id
        · rw [huncaught hraise]
          simp only [hraise, not_true, false_implies, and_true, true_implies]
          constructor
          · intro he
            exact ⟨fun h hs => hleft ⟨h, hs⟩, List.append_cancel_left (he.symm.trans (List.append_nil _).symm)⟩
          · rintro ⟨-, hnil⟩
            rw [hnil, List.append_nil]
        · obtain ⟨t', ht', hrun⟩ := hcaught hraise
          rw [hrun, ih t' p' hids, propext ht']
          simp only [hraise, not_false_iff, true_implies, false_implies, true_and]
          exact ⟨fun h => ⟨fun hu => absurd (uncaught_of_unchanged hu) hraise, h⟩, fun h => h.2⟩

theorem clear_iff (chosen : Prop) : ∀ ids : List Nat,
    Clear a settings chosen ids ↔ ∀ before id after, ids = before ++ id :: after →
      (∀ u ∈ before, ¬ a.Uncaught settings u) →
        (a.Unchanged settings id → ¬ chosen ∧ ∀ u ∈ before, ¬ a.Written settings u) ∧
          (a.Uncaught settings id → ∀ u ∈ after, a.alone settings u = []) := by
  intro ids
  induction ids generalizing chosen with
  | nil =>
      refine iff_of_true trivial fun before id after he => ?_
      exact absurd he.symm (List.append_ne_nil_of_right_ne_nil _ (List.cons_ne_nil _ _))
  | cons id ids ih =>
      rw [Clear]
      constructor
      · rintro ⟨hunchanged, huncaught, hrest⟩ before u after he hbefore
        cases before with
        | nil =>
            cases he
            exact ⟨fun h => ⟨hunchanged h, fun _ h => absurd h List.not_mem_nil⟩,
              fun h => List.flatMap_eq_nil_iff.mp (huncaught h)⟩
        | cons first before =>
            cases he
            obtain ⟨hfirst, hbefore⟩ := List.forall_mem_cons.mp hbefore
            obtain ⟨h₁, h₂⟩ := (ih _).mp (hrest hfirst) before u after rfl hbefore
            refine ⟨fun h => ?_, h₂⟩
            obtain ⟨hchosen, hwritten⟩ := h₁ h
            exact ⟨fun hc => hchosen (.inl hc),
              List.forall_mem_cons.mpr ⟨fun hw => hchosen (.inr hw), hwritten⟩⟩
      · intro h
        obtain ⟨hunchanged, huncaught⟩ := h [] id ids rfl fun _ hu => absurd hu List.not_mem_nil
        refine ⟨fun hu => (hunchanged hu).1, fun hu => List.flatMap_eq_nil_iff.mpr (huncaught hu),
          fun hcaught => (ih _).mpr ?_⟩
        rintro before u after rfl hbefore
        obtain ⟨h₁, h₂⟩ := h (id :: before) u after rfl (List.forall_mem_cons.mpr ⟨hcaught, hbefore⟩)
        refine ⟨fun hu => ?_, h₂⟩
        obtain ⟨hchosen, hwritten⟩ := h₁ hu
        obtain ⟨hfirst, hwritten⟩ := List.forall_mem_cons.mp hwritten
        exact ⟨fun hc => hc.elim hchosen hfirst, hwritten⟩

end Answers

/-- Each notification gets what it would get alone if and only if, as far as the run goes, no
exception that is not caught comes before a notification with an email to be sent, and no change
without a difference comes behind one whose email was written. -/
theorem isolated_iff (settings : EmailSettings S D U) (a : Answers S D U) :
    a.Isolated settings ↔ ∀ before id after, a.pending = before ++ id :: after →
      (∀ u ∈ before, ¬ a.Uncaught settings u) →
        (a.Uncaught settings id → ∀ u ∈ after, a.alone settings u = []) ∧
          (a.Unchanged settings id → ∀ u ∈ before, ¬ a.Written settings u) := by
  have hrun : a.events settings =
      ((sendAll settings none a.pending).run a.exec ⟨0, [], []⟩).2.events := rfl
  rw [Answers.Isolated, hrun]
  have hiff := Answers.run_sendAll_iff (a := a) settings none a.pending ⟨0, [], []⟩
    a.pending_nodup
  rw [List.nil_append] at hiff
  rw [hiff, Answers.clear_iff]
  constructor
  · intro h before id after he hbefore
    obtain ⟨hunchanged, huncaught⟩ := h before id after he hbefore
    exact ⟨huncaught, fun hu => (hunchanged hu).2⟩
  · intro h before id after he hbefore
    obtain ⟨huncaught, hunchanged⟩ := h before id after he hbefore
    exact ⟨fun hu => ⟨Bool.false_ne_true, hunchanged hu⟩, huncaught⟩

section Examples

/-- A row that was written again with the same structure and hash. -/
def rewritten : DetailedChange :=
  { tableCreated with previous_table_structure := tableCreated.table_structure
                      previous_data_hash := tableCreated.data_hash }

/-- Two notifications for one change, of which `changelog` says what it is found in. -/
def twoRows (changelog : Nat → List DetailedChange) : Answers Nat Nat Nat where
  pending := [0, 1]
  pending_nodup := by decide
  lock _ := some newRow
  refresh _ := some none
  changelog id := some (changelog id)
  send_email _ := .email_id "email"
  commit _ := .ok

/-- A change that is no longer in the changelog keeps the notification behind it from being sent,
and a change without a difference is sent with the template of the one before it. -/
theorem not_isolated :
    (¬ (twoRows fun id => if id = 0 then [] else [tableCreated]).Isolated exampleSettings) ∧
      ¬ (twoRows fun id => if id = 0 then [tableCreated] else [rewritten]).Isolated
        exampleSettings := by
  constructor
  · intro h
    exact absurd (congrArg List.length h) (by decide +kernel)
  · intro h
    exact absurd (congrArg List.length h) (by decide +kernel)

end Examples

end Notifications
