import DataWorkspace.Requests.UpdateViews

/-!
# What a request gets at

One request at a time, each to the end.  A `Visit` is the row and what the request did so far:
that it read the row or wrote it, and in whose name a ticket was raised.  Looking whose the row
is does not count as reading it.
-/

namespace Requests

open Async Filings

inductive Event where
  /-- A row was read. -/
  | read (owner : Nat)
  /-- A row was changed. -/
  | changed (owner : Nat)
  /-- A ticket was raised. -/
  | raised (requester : Nat)
deriving DecidableEq, Repr

def Event.owner : Event → Nat
  | .read owner => owner
  | .changed owner => owner
  | .raised requester => requester

structure Visit (ρ : Type) where
  row : ρ
  events : List Event

section

variable {ρ π α β : Type} (requester : ρ → Nat) (zendesk : Except Bool Nat)

/-- What comes of asking for a ticket: it is not raised where none was created. -/
def raising (ticket : Ticket) : List Event :=
  match zendesk with
  | .error false => []
  | _ => [.raised ticket.requester]

/-- The operations, where Zendesk answers in this way. -/
def Visit.exec : (o : Op ρ Ticket) → Visit ρ → Ans ρ Ticket o × Visit ρ
  | .check, v => (v.row, v)
  | .load, v => (v.row, { v with events := v.events ++ [.read (requester v.row)] })
  | .create ticket, v => (zendesk, { v with events := v.events ++ raising zendesk ticket })
  | .save row, v => ((), ⟨row, v.events ++ [.changed (requester v.row)]⟩)

/-- A request to the end. -/
def visit (view : M ρ α) (row : ρ) : Visit ρ :=
  (view.run (Visit.exec requester zendesk) ⟨row, []⟩).2

/-- The row is the user's, and all that was got at. -/
def Visit.Mine (user : Nat) (v : Visit ρ) : Prop :=
  requester v.row = user ∧ ∀ e ∈ v.events, e.owner = user

/-- The operations of a user that keep to the user's own: a row keeps its requester, and a
ticket is raised in the user's name. -/
def visiting (user : Nat) : Interp (Ans ρ Ticket) (Visit ρ) where
  step o v a v' := Visit.exec requester zendesk o v = (a, v')
  pre o v := match o with
    | .save row => requester row = requester v.row
    | .create ticket => ticket.requester = user
    | _ => True

variable {requester zendesk} {user : Nat}

theorem Visit.Mine.append {v : Visit ρ} {row : ρ} {events : List Event} (h : v.Mine requester user)
    (hrow : requester row = user) (hevents : ∀ e ∈ events, e.owner = user) :
    Visit.Mine requester user ⟨row, v.events ++ events⟩ := by
  refine ⟨hrow, fun e he => ?_⟩
  rcases List.mem_append.mp he with hold | hnew
  · exact h.2 e hold
  · exact hevents e hnew

theorem owner_of_singleton {e : Event} (he : e.owner = user) : ∀ e' ∈ [e], e'.owner = user :=
  fun _ he' => List.mem_singleton.mp he' ▸ he

theorem owner_of_raising {ticket : Ticket} (h : ticket.requester = user) :
    ∀ e ∈ raising zendesk ticket, e.owner = user := by
  unfold raising
  split
  · exact fun e he => absurd he List.not_mem_nil
  · exact owner_of_singleton h

theorem Visit.Mine.exec {v : Visit ρ} {o : Op ρ Ticket} (h : v.Mine requester user)
    (hpre : (visiting requester zendesk user).pre o v) :
    (Visit.exec requester zendesk o v).2.Mine requester user := by
  cases o with
  | check => exact h
  | load => exact h.append h.1 (owner_of_singleton h.1)
  | create ticket => exact h.append h.1 (owner_of_raising hpre)
  | save row =>
      exact h.append ((show requester row = _ from hpre).trans h.1) (owner_of_singleton h.1)

/-- A request that keeps to the user's own only gets at the user's own. -/
theorem mine_of_wp {p : M ρ α} {v : Visit ρ} {Q : Except Exc α → Visit ρ → Prop}
    (hw : wp (visiting requester zendesk user) p Q v) (h : v.Mine requester user) :
    (p.run (Visit.exec requester zendesk) v).2.Mine requester user := by
  induction p generalizing v with
  | pure a => exact h
  | raise e => exact h
  | op o k ih =>
      obtain ⟨hpre, hk⟩ := hw
      exact ih _ (hk _ _ rfl) (h.exec hpre)

theorem visit_mine {view : M ρ α} {row : ρ}
    (hw : Meets (visiting requester zendesk user) view ⟨row, []⟩) (h : requester row = user) :
    (visit requester zendesk view row).Mine requester user :=
  mine_of_wp hw ⟨h, fun _ he => absurd he List.not_mem_nil⟩

theorem events_run {p : M ρ α} {v : Visit ρ} :
    v.events ⊆ (p.run (Visit.exec requester zendesk) v).2.events := by
  refine Prog.run_rel (R := fun v v' => v.events ⊆ v'.events) (fun _ => List.Subset.refl _)
    (fun h h' => List.Subset.trans h h') (fun o v _ => ?_) (Prog.only_true p) v
  cases o with
  | check => exact List.Subset.refl _
  | load => exact List.subset_append_left _ _
  | create ticket => exact List.subset_append_left _ _
  | save row => exact List.subset_append_left _ _

theorem read_of_load {k : ρ → M ρ α} {row : ρ} :
    .read (requester row) ∈ (visit requester zendesk (execute .load >>= k) row).events := by
  have hmono : [Event.read (requester row)] ⊆
      (visit requester zendesk (execute .load >>= k) row).events :=
    events_run (p := k row) (v := ⟨row, [.read (requester row)]⟩)
  exact hmono (List.mem_singleton_self _)

/-! ## The views -/

theorem meets_load {k : ρ → M ρ α} {v : Visit ρ}
    (h : Meets (visiting requester zendesk user) (k v.row)
      { v with events := v.events ++ [.read (requester v.row)] }) :
    Meets (visiting requester zendesk user) (execute .load >>= k) v := by
  refine ⟨trivial, fun row v' hexec => ?_⟩
  cases hexec
  exact h

theorem meets_check {k : ρ → M ρ α} {v : Visit ρ}
    (h : Meets (visiting requester zendesk user) (k v.row) v) :
    Meets (visiting requester zendesk user) (execute .check >>= k) v := by
  refine ⟨trivial, fun row v' hexec => ?_⟩
  cases hexec
  exact h

theorem visit_check {k : ρ → M ρ α} {row : ρ} :
    visit requester zendesk (execute .check >>= k) row = visit requester zendesk (k row) row := rfl

theorem meets_get {page : π} {v : Visit ρ} :
    Meets (visiting requester zendesk user) (DetailView.get page : M ρ _) v :=
  meets_load trivial

theorem meets_post {page : π} {form : Form ρ} {get_success_url : ρ → π} {v : Visit ρ}
    (h : ∀ row object, form row = .ok (some object) → requester object = requester row) :
    Meets (visiting requester zendesk user) (UpdateView.post page form get_success_url) v := by
  refine meets_load ?_
  cases hform : form v.row with
  | error e => trivial
  | ok object =>
      cases object with
      | none => trivial
      | some object => exact ⟨h _ _ hform, fun _ _ _ => trivial⟩

theorem meets_filing {ticket : Ticket} {filed : Nat → ρ} {k : Unit → M ρ α} {v : Visit ρ}
    (hticket : ticket.requester = user) (hfiled : ∀ id, requester (filed id) = requester v.row)
    (hk : ∀ v, Meets (visiting requester zendesk user) (k ()) v) :
    Meets (visiting requester zendesk user) (file ticket filed >>= k) v := by
  refine ⟨hticket, fun answer v' hexec => ?_⟩
  have hrow : v'.row = v.row := by
    cases hexec
    rfl
  cases answer with
  | error created => trivial
  | ok id =>
      refine ⟨?_, fun _ v _ => hk v⟩
      show requester (filed id) = requester v'.row
      rw [hfiled, hrow]

end

end Requests
