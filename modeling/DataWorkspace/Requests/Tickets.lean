import DataWorkspace.Requests.AccessRequests
import DataWorkspace.Requests.DataRequests
import Mathlib.Data.Fintype.Basic

/-!
# Tickets about requests

Any number of requests to the pages of one row run at a time.  A page that asks for a ticket
looks at the row, asks, and writes the row.  A page of a form loads the whole row and writes the
whole row.  Neither locks it.

`ticket_filed_once` is about the runs in which no page decides to ask for a ticket while another
is doing so, or has lost the one that was created, and none writes a reference while a form is to
write back a row that was loaded before.  Without that two tickets are created, and a reference
that was written is erased.
-/

namespace Requests

open Py Async Filings

/-- At most one ticket is created about the row, and a reference that is written stays. -/
def TicketKept {ρ κ τ ε α ι : Type} [DecidableEq ι] (S : Shared (Ans ρ κ) ε α ι (Desk ρ))
    (ok : FilingConfig ρ κ ε α ι → ι → Op ρ κ → Prop) (reference : ρ → Option τ) (row : ρ) :
    Prop :=
  ∀ c, S.Run ok ⟨row, []⟩ c → c.store.tickets.length ≤ 1 ∧
    ∀ c', S.Later ok c c' → ∀ ref,
      reference c.store.row = some ref → reference c'.store.row = some ref

end Requests

namespace RequestAccess

open Py Async Filings Requests

/-- A request, with its user and what is found for catalogue items meanwhile. -/
structure Incoming where
  user : Nat
  find_dataset_or_visualisation : Nat → Except Exc CatalogueItem
  request : Request

variable {ι : Type}

def serving (incoming : ι → Incoming) :
    Shared (Ans AccessRequest Ticket) Exc (Response Page AccessRequest) ι (Desk AccessRequest) :=
  requests fun i =>
    (incoming i).request.serve (incoming i).user (incoming i).find_dataset_or_visualisation

abbrev ServingConfig (ι : Type) :=
  FilingConfig AccessRequest Ticket Exc (Response Page AccessRequest) ι

def plans (incoming : ι → Incoming) (i : ι) : Plan AccessRequest :=
  (incoming i).request.plan (incoming i).find_dataset_or_visualisation

end RequestAccess

namespace RequestData

open Py Async Filings Requests

variable {ι : Type}

def serving (incoming : ι → Request) :
    Shared (Ans DataRequest Ticket) Exc (Response Url DataRequest) ι (Desk DataRequest) :=
  requests fun i => (incoming i).serve

abbrev ServingConfig (ι : Type) :=
  FilingConfig DataRequest Ticket Exc (Response Url DataRequest) ι

def plans (incoming : ι → Request) (i : ι) : Plan DataRequest := (incoming i).plan

end RequestData

namespace Requests

open Py Async Filings

/-- In every run whose requests keep apart, one ticket at most is created about an access
request or a data request, and the reference that is written stays. -/
theorem ticket_filed_once (ι : Type) [DecidableEq ι] (incoming : ι → RequestAccess.Incoming)
    (requests : ι → RequestData.Request) (requester : Nat) (catalogue_item_id : Option Nat)
    (contact_email reason_for_access : Option Str) :
    TicketKept (RequestAccess.serving incoming) (Apart (RequestAccess.plans incoming))
        RequestAccess.filing.reference
        (RequestAccess.created requester catalogue_item_id contact_email reason_for_access) ∧
      TicketKept (RequestData.serving requests) (Apart (RequestData.plans requests))
        RequestData.filing.reference (RequestData.created requester) := by
  constructor
  · intro c hrun
    exact filed_once (fun i => (incoming i).request.follows)
      (fun i => (incoming i).request.allows) trivial rfl hrun
  · intro c hrun
    exact filed_once (fun i => (requests i).follows) (fun i => (requests i).allows)
      ⟨fun _ => rfl, fun _ => rfl⟩ rfl hrun

/-! ## Runs -/

section Examples

/-- The service creates every ticket, with the numbers from one on. -/
def answer {ρ ι : Type} : Choice (Ans ρ Ticket) ι (Desk ρ)
  | _, .check, s => some (s.row, s)
  | _, .load, s => some (s.row, s)
  | _, .create _, s =>
      some (.ok (s.tickets.length + 1), { s with tickets := s.tickets ++ [s.tickets.length + 1] })
  | _, .save row, s => some ((), { s with row := row })

theorem answer_acts {ρ ε α ι : Type} {prog : ι → Prog (Ans ρ Ticket) ε α} :
    ∀ i o s a s', answer i o s = some (a, s') → (requests prog).act i o s a s' := by
  intro i o s a s' h
  cases o <;> cases h
  · exact ⟨rfl, rfl⟩
  · exact ⟨rfl, rfl⟩
  · rfl
  · rfl

instance {ρ ε α ι : Type} [DecidableEq ρ] [Fintype ι] (plan : ι → Plan ρ)
    (c : FilingConfig ρ Ticket ε α ι) (i : ι) : ∀ o, Decidable (Apart plan c i o)
  | .check => .isTrue trivial
  | .load => inferInstanceAs (Decidable (stage plan c i = .waiting → plan i c.store.row = .file →
      ∀ j, (stage plan c j).Files = false))
  | .create _ => .isTrue trivial
  | .save _ => inferInstanceAs (Decidable ((stage plan c i).Refers = true →
      ∀ j, (stage plan c j).Writes = false))

/-- The pages of an access request for tools only, while a schedule says who goes on. -/
def playAccess (incoming : Bool → RequestAccess.Incoming)
    (ok : RequestAccess.ServingConfig Bool → Bool → Op RequestAccess.AccessRequest Ticket → Prop)
    [∀ c i o, Decidable (ok c i o)] (schedule : List Bool) : RequestAccess.ServingConfig Bool :=
  ((RequestAccess.serving incoming).start ⟨RequestAccess.created 7 none none none, []⟩).play
    answer ok schedule

/-- The pages of a data request. -/
def playData (incoming : Fin 6 → RequestData.Request)
    (ok : RequestData.ServingConfig (Fin 6) → Fin 6 → Op RequestData.DataRequest Ticket → Prop)
    [∀ c i o, Decidable (ok c i o)] (schedule : List (Fin 6)) :
    RequestData.ServingConfig (Fin 6) :=
  ((RequestData.serving incoming).start ⟨RequestData.created 7, []⟩).play answer ok schedule

/-- The confirmation page is loaded by the requester. -/
def confirmation : RequestAccess.Incoming := ⟨7, fun _ => .error .Http404, .confirmation_get⟩

def answers : Fin 6 → RequestData.Request
  | 0 => .post_form (.who_are_you "IAO") false
  | 1 => .post_form (.description "Sales") false
  | 2 => .post_form (.purpose "Planning") false
  | 3 => .post_form (.security_classification "official") false
  | _ => .check_answers_post

/-- Two loads of a confirmation page, and two posts of answers, one after the other. -/
theorem ticket_filed_once_one_by_one :
    (playAccess (fun _ => confirmation) (Apart (RequestAccess.plans fun _ => confirmation))
      [true, true, true, true, true, false, false, false]).store.tickets = [1] ∧
    TicketKept (RequestAccess.serving fun _ : Bool => confirmation)
      (Apart (RequestAccess.plans fun _ => confirmation)) RequestAccess.filing.reference
      (RequestAccess.created 7 none none none) ∧
    (playData answers (Apart (RequestData.plans answers))
      [0, 0, 1, 1, 2, 2, 3, 3, 4, 4, 4, 5]).store.tickets = [1] ∧
    TicketKept (RequestData.serving answers) (Apart (RequestData.plans answers))
      RequestData.filing.reference (RequestData.created 7) :=
  ⟨by decide +kernel, (ticket_filed_once Bool _ (fun _ => .check_answers_post) 7 none none none).1,
    by decide +kernel, (ticket_filed_once (Fin 6) (fun _ => confirmation) answers 7 none none none).2⟩

/-- A form is posted to a page of the access request while its confirmation page is loaded. -/
def editAndConfirmation : Bool → RequestAccess.Incoming
  | true => ⟨7, fun _ => .error .Http404, .post_form (.tools_2 true)⟩
  | false => confirmation

/-- Both loads of the confirmation page find no reference before either writes one, and both
posts of the answers find a draft.  A form that was loaded before the reference was written
erases it. -/
theorem two_tickets :
    (¬ TicketKept (RequestAccess.serving fun _ : Bool => confirmation) Always
      RequestAccess.filing.reference (RequestAccess.created 7 none none none)) ∧
    (¬ TicketKept (RequestData.serving answers) Always RequestData.filing.reference
      (RequestData.created 7)) ∧
    ¬ TicketKept (RequestAccess.serving editAndConfirmation) Always
      RequestAccess.filing.reference (RequestAccess.created 7 none none none) := by
  refine ⟨fun h => ?_, fun h => ?_, fun h => ?_⟩
  · have hrun : (RequestAccess.serving fun _ : Bool => confirmation).Run Always _
        (playAccess (fun _ => confirmation) Always [true, true, false, false, true, false]) :=
      Shared.run_play answer_acts _ _
    exact absurd (h _ hrun).1 (by decide +kernel)
  · have hrun : (RequestData.serving answers).Run Always _
        (playData answers Always [0, 0, 1, 1, 2, 2, 3, 3, 4, 5, 4, 5]) :=
      Shared.run_play answer_acts _ _
    exact absurd (h _ hrun).1 (by decide +kernel)
  · have hrun : (RequestAccess.serving editAndConfirmation).Run Always _
        (playAccess editAndConfirmation Always [true, true, false, false, false, false]) :=
      Shared.run_play answer_acts _ _
    have hlater : (RequestAccess.serving editAndConfirmation).Later Always _
        (Config.play answer Always
          (playAccess editAndConfirmation Always [true, true, false, false, false, false])
          [true]) := Config.later_play answer_acts _ _
    exact absurd ((h _ hrun).2 _ hlater ['1'] (by decide +kernel)) (by decide +kernel)

end Examples

end Requests
