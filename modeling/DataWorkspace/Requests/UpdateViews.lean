import DataWorkspace.Async.Filing
import DataWorkspace.Py.Space

/-!
# Views of one row

The access requests and the data requests are rows that a user fills in page by page.  A page
loads the row, shows it or takes the values of its form over, and writes the whole row back.
One page of each asks Zendesk for a ticket, and writes the row with its reference.

The operations are those of `Async.Filings`.  `follows_get` and `follows_post`
say what the generic views do with the row that they load.
-/

namespace Requests

open Py Async Filings

/-! ## Programs -/

inductive Exc where
  | Http404
  /-- Any exception that the view does not expect. -/
  | uncaught
deriving DecidableEq, Repr

/-- A ticket that is asked for: the user in whose name it is, and its tag. -/
structure Ticket where
  requester : Nat
  tag : Option Str
deriving DecidableEq, Repr

/-- A page with the values of a row, or the page to go to. -/
inductive Response (π ρ : Type) where
  | render (page : π) (row : ρ)
  | redirect (page : π)
  | HttpResponseBadRequest
deriving DecidableEq, Repr

variable {π ρ τ α : Type}

abbrev M (ρ α : Type) := Prog (Ans ρ Ticket) Exc α

def execute (o : Op ρ Ticket) : M ρ (Ans ρ Ticket o) := .perform o

/-- What a form makes of a row: the row with its values, unless they are not valid, or an
exception. -/
abbrev Form (ρ : Type) := ρ → Except Exc (Option ρ)

/-- `DetailView.get` and `UpdateView.get`. -/
def DetailView.get (page : π) : M ρ (Response π ρ) := do
  let row ← execute .load
  .pure (.render page row)

/-- `UpdateView.post`. -/
def UpdateView.post (page : π) (form : Form ρ) (get_success_url : ρ → π) : M ρ (Response π ρ) := do
  let row : ρ ← execute .load
  match form row with
  | .error e => .raise e
  | .ok none => .pure (.render page row)
  | .ok (some object) => do
      execute (.save object)
      .pure (.redirect (get_success_url object))

/-- A ticket is created, and the row is written with its reference. -/
def file (ticket : Ticket) (filed : Nat → ρ) : M ρ Unit := do
  let ticket_id : Except Bool Nat ← execute (.create ticket)
  match ticket_id with
  | .error _ => .raise .uncaught
  | .ok ticket_id => execute (.save (filed ticket_id))

/-! ## Values -/

/-- `CharField.clean`, where a value is required. -/
def required_text (max_length : Option Nat) (value : Str) : Option Str :=
  let value := stripSpace value
  if value = [] ∨ '\x00' ∈ value ∨ max_length.any (· < value.length) then none else some value

/-- `CharField.clean`, where the value may be blank. -/
def optional_text (max_length : Option Nat) (value : Str) : Option Str :=
  let value := stripSpace value
  if '\x00' ∈ value ∨ max_length.any (· < value.length) then none else some value

/-! ## Plans -/

/-- What a page does with the row that it loads. -/
def formPlan (form : Form ρ) : Plan ρ := fun row =>
  match form row with
  | .ok (some object) => .write object
  | _ => .leave

section

variable {F : Filing ρ τ} {plan : Plan ρ}

theorem follows_check {k : ρ → M ρ α} (h : ∀ row, Follows F plan (k row)) :
    Follows F plan (execute .check >>= k) :=
  Meets.perform rfl fun row => h row

theorem follows_raise {e : Exc} : Follows F plan (.raise e : M ρ α) := trivial

theorem follows_load {k : ρ → M ρ α}
    (h : ∀ row, Meets (summing (Stage.adv plan) fun o stage => stage.Performs F o) (k row)
      (Stage.decide plan row)) : Follows F plan (execute .load >>= k) :=
  Meets.perform (.inl rfl) h

theorem follows_get {page : π} : Follows F (fun _ => .leave) (DetailView.get page : M ρ _) :=
  follows_load fun _ => trivial

theorem follows_post {page : π} {form : Form ρ} {get_success_url : ρ → π} :
    Follows F (formPlan form) (UpdateView.post page form get_success_url) := by
  refine follows_load fun row => ?_
  rw [Stage.decide, formPlan]
  cases form row with
  | error e => trivial
  | ok object =>
      cases object with
      | none => trivial
      | some object => exact Meets.perform (.inl rfl) fun _ => trivial

theorem meets_file {ticket : Ticket} {row : ρ} {k : Unit → M ρ α}
    (hk : Meets (summing (Stage.adv plan) fun o stage => stage.Performs F o) (k ()) .ended) :
    Meets (summing (Stage.adv plan) fun o stage => stage.Performs F o)
      (file ticket (F.file row) >>= k) (.filing row) := by
  refine wp_summing.mpr ⟨⟨row, rfl⟩, fun answer => ?_⟩
  cases answer with
  | error created => trivial
  | ok id => exact wp_summing.mpr ⟨.inr ⟨row, id, rfl, rfl⟩, fun _ => hk⟩

theorem allows_formPlan {form : Form ρ}
    (h : ∀ row object, form row = .ok (some object) → F.Sound row →
      F.Sound object ∧ F.reference object = F.reference row) : F.Allows (formPlan form) where
  write row row' hplan hsound := by
    rw [formPlan] at hplan
    split at hplan
    next object hform =>
      cases hplan
      exact h row row' hform hsound
    next => cases hplan
  file row hplan := by
    rw [formPlan] at hplan
    split at hplan <;> cases hplan

theorem allows_leave : F.Allows fun _ => .leave where
  write _ _ h := by cases h
  file _ h := by cases h

end

end Requests
