import DataWorkspace.Requests.Visits
import DataWorkspace.Py.Text

/-!
# The pages of dataset subscriptions

A user subscribes to a dataset, chooses what to be told of, and may unsubscribe.  The pages to
unsubscribe look whose the subscription is.  The pages to choose, to review and to confirm take
any subscription by its id.
-/

namespace Subscriptions

open Py Requests

/-! ## Rows -/

structure DataSetSubscription where
  id : Nat
  user : Nat
  object_id : Nat
  notify_on_schema_change : Bool
  notify_on_data_change : Bool
deriving DecidableEq, Repr

def DataSetSubscription.is_active (s : DataSetSubscription) : Bool :=
  s.notify_on_data_change || s.notify_on_schema_change

def DataSetSubscription.make_inactive (s : DataSetSubscription) : DataSetSubscription :=
  { s with notify_on_data_change := false, notify_on_schema_change := false }

/-- What a request got at, and the subscriptions after it. -/
structure Served where
  subscriptions : List DataSetSubscription
  events : List Event

/-- `<uuid:pk>`, or what may stand for the id where one unsubscribes. -/
inductive Target where
  | all
  | id (subscription_id : Nat)
  /-- No id. -/
  | malformed
deriving DecidableEq, Repr

inductive NotificationType where
  | COLUMNS
  | ALL_CHANGES
deriving DecidableEq, Repr

def NotificationType.value : NotificationType → Str
  | .COLUMNS => "columns"
  | .ALL_CHANGES => "all_changes"

/-- The form of the options, as it is posted. -/
structure DataSetSubscriptionForm where
  notify_on_schema_change : Bool
  notify_on_data_change : Bool
  notification_type : Str
deriving DecidableEq, Repr

def DataSetSubscriptionForm.type (form : DataSetSubscriptionForm) : Option NotificationType :=
  [NotificationType.COLUMNS, .ALL_CHANGES].find? fun t => decide (t.value = form.notification_type)

section

variable (subscriptions : List DataSetSubscription) (user : Nat)

/-- `get_object_or_404`. -/
def get_object (subscription_id : Nat) : Option DataSetSubscription :=
  subscriptions.find? fun s => decide (s.id = subscription_id)

/-- The row is written. -/
def save (subscription : DataSetSubscription) : List DataSetSubscription :=
  subscriptions.map fun s => if s.id = subscription.id then subscription else s

/-- `DataSetSubscription.objects.active`. -/
def active : List DataSetSubscription :=
  subscriptions.filter fun s => s.is_active && decide (s.user = user)

def reads (rows : List DataSetSubscription) : List Event := rows.map fun s => .read s.user

/-- Nothing is got at. -/
def nothing : Served := ⟨subscriptions, []⟩

/-! ## Views -/

def current_user_email_preferences_list : Served :=
  ⟨subscriptions, reads (active subscriptions user)⟩

def DataSetSubscriptionUnsubscribe.get : Target → Served
  | .all => ⟨subscriptions, reads (subscriptions.filter fun s => decide (s.user = user))⟩
  | .malformed => nothing subscriptions
  | .id subscription_id =>
      match get_object subscriptions subscription_id with
      | none => nothing subscriptions
      | some subscription =>
          if user ≠ subscription.user then nothing subscriptions
          else ⟨subscriptions, [.read subscription.user]⟩

def unsubscribe_from_all : Served where
  subscriptions := subscriptions.map fun s =>
    if s.is_active && decide (s.user = user) then s.make_inactive else s
  events := (active subscriptions user).map fun s => .changed s.user

def unsubscribe (subscription_id : Nat) : Served :=
  match get_object subscriptions subscription_id with
  | none => nothing subscriptions
  | some subscription =>
      if subscription.user ≠ user then nothing subscriptions
      else ⟨save subscriptions subscription.make_inactive,
        [.read subscription.user, .changed subscription.user]⟩

def DataSetSubscriptionUnsubscribe.post : Target → Served
  | .all => unsubscribe_from_all subscriptions user
  | .malformed => nothing subscriptions
  | .id subscription_id => unsubscribe subscriptions user subscription_id

/-- `subscribe`, with the id that a new row gets. -/
def subscribe (object_id fresh : Nat) : Served :=
  match subscriptions.find? fun s => decide (s.object_id = object_id ∧ s.user = user) with
  | some subscription => ⟨subscriptions, [.read subscription.user]⟩
  | none => ⟨subscriptions ++ [⟨fresh, user, object_id, false, false⟩], [.changed user]⟩

/-- The dataset is `none` where there is none with this id. -/
def DataSetSubscriptionStartView.get (dataset : Option Nat) (fresh : Nat) : Served :=
  match dataset with
  | none => nothing subscriptions
  | some object_id => subscribe subscriptions user object_id fresh

/-- `DataSetSubscriptionView.form_valid`. -/
def chosen (subscription : DataSetSubscription) : NotificationType → DataSetSubscription
  | .COLUMNS =>
      { subscription with notify_on_schema_change := true, notify_on_data_change := false }
  | .ALL_CHANGES =>
      { subscription with notify_on_schema_change := true, notify_on_data_change := true }

/-- A page that shows the subscription, whosever it is. -/
def showRow (subscription_id : Nat) : Served :=
  match get_object subscriptions subscription_id with
  | none => nothing subscriptions
  | some subscription => ⟨subscriptions, [.read subscription.user]⟩

/-- A page that shows the subscription again or writes it, whosever it is. -/
def postRow (subscription_id : Nat)
    (form : DataSetSubscription → Option DataSetSubscription) : Served :=
  match get_object subscriptions subscription_id with
  | none => nothing subscriptions
  | some subscription =>
      match form subscription with
      | none => ⟨subscriptions, [.read subscription.user]⟩
      | some object =>
          ⟨save subscriptions object, [.read subscription.user, .changed subscription.user]⟩

def DataSetSubscriptionView.get (pk : Nat) : Served := showRow subscriptions pk

def DataSetSubscriptionView.post (pk : Nat) (form : DataSetSubscriptionForm) : Served :=
  postRow subscriptions pk fun subscription => form.type.map (chosen subscription)

def DataSetSubscriptionReview.get (pk : Nat) : Served := showRow subscriptions pk

def DataSetSubscriptionReview.post (pk : Nat) : Served := postRow subscriptions pk some

def DataSetSubscriptionConfirm.get (subscription_id : Nat) : Served :=
  showRow subscriptions subscription_id

end

inductive Request where
  | preferences
  | unsubscribe_get (subscription_id : Target)
  | unsubscribe_post (subscription_id : Target)
  | start (dataset : Option Nat) (fresh : Nat)
  | options_get (pk : Nat)
  | options_post (pk : Nat) (form : DataSetSubscriptionForm)
  | review_get (pk : Nat)
  | review_post (pk : Nat)
  | confirm (subscription_id : Nat)
deriving DecidableEq, Repr

def Request.serve (subscriptions : List DataSetSubscription) (user : Nat) : Request → Served
  | .preferences => current_user_email_preferences_list subscriptions user
  | .unsubscribe_get subscription_id =>
      DataSetSubscriptionUnsubscribe.get subscriptions user subscription_id
  | .unsubscribe_post subscription_id =>
      DataSetSubscriptionUnsubscribe.post subscriptions user subscription_id
  | .start dataset fresh => DataSetSubscriptionStartView.get subscriptions user dataset fresh
  | .options_get pk => DataSetSubscriptionView.get subscriptions pk
  | .options_post pk form => DataSetSubscriptionView.post subscriptions pk form
  | .review_get pk => DataSetSubscriptionReview.get subscriptions pk
  | .review_post pk => DataSetSubscriptionReview.post subscriptions pk
  | .confirm subscription_id => DataSetSubscriptionConfirm.get subscriptions subscription_id

/-- The subscription that a page takes whosever it is. -/
def Request.unguarded : Request → Option Nat
  | .options_get pk => some pk
  | .options_post pk _ => some pk
  | .review_get pk => some pk
  | .review_post pk => some pk
  | .confirm subscription_id => some subscription_id
  | _ => none

/-! ## What is got at -/

section

variable {subscriptions : List DataSetSubscription} {user : Nat}

/-- Everything got at is the user's own. -/
def Served.Mine (user : Nat) (served : Served) : Prop := ∀ e ∈ served.events, e.owner = user

theorem mine_nothing : (nothing subscriptions).Mine user := fun _ he => absurd he List.not_mem_nil

theorem mine_reads {rows : List DataSetSubscription} (h : ∀ s ∈ rows, s.user = user) :
    ∀ e ∈ reads rows, e.owner = user := by
  intro e he
  obtain ⟨s, hs, rfl⟩ := List.mem_map.mp he
  exact h s hs

theorem user_of_mem_active {s : DataSetSubscription} (h : s ∈ active subscriptions user) :
    s.user = user := by
  have hs := (List.mem_filter.mp h).2
  rw [Bool.and_eq_true] at hs
  exact of_decide_eq_true hs.2

def Own (subscriptions : List DataSetSubscription) (user pk : Nat) : Prop :=
  ∀ s, get_object subscriptions pk = some s → s.user = user

theorem mine_showRow {pk : Nat} : (showRow subscriptions pk).Mine user ↔
    Own subscriptions user pk := by
  rw [showRow, Own]
  cases get_object subscriptions pk with
  | none => exact iff_of_true mine_nothing fun s hs => by cases hs
  | some subscription => simp [Served.Mine, Event.owner]

theorem mine_postRow {pk : Nat} {form : DataSetSubscription → Option DataSetSubscription} :
    (postRow subscriptions pk form).Mine user ↔ Own subscriptions user pk := by
  rw [postRow, Own]
  cases get_object subscriptions pk with
  | none => exact iff_of_true mine_nothing fun s hs => by cases hs
  | some subscription =>
      dsimp only
      cases form subscription with
      | none => simp [Served.Mine, Event.owner]
      | some object => simp [Served.Mine, Event.owner]

theorem mine_guarded {r : Request} (h : r.unguarded = none) :
    (r.serve subscriptions user).Mine user := by
  cases r with
  | preferences => exact mine_reads fun s hs => user_of_mem_active hs
  | unsubscribe_get target =>
      cases target with
      | all => exact mine_reads fun s hs => of_decide_eq_true (List.mem_filter.mp hs).2
      | malformed => exact mine_nothing
      | id subscription_id =>
          rw [Request.serve, DataSetSubscriptionUnsubscribe.get]
          cases get_object subscriptions subscription_id with
          | none => exact mine_nothing
          | some subscription =>
              dsimp only
              split
              next => exact mine_nothing
              next hown => exact fun e he => List.mem_singleton.mp he ▸ (not_not.mp hown).symm
  | unsubscribe_post target =>
      cases target with
      | all =>
          intro e he
          obtain ⟨s, hs, rfl⟩ := List.mem_map.mp he
          exact user_of_mem_active hs
      | malformed => exact mine_nothing
      | id subscription_id =>
          rw [Request.serve, DataSetSubscriptionUnsubscribe.post, unsubscribe]
          cases get_object subscriptions subscription_id with
          | none => exact mine_nothing
          | some subscription =>
              dsimp only
              split
              next => exact mine_nothing
              next hown => simp [Served.Mine, Event.owner, not_not.mp hown]
  | start dataset fresh =>
      cases dataset with
      | none => exact mine_nothing
      | some object_id =>
          rw [Request.serve, DataSetSubscriptionStartView.get, subscribe]
          split
          next subscription hfind =>
            have hmine : subscription.object_id = object_id ∧ subscription.user = user := by
              simpa using List.find?_some hfind
            exact fun e he => List.mem_singleton.mp he ▸ hmine.2
          next => exact fun e he => List.mem_singleton.mp he ▸ rfl
  | options_get pk => cases h
  | options_post pk form => cases h
  | review_get pk => cases h
  | review_post pk => cases h
  | confirm subscription_id => cases h

/-- A request keeps to the user's own exactly where the subscription that its page takes
unchecked is the user's. -/
theorem mine_serve_iff {r : Request} : (r.serve subscriptions user).Mine user ↔
    ∀ pk, r.unguarded = some pk → Own subscriptions user pk := by
  have hone {pk : Nat} : Own subscriptions user pk ↔
      ∀ pk', some pk = some pk' → Own subscriptions user pk' :=
    ⟨fun h _ heq => Option.some.inj heq ▸ h, fun h => h pk rfl⟩
  cases r with
  | preferences => exact iff_of_true (mine_guarded rfl) fun _ h => by cases h
  | unsubscribe_get target => exact iff_of_true (mine_guarded rfl) fun _ h => by cases h
  | unsubscribe_post target => exact iff_of_true (mine_guarded rfl) fun _ h => by cases h
  | start dataset fresh => exact iff_of_true (mine_guarded rfl) fun _ h => by cases h
  | options_get pk => exact mine_showRow.trans hone
  | options_post pk form => exact mine_postRow.trans hone
  | review_get pk => exact mine_showRow.trans hone
  | review_post pk => exact mine_postRow.trans hone
  | confirm subscription_id => exact mine_showRow.trans hone

/-! ## Whose a subscription is -/

theorem get_object_map {f : DataSetSubscription → DataSetSubscription} {pk : Nat}
    (hid : ∀ s, (f s).id = s.id)
    (huser : ∀ s, get_object subscriptions pk = some s → (f s).user = s.user) :
    (get_object (subscriptions.map f) pk).map DataSetSubscription.user =
      (get_object subscriptions pk).map DataSetSubscription.user := by
  rw [get_object, List.find?_map]
  have hcomp : ((fun s : DataSetSubscription => decide (s.id = pk)) ∘ f) =
      fun s => decide (s.id = pk) := by
    funext s
    rw [Function.comp_apply, hid]
  rw [hcomp, ← get_object]
  cases hfind : get_object subscriptions pk with
  | none => rfl
  | some s => exact congrArg some (huser s hfind)

theorem get_object_save {object : DataSetSubscription} {subscription : DataSetSubscription}
    {pk pk' : Nat} (hfind : get_object subscriptions pk = some subscription)
    (hid : object.id = subscription.id) (huser : object.user = subscription.user) :
    (get_object (save subscriptions object) pk').map DataSetSubscription.user =
      (get_object subscriptions pk').map DataSetSubscription.user := by
  refine get_object_map (fun s => ?_) fun s hs => ?_
  · split
    next h => exact h.symm
    next => rfl
  · split
    next h =>
      -- both are the first row with the id
      have hpk : pk = pk' := by
        have hobject : subscription.id = pk := by simpa using List.find?_some hfind
        have hs' : s.id = pk' := by simpa using List.find?_some hs
        rw [← hobject, ← hs', h, hid]
      rw [← hpk, hfind] at hs
      rw [huser, Option.some.inj hs]
    next => rfl

/-- A request changes nobody's subscription into another's, and makes new ones for its user. -/
theorem user_of_serve (subscriptions : List DataSetSubscription) (user : Nat) (r : Request)
    (pk : Nat) :
    (get_object (r.serve subscriptions user).subscriptions pk).map DataSetSubscription.user =
        (get_object subscriptions pk).map DataSetSubscription.user ∨
      get_object subscriptions pk = none ∧
        (get_object (r.serve subscriptions user).subscriptions pk).map DataSetSubscription.user =
          some user := by
  have hpost (pk' : Nat) {form : DataSetSubscription → Option DataSetSubscription}
      (hform : ∀ s object, form s = some object → object.id = s.id ∧ object.user = s.user) :
      (get_object (postRow subscriptions pk' form).subscriptions pk).map DataSetSubscription.user =
        (get_object subscriptions pk).map DataSetSubscription.user := by
    rw [postRow]
    cases hfind : get_object subscriptions pk' with
    | none => rfl
    | some s =>
        dsimp only
        cases hobject : form s with
        | none => rfl
        | some object =>
            exact get_object_save hfind (hform s object hobject).1 (hform s object hobject).2
  have hshow (pk' : Nat) : (showRow subscriptions pk').subscriptions = subscriptions := by
    rw [showRow]
    split <;> rfl
  cases r with
  | preferences => exact .inl rfl
  | unsubscribe_get target =>
      refine .inl ?_
      cases target with
      | all => rfl
      | malformed => rfl
      | id subscription_id =>
          rw [Request.serve, DataSetSubscriptionUnsubscribe.get]
          split
          next => rfl
          next => split <;> rfl
  | unsubscribe_post target =>
      refine .inl ?_
      cases target with
      | all =>
          refine get_object_map (fun s => ?_) fun s _ => ?_
          · split <;> rfl
          · split <;> rfl
      | malformed => rfl
      | id subscription_id =>
          rw [Request.serve, DataSetSubscriptionUnsubscribe.post, unsubscribe]
          split
          next => rfl
          next subscription hfind =>
            split
            next => rfl
            next => exact get_object_save hfind rfl rfl
  | start dataset fresh =>
      cases dataset with
      | none => exact .inl rfl
      | some object_id =>
          rw [Request.serve, DataSetSubscriptionStartView.get, subscribe]
          split
          next => exact .inl rfl
          next =>
            dsimp only
            cases hfind : get_object subscriptions pk with
            | some s =>
                refine .inl ?_
                rw [get_object, List.find?_append, ← get_object, hfind]
                rfl
            | none =>
                rw [get_object, List.find?_append, ← get_object, hfind, Option.none_or]
                by_cases hpk : fresh = pk
                · exact .inr ⟨rfl, by simp [hpk]⟩
                · exact .inl (by simp [hpk])
  | options_get pk' => exact .inl (by rw [Request.serve, DataSetSubscriptionView.get, hshow])
  | options_post pk' form =>
      refine .inl (hpost pk' fun s object h => ?_)
      obtain ⟨t, -, rfl⟩ := Option.map_eq_some_iff.mp h
      cases t <;> exact ⟨rfl, rfl⟩
  | review_get pk' => exact .inl (by rw [Request.serve, DataSetSubscriptionReview.get, hshow])
  | review_post pk' =>
      refine .inl (hpost pk' fun s object h => ?_)
      cases h
      exact ⟨rfl, rfl⟩
  | confirm subscription_id =>
      exact .inl (by rw [Request.serve, DataSetSubscriptionConfirm.get, hshow])

end

end Subscriptions
