import DataWorkspace.Visualisations.Views
import Mathlib.Data.Fintype.Basic

/-!
# Who approved a published visualisation

A visualisation is published when two approvals of it stand.  The page that counts them
does not ask whose they are, and the page that stores them takes the approver from a
hidden field.

`approved_by_two` says when two approvals are those of two users: each is stored with the
user of its request as the approver, no user has two of them for one visualisation, and
none is withdrawn between the count and the publication.  One user who posts another as
the approver publishes on his own.
-/

namespace Visualisations

open Py Async

/-! ## What the pages perform -/

/-- The answer of the last operation, if it counted the approvals of a visualisation. -/
def counting : Option (Nat × Nat) → Event Ans → Option (Nat × Nat)
  | _, ⟨.count_approvals visualisation, n⟩ => some (visualisation, n)
  | _, _ => none

/-- A visualisation is published right after two approvals were counted, and an approval
that is there is only withdrawn. -/
def countedBefore : Op → Option (Nat × Nat) → Prop
  | .save_template t, s => t.visible = true → ∃ n, s = some (t.id, n) ∧ 2 ≤ n
  | .save_approval (some _) approved _ _, _ => approved = false
  | _, _ => True

/-- The operations that do not publish a template. -/
def NotPublishing : Op → Prop
  | .save_template _ => False
  | .save_approval (some _) approved _ _ => approved = false
  | _ => True

theorem counted_of_notPublishing (o : Op) (s : Option (Nat × Nat)) (h : NotPublishing o) :
    countedBefore o s := by
  cases o with
  | save_template t => exact h.elim
  | save_approval id approved approver visualisation =>
      cases id with
      | none => trivial
      | some id => exact h
  | _ => trivial

section Only

variable {P : Op → Prop} {α β : Type}

theorem only_ask {o : Op} (h : P o) {f : Ans o → M β} (hf : ∀ a, (f a).Only P) :
    (ask o >>= f).Only P :=
  ⟨h, hf⟩

theorem only_orRaise (r : Except Exc α) : (orRaise r).Only P := by
  cases r <;> trivial

theorem only_ofOption (e : Exc) (r : Option α) : (Prog.ofOption e r : M α).Only P := by
  cases r <;> trivial

end Only

/-- The operations of the page of approvals: no flag is written, and an approval that is
there is only withdrawn. -/
def Approving : Op → Prop
  | .save_template _ => False
  | .save_item _ => False
  | .save_approval (some _) approved _ _ => approved = false
  | _ => True

theorem Approving.notPublishing {o : Op} (h : Approving o) : NotPublishing o := by
  cases o with
  | save_approval id approved approver visualisation =>
      cases id with
      | none => trivial
      | some id => exact h
  | save_template t => exact h
  | _ => trivial

theorem VisualisationApproval.approving_save (instance_ : Option VisualisationApproval)
    (approved : Bool) (approver visualisation : Nat) :
    (save instance_ approved approver visualisation).Only Approving := by
  unfold save
  dsimp only
  split
  next => trivial
  next hflip =>
    split
    next => trivial
    next hsame =>
      refine only_ask ?_ fun _ => trivial
      cases instance_ with
      | none => trivial
      | some a =>
          show approved = false
          simp only [Option.map_some, Option.getD_some, Option.isSome_some, and_true] at hflip hsame
          cases approved with
          | false => rfl
          | true =>
              cases ha : a.approved with
              | false => exact absurd ⟨ha, rfl⟩ hflip
              | true => exact absurd ha hsame

theorem approving_approvals_POST (user project : Nat) (data : ApprovalPost) :
    (visualisation_approvals_html_POST user project data).Only Approving := by
  have hv : ∀ id, (chooseVisualisation id).Only Approving := by
    intro id
    cases id with
    | none => trivial
    | some id => exact only_ask trivial fun _ => trivial
  have ha : ∀ id, (chooseApprover id).Only Approving := by
    intro id
    cases id with
    | none => trivial
    | some id => exact only_ask trivial fun _ => trivial
  refine only_ask trivial fun found => .bind (only_orRaise found) fun t => ?_
  refine only_ask trivial fun approvals => .bind (hv _) fun v => .bind (ha _) fun a => ?_
  refine .bind (only_ofOption _ _) fun action => ?_
  dsimp only
  generalize (if action = "unapprove".toList then false else data.approved) = approved
  split
  next => exact .bind (VisualisationApproval.approving_save ..) fun _ => trivial
  next => trivial

theorem meets_set_published_on_visualisation (t : ApplicationTemplate) (publish : Bool)
    (s : Option (Nat × Nat)) :
    Meets (summing counting countedBefore) (_set_published_on_visualisation t publish) s := by
  refine wp_summing.mpr ⟨trivial, fun n => ?_⟩
  show wp _ (if publish = false ∨ decide (2 ≤ n) = true then _ else _) _ _
  split
  next h =>
    refine wp_summing.mpr ⟨fun hvisible => ⟨n, rfl, ?_⟩, fun _ => trivial⟩
    rcases h with h | h
    · exact absurd (h.symm.trans hvisible) Bool.false_ne_true
    · exact of_decide_eq_true h
  next => trivial

theorem notPublishing_set_published_on_catalogue_item
    (catalogue_item : Option VisualisationCatalogueItem) (publish : Bool) :
    (_set_published_on_catalogue_item catalogue_item publish).Only NotPublishing := by
  refine .bind (only_ofOption _ _) fun item => .bind (only_ofOption _ _) fun id => ?_
  refine only_ask trivial fun row => .bind (only_ofOption _ _) fun t => ?_
  refine .bind (only_ask trivial fun _ => trivial) fun approved => ?_
  dsimp only
  split
  next => exact only_ask trivial fun _ => trivial
  next => trivial

theorem Request.meets_counted (r : Request) (s : Option (Nat × Nat)) :
    Meets (summing counting countedBefore) r.view s := by
  have honly {α : Type} {p : M α} {s : Option (Nat × Nat)} (hp : p.Only NotPublishing) :
      Meets (summing counting countedBefore) p s := .of_only hp counted_of_notPublishing
  refine .perform trivial fun develops => ?_
  split
  next =>
    refine .bind (honly (only_ask trivial fun answer => ?_)) fun project s => ?_
    · split
      next => trivial
      next => split <;> trivial
    refine .perform trivial fun access => ?_
    split
    next =>
      unfold Request.page_of
      split
      next => exact honly (only_ask trivial fun found => .bind (only_orRaise found) fun _ =>
        only_ask trivial fun _ => trivial)
      next => exact honly ((approving_approvals_POST _ _ _).mono fun _ => Approving.notPublishing)
      next => exact honly (only_ask trivial fun found => .bind (only_orRaise found) fun _ =>
        only_ask trivial fun _ => only_ask trivial fun _ => trivial)
      next =>
        refine .perform trivial fun found => .bind (honly (only_orRaise found)) fun t s => ?_
        refine .perform trivial fun again => .bind (honly (only_orRaise again)) fun t' s => ?_
        refine .perform trivial fun item => ?_
        split
        next => exact honly (notPublishing_set_published_on_catalogue_item ..)
        next => exact honly (notPublishing_set_published_on_catalogue_item ..)
        next => exact meets_set_published_on_visualisation ..
        next => exact meets_set_published_on_visualisation ..
        next => trivial
      next => trivial
    next => trivial
  next => trivial

/-! ## What becomes of approvals -/

/-- The approvals after an operation. -/
inductive ApprovalsBecome (s : Db) : (o : Op) → Ans o → List VisualisationApproval → Prop where
  | same (o : Op) (a : Ans o) : ApprovalsBecome s o a s.approvals
  | added (approved : Bool) (approver visualisation id : Nat) :
      ApprovalsBecome s (.save_approval none approved approver visualisation) id
        (s.approvals ++ [⟨id, approved, approver, visualisation⟩])
  | withdrawn (pk approver visualisation id : Nat) :
      ApprovalsBecome s (.save_approval (some pk) false approver visualisation) id
        (s.setApproval ⟨pk, false, approver, visualisation⟩).approvals

theorem TemplateOf.approvals {project : Nat} {s s' : Db} {a : Except Exc ApplicationTemplate}
    (h : TemplateOf project s a s') : s'.approvals = s.approvals := by
  cases h <;> rfl

theorem approvals_become {o : Op} {s s' : Db} {a : Ans o} {x : Option (Nat × Nat)}
    (h : act o s a s') (hx : countedBefore o x) : ApprovalsBecome s o a s'.approvals := by
  cases o with
  | save_approval id approved approver visualisation =>
      cases id with
      | none =>
          obtain ⟨hfresh, rfl⟩ := h
          have hnone : (s.approvals.any fun b => b.id == a) = false := by
            simpa using hfresh
          simpa [Db.setApproval, hnone] using ApprovalsBecome.added approved approver visualisation a
      | some pk =>
          obtain ⟨-, rfl⟩ := h
          obtain rfl : approved = false := hx
          exact .withdrawn ..
  | application_template project => exact TemplateOf.approvals h ▸ .same _ a
  | has_perm user => exact h ▸ .same _ a
  | gitlab_project id => exact h ▸ .same _ a
  | gitlab_has_developer_access user project => exact h ▸ .same _ a
  | approvals visualisation => exact h.2 ▸ .same _ a
  | count_approvals visualisation => exact h.2 ▸ .same _ a
  | visualisation_exists id => exact h.2 ▸ .same _ a
  | user_exists id => exact h.2 ▸ .same _ a
  | catalogue_item template => exact h.1 ▸ .same _ a
  | template id => exact h.2 ▸ .same _ a
  | save_template t => exact h ▸ .same _ a
  | save_item item => exact h ▸ .same _ a

def standingIn (approvals : List VisualisationApproval) (visualisation : Nat) :
    List VisualisationApproval :=
  approvals.filter fun a => a.visualisation == visualisation && a.approved

theorem standing_withdrawn (s : Db) (pk approver visualisation v : Nat) :
    standingIn (s.setApproval ⟨pk, false, approver, visualisation⟩).approvals v =
      (s.standing v).filter fun a => a.id ≠ pk := by
  unfold Db.setApproval
  simp only
  split
  next =>
    unfold standingIn Db.standing
    induction s.approvals with
    | nil => rfl
    | cons b bs ih =>
        simp only [List.map_cons, List.filter_cons]
        by_cases hb : b.id = pk
        · simp only [hb, if_true, Bool.and_false, Bool.false_eq_true, if_false, ih]
          split <;> simp [hb]
        · simp only [if_neg hb, ih]
          split <;> simp [hb]
  next hnone =>
    have hne : ∀ a ∈ s.standing v, a.id ≠ pk := by
      intro a ha hid
      exact hnone (List.any_eq_true.mpr ⟨a, (List.mem_filter.mp ha).1, by simp [hid]⟩)
    rw [List.filter_eq_self.mpr (by simpa using hne), standingIn, List.filter_append]
    simp [Db.standing]

/-! ## Approvals of two users -/

/-- The pages, requested in any order. -/
def pages {ι : Type} (requests : ι → Request) : Shared Ans Exc Response ι Db :=
  ⟨fun i => (requests i).view, fun _ => act⟩

/-- Whether the next operation publishes the visualisation. -/
def publishes (o : Option Op) (visualisation : Nat) : Bool :=
  match o with
  | some (.save_template t) => t.visible && t.id == visualisation
  | _ => false

section Runs

variable {ι : Type} {requests : ι → Request}

def OwnApproval (requests : ι → Request) (c : Config Ans Exc Response ι Db) (i : ι) : Op → Prop
  | .save_approval none true approver visualisation =>
      approver = (requests i).user ∧ ∀ a ∈ c.store.standing visualisation, a.approver ≠ approver
  | .save_approval (some id) _ _ _ =>
      ∀ a ∈ c.store.approvals, a.id = id → a.approved = true →
        ∀ j, publishes (c.tasks j).next a.visualisation = false
  | _ => True

def CreatedByApprover (requests : ι → Request) (c : Config Ans Exc Response ι Db)
    (a : VisualisationApproval) : Prop :=
  ∃ i, (requests i).user = a.approver ∧
    (⟨.save_approval none true a.approver a.visualisation, a.id⟩ : Event Ans) ∈ c.traces i

/-- What holds of approvals in every run. -/
structure ApprovalsKept (requests : ι → Request) (c : Config Ans Exc Response ι Db) : Prop where
  distinct : ∀ v, ((c.store.standing v).map VisualisationApproval.approver).Nodup
  created : ∀ v, ∀ a ∈ c.store.standing v, CreatedByApprover requests c a
  counted : ∀ j v, publishes (c.tasks j).next v = true → 2 ≤ (c.store.standing v).length

section Step

variable {c : Config Ans Exc Response ι Db} {i : ι} {o : Op} {a : Ans o}
  {l : List VisualisationApproval}

theorem standingIn_concat (l : List VisualisationApproval) (b : VisualisationApproval) (v : Nat) :
    standingIn (l ++ [b]) v =
      standingIn l v ++ if b.visualisation = v ∧ b.approved = true then [b] else [] := by
  simp [standingIn, List.filter_append, List.filter_cons]

theorem ApprovalsBecome.distinct (h : ApprovalsBecome c.store o a l)
    (hok : OwnApproval requests c i o) (ih : ApprovalsKept requests c) (v : Nat) :
    ((standingIn l v).map VisualisationApproval.approver).Nodup := by
  cases h with
  | same => exact ih.distinct v
  | added approved approver visualisation =>
      rw [standingIn_concat]
      split
      next hb =>
        obtain ⟨rfl, rfl⟩ : visualisation = v ∧ approved = true := hb
        rw [List.map_append]
        refine List.nodup_append.mpr ⟨ih.distinct visualisation, by simp, ?_⟩
        intro x hx y hy
        obtain ⟨b, hb, rfl⟩ := List.mem_map.mp hx
        obtain rfl : y = approver := by simpa using hy
        exact hok.2 b hb
      next =>
        rw [List.append_nil]
        exact ih.distinct v
  | withdrawn pk approver visualisation =>
      rw [standing_withdrawn]
      exact (ih.distinct v).sublist (List.filter_sublist.map _)

theorem ApprovalsBecome.standing (h : ApprovalsBecome c.store o a l)
    (hok : OwnApproval requests c i o) {v : Nat} {b : VisualisationApproval}
    (hb : b ∈ standingIn l v) : b ∈ c.store.standing v ∨ (requests i).user = b.approver ∧
      (⟨o, a⟩ : Event Ans) = ⟨.save_approval none true b.approver b.visualisation, b.id⟩ := by
  cases h with
  | same => exact .inl hb
  | added approved approver visualisation =>
      rw [standingIn_concat] at hb
      rcases List.mem_append.mp hb with hb | hb
      · exact .inl hb
      · split at hb
        next hnew =>
          obtain rfl := List.mem_singleton.mp hb
          obtain ⟨rfl, rfl⟩ : visualisation = v ∧ approved = true := hnew
          exact .inr ⟨hok.1.symm, rfl⟩
        next => cases hb
  | withdrawn pk approver visualisation =>
      rw [standing_withdrawn] at hb
      exact .inl (List.mem_of_mem_filter hb)

theorem ApprovalsBecome.length_le (h : ApprovalsBecome c.store o a l)
    (hok : OwnApproval requests c i o) {j : ι} {v : Nat}
    (hj : publishes (c.tasks j).next v = true) : (c.store.standing v).length ≤ (standingIn l v).length := by
  cases h with
  | same => exact le_refl _
  | added approved approver visualisation =>
      rw [standingIn_concat, List.length_append]
      exact Nat.le_add_right _ _
  | withdrawn pk approver visualisation =>
      rw [standing_withdrawn, List.filter_eq_self.mpr]
      intro b hb
      obtain ⟨hmem, hstands⟩ := List.mem_filter.mp hb
      obtain ⟨hv, happroved⟩ := Bool.and_eq_true_iff.mp hstands
      obtain rfl : b.visualisation = v := by simpa using hv
      refine decide_eq_true fun hid => ?_
      rw [hok b hmem hid happroved j] at hj
      cases hj

variable [DecidableEq ι] {s₀ w : Db} {k : Ans o → M Response}

theorem counted_of_publishes (hrun : (pages requests).Run (OwnApproval requests) s₀ c)
    (hi : c.tasks i = .op o k) (hok : OwnApproval requests c i o) (ha : act o c.store a w) {v : Nat}
    (hp : publishes (k a).next v = true) : 2 ≤ (c.store.standing v).length ∧ w = c.store := by
  cases hk : k a with
  | pure r => simp [hk, Prog.next, publishes] at hp
  | raise e => simp [hk, Prog.next, publishes] at hp
  | op o' k' =>
      cases o' with
      | save_template t =>
          obtain ⟨hvisible, hid⟩ : t.visible = true ∧ t.id = v := by
            simpa [hk, Prog.next, publishes] using hp
          have htask : (c.go i ⟨o, a⟩ (k a) w).tasks i = .op (.save_template t) k' := by
            rw [Config.go_tasks_self, hk]
          obtain ⟨n, hn, htwo⟩ :=
            (hrun.step hi hok ha).pre htask ((requests i).meets_counted none) hvisible
          rw [Config.summary_go_self] at hn
          cases o with
          | count_approvals visualisation =>
              obtain ⟨hv, rfl⟩ := Prod.mk.inj (Option.some.inj hn)
              obtain ⟨hcount, rfl⟩ : a = _ ∧ w = c.store := ha
              rw [hid] at hv
              subst hv
              exact ⟨hcount ▸ htwo, rfl⟩
          | _ => cases hn
      | _ => simp [hk, Prog.next, publishes] at hp

theorem approvalsKept_go (hrun : (pages requests).Run (OwnApproval requests) s₀ c)
    (hi : c.tasks i = .op o k) (hok : OwnApproval requests c i o) (ha : act o c.store a w)
    (ih : ApprovalsKept requests c) : ApprovalsKept requests (c.go i ⟨o, a⟩ (k a) w) := by
  have hbecome := approvals_become ha (hrun.pre hi ((requests i).meets_counted none))
  refine ⟨hbecome.distinct hok ih, fun v b hb => ?_, fun j v hj => ?_⟩
  · rcases hbecome.standing hok hb with hb | ⟨huser, he⟩
    · obtain ⟨j, huser, he⟩ := ih.created v b hb
      exact ⟨j, huser, Config.mem_traces_go he⟩
    · refine ⟨i, huser, ?_⟩
      rw [Config.go_traces_self, he]
      exact List.mem_append_right _ (List.mem_singleton_self _)
  · by_cases hji : j = i
    · subst hji
      rw [Config.go_tasks_self] at hj
      obtain ⟨htwo, rfl⟩ := counted_of_publishes hrun hi hok ha hj
      exact htwo
    · rw [Config.go_tasks_of_ne hji] at hj
      exact (ih.counted j v hj).trans (hbecome.length_le hok hj)

end Step

variable [DecidableEq ι] {c : Config Ans Exc Response ι Db} {s₀ : Db}

theorem approvalsKept_of_run (h₀ : s₀.approvals = [])
    (h : (pages requests).Run (OwnApproval requests) s₀ c) : ApprovalsKept requests c := by
  have hnone : ∀ v, s₀.standing v = [] := fun v => by simp [Db.standing, h₀]
  refine h.invariant ⟨fun v => ?_, fun v b hb => ?_, fun j v hj => ?_⟩ ?_
  · show ((s₀.standing v).map _).Nodup
    simp [hnone v]
  · have hb : b ∈ s₀.standing v := hb
    simp [hnone v] at hb
  · -- the first operation of a page asks for a permission
    exact absurd hj Bool.false_ne_true
  · exact fun hrun hi hok ha ih => approvalsKept_go hrun hi hok ha ih

/-- When a visualisation is published, two users have approved it, each in a request of
their own, provided approvals are stored for the users of their requests, once for each
visualisation, and stand until it is published. -/
theorem approved_by_two (h₀ : s₀.approvals = [])
    (h : (pages requests).Run (OwnApproval requests) s₀ c) {i : ι} {v : Nat}
    (hi : publishes (c.tasks i).next v = true) :
    ∃ a ∈ c.store.standing v, ∃ b ∈ c.store.standing v, a.approver ≠ b.approver ∧
      CreatedByApprover requests c a ∧ CreatedByApprover requests c b := by
  have hkept := approvalsKept_of_run h₀ h
  have htwo := hkept.counted i v hi
  match hl : c.store.standing v with
  | [] => simp [hl] at htwo
  | [a] => simp [hl] at htwo
  | a :: b :: rest =>
      have hdistinct := hkept.distinct v
      rw [hl] at hdistinct
      have ha : a ∈ c.store.standing v := by simp [hl]
      have hb : b ∈ c.store.standing v := by simp [hl]
      refine ⟨a, by simp, b, by simp, ?_, hkept.created v a ha, hkept.created v b hb⟩
      simp only [List.map_cons, List.nodup_cons, List.mem_cons, not_or] at hdistinct
      exact hdistinct.1.1

end Runs

instance {ι : Type} [Fintype ι] (requests : ι → Request) (c : Config Ans Exc Response ι Db) (i : ι) :
    DecidablePred (OwnApproval requests c i)
  | .save_approval none true approver visualisation =>
      inferInstanceAs (Decidable (approver = (requests i).user ∧
        ∀ a ∈ c.store.standing visualisation, a.approver ≠ approver))
  | .save_approval none false _ _ => .isTrue trivial
  | .save_approval (some id) _ _ _ =>
      inferInstanceAs (Decidable (∀ a ∈ c.store.approvals, a.id = id → a.approved = true →
        ∀ j, publishes (c.tasks j).next a.visualisation = false))
  | .has_perm _ => .isTrue trivial
  | .gitlab_project _ => .isTrue trivial
  | .gitlab_has_developer_access _ _ => .isTrue trivial
  | .application_template _ => .isTrue trivial
  | .approvals _ => .isTrue trivial
  | .count_approvals _ => .isTrue trivial
  | .visualisation_exists _ => .isTrue trivial
  | .user_exists _ => .isTrue trivial
  | .catalogue_item _ => .isTrue trivial
  | .template _ => .isTrue trivial
  | .save_template _ => .isTrue trivial
  | .save_item _ => .isTrue trivial

/-! ## One user approves for two -/

namespace Two

/-- A visualisation with its catalogue item, complete but not published. -/
def db : Db where
  users := fun id => id == 1 || id == 2
  templates := fun id => if id = 7 then some ⟨7, some 7, false⟩ else none
  items := fun id => if id = 7 then some
    { id := 7, visualisation_template := some 7, published := false, name := "Trade",
      slug := "trade", short_description := "Trade by country", description := some "Trade",
      enquiries_contact := some 1, secondary_enquiries_contact := some 1,
      information_asset_owner := some 1, information_asset_manager := some 1,
      licence := "OGL", retention_policy := some "None", restrictions_on_usage := some "None",
      personal_data := some "None" } else none
  approvals := []

def approve (user approver : Nat) : Request :=
  ⟨user, .POST, 7, .approvals ⟨true, some 7, some approver, some "approve"⟩⟩

def publish (user : Nat) : Request := ⟨user, .POST, 7, .publish "publish-visualisation"⟩

/-- User 2 is posted as an approver by some user, user 1 approves and publishes. -/
def requests (user : Nat) : Fin 3 → Request
  | 0 => approve user 2
  | 1 => approve 1 1
  | 2 => publish 1

/-- One request after the other, up to the publication. -/
def schedule : List (Fin 3) := List.replicate 8 0 ++ List.replicate 8 1 ++ List.replicate 7 2

/-- Each approver posts an approval. -/
def apart : Config Ans Exc Response (Fin 3) Db :=
  ((pages (requests 2)).start db).play (fun _ => pick) (OwnApproval (requests 2)) schedule

/-- User 1 posts both approvals. -/
def alone : Config Ans Exc Response (Fin 3) Db :=
  ((pages (requests 1)).start db).play (fun _ => pick) Always schedule

end Two

open Two in
theorem approved_by_two_apart :
    ∃ a ∈ apart.store.standing 7, ∃ b ∈ apart.store.standing 7, a.approver ≠ b.approver ∧
      CreatedByApprover (requests 2) apart a ∧ CreatedByApprover (requests 2) apart b := by
  have hrun : (pages (requests 2)).Run (OwnApproval (requests 2)) db apart :=
    Shared.run_play (fun _ _ _ _ _ => act_of_pick) db schedule
  have hnext : publishes (apart.tasks 2).next 7 = true := by decide +kernel
  exact approved_by_two rfl hrun hnext

open Two in
/-- A user who posts an approval in the name of another as well publishes without any. -/
theorem approved_alone :
    (pages (requests 1)).Run Always db alone ∧ publishes (alone.tasks 2).next 7 = true ∧
      ¬ ∃ a ∈ alone.store.standing 7, ∃ b ∈ alone.store.standing 7, a.approver ≠ b.approver ∧
        CreatedByApprover (requests 1) alone a ∧ CreatedByApprover (requests 1) alone b := by
  refine ⟨Shared.run_play (fun _ _ _ _ _ => act_of_pick) db schedule, by decide +kernel, ?_⟩
  have huser : ∀ i, (requests 1 i).user = 1 := by decide
  rintro ⟨a, -, b, -, hne, ⟨i, hi, -⟩, ⟨j, hj, -⟩⟩
  exact hne (hi.symm.trans ((huser i).trans ((huser j).symm.trans hj)))

end Visualisations
