import DataWorkspace.Async.Shared

/-!
# Handing over

A token is made by one task, posted to a common inbox, and picked from it by another
task.  `Passing` says which events do so.  A task has tokens in its hand, which it has
made and not posted, and tokens it has picked.

Each token is in one place only, so no two tasks pick one token.  This needs that the
store makes new tokens only (`Kept`), and that tasks post only what is in their hands
(`Fair`).  `Kept.placed` is the induction over runs.
-/

namespace Async

variable {Op : Type} {Ans : Op → Type} {ε α ι σ κ : Type}

/-- What an event does with a token. -/
inductive Passing (κ : Type) where
  | makes (n : κ)
  | posts (n : κ)
  | picks (n : κ)

/-- What goes into the inbox. -/
def Passing.posted : Passing κ → List κ
  | .makes _ => []
  | .posts n => [n]
  | .picks _ => []

/-- What comes out of it. -/
def Passing.taken : Passing κ → List κ
  | .makes _ => []
  | .posts _ => []
  | .picks n => [n]

/-- What a task has made and not posted, and what it has picked. -/
structure Hands (κ : Type) where
  hand : List κ := []
  picked : List κ := []

section Handover

variable [DecidableEq κ] (H : Event Ans → Option (Passing κ))

/-- The tokens of a task after an event. -/
def Hands.after (h : Hands κ) (e : Event Ans) : Hands κ :=
  match H e with
  | none => h
  | some (.makes n) => { h with hand := n :: h.hand }
  | some (.posts n) => { h with hand := h.hand.filter (· ≠ n) }
  | some (.picks n) => { h with picked := n :: h.picked }

section After

variable {H} {h : Hands κ} {e : Event Ans} {n : κ}

theorem after_none (he : H e = none) : Hands.after H h e = h := by
  rw [Hands.after, he]

theorem after_makes (he : H e = some (.makes n)) :
    Hands.after H h e = { h with hand := n :: h.hand } := by
  rw [Hands.after, he]

theorem after_posts (he : H e = some (.posts n)) :
    Hands.after H h e = { h with hand := h.hand.filter (· ≠ n) } := by
  rw [Hands.after, he]

theorem after_picks (he : H e = some (.picks n)) :
    Hands.after H h e = { h with picked := n :: h.picked } := by
  rw [Hands.after, he]

theorem mem_picked_after (hn : n ∈ h.picked) : n ∈ (Hands.after H h e).picked := by
  rw [Hands.after]
  split
  · exact hn
  · exact hn
  · exact hn
  · exact List.mem_cons_of_mem _ hn

end After

/-- A token is posted only from the hand. -/
def postsHeld (o : Op) (h : Hands κ) : Prop := ∀ a n, H ⟨o, a⟩ = some (.posts n) → n ∈ h.hand

/-- The program posts only what it has. -/
def PostsFairly (p : Prog Ans ε α) : Prop :=
  wp (summing (Hands.after H) (postsHeld H)) p (fun _ _ => True) {}

/-- The store makes new tokens only, and keeps the inbox. -/
structure KeepsTokens (S : Shared Ans ε α ι σ) (made : σ → κ → Prop) (inbox : σ → List κ) :
    Prop where
  stays : ∀ {i o s a s' n}, S.act i o s a s' → made s n → made s' n
  make : ∀ {i o s a s' n}, S.act i o s a s' → H ⟨o, a⟩ = some (.makes n) →
    ¬ made s n ∧ made s' n
  kept : ∀ {i o s a s'}, S.act i o s a s' →
    (inbox s ++ (H ⟨o, a⟩).elim [] Passing.posted).Perm
      ((H ⟨o, a⟩).elim [] Passing.taken ++ inbox s')

/-- Where a token is. -/
inductive Place (ι : Type) where
  | hand (i : ι)
  | inbox
  | picked (i : ι)

/-- The token is in the place. -/
def Holds (inbox : σ → List κ) (c : Config Ans ε α ι σ) (n : κ) : Place ι → Prop
  | .hand i => n ∈ (c.summary (Hands.after H) {} i).hand
  | .inbox => n ∈ inbox c.store
  | .picked i => n ∈ (c.summary (Hands.after H) {} i).picked

/-- Every token was made, and is in one place. -/
structure Placed (made : σ → κ → Prop) (inbox : σ → List κ) (c : Config Ans ε α ι σ) : Prop where
  nodup : (inbox c.store).Nodup
  made : ∀ {n p}, Holds H inbox c n p → made c.store n
  one : ∀ {n p q}, Holds H inbox c n p → Holds H inbox c n q → p = q

variable {H} {made : σ → κ → Prop} {inbox : σ → List κ} {c : Config Ans ε α ι σ}

theorem Placed.move (h : Placed H made inbox c) {c' : Config Ans ε α ι σ} {m : κ} {d : Place ι}
    (hnodup : (inbox c'.store).Nodup) (hstays : ∀ n, made c.store n → made c'.store n)
    (hmade : made c'.store m) (hgone : ∀ p, Holds H inbox c m p → Holds H inbox c' m p → p = d)
    (hmove : ∀ n p, Holds H inbox c' n p → Holds H inbox c n p ∨ n = m ∧ p = d) :
    Placed H made inbox c' := by
  have hat {p : Place ι} (hp : Holds H inbox c' m p) : p = d := by
    rcases hmove m p hp with hold | ⟨-, rfl⟩
    · exact hgone p hold hp
    · rfl
  refine ⟨hnodup, fun {n p} hp => ?_, fun {n p q} hp hq => ?_⟩
  · rcases hmove n p hp with hold | ⟨rfl, -⟩
    · exact hstays n (h.made hold)
    · exact hmade
  · rcases hmove n p hp with hold | ⟨rfl, rfl⟩
    · rcases hmove n q hq with hold' | ⟨rfl, rfl⟩
      · exact h.one hold hold'
      · exact hat hp
    · exact (hat hq).symm

section Runs

variable [DecidableEq ι] {S : Shared Ans ε α ι σ} {ok : Config Ans ε α ι σ → ι → Op → Prop}
  {s₀ : σ} {i : ι} {e : Event Ans} {p : Prog Ans ε α} {s : σ} {n m : κ} {pl : Place ι}

theorem holds_go (h : Holds H inbox (c.go i e p s) m pl) : Holds H inbox c m pl ∨
    (pl = .hand i ∧ m ∈ (Hands.after H (c.summary (Hands.after H) {} i) e).hand) ∨
    (pl = .picked i ∧ m ∈ (Hands.after H (c.summary (Hands.after H) {} i) e).picked) ∨
    (pl = .inbox ∧ m ∈ inbox s) := by
  cases pl with
  | inbox => exact .inr (.inr (.inr ⟨rfl, h⟩))
  | hand j =>
      by_cases hj : j = i
      · subst hj
        rw [Holds, Config.summary_go_self] at h
        exact .inr (.inl ⟨rfl, h⟩)
      · rw [Holds, Config.summary_go_of_ne _ _ hj] at h
        exact .inl h
  | picked j =>
      by_cases hj : j = i
      · subst hj
        rw [Holds, Config.summary_go_self] at h
        exact .inr (.inr (.inl ⟨rfl, h⟩))
      · rw [Holds, Config.summary_go_of_ne _ _ hj] at h
        exact .inl h

theorem Placed.makes (h : Placed H made inbox c) (he : H e = some (.makes n))
    (hstays : ∀ n, made c.store n → made s n) (hnew : ¬ made c.store n) (hmade : made s n)
    (hinbox : (inbox s).Perm (inbox c.store)) : Placed H made inbox (c.go i e p s) := by
  refine h.move (m := n) (d := .hand i) (hinbox.nodup_iff.mpr h.nodup) hstays hmade
    (fun p hp => absurd (h.made hp) hnew) fun m pl hm => ?_
  rcases holds_go hm with hold | ⟨rfl, hx⟩ | ⟨rfl, hx⟩ | ⟨rfl, hx⟩
  · exact .inl hold
  · rw [after_makes he] at hx
    rcases List.mem_cons.mp hx with rfl | hx
    · exact .inr ⟨rfl, rfl⟩
    · exact .inl hx
  · rw [after_makes he] at hx
    exact .inl hx
  · exact .inl (show m ∈ inbox c.store from hinbox.mem_iff.mp hx)

theorem Placed.posts (h : Placed H made inbox c) (he : H e = some (.posts n))
    (hstays : ∀ n, made c.store n → made s n) (hheld : Holds H inbox c n (.hand i))
    (hinbox : (inbox s).Perm (n :: inbox c.store)) : Placed H made inbox (c.go i e p s) := by
  have hout : n ∉ inbox c.store := fun hin => by
    cases h.one (p := .inbox) hin hheld
  refine h.move (m := n) (d := .inbox) ?_ hstays (hstays n (h.made hheld)) (fun pl hp hp' => ?_)
    fun m pl hm => ?_
  · exact hinbox.nodup_iff.mpr (List.nodup_cons.mpr ⟨hout, h.nodup⟩)
  · obtain rfl := h.one hp hheld
    rw [Holds, Config.summary_go_self, after_posts he] at hp'
    exact absurd rfl (of_decide_eq_true (List.mem_filter.mp hp').2)
  · rcases holds_go hm with hold | ⟨rfl, hx⟩ | ⟨rfl, hx⟩ | ⟨rfl, hx⟩
    · exact .inl hold
    · rw [after_posts he] at hx
      exact .inl ((List.mem_filter.mp hx).1)
    · rw [after_posts he] at hx
      exact .inl hx
    · rcases List.mem_cons.mp (hinbox.mem_iff.mp hx) with rfl | hx
      · exact .inr ⟨rfl, rfl⟩
      · exact .inl hx

theorem Placed.picks (h : Placed H made inbox c) (he : H e = some (.picks n))
    (hstays : ∀ n, made c.store n → made s n) (hinbox : (inbox c.store).Perm (n :: inbox s)) :
    Placed H made inbox (c.go i e p s) := by
  have hin : Holds H inbox c n .inbox := hinbox.mem_iff.mpr (List.mem_cons_self ..)
  obtain ⟨hout, hnodup⟩ := List.nodup_cons.mp (hinbox.nodup_iff.mp h.nodup)
  refine h.move (m := n) (d := .picked i) hnodup hstays (hstays n (h.made hin))
    (fun pl hp hp' => ?_) fun m pl hm => ?_
  · obtain rfl := h.one hp hin
    exact absurd hp' hout
  · rcases holds_go hm with hold | ⟨rfl, hx⟩ | ⟨rfl, hx⟩ | ⟨rfl, hx⟩
    · exact .inl hold
    · rw [after_picks he] at hx
      exact .inl hx
    · rw [after_picks he] at hx
      rcases List.mem_cons.mp hx with rfl | hx
      · exact .inr ⟨rfl, rfl⟩
      · exact .inl hx
    · exact .inl (hinbox.mem_iff.mpr (List.mem_cons_of_mem _ hx))

theorem KeepsTokens.placed (hk : KeepsTokens H S made inbox) (hfair : ∀ i, PostsFairly H (S.prog i))
    (h₀ : (inbox s₀).Nodup) (hmade₀ : ∀ n ∈ inbox s₀, made s₀ n) (h : S.Run ok s₀ c) :
    Placed H made inbox c := by
  refine h.invariant ⟨h₀, fun {n pl} hp => ?_, fun {n pl pl'} hp hp' => ?_⟩ ?_
  · cases pl with
    | inbox => exact hmade₀ n hp
    | hand i => cases hp
    | picked i => cases hp
  · cases pl with
    | inbox =>
        cases pl' with
        | inbox => rfl
        | hand i => cases hp'
        | picked i => cases hp'
    | hand i => cases hp
    | picked i => cases hp
  · intro c i o k a s hrun hi _ ha ih
    have hstays : ∀ n, made c.store n → made s n := fun n => hk.stays ha
    have hkept := hk.kept ha
    rcases he : H ⟨o, a⟩ with _ | ⟨n | n | n⟩
    · rw [he] at hkept
      have hinbox : (inbox c.store).Perm (inbox s) := List.append_nil (inbox c.store) ▸ hkept
      have hsame : ∀ m pl, Holds H inbox (c.go i ⟨o, a⟩ (k a) s) m pl → Holds H inbox c m pl := by
        intro m pl hm
        rcases holds_go hm with hold | ⟨rfl, hx⟩ | ⟨rfl, hx⟩ | ⟨rfl, hx⟩
        · exact hold
        · rw [after_none he] at hx
          exact hx
        · rw [after_none he] at hx
          exact hx
        · exact hinbox.mem_iff.mpr hx
      exact ⟨hinbox.nodup_iff.mp ih.nodup, fun hp => hstays _ (ih.made (hsame _ _ hp)),
        fun hp hq => ih.one (hsame _ _ hp) (hsame _ _ hq)⟩
    · obtain ⟨hnew, hmade⟩ := hk.make ha he
      rw [he] at hkept
      have hinbox : (inbox c.store).Perm (inbox s) := List.append_nil (inbox c.store) ▸ hkept
      exact ih.makes he hstays hnew hmade hinbox.symm
    · rw [he] at hkept
      exact ih.posts he hstays (hrun.pre hi (hfair i) a n he)
        (hkept.symm.trans (List.perm_append_singleton n _))
    · rw [he] at hkept
      have hinbox : (inbox c.store).Perm (n :: inbox s) := List.append_nil (inbox c.store) ▸ hkept
      exact ih.picks he hstays hinbox

omit [DecidableEq ι] in
theorem Placed.picked_once (h : Placed H made inbox c) {j : ι}
    (hi : n ∈ (c.summary (Hands.after H) {} i).picked)
    (hj : n ∈ (c.summary (Hands.after H) {} j).picked) : i = j :=
  Place.picked.inj (h.one (p := .picked i) (q := .picked j) hi hj)

end Runs

end Handover

end Async
