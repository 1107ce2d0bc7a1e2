import DataWorkspace.Async.Shared

/-!
# Locks

Named locks in a shared store.  A task takes a lock when nobody has it, and gives it
back.  `Locking` says which events do so, and `Locking.hold` is the summary of a task
that lists the locks it has.

Mutual exclusion needs two things: the store grants a lock only when it is free
(`Locking.Guarded`), and tasks give back only locks they have (`Locking.Fair`).
`Locking.Guarded.owned` is the induction over runs.

`Locking.locks` also has which locks the operations need.  A program that gives back
all that it takes `Leaves` the list of its locks as it is.
-/

namespace Async

variable {Op : Type} {Ans : Op → Type} {ε α β ι σ φ κ : Type}

structure Locking {Op : Type} (Ans : Op → Type) (κ : Type) where
  takes : Event Ans → Option κ
  gives : Event Ans → Option κ

section Locks

variable [DecidableEq κ] (L : Locking Ans κ)

/-- The locks a task has after an event. -/
def Locking.hold (held : List κ) (e : Event Ans) : List κ :=
  match L.takes e with
  | some n => n :: held
  | none =>
      match L.gives e with
      | some n => held.filter (· ≠ n)
      | none => held

theorem Locking.mem_hold_of_takes {held : List κ} {e : Event Ans} {m n : κ}
    (h : L.takes e = some n) : m ∈ L.hold held e ↔ m = n ∨ m ∈ held := by
  rw [Locking.hold, h]
  exact List.mem_cons

theorem Locking.mem_hold_of_gives {held : List κ} {e : Event Ans} {m n : κ}
    (h : L.takes e = none) (h' : L.gives e = some n) : m ∈ L.hold held e ↔ m ≠ n ∧ m ∈ held := by
  rw [Locking.hold, h]
  simp only [h', List.mem_filter, decide_eq_true_eq]
  exact And.comm

theorem Locking.hold_of_neither {held : List κ} {e : Event Ans} (h : L.takes e = none)
    (h' : L.gives e = none) : L.hold held e = held := by
  rw [Locking.hold, h]
  simp only [h']

/-- A lock is given back only by a task that has it. -/
def Locking.givesHeld (o : Op) (held : List κ) : Prop := ∀ a n, L.gives ⟨o, a⟩ = some n → n ∈ held

/-- The program gives back only what it has. -/
def Locking.Fair (p : Prog Ans ε α) : Prop :=
  wp (summing L.hold L.givesHeld) p (fun _ _ => True) []

/-- The store gives a lock only when nobody has it. -/
structure Locking.Guarded (S : Shared Ans ε α ι σ) (locked : σ → κ → Prop) : Prop where
  take : ∀ {i o s a s' n}, S.act i o s a s' → L.takes ⟨o, a⟩ = some n →
    ¬ locked s n ∧ ∀ m, locked s' m ↔ m = n ∨ locked s m
  give : ∀ {i o s a s' n}, S.act i o s a s' → L.takes ⟨o, a⟩ = none → L.gives ⟨o, a⟩ = some n →
    ∀ m, locked s' m ↔ m ≠ n ∧ locked s m
  other : ∀ {i o s a s'}, S.act i o s a s' → L.takes ⟨o, a⟩ = none → L.gives ⟨o, a⟩ = none →
    ∀ m, locked s' m ↔ locked s m

/-- A lock that a task has is taken, and no other task has it. -/
structure Locking.Owned (locked : σ → κ → Prop) (c : Config Ans ε α ι σ) : Prop where
  taken : ∀ {i n}, n ∈ c.summary L.hold [] i → locked c.store n
  unique : ∀ {i j n}, n ∈ c.summary L.hold [] i → n ∈ c.summary L.hold [] j → i = j

variable {L} [DecidableEq ι] {S : Shared Ans ε α ι σ} {locked : σ → κ → Prop}
  {ok : Config Ans ε α ι σ → ι → Op → Prop} {s₀ : σ} {c : Config Ans ε α ι σ}

theorem Locking.Owned.take (h : L.Owned locked c) {i : ι} {e : Event Ans} {p : Prog Ans ε α} {s : σ}
    {n : κ} (htakes : L.takes e = some n) (hfree : ¬ locked c.store n)
    (hs : ∀ m, locked s m ↔ m = n ∨ locked c.store m) : L.Owned locked (c.go i e p s) := by
  have hheld {j : ι} {m : κ} (hm : m ∈ (c.go i e p s).summary L.hold [] j) :
      j = i ∧ m = n ∨ m ∈ c.summary L.hold [] j := by
    by_cases hj : j = i
    · subst hj
      rw [Config.summary_go_self, L.mem_hold_of_takes htakes] at hm
      exact hm.imp_left fun hmn => ⟨rfl, hmn⟩
    · rw [Config.summary_go_of_ne _ _ hj] at hm
      exact .inr hm
  refine ⟨fun hm => ?_, fun hm hm' => ?_⟩
  · rw [Config.go_store, hs]
    exact (hheld hm).imp (·.2) h.taken
  · rcases hheld hm with ⟨rfl, rfl⟩ | hold
    · rcases hheld hm' with ⟨rfl, -⟩ | hold'
      · rfl
      · exact absurd (h.taken hold') hfree
    · rcases hheld hm' with ⟨rfl, rfl⟩ | hold'
      · exact absurd (h.taken hold) hfree
      · exact h.unique hold hold'

theorem Locking.Owned.give (h : L.Owned locked c) {i : ι} {e : Event Ans} {p : Prog Ans ε α} {s : σ}
    {n : κ} (htakes : L.takes e = none) (hgives : L.gives e = some n)
    (hn : n ∈ c.summary L.hold [] i) (hs : ∀ m, locked s m ↔ m ≠ n ∧ locked c.store m) :
    L.Owned locked (c.go i e p s) := by
  have hheld {j : ι} {m : κ} (hm : m ∈ (c.go i e p s).summary L.hold [] j) :
      m ≠ n ∧ m ∈ c.summary L.hold [] j := by
    by_cases hj : j = i
    · subst hj
      rwa [Config.summary_go_self, L.mem_hold_of_gives htakes hgives] at hm
    · rw [Config.summary_go_of_ne _ _ hj] at hm
      refine ⟨?_, hm⟩
      rintro rfl
      exact hj (h.unique hm hn)
  refine ⟨fun hm => ?_, fun hm hm' => h.unique (hheld hm).2 (hheld hm').2⟩
  rw [Config.go_store, hs]
  exact ⟨(hheld hm).1, h.taken (hheld hm).2⟩

theorem Locking.Guarded.owned (hg : L.Guarded S locked) (hfair : ∀ i, L.Fair (S.prog i))
    (h : S.Run ok s₀ c) : L.Owned locked c := by
  refine h.invariant ⟨fun hm => ?_, fun hm => ?_⟩ ?_
  · cases hm
  · cases hm
  · intro c i o k a s hrun hi _ ha ih
    cases htakes : L.takes ⟨o, a⟩ with
    | some n => exact ih.take htakes (hg.take ha htakes).1 (hg.take ha htakes).2
    | none =>
        cases hgives : L.gives ⟨o, a⟩ with
        | some n =>
            have hn : n ∈ c.summary L.hold [] i := hrun.pre hi (hfair i) a n hgives
            exact ih.give htakes hgives hn (hg.give ha htakes hgives)
        | none =>
            have hsame : ∀ j, (c.go i ⟨o, a⟩ (k a) s).summary L.hold [] j =
                c.summary L.hold [] j := by
              intro j
              by_cases hj : j = i
              · subst hj
                rw [Config.summary_go_self, L.hold_of_neither htakes hgives]
              · rw [Config.summary_go_of_ne _ _ hj]
            refine ⟨fun hm => ?_, fun hm hm' => ?_⟩
            · rw [hsame] at hm
              exact (hg.other ha htakes hgives _).mpr (ih.taken hm)
            · rw [hsame] at hm hm'
              exact ih.unique hm hm'

end Locks

/-! ## Programs that leave a summary as it is -/

/-- Every operation meets its condition and, however the program ends, the state is as before. -/
def Leaves (I : Interp Ans φ) (p : Prog Ans ε α) (s : φ) : Prop := wp I p (fun _ t => t = s) s

namespace Leaves

variable {ε' : Type} {I : Interp Ans φ} {p : Prog Ans ε α} {s : φ}

theorem bind {f : α → Prog Ans ε β} (hp : Leaves I p s) (hf : ∀ a, Leaves I (f a) s) :
    Leaves I (p >>= f) s :=
  wp_bind_of hp (fun a t ht => by rw [ht]; exact hf a) fun _ _ ht => ht

theorem attempt (hp : Leaves I p s) : Leaves I (p.attempt : Prog Ans ε' (Except ε α)) s :=
  (wp_attempt p _ s).mpr hp

theorem of_only {adv : φ → Event Ans → φ} {pre : Op → φ → Prop} {P : Op → Prop} (hp : p.Only P)
    (hpre : ∀ o, P o → pre o s) (hadv : ∀ o a, P o → adv s ⟨o, a⟩ = s) :
    Leaves (summing adv pre) p s :=
  wp_summing_of_only hp hpre hadv fun _ => rfl

theorem forM {f : β → Prog Ans ε Unit} {l : List β} (h : ∀ b ∈ l, Leaves I (f b) s) :
    Leaves I (l.forM f) s :=
  wp_forM (F := fun t => t = s) (fun b hb t ht => by rw [ht]; exact h b hb) rfl

theorem mapM' {f : β → Prog Ans ε α} : ∀ {l : List β}, (∀ b ∈ l, Leaves I (f b) s) →
    Leaves I (l.mapM' f) s
  | [], _ => rfl
  | b :: _, h => (h b (List.mem_cons_self ..)).bind fun _ =>
      (mapM' fun b' hb => h b' (List.mem_cons_of_mem _ hb)).bind fun _ => rfl

/-- A part with fewer operations, under the summary of the whole. -/
theorem lift {Op' ε' : Type} {Ans' : Op' → Type} {emb : Op → Op'}
    {ret : ∀ o, Ans' (emb o) → Ans o} {exc : ε → ε'} {adv : φ → Event Ans → φ}
    {pre : Op → φ → Prop} {adv' : φ → Event Ans' → φ} {pre' : Op' → φ → Prop}
    (hadv : ∀ s o a, adv' s ⟨emb o, a⟩ = adv s ⟨o, ret o a⟩)
    (hpre : ∀ o s, pre o s → pre' (emb o) s) (hp : Leaves (summing adv pre) p s) :
    Leaves (summing adv' pre') (p.lift emb ret exc) s := by
  have hall {t : φ} (ht : wp (summing adv pre) p (fun _ t => t = s) t) :
      wp (summing adv' pre') (p.lift emb ret exc) (fun _ t => t = s) t := by
    clear hp
    induction p generalizing t with
    | pure a => exact ht
    | raise e => exact ht
    | op o k ih =>
        obtain ⟨ho, hk⟩ := wp_summing.mp ht
        refine wp_summing.mpr ⟨hpre o t ho, fun a => ?_⟩
        rw [hadv]
        exact ih _ (hk _)
  exact hall hp

end Leaves

/-! ## Sections under a lock -/

section Sections

variable [DecidableEq κ] (L : Locking Ans κ) (needs : Op → κ → Prop) {held : List κ} {l : κ}

/-- A lock is given back by a task that has it, and where an operation needs a lock, its task
has it. -/
abbrev Locking.locks : Interp Ans (List κ) :=
  summing L.hold fun o held => L.givesHeld o held ∧ ∀ l, needs o l → l ∈ held

/-- An operation on no lock. -/
def Locking.Plain (o : Op) : Prop := ∀ a, L.takes ⟨o, a⟩ = none ∧ L.gives ⟨o, a⟩ = none

variable {L needs}

theorem Locking.Plain.pre {o : Op} (h : L.Plain o) (hneeds : ∀ l, needs o l → l ∈ held) :
    (L.locks needs).pre o held := by
  refine ⟨fun a n hn => ?_, hneeds⟩
  rw [(h a).2] at hn
  cases hn

theorem leaves_plain {p : Prog Ans ε α}
    (hp : p.Only fun o => L.Plain o ∧ ∀ l, needs o l → l ∈ held) : Leaves (L.locks needs) p held :=
  .of_only hp (fun _ ho => ho.1.pre ho.2) fun _ a ho => L.hold_of_neither (ho.1 a).1 (ho.1 a).2

/-- A lock is asked for, and the task goes on with it or without. -/
theorem leaves_take {take : Op} {k : Ans take → Prog Ans ε α}
    (hgives : ∀ a, L.gives ⟨take, a⟩ = none) (hneeds : ∀ n, ¬ needs take n)
    (hk : ∀ a, (L.takes ⟨take, a⟩ = none ∧ Leaves (L.locks needs) (k a) held) ∨
      L.takes ⟨take, a⟩ = some l ∧ wp (L.locks needs) (k a) (fun _ t => t = held) (l :: held)) :
    Leaves (L.locks needs) (.op take k) held := by
  refine wp_summing.mpr ⟨⟨fun a n hn => ?_, fun n hn => absurd hn (hneeds n)⟩, fun a => ?_⟩
  · rw [hgives a] at hn
    cases hn
  · rcases hk a with ⟨hnone, hk⟩ | ⟨hsome, hk⟩
    · rwa [L.hold_of_neither hnone (hgives a)]
    · rwa [Locking.hold, hsome]

/-- A lock that was taken is given back after a part, however that ends. -/
theorem wp_giving {β : Type} {give : Op} {body : Prog Ans ε β}
    {f : Except ε β → Ans give → Prog Ans ε α}
    (hgives : ∀ a, L.takes ⟨give, a⟩ = none ∧ L.gives ⟨give, a⟩ = some l)
    (hneeds : ∀ n, ¬ needs give n) (hfree : l ∉ held)
    (hbody : Leaves (L.locks needs) body (l :: held))
    (hf : ∀ r a, Leaves (L.locks needs) (f r a) held) :
    wp (L.locks needs) ((body.attempt : Prog Ans ε _) >>= fun r => Prog.perform give >>= f r)
      (fun _ t => t = held) (l :: held) := by
  refine (wp_bind _ _ _ _).mpr ((wp_attempt body _ _).mpr (wp_mono (fun r t ht => ?_) body _ hbody))
  subst ht
  refine wp_summing.mpr ⟨⟨fun a n hn => ?_, fun n hn => absurd hn (hneeds n)⟩, fun a => ?_⟩
  · obtain rfl : l = n := Option.some.inj ((hgives a).2.symm.trans hn)
    exact List.mem_cons_self
  · have hheld : L.hold (l :: held) ⟨give, a⟩ = held := by
      rw [Locking.hold, (hgives a).1, (hgives a).2]
      dsimp only
      rw [List.filter_cons_of_neg (by simp), List.filter_eq_self]
      intro m hm
      simpa using fun heq : m = l => hfree (heq ▸ hm)
    rw [hheld]
    exact hf r a

theorem Leaves.fair {p : Prog Ans ε α} (hp : Leaves (L.locks needs) p []) : L.Fair p := by
  have hall {t : List κ} (h : Meets (L.locks needs) p t) :
      Meets (summing L.hold L.givesHeld) p t := by
    clear hp
    induction p generalizing t with
    | pure a => trivial
    | raise e => trivial
    | op o k ih =>
        obtain ⟨ho, hk⟩ := wp_summing.mp h
        exact wp_summing.mpr ⟨ho.1, fun a => ih a (hk a)⟩
  exact hall (.of_wp hp)

end Sections

end Async
