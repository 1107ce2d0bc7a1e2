import Mathlib.Logic.Basic
import Mathlib.Order.Defs.Unbundled

/-!
# Computations that may raise, and transactions

A computation over a state returns or raises an exception.  What it did to the
state before it raised stays done, as in Python, unless an `atomic` block around
it puts the database part back.

`wp m Q E s` says that `m` run from `s` ends in `Q` when it returns and in `E`
when it raises.  `Steps R m` says that any run of `m` relates the state before to
the state after by the preorder `R`, however it ends.  An invariant is such a
preorder, and so is the statement that a part of the state is left as it was.
-/

namespace Sql

variable {ε σ α β : Type}

theorem bind_eq_ok {x : Except ε α} {f : α → Except ε β} {b : β} :
    (x >>= f) = .ok b ↔ ∃ a, x = .ok a ∧ f a = .ok b := by
  cases x with
  | error e => simp [bind, Except.bind]
  | ok a => simp [bind, Except.bind]

theorem map_eq_ok {x : Except ε α} {f : α → β} {b : β} :
    x.map f = .ok b ↔ ∃ a, x = .ok a ∧ f a = b := by
  cases x with
  | error e => simp [Except.map]
  | ok a => simp [Except.map]

theorem if_error_eq_ok {c : Prop} [Decidable c] {e : ε} {x : Except ε α} {a : α} :
    (if c then .error e else x) = .ok a ↔ ¬ c ∧ x = .ok a := by
  by_cases h : c
  · simp [h]
  · simp [h]

/-! ## Outcomes -/

/-- Whether `m`, run from `s`, ends as `Q` says when it returns and as `E` says when
it raises. -/
def wp (m : EStateM ε σ α) (Q : α → σ → Prop) (E : ε → σ → Prop) (s : σ) : Prop :=
  match m s with
  | .ok a s' => Q a s'
  | .error e s' => E e s'

section

variable {Q : α → σ → Prop} {E : ε → σ → Prop} {s : σ}

theorem wp_pure {a : α} : wp (pure a) Q E s ↔ Q a s := Iff.rfl

theorem wp_throw {e : ε} : wp (throw e) Q E s ↔ E e s := Iff.rfl

theorem wp_bind {m : EStateM ε σ β} {f : β → EStateM ε σ α} :
    wp (m >>= f) Q E s ↔ wp m (fun b s' => wp (f b) Q E s') E s := by
  simp only [wp, bind, EStateM.bind]
  cases m s with
  | ok b s' => exact Iff.rfl
  | error e s' => exact Iff.rfl

theorem wp_modify {f : σ → σ} {R : PUnit → σ → Prop} :
    wp (modify f : EStateM ε σ PUnit) R E s ↔ R ⟨⟩ (f s) := Iff.rfl

theorem wp_get {R : σ → σ → Prop} : wp (get : EStateM ε σ σ) R E s ↔ R s s := Iff.rfl

theorem wp_mono {m : EStateM ε σ α} {Q' : α → σ → Prop} {E' : ε → σ → Prop}
    (h : wp m Q E s) (hQ : ∀ a s', Q a s' → Q' a s') (hE : ∀ e s', E e s' → E' e s') :
    wp m Q' E' s := by
  unfold wp at h ⊢
  cases hm : m s with
  | ok a s' => rw [hm] at h; exact hQ a s' h
  | error e s' => rw [hm] at h; exact hE e s' h

theorem wp_and {m : EStateM ε σ α} {Q' : α → σ → Prop} {E' : ε → σ → Prop}
    (h : wp m Q E s) (h' : wp m Q' E' s) :
    wp m (fun a s' => Q a s' ∧ Q' a s') (fun e s' => E e s' ∧ E' e s') s := by
  unfold wp at h h' ⊢
  cases hm : m s with
  | ok a s' => rw [hm] at h h'; exact ⟨h, h'⟩
  | error e s' => rw [hm] at h h'; exact ⟨h, h'⟩

end

/-- The state a computation ends in, however it ends. -/
def endOf (m : EStateM ε σ α) (s : σ) : σ :=
  match m s with
  | .ok _ s' => s'
  | .error _ s' => s'

theorem endOf_of_wp {m : EStateM ε σ α} {s : σ} {P : σ → Prop}
    (h : wp m (fun _ => P) (fun _ => P) s) : P (endOf m s) := by
  unfold wp at h
  unfold endOf
  cases hm : m s with
  | ok a s' => rw [hm] at h; exact h
  | error e s' => rw [hm] at h; exact h

theorem wp_of_endOf {m : EStateM ε σ α} {s : σ} {P : σ → Prop} (h : P (endOf m s)) :
    wp m (fun _ => P) (fun _ => P) s := by
  unfold endOf at h
  unfold wp
  cases hm : m s with
  | ok a s' => rw [hm] at h; exact h
  | error e s' => rw [hm] at h; exact h

/-! ## Handlers, blocks and loops -/

/-- `try: m except p: handler`. -/
def catching (m : EStateM ε σ α) (p : ε → Bool) (handler : ε → EStateM ε σ α) :
    EStateM ε σ α := fun s =>
  match m s with
  | .ok a s' => .ok a s'
  | .error e s' => if p e then handler e s' else .error e s'

/-- Run `m` in a block that puts a part of the state back when `m` raises:
`rollback before after` is the state after with that part as it was before. -/
def undoing (rollback : σ → σ → σ) (m : EStateM ε σ α) : EStateM ε σ α := fun s =>
  match m s with
  | .ok a s' => .ok a s'
  | .error e s' => .error e (rollback s s')

/-- `if c: m`. -/
def whenever (c : Bool) (m : EStateM ε σ PUnit) : EStateM ε σ PUnit :=
  if c then m else pure ⟨⟩

/-- `if o is not None: f(o)`. -/
def forSome (o : Option β) (f : β → EStateM ε σ PUnit) : EStateM ε σ PUnit :=
  match o with
  | some b => f b
  | none => pure ⟨⟩

/-- `for b in l: f(b)`. -/
def forEach (f : β → EStateM ε σ PUnit) : List β → EStateM ε σ PUnit
  | [] => pure ⟨⟩
  | b :: l => f b >>= fun _ => forEach f l

section

variable {Q : α → σ → Prop} {E : ε → σ → Prop} {s : σ}

theorem wp_catching {m : EStateM ε σ α} {p : ε → Bool} {handler : ε → EStateM ε σ α}
    (h : wp m Q (fun e s' => (p e = true → wp (handler e) Q E s') ∧ (p e = false → E e s')) s) :
    wp (catching m p handler) Q E s := by
  unfold wp at h ⊢
  unfold catching
  cases hm : m s with
  | ok a s' => rw [hm] at h; exact h
  | error e s' =>
      rw [hm] at h
      show match (if p e = true then handler e s' else .error e s' : EStateM.Result ε σ α) with
        | .ok a s' => Q a s'
        | .error e s' => E e s'
      cases hp : p e with
      | true => simpa only [hp, if_true] using h.1 hp
      | false => simpa only [hp, Bool.false_eq_true, if_false] using h.2 hp

theorem wp_undoing {rollback : σ → σ → σ} {m : EStateM ε σ α}
    (h : wp m Q (fun e s' => E e (rollback s s')) s) : wp (undoing rollback m) Q E s := by
  unfold wp at h
  unfold wp undoing
  cases hm : m s with
  | ok a s' => rw [hm] at h; exact h
  | error e s' => rw [hm] at h; exact h

variable {R : PUnit → σ → Prop}

theorem wp_whenever {c : Bool} {m : EStateM ε σ PUnit} (ht : c = true → wp m R E s)
    (hf : c = false → R ⟨⟩ s) : wp (whenever c m) R E s := by
  cases c with
  | true => exact ht rfl
  | false => exact hf rfl

theorem wp_forSome {o : Option β} {f : β → EStateM ε σ PUnit}
    (hs : ∀ b, o = some b → wp (f b) R E s) (hn : o = none → R ⟨⟩ s) :
    wp (forSome o f) R E s := by
  cases o with
  | some b => exact hs b rfl
  | none => exact hn rfl

/-- A loop whose invariant is about the elements gone through so far. -/
theorem wp_forEach {f : β → EStateM ε σ PUnit} (I : List β → σ → Prop) {l : List β}
    (step : ∀ front b back s, l = front ++ b :: back → I front s →
      wp (f b) (fun _ s' => I (front ++ [b]) s') E s)
    (start : I [] s) (done : ∀ s', I l s' → R ⟨⟩ s') : wp (forEach f l) R E s := by
  suffices h : ∀ back front s, l = front ++ back → I front s → wp (forEach f back) R E s from
    h l [] s rfl start
  intro back
  induction back with
  | nil =>
      intro front s hl hI
      rw [List.append_nil] at hl
      exact done s (hl ▸ hI)
  | cons b back ih =>
      intro front s hl hI
      refine wp_bind.mpr (wp_mono (step front b back s hl hI) ?_ fun _ _ he => he)
      intro _ s' hI'
      exact ih (front ++ [b]) s' (by simpa using hl) hI'

end

/-- A loop whose body never raises goes from end to end. -/
theorem endOf_forEach_append {f : β → EStateM ε σ PUnit} (hf : ∀ b s, ∃ s', f b s = .ok ⟨⟩ s')
    (l' : List β) : ∀ (l : List β) (s : σ),
      endOf (forEach f (l ++ l')) s = endOf (forEach f l') (endOf (forEach f l) s)
  | [], s => rfl
  | b :: l, s => by
      obtain ⟨s', hs'⟩ := hf b s
      have hcons : ∀ l, endOf (forEach f (b :: l)) s = endOf (forEach f l) s' := by
        intro l
        simp only [endOf, forEach, bind, EStateM.bind, hs']
      rw [List.cons_append, hcons, hcons]
      exact endOf_forEach_append hf l' l s'

theorem endOf_forEach_singleton {f : β → EStateM ε σ PUnit} (b : β) (s : σ) :
    endOf (forEach f [b]) s = endOf (f b) s := by
  simp only [endOf, forEach, bind, EStateM.bind]
  cases f b s with
  | ok a s' => rfl
  | error e s' => rfl

/-! ## What every run does -/

/-- Every run of `m`, however it ends, takes the state by `R`. -/
def Steps (R : σ → σ → Prop) (m : EStateM ε σ α) : Prop :=
  ∀ s, wp m (fun _ s' => R s s') (fun _ s' => R s s') s

namespace Steps

variable {R : σ → σ → Prop}

theorem endOf {m : EStateM ε σ α} (h : Steps R m) (s : σ) : R s (endOf m s) :=
  endOf_of_wp (h s)

theorem pure [Std.Refl R] (a : α) : Steps R (pure a : EStateM ε σ α) := fun s =>
  Std.Refl.refl s

theorem throw [Std.Refl R] (e : ε) : Steps R (throw e : EStateM ε σ α) := fun s =>
  Std.Refl.refl s

theorem get [Std.Refl R] : Steps R (get : EStateM ε σ σ) := fun s => Std.Refl.refl s

theorem modify {f : σ → σ} (h : ∀ s, R s (f s)) :
    Steps R (modify f : EStateM ε σ PUnit) := fun s => h s

theorem bind [IsTrans σ R] {m : EStateM ε σ β} {f : β → EStateM ε σ α} (hm : Steps R m)
    (hf : ∀ b, Steps R (f b)) : Steps R (m >>= f) := by
  intro s
  refine wp_bind.mpr (wp_mono (hm s) ?_ fun _ _ h => h)
  intro b s' h
  exact wp_mono (hf b s') (fun _ _ h' => IsTrans.trans _ _ _ h h')
    fun _ _ h' => IsTrans.trans _ _ _ h h'

theorem catching [IsTrans σ R] {m : EStateM ε σ α} {p : ε → Bool}
    {handler : ε → EStateM ε σ α} (hm : Steps R m) (hh : ∀ e, Steps R (handler e)) :
    Steps R (catching m p handler) := by
  intro s
  refine wp_catching (wp_mono (hm s) (fun _ _ h => h) ?_)
  intro e s' h
  refine ⟨fun _ => ?_, fun _ => h⟩
  exact wp_mono (hh e s') (fun _ _ h' => IsTrans.trans _ _ _ h h')
    fun _ _ h' => IsTrans.trans _ _ _ h h'

theorem undoing {rollback : σ → σ → σ} {m : EStateM ε σ α} (hm : Steps R m)
    (hr : ∀ s s', R s s' → R s (rollback s s')) : Steps R (undoing rollback m) := fun s =>
  wp_undoing (wp_mono (hm s) (fun _ _ h => h) fun _ s' h => hr s s' h)

theorem whenever [Std.Refl R] {c : Bool} {m : EStateM ε σ PUnit} (hm : Steps R m) :
    Steps R (whenever c m) := fun s =>
  wp_whenever (fun _ => hm s) fun _ => Std.Refl.refl s

theorem forSome [Std.Refl R] {o : Option β} {f : β → EStateM ε σ PUnit}
    (hf : ∀ b, Steps R (f b)) : Steps R (forSome o f) := fun s =>
  wp_forSome (fun b _ => hf b s) fun _ => Std.Refl.refl s

theorem forEachMem [Std.Refl R] [IsTrans σ R] {f : β → EStateM ε σ PUnit} :
    ∀ {l : List β}, (∀ b ∈ l, Steps R (f b)) → Steps R (forEach f l)
  | [], _ => pure _
  | b :: _, hf => bind (hf b List.mem_cons_self) fun _ =>
      forEachMem fun b' hb' => hf b' (List.mem_cons_of_mem b hb')

theorem forEach [Std.Refl R] [IsTrans σ R] {f : β → EStateM ε σ PUnit}
    (hf : ∀ b, Steps R (f b)) (l : List β) : Steps R (forEach f l) :=
  forEachMem fun b _ => hf b

end Steps

end Sql
