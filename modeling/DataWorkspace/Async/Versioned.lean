import DataWorkspace.Async.Shared
import Mathlib.Order.Basic

/-!
# Versioned caches

A cache that keeps the values of many keys under a version that only rises.  A task reads the
version, looks its key up under it, and if there is nothing, makes a value from what it sees and
puts it there.  All of this takes time, and other tasks go on meanwhile.

`Versioned` says which events do so, and `Reader` is the summary of a task: the version it read
last, and the events since.  A value is `Fresh` since a configuration if all it was made from was
seen after that configuration.

There are two ways to be rid of old values.  After the version has risen no task that starts gets
one (`fresh_of_raised`).  Dropping the entry of one key is enough only if no task of that key is
under way (`fresh_of_dropped`): what such a task saw before it may put there afterwards.
-/

namespace Async

variable {Op : Type} {Ans : Op → Type} {ε α ι σ τ κ ν : Type}

/-! ## What programs do in any case -/

/-- The summary that knows whether an event of a kind has happened. -/
def noticing (P : Event Ans → Prop) (seen : Prop) (e : Event Ans) : Prop := seen ∨ P e

/-- The program does not return before such an event has happened. -/
def Surely (P : Event Ans → Prop) (p : Prog Ans ε α) : Prop :=
  wp (summing (noticing P) fun _ _ => True) p (onOk fun _ seen => seen) False

section Surely

variable {P : Event Ans → Prop} {β : Type}

theorem wp_noticing {p : Prog Ans ε α} {seen : Prop} (h : seen) :
    wp (summing (noticing P) fun _ _ => True) p (onOk fun _ seen => seen) seen := by
  refine wp_kept p.only_true (fun _ _ _ _ => trivial) (fun _ _ _ _ => Or.inl) (F := fun s => s) ?_ h
  intro r s hs
  cases r with
  | ok _ => exact hs
  | error _ => trivial

theorem Surely.first {o : Op} {k : Ans o → Prog Ans ε α} (h : ∀ a, P ⟨o, a⟩) :
    Surely P (.op o k) := wp_summing.mpr ⟨trivial, fun a => wp_noticing (.inr (h a))⟩

theorem Surely.next {o : Op} {k : Ans o → Prog Ans ε α} (h : ∀ a, P ⟨o, a⟩ ∨ Surely P (k a)) :
    Surely P (.op o k) := by
  refine wp_summing.mpr ⟨trivial, fun a => ?_⟩
  by_cases ha : P ⟨o, a⟩
  · exact wp_noticing (.inr ha)
  · rw [noticing, false_or, eq_false ha]
    exact (h a).resolve_left ha

theorem Surely.bind_left {p : Prog Ans ε α} {f : α → Prog Ans ε β} (h : Surely P p) :
    Surely P (p >>= f) := wp_bind_onOk h fun _ _ hs => wp_noticing hs

theorem Surely.bind_right {p : Prog Ans ε α} {f : α → Prog Ans ε β} (h : ∀ a, Surely P (f a)) :
    Surely P (p >>= f) := by
  refine wp_bind_onOk (F := fun _ _ => True) (wp_mono ?_ p _ (wp_kept p.only_true
    (fun _ _ _ _ => trivial) (fun _ _ _ _ => id) (F := fun _ => True) (fun _ _ => id) trivial)) ?_
  · intro r s _
    cases r <;> trivial
  · intro a s _
    by_cases hs : s
    · exact wp_noticing hs
    · rw [eq_false hs]
      exact h a

theorem Surely.forM {f : β → Prog Ans ε Unit} :
    ∀ {l : List β}, (∃ b ∈ l, Surely P (f b)) → Surely P (l.forM f)
  | [], h => by
      obtain ⟨_, hb, _⟩ := h
      cases hb
  | b :: l, h => by
      obtain ⟨b', hb, h⟩ := h
      rcases List.mem_cons.mp hb with rfl | hb
      · exact .bind_left h
      · exact .bind_right fun _ => Surely.forM ⟨b', hb, h⟩

theorem noticing_foldl {seen : Prop} {tr : List (Event Ans)} (h : tr.foldl (noticing P) seen) :
    seen ∨ ∃ e ∈ tr, P e := by
  induction tr generalizing seen with
  | nil => exact .inl h
  | cons e tr ih =>
      rcases ih h with (hseen | he) | ⟨e', he', hP⟩
      · exact .inl hseen
      · exact .inr ⟨e, List.mem_cons_self, he⟩
      · exact .inr ⟨e', List.mem_cons_of_mem _ he', hP⟩

theorem Shared.Run.exists_of_surely [DecidableEq ι] {S : Shared Ans ε α ι σ}
    {ok : Config Ans ε α ι σ → ι → Op → Prop} {s₀ : σ} {c : Config Ans ε α ι σ} {i : ι} {x : α}
    (h : S.Run ok s₀ c) (hi : (c.tasks i).value? = some x) (hp : Surely P (S.prog i)) :
    ∃ e ∈ c.traces i, P e := by
  have hpost := h.post (r := .ok x) (Prog.eq_pure_of_value? hi) hp
  exact (noticing_foldl hpost).resolve_left id

end Surely

/-! ## Caches -/

/-- What events and operations do to a cache, and what a value is made from. -/
structure Versioned {Op : Type} (Ans : Op → Type) (τ κ ν : Type) where
  reads : Event Ans → Option τ
  finds : Event Ans → Option (τ × κ × ν)
  puts : Op → Option (τ × κ × ν)
  drops : Op → Option (τ × κ)
  made : κ → List (Event Ans) → ν → Prop

/-- The version that a task read last, its events before, and its events since. -/
structure Reader {Op : Type} (Ans : Op → Type) (τ : Type) where
  version : Option τ := none
  before : List (Event Ans) := []
  events : List (Event Ans) := []

namespace Versioned

variable (V : Versioned Ans τ κ ν)

/-- The summary after an event. -/
def follow (h : Reader Ans τ) (e : Event Ans) : Reader Ans τ :=
  match V.reads e with
  | some v => ⟨some v, h.events ++ h.before, []⟩
  | none => ⟨h.version, h.before, e :: h.events⟩

variable {V} in
theorem follow_reads {h : Reader Ans τ} {e : Event Ans} {v : τ} (he : V.reads e = some v) :
    V.follow h e = ⟨some v, h.events ++ h.before, []⟩ := by
  rw [follow, he]

variable {V} in
theorem follow_other {h : Reader Ans τ} {e : Event Ans} (he : V.reads e = none) :
    V.follow h e = ⟨h.version, h.before, e :: h.events⟩ := by
  rw [follow, he]

/-- A task puts and drops under the version it read.  What it puts belongs to its key, if it has
one, and is made from what it saw since. -/
structure Careful (k : Option κ) (o : Op) (h : Reader Ans τ) : Prop where
  puts : ∀ v k' x, V.puts o = some (v, k', x) →
    h.version = some v ∧ k = some k' ∧ V.made k' h.events x
  drops : ∀ v k', V.drops o = some (v, k') → h.version = some v

/-- The program is careful with the cache. -/
def Fair (k : Option κ) (p : Prog Ans ε α) : Prop := Meets (summing V.follow (V.Careful k)) p {}

/-- A value that a task comes to was made from what it saw, or found under its key. -/
def Gives (k : κ) (x : ν) (h : Reader Ans τ) : Prop :=
  ∃ v, h.version = some v ∧ (V.made k h.events x ∨ ∃ e ∈ h.events, V.finds e = some (v, k, x))

/-- The store keeps the cache. -/
structure Keeps [LE τ] (S : Shared Ans ε α ι σ) (current : σ → τ)
    (entry : σ → τ → κ → Option ν) : Prop where
  rises : ∀ {i o s a s'}, S.act i o s a s' → current s ≤ current s'
  reads : ∀ {i o s a s' v}, S.act i o s a s' → V.reads ⟨o, a⟩ = some v → v = current s'
  finds : ∀ {i o s a s' v k x}, S.act i o s a s' → V.finds ⟨o, a⟩ = some (v, k, x) →
    entry s v k = some x
  stays : ∀ {i o s a s' v k x}, S.act i o s a s' → entry s' v k = some x →
    entry s v k = some x ∨ V.puts o = some (v, k, x)
  drops : ∀ {i o s a s' v k}, S.act i o s a s' → V.drops o = some (v, k) → entry s' v k = none

end Versioned

section Since

variable [DecidableEq ι] (S : Shared Ans ε α ι σ) (ok : Config Ans ε α ι σ → ι → Op → Prop)

/-- Some task was answered so, after one configuration and before another. -/
def Since (c₀ c : Config Ans ε α ι σ) (e : Event Ans) : Prop :=
  ∃ c₁ c₂ i, S.Later ok c₀ c₁ ∧ S.Step ok c₁ c₂ ∧ S.act i e.1 c₁.store e.2 c₂.store ∧
    S.Later ok c₂ c

variable {S ok} {c₀ c₁ c c' : Config Ans ε α ι σ} {e : Event Ans}

theorem Since.later (h : Since S ok c₀ c e) (h' : S.Later ok c c') : Since S ok c₀ c' e := by
  obtain ⟨c₁, c₂, i, h₀, hs, ha, h₂⟩ := h
  exact ⟨c₁, c₂, i, h₀, hs, ha, h₂.trans h'⟩

theorem Since.earlier (h : Since S ok c₁ c e) (h' : S.Later ok c₀ c₁) : Since S ok c₀ c e := by
  obtain ⟨c₂, c₃, i, h₂, hs, ha, h₃⟩ := h
  exact ⟨c₂, c₃, i, h'.trans h₂, hs, ha, h₃⟩

/-- The value was made from what was seen after the first configuration. -/
def Versioned.Fresh (V : Versioned Ans τ κ ν) (S : Shared Ans ε α ι σ)
    (ok : Config Ans ε α ι σ → ι → Op → Prop) (c₀ c : Config Ans ε α ι σ) (k : κ) (x : ν) : Prop :=
  ∃ es, V.made k es x ∧ ∀ e ∈ es, Since S ok c₀ c e

variable {V : Versioned Ans τ κ ν} {k : κ} {x : ν}

theorem Versioned.Fresh.later (h : V.Fresh S ok c₀ c k x) (h' : S.Later ok c c') :
    V.Fresh S ok c₀ c' k x := by
  obtain ⟨es, hmade, hes⟩ := h
  exact ⟨es, hmade, fun e he => (hes e he).later h'⟩

theorem Shared.Later.mem_traces (h : S.Later ok c c') {i : ι} (he : e ∈ c.traces i) :
    e ∈ c'.traces i := by
  induction h with
  | refl => exact he
  | tail _ hs ih =>
      cases hs with
      | perform _ _ _ => exact Config.mem_traces_go ih

theorem Shared.Later.since (h : S.Later ok c c') {i : ι} (hi : c.traces i = [])
    (he : e ∈ c'.traces i) : Since S ok c c' e := by
  induction h with
  | refl =>
      rw [hi] at he
      cases he
  | tail hlater hs ih =>
      have hs' := hs
      cases hs with
      | perform _ _ ha =>
          rcases Config.mem_traces_of_go he with he | ⟨-, rfl⟩
          · exact (ih he).later (.single hs')
          · exact ⟨_, _, _, hlater, hs', ha, .refl⟩

theorem Shared.Later.next_eq_none (h : S.Later ok c c') {i : ι} (hi : (c.tasks i).next = none) :
    (c'.tasks i).next = none := by
  induction h with
  | refl => exact hi
  | tail _ hs ih =>
      cases hs with
      | @perform j o k a s hj _ _ =>
          by_cases hij : i = j
          · subst hij
            rw [hj] at ih
            cases ih
          · rw [Config.go_tasks_of_ne hij]
            exact ih

end Since

namespace Versioned

section Runs

variable [DecidableEq ι] {V : Versioned Ans τ κ ν} {S : Shared Ans ε α ι σ}
  {ok : Config Ans ε α ι σ → ι → Op → Prop} {s₀ : σ} {c₀ c₁ c : Config Ans ε α ι σ}

/-- The summary of a task. -/
abbrev reader (V : Versioned Ans τ κ ν) (c : Config Ans ε α ι σ) (i : ι) : Reader Ans τ :=
  c.summary V.follow {} i

theorem version_go {i j : ι} {e : Event Ans} {p : Prog Ans ε α} {s : σ} {v : τ}
    (h : (V.reader (c.go i e p s) j).version = some v) :
    j = i ∧ V.reads e = some v ∧ (V.reader (c.go i e p s) j).events = [] ∨
      (V.reader c j).version = some v ∧
        (V.reader (c.go i e p s) j).before = (V.reader c j).before ∧
        ∀ e' ∈ (V.reader (c.go i e p s) j).events, e' ∈ (V.reader c j).events ∨ j = i ∧ e' = e := by
  by_cases hj : j = i
  · subst hj
    rw [reader, Config.summary_go_self] at h ⊢
    cases hreads : V.reads e with
    | some v' =>
        rw [follow_reads hreads] at h ⊢
        exact .inl ⟨rfl, h, rfl⟩
    | none =>
        rw [follow_other hreads] at h ⊢
        refine .inr ⟨h, rfl, fun e' he' => ?_⟩
        rcases List.mem_cons.mp he' with rfl | he'
        · exact .inr ⟨rfl, rfl⟩
        · exact .inl he'
  · rw [reader, Config.summary_go_of_ne _ _ hj] at h ⊢
    exact .inr ⟨h, rfl, fun e' he' => .inl he'⟩

omit [DecidableEq ι] in
theorem mem_traces_of_reader {i : ι} {e : Event Ans}
    (he : e ∈ (V.reader c i).before ∨ e ∈ (V.reader c i).events) : e ∈ c.traces i := by
  have hall (tr : List (Event Ans)) (h : Reader Ans τ)
      (he : e ∈ (tr.foldl V.follow h).before ∨ e ∈ (tr.foldl V.follow h).events) :
      e ∈ tr ∨ e ∈ h.before ∨ e ∈ h.events := by
    induction tr generalizing h with
    | nil => exact .inr he
    | cons e' tr ih =>
        rcases ih _ he with htr | hh
        · exact .inl (List.mem_cons_of_mem _ htr)
        · cases hreads : V.reads e' with
          | some v =>
              rw [follow_reads hreads, List.mem_append] at hh
              exact .inr ((hh.resolve_right List.not_mem_nil).symm)
          | none =>
              rw [follow_other hreads, List.mem_cons] at hh
              rcases hh with hb | rfl | hes
              · exact .inr (.inl hb)
              · exact .inl List.mem_cons_self
              · exact .inr (.inr hes)
  rcases hall _ _ he with htr | hnil | hnil
  · exact htr
  · cases hnil
  · cases hnil

section Order

variable [Preorder τ] {current : σ → τ} {entry : σ → τ → κ → Option ν}

theorem version_le (hV : V.Keeps S current entry) (h : S.Run ok s₀ c) {i : ι} {v : τ}
    (hv : (V.reader c i).version = some v) : v ≤ current c.store := by
  refine h.invariant (I := fun c => ∀ i v, (V.reader c i).version = some v →
    v ≤ current c.store) (fun i v hv => by cases hv) ?_ i v hv
  intro c i o k a s _ _ _ ha ih j v hv
  rcases version_go hv with ⟨-, hreads, -⟩ | ⟨hold, -⟩
  · exact (hV.reads ha hreads).le
  · exact (ih j v hold).trans (hV.rises ha)

theorem le_version (hV : V.Keeps S current entry) (h₀ : S.Run ok s₀ c₀) (h : S.Later ok c₀ c)
    {i : ι} (hi : (V.reader c₀ i).version = none) {v : τ}
    (hv : (V.reader c i).version = some v) : current c₀.store ≤ v := by
  have hall : current c₀.store ≤ current c.store ∧
      ∀ v, (V.reader c i).version = some v → current c₀.store ≤ v := by
    refine h.keeps h₀ (I := fun c => current c₀.store ≤ current c.store ∧
      ∀ v, (V.reader c i).version = some v → current c₀.store ≤ v) ?_
      ⟨le_rfl, fun v hv => by rw [hi] at hv; cases hv⟩
    intro c j o k a s _ _ _ ha ih
    refine ⟨ih.1.trans (hV.rises ha), fun v hv => ?_⟩
    rcases version_go hv with ⟨-, hreads, -⟩ | ⟨hold, -⟩
    · rw [hV.reads ha hreads]
      exact ih.1.trans (hV.rises ha)
    · exact ih.2 v hold
  exact hall.2 v hv

theorem current_le (hV : V.Keeps S current entry) (h : S.Later ok c₀ c) :
    current c₀.store ≤ current c.store := by
  induction h with
  | refl => exact le_rfl
  | tail _ hs ih =>
      cases hs with
      | perform _ _ ha => exact ih.trans (hV.rises ha)

/-- What a task saw since it read a version that is new, or since it started, it saw later. -/
theorem since_of_mem (hV : V.Keeps S current entry) (h₀ : S.Run ok s₀ c₀) (h : S.Later ok c₀ c)
    {i : ι} {v : τ} (hv : (V.reader c i).version = some v)
    (hnew : current c₀.store < v ∨ (V.reader c₀ i).version = none) {e : Event Ans}
    (he : e ∈ (V.reader c i).events) : Since S ok c₀ c e := by
  have hall : S.Later ok c₀ c ∧ ∀ i v, (V.reader c i).version = some v →
      (current c₀.store < v ∨ (V.reader c₀ i).version = none) →
        ∀ e ∈ (V.reader c i).events, Since S ok c₀ c e := by
    refine h.keeps h₀ (I := fun c => S.Later ok c₀ c ∧ ∀ i v, (V.reader c i).version = some v →
      (current c₀.store < v ∨ (V.reader c₀ i).version = none) →
        ∀ e ∈ (V.reader c i).events, Since S ok c₀ c e) ?_ ⟨.refl, fun i v hv hnew => ?_⟩
    · intro c i o k a s _ hi hok ha ih
      have hstep : S.Later ok c (c.go i ⟨o, a⟩ (k a) s) := .single (.perform hi hok ha)
      refine ⟨ih.1.trans hstep, fun j v hv hnew e he => ?_⟩
      rcases version_go hv with ⟨-, -, hnil⟩ | ⟨hold, -, hmem⟩
      · rw [hnil] at he
        cases he
      · rcases hmem e he with he | ⟨-, rfl⟩
        · exact (ih.2 j v hold hnew e he).later hstep
        · exact ⟨c, _, i, ih.1, .perform hi hok ha, ha, .refl⟩
    · rcases hnew with hlt | hnone
      · exact absurd (version_le hV h₀ hv) hlt.not_ge
      · rw [hnone] at hv
        cases hv
  exact hall.2 i v hv hnew e he

variable {key : ι → Option κ}

theorem fresh_of_puts (hV : V.Keeps S current entry) (hfair : ∀ i, V.Fair (key i) (S.prog i))
    (h₀ : S.Run ok s₀ c₀) (h : S.Later ok c₀ c) {i : ι} {o : Op} {f : Ans o → Prog Ans ε α}
    (hi : c.tasks i = .op o f) {v : τ} {k : κ} {x : ν} (hputs : V.puts o = some (v, k, x))
    (hnew : current c₀.store < v ∨ (V.reader c₀ i).version = none) : V.Fresh S ok c₀ c k x := by
  obtain ⟨hv, -, hmade⟩ := ((h₀.later h).pre hi (hfair i)).puts v k x hputs
  exact ⟨_, hmade, fun e he => since_of_mem hV h₀ h hv hnew he⟩

theorem entry_le (hV : V.Keeps S current entry) (hfair : ∀ i, V.Fair (key i) (S.prog i))
    (hstart : ∀ v k x, entry s₀ v k = some x → v ≤ current s₀) (h : S.Run ok s₀ c) {v : τ} {k : κ}
    {x : ν} (hx : entry c.store v k = some x) : v ≤ current c.store := by
  refine h.invariant (I := fun c => ∀ v k x, entry c.store v k = some x → v ≤ current c.store)
    hstart ?_ v k x hx
  intro c i o k a s hrun hi _ ha ih v k' x hx
  rcases hV.stays ha hx with hold | hputs
  · exact (ih v k' x hold).trans (hV.rises ha)
  · have hv := ((hrun.pre hi (hfair i)).puts v k' x hputs).1
    exact (version_le hV hrun hv).trans (hV.rises ha)

theorem fresh_of_entry (hV : V.Keeps S current entry) (hfair : ∀ i, V.Fair (key i) (S.prog i))
    (hstart : ∀ v k x, entry s₀ v k = some x → v ≤ current s₀) (h₀ : S.Run ok s₀ c₀)
    (h : S.Later ok c₀ c) {v : τ} {k : κ} {x : ν} (hv : current c₀.store < v)
    (hx : entry c.store v k = some x) : V.Fresh S ok c₀ c k x := by
  have hall : S.Later ok c₀ c ∧ ∀ k x, entry c.store v k = some x → V.Fresh S ok c₀ c k x := by
    refine h.keeps h₀ (I := fun c => S.Later ok c₀ c ∧ ∀ k x, entry c.store v k = some x →
      V.Fresh S ok c₀ c k x) ?_ ⟨.refl, fun k x hx => ?_⟩
    · intro c i o f a s _ hi hok ha ih
      have hstep : S.Later ok c (c.go i ⟨o, a⟩ (f a) s) := .single (.perform hi hok ha)
      refine ⟨ih.1.trans hstep, fun k x hx => ?_⟩
      rcases hV.stays ha hx with hold | hputs
      · exact (ih.2 k x hold).later hstep
      · exact (fresh_of_puts hV hfair h₀ ih.1 hi hputs (.inl hv)).later hstep
    · exact absurd (entry_le hV hfair hstart h₀ hx) hv.not_ge
  exact hall.2 k x hx

theorem fresh_of_gives (hV : V.Keeps S current entry) (hfair : ∀ i, V.Fair (key i) (S.prog i))
    (hstart : ∀ v k x, entry s₀ v k = some x → v ≤ current s₀) (h₀ : S.Run ok s₀ c₀)
    (h : S.Later ok c₀ c) {i : ι} {k : κ} {x : ν} (hx : V.Gives k x (V.reader c i))
    (hnew : ∀ v, (V.reader c i).version = some v → current c₀.store < v) :
    V.Fresh S ok c₀ c k x := by
  obtain ⟨v, hv, hmade | ⟨e, he, hfinds⟩⟩ := hx
  · exact ⟨_, hmade, fun e he => since_of_mem hV h₀ h hv (.inl (hnew v hv)) he⟩
  · obtain ⟨c₁, c₂, j, h₁, hs, ha, h₂⟩ := since_of_mem hV h₀ h hv (.inl (hnew v hv)) he
    exact (fresh_of_entry hV hfair hstart h₀ h₁ (hnew v hv) (hV.finds ha hfinds)).later
      (h₂.head hs)

theorem fresh_of_raised (hV : V.Keeps S current entry) (hfair : ∀ i, V.Fair (key i) (S.prog i))
    (hstart : ∀ v k x, entry s₀ v k = some x → v ≤ current s₀) (h₀ : S.Run ok s₀ c₀)
    (h₁ : S.Later ok c₀ c₁) (h : S.Later ok c₁ c) (hlt : current c₀.store < current c₁.store)
    {i : ι} {k : κ} {x : ν} (hi : (V.reader c₁ i).version = none)
    (hx : V.Gives k x (V.reader c i)) : V.Fresh S ok c₀ c k x :=
  fresh_of_gives hV hfair hstart h₀ (h₁.trans h) hx fun _ hv =>
    hlt.trans_le (le_version hV (h₀.later h₁) h hi hv)

end Order

section Dropping

variable [PartialOrder τ] {current : σ → τ} {entry : σ → τ → κ → Option ν} {key : ι → Option κ}

/-- Every task of the key has yet to read the version, or is over. -/
def Quiet (V : Versioned Ans τ κ ν) (key : ι → Option κ) (k : κ) (c : Config Ans ε α ι σ) : Prop :=
  ∀ i, key i = some k → (V.reader c i).version = none ∨ (c.tasks i).next = none

theorem fresh_of_mem_drops (hV : V.Keeps S current entry)
    (hfair : ∀ i, V.Fair (key i) (S.prog i)) (h₀ : S.Run ok s₀ c₀) (h : S.Later ok c₀ c) {k : κ}
    (hquiet : V.Quiet key k c₀) {j : ι} (hj : c₀.traces j = []) {e : Event Ans}
    (he : e ∈ c.traces j) {v : τ} (hdrops : V.drops e.1 = some (v, k)) :
    current c₀.store ≤ v ∧ v ≤ current c.store ∧
      ∀ x, entry c.store v k = some x → V.Fresh S ok c₀ c k x := by
  have hnone : (V.reader c₀ j).version = none := by
    rw [reader, Config.summary, hj]
    rfl
  have hall : S.Later ok c₀ c ∧ ∀ e ∈ c.traces j, ∀ v, V.drops e.1 = some (v, k) →
      current c₀.store ≤ v ∧ v ≤ current c.store ∧
        ∀ x, entry c.store v k = some x → V.Fresh S ok c₀ c k x := by
    refine h.keeps h₀ (I := fun c => S.Later ok c₀ c ∧ ∀ e ∈ c.traces j, ∀ v,
      V.drops e.1 = some (v, k) → current c₀.store ≤ v ∧ v ≤ current c.store ∧
        ∀ x, entry c.store v k = some x → V.Fresh S ok c₀ c k x) ?_
      ⟨.refl, fun e he => by rw [hj] at he; cases he⟩
    intro c i o f a s hrun hi hok ha ih
    have hstep : S.Later ok c (c.go i ⟨o, a⟩ (f a) s) := .single (.perform hi hok ha)
    refine ⟨ih.1.trans hstep, fun e he v hdrops => ?_⟩
    rcases Config.mem_traces_of_go he with he | ⟨rfl, rfl⟩
    · obtain ⟨hge, hle, hfresh⟩ := ih.2 e he v hdrops
      refine ⟨hge, hle.trans (hV.rises ha), fun x hx => ?_⟩
      rcases hV.stays ha hx with hold | hputs
      · exact (hfresh x hold).later hstep
      · -- A task of the key that goes on has started since.
        have hkey := ((hrun.pre hi (hfair i)).puts v k x hputs).2.1
        have hnew : (V.reader c₀ i).version = none := by
          rcases hquiet i hkey with hnew | hover
          · exact hnew
          · have hnext := ih.1.next_eq_none hover
            rw [hi] at hnext
            cases hnext
        exact (fresh_of_puts hV hfair h₀ ih.1 hi hputs (.inr hnew)).later hstep
    · have hv := (hrun.pre hi (hfair j)).drops v k hdrops
      refine ⟨le_version hV h₀ ih.1 hnone hv, (version_le hV hrun hv).trans (hV.rises ha), ?_⟩
      intro x hx
      have hgone : entry s v k = none := hV.drops ha hdrops
      rw [Config.go_store, hgone] at hx
      cases hx
  exact hall.2 e he v hdrops

theorem fresh_of_dropped (hV : V.Keeps S current entry)
    (hfair : ∀ i, V.Fair (key i) (S.prog i))
    (hstart : ∀ v k x, entry s₀ v k = some x → v ≤ current s₀) (h₀ : S.Run ok s₀ c₀)
    (h₁ : S.Later ok c₀ c₁) (h : S.Later ok c₁ c) {i j : ι} {k : κ} (hquiet : V.Quiet key k c₀)
    (hj : c₀.traces j = []) {e : Event Ans} (he : e ∈ c₁.traces j) {v : τ}
    (hdrops : V.drops e.1 = some (v, k)) {x : ν} (hi : (V.reader c₁ i).version = none)
    (hx : V.Gives k x (V.reader c i)) : V.Fresh S ok c₀ c k x := by
  have hrun₁ := h₀.later h₁
  obtain ⟨w, hw, hmade | ⟨e', he', hfinds⟩⟩ := hx
  · exact ⟨_, hmade, fun e he => (since_of_mem hV hrun₁ h hw (.inr hi) he).earlier h₁⟩
  · obtain ⟨c₂, c₃, j', h₂, hs, ha, h₃⟩ := since_of_mem hV hrun₁ h hw (.inr hi) he'
    obtain ⟨hge, -, hfresh⟩ := fresh_of_mem_drops hV hfair h₀ (h₁.trans h₂) hquiet hj
      (h₂.mem_traces he) hdrops
    have hle : v ≤ w := (fresh_of_mem_drops hV hfair h₀ h₁ hquiet hj he hdrops).2.1.trans
      (le_version hV hrun₁ h hi hw)
    have hentry := hV.finds ha hfinds
    rcases eq_or_lt_of_le (hge.trans hle) with heq | hlt
    · obtain rfl : v = w := le_antisymm hle (heq ▸ hge)
      exact (hfresh x hentry).later (h₃.head hs)
    · exact (fresh_of_entry hV hfair hstart h₀ (h₁.trans h₂) hlt hentry).later (h₃.head hs)

end Dropping

end Runs

end Versioned

end Async
