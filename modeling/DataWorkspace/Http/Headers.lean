import DataWorkspace.Py.Text

/-!
# HTTP header lists

The headers of a message are a list of names and values in the order they were
sent.  Names are compared without regard to case and may repeat, so a list is a
multimap.  `values` are the values of one name, in order.

A receiver that expects one value of a name has to choose when there are several.
`ReadRule` are the three rules in use: the first value, the last one, or all of
them joined with commas.  `agree_iff` says which lists no rule tells apart when
the same values are appended to both, as happens when a forwarder puts its own
values behind those of a client.
-/

namespace Http

open Py

/-- Header names and values, in the order they are sent. -/
abbrev Headers := List (Str × Str)

namespace Headers

def values (h : Headers) (name : Str) : List Str :=
  (h.filter fun kv => lower kv.1 == lower name).map Prod.snd

/-- `headers[name]`: the first value. -/
def get? (h : Headers) (name : Str) : Option Str := (h.values name).head?

/-- `name in headers`. -/
def contains (h : Headers) (name : Str) : Bool := (h.get? name).isSome

theorem values_append (h h' : Headers) (name : Str) :
    values (h ++ h') name = h.values name ++ h'.values name := by
  simp [values]

theorem values_filter {h : Headers} {keep : Str → Bool} {name : Str}
    (hk : keep (lower name) = true) :
    values (h.filter fun kv => keep (lower kv.1)) name = h.values name := by
  unfold values
  rw [List.filter_filter]
  congr 1
  refine List.filter_congr fun kv _ => ?_
  by_cases he : lower kv.1 = lower name
  · simp [he, hk]
  · simp [he]

theorem values_filter_of_not {h : Headers} {keep : Str → Bool} {name : Str}
    (hk : keep (lower name) = false) :
    values (h.filter fun kv => keep (lower kv.1)) name = [] := by
  unfold values
  rw [List.filter_filter, List.map_eq_nil_iff, List.filter_eq_nil_iff]
  intro kv _
  by_cases he : lower kv.1 = lower name
  · simp [he, hk]
  · simp [he]

end Headers

/-! ## Reading several values of one name -/

/-- What a receiver makes of several values of one header name. -/
inductive ReadRule where
  | first
  | last
  | joined
deriving DecidableEq, Repr

/-- Values joined with commas. -/
def joinValues (vs : List Str) : Str := List.intercalate [','] vs

/-- The one value a receiver sees. -/
def ReadRule.read : ReadRule → List Str → Option Str
  | .first, vs => vs.head?
  | .last, vs => vs.getLast?
  | .joined, [] => none
  | .joined, v :: vs => some (joinValues (v :: vs))

theorem joinValues_append {vs ws : List Str} (hv : vs ≠ []) (hw : ws ≠ []) :
    joinValues (vs ++ ws) = joinValues vs ++ ',' :: joinValues ws := by
  rw [joinValues, intercalate_append hv hw, List.append_assoc]
  rfl

/-- Two lists of values that no rule tells apart when `own` is appended to both.
The last value matters only when nothing is appended. -/
def Alike (own vs ws : List Str) : Prop :=
  vs.head? = ws.head? ∧ joinValues vs = joinValues ws ∧ (own = [] → vs.getLast? = ws.getLast?)

instance (own vs ws : List Str) : Decidable (Alike own vs ws) :=
  inferInstanceAs (Decidable (_ ∧ _ ∧ _))

theorem Alike.refl (own vs : List Str) : Alike own vs vs := ⟨rfl, rfl, fun _ => rfl⟩

/-- Putting values in front of others makes the joined text longer. -/
theorem joinValues_ne_append {vs own : List Str} (hv : vs ≠ []) (ho : own ≠ []) :
    joinValues own ≠ joinValues (vs ++ own) := by
  intro h
  have hl := congrArg List.length h
  rw [joinValues_append hv ho] at hl
  simp at hl
  omega

theorem read_joined_of_ne_nil {vs : List Str} (h : vs ≠ []) :
    ReadRule.joined.read vs = some (joinValues vs) := by
  cases vs with
  | nil => exact absurd rfl h
  | cons v vs => rfl

private theorem eq_nil_iff_of_read {own vs ws : List Str} (ho : own ≠ [])
    (h : ReadRule.joined.read (vs ++ own) = ReadRule.joined.read (ws ++ own)) :
    vs = [] ↔ ws = [] := by
  rw [read_joined_of_ne_nil (by simp [ho]), read_joined_of_ne_nil (by simp [ho]),
    Option.some.injEq] at h
  constructor
  · intro hv
    by_contra hw
    exact joinValues_ne_append hw ho (by rw [hv, List.nil_append] at h; exact h)
  · intro hw
    by_contra hv
    exact joinValues_ne_append hv ho (by rw [hw, List.nil_append] at h; exact h.symm)

theorem agree_iff (own vs ws : List Str) :
    (∀ rule : ReadRule, rule.read (vs ++ own) = rule.read (ws ++ own)) ↔ Alike own vs ws := by
  by_cases ho : own = []
  · subst ho
    simp only [List.append_nil]
    constructor
    · intro h
      have hj := h .joined
      refine ⟨h .first, ?_, fun _ => h .last⟩
      cases vs with
      | nil =>
          cases ws with
          | nil => rfl
          | cons w ws => cases hj
      | cons v vs =>
          cases ws with
          | nil => cases hj
          | cons w ws => exact Option.some.inj hj
    · rintro ⟨hf, hj, hl⟩ (_ | _ | _)
      · exact hf
      · exact hl rfl
      · cases vs with
        | nil =>
            cases ws with
            | nil => rfl
            | cons w ws => cases hf
        | cons v vs =>
            cases ws with
            | nil => cases hf
            | cons w ws => exact congrArg some hj
  · constructor
    · intro h
      have hnil := eq_nil_iff_of_read ho (h .joined)
      by_cases hv : vs = []
      · rw [hv, hnil.mp hv]
        exact Alike.refl _ _
      · have hw : ws ≠ [] := fun hw => hv (hnil.mpr hw)
        have hf := h .first
        have hj := h .joined
        rw [read_joined_of_ne_nil (by simp [ho]), read_joined_of_ne_nil (by simp [ho]),
          Option.some.injEq, joinValues_append hv ho, joinValues_append hw ho] at hj
        refine ⟨?_, List.append_cancel_right hj, fun h => absurd h ho⟩
        simpa [ReadRule.read, List.head?_append_of_ne_nil _ hv, List.head?_append_of_ne_nil _ hw]
          using hf
    · rintro ⟨hf, hj, -⟩ rule
      by_cases hv : vs = []
      · have hw : ws = [] := by
          rw [hv] at hf
          exact List.head?_eq_none_iff.mp hf.symm
        rw [hv, hw]
      · have hw : ws ≠ [] := by
          intro hw
          rw [hw] at hf
          exact hv (List.head?_eq_none_iff.mp hf)
        cases rule with
        | first =>
            simpa [ReadRule.read, List.head?_append_of_ne_nil _ hv,
              List.head?_append_of_ne_nil _ hw] using hf
        | last =>
            cases hl : own.getLast? with
            | none => exact absurd (List.getLast?_eq_none_iff.mp hl) ho
            | some v => simp [ReadRule.read, List.getLast?_append, hl]
        | joined =>
            rw [read_joined_of_ne_nil (by simp [ho]), read_joined_of_ne_nil (by simp [ho]),
              joinValues_append hv ho, joinValues_append hw ho, hj]

end Http
