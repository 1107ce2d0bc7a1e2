import DataWorkspace.Py.Text

/-!
# The LIKE operator

`like pattern s` is `s LIKE pattern`.  In a pattern `%` stands for any text, `_`
for any one character, and a backslash makes the character behind it stand for
itself.  An underscore that is meant literally therefore has to be escaped:
`like_escape_append` reads an escaped text as a literal.
-/

namespace Sql

open Py

/-- `s LIKE pattern`. -/
@[grind =]
def like : Str → Str → Bool
  | [], s => s.isEmpty
  | '%' :: p, s => s.tails.any (like p)
  | '_' :: p, s =>
      match s with
      | [] => false
      | _ :: t => like p t
  | '\\' :: c :: p, s =>
      match s with
      | [] => false
      | d :: t => d == c && like p t
  | c :: p, s =>
      match s with
      | [] => false
      | d :: t => d == c && like p t

/-- The characters with a meaning of their own in a pattern. -/
def isLikeSpecial (c : Char) : Bool := c == '%' || c == '_' || c == '\\'

/-- The pattern that matches `s` and nothing else. -/
def likeEscape (s : Str) : Str := s.flatMap fun c => if isLikeSpecial c then ['\\', c] else [c]

theorem like_percent (s : Str) : like ['%'] s = true := by
  have hn : like [] [] = true := rfl
  simp only [like, List.any_eq_true]
  exact ⟨[], (List.mem_tails _ _).mpr (List.nil_suffix), hn⟩

theorem like_cons_of_not_special {c : Char} (h : isLikeSpecial c = false) (p : Str) (d : Char)
    (t : Str) : like (c :: p) (d :: t) = (d == c && like p t) := by
  simp only [isLikeSpecial, Bool.or_eq_false_iff, beq_eq_false_iff_ne, ne_eq] at h
  obtain ⟨⟨h1, h2⟩, h3⟩ := h
  rw [like]
  · exact h1
  · exact h2
  · intro c' p' hc
    exact absurd hc h3

theorem like_cons_nil {c : Char} (h : isLikeSpecial c = false) (p : Str) :
    like (c :: p) [] = false := by
  simp only [isLikeSpecial, Bool.or_eq_false_iff, beq_eq_false_iff_ne, ne_eq] at h
  obtain ⟨⟨h1, h2⟩, h3⟩ := h
  rw [like]
  · exact h1
  · exact h2
  · intro c' p' hc
    exact absurd hc h3

theorem like_escape_append (p : Str) : ∀ lit s : Str,
    like (likeEscape lit ++ p) s = true ↔ ∃ t, s = lit ++ t ∧ like p t = true
  | [], s => by simp [likeEscape]
  | c :: lit, s => by
      have ih := like_escape_append p lit
      have hcons : likeEscape (c :: lit) ++ p =
          (if isLikeSpecial c then ['\\', c] else [c]) ++ (likeEscape lit ++ p) := by
        simp [likeEscape]
      have hmatch : like (likeEscape (c :: lit) ++ p) s =
          match s with
          | [] => false
          | d :: t => d == c && like (likeEscape lit ++ p) t := by
        rw [hcons]
        by_cases hc : isLikeSpecial c = true
        · rw [if_pos hc]
          rfl
        · rw [if_neg hc]
          rw [Bool.not_eq_true] at hc
          cases s with
          | nil => exact like_cons_nil hc _
          | cons d t => exact like_cons_of_not_special hc _ d t
      rw [hmatch]
      cases s with
      | nil => simp
      | cons d t =>
          simp only [Bool.and_eq_true, beq_iff_eq, ih, List.cons_append, List.cons.injEq]
          constructor
          · rintro ⟨rfl, u, rfl, hu⟩
            exact ⟨u, ⟨rfl, rfl⟩, hu⟩
          · rintro ⟨u, ⟨rfl, rfl⟩, hu⟩
            exact ⟨rfl, u, rfl, hu⟩

theorem like_escape (lit s : Str) : like (likeEscape lit) s = (s == lit) := by
  have h := like_escape_append [] lit s
  rw [List.append_nil] at h
  rw [Bool.eq_iff_iff, h, beq_iff_eq]
  constructor
  · rintro ⟨t, rfl, ht⟩
    rw [like, List.isEmpty_iff] at ht
    rw [ht, List.append_nil]
  · rintro rfl
    exact ⟨[], (List.append_nil _).symm, rfl⟩

/-- A text without special characters matches itself alone. -/
theorem like_of_not_special {lit : Str} (h : ∀ c ∈ lit, isLikeSpecial c = false) (s : Str) :
    like lit s = true ↔ s = lit := by
  induction lit generalizing s with
  | nil => cases s <;> simp [like]
  | cons c lit ih =>
      have hc := h c List.mem_cons_self
      have ih := ih fun d hd => h d (List.mem_cons_of_mem _ hd)
      cases s with
      | nil => simp [like_cons_nil hc]
      | cons d t => simp [like_cons_of_not_special hc, ih]

theorem like_percent_underscore {lit : Str} (h : ∀ c ∈ lit, isLikeSpecial c = false) (s : Str) :
    like ('%' :: '_' :: lit) s = true ↔ ∃ c, c :: lit <:+ s := by
  simp only [like, List.any_eq_true, List.mem_tails]
  constructor
  · rintro ⟨t, hsuffix, ht⟩
    cases t with
    | nil => cases ht
    | cons c t =>
        have hlit : t = lit := (like_of_not_special h t).mp ht
        exact ⟨c, hlit ▸ hsuffix⟩
  · rintro ⟨c, hsuffix⟩
    exact ⟨c :: lit, hsuffix, (like_of_not_special h lit).mpr rfl⟩

theorem forall_mem_of_all {p : Char → Bool} {b : Bool} {s : Str}
    (h : (s.all fun c => p c == b) = true) : ∀ c ∈ s, p c = b :=
  fun c hc => beq_iff_eq.mp (List.all_eq_true.mp h c hc)

example : like "_team_%" "steam_sales" = true ∧ like "\\_team\\_%" "steam_sales" = false := by
  decide

end Sql
