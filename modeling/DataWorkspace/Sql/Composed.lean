import DataWorkspace.Py.Text
import Mathlib.Data.List.DropRight

/-!
# Composed queries

A client composes a query of texts and quoted identifiers.  `format` puts identifiers into the
braces of a template.  Where parameters are given with the query, `unescape` reads a doubled
percent sign of its text as one; without parameters the text is sent as it is.

`escape` doubles the percent signs that stand alone.  It is undone where parameters are given,
as long as no percent sign stands beside another (`unescape_escape_iff`).  A text is the same
both ways if and only if it has no percent sign at all (`escape_fixed_iff`).
-/

namespace Sql

open Py

/-- An identifier in quotes.  A quote in it is doubled. -/
def identifier (name : Str) : Str :=
  '"' :: (name.flatMap fun c => if c = '"' then ['"', '"'] else [c]) ++ ['"']

/-- The template with the arguments in its braces.  Doubled braces stand for themselves, and
any other brace raises. -/
def format : Str → List Str → Option Str
  | [], _ => some []
  | '{' :: '{' :: s, args => (format s args).map ('{' :: ·)
  | '}' :: '}' :: s, args => (format s args).map ('}' :: ·)
  | '{' :: '}' :: s, arg :: args => (format s args).map (arg ++ ·)
  | c :: s, args => if c = '{' ∨ c = '}' then none else (format s args).map (c :: ·)

/-- The text for which a query with parameters is sent, apart from the parameters. -/
@[grind =]
def unescape : Str → Str
  | '%' :: '%' :: s => '%' :: unescape s
  | c :: s => c :: unescape s
  | [] => []

/-- `re.sub("(?<!%)%(?!%)", "%%", s)`, behind a percent sign or not. -/
def escapeFrom (behind : Bool) : Str → Str
  | [] => []
  | c :: s =>
      if c = '%' ∧ behind = false ∧ s.head? ≠ some '%' then '%' :: '%' :: escapeFrom true s
      else c :: escapeFrom (decide (c = '%')) s

def escape (s : Str) : Str := escapeFrom false s

/-- A percent sign beside another. -/
def Doubled (s : Str) : Prop := ['%', '%'] <:+: s

variable {s t : Str}

/-! ## Reading doubled percent signs -/

theorem unescape_cons {c : Char} (h : ¬ (c = '%' ∧ s.head? = some '%')) :
    unescape (c :: s) = c :: unescape s := by
  rw [unescape]
  rintro t rfl rfl
  exact h ⟨rfl, rfl⟩

/-- The two parts are read on their own where the second one begins with another character. -/
theorem unescape_append (ht : t.head? ≠ some '%') : ∀ s : Str,
    unescape (s ++ t) = unescape s ++ unescape t
  | [] => rfl
  | c :: s => by
      by_cases h : c = '%' ∧ s.head? = some '%'
      · obtain ⟨rfl, hs⟩ := h
        obtain ⟨u, rfl⟩ := List.head?_eq_some_iff.mp hs
        have ih := unescape_append ht u
        show '%' :: unescape (u ++ t) = '%' :: (unescape u ++ unescape t)
        rw [ih]
      · have ih := unescape_append ht s
        have hst : ¬ (c = '%' ∧ (s ++ t).head? = some '%') := by
          rintro ⟨rfl, hhead⟩
          cases s with
          | nil => exact ht hhead
          | cons d s => exact h ⟨rfl, hhead⟩
        rw [List.cons_append, unescape_cons hst, unescape_cons h, ih, List.cons_append]

/-! ## Escaping -/

theorem escapeFrom_cons_of_ne {c : Char} (h : c ≠ '%') (behind : Bool) (s : Str) :
    escapeFrom behind (c :: s) = c :: escapeFrom false s := by
  rw [escapeFrom, if_neg fun hc => h hc.1, decide_eq_false h]

theorem escapeFrom_percent_true (s : Str) :
    escapeFrom true ('%' :: s) = '%' :: escapeFrom true s := rfl

theorem escapeFrom_percent_percent (behind : Bool) (s : Str) :
    escapeFrom behind ('%' :: '%' :: s) = '%' :: '%' :: escapeFrom true s := by
  rw [escapeFrom, if_neg fun hc => hc.2.2 rfl]
  rfl

theorem escapeFrom_lone (hs : s.head? ≠ some '%') :
    escapeFrom false ('%' :: s) = '%' :: '%' :: escapeFrom true s := by
  rw [escapeFrom, if_pos ⟨rfl, rfl, hs⟩]

theorem escapeFrom_of_head (hs : s.head? ≠ some '%') (behind : Bool) :
    escapeFrom behind s = escapeFrom false s := by
  cases s with
  | nil => rfl
  | cons c s =>
      have hc : c ≠ '%' := fun he => hs (by rw [he]; rfl)
      rw [escapeFrom_cons_of_ne hc, escapeFrom_cons_of_ne hc]

theorem unescape_escapeFrom_length_le : ∀ (behind : Bool) (s : Str),
    (unescape (escapeFrom behind s)).length ≤ s.length
  | _, [] => Nat.le_refl 0
  | behind, c :: s => by
      by_cases hc : c = '%'
      · subst hc
        cases s with
        | nil => cases behind <;> decide
        | cons d s =>
            by_cases hd : d = '%'
            · subst hd
              have ih := unescape_escapeFrom_length_le true s
              rw [escapeFrom_percent_percent, unescape, List.length_cons, List.length_cons,
                List.length_cons]
              omega
            · have ih := unescape_escapeFrom_length_le false s
              have hhead : (d :: escapeFrom false s).head? ≠ some '%' := fun he =>
                hd (Option.some.inj he)
              have hlone : unescape ('%' :: d :: escapeFrom false s) =
                  '%' :: d :: unescape (escapeFrom false s) := by
                rw [unescape_cons fun h => hhead h.2, unescape_cons fun h => hd h.1]
              cases behind with
              | true =>
                  rw [escapeFrom_percent_true, escapeFrom_cons_of_ne hd, hlone]
                  simpa using ih
              | false =>
                  have hs : (d :: s).head? ≠ some '%' := fun he => hd (Option.some.inj he)
                  rw [escapeFrom_lone hs, escapeFrom_cons_of_ne hd, unescape,
                    unescape_cons fun h => hd h.1]
                  simpa using ih
      · have ih := unescape_escapeFrom_length_le false s
        rw [escapeFrom_cons_of_ne hc, unescape_cons fun h => hc h.1]
        simpa using ih

theorem not_doubled_cons {c : Char} (h : ¬ Doubled (c :: s)) :
    ¬ Doubled s ∧ ¬ (c = '%' ∧ s.head? = some '%') := by
  constructor
  · rintro ⟨a, b, hab⟩
    exact h ⟨c :: a, b, by rw [← hab]; rfl⟩
  · rintro ⟨rfl, hs⟩
    obtain ⟨u, rfl⟩ := List.head?_eq_some_iff.mp hs
    exact h ⟨[], u, rfl⟩

/-- What is escaped is read back where no percent sign stands beside another. -/
theorem unescape_escape_of_not_doubled (h : ¬ Doubled s) : unescape (escape s) = s := by
  induction s with
  | nil => rfl
  | cons c s ih =>
      obtain ⟨hs, hhead⟩ := not_doubled_cons h
      have ih : unescape (escapeFrom false s) = s := ih hs
      by_cases hc : c = '%'
      · subst hc
        have hs : s.head? ≠ some '%' := fun he => hhead ⟨rfl, he⟩
        rw [escape, escapeFrom_lone hs, unescape, escapeFrom_of_head hs, ih]
      · rw [escape, escapeFrom_cons_of_ne hc, unescape_cons fun he => hc he.1, ih]

theorem unescape_escape_of_doubled (h : Doubled s) :
    (unescape (escape s)).length < s.length := by
  induction s with
  | nil => exact absurd (List.eq_nil_of_infix_nil h) (List.cons_ne_nil _ _)
  | cons c s ih =>
      by_cases hc : c = '%' ∧ s.head? = some '%'
      · obtain ⟨rfl, hs⟩ := hc
        obtain ⟨u, rfl⟩ := List.head?_eq_some_iff.mp hs
        have hle := unescape_escapeFrom_length_le true u
        rw [escape, escapeFrom_percent_percent, unescape, List.length_cons, List.length_cons,
          List.length_cons]
        omega
      · have hs : Doubled s := by
          rcases List.infix_cons_iff.mp h with hpre | hs
          · obtain ⟨u, hu⟩ := hpre
            cases hu
            exact absurd ⟨rfl, rfl⟩ hc
          · exact hs
        have ih : (unescape (escapeFrom false s)).length < s.length := ih hs
        by_cases hp : c = '%'
        · subst hp
          have hhead : s.head? ≠ some '%' := fun he => hc ⟨rfl, he⟩
          rw [escape, escapeFrom_lone hhead, unescape, escapeFrom_of_head hhead,
            List.length_cons, List.length_cons]
          omega
        · rw [escape, escapeFrom_cons_of_ne hp, unescape_cons fun he => hp he.1,
            List.length_cons, List.length_cons]
          omega

theorem unescape_escape_iff (s : Str) : unescape (escape s) = s ↔ ¬ Doubled s := by
  constructor
  · intro he h
    have hlt := unescape_escape_of_doubled h
    rw [he] at hlt
    exact Nat.lt_irrefl _ hlt
  · exact unescape_escape_of_not_doubled

theorem escape_of_not_mem (h : '%' ∉ s) : escape s = s := by
  induction s with
  | nil => rfl
  | cons c s ih =>
      have hc : c ≠ '%' := fun he => h (he ▸ List.mem_cons_self)
      have hs : escapeFrom false s = s := ih fun hs => h (List.mem_cons_of_mem c hs)
      rw [escape, escapeFrom_cons_of_ne hc, hs]

/-- Where every percent sign stands alone, each of them makes the text longer. -/
theorem length_escape (h : ¬ Doubled s) : (escape s).length = s.length + s.count '%' := by
  induction s with
  | nil => rfl
  | cons c s ih =>
      obtain ⟨hs, hhead⟩ := not_doubled_cons h
      have ih : (escapeFrom false s).length = s.length + s.count '%' := ih hs
      by_cases hc : c = '%'
      · subst hc
        have hs : s.head? ≠ some '%' := fun he => hhead ⟨rfl, he⟩
        rw [escape, escapeFrom_lone hs, escapeFrom_of_head hs, List.count_cons_self,
          List.length_cons, List.length_cons, List.length_cons, ih]
        omega
      · rw [escape, escapeFrom_cons_of_ne hc, List.count_cons_of_ne hc, List.length_cons,
          List.length_cons, ih]
        omega

/-- Only a text without percent signs is the same when it is escaped, whether it is read
with parameters or sent as it is. -/
theorem escape_fixed_iff (s : Str) : unescape (escape s) = s ∧ escape s = s ↔ '%' ∉ s := by
  constructor
  · rintro ⟨hread, hsent⟩
    have hlength := length_escape ((unescape_escape_iff s).mp hread)
    rw [hsent] at hlength
    rw [← List.count_eq_zero]
    omega
  · intro h
    have hdoubled : ¬ Doubled s := fun hd =>
      h (hd.subset List.mem_cons_self)
    exact ⟨(unescape_escape_iff s).mpr hdoubled, escape_of_not_mem h⟩

/-! ## The end of the text -/

theorem escapeFrom_concat {c : Char} (hc : c ≠ '%') : ∀ (behind : Bool) (s : Str),
    escapeFrom behind (s ++ [c]) = escapeFrom behind s ++ [c]
  | behind, [] => escapeFrom_cons_of_ne hc behind []
  | behind, d :: s => by
      have hhead : (s ++ [c]).head? ≠ some '%' ↔ s.head? ≠ some '%' := by
        cases s with
        | nil => simp [hc]
        | cons d s => rfl
      rw [List.cons_append, escapeFrom, escapeFrom, escapeFrom_concat hc, escapeFrom_concat hc]
      simp only [hhead]
      split
      · rfl
      · rfl

theorem escapeFrom_concat_percent : ∀ (behind : Bool) (s : Str),
    ∃ t, escapeFrom behind (s ++ ['%']) = t ++ ['%']
  | true, [] => ⟨[], rfl⟩
  | false, [] => ⟨['%'], rfl⟩
  | behind, d :: s => by
      rw [List.cons_append, escapeFrom]
      split
      next =>
        obtain ⟨t, ht⟩ := escapeFrom_concat_percent true s
        exact ⟨'%' :: '%' :: t, by rw [ht]; rfl⟩
      next =>
        obtain ⟨t, ht⟩ := escapeFrom_concat_percent (decide (d = '%')) s
        exact ⟨d :: t, by rw [ht]; rfl⟩

/-- Taking characters off the end, other than percent signs, and escaping can be exchanged. -/
theorem rdropWhile_escape {p : Char → Bool} (hp : p '%' = false) (s : Str) :
    (escape s).rdropWhile p = escape (s.rdropWhile p) := by
  induction s using List.reverseRecOn with
  | nil => rfl
  | append_singleton s c ih =>
      by_cases hc : p c = true
      · have hne : c ≠ '%' := fun he => by rw [he, hp] at hc; cases hc
        rw [escape, escapeFrom_concat hne, List.rdropWhile_concat_pos _ _ _ hc,
          List.rdropWhile_concat_pos _ _ _ hc]
        exact ih
      · have hend : ∃ t, escape (s ++ [c]) = t ++ [c] := by
          by_cases hne : c = '%'
          · subst hne
            exact escapeFrom_concat_percent false s
          · exact ⟨escape s, escapeFrom_concat hne false s⟩
        obtain ⟨t, ht⟩ := hend
        rw [List.rdropWhile_concat_neg _ _ _ hc, ht, List.rdropWhile_concat_neg _ _ _ hc]

end Sql
