import DataWorkspace.Py.Text
import Mathlib.Data.List.Infix

/-!
# Matches of a pattern

`re.findall` and `re.sub` go through a text from the left.  Where a match begins they go on
behind the match, and elsewhere behind the character.  `Pattern.pieces` is what they find, and
both are read off it.

A text that is put together from pieces may have matches that begin in other places.  A
substitution replaces the pieces it should when it has none (`Pattern.sub_textOf`).
-/

namespace Py

namespace Re

/-- A piece of a text: a character of no match, or a match. -/
inductive Piece (α : Type) where
  | char (c : Char)
  | found (a : α)

namespace Piece

variable {α : Type}

def text (f : α → Str) : Piece α → Str
  | .char c => [c]
  | .found a => f a

def found? : Piece α → Option α
  | .char _ => none
  | .found a => some a

end Piece

def textOf {α : Type} (f : α → Str) (pieces : List (Piece α)) : Str := pieces.flatMap (Piece.text f)

section TextOf

variable {α : Type} (f : α → Str)

@[simp] theorem textOf_nil : textOf f [] = [] := rfl

@[simp] theorem textOf_char (c : Char) (ps : List (Piece α)) :
    textOf f (.char c :: ps) = c :: textOf f ps := rfl

@[simp] theorem textOf_found (a : α) (ps : List (Piece α)) :
    textOf f (.found a :: ps) = f a ++ textOf f ps := rfl

@[simp] theorem textOf_append (ps qs : List (Piece α)) :
    textOf f (ps ++ qs) = textOf f ps ++ textOf f qs := List.flatMap_append

@[simp] theorem textOf_map_char : ∀ s : Str, textOf f (s.map .char) = s
  | [] => rfl
  | c :: s => by rw [List.map_cons, textOf_char, textOf_map_char s]

theorem textOf_congr {g : α → Str} : ∀ {ps : List (Piece α)},
    (∀ a, .found a ∈ ps → f a = g a) → textOf f ps = textOf g ps
  | [], _ => rfl
  | .char c :: ps, h => by
      rw [textOf_char, textOf_char, textOf_congr fun a ha => h a (List.mem_cons_of_mem _ ha)]
  | .found a :: ps, h => by
      rw [textOf_found, textOf_found, h a List.mem_cons_self,
        textOf_congr fun a ha => h a (List.mem_cons_of_mem _ ha)]

end TextOf

structure Pattern (α : Type) where
  run : Str → Option α
  text : α → Str
  text_begins : ∀ {s a}, run s = some a → text a <+: s
  text_ne_nil : ∀ {s a}, run s = some a → text a ≠ []

namespace Pattern

variable {α : Type} (p : Pattern α)

/-- Go through the text, of which the first `skip` characters belong to a match. -/
@[grind =]
def scanFrom : Nat → Str → List (Piece α)
  | _, [] => []
  | skip + 1, _ :: s => scanFrom skip s
  | 0, c :: s =>
      match p.run (c :: s) with
      | some a => .found a :: scanFrom ((p.text a).length - 1) s
      | none => .char c :: scanFrom 0 s

/-- The pieces of a text. -/
def pieces (s : Str) : List (Piece α) := p.scanFrom 0 s

/-- `re.findall`. -/
def findall (s : Str) : List α := (p.pieces s).filterMap Piece.found?

/-- `re.sub`, with what a match is replaced by. -/
def sub (repl : α → Str) (s : Str) : Str := textOf repl (p.pieces s)

/-! ## The pieces -/

theorem textOf_scanFrom : ∀ (skip : Nat) (s : Str), textOf p.text (p.scanFrom skip s) = s.drop skip
  | _, [] => by rw [scanFrom, List.drop_nil]; rfl
  | skip + 1, c :: s => by rw [scanFrom, textOf_scanFrom skip s, List.drop_succ_cons]
  | 0, c :: s => by
      rw [scanFrom]
      split
      next a ha =>
        obtain ⟨rest, hrest⟩ := p.text_begins ha
        obtain ⟨d, t, ht⟩ := List.exists_cons_of_ne_nil (p.text_ne_nil ha)
        rw [ht, List.cons_append, List.cons.injEq] at hrest
        rw [textOf_found, textOf_scanFrom, ht, ← hrest.1, ← hrest.2]
        simp
      next => rw [textOf_char, textOf_scanFrom 0 s]; rfl

theorem textOf_pieces (s : Str) : textOf p.text (p.pieces s) = s := p.textOf_scanFrom 0 s

theorem scanFrom_append : ∀ (a b : Str), p.scanFrom a.length (a ++ b) = p.pieces b
  | [], _ => rfl
  | _ :: a, b => scanFrom_append a b

theorem pieces_cons_of_none {c : Char} {s : Str} (h : p.run (c :: s) = none) :
    p.pieces (c :: s) = .char c :: p.pieces s := by
  rw [pieces, scanFrom, h]
  rfl

theorem pieces_append_of_some {a : α} {s : Str} (h : p.run (p.text a ++ s) = some a) :
    p.pieces (p.text a ++ s) = .found a :: p.pieces s := by
  obtain ⟨c, t, ht⟩ := List.exists_cons_of_ne_nil (p.text_ne_nil h)
  rw [ht, List.cons_append] at h ⊢
  rw [pieces, scanFrom, h]
  simp only [ht, List.length_cons, Nat.add_sub_cancel, p.scanFrom_append]

/-- No match begins in a text that `rest` follows. -/
def Unmatched (a rest : Str) : Prop := ∀ t ∈ a.tails, t ≠ [] → p.run (t ++ rest) = none

instance (a rest : Str) : Decidable (p.Unmatched a rest) :=
  inferInstanceAs (Decidable (∀ t ∈ a.tails, t ≠ [] → p.run (t ++ rest) = none))

theorem pieces_append_of_unmatched {rest : Str} : ∀ {a : Str}, p.Unmatched a rest →
    p.pieces (a ++ rest) = a.map .char ++ p.pieces rest
  | [], _ => rfl
  | c :: a, h => by
      have hhere :=
        h (c :: a) ((List.mem_tails _ _).mpr (List.suffix_refl _)) (List.cons_ne_nil c a)
      have hrest : p.Unmatched a rest := fun t ht =>
        h t ((List.mem_tails _ _).mpr (((List.mem_tails _ _).mp ht).trans (List.suffix_cons c a)))
      rw [List.cons_append] at hhere ⊢
      rw [p.pieces_cons_of_none hhere, pieces_append_of_unmatched hrest]
      rfl

section Findall

variable {p}

theorem findall_cons_of_none {c : Char} {s : Str} (h : p.run (c :: s) = none) :
    p.findall (c :: s) = p.findall s := by
  rw [findall, p.pieces_cons_of_none h]
  rfl

theorem findall_append_of_some {a : α} {s : Str} (h : p.run (p.text a ++ s) = some a) :
    p.findall (p.text a ++ s) = a :: p.findall s := by
  rw [findall, p.pieces_append_of_some h]
  rfl

theorem findall_append_of_unmatched {a rest : Str} (h : p.Unmatched a rest) :
    p.findall (a ++ rest) = p.findall rest := by
  rw [findall, p.pieces_append_of_unmatched h, List.filterMap_append, List.filterMap_map]
  have hnone : a.filterMap (Piece.found? ∘ Piece.char (α := α)) = [] := by
    simp [Function.comp_def, Piece.found?]
  rw [hnone, List.nil_append, ← findall]

theorem exists_run_of_found_mem_scanFrom {a : α} : ∀ {skip : Nat} {s : Str},
    .found a ∈ p.scanFrom skip s → ∃ t, p.run t = some a
  | _, [], h => by
      rw [scanFrom] at h
      cases h
  | skip + 1, c :: s, h => by
      rw [scanFrom] at h
      exact exists_run_of_found_mem_scanFrom h
  | 0, c :: s, h => by
      rw [scanFrom] at h
      split at h
      next b hb =>
        rcases List.mem_cons.mp h with h | h
        · cases h
          exact ⟨_, hb⟩
        · exact exists_run_of_found_mem_scanFrom h
      next =>
        rcases List.mem_cons.mp h with h | h
        · cases h
        · exact exists_run_of_found_mem_scanFrom h

theorem found_mem_pieces_iff {a : α} {s : Str} : .found a ∈ p.pieces s ↔ a ∈ p.findall s := by
  rw [findall, List.mem_filterMap]
  constructor
  · intro h
    exact ⟨_, h, rfl⟩
  · rintro ⟨piece, hpiece, hfound⟩
    cases piece with
    | char c => cases hfound
    | found b =>
        cases hfound
        exact hpiece

theorem exists_run_of_mem_findall {a : α} {s : Str} (h : a ∈ p.findall s) :
    ∃ t, p.run t = some a :=
  exists_run_of_found_mem_scanFrom (found_mem_pieces_iff.mpr h)

end Findall

/-! ## Substitutions in pieces -/

/-- No match begins but where a piece of one's own does. -/
def Apart (own : α → Bool) : List (Piece α) → Prop
  | [] => True
  | .char c :: ps => p.run (c :: textOf p.text ps) = none ∧ Apart own ps
  | .found a :: ps => (own a = false → p.Unmatched (p.text a) (textOf p.text ps)) ∧ Apart own ps

instance decidableApart (own : α → Bool) : ∀ ps, Decidable (p.Apart own ps)
  | [] => .isTrue trivial
  | .char c :: ps =>
      have := decidableApart own ps
      inferInstanceAs (Decidable (p.run (c :: textOf p.text ps) = none ∧ p.Apart own ps))
  | .found a :: ps =>
      have := decidableApart own ps
      inferInstanceAs (Decidable
        ((own a = false → p.Unmatched (p.text a) (textOf p.text ps)) ∧ p.Apart own ps))

end Pattern

/-- The pieces of one's own replaced. -/
def fill {α : Type} (own : α → Bool) (repl : α → Str) (ps : List (Piece α)) : List (Piece α) :=
  ps.flatMap fun
    | .char c => [.char c]
    | .found a => if own a then (repl a).map .char else [.found a]

section Fill

variable {α : Type} {own : α → Bool} {repl : α → Str}

@[simp] theorem fill_char (c : Char) (ps : List (Piece α)) :
    fill own repl (.char c :: ps) = .char c :: fill own repl ps := rfl

theorem fill_found (a : α) (ps : List (Piece α)) :
    fill own repl (.found a :: ps) =
      (if own a then (repl a).map .char else [.found a]) ++ fill own repl ps := rfl

theorem fill_congr {repl' : α → Str} : ∀ {ps : List (Piece α)},
    (∀ a, .found a ∈ ps → own a = true → repl a = repl' a) → fill own repl ps = fill own repl' ps
  | [], _ => rfl
  | .char c :: ps, h => by
      rw [fill_char, fill_char, fill_congr fun a ha => h a (List.mem_cons_of_mem _ ha)]
  | .found a :: ps, h => by
      rw [fill_found, fill_found, fill_congr fun a ha => h a (List.mem_cons_of_mem _ ha)]
      by_cases ha : own a = true
      · rw [if_pos ha, if_pos ha, h a List.mem_cons_self ha]
      · rw [if_neg ha, if_neg ha]

theorem found_mem_fill {a : α} {ps : List (Piece α)} :
    .found a ∈ fill own repl ps ↔ .found a ∈ ps ∧ own a = false := by
  induction ps with
  | nil => simp [fill]
  | cons piece ps ih =>
      cases piece with
      | char c => simp [ih]
      | found b =>
          rw [fill_found, List.mem_append, ih]
          cases hb : own b with
          | false =>
              simp only [Bool.false_eq_true, if_false, List.mem_cons,
                Piece.found.injEq, List.not_mem_nil, or_false]
              constructor
              · rintro (rfl | ⟨ha, hown⟩)
                · exact ⟨Or.inl rfl, hb⟩
                · exact ⟨Or.inr ha, hown⟩
              · rintro ⟨rfl | ha, hown⟩
                · exact Or.inl rfl
                · exact Or.inr ⟨ha, hown⟩
          | true =>
              simp only [if_true, List.mem_map, reduceCtorEq, and_false, exists_false, false_or,
                List.mem_cons, Piece.found.injEq]
              constructor
              · rintro ⟨ha, hown⟩
                exact ⟨Or.inr ha, hown⟩
              · rintro ⟨rfl | ha, hown⟩
                · rw [hb] at hown
                  cases hown
                · exact ⟨ha, hown⟩

theorem textOf_fill {f : α → Str} (ps : List (Piece α)) :
    textOf f (fill own repl ps) = textOf (fun a => if own a then repl a else f a) ps := by
  induction ps with
  | nil => rfl
  | cons piece ps ih =>
      cases piece with
      | char c => rw [fill_char, textOf_char, textOf_char, ih]
      | found a =>
          rw [fill_found, textOf_append, textOf_found, ih]
          congr 1
          split
          next h => rw [textOf_map_char]
          next h => simp

end Fill

namespace Pattern

variable {α : Type} (p : Pattern α) {own : α → Bool} {repl : α → Str}

theorem sub_textOf : ∀ {ps : List (Piece α)}, p.Apart own ps →
    (∀ a, .found a ∈ ps → own a = true → ∀ s, p.run (p.text a ++ s) = some a) →
    p.sub repl (textOf p.text ps) = textOf p.text (fill own repl ps)
  | [], _, _ => rfl
  | .char c :: ps, h, hown => by
      have ih := sub_textOf h.2 fun a ha => hown a (List.mem_cons_of_mem _ ha)
      rw [fill_char, textOf_char, textOf_char, ← ih, sub, p.pieces_cons_of_none h.1, textOf_char]
      rfl
  | .found a :: ps, h, hown => by
      have ih := sub_textOf h.2 fun a ha => hown a (List.mem_cons_of_mem _ ha)
      rw [fill_found, textOf_append, textOf_found, ← ih]
      by_cases ha : own a = true
      · rw [if_pos ha, textOf_map_char, sub,
          p.pieces_append_of_some (hown a List.mem_cons_self ha _), textOf_found]
        rfl
      · rw [if_neg ha, sub, p.pieces_append_of_unmatched (h.1 (Bool.eq_false_iff.mpr ha)),
          textOf_append, textOf_map_char]
        simp [sub]

end Pattern

end Re

end Py
