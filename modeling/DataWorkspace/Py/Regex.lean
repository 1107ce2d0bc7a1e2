import DataWorkspace.Py.Text
import Mathlib.Data.List.TakeWhile

/-!
# Regular expressions

The patterns below are all of one shape: a literal, then a run of characters of a
class, as long as it can be.  `runFrom` reads such a match at the beginning of a text.

A substitution by nothing goes through the text from the left.  Where a match begins it
goes on behind the match, and elsewhere it keeps the character.  `remove` is this for any
way `m` to find the length of the match that a text begins with.  It keeps a text exactly
when no match begins anywhere in it (`remove_eq_self_iff`).
-/

namespace Py

/-! ## Runs -/

/-- The literal `pre` and the longest run of the class behind it, or `none` where the text
does not begin with the literal.  The second text is what is left. -/
def runFrom (pre : Str) (p : Char → Bool) (s : Str) : Option (Str × Str) :=
  if pre.isPrefixOf s then
    some ((s.drop pre.length).takeWhile p, (s.drop pre.length).dropWhile p)
  else none

theorem runFrom_append (pre : Str) (p : Char → Bool) (s : Str) :
    runFrom pre p (pre ++ s) = some (s.takeWhile p, s.dropWhile p) := by
  rw [runFrom, if_pos (List.isPrefixOf_iff_prefix.mpr (List.prefix_append pre s)), List.drop_left]

/-! ## Searching -/

/-- The run of the class that a text begins with, or `none` where it would be empty. -/
def run? (p : Char → Bool) (s : Str) : Option Str :=
  match s.takeWhile p with
  | [] => none
  | c :: run => some (c :: run)

/-- The match of `lit([class]+)` that a text begins with. -/
def matchAt (lit : Str) (p : Char → Bool) (s : Str) : Option Str :=
  (runFrom lit p s).bind fun m => run? p m.1

/-- `re.search(r"lit([class]+)", s).groups()[0]`, or `none` where nothing matches. -/
def search (lit : Str) (p : Char → Bool) : Str → Option Str
  | [] => none
  | c :: s => (matchAt lit p (c :: s)).or (search lit p s)

section Search

variable {lit : Str} {p : Char → Bool} {sep : Char}

theorem run?_eq_some {s run : Str} (h : run? p s = some run) :
    s.takeWhile p = run ∧ run ≠ [] := by
  rw [run?] at h
  split at h
  next => cases h
  next c t ht =>
    cases h
    exact ⟨ht, List.cons_ne_nil c t⟩

theorem run?_eq_self {s : Str} (hne : s ≠ []) (h : ∀ c ∈ s, p c = true) : run? p s = some s := by
  obtain ⟨c, t, rfl⟩ := List.exists_cons_of_ne_nil hne
  rw [run?, List.takeWhile_eq_self_iff.mpr h]

theorem run?_takeWhile (s : Str) : run? p (s.takeWhile p) = run? p s := by
  rw [run?, run?, List.takeWhile_idem]

theorem search_class : ∀ {s run : Str}, search lit p s = some run →
    run ≠ [] ∧ ∀ c ∈ run, p c = true
  | c :: s, run, h => by
      rw [search, Option.or_eq_some_iff] at h
      rcases h with h | ⟨-, h⟩
      · obtain ⟨m, -, hrun⟩ := Option.bind_eq_some_iff.mp h
        obtain ⟨rfl, hne⟩ := run?_eq_some hrun
        exact ⟨hne, fun c hc => List.mem_takeWhile_imp hc⟩
      · exact search_class h

/-- A character that neither the literal nor the class has ends every match. -/
theorem matchAt_append_cons (hlit : sep ∉ lit) (hp : p sep = false) (a b : Str) :
    matchAt lit p (a ++ sep :: b) = matchAt lit p a := by
  have hprefix : lit.isPrefixOf (a ++ sep :: b) = lit.isPrefixOf a := by
    rw [Bool.eq_iff_iff, List.isPrefixOf_iff_prefix, List.isPrefixOf_iff_prefix]
    refine ⟨fun h => ?_, fun h => h.trans (List.prefix_append a _)⟩
    rcases Nat.lt_or_ge a.length lit.length with hlt | hle
    · have hsep : a ++ [sep] <+: lit := by
        refine List.prefix_of_prefix_length_le ⟨b, ?_⟩ h ?_
        · rw [← List.append_cons]
        · rw [List.length_append, List.length_singleton]
          exact hlt
      exact absurd (hsep.subset (by simp)) hlit
    · exact List.prefix_of_prefix_length_le h (List.prefix_append a _) hle
  rw [matchAt, matchAt, runFrom, runFrom, hprefix]
  split
  next h =>
    have hle : lit.length ≤ a.length := (List.isPrefixOf_iff_prefix.mp h).length_le
    have hrun : ∀ t : Str, (t ++ sep :: b).takeWhile p = t.takeWhile p := by
      intro t
      induction t with
      | nil => simp [hp]
      | cons c t ih => rw [List.cons_append, List.takeWhile_cons, List.takeWhile_cons, ih]
    rw [List.drop_append_of_le_length hle]
    simp only [Option.bind_some, hrun]
  next => rfl

theorem search_append_cons (hlit : sep ∉ lit) (hp : p sep = false) (b : Str) :
    ∀ a : Str, search lit p (a ++ sep :: b) = (search lit p a).or (search lit p b)
  | [] => by
      have h : matchAt lit p (sep :: b) = none := by
        rw [← List.nil_append (sep :: b), matchAt_append_cons hlit hp, matchAt, runFrom]
        split
        next => rw [List.drop_nil, Option.bind_some, List.takeWhile_nil, run?, List.takeWhile_nil]
        next => rfl
      rw [List.nil_append, search.eq_2, h, Option.none_or, search.eq_1, Option.none_or]
  | c :: a => by
      rw [List.cons_append, search, search_append_cons hlit hp b a, ← List.cons_append,
        matchAt_append_cons hlit hp, search, Option.or_assoc]

end Search

/-! ### Names and values

The literal is a name with a character behind it that no name has, and the text such a
name and a value. -/

section Fields

variable {name key : Str} {p : Char → Bool} {sep : Char}

theorem matchAt_field (hname : sep ∉ name) (hkey : sep ∉ key) (v : Str) :
    matchAt (name ++ [sep]) p (key ++ sep :: v) = if name = key then run? p v else none := by
  rw [matchAt, runFrom]
  by_cases h : name = key
  · subst h
    have hpre : (name ++ [sep]).isPrefixOf (name ++ [sep] ++ v) = true :=
      startswith_append (name ++ [sep]) v
    rw [if_pos rfl, List.append_cons name sep v, if_pos hpre, List.drop_left, Option.bind_some,
      run?_takeWhile]
  · rw [if_neg h, if_neg, Option.bind_none]
    intro hprefix
    obtain ⟨t, ht⟩ := List.isPrefixOf_iff_prefix.mp hprefix
    rw [← List.append_cons] at ht
    have hparts := congrArg (partition [sep]) ht
    rw [partition_append_singleton t hname, partition_append_singleton v hkey] at hparts
    exact h (congrArg Prod.fst hparts)

theorem search_of_not_mem : ∀ {s : Str}, sep ∉ s → search (name ++ [sep]) p s = none
  | [], _ => rfl
  | c :: s, h => by
      have hat : matchAt (name ++ [sep]) p (c :: s) = none := by
        rw [matchAt, runFrom, if_neg, Option.bind_none]
        intro hprefix
        exact h ((List.isPrefixOf_iff_prefix.mp hprefix).subset (by simp))
      rw [search, hat, Option.none_or]
      exact search_of_not_mem fun hs => h (List.mem_cons_of_mem c hs)

theorem search_field (hne : name ≠ []) (hname : sep ∉ name) (v : Str) :
    ∀ {key : Str}, sep ∉ key → search (name ++ [sep]) p (key ++ sep :: v) =
      (if name <:+ key then run? p v else none).or (search (name ++ [sep]) p v)
  | [], hkey => by
      rw [if_neg (fun h => hne (List.suffix_nil.mp h)), List.nil_append, search,
        ← List.nil_append (sep :: v), matchAt_field hname hkey, if_neg hne]
  | c :: key, hkey => by
      have hkey' : sep ∉ key := fun h => hkey (List.mem_cons_of_mem c h)
      have hat := matchAt_field (p := p) hname hkey v
      rw [List.cons_append] at hat
      rw [List.cons_append, search, hat, search_field hne hname v hkey']
      by_cases heq : name = c :: key
      · have hnot : ¬ name <:+ key := by
          intro h
          have hle := h.length_le
          rw [heq, List.length_cons] at hle
          omega
        rw [if_pos heq, if_neg hnot, if_pos (List.suffix_cons_iff.mpr (Or.inl heq)), Option.none_or]
      · have hiff : name <:+ c :: key ↔ name <:+ key := by
          rw [List.suffix_cons_iff, or_iff_right heq]
        rw [if_neg heq, Option.none_or]
        simp only [hiff]

end Fields

/-! ## Removing matches -/

section Remove

variable (m : Str → Option Nat)

/-- Go through the text, of which the first `skip` characters belong to a match. -/
def removeFrom : Nat → Str → Str
  | _, [] => []
  | skip + 1, _ :: s => removeFrom skip s
  | 0, c :: s =>
      match m (c :: s) with
      | some n => removeFrom (n - 1) s
      | none => c :: removeFrom 0 s

/-- `re.sub(pattern, "", s)`, where `m` finds the length of a match at the beginning. -/
def remove (s : Str) : Str := removeFrom m 0 s

/-- No match begins in the text. -/
def Unmatched (s : Str) : Prop := ∀ t, t <:+ s → t ≠ [] → m t = none

variable {m}

theorem removeFrom_eq_remove :
    ∀ (skip : Nat) (s : Str), removeFrom m skip s = remove m (s.drop skip)
  | 0, s => by rw [List.drop_zero, remove]
  | skip + 1, [] => rfl
  | skip + 1, _ :: s => by
      rw [removeFrom, removeFrom_eq_remove skip s, List.drop_succ_cons]

theorem remove_append {a b : Str} (ha : a ≠ []) (h : m (a ++ b) = some a.length) :
    remove m (a ++ b) = remove m b := by
  obtain ⟨c, a, rfl⟩ := List.exists_cons_of_ne_nil ha
  rw [List.cons_append] at h ⊢
  rw [remove, removeFrom, h]
  dsimp only
  rw [removeFrom_eq_remove, List.length_cons, Nat.add_sub_cancel, List.drop_left]

theorem removeFrom_sublist : ∀ (skip : Nat) (s : Str), (removeFrom m skip s).Sublist s
  | _, [] => by rw [removeFrom]
  | skip + 1, c :: s => (removeFrom_sublist skip s).cons c
  | 0, c :: s => by
      rw [removeFrom]
      split
      next => exact (removeFrom_sublist _ s).cons c
      next => exact (removeFrom_sublist 0 s).cons_cons c

theorem remove_sublist (s : Str) : (remove m s).Sublist s := removeFrom_sublist 0 s

theorem remove_eq_self_iff : ∀ {s : Str}, remove m s = s ↔ Unmatched m s
  | [] => ⟨fun _ t ht hne => absurd (List.suffix_nil.mp ht) hne, fun _ => rfl⟩
  | c :: s => by
      have ih := remove_eq_self_iff (s := s)
      rw [remove, removeFrom]
      split
      next n hn =>
        refine iff_of_false (fun h => ?_) fun h => ?_
        · have hle := (removeFrom_sublist (m := m) (n - 1) s).length_le
          rw [h, List.length_cons] at hle
          omega
        · rw [h (c :: s) (List.suffix_refl _) (List.cons_ne_nil _ _)] at hn
          cases hn
      next hn =>
        rw [List.cons_inj_right]
        refine ih.trans ⟨fun h t ht hne => ?_, fun h t ht => h t (ht.trans (List.suffix_cons c s))⟩
        rcases List.suffix_cons_iff.mp ht with rfl | ht
        · exact hn
        · exact h t ht hne

end Remove

/-! ## Replacing a text -/

/-- Go through the text, of which the first `skip` characters belong to a match. -/
def replaceFrom (old new : Str) : Nat → Str → Str
  | _, [] => []
  | skip + 1, _ :: s => replaceFrom old new skip s
  | 0, c :: s =>
      if old.isPrefixOf (c :: s) then new ++ replaceFrom old new (old.length - 1) s
      else c :: replaceFrom old new 0 s

/-- `s.replace(old, new)`, of a text `old` that is not empty. -/
def replace (s old new : Str) : Str := replaceFrom old new 0 s

end Py
