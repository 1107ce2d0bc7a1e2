import DataWorkspace.Py.Text

/-!
# Splitting at a text

`str.split` cuts a text at each occurrence of the separator, from the left.  The first part and the other
ones, joined, are what `partition` finds (`head_split`, `join_tail_split`).  Where the separator
is one character, parts without it are joined and split again (`split_join`).
-/

namespace Py

/-- Go through the text, of which the first `skip` characters belong to a separator. -/
@[grind =]
def splitFrom (sep : Str) : Nat → Str → List Str
  | _, [] => [[]]
  | skip + 1, _ :: s => splitFrom sep skip s
  | 0, c :: s =>
      if sep.isPrefixOf (c :: s) then [] :: splitFrom sep (sep.length - 1) s
      else (splitFrom sep 0 s).modifyHead (c :: ·)

/-- `s.split(sep)`, for a separator that is not empty. -/
def split (sep s : Str) : List Str := splitFrom sep 0 s

/-- `sep.join(parts)`. -/
def join (sep : Str) (parts : List Str) : Str := List.intercalate sep parts

variable {sep : Str}

theorem splitFrom_ne_nil : ∀ (skip : Nat) (s : Str), splitFrom sep skip s ≠ []
  | 0, [] => List.cons_ne_nil _ _
  | _ + 1, [] => List.cons_ne_nil _ _
  | skip + 1, _ :: s => splitFrom_ne_nil skip s
  | 0, c :: s => by
      rw [splitFrom]
      split
      next => exact List.cons_ne_nil _ _
      next =>
        intro h
        exact splitFrom_ne_nil 0 s (List.modifyHead_eq_nil_iff.mp h)

theorem join_splitFrom (hsep : sep ≠ []) : ∀ (skip : Nat) (s : Str),
    join sep (splitFrom sep skip s) = s.drop skip
  | 0, [] => rfl
  | _ + 1, [] => rfl
  | skip + 1, _ :: s => by
      rw [splitFrom, join_splitFrom hsep skip s, List.drop_succ_cons]
  | 0, c :: s => by
      rw [List.drop_zero, splitFrom]
      split
      next h =>
        have ih := join_splitFrom hsep (sep.length - 1) s
        obtain ⟨t, ht⟩ := List.isPrefixOf_iff_prefix.mp h
        obtain ⟨d, sep, rfl⟩ := List.exists_cons_of_ne_nil hsep
        rw [List.cons_append, List.cons.injEq] at ht
        obtain ⟨rfl, rfl⟩ := ht
        rw [List.length_cons, Nat.add_sub_cancel, List.drop_left] at ih
        rw [List.length_cons, Nat.add_sub_cancel, join,
          List.intercalate_cons_of_ne_nil (splitFrom_ne_nil _ _), List.nil_append, ← join, ih,
          List.cons_append]
      next =>
        have ih := join_splitFrom hsep 0 s
        rw [List.drop_zero] at ih
        have hne : splitFrom sep 0 s ≠ [] := splitFrom_ne_nil 0 s
        obtain ⟨part, parts, hparts⟩ := List.exists_cons_of_ne_nil hne
        rw [hparts] at ih ⊢
        rw [List.modifyHead_cons, join, List.intercalate_cons_cons_left, ← join, ih]

theorem head_split : ∀ s : Str, (split sep s).head? = some (partition sep s).1
  | [] => rfl
  | c :: s => by
      have ih := head_split s
      rw [split] at ih
      rw [split, splitFrom, partition]
      split
      next => rfl
      next => rw [List.head?_modifyHead, ih, Option.map_some]

theorem join_tail_split (hsep : sep ≠ []) :
    ∀ s : Str, join sep (split sep s).tail = (partition sep s).2.2
  | [] => rfl
  | c :: s => by
      have ih := join_tail_split hsep s
      rw [split] at ih
      rw [split, splitFrom, partition]
      split
      next =>
        obtain ⟨d, sep, rfl⟩ := List.exists_cons_of_ne_nil hsep
        rw [List.tail_cons, join_splitFrom hsep, List.length_cons, Nat.add_sub_cancel,
          List.drop_succ_cons]
      next => rw [List.tail_modifyHead, ih]

/-! ## One character as the separator -/

section

variable {c : Char}

theorem split_singleton : ∀ s : Str, split [c] s = s.splitOn c
  | [] => rfl
  | d :: s => by
      have ih := split_singleton s
      rw [split] at ih
      rw [split, splitFrom, List.splitOn_cons_eq_if_modifyHead]
      by_cases h : d = c
      · subst h
        simp [ih]
      · simp [ih, h, Ne.symm h]

theorem split_join {parts : List Str} (hne : parts ≠ []) (h : ∀ part ∈ parts, c ∉ part) :
    split [c] (join [c] parts) = parts := by
  rw [split_singleton, join, List.splitOn_intercalate c h hne]

theorem mem_splitOn : ∀ {s part : Str}, part ∈ s.splitOn c → c ∉ part ∧ part ⊆ s
  | [], part, h => by
      rw [List.mem_singleton.mp h]
      exact ⟨List.not_mem_nil, List.Subset.refl _⟩
  | d :: s, part, h => by
      rw [List.splitOn_cons_eq_if_modifyHead] at h
      obtain ⟨first, rest, hparts⟩ := List.exists_cons_of_ne_nil (List.splitOn_ne_nil c s)
      have hold (p : Str) (hp : p ∈ first :: rest) : c ∉ p ∧ p ⊆ s :=
        mem_splitOn (by rw [hparts]; exact hp)
      rw [hparts] at h
      split at h
      next =>
        rcases List.mem_cons.mp h with rfl | h
        · exact ⟨List.not_mem_nil, List.nil_subset _⟩
        · exact ⟨(hold _ h).1, List.subset_cons_of_subset d (hold _ h).2⟩
      next hd =>
        rw [List.modifyHead_cons] at h
        rcases List.mem_cons.mp h with rfl | h
        · obtain ⟨hc, hs⟩ := hold first List.mem_cons_self
          have hne : c ≠ d := fun he => hd (beq_iff_eq.mpr he.symm)
          exact ⟨List.not_mem_cons_of_ne_of_not_mem hne hc, List.cons_subset_cons d hs⟩
        · obtain ⟨hc, hs⟩ := hold _ (List.mem_cons_of_mem _ h)
          exact ⟨hc, List.subset_cons_of_subset d hs⟩

theorem mem_split {s part : Str} (h : part ∈ split [c] s) : c ∉ part ∧ part ⊆ s := by
  rw [split_singleton] at h
  exact mem_splitOn h

end

end Py
