import Mathlib.Data.List.Basic
import Mathlib.Data.List.Infix

/-!
# Python text

A Python `str` is a sequence of code points, so it is modelled as a list of
characters.  String literals are coerced with `String.toList`, which reduces, so
every function here runs under `decide`.

The functions carry the names of the `str` methods they model: `partition`,
`rpartition`, `startswith`, `endswith`, `strip` and `lower`.  Splitting at a
character is `List.splitOn` and joining is `List.intercalate`.  Only the results
the programs below use are proved about them.
-/

namespace Py

/-- A Python string. -/
abbrev Str := List Char

instance : Coe String Str := ⟨String.toList⟩

instance : LawfulBEq Str := inferInstanceAs (LawfulBEq (List Char))

instance : LawfulBEq (Str × Str) := inferInstance

/-! ## Prefixes and suffixes -/

/-- `s.startswith(p)`. -/
def startswith (s p : Str) : Bool := p.isPrefixOf s

/-- `s.endswith(p)`. -/
def endswith (s p : Str) : Bool := p.isSuffixOf s

theorem startswith_iff {s p : Str} : startswith s p = true ↔ p <+: s :=
  List.isPrefixOf_iff_prefix

theorem startswith_append (p s : Str) : startswith (p ++ s) p = true :=
  startswith_iff.mpr (List.prefix_append p s)

/-! ## Partition -/

/-- `s.partition(sep)`: the text before the first `sep`, `sep` itself and the
text after it, or the whole of `s` and two empty strings. -/
@[grind =]
def partition (sep : Str) : Str → Str × Str × Str
  | [] => ([], [], [])
  | c :: s =>
      if sep.isPrefixOf (c :: s) then ([], sep, (c :: s).drop sep.length)
      else (c :: (partition sep s).1, (partition sep s).2)

/-- `s.rpartition(sep)`: as `partition` but at the last `sep`, with the whole of
`s` last when there is none. -/
def rpartition (sep s : Str) : Str × Str × Str :=
  match partition sep.reverse s.reverse with
  | (tail, [], _) => ([], [], tail.reverse)
  | (tail, _ :: _, head) => (head.reverse, sep, tail.reverse)

/-- A text without the separator is cut at the separator that follows it. -/
theorem partition_append_singleton {c : Char} : ∀ {s : Str} (t : Str), c ∉ s →
    partition [c] (s ++ c :: t) = (s, [c], t)
  | [], t, _ => by simp [partition]
  | d :: s, t, h => by
      have hd : ¬ c = d := fun he => h (he ▸ List.mem_cons_self ..)
      have ih := partition_append_singleton (s := s) t fun hs => h (List.mem_cons_of_mem _ hs)
      simp [partition, hd, ih]

theorem not_mem_partition_singleton {c : Char} : ∀ s : Str, c ∉ (partition [c] s).1
  | [] => by simp [partition]
  | d :: s => by
      have ih := not_mem_partition_singleton (c := c) s
      by_cases h : c = d
      · simp [partition, h]
      · simp [partition, h, ih]

theorem partition_append (sep : Str) : ∀ s : Str,
    (partition sep s).1 ++ (partition sep s).2.1 ++ (partition sep s).2.2 = s
  | [] => rfl
  | c :: s => by
      have ih := partition_append sep s
      rw [partition]
      split
      next h =>
        obtain ⟨t, ht⟩ := List.isPrefixOf_iff_prefix.mp h
        rw [List.nil_append, ← ht, List.drop_left]
      next => rw [List.cons_append, List.cons_append, ih]

/-- The separator is found, or the whole text comes first. -/
theorem partition_sep (sep : Str) : ∀ s : Str,
    (partition sep s).2.1 = sep ∨ (partition sep s).2 = ([], [])
  | [] => .inr rfl
  | c :: s => by
      rw [partition]
      split
      next => exact .inl rfl
      next => exact partition_sep sep s

theorem partition_of_clear {sep : Str} : ∀ {x : Str} (y : Str),
    (∀ t, t <:+ x → t ≠ [] → ¬ sep <+: t ++ y) →
      partition sep (x ++ y) = (x ++ (partition sep y).1, (partition sep y).2)
  | [], y, _ => rfl
  | c :: x, y, h => by
      have hno : ¬ sep.isPrefixOf (c :: (x ++ y)) = true := fun hp =>
        h (c :: x) (List.suffix_refl _) (List.cons_ne_nil _ _) (List.isPrefixOf_iff_prefix.mp hp)
      have ih := partition_of_clear y fun t ht => h t (ht.trans (List.suffix_cons c x))
      rw [List.cons_append, partition, if_neg hno, ih, List.cons_append]

/-- The text before the separator is whole when the separator begins nowhere in it. -/
theorem partition_fst_eq_iff {sep : Str} (hsep : sep ≠ []) : ∀ {x : Str},
    (partition sep (x ++ sep)).1 = x ↔ ∀ t, t <:+ x → t ≠ [] → ¬ sep <+: t ++ sep
  | [] => by
      cases sep with
      | nil => exact absurd rfl hsep
      | cons c sep => simp [partition]
  | c :: x => by
      have ih := partition_fst_eq_iff hsep (x := x)
      rw [List.cons_append, partition]
      split
      next hp =>
        refine iff_of_false (List.cons_ne_nil c x).symm fun h => ?_
        exact h (c :: x) (List.suffix_refl _) (List.cons_ne_nil _ _)
          (List.isPrefixOf_iff_prefix.mp hp)
      next hp =>
        rw [List.cons_inj_right, ih]
        constructor
        · intro h t ht hne hpre
          rcases List.suffix_cons_iff.mp ht with rfl | ht
          · exact hp (List.isPrefixOf_iff_prefix.mpr hpre)
          · exact h t ht hne hpre
        · exact fun h t ht => h t (ht.trans (List.suffix_cons c x))

/-- The last separator is found, or the whole text comes last. -/
theorem rpartition_cases {sep s p m r : Str} (hsep : sep ≠ []) (h : rpartition sep s = (p, m, r)) :
    (m = sep ∧ s = p ++ sep ++ r) ∨ (m = [] ∧ p = [] ∧ r = s) := by
  have happ := partition_append sep.reverse s.reverse
  have hfound := partition_sep sep.reverse s.reverse
  rw [rpartition] at h
  rcases hp : partition sep.reverse s.reverse with ⟨tail, _ | ⟨c, m'⟩, head⟩
  · rw [hp] at h happ hfound
    have hhead : head = [] := by
      rcases hfound with hfound | hfound
      · exact absurd (List.reverse_eq_nil_iff.mp hfound.symm) hsep
      · exact congrArg Prod.snd hfound
    obtain ⟨rfl, rfl, rfl⟩ : [] = p ∧ [] = m ∧ tail.reverse = r := by simpa using h
    subst hhead
    refine .inr ⟨rfl, rfl, List.reverse_eq_iff.mpr ?_⟩
    simpa using happ
  · rw [hp] at h happ hfound
    obtain ⟨rfl, rfl, rfl⟩ : head.reverse = p ∧ sep = m ∧ tail.reverse = r := by simpa using h
    have hm : c :: m' = sep.reverse := by
      rcases hfound with hfound | hfound
      · exact hfound
      · cases hfound
    refine .inl ⟨rfl, List.reverse_injective ?_⟩
    rw [← happ]
    simp [hm]

/-- The last separator is the one behind which its first character does not occur. -/
theorem rpartition_append {c : Char} {sep p r : Str} (hsep : sep.reverse.head? = some c)
    (hr : c ∉ r) : rpartition sep (p ++ sep ++ r) = (p, sep, r) := by
  obtain ⟨sep', hrev⟩ : ∃ sep', sep.reverse = c :: sep' := List.head?_eq_some_iff.mp hsep
  have hclear : ∀ t, t <:+ r.reverse → t ≠ [] →
      ¬ sep.reverse <+: t ++ (sep.reverse ++ p.reverse) := by
    intro t ht hne hpre
    rw [hrev] at hpre
    cases t with
    | nil => exact hne rfl
    | cons d t =>
        obtain ⟨rfl, -⟩ := List.cons_prefix_cons.mp hpre
        exact hr (List.mem_reverse.mp (ht.mem (List.mem_cons_self ..)))
  have hpart : partition sep.reverse (sep.reverse ++ p.reverse) = ([], sep.reverse, p.reverse) := by
    have hpre : sep.reverse.isPrefixOf (sep.reverse ++ p.reverse) = true :=
      List.isPrefixOf_iff_prefix.mpr (List.prefix_append _ _)
    rw [hrev] at hpre ⊢
    rw [List.cons_append] at hpre ⊢
    rw [partition, if_pos hpre, ← List.cons_append, List.drop_left]
  rw [rpartition, List.reverse_append, List.reverse_append, partition_of_clear _ hclear, hpart, hrev]
  simp

/-- A text in which the separator does not end stays with what comes last. -/
theorem rpartition_append_right {sep s t : Str}
    (hclear : ∀ x, x <:+ t.reverse → x ≠ [] → ¬ sep.reverse <+: x ++ s.reverse) :
    rpartition sep (s ++ t) =
      ((rpartition sep s).1, (rpartition sep s).2.1, (rpartition sep s).2.2 ++ t) := by
  rw [rpartition, rpartition, List.reverse_append, partition_of_clear _ hclear]
  rcases partition sep.reverse s.reverse with ⟨tail, _ | ⟨c, m⟩, head⟩
  · simp
  · simp

theorem intercalate_append {sep : Str} {vs ws : List Str} (hv : vs ≠ []) (hw : ws ≠ []) :
    sep.intercalate (vs ++ ws) = sep.intercalate vs ++ sep ++ sep.intercalate ws := by
  induction vs with
  | nil => exact absurd rfl hv
  | cons v vs ih =>
      by_cases hvs : vs = []
      · subst hvs
        rw [List.singleton_append, List.intercalate_cons_of_ne_nil hw, List.intercalate_singleton]
      · have hne : vs ++ ws ≠ [] := by simp [hvs]
        rw [List.cons_append, List.intercalate_cons_of_ne_nil hne, ih hvs,
          List.intercalate_cons_of_ne_nil hvs]
        simp only [List.append_assoc]

/-! ## Case, white space and ASCII -/

/-- `s.lower()`, for ASCII text. -/
def lower (s : Str) : Str := s.map Char.toLower

/-- `s.strip()`. -/
def strip (s : Str) : Str :=
  ((s.dropWhile Char.isWhitespace).reverse.dropWhile Char.isWhitespace).reverse

/-- Whether `s.encode("ascii")` succeeds. -/
def isAscii (s : Str) : Bool := s.all fun c => c.toNat < 128

theorem isAscii_append (s t : Str) : isAscii (s ++ t) = (isAscii s && isAscii t) :=
  List.all_append

/-! ## Integers and indices -/

/-- The value of a text of decimal digits. -/
def decimal (s : Str) : Nat := s.foldl (fun n c => 10 * n + (c.toNat - '0'.toNat)) 0

/-- The value of a text of digits, which single underscores may separate. -/
def unsigned? (s : Str) : Option Nat :=
  if (s.splitOn '_').all fun part => !part.isEmpty && part.all Char.isDigit then
    some (decimal (s.splitOn '_').flatten)
  else none

/-- `int(s)`, or `none` where it raises `ValueError`. -/
def int? (s : Str) : Option Int :=
  match strip s with
  | '+' :: t => (unsigned? t).map Int.ofNat
  | '-' :: t => (unsigned? t).map fun n => -(n : Int)
  | t => (unsigned? t).map Int.ofNat

theorem mem_dropWhile {p : Char → Bool} {c : Char} (hp : p c = false) :
    ∀ {s : Str}, c ∈ s → c ∈ s.dropWhile p
  | d :: s, h => by
      rw [List.dropWhile_cons]
      split
      next hd =>
        have hne : c ≠ d := by
          rintro rfl
          rw [hp] at hd
          cases hd
        exact mem_dropWhile hp ((List.mem_cons.mp h).resolve_left hne)
      next => exact h

theorem mem_strip {c : Char} {s : Str} (hc : c.isWhitespace = false) (h : c ∈ s) : c ∈ strip s :=
  List.mem_reverse.mpr (mem_dropWhile hc (List.mem_reverse.mpr (mem_dropWhile hc h)))

theorem strip_eq_self {s : Str} (h : ∀ c ∈ s, c.isWhitespace = false) : strip s = s := by
  have hdrop : ∀ t : Str, (∀ c ∈ t, c.isWhitespace = false) → t.dropWhile Char.isWhitespace = t := by
    intro t ht
    cases t with
    | nil => rfl
    | cons c t => rw [List.dropWhile_cons, if_neg (by simp [ht c (List.mem_cons_self ..)])]
  rw [strip, hdrop s h, hdrop s.reverse fun c hc => h c (List.mem_reverse.mp hc), List.reverse_reverse]

theorem mem_part_of_mem {c d : Char} (hne : d ≠ c) :
    ∀ {s : Str}, d ∈ s → ∃ part ∈ s.splitOn c, d ∈ part
  | e :: s, h => by
      rw [List.splitOn_cons_eq_if_modifyHead]
      split
      next he =>
        have hd : d ≠ e := fun hx => hne (hx.trans (beq_iff_eq.mp he))
        obtain ⟨part, hpart, hmem⟩ := mem_part_of_mem hne ((List.mem_cons.mp h).resolve_left hd)
        exact ⟨part, List.mem_cons_of_mem _ hpart, hmem⟩
      next =>
        rcases hsplit : s.splitOn c with _ | ⟨first, rest⟩
        · exact absurd hsplit (List.splitOn_ne_nil _ _)
        · rw [List.modifyHead_cons]
          rcases List.mem_cons.mp h with rfl | h
          · exact ⟨_, List.mem_cons_self .., List.mem_cons_self ..⟩
          · obtain ⟨part, hpart, hmem⟩ := mem_part_of_mem hne h
            rw [hsplit] at hpart
            rcases List.mem_cons.mp hpart with rfl | hpart
            · exact ⟨_, List.mem_cons_self .., List.mem_cons_of_mem _ hmem⟩
            · exact ⟨part, List.mem_cons_of_mem _ hpart, hmem⟩

theorem unsigned?_eq_none {c : Char} {s : Str} (h : c ∈ s) (hne : c ≠ '_')
    (hc : c.isDigit = false) : unsigned? s = none := by
  obtain ⟨part, hpart, hmem⟩ := mem_part_of_mem hne h
  rw [unsigned?, if_neg]
  intro hall
  have hdigits := (Bool.and_eq_true_iff.mp (List.all_eq_true.mp hall part hpart)).2
  rw [List.all_eq_true.mp hdigits c hmem] at hc
  cases hc

theorem int?_nonpos {s : Str} {n : Int} (h : '-' ∈ s) (hn : int? s = some n) : n ≤ 0 := by
  have hmem : '-' ∈ strip s := mem_strip rfl h
  rw [int?] at hn
  split at hn
  next t ht =>
    rw [ht] at hmem
    have ht' : '-' ∈ t := (List.mem_cons.mp hmem).resolve_left (by decide)
    rw [unsigned?_eq_none ht' (by decide) rfl] at hn
    cases hn
  next t ht =>
    obtain ⟨m, hm, rfl⟩ := Option.map_eq_some_iff.mp hn
    cases hu : unsigned? t with
    | none => simp [hu] at hm
    | some k =>
        have hk : (k : Int) = m := by simpa [hu] using hm
        omega
  next t _ _ =>
    rw [unsigned?_eq_none hmem (by decide) rfl] at hn
    cases hn

example : int? " -1_0 " = some (-10) ∧ int? "1__0" = none := by decide

/-- `str(n)` of a natural number. -/
def str (n : Nat) : Str := (toString n).toList

/-- `l[i]`, where a negative index counts from the end and an index out of range
raises `IndexError`. -/
def index? {α : Type} (l : List α) (i : Int) : Option α :=
  if 0 ≤ i then l[i.toNat]? else
    if 0 ≤ (l.length : Int) + i then l[((l.length : Int) + i).toNat]? else none

end Py
