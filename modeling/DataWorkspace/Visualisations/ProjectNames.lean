import DataWorkspace.Py.Digits
import DataWorkspace.Py.Space

/-!
# Host names of projects

The name of a GitLab project is cleaned to a text that may stand in a host and in a path.
The host names that are tried are that text and the text with the numbers up to 19.

What is left of a name may be nothing.  `isDnsLabel_host_iff` says when a host name is a
label of a domain name.
-/

namespace Projects

open Py

/-! ## Cleaning a name -/

/-- `lower` of one character, as far as what it leaves is kept below.  Only two letters
beyond ASCII have a small letter in it. -/
def lowerChar (c : Char) : Str :=
  if c.toNat = 0x212a then ['k']
  else if c.toNat = 0x130 then ['i', Char.ofNat 0x307]
  else [c.toLower]

/-- `[a-z0-9\-]`. -/
def isLabelChar (c : Char) : Bool :=
  ('a'.toNat ≤ c.toNat && c.toNat ≤ 'z'.toNat) || ('0'.toNat ≤ c.toNat && c.toNat ≤ '9'.toNat) ||
    c == '-'

/-- `s.strip("-")`. -/
def stripHyphens (s : Str) : Str :=
  ((s.dropWhile (· == '-')).reverse.dropWhile (· == '-')).reverse

/-- `re.sub("-+", "-", s)`. -/
def collapse : Str → Str
  | [] => []
  | [c] => [c]
  | c :: d :: s => if c = '-' ∧ d = '-' then collapse (d :: s) else c :: collapse (d :: s)

def path_and_dns_safe_root (name_1 : Str) : Str :=
  let name_2 := name_1.flatMap lowerChar
  let name_3 := name_2.map fun c => if c == '_' || isspace c then '-' else c
  let name_4 := name_3.filter isLabelChar
  let name_5 := stripHyphens name_4
  let name_6 := collapse name_5
  name_6

/-- The suffix of an attempt. -/
def suffix (i : Nat) : Str := if i = 0 then [] else "-" ++ str i

def path_and_dns_safe_name (name : Str) (i : Nat) : Str := path_and_dns_safe_root name ++ suffix i

example : path_and_dns_safe_name "Trade_Data  (2021)!" 0 = ("trade-data-2021" : Str) := by
  decide +kernel

/-! ## Labels -/

/-- A label of a domain name. -/
structure IsDnsLabel (s : Str) : Prop where
  ne_nil : s ≠ []
  length_le : s.length ≤ 63
  chars : ∀ c ∈ s, isLabelChar c = true
  head : s.head? ≠ some '-'
  last : s.getLast? ≠ some '-'

theorem head?_dropWhile_ne {α : Type} {p : α → Bool} {a : α} (hp : p a = true) :
    ∀ s : List α, (s.dropWhile p).head? ≠ some a
  | [] => by simp
  | b :: s => by
      rw [List.dropWhile_cons]
      split
      next => exact head?_dropWhile_ne hp s
      next hb =>
          intro h
          obtain rfl := Option.some.inj h
          exact hb hp

theorem head?_stripHyphens (s : Str) : (stripHyphens s).head? ≠ some '-' := by
  intro h
  have hhead := head?_dropWhile_ne (a := '-') (p := (· == '-')) rfl s
  obtain ⟨t, ht⟩ := List.dropWhile_suffix (l := (s.dropWhile (· == '-')).reverse) (· == '-')
  have hprefix : stripHyphens s <+: s.dropWhile (· == '-') := by
    refine ⟨t.reverse, ?_⟩
    rw [stripHyphens, ← List.reverse_append, ht, List.reverse_reverse]
  obtain ⟨u, hu⟩ := hprefix
  rw [← hu, List.head?_append, h] at hhead
  exact hhead rfl

theorem getLast?_stripHyphens (s : Str) : (stripHyphens s).getLast? ≠ some '-' := by
  rw [stripHyphens, List.getLast?_reverse]
  exact head?_dropWhile_ne rfl _

theorem stripHyphens_subset {s : Str} {c : Char} (h : c ∈ stripHyphens s) : c ∈ s := by
  have h₁ := (List.dropWhile_sublist _).subset (List.mem_reverse.mp h)
  exact (List.dropWhile_sublist _).subset (List.mem_reverse.mp h₁)

theorem collapse_subset {c : Char} : ∀ s : Str, c ∈ collapse s → c ∈ s
  | [], h => h
  | [_], h => h
  | a :: b :: s, h => by
      rw [collapse] at h
      split at h
      next => exact List.mem_cons_of_mem _ (collapse_subset (b :: s) h)
      next =>
          rcases List.mem_cons.mp h with rfl | h
          · exact List.mem_cons_self
          · exact List.mem_cons_of_mem _ (collapse_subset (b :: s) h)

theorem head?_collapse : ∀ s : Str, (collapse s).head? = s.head?
  | [] => rfl
  | [_] => rfl
  | a :: b :: s => by
      rw [collapse]
      split
      next h => rw [head?_collapse (b :: s), h.1, h.2]; rfl
      next => rfl

theorem getLast?_collapse : ∀ s : Str, (collapse s).getLast? = s.getLast?
  | [] => rfl
  | [_] => rfl
  | a :: b :: s => by
      rw [collapse, List.getLast?_cons_cons]
      split
      next => exact getLast?_collapse (b :: s)
      next =>
          rw [List.getLast?_cons, getLast?_collapse (b :: s)]
          cases hlast : (b :: s).getLast? with
          | none => simp at hlast
          | some c => rfl

theorem root_spec (name : Str) :
    (∀ c ∈ path_and_dns_safe_root name, isLabelChar c = true) ∧
      (path_and_dns_safe_root name).head? ≠ some '-' ∧
      (path_and_dns_safe_root name).getLast? ≠ some '-' := by
  unfold path_and_dns_safe_root
  dsimp only
  refine ⟨fun c hc => ?_, ?_, ?_⟩
  · exact (List.mem_filter.mp (stripHyphens_subset (collapse_subset _ hc))).2
  · rw [head?_collapse]
    exact head?_stripHyphens _
  · rw [getLast?_collapse]
    exact getLast?_stripHyphens _

theorem isLabelChar_of_isDigit {c : Char} (h : c.isDigit = true) : isLabelChar c = true := by
  simp only [Char.isDigit, Bool.and_eq_true, decide_eq_true_eq, UInt32.le_iff_toNat_le] at h
  simp only [isLabelChar, Bool.or_eq_true, Bool.and_eq_true, decide_eq_true_eq]
  exact .inl (.inr h)

theorem suffix_spec (i : Nat) : (∀ c ∈ suffix i, isLabelChar c = true) ∧
    (suffix i).getLast? ≠ some '-' ∧ (i ≠ 0 → (suffix i).head? = some '-') := by
  rw [suffix]
  split
  next hzero => exact ⟨fun c hc => absurd hc List.not_mem_nil, by simp, fun h => absurd hzero h⟩
  next =>
      have hdigits : ∀ c ∈ str i, c.isDigit = true := fun _ => isDigit_of_mem_str
      refine ⟨fun c hc => ?_, ?_, fun _ => rfl⟩
      · rcases List.mem_append.mp hc with hc | hc
        · obtain rfl := List.mem_singleton.mp hc
          decide
        · exact isLabelChar_of_isDigit (hdigits c hc)
      · rw [List.getLast?_append_of_ne_nil _ (str_ne_nil i)]
        exact fun hlast => absurd (hdigits '-' (List.mem_of_getLast? hlast)) (by decide)

theorem suffix_zero : suffix 0 = [] := rfl

theorem isDnsLabel_host_iff {name : Str} {i : Nat}
    (hlength : (path_and_dns_safe_name name i).length ≤ 63) :
    IsDnsLabel (path_and_dns_safe_name name i) ↔ path_and_dns_safe_root name ≠ [] := by
  obtain ⟨hchars, hhead, hlast⟩ := root_spec name
  obtain ⟨hsuffix, hslast, hshead⟩ := suffix_spec i
  unfold path_and_dns_safe_name
  constructor
  · intro h hroot
    rw [hroot, List.nil_append] at h
    by_cases hzero : i = 0
    · rw [hzero] at h
      exact h.ne_nil suffix_zero
    · exact h.head (hshead hzero)
  · intro hroot
    obtain ⟨c, root, hc⟩ := List.exists_cons_of_ne_nil hroot
    refine ⟨?_, hlength, fun d hd => ?_, ?_, ?_⟩
    · simp [hc]
    · exact (List.mem_append.mp hd).elim (hchars d) (hsuffix d)
    · rw [hc] at hhead ⊢
      simpa using hhead
    · by_cases hnil : suffix i = []
      · rw [hnil, List.append_nil]
        exact hlast
      · rwa [List.getLast?_append_of_ne_nil _ hnil]

end Projects
