import DataWorkspace.Py.Digits
import DataWorkspace.Py.Space

/-!
# Reading integers

`int` reads the decimal digits of every script, and single underscores may stand between
them.  It takes off the white space at both ends, of which the separators of ASCII are no
part.
-/

namespace Py

/-- The value of a digit, of any script. -/
def digitValue (c : Char) : Nat :=
  match decimalZeros.find? fun z => z ≤ c.toNat && c.toNat ≤ z + 9 with
  | some z => c.toNat - z
  | none => 0

/-- The value of a text of digits. -/
def number (s : Str) : Nat := s.foldl (fun n c => 10 * n + digitValue c) 0

/-- The value of a text of digits, which single underscores may separate. -/
def number? (s : Str) : Option Nat :=
  if (s.splitOn '_').all fun part => !part.isEmpty && part.all isDecimal then
    some (number (s.splitOn '_').flatten)
  else none

/-- The white space that `int` takes off. -/
def isIntSpace (c : Char) : Bool :=
  c ∈ [' ', '\t', '\n', '\x0b', '\x0c', '\r'] || (127 ≤ c.toNat && isspace c)

/-- `int(s)`, or `none` where it raises `ValueError`. -/
def integer? (s : Str) : Option Int :=
  match ((s.dropWhile isIntSpace).reverse.dropWhile isIntSpace).reverse with
  | '+' :: t => (number? t).map Int.ofNat
  | '-' :: t => (number? t).map fun n => -(n : Int)
  | t => (number? t).map Int.ofNat

example : integer? " -1_000\n" = some (-1000) := by decide

example : integer? "٣" = some 3 ∧ integer? "_1" = none ∧ integer? "" = none := by decide

theorem digitValue_of_isDigit {c : Char} (h : c.isDigit = true) :
    digitValue c = c.toNat - '0'.toNat := by
  simp only [Char.isDigit, Bool.and_eq_true, decide_eq_true_eq, UInt32.le_iff_toNat_le] at h
  have hfind : (decimalZeros.find? fun z => z ≤ c.toNat && c.toNat ≤ z + 9) = some 0x30 := by
    refine List.find?_cons_of_pos ?_
    simp only [Bool.and_eq_true, decide_eq_true_eq]
    exact h
  rw [digitValue, hfind]
  rfl

theorem number_str (n : Nat) : number (str n) = n := by
  have h : ∀ (s : Str) (m : Nat), (∀ c ∈ s, c.isDigit = true) →
      s.foldl (fun n c => 10 * n + digitValue c) m =
        s.foldl (fun n c => 10 * n + (c.toNat - '0'.toNat)) m := by
    intro s
    induction s with
    | nil => exact fun m _ => rfl
    | cons c s ih =>
        intro m hs
        rw [List.foldl_cons, List.foldl_cons, digitValue_of_isDigit (hs c List.mem_cons_self),
          ih _ fun d hd => hs d (List.mem_cons_of_mem c hd)]
  rw [number, h _ 0 fun _ => isDigit_of_mem_str, ← decimal, decimal_str]

theorem not_isIntSpace_of_isDigit {c : Char} (h : c.isDigit = true) : isIntSpace c = false := by
  simp only [Char.isDigit, Bool.and_eq_true, decide_eq_true_eq, UInt32.le_iff_toNat_le] at h
  obtain ⟨h0, h9⟩ := h
  have hle : c.toNat ≤ 57 := h9
  have hge : 48 ≤ c.toNat := h0
  have hspace : c ∉ [' ', '\t', '\n', '\x0b', '\x0c', '\r'] := by
    intro hmem
    simp only [List.mem_cons, List.not_mem_nil, or_false] at hmem
    rcases hmem with rfl | rfl | rfl | rfl | rfl | rfl <;> revert hge <;> decide
  have hlt : ¬ 127 ≤ c.toNat := by omega
  simp [isIntSpace, hspace, hlt]

theorem number?_of_isDigit {s : Str} (hne : s ≠ []) (h : ∀ c ∈ s, c.isDigit = true) :
    number? s = some (number s) := by
  have hsplit : s.splitOn '_' = [s] := List.splitOn_eq_singleton fun hmem => by
    have hdigit := h _ hmem
    revert hdigit
    decide
  have hall : ((s.splitOn '_').all fun part => !part.isEmpty && part.all isDecimal) = true := by
    rw [hsplit]
    simpa [hne] using fun c hc => isDecimal_of_isDigit (h c hc)
  rw [number?, if_pos hall, hsplit, List.flatten_singleton]

theorem integer?_str (n : Nat) : integer? (str n) = some n := by
  have hdigit (c : Char) (hc : c ∈ str n) : c.isDigit = true := isDigit_of_mem_str hc
  have hdrop (s : Str) (hs : ∀ c ∈ s, c.isDigit = true) : s.dropWhile isIntSpace = s := by
    cases s with
    | nil => rfl
    | cons c s =>
        rw [List.dropWhile_cons_of_neg]
        rw [not_isIntSpace_of_isDigit (hs c List.mem_cons_self)]
        exact Bool.false_ne_true
  have hstrip : (((str n).dropWhile isIntSpace).reverse.dropWhile isIntSpace).reverse = str n := by
    rw [hdrop _ hdigit, hdrop _ fun c hc => hdigit c (List.mem_reverse.mp hc), List.reverse_reverse]
  have hnumber := number?_of_isDigit (str_ne_nil n) hdigit
  rw [number_str] at hnumber
  rw [integer?, hstrip]
  split
  next t ht => exact absurd (hdigit '+' (by rw [ht]; exact List.mem_cons_self)) (by decide)
  next t ht => exact absurd (hdigit '-' (by rw [ht]; exact List.mem_cons_self)) (by decide)
  next => rw [hnumber]; rfl

end Py
