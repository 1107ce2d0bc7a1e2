import DataWorkspace.Py.Text

/-!
# Digits

`\d` takes the decimal digits of every script for digits.  `str` writes a number with the
ten of ASCII, and `str_injective` says that it can be read back.
-/

namespace Py

/-! ## The class -/

/-- The code points of the decimal zeros of Unicode 11.  The nine other digits follow each. -/
def decimalZeros : List Nat :=
  [0x30, 0x660, 0x6F0, 0x7C0, 0x966, 0x9E6, 0xA66, 0xAE6, 0xB66, 0xBE6, 0xC66, 0xCE6, 0xD66,
    0xDE6, 0xE50, 0xED0, 0xF20, 0x1040, 0x1090, 0x17E0, 0x1810, 0x1946, 0x19D0, 0x1A80, 0x1A90,
    0x1B50, 0x1BB0, 0x1C40, 0x1C50, 0xA620, 0xA8D0, 0xA900, 0xA9D0, 0xA9F0, 0xAA50, 0xABF0,
    0xFF10, 0x104A0, 0x10D30, 0x11066, 0x110F0, 0x11136, 0x111D0, 0x112F0, 0x11450, 0x114D0,
    0x11650, 0x116C0, 0x11730, 0x118E0, 0x11C50, 0x11D50, 0x11DA0, 0x16A60, 0x16B50, 0x1D7CE,
    0x1D7D8, 0x1D7E2, 0x1D7EC, 0x1D7F6, 0x1E950]

/-- `\d`. -/
def isDecimal (c : Char) : Bool := decimalZeros.any fun z => z ≤ c.toNat && c.toNat ≤ z + 9

theorem isDecimal_of_isDigit {c : Char} (h : c.isDigit = true) : isDecimal c = true := by
  simp only [Char.isDigit, Bool.and_eq_true, decide_eq_true_eq, UInt32.le_iff_toNat_le] at h
  refine List.any_eq_true.mpr ⟨0x30, List.mem_cons_self .., ?_⟩
  simp only [Bool.and_eq_true, decide_eq_true_eq]
  exact h

/-! ## Numbers -/

theorem isDigit_of_mem_str {c : Char} {n : Nat} (h : c ∈ str n) : c.isDigit = true := by
  rw [str, Nat.toString_eq_repr, Nat.toList_repr] at h
  exact Nat.isDigit_of_mem_toDigits (by decide) (by decide) h

theorem str_ne_nil (n : Nat) : str n ≠ [] := by
  rw [str, Nat.toString_eq_repr, Nat.toList_repr]
  exact Nat.toDigits_ne_nil

theorem decimal_str (n : Nat) : decimal (str n) = n := by
  rw [str, Nat.toString_eq_repr, Nat.toList_repr]
  exact Nat.ofDigitChars_toDigits (by decide) (by decide)

theorem str_injective {m n : Nat} (h : str m = str n) : m = n := by
  rw [← decimal_str m, h, decimal_str]

theorem digits_append_inj {c : Char} (hc : c.isDigit = false) {s t : Str} :
    ∀ {a b : Str}, (∀ d ∈ a, d.isDigit = true) → (∀ d ∈ b, d.isDigit = true) →
      a ++ c :: s = b ++ c :: t → a = b ∧ s = t
  | [], [], _, _, h => ⟨rfl, (List.cons.inj h).2⟩
  | [], d :: b, _, hb, h => by
      have hd := hb d List.mem_cons_self
      rw [← (List.cons.inj h).1, hc] at hd
      cases hd
  | d :: a, [], ha, _, h => by
      have hd := ha d List.mem_cons_self
      rw [(List.cons.inj h).1, hc] at hd
      cases hd
  | d :: a, e :: b, ha, hb, h => by
      obtain ⟨rfl, hrest⟩ := List.cons.inj h
      obtain ⟨rfl, hst⟩ := digits_append_inj hc (fun x hx => ha x (List.mem_cons_of_mem _ hx))
        (fun x hx => hb x (List.mem_cons_of_mem _ hx)) hrest
      exact ⟨rfl, hst⟩

theorem str_append_inj {m n : Nat} {c : Char} {s t : Str} (hc : c.isDigit = false)
    (h : str m ++ c :: s = str n ++ c :: t) : m = n ∧ s = t := by
  obtain ⟨hmn, hst⟩ := digits_append_inj hc (fun _ => isDigit_of_mem_str)
    (fun _ => isDigit_of_mem_str) h
  exact ⟨str_injective hmn, hst⟩

theorem append_str_inj {m n : Nat} {c : Char} {s t : Str} (hc : c.isDigit = false)
    (h : s ++ c :: str m = t ++ c :: str n) : m = n ∧ s = t := by
  have hreverse := congrArg List.reverse h
  simp only [List.reverse_append, List.reverse_cons, List.append_assoc, List.singleton_append]
    at hreverse
  obtain ⟨hmn, hst⟩ := digits_append_inj hc
    (fun d hd => isDigit_of_mem_str (List.mem_reverse.mp hd))
    (fun d hd => isDigit_of_mem_str (List.mem_reverse.mp hd)) hreverse
  exact ⟨str_injective (List.reverse_injective hmn), List.reverse_injective hst⟩

end Py
