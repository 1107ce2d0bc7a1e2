import DataWorkspace.Py.Text

/-!
# UTF-8

`encode` is `str.encode("utf-8")` and `decodeReplace` is
`bytes.decode("utf-8", "replace")`.  A byte is a natural number, so that the
arithmetic of the two is linear.

The decoder follows the table of well-formed byte sequences of the Unicode
Standard: the lead byte fixes the number of continuation bytes and the range of
the first of them.  At an ill-formed sequence it emits U+FFFD for the bytes that
were still well formed and goes on at the first byte that was not.

Two facts are used elsewhere.  Decoding undoes encoding
(`decodeReplace_encode`), and it never makes a text longer than its bytes
(`decodeReplace_length_le`).
-/

namespace Py

/-- A sequence of bytes. -/
abbrev Bytes := List Nat

/-! ## Encoding -/

/-- The bytes of one character. -/
def encodeChar (c : Char) : Bytes :=
  let v := c.toNat
  if v < 0x80 then [v]
  else if v < 0x800 then [0xC0 + v / 64, 0x80 + v % 64]
  else if v < 0x10000 then [0xE0 + v / 4096, 0x80 + v / 64 % 64, 0x80 + v % 64]
  else [0xF0 + v / 262144, 0x80 + v / 4096 % 64, 0x80 + v / 64 % 64, 0x80 + v % 64]

/-- `s.encode("utf-8")`. -/
def encode (s : Str) : Bytes := s.flatMap encodeChar

theorem toNat_lt (c : Char) : c.toNat < 0x110000 := by
  have h := c.valid
  simp only [UInt32.isValidChar, Nat.isValidChar] at h
  change c.val.toNat < _
  omega

theorem not_surrogate (c : Char) : c.toNat < 0xD800 ∨ 0xDFFF < c.toNat := by
  have h := c.valid
  simp only [UInt32.isValidChar, Nat.isValidChar] at h
  change c.val.toNat < _ ∨ _ < c.val.toNat
  omega

theorem encodeChar_ascii {c : Char} (h : c.toNat < 0x80) : encodeChar c = [c.toNat] := by
  simp [encodeChar, h]

theorem encodeChar_lt (c : Char) : ∀ b ∈ encodeChar c, b < 256 := by
  have hc := toNat_lt c
  intro b hb
  unfold encodeChar at hb
  simp only at hb
  split at hb
  · simp only [List.mem_singleton] at hb
    omega
  · split at hb
    · simp only [List.mem_cons, List.not_mem_nil, or_false] at hb
      omega
    · split at hb <;>
        · simp only [List.mem_cons, List.not_mem_nil, or_false] at hb
          omega

theorem encode_lt (s : Str) : ∀ b ∈ encode s, b < 256 := by
  intro b hb
  obtain ⟨c, -, hc⟩ := List.mem_flatMap.mp hb
  exact encodeChar_lt c b hc

/-! ## Decoding -/

/-- U+FFFD, the replacement character. -/
def replacement : Char := Char.ofNat 0xFFFD

/-- The number of continuation bytes a lead byte asks for, zero for a byte that
cannot lead a sequence. -/
def trailing (b : Nat) : Nat :=
  if 0xC2 ≤ b ∧ b ≤ 0xDF then 1 else if 0xE0 ≤ b ∧ b ≤ 0xEF then 2
  else if 0xF0 ≤ b ∧ b ≤ 0xF4 then 3 else 0

/-- Whether `b` may follow the lead byte. -/
def secondOk (lead b : Nat) : Bool :=
  (if lead = 0xE0 then 0xA0 else if lead = 0xF0 then 0x90 else 0x80) ≤ b &&
    b ≤ (if lead = 0xED then 0x9F else if lead = 0xF4 then 0x8F else 0xBF)

/-- Whether `b` is a continuation byte. -/
def continuation (b : Nat) : Bool := 0x80 ≤ b && b ≤ 0xBF

/-- `bs.decode("utf-8", "replace")`. -/
@[grind =]
def decodeReplace : Bytes → Str
  | [] => []
  | b :: t =>
      if b < 0x80 then Char.ofNat b :: decodeReplace t
      else if trailing b = 0 then replacement :: decodeReplace t
      else match t with
        | [] => [replacement]
        | c :: t1 =>
            if secondOk b c = false then replacement :: decodeReplace (c :: t1)
            else if trailing b = 1 then
              Char.ofNat ((b - 0xC0) * 64 + (c - 0x80)) :: decodeReplace t1
            else match t1 with
              | [] => [replacement]
              | d :: t2 =>
                  if continuation d = false then replacement :: decodeReplace (d :: t2)
                  else if trailing b = 2 then
                    Char.ofNat ((b - 0xE0) * 4096 + (c - 0x80) * 64 + (d - 0x80)) ::
                      decodeReplace t2
                  else match t2 with
                    | [] => [replacement]
                    | e :: t3 =>
                        if continuation e = false then replacement :: decodeReplace (e :: t3)
                        else
                          Char.ofNat ((b - 0xF0) * 262144 + (c - 0x80) * 4096 +
                            (d - 0x80) * 64 + (e - 0x80)) :: decodeReplace t3
termination_by structural bs => bs

theorem decodeReplace_of_lt {b : Nat} (h : b < 0x80) (t : Bytes) :
    decodeReplace (b :: t) = Char.ofNat b :: decodeReplace t := by
  rw [decodeReplace.eq_def]
  simp only [h, if_true]

theorem trailing_eq_one {b : Nat} (h : 0xC2 ≤ b ∧ b ≤ 0xDF) : trailing b = 1 := by
  simp [trailing, h]

theorem trailing_eq_two {b : Nat} (h : 0xE0 ≤ b ∧ b ≤ 0xEF) : trailing b = 2 := by
  simp only [trailing, h, and_self, if_true]
  rw [if_neg (by omega)]

theorem trailing_eq_three {b : Nat} (h : 0xF0 ≤ b ∧ b ≤ 0xF4) : trailing b = 3 := by
  simp only [trailing, h, and_self, if_true]
  rw [if_neg (by omega), if_neg (by omega)]

theorem continuation_add_mod (n : Nat) : continuation (0x80 + n % 64) = true := by
  simp only [continuation, Bool.and_eq_true, decide_eq_true_eq]
  omega

theorem secondOk_two {v : Nat} (h1 : 0x80 ≤ v) (h2 : v < 0x800) :
    secondOk (0xC0 + v / 64) (0x80 + v % 64) = true := by
  simp only [secondOk, Bool.and_eq_true, decide_eq_true_eq]
  constructor <;> repeat' split
  all_goals omega

/-- The bounds after the lead bytes 0xE0 and 0xED keep out overlong forms and
surrogates. -/
theorem secondOk_three {v : Nat} (h1 : 0x800 ≤ v) (h2 : v < 0x10000)
    (hs : v < 0xD800 ∨ 0xDFFF < v) :
    secondOk (0xE0 + v / 4096) (0x80 + v / 64 % 64) = true := by
  simp only [secondOk, Bool.and_eq_true, decide_eq_true_eq]
  constructor <;> repeat' split
  all_goals omega

/-- The bounds after the lead bytes 0xF0 and 0xF4 keep out overlong forms and
values past the last code point. -/
theorem secondOk_four {v : Nat} (h1 : 0x10000 ≤ v) (h2 : v < 0x110000) :
    secondOk (0xF0 + v / 262144) (0x80 + v / 4096 % 64) = true := by
  simp only [secondOk, Bool.and_eq_true, decide_eq_true_eq]
  constructor <;> repeat' split
  all_goals omega

/-- The next character of an encoded text is read back, whatever follows it.  The
cases are the four lengths of an encoded character. -/
theorem decodeReplace_encodeChar (c : Char) (t : Bytes) :
    decodeReplace (encodeChar c ++ t) = c :: decodeReplace t := by
  have hc := toNat_lt c
  have hs := not_surrogate c
  have ofNat_eq : ∀ {n : Nat}, n = c.toNat → Char.ofNat n = c := by
    rintro _ rfl
    exact Char.ofNat_toNat c
  by_cases h1 : c.toNat < 0x80
  · rw [encodeChar_ascii h1, List.singleton_append, decodeReplace_of_lt h1, Char.ofNat_toNat]
  by_cases h2 : c.toNat < 0x800
  · have ht : trailing (0xC0 + c.toNat / 64) = 1 := trailing_eq_one (by omega)
    have hk := secondOk_two (v := c.toNat) (by omega) h2
    have hv : Char.ofNat ((0xC0 + c.toNat / 64 - 0xC0) * 64 + (0x80 + c.toNat % 64 - 0x80)) = c :=
      ofNat_eq (by omega)
    have hb : ¬ 0xC0 + c.toNat / 64 < 0x80 := by omega
    simp only [encodeChar, h1, h2, if_false, if_true, List.cons_append, List.nil_append]
    rw [decodeReplace.eq_def]
    simp only [hb, ht, hk, hv, if_false, reduceCtorEq, Nat.reduceEqDiff, if_true]
  by_cases h3 : c.toNat < 0x10000
  · have ht : trailing (0xE0 + c.toNat / 4096) = 2 := trailing_eq_two (by omega)
    have hk := secondOk_three (v := c.toNat) (by omega) h3 hs
    have hd := continuation_add_mod c.toNat
    have hv : Char.ofNat ((0xE0 + c.toNat / 4096 - 0xE0) * 4096 +
        (0x80 + c.toNat / 64 % 64 - 0x80) * 64 + (0x80 + c.toNat % 64 - 0x80)) = c :=
      ofNat_eq (by omega)
    have hb : ¬ 0xE0 + c.toNat / 4096 < 0x80 := by omega
    simp only [encodeChar, h1, h2, h3, if_false, if_true, List.cons_append, List.nil_append]
    rw [decodeReplace.eq_def]
    simp only [hb, ht, hk, hd, hv, if_false, reduceCtorEq, Nat.reduceEqDiff, if_true]
  · have ht : trailing (0xF0 + c.toNat / 262144) = 3 := trailing_eq_three (by omega)
    have hk := secondOk_four (v := c.toNat) (by omega) hc
    have hd := continuation_add_mod (c.toNat / 64)
    have he := continuation_add_mod c.toNat
    have hv : Char.ofNat ((0xF0 + c.toNat / 262144 - 0xF0) * 262144 +
        (0x80 + c.toNat / 4096 % 64 - 0x80) * 4096 + (0x80 + c.toNat / 64 % 64 - 0x80) * 64 +
        (0x80 + c.toNat % 64 - 0x80)) = c := ofNat_eq (by omega)
    have hb : ¬ 0xF0 + c.toNat / 262144 < 0x80 := by omega
    simp only [encodeChar, h1, h2, h3, if_false, List.cons_append, List.nil_append]
    rw [decodeReplace.eq_def]
    simp only [hb, ht, hk, hd, he, hv, if_false, reduceCtorEq, Nat.reduceEqDiff]

theorem decodeReplace_encode : ∀ s : Str, decodeReplace (encode s) = s
  | [] => rfl
  | c :: s => by
      rw [encode, List.flatMap_cons, decodeReplace_encodeChar, ← encode, decodeReplace_encode s]

/-- Bytes below 0x80 are read as the characters they number. -/
theorem decodeReplace_ascii : ∀ {s : Str}, isAscii s = true →
    decodeReplace (s.map Char.toNat) = s
  | [], _ => rfl
  | c :: s, h => by
      simp only [isAscii, List.all_cons, Bool.and_eq_true, decide_eq_true_eq] at h
      rw [List.map_cons, decodeReplace_of_lt h.1, Char.ofNat_toNat, decodeReplace_ascii h.2]

theorem decodeReplace_append {b : Nat} (hb : b < 0x80 ∨ 0xBF < b) (t bs : Bytes) :
    decodeReplace (bs ++ b :: t) = decodeReplace bs ++ decodeReplace (b :: t) := by
  have hsecond (lead : Nat) : secondOk lead b = false := by
    simp only [secondOk, Bool.and_eq_false_iff, decide_eq_false_iff_not]
    repeat' split
    all_goals omega
  have hcontinuation : continuation b = false := by
    simp only [continuation, Bool.and_eq_false_iff, decide_eq_false_iff_not]
    omega
  fun_induction decodeReplace bs <;>
    first
    | rfl
    | (rw [List.cons_append, decodeReplace.eq_def]
       simp_all [Nat.not_lt_of_le])

theorem decodeReplace_length_le (bs : Bytes) : (decodeReplace bs).length ≤ bs.length := by
  fun_induction decodeReplace bs <;> simp_all <;> omega

/-! ## Strict decoding -/

/-- `bs.decode("utf-8")`, or `none` where it raises `UnicodeDecodeError`. -/
def decodeStrict (bs : Bytes) : Option Str :=
  if encode (decodeReplace bs) = bs then some (decodeReplace bs) else none

theorem decodeStrict_eq_some_iff {bs : Bytes} {s : Str} : decodeStrict bs = some s ↔ encode s = bs := by
  rw [decodeStrict]
  constructor
  · intro h
    split at h
    next heq =>
        cases h
        exact heq
    next => cases h
  · rintro rfl
    rw [decodeReplace_encode, if_pos rfl]

theorem decodeReplace_encode_append (bs : Bytes) : ∀ s : Str,
    decodeReplace (encode s ++ bs) = s ++ decodeReplace bs
  | [] => rfl
  | c :: s => by
      rw [encode, List.flatMap_cons, List.append_assoc, decodeReplace_encodeChar, ← encode,
        decodeReplace_encode_append bs s, List.cons_append]

theorem prefix_of_encode {t s : Str} (h : encode t <+: encode s) : t <+: s := by
  obtain ⟨bs, hbs⟩ := h
  have hs := congrArg decodeReplace hbs
  rw [decodeReplace_encode_append, decodeReplace_encode] at hs
  exact ⟨_, hs⟩

end Py
