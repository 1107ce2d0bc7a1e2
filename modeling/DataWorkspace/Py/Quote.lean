import DataWorkspace.Py.Utf8

/-!
# Percent-encoding

`quote` and `unquote` are the functions of `urllib.parse`.  `quote` writes every
byte of the UTF-8 text that is neither always safe nor listed as safe as `%XX`.
`unquote` reads each `%XX` back as a byte and decodes the bytes of every run of
ASCII characters; a `%` that two hexadecimal digits do not follow stands for
itself.

* `unquote_quote`: `unquote` undoes `quote`, for every text.
* `unquote_eq_self_iff`: on an ASCII text `unquote` is the identity exactly when
  the text holds no `%XX`.  It shortens every other one.

The second is what a second decoding of one text costs.
-/

namespace Py

/-! ## Hexadecimal digits -/

/-- The value of a hexadecimal digit of either case. -/
def hexValue (c : Char) : Option Nat :=
  if '0' ≤ c ∧ c ≤ '9' then some (c.toNat - '0'.toNat)
  else if 'a' ≤ c ∧ c ≤ 'f' then some (c.toNat - 'a'.toNat + 10)
  else if 'A' ≤ c ∧ c ≤ 'F' then some (c.toNat - 'A'.toNat + 10)
  else none

/-- The upper-case hexadecimal digit of a value below sixteen. -/
def hexDigit (n : Nat) : Char := Char.ofNat (if n < 10 then '0'.toNat + n else 'A'.toNat + (n - 10))

theorem hexValue_hexDigit {n : Nat} (h : n < 16) : hexValue (hexDigit n) = some n := by
  have hall : ∀ m : Fin 16, hexValue (hexDigit m) = some (m : Nat) := by decide
  exact hall ⟨n, h⟩

theorem hexDigit_ascii {n : Nat} (h : n < 16) : (hexDigit n).toNat < 0x80 := by
  have hall : ∀ m : Fin 16, (hexDigit m).toNat < 0x80 := by decide
  exact hall ⟨n, h⟩

theorem hexValue_ascii {c : Char} (h : (hexValue c).isSome = true) : c.toNat < 0x80 := by
  unfold hexValue at h
  simp only [Char.le_def, UInt32.le_iff_toNat_le] at h
  change c.val.toNat < 128
  split at h
  · next h9 => exact Nat.lt_of_le_of_lt h9.2 (by decide)
  · split at h
    · next hf => exact Nat.lt_of_le_of_lt hf.2 (by decide)
    · split at h
      · next hF => exact Nat.lt_of_le_of_lt hF.2 (by decide)
      · cases h

/-! ## Decoding -/

/-- The bytes an ASCII text stands for. -/
def unquoteToBytes : Str → Bytes
  | [] => []
  | [c] => [c.toNat]
  | [c, a] => [c.toNat, a.toNat]
  | c :: a :: b :: t =>
      match c, hexValue a, hexValue b with
      | '%', some x, some y => (16 * x + y) :: unquoteToBytes t
      | _, _, _ => c.toNat :: unquoteToBytes (a :: b :: t)

/-- `unquote` with the ASCII run read so far, newest character first. -/
def unquoteFrom (run : Str) : Str → Str
  | [] => decodeReplace (unquoteToBytes run.reverse)
  | c :: s =>
      if c.toNat < 0x80 then unquoteFrom (c :: run) s
      else decodeReplace (unquoteToBytes run.reverse) ++ c :: unquoteFrom [] s

/-- `urllib.parse.unquote(s)`. -/
def unquote (s : Str) : Str := unquoteFrom [] s

/-- Whether the text holds a `%` that two hexadecimal digits follow. -/
def hasEscape : Str → Bool
  | [] => false
  | [_] => false
  | [_, _] => false
  | c :: a :: b :: t =>
      (c == '%' && (hexValue a).isSome && (hexValue b).isSome) || hasEscape (a :: b :: t)

theorem unquoteFrom_of_ascii : ∀ {s : Str} (run : Str), isAscii s = true →
    unquoteFrom run s = decodeReplace (unquoteToBytes (run.reverse ++ s))
  | [], run, _ => by simp [unquoteFrom]
  | c :: s, run, h => by
      simp only [isAscii, List.all_cons, Bool.and_eq_true, decide_eq_true_eq] at h
      rw [unquoteFrom, if_pos h.1, unquoteFrom_of_ascii (c :: run) h.2]
      simp

theorem unquote_of_ascii {s : Str} (h : isAscii s = true) :
    unquote s = decodeReplace (unquoteToBytes s) :=
  unquoteFrom_of_ascii [] h

theorem unquoteToBytes_escape {a b : Char} {x y : Nat} (ha : hexValue a = some x)
    (hb : hexValue b = some y) (t : Str) :
    unquoteToBytes ('%' :: a :: b :: t) = (16 * x + y) :: unquoteToBytes t := by
  simp [unquoteToBytes, ha, hb]

theorem unquoteToBytes_cons {c : Char} (h : c ≠ '%') (t : Str) :
    unquoteToBytes (c :: t) = c.toNat :: unquoteToBytes t := by
  match t with
  | [] => rfl
  | [_] => rfl
  | a :: b :: t =>
      rw [unquoteToBytes]
      intro x y hc
      exact absurd hc h

theorem unquoteToBytes_of_not_hasEscape (s : Str) (h : hasEscape s = false) :
    unquoteToBytes s = s.map Char.toNat := by
  fun_induction unquoteToBytes s with
  | case1 => rfl
  | case2 => rfl
  | case3 => rfl
  | case4 a b t x y ha hb => simp [hasEscape, ha, hb] at h
  | case5 c a b t _ ih =>
      simp only [hasEscape, Bool.or_eq_false_iff] at h
      rw [ih h.2]
      rfl

theorem unquoteToBytes_length_le (s : Str) : (unquoteToBytes s).length ≤ s.length := by
  fun_induction unquoteToBytes s with
  | case1 => simp
  | case2 => simp
  | case3 => simp
  | case4 a b t x y ha hb ih =>
      simp only [List.length_cons]
      omega
  | case5 c a b t _ ih =>
      simp only [List.length_cons] at ih ⊢
      omega

theorem unquoteToBytes_length_lt (s : Str) (h : hasEscape s = true) :
    (unquoteToBytes s).length < s.length := by
  fun_induction unquoteToBytes s with
  | case1 => simp [hasEscape] at h
  | case2 => simp [hasEscape] at h
  | case3 => simp [hasEscape] at h
  | case4 a b t x y ha hb =>
      have ht := unquoteToBytes_length_le t
      simp only [List.length_cons]
      omega
  | case5 c a b t hne ih =>
      have hfront : (c == '%' && (hexValue a).isSome && (hexValue b).isSome) = false := by
        rw [Bool.eq_false_iff]
        intro hf
        simp only [Bool.and_eq_true, beq_iff_eq] at hf
        obtain ⟨x, hx⟩ := Option.isSome_iff_exists.mp hf.1.2
        obtain ⟨y, hy⟩ := Option.isSome_iff_exists.mp hf.2
        exact hne x y hf.1.1 hx hy
      rw [hasEscape, hfront, Bool.false_or] at h
      have := ih h
      simp only [List.length_cons] at this ⊢
      omega

theorem unquote_of_not_hasEscape {s : Str} (ha : isAscii s = true) (h : hasEscape s = false) :
    unquote s = s := by
  rw [unquote_of_ascii ha, unquoteToBytes_of_not_hasEscape s h, decodeReplace_ascii ha]

theorem unquote_length_lt {s : Str} (ha : isAscii s = true) (h : hasEscape s = true) :
    (unquote s).length < s.length := by
  rw [unquote_of_ascii ha]
  exact (decodeReplace_length_le _).trans_lt (unquoteToBytes_length_lt s h)

/-- Decoding keeps the characters in front of a text that begin no escape. -/
theorem unquote_append : ∀ {p s : Str}, (∀ c ∈ p, c.toNat < 0x80 ∧ c ≠ '%') → isAscii s = true →
    unquote (p ++ s) = p ++ unquote s
  | [], _, _, _ => rfl
  | c :: p, s, hp, hs => by
      have hc := hp c (List.mem_cons_self ..)
      have hp' := fun d hd => hp d (List.mem_cons_of_mem c hd)
      have ih := unquote_append hp' hs
      have hps : isAscii (p ++ s) = true := by
        rw [isAscii_append, hs, Bool.and_true]
        exact List.all_eq_true.mpr fun d hd => decide_eq_true (hp' d hd).1
      have hcps : isAscii (c :: (p ++ s)) = true := by
        rw [isAscii, List.all_cons, Bool.and_eq_true]
        exact ⟨decide_eq_true hc.1, hps⟩
      rw [List.cons_append, unquote_of_ascii hcps, unquoteToBytes_cons hc.2,
        decodeReplace_of_lt hc.1, ← unquote_of_ascii hps, ih, Char.ofNat_toNat]
      rfl

theorem unquote_eq_self_iff {s : Str} (ha : isAscii s = true) :
    unquote s = s ↔ hasEscape s = false := by
  constructor
  · intro h
    rw [Bool.eq_false_iff]
    intro he
    exact absurd (congrArg List.length h) (Nat.ne_of_lt (unquote_length_lt ha he))
  · exact unquote_of_not_hasEscape ha

/-! ## Decoding at a separator -/

/-- A character that is neither `%` nor a hexadecimal digit, so that no escape spans it. -/
def outsideEscapes (c : Char) : Bool := c != '%' && (hexValue c).isNone

theorem outsideEscapes_of_not_ascii {c : Char} (h : ¬ c.toNat < 0x80) : outsideEscapes c = true := by
  have hnone : hexValue c = none := by
    rw [← Option.not_isSome_iff_eq_none]
    exact fun hs => h (hexValue_ascii hs)
  have hne : c ≠ '%' := by
    rintro rfl
    exact h (by decide)
  simp [outsideEscapes, hnone, hne]

section Outside

variable {c : Char}

theorem ne_percent_of_outside (hc : outsideEscapes c = true) : c ≠ '%' := by
  simp only [outsideEscapes, Bool.and_eq_true, bne_iff_ne] at hc
  exact hc.1

theorem hexValue_of_outside (hc : outsideEscapes c = true) : hexValue c = none := by
  simp only [outsideEscapes, Bool.and_eq_true, Option.isNone_iff_eq_none] at hc
  exact hc.2

theorem unquoteToBytes_append (hc : outsideEscapes c = true) (s t : Str) :
    unquoteToBytes (s ++ c :: t) = unquoteToBytes s ++ c.toNat :: unquoteToBytes t := by
  have hhex := hexValue_of_outside hc
  have hcons := unquoteToBytes_cons (ne_percent_of_outside hc)
  -- at most one character before the separator
  have hone (x : Char) : unquoteToBytes (x :: c :: t) = x.toNat :: c.toNat :: unquoteToBytes t := by
    by_cases hx : x = '%'
    · subst hx
      cases t with
      | nil => rfl
      | cons d t => simp [unquoteToBytes, hhex, hcons]
    · rw [unquoteToBytes_cons hx, hcons]
  fun_induction unquoteToBytes s with
  | case1 => exact hcons t
  | case2 x => exact hone x
  | case3 x a =>
      have hstep : unquoteToBytes (x :: a :: c :: t) = x.toNat :: unquoteToBytes (a :: c :: t) := by
        rw [unquoteToBytes]
        intro y z _ _ hz
        rw [hhex] at hz
        cases hz
      exact hstep.trans (by rw [hone a]; rfl)
  | case4 a b s x y ha hb ih =>
      rw [List.cons_append, List.cons_append, List.cons_append, unquoteToBytes_escape hb ha, ih]
      rfl
  | case5 x a b s hne ih =>
      have hstep : unquoteToBytes (x :: a :: b :: (s ++ c :: t)) =
          x.toNat :: unquoteToBytes (a :: b :: (s ++ c :: t)) := by
        rw [unquoteToBytes]
        exact hne
      exact hstep.trans (by rw [← List.cons_append, ← List.cons_append, ih]; rfl)

theorem hasEscape_cons (hc : c ≠ '%') (t : Str) : hasEscape (c :: t) = hasEscape t := by
  match t with
  | [] => rfl
  | [_] => rfl
  | a :: b :: t => simp [hasEscape, hc]

theorem hasEscape_append (hc : outsideEscapes c = true) (s t : Str) :
    hasEscape (s ++ c :: t) = (hasEscape s || hasEscape t) := by
  have hhex := hexValue_of_outside hc
  have hcons := hasEscape_cons (ne_percent_of_outside hc)
  have hone (x : Char) : hasEscape (x :: c :: t) = hasEscape t := by
    cases t with
    | nil => rfl
    | cons d t => simp [hasEscape, hhex, hcons]
  fun_induction hasEscape s with
  | case1 => exact (hcons t).trans (Bool.false_or _).symm
  | case2 x => exact (hone x).trans (Bool.false_or _).symm
  | case3 x a =>
      have hstep : hasEscape (x :: a :: c :: t) = hasEscape (a :: c :: t) := by simp [hasEscape, hhex]
      exact hstep.trans ((hone a).trans (Bool.false_or _).symm)
  | case4 x a b s ih =>
      rw [List.cons_append, List.cons_append, List.cons_append, hasEscape, ← List.cons_append,
        ← List.cons_append, ih, Bool.or_assoc]

theorem unquoteFrom_append (hc : outsideEscapes c = true) (hascii : c.toNat < 0x80) (run' : Str) :
    ∀ (s run : Str), unquoteFrom (run ++ c :: run') s =
      decodeReplace (unquoteToBytes run'.reverse) ++ c :: unquoteFrom run s
  | [], run => by
      rw [unquoteFrom, unquoteFrom, List.reverse_append, List.reverse_cons, List.append_assoc,
        List.singleton_append, unquoteToBytes_append hc, decodeReplace_append (.inl hascii),
        decodeReplace_of_lt hascii, Char.ofNat_toNat]
  | d :: s, run => by
      have ih := unquoteFrom_append hc hascii run' s (d :: run)
      have hend := unquoteFrom_append hc hascii run' [] run
      rw [unquoteFrom, unquoteFrom] at hend
      rw [unquoteFrom, unquoteFrom]
      split
      · exact ih
      · rw [hend, List.append_assoc, List.cons_append]

theorem unquote_append_separator (hc : outsideEscapes c = true) (hascii : c.toNat < 0x80)
    (s t : Str) : unquote (s ++ c :: t) = unquote s ++ c :: unquote t := by
  have hall : ∀ s run : Str, unquoteFrom run (s ++ c :: t) = unquoteFrom run s ++ c :: unquote t := by
    intro s
    induction s with
    | nil =>
        intro run
        have hstep : unquoteFrom run (c :: t) = unquoteFrom (c :: run) t := by
          rw [unquoteFrom, if_pos hascii]
        rw [List.nil_append, hstep, unquoteFrom]
        exact unquoteFrom_append hc hascii run t []
    | cons d s ih =>
        intro run
        rw [List.cons_append, unquoteFrom, unquoteFrom]
        split
        · exact ih _
        · rw [ih, List.append_assoc, List.cons_append]
  exact hall s []

end Outside

theorem unquoteFrom_length_le : ∀ (s run : Str), (unquoteFrom run s).length ≤ run.length + s.length
  | [], run => by
      have hread := (decodeReplace_length_le _).trans (unquoteToBytes_length_le run.reverse)
      simpa [unquoteFrom] using hread
  | c :: s, run => by
      have hread := (decodeReplace_length_le _).trans (unquoteToBytes_length_le run.reverse)
      have ihrun := unquoteFrom_length_le s (c :: run)
      have ih := unquoteFrom_length_le s []
      rw [List.length_reverse] at hread
      rw [unquoteFrom]
      split
      · simp only [List.length_cons] at ihrun ⊢
        omega
      · simp only [List.length_append, List.length_cons, List.length_nil] at ih ⊢
        omega

theorem unquoteFrom_length_lt : ∀ (s run : Str), hasEscape (run.reverse ++ s) = true →
    (unquoteFrom run s).length < run.length + s.length
  | [], run, h => by
      rw [List.append_nil] at h
      have hread := (decodeReplace_length_le _).trans_lt (unquoteToBytes_length_lt run.reverse h)
      simpa [unquoteFrom] using hread
  | c :: s, run, h => by
      rw [unquoteFrom]
      split
      next hascii =>
        have ih := unquoteFrom_length_lt s (c :: run) (by simpa using h)
        simp only [List.length_cons] at ih ⊢
        omega
      next hascii =>
        rw [hasEscape_append (outsideEscapes_of_not_ascii hascii), Bool.or_eq_true] at h
        have hread := (decodeReplace_length_le _).trans (unquoteToBytes_length_le run.reverse)
        have hrest := unquoteFrom_length_le s []
        simp only [List.length_append, List.length_cons, List.length_reverse, List.length_nil]
          at hread hrest ⊢
        rcases h with h | h
        · have hlt := (decodeReplace_length_le _).trans_lt (unquoteToBytes_length_lt run.reverse h)
          rw [List.length_reverse] at hlt
          omega
        · have ih := unquoteFrom_length_lt s [] h
          simp only [List.length_nil] at ih
          omega

theorem unquoteFrom_of_not_hasEscape : ∀ (s run : Str), isAscii run = true →
    hasEscape (run.reverse ++ s) = false → unquoteFrom run s = run.reverse ++ s
  | [], run, hrun, h => by
      rw [List.append_nil] at h ⊢
      have hascii : isAscii run.reverse = true := by rw [isAscii, List.all_reverse]; exact hrun
      rw [unquoteFrom, unquoteToBytes_of_not_hasEscape _ h, decodeReplace_ascii hascii]
  | c :: s, run, hrun, h => by
      rw [unquoteFrom]
      split
      next hascii =>
        have hrun' : isAscii (c :: run) = true := by
          rw [isAscii, List.all_cons, Bool.and_eq_true]
          exact ⟨decide_eq_true hascii, hrun⟩
        rw [unquoteFrom_of_not_hasEscape s (c :: run) hrun' (by simpa using h), List.reverse_cons,
          List.append_assoc, List.singleton_append]
      next hascii =>
        rw [hasEscape_append (outsideEscapes_of_not_ascii hascii), Bool.or_eq_false_iff] at h
        have hascii' : isAscii run.reverse = true := by rw [isAscii, List.all_reverse]; exact hrun
        rw [unquoteToBytes_of_not_hasEscape _ h.1, decodeReplace_ascii hascii',
          unquoteFrom_of_not_hasEscape s [] rfl h.2]
        rfl

theorem length_unquote_le (s : Str) : (unquote s).length ≤ s.length := by
  have h := unquoteFrom_length_le s []
  rwa [List.length_nil, Nat.zero_add] at h

theorem length_unquote_lt {s : Str} (h : hasEscape s = true) : (unquote s).length < s.length := by
  have hlt := unquoteFrom_length_lt s [] h
  rwa [List.length_nil, Nat.zero_add] at hlt

theorem unquote_of_no_escape {s : Str} (h : hasEscape s = false) : unquote s = s :=
  unquoteFrom_of_not_hasEscape s [] rfl h

/-! ## Encoding -/

/-- The characters `quote` never encodes. -/
def alwaysSafe (c : Char) : Bool := c.isAlphanum || c ∈ ['_', '.', '-', '~']

/-- One byte, quoted unless it is a safe character. -/
def quoteByte (safe : Str) (b : Nat) : Str :=
  if b < 0x80 ∧ (alwaysSafe (Char.ofNat b) = true ∨ Char.ofNat b ∈ safe) then [Char.ofNat b]
  else ['%', hexDigit (b / 16), hexDigit (b % 16)]

/-- `urllib.parse.quote(s, safe)`. -/
def quote (safe s : Str) : Str := (encode s).flatMap (quoteByte safe)

theorem toNat_ofNat {b : Nat} (h : b < 0x80) : (Char.ofNat b).toNat = b := by
  have hall : ∀ m : Fin 0x80, (Char.ofNat m).toNat = (m : Nat) := by decide
  exact hall ⟨b, h⟩

theorem quoteByte_ascii (safe : Str) {b : Nat} (h : b < 256) :
    isAscii (quoteByte safe b) = true := by
  unfold quoteByte
  split
  next hb => simp [isAscii, toNat_ofNat hb.1, hb.1]
  next =>
    have h1 := hexDigit_ascii (n := b / 16) (by omega)
    have h2 := hexDigit_ascii (n := b % 16) (by omega)
    simp [isAscii, h1, h2]

theorem quote_ascii (safe s : Str) : isAscii (quote safe s) = true := by
  have hall : ∀ bs : Bytes, (∀ b ∈ bs, b < 256) → isAscii (bs.flatMap (quoteByte safe)) = true := by
    intro bs
    induction bs with
    | nil => intro _; rfl
    | cons b bs ih =>
        intro h
        rw [List.flatMap_cons, isAscii_append, quoteByte_ascii safe (h b (List.mem_cons_self ..)),
          ih fun x hx => h x (List.mem_cons_of_mem _ hx), Bool.and_self]
  exact hall _ (encode_lt s)

theorem unquoteToBytes_quoteByte {safe : Str} (hs : '%' ∉ safe) {b : Nat} (h : b < 256) (t : Str) :
    unquoteToBytes (quoteByte safe b ++ t) = b :: unquoteToBytes t := by
  unfold quoteByte
  split
  next hb =>
    have hne : Char.ofNat b ≠ '%' := by
      intro he
      rw [he] at hb
      exact hb.2.elim (by decide) hs
    rw [List.singleton_append, unquoteToBytes_cons hne, toNat_ofNat hb.1]
  next =>
    simp only [List.cons_append, List.nil_append]
    rw [unquoteToBytes_escape (hexValue_hexDigit (by omega)) (hexValue_hexDigit (by omega)),
      show 16 * (b / 16) + b % 16 = b by omega]

theorem unquoteToBytes_quoteBytes {safe : Str} (hs : '%' ∉ safe) :
    ∀ {bs : Bytes}, (∀ b ∈ bs, b < 256) → unquoteToBytes (bs.flatMap (quoteByte safe)) = bs
  | [], _ => rfl
  | b :: bs, h => by
      rw [List.flatMap_cons, unquoteToBytes_quoteByte hs (h b (List.mem_cons_self ..)),
        unquoteToBytes_quoteBytes hs fun x hx => h x (List.mem_cons_of_mem _ hx)]

theorem unquote_quote {safe : Str} (hs : '%' ∉ safe) (s : Str) : unquote (quote safe s) = s := by
  rw [unquote_of_ascii (quote_ascii safe s), quote, unquoteToBytes_quoteBytes hs (encode_lt s),
    decodeReplace_encode]

end Py
