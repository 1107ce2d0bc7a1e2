import DataWorkspace.Py.Json
import DataWorkspace.Py.Digits

/-!
# Writing JSON

`json.dumps` with its defaults: a space after each comma and colon, and nothing but ASCII
in strings.  `loads_dumps_obj` reads back an object whose members do not nest.
-/

namespace Py

namespace Json

/-! ## Strings -/

/-- The lower-case hexadecimal digit of a value below sixteen. -/
def lowerHexDigit (n : Nat) : Char :=
  Char.ofNat (if n < 10 then '0'.toNat + n else 'a'.toNat + (n - 10))

/-- `\u` and the four digits of a code unit. -/
def escapeUnit (n : Nat) : Str :=
  ['\\', 'u', lowerHexDigit (n / 4096), lowerHexDigit (n / 256 % 16),
    lowerHexDigit (n / 16 % 16), lowerHexDigit (n % 16)]

/-- A character as it stands in a string. -/
def escape (c : Char) : Str :=
  if c = '"' then ['\\', '"']
  else if c = '\\' then ['\\', '\\']
  else if c = '\n' then ['\\', 'n']
  else if c = '\r' then ['\\', 'r']
  else if c = '\t' then ['\\', 't']
  else if c = '\x0c' then ['\\', 'f']
  else if c = '\x08' then ['\\', 'b']
  else if 0x20 ≤ c.toNat ∧ c.toNat ≤ 0x7e then [c]
  else if c.toNat < 0x10000 then escapeUnit c.toNat
  else
    escapeUnit (0xD800 + (c.toNat - 0x10000) / 0x400) ++
      escapeUnit (0xDC00 + (c.toNat - 0x10000) % 0x400)

/-- A string between its quotes. -/
def dumpsString (s : Str) : Str := '"' :: s.flatMap escape ++ ['"']

theorem hexValue_lowerHexDigit {n : Nat} (h : n < 16) : hexValue (lowerHexDigit n) = some n := by
  have hall : ∀ m : Fin 16, hexValue (lowerHexDigit m) = some (m : Nat) := by decide
  exact hall ⟨n, h⟩

theorem hex4_lowerHexDigit {n : Nat} (h : n < 0x10000) :
    hex4 (lowerHexDigit (n / 4096)) (lowerHexDigit (n / 256 % 16)) (lowerHexDigit (n / 16 % 16))
      (lowerHexDigit (n % 16)) = some n := by
  have h₁ := hexValue_lowerHexDigit (n := n / 4096) (by omega)
  have h₂ := hexValue_lowerHexDigit (n := n / 256 % 16) (by omega)
  have h₃ := hexValue_lowerHexDigit (n := n / 16 % 16) (by omega)
  have h₄ := hexValue_lowerHexDigit (n := n % 16) (by omega)
  have hsum : ((n / 4096 * 16 + n / 256 % 16) * 16 + n / 16 % 16) * 16 + n % 16 = n := by omega
  simp only [hex4, h₁, h₂, h₃, h₄, Option.bind_eq_bind, Option.bind_some, hsum]

theorem scalar_toNat (c : Char) : scalar c.toNat = some c := by
  rw [scalar, if_pos (show c.toNat.isValidChar from c.valid), Char.ofNat_toNat]

theorem surrogates_toNat (c : Char) (low : Nat) : surrogates c.toNat low = none := by
  rw [surrogates, if_neg]
  intro h
  have hvalid : c.toNat.isValidChar := c.valid
  rcases hvalid with hc | hc
  · omega
  · omega

theorem parseString_hex {a b d e : Char} {c : Char} (h : hex4 a b d e = some c.toNat) (s : Str) :
    parseString ('\\' :: 'u' :: a :: b :: d :: e :: s) =
      (parseString s).map fun r => (c :: r.1, r.2) := by
  have hscalar : (hex4 a b d e).bind scalar = some c := by rw [h, Option.bind_some, scalar_toNat]
  generalize hrest : parseString s = rest
  rw [parseString.eq_def]
  split
  next heq => cases heq
  next heq => simp at heq
  next heq =>
    -- a further escape, which no pair is made with
    cases heq
    have hnone (low : Option Nat) :
        ((hex4 a b d e).bind fun high => low.bind (surrogates high)) = none := by
      cases low with
      | none => rw [h, Option.bind_some, Option.bind_none]
      | some low => rw [h, Option.bind_some, Option.bind_some, surrogates_toNat]
    rw [hnone, hscalar, hrest]
    cases rest <;> rfl
  next heq =>
    cases heq
    rw [hscalar, hrest]
    cases rest <;> rfl
  next hother heq =>
    cases heq
    exact (hother _ _ _ _ _ rfl rfl).elim
  next hother heq =>
    cases heq
    exact (hother _ _ rfl rfl).elim

/-- A pair of escapes is the character outside the basic plane that it stands for. -/
theorem parseString_pair {a b d e a' b' d' e' : Char} {c : Char} {high low : Nat}
    (hhigh : hex4 a b d e = some high) (hlow : hex4 a' b' d' e' = some low)
    (hc : surrogates high low = some c) (s : Str) :
    parseString ('\\' :: 'u' :: a :: b :: d :: e :: '\\' :: 'u' :: a' :: b' :: d' :: e' :: s) =
      (parseString s).map fun r => (c :: r.1, r.2) := by
  rw [parseString, hhigh, hlow]
  simp only [Option.bind_some, hc]

theorem parseString_letter {x c : Char} (h : unescape x = some c) (hu : x ≠ 'u') (s : Str) :
    parseString ('\\' :: x :: s) = (parseString s).map fun r => (c :: r.1, r.2) := by
  generalize hrest : parseString s = rest
  rw [parseString.eq_def]
  split
  next heq => cases heq
  next heq => simp at heq
  next heq =>
    cases heq
    exact absurd rfl hu
  next heq =>
    cases heq
    exact absurd rfl hu
  next heq =>
    cases heq
    rw [h, hrest]
    cases rest <;> rfl
  next hother heq =>
    cases heq
    exact (hother _ _ rfl rfl).elim

theorem parseString_plain {c : Char} (hquote : c ≠ '"') (hslash : c ≠ '\\') (h : 0x20 ≤ c.toNat)
    (s : Str) : parseString (c :: s) = (parseString s).map fun r => (c :: r.1, r.2) := by
  generalize hrest : parseString s = rest
  rw [parseString.eq_def]
  split
  next heq => cases heq
  next heq => exact absurd (List.cons.inj heq).1 hquote
  next heq => exact absurd (List.cons.inj heq).1 hslash
  next heq => exact absurd (List.cons.inj heq).1 hslash
  next heq => exact absurd (List.cons.inj heq).1 hslash
  next heq =>
    cases heq
    rw [if_neg (by omega), hrest]

theorem parseString_escape (c : Char) (s : Str) :
    parseString (escape c ++ s) = (parseString s).map fun r => (c :: r.1, r.2) := by
  have hvalid : c.toNat < 0x110000 := by
    have hc : c.toNat.isValidChar := c.valid
    rcases hc with hc | hc
    · omega
    · omega
  unfold escape
  split_ifs with h₁ h₂ h₃ h₄ h₅ h₆ h₇ h₈ h₉
  · subst h₁
    exact parseString_letter rfl (by decide) s
  · subst h₂
    exact parseString_letter rfl (by decide) s
  · exact parseString_letter (h₃ ▸ rfl) (by decide) s
  · exact parseString_letter (h₄ ▸ rfl) (by decide) s
  · exact parseString_letter (h₅ ▸ rfl) (by decide) s
  · exact parseString_letter (h₆ ▸ rfl) (by decide) s
  · exact parseString_letter (h₇ ▸ rfl) (by decide) s
  · exact parseString_plain h₁ h₂ h₈.1 s
  · exact parseString_hex (hex4_lowerHexDigit h₉) s
  · have hhigh : 0xD800 + (c.toNat - 0x10000) / 0x400 < 0xDC00 := by omega
    have hlow : 0xDC00 + (c.toNat - 0x10000) % 0x400 < 0xE000 := by omega
    refine parseString_pair (hex4_lowerHexDigit (by omega)) (hex4_lowerHexDigit (by omega)) ?_ s
    have hsum : 0x10000 + (0xD800 + (c.toNat - 0x10000) / 0x400 - 0xD800) * 0x400 +
        (0xDC00 + (c.toNat - 0x10000) % 0x400 - 0xDC00) = c.toNat := by omega
    rw [surrogates, if_pos ⟨by omega, hhigh, by omega, hlow⟩, hsum, scalar_toNat]

theorem dumpsString_append (s rest : Str) :
    dumpsString s ++ rest = '"' :: (s.flatMap escape ++ '"' :: rest) := by
  rw [dumpsString, List.cons_append, List.cons_append, List.append_assoc, List.singleton_append]

theorem parseString_escapes (s rest : Str) :
    parseString (s.flatMap escape ++ '"' :: rest) = some (s, rest) := by
  induction s with
  | nil => rw [List.flatMap_nil, List.nil_append, parseString]
  | cons c s ih =>
      rw [List.flatMap_cons, List.append_assoc, parseString_escape, ih, Option.map_some]

/-! ## Values -/

mutual

/-- `json.dumps`. -/
@[grind =]
def dumps : Json → Str
  | .null => "null"
  | .bool b => if b then "true" else "false"
  | .int n => if n < 0 then '-' :: Py.str n.natAbs else Py.str n.natAbs
  | .float literal => literal
  | .str s => dumpsString s
  | .arr items => '[' :: dumpsItems items ++ [']']
  | .obj members => '{' :: dumpsMembers members ++ ['}']

@[grind =]
def dumpsItems : List Json → Str
  | [] => []
  | [item] => dumps item
  | item :: items => dumps item ++ ',' :: ' ' :: dumpsItems items

@[grind =]
def dumpsMembers : List (Str × Json) → Str
  | [] => []
  | [(key, value)] => dumpsString key ++ ':' :: ' ' :: dumps value
  | (key, value) :: members =>
      dumpsString key ++ ':' :: ' ' :: dumps value ++ ',' :: ' ' :: dumpsMembers members

end

/-- A value that holds no others, and is no fraction. -/
def Atomic : Json → Prop
  | .null => True
  | .bool _ => True
  | .int n => 0 ≤ n
  | .str _ => True
  | .float _ => False
  | .arr _ => False
  | .obj _ => False

theorem head?_toDigits_ne {n : Nat} (h : 0 < n) : (Nat.toDigits 10 n).head? ≠ some '0' := by
  induction n using Nat.strong_induction_on with
  | _ n ih =>
      by_cases hlt : n < 10
      · rw [Nat.toDigits_of_lt_base hlt]
        intro heq
        have hall : ∀ m : Fin 10, (m : Nat).digitChar = '0' → (m : Nat) = 0 := by decide
        exact h.ne' (hall ⟨n, hlt⟩ (Option.some.inj heq))
      · rw [Nat.toDigits_of_base_le (by omega) (by omega),
          List.head?_append_of_ne_nil _ Nat.toDigits_ne_nil]
        exact ih (n / 10) (by omega) (by omega)

theorem str_eq_cons (n : Nat) : ∃ d ds, Py.str n = d :: ds ∧ d.isDigit = true := by
  cases hs : Py.str n with
  | nil => exact absurd hs (str_ne_nil _)
  | cons d ds => exact ⟨d, ds, rfl, isDigit_of_mem_str (n := n) (hs ▸ List.mem_cons_self)⟩

theorem integerPart_str (n : Nat) {c : Char} (hdigit : c.isDigit = false) (rest : Str) :
    integerPart (Py.str n ++ c :: rest) = some (Py.str n, c :: rest) := by
  have hall : ∀ d ∈ Py.str n, d.isDigit = true := fun d hd => isDigit_of_mem_str hd
  have hdigits : Py.str n = Nat.toDigits 10 n := by rw [Py.str, Nat.toString_eq_repr, Nat.toList_repr]
  cases n with
  | zero => rfl
  | succ n =>
      have hne := head?_toDigits_ne n.succ_pos
      rw [← hdigits] at hne
      cases hs : Py.str (n + 1) with
      | nil => exact absurd hs (str_ne_nil _)
      | cons d ds =>
          rw [hs] at hne hall
          have hd : d ≠ '0' := fun he => hne (he ▸ rfl)
          have hds : ∀ x ∈ ds, x.isDigit = true := fun x hx => hall x (List.mem_cons_of_mem _ hx)
          rw [List.cons_append, integerPart.eq_def]
          split
          next heq => exact absurd (List.cons.inj heq).1 hd
          next heq =>
            cases heq
            rw [if_pos (hall _ List.mem_cons_self), List.takeWhile_append_of_pos hds,
              List.dropWhile_append_of_pos hds, List.takeWhile_cons_of_neg (by simp [hdigit]),
              List.dropWhile_cons_of_neg (by simp [hdigit]), List.append_nil]
          next heq => cases heq

theorem parseNumber_str (n : Nat) {c : Char} (hdigit : c.isDigit = false)
    (hc : c ∉ ['.', 'e', 'E']) (rest : Str) :
    parseNumber false (Py.str n ++ c :: rest) = some (.int n, c :: rest) := by
  have hdot : fraction (c :: rest) = ([], c :: rest) := by
    rw [fraction.eq_def]
    split
    next heq => exact absurd ((List.cons.inj heq).1 ▸ List.mem_cons_self) hc
    next => rfl
  have hexp : exponent (c :: rest) = ([], c :: rest) := by
    rw [exponent, if_neg]
    rintro ⟨he, -⟩
    rcases he with rfl | rfl
    · exact hc (by decide)
    · exact hc (by decide)
  rw [parseNumber, integerPart_str n hdigit]
  simp only [Option.bind_eq_bind, Option.bind_some, hdot, hexp, List.isEmpty_nil, Bool.and_self,
    if_true, Bool.false_eq_true, if_false, decimal_str]

theorem parseValue_digit {d : Char} (hd : d.isDigit = true) (depth : Nat) (s : Str) :
    parseValue (depth + 1) (d :: s) = parseNumber false (d :: s) := by
  have hne (x : Char) (hx : x.isDigit = false) : d ≠ x := fun he => by
    rw [he, hx] at hd
    cases hd
  have hstart (x : Char) (hx : x.isDigit = false) (p : Str) : startswith (d :: s) (x :: p) = false := by
    rw [startswith, List.isPrefixOf_cons_cons, beq_false_of_ne (hne x hx).symm, Bool.false_and]
  rw [parseValue.eq_def]
  dsimp only
  split
  next heq => exact absurd (List.cons.inj heq).1 (hne _ rfl)
  next heq => exact absurd (List.cons.inj heq).1 (hne _ rfl)
  next heq => exact absurd (List.cons.inj heq).1 (hne _ rfl)
  next =>
    have hwords : ∀ word ∈ (["null", "true", "false", "NaN", "Infinity", "-Infinity"] : List Str),
        startswith (d :: s) word = false := by
      simp only [List.forall_mem_cons]
      exact ⟨hstart 'n' rfl _, hstart 't' rfl _, hstart 'f' rfl _, hstart 'N' rfl _,
        hstart 'I' rfl _, hstart '-' rfl _, fun _ h => absurd h List.not_mem_nil⟩
    simp only [List.forall_mem_cons] at hwords
    obtain ⟨h₁, h₂, h₃, h₄, h₅, h₆, -⟩ := hwords
    rw [parseAtom, h₁, h₂, h₃, h₄, h₅, h₆]
    simp only [Bool.false_eq_true, if_false]
    exact fun t heq => absurd (List.cons.inj heq).1 (hne _ rfl)

/-- A value is read back where what follows is neither a digit nor a part of a fraction. -/
theorem parseValue_dumps {value : Json} (h : value.Atomic) (depth : Nat) {c : Char}
    (hdigit : c.isDigit = false) (hc : c ∉ ['.', 'e', 'E']) (rest : Str) :
    parseValue (depth + 1) (dumps value ++ c :: rest) = some (value, c :: rest) := by
  cases value with
  | null => rfl
  | bool b => cases b <;> rfl
  | int n =>
      have hn : ¬ n < 0 := Int.not_lt.mpr h
      rw [dumps, if_neg hn]
      have hnat : (n.natAbs : Int) = n := Int.natAbs_of_nonneg h
      have hnumber := parseNumber_str n.natAbs hdigit hc rest
      obtain ⟨d, ds, hs, hd⟩ := str_eq_cons n.natAbs
      rw [hs, List.cons_append] at hnumber
      rw [hs, List.cons_append, parseValue_digit hd, hnumber, hnat]
  | str s =>
      rw [dumps, dumpsString_append, parseValue, parseString_escapes, Option.map_some]
  | float literal => exact h.elim
  | arr items => exact h.elim
  | obj members => exact h.elim

theorem skipSpace_colon (s : Str) : skipSpace (':' :: s) = ':' :: s := rfl

theorem skipSpace_comma (s : Str) : skipSpace (',' :: s) = ',' :: s := rfl

theorem skipSpace_brace (s : Str) : skipSpace ('}' :: s) = '}' :: s := rfl

theorem skipSpace_blank (s : Str) : skipSpace (' ' :: s) = skipSpace s := rfl

theorem skipSpace_dumps {value : Json} (h : value.Atomic) (rest : Str) :
    skipSpace (dumps value ++ rest) = dumps value ++ rest := by
  cases value with
  | null => rfl
  | bool b => cases b <;> rfl
  | int n =>
      rw [dumps, if_neg (Int.not_lt.mpr h)]
      obtain ⟨d, ds, hs, hd⟩ := str_eq_cons n.natAbs
      have hspace : isSpace d = false := by
        rw [isSpace, decide_eq_false_iff_not]
        intro hmem
        simp only [List.mem_cons, List.not_mem_nil, or_false] at hmem
        rcases hmem with rfl | rfl | rfl | rfl
        · cases hd
        · cases hd
        · cases hd
        · cases hd
      rw [hs, skipSpace, List.cons_append, List.dropWhile_cons_of_neg (by simp [hspace])]
  | str s => rfl
  | float literal => exact h.elim
  | arr items => exact h.elim
  | obj members => exact h.elim

theorem parseMembers_dumps (depth : Nat) (rest : Str) :
    ∀ (members : List (Str × Json)) (n : Nat), members ≠ [] → members.length ≤ n →
      (∀ kv ∈ members, kv.2.Atomic) →
      parseMembers (parseValue (depth + 1)) n (dumpsMembers members ++ '}' :: rest) =
        some (members, rest)
  | [], _, hne, _, _ => absurd rfl hne
  | _ :: _, 0, _, hn, _ => absurd hn (Nat.not_succ_le_zero _)
  | [(key, value)], n + 1, _, _, h => by
      have hatom : value.Atomic := h (key, value) List.mem_cons_self
      have hvalue := parseValue_dumps hatom depth (c := '}') rfl (by decide) rest
      have hspace := skipSpace_dumps hatom ('}' :: rest)
      rw [dumpsMembers, List.append_assoc, dumpsString_append, parseMembers, parseString_escapes]
      simp only [Option.bind_eq_bind, Option.bind_some, List.cons_append, skipSpace_colon,
        skipSpace_blank, hspace, hvalue, skipSpace_brace]
  | (key, value) :: kv :: members, n + 1, _, hn, h => by
      have hatom : value.Atomic := h (key, value) List.mem_cons_self
      have hvalue := parseValue_dumps hatom depth (c := ',') rfl (by decide)
        (' ' :: (dumpsMembers (kv :: members) ++ '}' :: rest))
      have hspace := skipSpace_dumps hatom (',' :: ' ' :: (dumpsMembers (kv :: members) ++ '}' :: rest))
      have hmembers : skipSpace (dumpsMembers (kv :: members) ++ '}' :: rest) =
          dumpsMembers (kv :: members) ++ '}' :: rest := by
        cases members with
        | nil => rfl
        | cons kv' members => rfl
      have ih := parseMembers_dumps depth rest (kv :: members) n (by simp)
        (Nat.le_of_succ_le_succ hn) fun x hx => h x (List.mem_cons_of_mem _ hx)
      rw [dumpsMembers, List.append_assoc, List.append_assoc, dumpsString_append, parseMembers,
        parseString_escapes]
      simp only [Option.bind_eq_bind, Option.bind_some, List.cons_append, skipSpace_colon,
        skipSpace_blank, hspace, hvalue, skipSpace_comma, hmembers, ih]
      exact List.cons_ne_nil _ _

theorem length_le_dumpsMembers : ∀ members : List (Str × Json),
    members.length ≤ (dumpsMembers members).length
  | [] => Nat.le_refl _
  | [(key, value)] => by simp [dumpsMembers, dumpsString]
  | (key, value) :: kv :: members => by
      have ih := length_le_dumpsMembers (kv :: members)
      simp only [dumpsMembers, List.length_append, List.length_cons] at ih ⊢
      omega

theorem parseValue_brace (depth : Nat) (s : Str) :
    parseValue (depth + 1) ('{' :: '"' :: s) =
      (parseMembers (parseValue depth) ('"' :: s : Str).length ('"' :: s)).map
        fun r => (.obj r.1, r.2) := rfl

theorem parseValue_dumps_obj {members : List (Str × Json)} (h : ∀ kv ∈ members, kv.2.Atomic)
    (depth : Nat) (rest : Str) :
    parseValue (depth + 2) (dumps (.obj members) ++ rest) = some (.obj members, rest) := by
  match members with
  | [] => rfl
  | (key, value) :: members =>
      have hquote : ∃ s, dumpsMembers ((key, value) :: members) = '"' :: s := by
        cases members with
        | nil => exact ⟨_, rfl⟩
        | cons kv members => exact ⟨_, rfl⟩
      obtain ⟨s, hs⟩ := hquote
      have hle := length_le_dumpsMembers ((key, value) :: members)
      have hlength : ((key, value) :: members).length ≤ ('"' :: (s ++ '}' :: rest) : Str).length := by
        rw [hs] at hle
        simp only [List.length_cons, List.length_append] at hle ⊢
        omega
      have hmembers := parseMembers_dumps depth rest _ _ (List.cons_ne_nil _ _) hlength h
      rw [hs, List.cons_append] at hmembers
      rw [dumps, hs, List.cons_append, List.cons_append, List.append_assoc, List.cons_append,
        List.singleton_append, parseValue_brace, hmembers]
      rfl

theorem dumps_obj_append_inj {members members' : List (Str × Json)} {rest rest' : Str}
    (h : ∀ kv ∈ members, kv.2.Atomic) (h' : ∀ kv ∈ members', kv.2.Atomic)
    (heq : dumps (.obj members) ++ rest = dumps (.obj members') ++ rest') :
    members = members' ∧ rest = rest' := by
  have hread := parseValue_dumps_obj h 0 rest
  rw [heq, parseValue_dumps_obj h' 0 rest'] at hread
  cases hread
  exact ⟨rfl, rfl⟩

theorem flatMap_dumps_obj_inj : ∀ {xs ys : List (List (Str × Json))},
    (∀ x ∈ xs, ∀ kv ∈ x, kv.2.Atomic) → (∀ y ∈ ys, ∀ kv ∈ y, kv.2.Atomic) →
      (xs.flatMap fun x => dumps (.obj x)) = (ys.flatMap fun y => dumps (.obj y)) → xs = ys
  | [], [], _, _, _ => rfl
  | [], y :: ys, _, _, h => by simp [dumps] at h
  | x :: xs, [], _, _, h => by simp [dumps] at h
  | x :: xs, y :: ys, hx, hy, h => by
      rw [List.flatMap_cons, List.flatMap_cons] at h
      obtain ⟨hhead, htail⟩ := dumps_obj_append_inj (hx x List.mem_cons_self)
        (hy y List.mem_cons_self) h
      rw [hhead, flatMap_dumps_obj_inj (fun z hz => hx z (List.mem_cons_of_mem _ hz))
        (fun z hz => hy z (List.mem_cons_of_mem _ hz)) htail]

theorem loads_dumps_obj {members : List (Str × Json)} (hne : members ≠ [])
    (h : ∀ kv ∈ members, kv.2.Atomic) : loads (dumps (.obj members)) = some (.obj members) := by
  have hquote : ∃ s, dumpsMembers members ++ ['}'] = '"' :: s := by
    match members with
    | [] => exact absurd rfl hne
    | [kv] => exact ⟨_, rfl⟩
    | kv :: kv' :: members => exact ⟨_, rfl⟩
  obtain ⟨s, hs⟩ := hquote
  have hlength : members.length ≤ ('"' :: s : Str).length := by
    have hle := length_le_dumpsMembers members
    rw [← hs, List.length_append]
    omega
  have hmembers := parseMembers_dumps (s.length + 1) [] members _ hne hlength h
  rw [hs] at hmembers
  have hbrace := parseValue_brace (s.length + 1 + 1) s
  rw [hmembers, Option.map_some] at hbrace
  rw [loads, dumps, List.cons_append, hs]
  show (parseValue (s.length + 1 + 1 + 1) ('{' :: '"' :: s)).bind _ = _
  rw [hbrace]
  rfl

end Json

end Py
