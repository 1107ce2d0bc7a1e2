import DataWorkspace.Py.Text

/-!
# Replacement templates

The text that `re.sub` is given to replace matches by is a template: a backslash in it begins
an escape.  Some of these stand for a character, some for a group of the match, and some raise.
The pattern has one group.
-/

namespace Py

namespace Re

inductive TemplatePart where
  | char (c : Char)
  | group (index : Nat)
deriving DecidableEq

/-- `\a`, `\b`, `\f`, `\n`, `\r`, `\t`, `\v` and `\\`. -/
def ESCAPES : List (Char × Char) :=
  [('a', '\x07'), ('b', '\x08'), ('f', '\x0c'), ('n', '\n'), ('r', '\r'), ('t', '\t'),
    ('v', '\x0b'), ('\\', '\\')]

def isOctal (c : Char) : Bool := '0' ≤ c && c ≤ '7'

def octal (s : Str) : Nat := s.foldl (fun n c => 8 * n + (c.toNat - '0'.toNat)) 0

/-- A reference to a group that the pattern has. -/
def groupPart (index : Nat) : Option TemplatePart := if index ≤ 1 then some (.group index) else none

/-- `\g<…>` behind the `g`: the part, and how long it is.  The group has no name. -/
def namedGroup : Str → Option (TemplatePart × Nat)
  | [] => none
  | c :: s =>
      if c = '<' ∧ '>' ∈ s then
        let name := s.takeWhile (· ≠ '>')
        match int? name with
        | some (.ofNat index) => (groupPart index).map fun part => (part, name.length + 2)
        | _ => none
      else none

/-- What begins with a digit: the digits of a character or of a group. -/
def numbered (c : Char) (s : Str) : Option (TemplatePart × Nat) :=
  if c = '0' then
    let digits := (s.take 2).takeWhile isOctal
    some (.char (Char.ofNat (octal digits % 256)), digits.length + 1)
  else
    match s.takeWhile Char.isDigit with
    | [] => (groupPart (decimal [c])).map fun part => (part, 1)
    | d :: digits =>
        match digits with
        | e :: _ =>
            if isOctal c ∧ isOctal d ∧ isOctal e then
              if octal [c, d, e] ≤ 255 then some (.char (Char.ofNat (octal [c, d, e])), 3) else none
            else (groupPart (decimal [c, d])).map fun part => (part, 2)
        | [] => (groupPart (decimal [c, d])).map fun part => (part, 2)

theorem numbered_pos {c : Char} {s : Str} {r : TemplatePart × Nat} (h : numbered c s = some r) :
    1 ≤ r.2 := by
  rw [numbered] at h
  split at h
  next =>
    cases h
    exact Nat.le_add_left ..
  next =>
    have hgroup {index n : Nat} (hn : 1 ≤ n)
        (hr : (groupPart index).map (fun part => (part, n)) = some r) : 1 ≤ r.2 := by
      obtain ⟨part, -, rfl⟩ := Option.map_eq_some_iff.mp hr
      exact hn
    split at h
    next => exact hgroup (le_refl _) h
    next =>
      split at h
      next =>
        split at h
        next =>
          split at h
          next =>
            cases h
            exact Nat.le_add_left ..
          next => cases h
        next => exact hgroup (by omega) h
      next => exact hgroup (by omega) h

/-- What a backslash and the text behind it stand for, and how much of that text belongs to it,
or `none` where it raises.  Behind another character the backslash stays. -/
def escape : Str → Option (List TemplatePart × Nat)
  | [] => none
  | c :: s =>
      if c = 'g' then (namedGroup s).map fun r => ([r.1], r.2 + 1)
      else if c.isDigit then (numbered c s).map fun r => ([r.1], r.2)
      else match ESCAPES.lookup c with
        | some d => some ([.char d], 1)
        | none => if c.isAlpha then none else some ([.char '\\', .char c], 1)

/-- Read a template, of which the first `skip` characters belong to an escape. -/
def parseFrom : Nat → Str → Option (List TemplatePart)
  | _, [] => some []
  | skip + 1, _ :: s => parseFrom skip s
  | 0, c :: s =>
      if c = '\\' then do
        let (parts, skip) ← escape s
        let rest ← parseFrom skip s
        some (parts ++ rest)
      else do
        let rest ← parseFrom 0 s
        some (.char c :: rest)

/-- `sre_parse.parse_template`. -/
def parse_template (repl : Str) : Option (List TemplatePart) := parseFrom 0 repl

/-- What a template stands for, from the groups of a match. -/
def expand (group : Nat → Str) (template : List TemplatePart) : Str :=
  template.flatMap fun
    | .char c => [c]
    | .group index => group index

/-- The template of a text is the text. -/
def Literal (repl : Str) : Prop := parse_template repl = some (repl.map .char)

theorem expand_map_char (group : Nat → Str) : ∀ s : Str, expand group (s.map .char) = s
  | [] => rfl
  | c :: s => congrArg (c :: ·) (expand_map_char group s)

/-- The text begins with a character that is no letter, digit or backslash. -/
def beginsPlain : Str → Bool
  | [] => false
  | c :: _ => c != '\\' && !c.isAlphanum

/-- No backslash begins an escape. -/
def Unescaped : Str → Prop
  | [] => True
  | c :: s => (c = '\\' → beginsPlain s = true) ∧ Unescaped s

instance decidableUnescaped : ∀ s, Decidable (Unescaped s)
  | [] => .isTrue trivial
  | c :: s =>
      have := decidableUnescaped s
      inferInstanceAs (Decidable ((c = '\\' → beginsPlain s = true) ∧ Unescaped s))

section Literal

/-- What is known of the escapes: one part for the text that belongs to them, or the backslash
and the character behind it. -/
theorem escape_eq_some {s : Str} {parts : List TemplatePart} {skip : Nat}
    (h : escape s = some (parts, skip)) :
    1 ≤ skip ∧ ((∃ part, parts = [part]) ∨
      ∃ d t, s = d :: t ∧ d ≠ '\\' ∧ d.isAlphanum = false ∧ parts = [.char '\\', .char d] ∧
        skip = 1) := by
  cases s with
  | nil => cases h
  | cons c s =>
      rw [escape] at h
      split at h
      next =>
        obtain ⟨r, -, hr⟩ := Option.map_eq_some_iff.mp h
        cases hr
        exact ⟨by omega, Or.inl ⟨_, rfl⟩⟩
      next =>
        split at h
        next =>
          obtain ⟨r, hr, heq⟩ := Option.map_eq_some_iff.mp h
          cases heq
          exact ⟨numbered_pos hr, Or.inl ⟨_, rfl⟩⟩
        next hdigit =>
          split at h
          next =>
            cases h
            exact ⟨le_refl _, Or.inl ⟨_, rfl⟩⟩
          next hlookup =>
            split at h
            next => cases h
            next halpha =>
              cases h
              refine ⟨le_refl _, Or.inr ⟨c, s, rfl, ?_, ?_, rfl, rfl⟩⟩
              · rintro rfl
                cases hlookup
              · rw [Char.isAlphanum]
                simp [hdigit, halpha]

theorem escape_of_plain {d : Char} {t : Str} (hslash : d ≠ '\\') (hd : d.isAlphanum = false) :
    escape (d :: t) = some ([.char '\\', .char d], 1) := by
  rw [Char.isAlphanum, Bool.or_eq_false_iff] at hd
  have hg : d ≠ 'g' := by
    rintro rfl
    cases hd.1
  have hlookup : ESCAPES.lookup d = none := by
    have hall : ESCAPES.all (fun e => e.1.isAlphanum || e.1 == '\\') = true := rfl
    rw [List.lookup_eq_none_iff]
    intro e he
    have hkey := List.all_eq_true.mp hall e he
    rw [bne_iff_ne]
    rintro rfl
    rw [Char.isAlphanum, hd.1, hd.2, Bool.false_or, Bool.false_or, beq_iff_eq] at hkey
    exact hslash hkey
  rw [escape, if_neg hg, hd.2, if_neg Bool.false_ne_true, hlookup, hd.1]
  rfl

theorem length_parseFrom_le : ∀ {skip : Nat} {s : Str} {parts : List TemplatePart},
    parseFrom skip s = some parts → parts.length ≤ s.length - skip
  | _, [], parts, h => by
      rw [parseFrom] at h
      cases h
      exact Nat.zero_le _
  | skip + 1, c :: s, parts, h => by
      rw [parseFrom] at h
      have := length_parseFrom_le h
      rw [List.length_cons]
      omega
  | 0, c :: s, parts, h => by
      rw [parseFrom] at h
      split at h
      next =>
        simp only [Option.bind_eq_bind, Option.bind_eq_some_iff, Option.some.injEq] at h
        obtain ⟨⟨first, skip⟩, hescape, rest, hrest, rfl⟩ := h
        have hle := length_parseFrom_le hrest
        obtain ⟨hskip, ⟨part, rfl⟩ | ⟨d, t, rfl, -, -, rfl, rfl⟩⟩ := escape_eq_some hescape
        · simp only [List.length_append, List.length_cons, List.length_nil]
          omega
        · simp only [List.length_append, List.length_cons, List.length_nil] at hle ⊢
          omega
      next =>
        simp only [Option.bind_eq_bind, Option.bind_eq_some_iff, Option.some.injEq] at h
        obtain ⟨rest, hrest, rfl⟩ := h
        have := length_parseFrom_le hrest
        simp only [List.length_cons]
        omega

theorem literal_cons {c : Char} {s : Str} (h : c ≠ '\\') : Literal (c :: s) ↔ Literal s := by
  rw [Literal, Literal, parse_template, parse_template, parseFrom, if_neg h]
  cases parseFrom 0 s <;> simp

theorem literal_iff : ∀ {s : Str}, Literal s ↔ Unescaped s
  | [] => by simp [Literal, Unescaped, parse_template, parseFrom]
  | c :: s => by
      rw [Unescaped, ← literal_iff]
      by_cases hc : c = '\\'
      · subst hc
        rw [Literal, parse_template, parseFrom, if_pos rfl]
        constructor
        · intro h
          simp only [Option.bind_eq_bind, Option.bind_eq_some_iff, Option.some.injEq] at h
          obtain ⟨⟨first, skip⟩, hescape, rest, hrest, h⟩ := h
          obtain ⟨hskip, ⟨part, rfl⟩ | ⟨d, t, rfl, hslash, hd, rfl, rfl⟩⟩ := escape_eq_some hescape
          · -- one part for two characters or more
            rw [List.map_cons, List.singleton_append, List.cons.injEq] at h
            have hle := length_parseFrom_le hrest
            rw [h.2, List.length_map] at hle
            have hnil : s = [] := List.eq_nil_of_length_eq_zero (by omega)
            rw [hnil] at hescape
            cases hescape
          · have ht : Literal t := by
              rw [parseFrom] at hrest
              simp only [List.map_cons, List.cons_append, List.nil_append, List.cons.injEq] at h
              rw [Literal, parse_template, hrest, h.2.2]
            exact ⟨fun _ => by simp [beginsPlain, hslash, hd], (literal_cons hslash).mpr ht⟩
        · rintro ⟨h, hs⟩
          obtain ⟨d, t, rfl, hslash, hd⟩ : ∃ d t, s = d :: t ∧ d ≠ '\\' ∧ d.isAlphanum = false := by
            have hplain := h rfl
            cases s with
            | nil => cases hplain
            | cons d t =>
                rw [beginsPlain, Bool.and_eq_true, bne_iff_ne, Bool.not_eq_true'] at hplain
                exact ⟨d, t, rfl, hplain⟩
          have ht : parseFrom 0 t = some (t.map .char) := (literal_cons hslash).mp hs
          rw [escape_of_plain hslash hd]
          simp [parseFrom, ht]
      · rw [literal_cons hc]
        exact (and_iff_right fun h => absurd h hc).symm

end Literal

example : parse_template "a\\n\\1\\g<0>\\." =
    some [.char 'a', .char '\n', .group 1, .group 0, .char '\\', .char '.'] := by decide

example : parse_template "\\d" = none ∧ parse_template "C:\\" = none := by decide

end Re

end Py
