import DataWorkspace.Py.Quote

/-!
# Dot segments

A path is a sequence of segments, and the segments `.` and `..` stand for the
current and for the parent directory.  `removeDotSegments` resolves them as RFC 3986
does, with a stack: `.` is dropped, `..` takes the segment before it, and either at
the end leaves a trailing slash.

Resolving looks at nothing but whether a segment is a dot segment, so it commutes
with percent-encoding (`removeDotSegments_quote`), and it leaves a path without dot
segments alone (`resolve_of_no_dots`).
-/

namespace Http

open Py

/-- The segments of a path behind its first slash. -/
def segments (t : Str) : List Str := t.splitOn '/'

/-- A path behind its first slash, of its segments. -/
def joinSegments (segs : List Str) : Str := List.intercalate ['/'] segs

/-- Resolve dot segments, with the segments kept so far, newest first. -/
def resolve (stack : List Str) : List Str → List Str
  | [] => stack.reverse
  | s :: rest =>
      if s = ['.'] then if rest = [] then ([] :: stack).reverse else resolve stack rest
      else if s = ['.', '.'] then
        if rest = [] then ([] :: stack.tail).reverse else resolve stack.tail rest
      else resolve (s :: stack) rest

/-- The path without its dot segments. -/
def removeDotSegments : Str → Str
  | '/' :: t => '/' :: joinSegments (resolve [] (segments t))
  | p => p

example : removeDotSegments "/a/b/./../../g" = "/g" ∧ removeDotSegments "/a/.." = "/" := by decide

/-- A dot segment. -/
def isDot (s : Str) : Bool := s == ['.'] || s == ['.', '.']

theorem resolve_of_no_dots : ∀ {segs : List Str} (stack : List Str),
    (∀ s ∈ segs, isDot s = false) → resolve stack segs = stack.reverse ++ segs
  | [], stack, _ => by simp [resolve]
  | s :: rest, stack, h => by
      have hs := h s (List.mem_cons_self ..)
      simp only [isDot, Bool.or_eq_false_iff, beq_eq_false_iff_ne, ne_eq] at hs
      rw [resolve, if_neg hs.1, if_neg hs.2,
        resolve_of_no_dots (s :: stack) fun x hx => h x (List.mem_cons_of_mem _ hx)]
      simp

theorem resolve_ne_nil : ∀ {segs : List Str} (stack : List Str), segs ≠ [] →
    resolve stack segs ≠ []
  | [], _, h => absurd rfl h
  | [s], stack, _ => by
      unfold resolve
      split
      · simp
      · split
        · simp
        · simp [resolve]
  | s :: s' :: rest, stack, _ => by
      have hne : s' :: rest ≠ [] := List.cons_ne_nil _ _
      rw [resolve, if_neg hne, if_neg hne]
      split
      · exact resolve_ne_nil stack hne
      · split
        · exact resolve_ne_nil stack.tail hne
        · exact resolve_ne_nil (s :: stack) hne

theorem mem_resolve {x : Str} : ∀ {segs : List Str} (stack : List Str),
    x ∈ resolve stack segs → x = [] ∨ x ∈ stack ∨ x ∈ segs
  | [], stack, h => .inr (.inl (by simpa [resolve] using h))
  | s :: rest, stack, h => by
      have htail : ∀ {y}, y ∈ stack.tail → y ∈ stack := fun hy => List.mem_of_mem_tail hy
      unfold resolve at h
      split at h
      · split at h
        · simp only [List.reverse_cons, List.mem_append, List.mem_reverse, List.mem_singleton] at h
          exact h.elim (fun h => .inr (.inl h)) .inl
        · rcases mem_resolve stack h with h | h | h
          · exact .inl h
          · exact .inr (.inl h)
          · exact .inr (.inr (List.mem_cons_of_mem _ h))
      · split at h
        · split at h
          · simp only [List.reverse_cons, List.mem_append, List.mem_reverse, List.mem_singleton] at h
            exact h.elim (fun h => .inr (.inl (htail h))) .inl
          · rcases mem_resolve stack.tail h with h | h | h
            · exact .inl h
            · exact .inr (.inl (htail h))
            · exact .inr (.inr (List.mem_cons_of_mem _ h))
        · rcases mem_resolve (s :: stack) h with h | h | h
          · exact .inl h
          · rcases List.mem_cons.mp h with rfl | h
            · exact .inr (.inr (List.mem_cons_self ..))
            · exact .inr (.inl h)
          · exact .inr (.inr (List.mem_cons_of_mem _ h))

/-- Resolving commutes with a map that keeps the empty segment and tells which
segments are dot segments. -/
theorem resolve_map {f : Str → Str} (hnil : f [] = []) (hdot : ∀ s, f s = ['.'] ↔ s = ['.'])
    (hdots : ∀ s, f s = ['.', '.'] ↔ s = ['.', '.']) : ∀ (segs stack : List Str),
    resolve (stack.map f) (segs.map f) = (resolve stack segs).map f
  | [], stack => by simp [resolve]
  | s :: rest, stack => by
      have ih := resolve_map hnil hdot hdots rest
      have hrest : rest.map f = [] ↔ rest = [] := List.map_eq_nil_iff
      simp only [List.map_cons, resolve, hdot, hdots, hrest, ← List.map_tail]
      split
      · split
        · simp [hnil]
        · exact ih stack
      · split
        · split
          · simp [hnil]
          · exact ih stack.tail
        · exact ih (s :: stack)

/-! ## Segments and percent-encoding -/

section Quote

variable {safe : Str}

/-- The encoding of one character. -/
def quoteChar (safe : Str) (c : Char) : Str := (encodeChar c).flatMap (quoteByte safe)

theorem quote_eq_flatMap (safe s : Str) : quote safe s = s.flatMap (quoteChar safe) := by
  simp only [quote, encode, List.flatMap_assoc]
  rfl

theorem quote_append (safe s t : Str) : quote safe (s ++ t) = quote safe s ++ quote safe t := by
  simp [quote_eq_flatMap]

theorem quoteChar_of_safe {c : Char} (hc : c.toNat < 0x80) (hs : alwaysSafe c = true ∨ c ∈ safe) :
    quoteChar safe c = [c] := by
  have hofNat : Char.ofNat c.toNat = c := Char.ofNat_toNat c
  simp [quoteChar, encodeChar_ascii hc, quoteByte, hc, hofNat, hs]

theorem encodeChar_mem_lt {c : Char} {b : Nat} (hb : b ∈ encodeChar c) (h : b < 0x80) :
    b = c.toNat := by
  unfold encodeChar at hb
  simp only at hb
  split at hb
  · simpa using hb
  · split at hb
    · simp only [List.mem_cons, List.not_mem_nil, or_false] at hb
      omega
    · split at hb <;>
        · simp only [List.mem_cons, List.not_mem_nil, or_false] at hb
          omega

theorem slash_not_mem_quoteChar {c : Char} (hc : c ≠ '/') : '/' ∉ quoteChar safe c := by
  intro hmem
  obtain ⟨b, hb, hslash⟩ := List.mem_flatMap.mp hmem
  have hlt := encodeChar_lt c b hb
  have hdigit : ∀ n : Fin 16, '/' ≠ hexDigit n := by decide
  unfold quoteByte at hslash
  split at hslash
  next h =>
    obtain rfl := encodeChar_mem_lt hb h.1
    rw [List.mem_singleton, Char.ofNat_toNat] at hslash
    exact hc hslash.symm
  next =>
    simp only [List.mem_cons, List.not_mem_nil, or_false] at hslash
    rcases hslash with h | h | h
    · exact absurd h (by decide)
    · exact hdigit ⟨b / 16, by omega⟩ h
    · exact hdigit ⟨b % 16, by omega⟩ h

theorem slash_not_mem_quote {s : Str} (hs : '/' ∉ s) : '/' ∉ quote safe s := by
  rw [quote_eq_flatMap, List.mem_flatMap]
  rintro ⟨c, hc, hslash⟩
  exact slash_not_mem_quoteChar (fun he => hs (he ▸ hc)) hslash

theorem quote_slash (hslash : '/' ∈ safe) (t : Str) : quote safe ('/' :: t) = '/' :: quote safe t := by
  rw [quote_eq_flatMap, List.flatMap_cons, quoteChar_of_safe (by decide) (.inr hslash),
    quote_eq_flatMap]
  rfl

theorem quote_joinSegments (hslash : '/' ∈ safe) : ∀ segs : List Str,
    quote safe (joinSegments segs) = joinSegments (segs.map (quote safe))
  | [] => rfl
  | [s] => by simp [joinSegments]
  | s :: s' :: rest => by
      have ih := quote_joinSegments hslash (s' :: rest)
      simp only [joinSegments, List.map_cons] at ih ⊢
      rw [List.intercalate_cons_cons, List.intercalate_cons_cons, quote_append, quote_append, ih,
        quote_slash hslash]
      rfl

theorem slash_not_mem_segments {t s : Str} (h : s ∈ segments t) : '/' ∉ s := by
  induction t generalizing s with
  | nil =>
      simp only [segments, List.splitOn_nil, List.mem_singleton] at h
      simp [h]
  | cons c t ih =>
      simp only [segments] at h ih
      rw [List.splitOn_cons_eq_if_modifyHead] at h
      split at h
      next =>
        rcases List.mem_cons.mp h with rfl | h
        · simp
        · exact ih h
      next hc =>
        cases hsplit : t.splitOn '/' with
        | nil => exact absurd hsplit (List.splitOn_ne_nil _ _)
        | cons s₀ rest =>
            rw [hsplit, List.modifyHead_cons] at h
            rcases List.mem_cons.mp h with rfl | h
            · have h₀ := ih (hsplit ▸ List.mem_cons_self ..)
              simp only [List.mem_cons, not_or]
              exact ⟨fun he => hc (by simp [he.symm]), h₀⟩
            · exact ih (hsplit ▸ List.mem_cons_of_mem _ h)

theorem segments_ne_nil (t : Str) : segments t ≠ [] := List.splitOn_ne_nil _ _

theorem joinSegments_segments (t : Str) : joinSegments (segments t) = t := List.intercalate_splitOn _

theorem segments_joinSegments {segs : List Str} (h : ∀ s ∈ segs, '/' ∉ s) (hne : segs ≠ []) :
    segments (joinSegments segs) = segs :=
  List.splitOn_intercalate _ h hne

theorem segments_quote (hslash : '/' ∈ safe) (t : Str) :
    segments (quote safe t) = (segments t).map (quote safe) := by
  conv_lhs => rw [← joinSegments_segments t, quote_joinSegments hslash]
  refine segments_joinSegments ?_ ?_
  · intro s hs
    obtain ⟨s', hs', rfl⟩ := List.mem_map.mp hs
    exact slash_not_mem_quote (slash_not_mem_segments hs')
  · simp [segments, List.splitOn_ne_nil]

theorem quote_injective (hs : '%' ∉ safe) {s t : Str} (h : quote safe s = quote safe t) : s = t := by
  rw [← unquote_quote hs s, h, unquote_quote hs]

theorem quote_dot (safe : Str) : quote safe ['.'] = ['.'] := by
  rw [quote_eq_flatMap, List.flatMap_cons, quoteChar_of_safe (by decide) (.inl (by decide))]
  rfl

theorem quote_dots (safe : Str) : quote safe ['.', '.'] = ['.', '.'] := by
  have h := quote_append safe ['.'] ['.']
  rw [quote_dot] at h
  exact h

theorem quote_eq_dot_iff (hs : '%' ∉ safe) (s : Str) : quote safe s = ['.'] ↔ s = ['.'] := by
  constructor
  · intro h
    exact quote_injective hs (h.trans (quote_dot safe).symm)
  · rintro rfl
    exact quote_dot safe

theorem quote_eq_dots_iff (hs : '%' ∉ safe) (s : Str) :
    quote safe s = ['.', '.'] ↔ s = ['.', '.'] := by
  constructor
  · intro h
    exact quote_injective hs (h.trans (quote_dots safe).symm)
  · rintro rfl
    exact quote_dots safe

theorem removeDotSegments_quote (hslash : '/' ∈ safe) (hs : '%' ∉ safe) (t : Str) :
    removeDotSegments (quote safe ('/' :: t)) = quote safe (removeDotSegments ('/' :: t)) := by
  have hmap := resolve_map (f := quote safe) rfl (quote_eq_dot_iff hs) (quote_eq_dots_iff hs)
    (segments t) []
  rw [quote_slash hslash, removeDotSegments, removeDotSegments, quote_slash hslash,
    segments_quote hslash, quote_joinSegments hslash, ← hmap]
  rfl

end Quote

theorem segments_inj {t t' : Str} : segments t = segments t' ↔ t = t' := by
  constructor
  · intro h
    rw [← joinSegments_segments t, h, joinSegments_segments]
  · rintro rfl
    rfl

/-- The segments lie below those of a directory. -/
def under (root segs : List Str) : Bool := root.isPrefixOf segs && root.length < segs.length

theorem under_iff {root segs : List Str} :
    under root segs = true ↔ ∃ rest, rest ≠ [] ∧ segs = root ++ rest := by
  unfold under
  simp only [Bool.and_eq_true, List.isPrefixOf_iff_prefix, decide_eq_true_eq]
  constructor
  · rintro ⟨⟨rest, rfl⟩, hlen⟩
    refine ⟨rest, ?_, rfl⟩
    rintro rfl
    simp at hlen
  · rintro ⟨rest, hrest, rfl⟩
    have hpos := List.length_pos_iff.mpr hrest
    exact ⟨List.prefix_append _ _, by rw [List.length_append]; omega⟩

/-- A path starts with a directory and its slash when its segments lie below those of
the directory. -/
theorem startswith_slash (root t : Str) :
    startswith t (root ++ ['/']) = under (segments root) (segments t) := by
  rw [Bool.eq_iff_iff, startswith_iff, under_iff]
  constructor
  · rintro ⟨t', rfl⟩
    refine ⟨segments t', segments_ne_nil t', ?_⟩
    rw [List.append_assoc]
    exact List.splitOn_append_cons_self root t'
  · rintro ⟨rest, hrest, h⟩
    have ht : t = root ++ ['/'] ++ joinSegments rest := by
      rw [← joinSegments_segments t, h, joinSegments, intercalate_append (segments_ne_nil _) hrest]
      congr 2
      exact joinSegments_segments root
    exact ⟨joinSegments rest, ht.symm⟩

theorem segments_resolved (t : Str) :
    segments (joinSegments (resolve [] (segments t))) = resolve [] (segments t) := by
  refine segments_joinSegments ?_ (resolve_ne_nil [] (List.splitOn_ne_nil _ _))
  intro s hs
  rcases mem_resolve [] hs with rfl | h | h
  · simp
  · cases h
  · exact slash_not_mem_segments h

end Http
