import Mathlib
import DataWorkspace.Explorer.Placeholders

/-!
# The SQL that a query is run with

`final_sql_eq` says when `final_sql` is what the query should become.

What begins a placeholder of the query begins one of the query in lower case, and the other way
round (`findall_lower`), so the dictionary has a name and a value for every placeholder.  A
pattern for a name matches every placeholder of that name.  Where no match of it begins in
another place, a step of `swap_params` replaces just these (`swap_param_eq`).
-/

namespace Explorer

namespace Substitution

open Py Re

/-! ## Placeholders as texts -/

/-- A placeholder with a name of the class. -/
structure Placeholder.Valid (cls : Char → Bool) (p : Placeholder) : Prop where
  name_ne_nil : p.name ≠ []
  name : ∀ c ∈ p.name, cls c = true
  default : ∀ d, p.default = some d → d ≠ [] ∧ '$' ∉ d

theorem takeWhile_append_cons {α : Type} {f : α → Bool} {a : List α} {c : α} (b : List α)
    (ha : ∀ x ∈ a, f x = true) (hc : f c = false) : (a ++ c :: b).takeWhile f = a := by
  rw [List.takeWhile_append_of_pos ha, List.takeWhile_cons, hc]
  simp

theorem dropWhile_append_cons {α : Type} {f : α → Bool} {a : List α} {c : α} (b : List α)
    (ha : ∀ x ∈ a, f x = true) (hc : f c = false) : (a ++ c :: b).dropWhile f = c :: b := by
  rw [List.dropWhile_append_of_pos ha, List.dropWhile_cons, hc]
  simp

theorem closing_ending {default : Option Str} (h : ∀ d, default = some d → d ≠ [] ∧ '$' ∉ d)
    (rest : Str) : closing (Placeholder.ending default ++ rest) = some default := by
  cases default with
  | none => rfl
  | some d =>
      obtain ⟨hne, hd⟩ := h d rfl
      have hall : ∀ c ∈ d, decide (c ≠ '$') = true := fun c hc => by
        simpa using ne_of_mem_of_not_mem hc hd
      have htext : Placeholder.ending (some d) ++ rest = ':' :: (d ++ '$' :: '$' :: rest) := by
        simp [Placeholder.ending]
      rw [htext, closing, if_neg (by decide), if_pos rfl]
      rw [takeWhile_append_cons _ hall (by decide), dropWhile_append_cons _ hall (by decide)]
      rw [if_pos ⟨hne, List.prefix_append ['$', '$'] rest⟩]

theorem valid_of_closing {s : Str} {default : Option Str} (h : closing s = some default) :
    ∀ d, default = some d → d ≠ [] ∧ '$' ∉ d := by
  rintro d rfl
  cases s with
  | nil => cases h
  | cons c s =>
      rw [closing] at h
      split at h
      next => split at h <;> cases h
      next =>
        split at h
        next =>
          simp only at h
          split at h
          next hs =>
            cases h
            refine ⟨hs.1, fun hmem => ?_⟩
            have := List.mem_takeWhile_imp hmem
            simp at this
          next => cases h
        next => cases h

theorem readPlaceholder_text {readName : Str → Option Str} {p : Placeholder} {rest : Str}
    (hname : readName (p.name ++ (Placeholder.ending p.default ++ rest)) = some p.name)
    (hdefault : ∀ d, p.default = some d → d ≠ [] ∧ '$' ∉ d) :
    readPlaceholder readName (p.text ++ rest) = some p := by
  have htext : p.text ++ rest =
      ['$', '$'] ++ (p.name ++ (Placeholder.ending p.default ++ rest)) := by
    simp [Placeholder.text]
  rw [htext, readPlaceholder, if_pos (List.prefix_append _ _)]
  have hdrop : (['$', '$'] ++ (p.name ++ (Placeholder.ending p.default ++ rest))).drop 2 =
      p.name ++ (Placeholder.ending p.default ++ rest) := rfl
  rw [hdrop, hname]
  simp only [Option.bind_eq_bind, Option.bind_some]
  rw [List.drop_left, closing_ending hdefault]
  rfl

theorem of_readPlaceholder {readName : Str → Option Str} {s : Str} {p : Placeholder}
    (h : readPlaceholder readName s = some p) :
    ∃ t, s = '$' :: '$' :: t ∧ readName t = some p.name ∧
      ∀ d, p.default = some d → d ≠ [] ∧ '$' ∉ d := by
  rw [readPlaceholder] at h
  split at h
  next hs =>
    obtain ⟨t, rfl⟩ := hs
    simp only [Option.bind_eq_bind, Option.bind_eq_some_iff, Option.some.injEq] at h
    obtain ⟨name, hread, default, hclosing, rfl⟩ := h
    exact ⟨t, rfl, hread, valid_of_closing hclosing⟩
  next => cases h

def classPattern (cls : Char → Bool) : Pattern Placeholder :=
  placeholderPattern (nameIn cls) nameIn_begins

/-- The characters behind a name are not of the class. -/
structure Separated (cls : Char → Bool) : Prop where
  dollar : cls '$' = false
  colon : cls ':' = false

section Class

variable {cls : Char → Bool}

theorem nameIn_append (hcls : Separated cls) {name : Str} (hne : name ≠ [])
    (hname : ∀ c ∈ name, cls c = true) (default : Option Str) (rest : Str) :
    nameIn cls (name ++ (Placeholder.ending default ++ rest)) = some name := by
  have hrun : (name ++ (Placeholder.ending default ++ rest)).takeWhile cls = name := by
    cases default with
    | none => exact takeWhile_append_cons _ hname hcls.dollar
    | some d => exact takeWhile_append_cons _ hname hcls.colon
  rw [nameIn, hrun, if_neg hne]

theorem run_classPattern_iff (hcls : Separated cls) {s : Str} {p : Placeholder} :
    (classPattern cls).run s = some p ↔ p.Valid cls ∧ p.text <+: s := by
  constructor
  · intro h
    refine ⟨?_, (classPattern cls).text_begins h⟩
    obtain ⟨t, -, hname, hdefault⟩ := of_readPlaceholder h
    rw [nameIn] at hname
    split at hname
    next => cases hname
    next hne =>
      obtain hname := Option.some.inj hname
      rw [hname] at hne
      refine ⟨hne, fun c hc => ?_, hdefault⟩
      rw [← hname] at hc
      exact List.mem_takeWhile_imp hc
  · rintro ⟨hvalid, rest, rfl⟩
    exact readPlaceholder_text (nameIn_append hcls hvalid.name_ne_nil hvalid.name _ _)
      hvalid.default

end Class

/-! ## Names -/

theorem foldsTo_lowerChar (c : Char) : foldsTo (lowerChar c) c = true := by
  rw [lowerChar]
  split
  next h => rw [h]; rfl
  next => simp [foldsTo]

theorem nameLike_key (rest : Str) : ∀ name : Str, nameLike (key name) (name ++ rest) = some name
  | [] => rfl
  | c :: name => by
      rw [key, List.map_cons, List.cons_append, nameLike, foldsTo_lowerChar, if_pos rfl, ← key,
        nameLike_key rest name]
      rfl

theorem run_namePattern {p : Placeholder}
    (hdefault : ∀ d, p.default = some d → d ≠ [] ∧ '$' ∉ d) (rest : Str) :
    (namePattern (key p.name)).run (p.text ++ rest) = some p :=
  readPlaceholder_text (nameLike_key _ p.name) hdefault

theorem isNameChar_iff {c : Char} : isNameChar c = true ↔
    97 ≤ c.toNat ∧ c.toNat ≤ 122 ∨ 48 ≤ c.toNat ∧ c.toNat ≤ 57 ∨ c = '_' := by
  simp only [isNameChar, Char.isLower, Char.isDigit, Bool.or_eq_true, Bool.and_eq_true,
    decide_eq_true_eq, beq_iff_eq, ge_iff_le, UInt32.le_iff_toNat_le, or_assoc]
  rfl

theorem isUpper_iff {c : Char} : c.isUpper = true ↔ 65 ≤ c.toNat ∧ c.toNat ≤ 90 := by
  simp only [Char.isUpper, decide_eq_true_eq, ge_iff_le, UInt32.le_iff_toNat_le]
  rfl

theorem toNat_toLower {c : Char} (h : c.isUpper = true) : c.toLower.toNat = c.toNat + 32 := by
  have hle := isUpper_iff.mp h
  have hval : (c.val + ('a'.val - 'A'.val)).toNat = c.toNat + 32 := by
    rw [UInt32.toNat_add]
    exact Nat.mod_eq_of_lt (a := c.toNat + 32) (by omega)
  rw [Char.isUpper, decide_eq_true_eq] at h
  rw [Char.toLower, dif_pos h]
  exact hval

theorem lt_of_isNameChar {c : Char} (h : isNameChar c = true) : c.toNat < 128 := by
  rcases isNameChar_iff.mp h with h | h | rfl
  · omega
  · omega
  · decide

theorem not_isUpper_of_isNameChar {c : Char} (h : isNameChar c = true) : ¬ c.isUpper = true := by
  rw [isUpper_iff]
  rcases isNameChar_iff.mp h with h | h | rfl
  · omega
  · omega
  · decide

theorem lowerChar_of_isNameChar {c : Char} (h : isNameChar c = true) : lowerChar c = c := by
  have hne : c ≠ '\u212a' := by
    rintro rfl
    cases h
  rw [lowerChar, if_neg hne, Char.toLower_eq_of_not_isUpper (not_isUpper_of_isNameChar h)]

/-- A character that becomes one of `[a-z0-9_]` is the Kelvin sign or of ASCII. -/
theorem lt_of_isNameChar_toLower {c : Char} (h : isNameChar c.toLower = true) : c.toNat < 128 := by
  by_cases hupper : c.isUpper = true
  · have := isUpper_iff.mp hupper
    omega
  · rw [Char.toLower_eq_of_not_isUpper hupper] at h
    exact lt_of_isNameChar h

theorem eq_of_lowerChar_eq {c d : Char} (hd : d.toNat < 65) (h : lowerChar c = d) : c = d := by
  subst h
  rw [lowerChar] at hd ⊢
  split at hd
  next => exact absurd hd (by decide)
  next hk =>
    rw [if_neg hk]
    by_cases hupper : c.isUpper = true
    · have := isUpper_iff.mp hupper
      have := toNat_toLower hupper
      omega
    · exact (Char.toLower_eq_of_not_isUpper hupper).symm

theorem separated_isNameChar : Separated isNameChar := ⟨rfl, rfl⟩

theorem separated_isNameChar_lowerChar : Separated fun c => isNameChar (lowerChar c) := ⟨rfl, rfl⟩

/-! ## The query in lower case -/

section Lower

variable {L : Lowercase} {c x : Char} {u s t : Str}

theorem eq_of_image_name (hc : isNameChar (lowerChar c) = true) (h : L.image c u) :
    u = [lowerChar c] := by
  rw [lowerChar] at hc ⊢
  split at hc
  next hk =>
    subst hk
    exact L.kelvin.mp h
  next hk =>
    rw [if_neg hk]
    exact (L.ascii (lt_of_isNameChar_toLower hc)).mp h

theorem eq_of_image (hc : c.toNat < 65) (h : L.image c u) : u = [c] := by
  have hupper : ¬ c.isUpper = true := by
    rw [isUpper_iff]
    omega
  rw [(L.ascii (by omega)).mp h, Char.toLower_eq_of_not_isUpper hupper]

/-- Where a lower case begins with a character of ASCII, it is this character, or else the one
of the I with a dot. -/
theorem of_image_cons (hx : x.toNat < 128) (h : L.image c (x :: u)) :
    lowerChar c = x ∧ u = [] ∨ x = 'i' ∧ u = ['\u0307'] := by
  by_cases hk : c = '\u212a'
  · subst hk
    cases L.kelvin.mp h
    exact Or.inl ⟨rfl, rfl⟩
  by_cases hdot : c = '\u0130'
  · subst hdot
    cases L.dotted.mp h
    exact Or.inr ⟨rfl, rfl⟩
  rcases Nat.lt_or_ge c.toNat 128 with hlt | hge
  · cases (L.ascii hlt).mp h
    exact Or.inl ⟨by rw [lowerChar, if_neg hk], rfl⟩
  · have := (L.other hge hk hdot h).2 x List.mem_cons_self
    omega

theorem image_ne_nil (h : L.image c u) : u ≠ [] := by
  by_cases hk : c = '\u212a'
  · subst hk
    rw [L.kelvin.mp h]
    exact List.cons_ne_nil _ _
  by_cases hdot : c = '\u0130'
  · subst hdot
    rw [L.dotted.mp h]
    exact List.cons_ne_nil _ _
  rcases Nat.lt_or_ge c.toNat 128 with hlt | hge
  · rw [(L.ascii hlt).mp h]
    exact List.cons_ne_nil _ _
  · exact (L.other hge hk hdot h).1

theorem dollar_not_mem_image (hc : c ≠ '$') (h : L.image c u) : '$' ∉ u := by
  by_cases hk : c = '\u212a'
  · subst hk
    rw [L.kelvin.mp h]
    decide
  by_cases hdot : c = '\u0130'
  · subst hdot
    rw [L.dotted.mp h]
    decide
  rcases Nat.lt_or_ge c.toNat 128 with hlt | hge
  · rw [(L.ascii hlt).mp h, List.mem_singleton]
    intro hdollar
    refine hc (eq_of_lowerChar_eq (by decide) ?_)
    rw [lowerChar, if_neg hk, hdollar]
  · intro hmem
    have := (L.other hge hk hdot h).2 _ hmem
    exact absurd this (by decide)

theorem Lowers.cons_left (h : Lowers L.image (c :: s) t) :
    ∃ u t', t = u ++ t' ∧ L.image c u ∧ Lowers L.image s t' := by
  cases h with
  | cons hc hs => exact ⟨_, _, rfl, hc, hs⟩

theorem Lowers.append_left : ∀ {s r t : Str}, Lowers L.image (s ++ r) t →
    ∃ u t', t = u ++ t' ∧ Lowers L.image s u ∧ Lowers L.image r t'
  | [], _, t, h => ⟨[], t, rfl, .nil, h⟩
  | c :: s, r, t, h => by
      obtain ⟨u, t, rfl, hc, hsr⟩ := Lowers.cons_left h
      obtain ⟨v, t, rfl, hs, hr⟩ := Lowers.append_left hsr
      exact ⟨u ++ v, t, (List.append_assoc ..).symm, .cons hc hs, hr⟩

theorem eq_of_lowers_name : ∀ {name t : Str}, (∀ c ∈ name, isNameChar (lowerChar c) = true) →
    Lowers L.image name t → t = key name
  | [], _, _, .nil => rfl
  | c :: name, _, hname, .cons hc hs => by
      rw [eq_of_image_name (hname c List.mem_cons_self) hc,
        eq_of_lowers_name (fun d hd => hname d (List.mem_cons_of_mem _ hd)) hs]
      rfl

theorem dollar_not_mem_lowers : ∀ {s t : Str}, '$' ∉ s → Lowers L.image s t → '$' ∉ t
  | [], _, _, .nil => List.not_mem_nil
  | c :: s, _, hs, .cons hc ht => by
      rw [List.mem_cons, not_or] at hs
      rw [List.mem_append, not_or]
      exact ⟨dollar_not_mem_image (Ne.symm hs.1) hc, dollar_not_mem_lowers hs.2 ht⟩

theorem Lowers.ne_nil (h : Lowers L.image s t) (hs : s ≠ []) : t ≠ [] := by
  cases h with
  | nil => exact absurd rfl hs
  | cons hc => exact List.append_ne_nil_of_left_ne_nil (image_ne_nil hc) _

structure Lowered (L : Lowercase) (p p' : Placeholder) : Prop where
  name : p'.name = key p.name
  default : Option.Rel (Lowers L.image) p.default p'.default

theorem Lowers.cons_of_lt (hc : c.toNat < 65) (h : Lowers L.image (c :: s) t) :
    ∃ t', t = c :: t' ∧ Lowers L.image s t' := by
  obtain ⟨u, t, rfl, hu, ht⟩ := Lowers.cons_left h
  rw [eq_of_image hc hu]
  exact ⟨t, rfl, ht⟩

theorem lowered_ending {default : Option Str} (hdefault : ∀ d, default = some d → d ≠ [] ∧ '$' ∉ d)
    (h : Lowers L.image (Placeholder.ending default ++ s) t) :
    ∃ default' t', t = Placeholder.ending default' ++ t' ∧
      Option.Rel (Lowers L.image) default default' ∧
      (∀ d, default' = some d → d ≠ [] ∧ '$' ∉ d) ∧ Lowers L.image s t' := by
  cases default with
  | none =>
      obtain ⟨t₁, rfl, h₁⟩ := Lowers.cons_of_lt (by decide) h
      obtain ⟨t₂, rfl, h₂⟩ := Lowers.cons_of_lt (by decide) h₁
      exact ⟨none, t₂, rfl, .none, fun d hd => (by cases hd), h₂⟩
  | some d =>
      have htext : Placeholder.ending (some d) ++ s = ':' :: (d ++ '$' :: '$' :: s) := by
        simp [Placeholder.ending]
      rw [htext] at h
      obtain ⟨t₁, rfl, h₁⟩ := Lowers.cons_of_lt (by decide) h
      obtain ⟨d', t₂, rfl, hd', h₂⟩ := Lowers.append_left h₁
      obtain ⟨t₃, rfl, h₃⟩ := Lowers.cons_of_lt (by decide) h₂
      obtain ⟨t₄, rfl, h₄⟩ := Lowers.cons_of_lt (by decide) h₃
      obtain ⟨hne, hdollar⟩ := hdefault d rfl
      refine ⟨some d', t₄, by simp [Placeholder.ending], .some hd', ?_, h₄⟩
      rintro _ ⟨⟩
      exact ⟨Lowers.ne_nil hd' hne, dollar_not_mem_lowers hdollar hd'⟩

theorem lowered_text {p : Placeholder}
    (hp : p.Valid fun c => isNameChar (lowerChar c)) (h : Lowers L.image (p.text ++ s) t) :
    ∃ p' t', t = p'.text ++ t' ∧ Lowered L p p' ∧ p'.Valid isNameChar ∧ Lowers L.image s t' := by
  have htext : p.text ++ s = '$' :: '$' :: (p.name ++ (Placeholder.ending p.default ++ s)) := by
    simp [Placeholder.text]
  rw [htext] at h
  obtain ⟨t₁, rfl, h₁⟩ := Lowers.cons_of_lt (by decide) h
  obtain ⟨t₂, rfl, h₂⟩ := Lowers.cons_of_lt (by decide) h₁
  obtain ⟨name, t₃, rfl, hname, h₃⟩ := Lowers.append_left h₂
  obtain rfl := eq_of_lowers_name hp.name hname
  obtain ⟨default, t₄, rfl, hrel, hdefault, h₄⟩ := lowered_ending hp.default h₃
  refine ⟨⟨key p.name, default⟩, t₄, by simp [Placeholder.text], ⟨rfl, hrel⟩, ?_, h₄⟩
  refine ⟨fun hnil => hp.name_ne_nil (List.map_eq_nil_iff.mp hnil), fun c hc => ?_, hdefault⟩
  obtain ⟨c, hmem, rfl⟩ := List.mem_map.mp hc
  exact hp.name c hmem

/-! And the other way round. -/

theorem Lowers.cons_right (hx : x.toNat < 128) (hi : x = 'i' → t.head? ≠ some '\u0307')
    (h : Lowers L.image s (x :: t)) :
    ∃ c s', s = c :: s' ∧ lowerChar c = x ∧ Lowers L.image s' t := by
  generalize hw : x :: t = w at h
  cases h with
  | nil => cases hw
  | @cons c u s t' hc hs =>
      cases u with
      | nil => exact absurd rfl (image_ne_nil hc)
      | cons y u =>
          rw [List.cons_append, List.cons.injEq] at hw
          obtain ⟨rfl, rfl⟩ := hw
          rcases of_image_cons hx hc with ⟨hlower, rfl⟩ | ⟨rfl, rfl⟩
          · exact ⟨c, s, rfl, hlower, hs⟩
          · exact absurd rfl (hi rfl)

theorem Lowers.name_right {y : Char} (hy : y.toNat < 128) : ∀ {name s : Str},
    (∀ c ∈ name, isNameChar c = true) → Lowers L.image s (name ++ y :: t) →
      ∃ name₀ s', s = name₀ ++ s' ∧ key name₀ = name ∧ Lowers L.image s' (y :: t)
  | [], s, _, h => ⟨[], s, rfl, rfl, h⟩
  | x :: name, s, hname, h => by
      have hlt : ∀ z ∈ (name ++ y :: t).head?, z.toNat < 128 := by
        cases name with
        | nil =>
            rintro _ ⟨⟩
            exact hy
        | cons z name =>
            rintro _ ⟨⟩
            exact lt_of_isNameChar (hname z (by simp))
      have hi : x = 'i' → (name ++ y :: t).head? ≠ some '\u0307' := by
        intro _ hhead
        exact absurd (hlt _ hhead) (by decide)
      obtain ⟨c, s, rfl, hc, h⟩ :=
        Lowers.cons_right (lt_of_isNameChar (hname x List.mem_cons_self)) hi h
      obtain ⟨name₀, s, rfl, hkey, h⟩ :=
        Lowers.name_right hy (fun d hd => hname d (List.mem_cons_of_mem _ hd)) h
      refine ⟨c :: name₀, s, rfl, ?_, h⟩
      rw [key, List.map_cons, hc, ← key, hkey]

theorem Lowers.default_right : ∀ {s d' : Str}, '$' ∉ d' → Lowers L.image s (d' ++ '$' :: t) →
    ∃ d s', s = d ++ '$' :: s' ∧ Lowers L.image d d' ∧ '$' ∉ d ∧ Lowers L.image s' t
  | [], d', _, h => by
      generalize hw : d' ++ '$' :: t = w at h
      cases h
      cases d' <;> cases hw
  | c :: s, d', hd', h => by
      obtain ⟨u, t', hw, hc, hs⟩ := Lowers.cons_left h
      by_cases hdollar : c = '$'
      · subst hdollar
        obtain rfl := eq_of_image (by decide) hc
        cases d' with
        | nil =>
            cases hw
            exact ⟨[], s, rfl, .nil, List.not_mem_nil, hs⟩
        | cons y d' =>
            cases hw
            exact absurd List.mem_cons_self hd'
      · have hu := dollar_not_mem_image hdollar hc
        obtain ⟨d'', rfl, rfl⟩ : ∃ d'', d' = u ++ d'' ∧ t' = d'' ++ '$' :: t := by
          rcases List.append_eq_append_iff.mp hw with ⟨v, rfl, hv⟩ | ⟨v, rfl, rfl⟩
          · cases v with
            | nil => exact ⟨[], by simp, by simpa using hv.symm⟩
            | cons y v =>
                cases hv
                exact absurd (List.mem_append_right _ List.mem_cons_self) hu
          · exact ⟨v, rfl, rfl⟩
        have hrest : '$' ∉ d'' := fun hmem => hd' (List.mem_append_right _ hmem)
        obtain ⟨d, s, rfl, hd, hnot, hs⟩ := Lowers.default_right hrest hs
        exact ⟨c :: d, s, rfl, .cons hc hd, by simp [Ne.symm hdollar, hnot], hs⟩

theorem exists_of_lowered_ending {default' : Option Str}
    (hdefault : ∀ d, default' = some d → d ≠ [] ∧ '$' ∉ d)
    (h : Lowers L.image s (Placeholder.ending default' ++ t)) :
    ∃ default, Placeholder.ending default <+: s ∧
      ∀ d, default = some d → d ≠ [] ∧ '$' ∉ d := by
  have hnot {x : Char} {w : Str} (hx : x ≠ 'i') : x = 'i' → w.head? ≠ some '\u0307' :=
    fun he => absurd he hx
  cases default' with
  | none =>
      obtain ⟨c, s₁, rfl, hc, h₁⟩ := Lowers.cons_right (by decide) (hnot (by decide)) h
      obtain ⟨d, s₂, rfl, hd, -⟩ := Lowers.cons_right (by decide) (hnot (by decide)) h₁
      obtain rfl := eq_of_lowerChar_eq (by decide) hc
      obtain rfl := eq_of_lowerChar_eq (by decide) hd
      exact ⟨none, ⟨s₂, rfl⟩, fun d hd => by cases hd⟩
  | some d' =>
      have htext : Placeholder.ending (some d') ++ t = ':' :: (d' ++ '$' :: '$' :: t) := by
        simp [Placeholder.ending]
      rw [htext] at h
      obtain ⟨hne, hdollar⟩ := hdefault d' rfl
      obtain ⟨c, s₁, rfl, hc, h₁⟩ := Lowers.cons_right (by decide) (hnot (by decide)) h
      obtain rfl := eq_of_lowerChar_eq (by decide) hc
      obtain ⟨d, s₂, rfl, hd, hmem, h₂⟩ := Lowers.default_right hdollar h₁
      obtain ⟨e, s₃, rfl, he, -⟩ := Lowers.cons_right (by decide) (hnot (by decide)) h₂
      obtain rfl := eq_of_lowerChar_eq (by decide) he
      refine ⟨some d, ⟨s₃, by simp [Placeholder.ending]⟩, ?_⟩
      rintro _ ⟨⟩
      refine ⟨?_, hmem⟩
      rintro rfl
      cases hd
      exact hne rfl

theorem exists_of_lowered_text {p' : Placeholder} (hp' : p'.Valid isNameChar)
    (h : Lowers L.image s (p'.text ++ t)) :
    ∃ p : Placeholder, (p.Valid fun c => isNameChar (lowerChar c)) ∧ p.text <+: s := by
  have hnot {w : Str} : '$' = 'i' → w.head? ≠ some '\u0307' := fun he => absurd he (by decide)
  have htext : p'.text ++ t =
      '$' :: '$' :: (p'.name ++ (Placeholder.ending p'.default ++ t)) := by
    simp [Placeholder.text]
  rw [htext] at h
  obtain ⟨c, s₁, rfl, hc, h₁⟩ := Lowers.cons_right (by decide) hnot h
  obtain ⟨d, s₂, rfl, hd, h₂⟩ := Lowers.cons_right (by decide) hnot h₁
  obtain rfl := eq_of_lowerChar_eq (by decide) hc
  obtain rfl := eq_of_lowerChar_eq (by decide) hd
  obtain ⟨y, w, hw, hy⟩ : ∃ y w, Placeholder.ending p'.default ++ t = y :: w ∧ y.toNat < 128 := by
    cases p'.default with
    | none => exact ⟨'$', '$' :: t, rfl, by decide⟩
    | some d => exact ⟨':', _, rfl, by decide⟩
  rw [hw] at h₂
  obtain ⟨name, s₃, rfl, hkey, h₃⟩ := Lowers.name_right hy hp'.name h₂
  rw [← hw] at h₃
  obtain ⟨default, ⟨s₄, rfl⟩, hdefault⟩ := exists_of_lowered_ending hp'.default h₃
  refine ⟨⟨name, default⟩, ⟨?_, ?_, hdefault⟩, ⟨s₄, by simp [Placeholder.text]⟩⟩
  · rintro rfl
    exact hp'.name_ne_nil hkey.symm
  · intro c hc
    exact hp'.name _ (hkey ▸ List.mem_map_of_mem hc)

theorem run_cons_of_ne_dollar {cls : Char → Bool} (hx : x ≠ '$') :
    (classPattern cls).run (x :: s) = none := by
  refine Option.eq_none_iff_forall_ne_some.mpr fun p hp => ?_
  obtain ⟨t, ht, -⟩ := of_readPlaceholder hp
  exact hx (List.cons.inj ht).1

theorem unmatched_lower (hrun : queryPattern.run (c :: s) = none) (hc : L.image c u)
    (ht : Lowers L.image s t) : paramPattern.Unmatched u t := by
  intro r hr hne
  rw [List.mem_tails] at hr
  by_cases hdollar : c = '$'
  · subst hdollar
    obtain rfl := eq_of_image (by decide) hc
    obtain rfl : r = ['$'] := by
      rcases List.suffix_cons_iff.mp hr with rfl | hr
      · rfl
      · exact absurd (List.suffix_nil.mp hr) hne
    refine Option.eq_none_iff_forall_ne_some.mpr fun p' hp' => ?_
    obtain ⟨hvalid, rest, hrest⟩ := (run_classPattern_iff separated_isNameChar).mp hp'
    have hlower : Lowers L.image ('$' :: s) (p'.text ++ rest) := by
      rw [hrest]
      exact .cons hc ht
    obtain ⟨p, hp⟩ := exists_of_lowered_text hvalid hlower
    have hsome := (run_classPattern_iff separated_isNameChar_lowerChar).mpr hp
    rw [queryPattern, ← classPattern, hsome] at hrun
    cases hrun
  · obtain ⟨x, r, rfl⟩ := List.exists_cons_of_ne_nil hne
    refine run_cons_of_ne_dollar ?_
    rintro rfl
    exact dollar_not_mem_image hdollar hc (hr.subset List.mem_cons_self)

theorem findall_lower (h : Lowers L.image s t) :
    List.Forall₂ (Lowered L) (queryPattern.findall s) (paramPattern.findall t) := by
  induction hn : s.length using Nat.strong_induction_on generalizing s t with
  | _ n ih =>
    cases s with
    | nil =>
        cases h
        exact .nil
    | cons c s =>
        cases hrun : queryPattern.run (c :: s) with
        | some p =>
            obtain ⟨hvalid, rest, hrest⟩ :=
              (run_classPattern_iff separated_isNameChar_lowerChar).mp hrun
            rw [← hrest] at h hrun hn ⊢
            obtain ⟨p', t, rfl, hlowered, hvalid', ht⟩ := lowered_text hvalid h
            have hrun' : paramPattern.run (p'.text ++ t) = some p' :=
              (run_classPattern_iff separated_isNameChar).mpr ⟨hvalid', List.prefix_append ..⟩
            have hlength : rest.length < n := by
              rw [← hn, List.length_append]
              have := List.length_pos_of_ne_nil p.text_ne_nil
              omega
            have hfind : queryPattern.findall (p.text ++ rest) = p :: queryPattern.findall rest :=
              Pattern.findall_append_of_some hrun
            have hfind' : paramPattern.findall (p'.text ++ t) = p' :: paramPattern.findall t :=
              Pattern.findall_append_of_some hrun'
            rw [hfind, hfind']
            exact .cons hlowered (ih rest.length hlength ht rfl)
        | none =>
            obtain ⟨u, t, rfl, hc, ht⟩ := Lowers.cons_left h
            have hunmatched := unmatched_lower hrun hc ht
            rw [Pattern.findall_cons_of_none hrun, Pattern.findall_append_of_unmatched hunmatched]
            exact ih s.length (by rw [← hn, List.length_cons]; omega) ht rfl

theorem eq_of_lowers_of_isLower : ∀ {s t : Str}, L.IsLower s → Lowers L.image s t → t = s
  | [], _, _, .nil => rfl
  | c :: s, _, hs, .cons hc ht => by
      rw [hs c List.mem_cons_self _ hc,
        eq_of_lowers_of_isLower (fun d hd => hs d (List.mem_cons_of_mem _ hd)) ht]
      rfl

theorem Lowered.default_eq {p p' : Placeholder} (h : Lowered L p p')
    (hstable : L.IsLower (p.default.getD [])) : p'.default.getD [] = p.default.getD [] := by
  have hrel := h.default
  generalize p.default = d at hrel hstable
  generalize p'.default = d' at hrel
  cases hrel with
  | none => rfl
  | some hd => exact eq_of_lowers_of_isLower hstable hd

theorem lower_key {name : Str} (hname : ∀ c ∈ name, isNameChar (lowerChar c) = true) :
    L.lower (key name) = key name := by
  have hkey : ∀ c ∈ key name, isNameChar (lowerChar c) = true := by
    intro c hc
    obtain ⟨c, hmem, rfl⟩ := List.mem_map.mp hc
    rw [lowerChar_of_isNameChar (hname c hmem)]
    exact hname c hmem
  rw [eq_of_lowers_name hkey (L.lower_spec _)]
  show (name.map lowerChar).map lowerChar = name.map lowerChar
  rw [List.map_map]
  exact List.map_congr_left fun c hc => lowerChar_of_isNameChar (hname c hc)

end Lower

/-! ## The dictionary -/

section Params

variable {L : Lowercase} {q : Query}

theorem lookup_lowered {_ : BEq Str} [LawfulBEq Str] {k v : Str} {ps ps' : List Placeholder}
    (h : List.Forall₂ (Lowered L) ps ps')
    (hv : (ps'.map fun p => (p.name, p.default.getD [])).lookup k = some v) :
    ∃ last p', ps.find? (fun r => key r.name = k) = some last ∧ Lowered L last p' ∧
      p'.default.getD [] = v := by
  induction h with
  | nil => cases hv
  | @cons p p' ps ps' hp hps ih =>
      rw [List.map_cons, List.lookup_cons] at hv
      rw [List.find?_cons]
      by_cases hk : key p.name = k
      · rw [hp.name, hk, beq_self_eq_true] at hv
        cases hv
        exact ⟨p, p', by simp [hk], hp, rfl⟩
      · rw [hp.name, beq_false_of_ne (Ne.symm hk)] at hv
        simpa [hk] using ih hv

theorem available_params_items : (q.available_params L).items =
    (extract_params L q.sql).items.map fun kv =>
      (kv.1, (q.params.bind fun params => params.get? kv.1).getD kv.2) := by
  obtain ⟨sql, _ | params⟩ := q
  · simp [Query.available_params]
  · rfl

theorem keys_available_params : (q.available_params L).items.map Prod.fst = q.names := by
  have hkeys : ((paramPattern.findall (L.lower q.sql)).map fun p => (p.name, p.default.getD [])).map
      Prod.fst = (q.placeholders.map fun p => (key p.name, ())).map Prod.fst := by
    rw [List.map_map, List.map_map]
    have h := findall_lower (L.lower_spec q.sql)
    rw [Query.placeholders]
    generalize queryPattern.findall q.sql = ps at h
    generalize paramPattern.findall (L.lower q.sql) = ps' at h
    induction h with
    | nil => rfl
    | cons hp _ ih => exact List.cons_eq_cons.mpr ⟨hp.name, ih⟩
  rw [available_params_items, List.map_map, Query.names, extract_params]
  exact Dict.keys_ofPairs_congr hkeys

theorem valid_of_mem {p : Placeholder} (hp : p ∈ q.placeholders) :
    p.Valid fun c => isNameChar (lowerChar c) := by
  obtain ⟨t, ht⟩ := Pattern.exists_run_of_mem_findall hp
  exact ((run_classPattern_iff separated_isNameChar_lowerChar).mp ht).1

theorem key_mem_names {p : Placeholder} (hp : p ∈ q.placeholders) : key p.name ∈ q.names := by
  obtain ⟨v, hv⟩ := Dict.get?_ofPairs_isSome
    (List.mem_map_of_mem (f := fun p : Placeholder => (key p.name, ())) hp)
  exact List.mem_map_of_mem (f := Prod.fst) ((Dict.mem_items_iff _ _ _).mpr hv)

theorem of_mem_available_params {k v : Str} (h : (k, v) ∈ (q.available_params L).items) :
    ∃ last ∈ q.placeholders, key last.name = k ∧
      q.placeholders.reverse.find? (fun r => key r.name = k) = some last ∧
      ∃ p', Lowered L last p' ∧ 
        v = (q.params.bind fun params => params.get? k).getD (p'.default.getD []) := by
  rw [available_params_items] at h
  obtain ⟨⟨k, v₀⟩, hmem, heq⟩ := List.mem_map.mp h
  cases heq
  rw [Dict.mem_items_iff, extract_params, Dict.get?_ofPairs, ← List.map_reverse] at hmem
  have hreverse := List.forall₂_reverse_iff.mpr (findall_lower (L.lower_spec q.sql))
  obtain ⟨last, p', hfind, hlowered, rfl⟩ := lookup_lowered hreverse hmem
  have hlast : last ∈ q.placeholders := List.mem_reverse.mp (List.mem_of_find?_eq_some hfind)
  have hkey : key last.name = k := by
    simpa using List.find?_some hfind
  exact ⟨last, hlast, hkey, hfind, p', hlowered, rfl⟩

theorem expected_of_mem_available_params (h : Replaceable L q) {k v : Str}
    (hkv : (k, v) ∈ (q.available_params L).items) {p : Placeholder} (hp : p ∈ q.placeholders)
    (hk : key p.name = k) : q.expected p = v := by
  obtain ⟨last, -, -, hfind, p', hlowered, rfl⟩ := of_mem_available_params hkv
  subst hk
  have hvalue := h.given p hp
  cases hgiven : q.given p.name with
  | some w =>
      rw [hgiven] at hvalue
      rw [Query.expected, hgiven, ← hvalue]
      rfl
  | none =>
      rw [hgiven] at hvalue
      obtain ⟨hstable, hlast⟩ := h.default p hp hgiven
      have hexpected := hlast last hfind
      rw [← hvalue, Option.getD_none, hlowered.default_eq (by rw [hexpected]; exact hstable),
        hexpected]

theorem lower_of_mem_available_params {k v : Str} (h : (k, v) ∈ (q.available_params L).items) :
    L.lower k = k := by
  obtain ⟨last, hlast, rfl, -⟩ := of_mem_available_params h
  exact lower_key (valid_of_mem hlast).name

theorem literal_of_mem_available_params (hq : Replaceable L q) {k v : Str}
    (h : (k, v) ∈ (q.available_params L).items) : Literal v := by
  obtain ⟨last, hlast, hk, -⟩ := of_mem_available_params h
  rw [← expected_of_mem_available_params hq h hlast hk]
  exact literal_iff.mpr (hq.literal last hlast)

end Params

/-! ## Filling in the parameters -/

section Filled

variable {L : Lowercase} {q : Query} {pieces : List (Piece Placeholder)}

def filled (q : Query) (names : List Str) (pieces : List (Piece Placeholder)) :
    List (Piece Placeholder) :=
  names.foldl (fun pieces name => fill (fun p => key p.name == name) q.expected pieces) pieces

theorem found_mem_filled {p : Placeholder} :
    ∀ {names : List Str} {pieces : List (Piece Placeholder)},
      .found p ∈ filled q names pieces ↔ .found p ∈ pieces ∧ key p.name ∉ names
  | [], _ => by simp [filled]
  | name :: names, pieces => by
      rw [filled, List.foldl_cons, ← filled, found_mem_filled, found_mem_fill, List.mem_cons,
        not_or, beq_eq_false_iff_ne, and_assoc]

theorem textOf_expected_filled : ∀ {names : List Str} {pieces : List (Piece Placeholder)},
    textOf q.expected (filled q names pieces) = textOf q.expected pieces
  | [], _ => rfl
  | name :: names, pieces => by
      rw [filled, List.foldl_cons, ← filled, textOf_expected_filled, textOf_fill]
      simp only [ite_self]

theorem textOf_filled {names : List Str} (h : ∀ p, .found p ∈ pieces → key p.name ∈ names) :
    textOf Placeholder.text (filled q names pieces) = textOf q.expected pieces := by
  have hnone : textOf Placeholder.text (filled q names pieces) =
      textOf q.expected (filled q names pieces) := by
    refine textOf_congr _ fun p hp => ?_
    obtain ⟨hmem, hnot⟩ := found_mem_filled.mp hp
    exact absurd (h p hmem) hnot
  rw [hnone, textOf_expected_filled]

theorem swap_param_eq {name value : Str} (hlower : L.lower name = name) (hliteral : Literal value)
    (hapart : (namePattern name).Apart (fun p => key p.name == name) pieces)
    (hdefault : ∀ p, .found p ∈ pieces → ∀ d, p.default = some d → d ≠ [] ∧ '$' ∉ d)
    (hvalue : ∀ p, .found p ∈ pieces → key p.name = name → q.expected p = value) :
    swap_param L (textOf Placeholder.text pieces) (name, value) =
      some (textOf Placeholder.text (fill (fun p => key p.name == name) q.expected pieces)) := by
  have hown : ∀ p, .found p ∈ pieces → (key p.name == name) = true →
      ∀ s, (namePattern name).run ((namePattern name).text p ++ s) = some p := by
    intro p hp hk s
    obtain rfl := beq_iff_eq.mp hk
    exact run_namePattern (hdefault p hp) s
  have hfill : fill (fun p => key p.name == name) (fun _ => value) pieces =
      fill (fun p => key p.name == name) q.expected pieces := by
    refine fill_congr fun p hp hk => ?_
    exact (hvalue p hp (beq_iff_eq.mp hk)).symm
  rw [swap_param, hliteral, hlower, ← hfill]
  simp only [Option.bind_eq_bind, Option.bind_some, expand_map_char]
  exact congrArg some ((namePattern name).sub_textOf hapart hown)

theorem foldlM_swap_param : ∀ {params : List (Str × Str)} {pieces : List (Piece Placeholder)},
    (∀ kv ∈ params, L.lower kv.1 = kv.1 ∧ Literal kv.2 ∧
      ∀ p, .found p ∈ pieces → key p.name = kv.1 → q.expected p = kv.2) →
    (∀ p, .found p ∈ pieces → ∀ d, p.default = some d → d ≠ [] ∧ '$' ∉ d) →
    q.Apart (params.map Prod.fst) pieces →
    params.foldlM (swap_param L) (textOf Placeholder.text pieces) =
      some (textOf Placeholder.text (filled q (params.map Prod.fst) pieces))
  | [], _, _, _, _ => rfl
  | (name, value) :: params, pieces, hparams, hdefault, hapart => by
      obtain ⟨hlower, hliteral, hvalue⟩ := hparams _ List.mem_cons_self
      have hstep := swap_param_eq hlower hliteral hapart.1 hdefault hvalue
      rw [List.foldlM_cons, hstep]
      refine foldlM_swap_param (fun kv hkv => ?_) (fun p hp => ?_) hapart.2
      · obtain ⟨hlower, hliteral, hvalue⟩ := hparams kv (List.mem_cons_of_mem _ hkv)
        exact ⟨hlower, hliteral, fun p hp => hvalue p (found_mem_fill.mp hp).1⟩
      · exact hdefault p (found_mem_fill.mp hp).1

/-- The query is run with every placeholder replaced by its value or its default. -/
theorem final_sql_eq (h : Replaceable L q) : q.final_sql L = some q.expected_sql := by
  have hparams : ∀ kv ∈ (q.available_params L).items, L.lower kv.1 = kv.1 ∧ Literal kv.2 ∧
      ∀ p, .found p ∈ queryPattern.pieces q.sql → key p.name = kv.1 → q.expected p = kv.2 := by
    rintro ⟨k, v⟩ hkv
    refine ⟨lower_of_mem_available_params hkv, literal_of_mem_available_params h hkv, ?_⟩
    intro p hp hk
    exact expected_of_mem_available_params h hkv (Pattern.found_mem_pieces_iff.mp hp) hk
  have hdefault : ∀ p, .found p ∈ queryPattern.pieces q.sql →
      ∀ d, p.default = some d → d ≠ [] ∧ '$' ∉ d :=
    fun p hp => (valid_of_mem (Pattern.found_mem_pieces_iff.mp hp)).default
  have hapart := h.apart
  rw [← keys_available_params (L := L)] at hapart
  have hfold := foldlM_swap_param hparams hdefault hapart
  have hsql : textOf Placeholder.text (queryPattern.pieces q.sql) = q.sql :=
    queryPattern.textOf_pieces q.sql
  have hnames : ∀ p, .found p ∈ queryPattern.pieces q.sql → key p.name ∈ q.names :=
    fun p hp => key_mem_names (Pattern.found_mem_pieces_iff.mp hp)
  rw [keys_available_params, textOf_filled hnames, hsql] at hfold
  exact hfold

end Filled

/-! ## A default in capitals -/

/-- The lower case of a character, for texts in which it is all of ASCII but for the two. -/
def asciiImage (c : Char) : Str :=
  if c = '\u212a' then ['k'] else if c = '\u0130' then ['i', '\u0307'] else [c.toLower]

theorem asciiImage_of_ne {c : Char} (hk : c ≠ '\u212a') (hdot : c ≠ '\u0130') :
    asciiImage c = [c.toLower] := by
  rw [asciiImage, if_neg hk, if_neg hdot]

def asciiLower : Lowercase where
  image c u := u = asciiImage c
  lower s := s.flatMap asciiImage
  lower_spec s := by
    induction s with
    | nil => exact .nil
    | cons c s ih => exact .cons rfl ih
  ascii {c u} hc := by
    have hk : c ≠ '\u212a' := by
      rintro rfl
      exact absurd hc (by decide)
    have hdot : c ≠ '\u0130' := by
      rintro rfl
      exact absurd hc (by decide)
    rw [asciiImage_of_ne hk hdot]
  kelvin := Iff.rfl
  dotted := Iff.rfl
  other {c u} hc hk hdot h := by
    have hupper : ¬ c.isUpper = true := by
      rw [isUpper_iff]
      omega
    rw [asciiImage_of_ne hk hdot, Char.toLower_eq_of_not_isUpper hupper] at h
    subst h
    exact ⟨List.cons_ne_nil _ _, by simpa using hc⟩

instance : DecidablePred asciiLower.Stable := fun c =>
  decidable_of_iff (asciiImage c = [c]) ⟨fun h _ hu => hu.trans h, fun h => h _ rfl⟩

/-- A query with a value and with a default. -/
def order : Query where
  sql := "a = '$$Name$$' OR b < $$n:1 2$$".toList
  params := some (Dict.ofPairs [("name".toList, "X''y \\% $1".toList)])

theorem final_sql_order :
    order.final_sql asciiLower = some "a = 'X''y \\% $1' OR b < 1 2".toList := by
  have h : order.final_sql asciiLower = some order.expected_sql :=
    final_sql_eq ⟨by decide +kernel, by decide +kernel, by decide +kernel, by decide +kernel⟩
  rw [h]
  decide +kernel

/-- The default is read from the query in lower case. -/
theorem default_in_capitals_lost :
    (Query.mk "SELECT '$$x:ABC$$'".toList none).final_sql asciiLower =
        some "SELECT 'abc'".toList ∧
      (Query.mk "SELECT '$$x:ABC$$'".toList none).expected_sql = "SELECT 'ABC'".toList := by
  decide +kernel

end Substitution

end Explorer
