import DataWorkspace.Http.DotSegments
import Mathlib.Algebra.Order.BigOperators.Group.List
import Mathlib.Algebra.Order.Ring.Nat

/-!
# Paths that are encoded again

A client that is given a text for a URL does not know whether the text is encoded
already.  It keeps the escapes it finds and encodes the rest (`Requotes`), and it
resolves the dot segments.

Nothing of this makes what the path stands for longer, and every escape and every dot
segment makes it shorter.  So the path comes out as it went in exactly when it has
neither (`unquote_removeDotSegments_iff`).
-/

namespace Http

open Py

/-! ## Weighing segments -/

/-- The sum of a weight over segments. -/
def weigh (w : Str → Nat) (segs : List Str) : Nat := (segs.map w).sum

section Weigh

variable {w : Str → Nat}

@[simp] theorem weigh_nil : weigh w [] = 0 := rfl

@[simp] theorem weigh_cons (s : Str) (segs : List Str) :
    weigh w (s :: segs) = w s + weigh w segs := by simp [weigh]

@[simp] theorem weigh_append (segs segs' : List Str) :
    weigh w (segs ++ segs') = weigh w segs + weigh w segs' := by simp [weigh]

@[simp] theorem weigh_reverse (segs : List Str) : weigh w segs.reverse = weigh w segs := by
  simp [weigh, List.sum_reverse]

theorem weigh_tail_le (segs : List Str) : weigh w segs.tail ≤ weigh w segs := by
  cases segs <;> simp

theorem weigh_map (f : Str → Str) (segs : List Str) :
    weigh w (segs.map f) = weigh (fun s => w (f s)) segs := by
  rw [weigh, List.map_map]
  rfl

theorem weigh_resolve_le (hnil : ∀ s, w [] ≤ w s) : ∀ segs stack : List Str,
    weigh w (resolve stack segs) ≤ weigh w stack + weigh w segs
  | [], stack => by simp [resolve]
  | s :: rest, stack => by
      have ih := weigh_resolve_le hnil rest
      have htail := weigh_tail_le (w := w) stack
      have hs := hnil s
      have ihstack := ih stack
      have ihtail := ih stack.tail
      have ihcons := ih (s :: stack)
      rw [resolve]
      split
      · split <;> simp only [weigh_reverse, weigh_cons] <;> omega
      · split
        · split <;> simp only [weigh_reverse, weigh_cons] <;> omega
        · simp only [weigh_cons] at ihcons ⊢
          omega

theorem weigh_resolve_map_le (requote : Str → Str) (t : Str) :
    weigh (fun s => (Py.unquote s).length + 1) (resolve [] ((Http.segments t).map requote)) ≤
      weigh (fun s => (Py.unquote (requote s)).length + 1) (Http.segments t) := by
  have hle := weigh_resolve_le (w := fun s => (Py.unquote s).length + 1)
    (fun s => by simp [show Py.unquote [] = [] from rfl]) ((Http.segments t).map requote) []
  rwa [weigh_map, weigh_nil, Nat.zero_add] at hle

theorem weigh_resolve_lt (hnil : ∀ s, w [] ≤ w s)
    (hdot : ∀ s, isDot s = true → w [] < w s) : ∀ segs stack : List Str,
    (∃ s ∈ segs, isDot s = true) →
      weigh w (resolve stack segs) < weigh w stack + weigh w segs
  | [], _, ⟨_, hs, _⟩ => nomatch hs
  | s :: rest, stack, hex => by
      have hle := weigh_resolve_le hnil rest
      have htail := weigh_tail_le (w := w) stack
      have hlestack := hle stack
      have hletail := hle stack.tail
      rw [resolve]
      split
      next hs =>
        have hlt := hdot s (by simp [isDot, hs])
        split <;> simp only [weigh_reverse, weigh_cons] <;> omega
      next hs =>
        split
        next hs' =>
          have hlt := hdot s (by simp [isDot, hs'])
          split <;> simp only [weigh_reverse, weigh_cons] <;> omega
        next hs' =>
          have hrest : ∃ s ∈ rest, isDot s = true := by
            obtain ⟨x, hx, hxdot⟩ := hex
            rcases List.mem_cons.mp hx with rfl | hx
            · simp [isDot, hs, hs'] at hxdot
            · exact ⟨x, hx, hxdot⟩
          have ih := weigh_resolve_lt hnil hdot rest (s :: stack) hrest
          simp only [weigh_cons] at ih ⊢
          omega

theorem length_joinSegments : ∀ {segs : List Str}, segs ≠ [] →
    (joinSegments segs).length + 1 = weigh (fun s => s.length + 1) segs
  | [], h => absurd rfl h
  | [s], _ => by simp [joinSegments]
  | s :: s' :: rest, _ => by
      have ih := length_joinSegments (List.cons_ne_nil s' rest)
      simp only [joinSegments] at ih ⊢
      rw [List.intercalate_cons_cons, weigh_cons]
      simp only [List.length_append, List.length_singleton] at ih ⊢
      omega

theorem length_path (t : Str) :
    ('/' :: t).length = weigh (fun s => s.length + 1) (segments t) := by
  rw [List.length_cons, ← length_joinSegments (segments_ne_nil t), joinSegments_segments]

end Weigh

/-! ## Segments and the texts they stand for -/

theorem unquote_joinSegments : ∀ segs : List Str,
    unquote (joinSegments segs) = joinSegments (segs.map unquote)
  | [] => rfl
  | [s] => by simp [joinSegments]
  | s :: s' :: rest => by
      have ih := unquote_joinSegments (s' :: rest)
      simp only [joinSegments, List.map_cons] at ih ⊢
      rw [List.intercalate_cons_cons, List.intercalate_cons_cons, List.append_assoc,
        List.append_assoc, List.singleton_append, List.singleton_append,
        unquote_append_separator (by decide) (by decide), ih]

theorem hasEscape_joinSegments : ∀ segs : List Str,
    hasEscape (joinSegments segs) = segs.any hasEscape
  | [] => rfl
  | [s] => by simp [joinSegments]
  | s :: s' :: rest => by
      have ih := hasEscape_joinSegments (s' :: rest)
      simp only [joinSegments, List.any_cons] at ih ⊢
      rw [List.intercalate_cons_cons, List.append_assoc, List.singleton_append,
        hasEscape_append (by decide), ih]

/-- A path is left alone by reading it as percent-encoded and by resolving it: it has no
escapes and no dot segments. -/
structure Literal (t : Str) : Prop where
  no_escape : hasEscape t = false
  no_dots : ∀ s ∈ segments t, isDot s = false

/-- A percent-encoding for texts that may hold escapes already: it works on one segment
after the other, leaves the characters that are always safe alone, and keeps what the
text stands for. -/
structure Requotes (requote : Str → Str) : Prop where
  segments : ∀ t, segments (requote t) = (Http.segments t).map requote
  safe : ∀ s, s.all alwaysSafe = true → requote s = s
  unquote : ∀ s, Py.unquote (requote s) = Py.unquote s

namespace Requotes

variable {requote : Str → Str} (h : Requotes requote)

include h

theorem dot_iff {s : Str} (hs : hasEscape s = false) : isDot (requote s) = isDot s := by
  have hback {x : Str} (hx : hasEscape x = false) (hr : requote s = x) : s = x := by
    rw [← unquote_of_no_escape hs, ← h.unquote, hr, unquote_of_no_escape hx]
  have hone : requote s = ['.'] ↔ s = ['.'] :=
    ⟨hback (by decide), by rintro rfl; exact h.safe ['.'] (by decide)⟩
  have htwo : requote s = ['.', '.'] ↔ s = ['.', '.'] :=
    ⟨hback (by decide), by rintro rfl; exact h.safe ['.', '.'] (by decide)⟩
  rw [Bool.eq_iff_iff]
  simp only [isDot, Bool.or_eq_true, beq_iff_eq, hone, htwo]

theorem slash (t : Str) : requote ('/' :: t) = '/' :: requote t := by
  have hsegs : Http.segments ('/' :: t) = [] :: Http.segments t := List.splitOn_append_cons_self [] t
  have hnil : requote [] = [] := h.safe [] rfl
  have hsplit : Http.segments (requote ('/' :: t)) = Http.segments ('/' :: requote t) := by
    have hsegs' : Http.segments ('/' :: requote t) = [] :: Http.segments (requote t) :=
      List.splitOn_append_cons_self [] (requote t)
    rw [h.segments, hsegs, hsegs', h.segments, List.map_cons, hnil]
  exact segments_inj.mp hsplit

theorem unquote_removeDotSegments (t : Str) :
    Py.unquote (removeDotSegments (requote ('/' :: t))) =
      '/' :: joinSegments ((resolve [] ((Http.segments t).map requote)).map Py.unquote) := by
  rw [h.slash, removeDotSegments, h.segments, ← unquote_joinSegments]
  exact unquote_append_separator (by decide) (by decide) [] _

theorem length_unquote_removeDotSegments (t : Str) :
    (Py.unquote (removeDotSegments (requote ('/' :: t)))).length =
      weigh (fun s => (Py.unquote s).length + 1) (resolve [] ((Http.segments t).map requote)) := by
  have hne : (resolve [] ((Http.segments t).map requote)).map Py.unquote ≠ [] := by
    simp [resolve_ne_nil, segments_ne_nil]
  rw [h.unquote_removeDotSegments, List.length_cons, length_joinSegments hne, weigh_map]

/-- Encoding, resolving and decoding never makes a path longer. -/
theorem length_unquote_removeDotSegments_le (t : Str) :
    (Py.unquote (removeDotSegments (requote ('/' :: t)))).length ≤ ('/' :: t).length := by
  rw [h.length_unquote_removeDotSegments, length_path]
  refine (weigh_resolve_map_le requote t).trans (List.sum_le_sum fun s _ => ?_)
  rw [h.unquote]
  exact Nat.succ_le_succ (length_unquote_le s)

/-- The path that comes out is the one that went in exactly where it has neither escapes
nor dot segments. -/
theorem unquote_removeDotSegments_iff (t : Str) :
    Py.unquote (removeDotSegments (requote ('/' :: t))) = '/' :: t ↔ Literal t := by
  have hweights : ∀ s ∈ Http.segments t,
      (Py.unquote (requote s)).length + 1 ≤ s.length + 1 := by
    intro s _
    rw [h.unquote]
    exact Nat.succ_le_succ (length_unquote_le s)
  have hresolve := weigh_resolve_map_le requote t
  constructor
  · intro heq
    have hlength := congrArg List.length heq
    rw [h.length_unquote_removeDotSegments, length_path] at hlength
    have hsegments : ∀ s ∈ Http.segments t, hasEscape s = false := by
      intro s hs
      rw [Bool.eq_false_iff]
      intro hescape
      have hlt := List.sum_lt_sum _ _ hweights
        ⟨s, hs, by rw [h.unquote]; exact Nat.succ_lt_succ (length_unquote_lt hescape)⟩
      exact absurd hlength (Nat.ne_of_lt (Nat.lt_of_le_of_lt hresolve hlt))
    refine ⟨?_, ?_⟩
    · rw [← joinSegments_segments t, hasEscape_joinSegments, List.any_eq_false]
      exact fun s hs => by simp [hsegments s hs]
    · intro s hs
      rw [← h.dot_iff (hsegments s hs), Bool.eq_false_iff]
      intro hdot
      have hlt := weigh_resolve_lt (w := fun s => (Py.unquote s).length + 1)
        (fun s => by simp [show Py.unquote [] = [] from rfl])
        (fun s hs => by
          simp only [isDot, Bool.or_eq_true, beq_iff_eq] at hs
          rcases hs with rfl | rfl <;> decide)
        ((Http.segments t).map requote) [] ⟨requote s, List.mem_map_of_mem hs, hdot⟩
      rw [weigh_map, weigh_nil, Nat.zero_add] at hlt
      have hle := List.sum_le_sum hweights
      exact absurd hlength (Nat.ne_of_lt (Nat.lt_of_lt_of_le hlt hle))
  · intro hliteral
    have hescape := hliteral.no_escape
    rw [← joinSegments_segments t, hasEscape_joinSegments, List.any_eq_false] at hescape
    have hdots : ∀ s ∈ (Http.segments t).map requote, isDot s = false := by
      intro x hx
      obtain ⟨s, hs, rfl⟩ := List.mem_map.mp hx
      rw [h.dot_iff (Bool.eq_false_iff.mpr (hescape s hs))]
      exact hliteral.no_dots s hs
    have hread : ((Http.segments t).map requote).map Py.unquote = Http.segments t := by
      rw [List.map_map]
      refine (List.map_congr_left fun s hs => ?_).trans (List.map_id _)
      exact (h.unquote s).trans (unquote_of_no_escape (Bool.eq_false_iff.mpr (hescape s hs)))
    rw [h.unquote_removeDotSegments, resolve_of_no_dots [] hdots, List.reverse_nil,
      List.nil_append, hread, joinSegments_segments]

end Requotes

end Http
