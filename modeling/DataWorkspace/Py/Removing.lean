import Mathlib.Data.List.Chain
import Mathlib.Data.List.Nodup

/-!
# Removing from a list while it is iterated

The iterator of a Python list is a position.  When the body of a loop removes the element
it was given, the elements after it move up by one, and the next of them is never looked
at.

`removing_eq_sweep` says what a loop leaves that removes the elements that satisfy `p`.
In a run of such elements every second one is skipped (`mem_sweep_iff`), so that all of
them are removed exactly when no two stand side by side (`sweep_removes_all_iff`).
-/

namespace Py

variable {α : Type}

/-! ## The loop -/

section Loop

variable [DecidableEq α] (p : α → Bool)

/-- `for x in l: if p(x): l.remove(x)`, from a position on. -/
def removingFrom (i : Nat) (l : List α) : List α :=
  if h : i < l.length then
    removingFrom (i + 1) (if p l[i] then l.erase l[i] else l)
  else l
termination_by l.length - i
decreasing_by
  split
  next => have := List.length_erase_le (a := l[i]) (l := l); omega
  next => omega

/-- The whole loop. -/
def removing (l : List α) : List α := removingFrom p 0 l

end Loop

/-- What the loop leaves.  The element after a removed one is kept. -/
@[grind =]
def sweep (p : α → Bool) : List α → List α
  | [] => []
  | [x] => if p x then [] else [x]
  | x :: y :: rest => if p x then y :: sweep p rest else x :: sweep p (y :: rest)

section

variable {p : α → Bool}

theorem removingFrom_append [DecidableEq α] (l : List α) : ∀ before : List α,
    (before ++ l).Nodup →
      removingFrom p before.length (before ++ l) = before ++ sweep p l := by
  fun_induction sweep p l with
  | case1 =>
      intro before _
      rw [removingFrom]
      simp
  | case2 x hx =>
      intro before hnodup
      have hnot : x ∉ before := by
        intro h
        exact (List.nodup_append.mp hnodup).2.2 x h x (List.mem_singleton_self x) rfl
      rw [removingFrom, dif_pos (by simp)]
      simp only [List.getElem_append_right (Nat.le_refl _), Nat.sub_self, List.getElem_cons_zero,
        hx, if_true]
      rw [List.erase_append_right _ hnot, removingFrom]
      simp
  | case3 x hx =>
      intro before _
      rw [removingFrom, dif_pos (by simp)]
      simp only [List.getElem_append_right (Nat.le_refl _), Nat.sub_self, List.getElem_cons_zero,
        hx]
      rw [removingFrom]
      simp
  | case4 x y rest hx ih =>
      intro before hnodup
      have hnot : x ∉ before := by
        intro h
        exact (List.nodup_append.mp hnodup).2.2 x h x List.mem_cons_self rfl
      have hstep := ih (before ++ [y]) (by
        rw [List.append_assoc]
        exact hnodup.sublist (List.Sublist.append (.refl _) (List.sublist_cons_self x _)))
      rw [removingFrom, dif_pos (by simp)]
      simp only [List.getElem_append_right (Nat.le_refl _), Nat.sub_self, List.getElem_cons_zero,
        hx, if_true]
      rw [List.erase_append_right _ hnot, List.erase_cons_head]
      simpa using hstep
  | case5 x y rest hx ih =>
      intro before hnodup
      have hstep := ih (before ++ [x]) (by rwa [List.append_assoc])
      rw [removingFrom, dif_pos (by simp)]
      simp only [List.getElem_append_right (Nat.le_refl _), Nat.sub_self, List.getElem_cons_zero,
        hx]
      simpa using hstep

theorem removing_eq_sweep [DecidableEq α] {l : List α} (h : l.Nodup) :
    removing p l = sweep p l :=
  removingFrom_append l [] h

/-! ## What is left -/

theorem sweep_sublist (l : List α) : (sweep p l).Sublist l := by
  fun_induction sweep p l with
  | case1 => exact .refl _
  | case2 => exact List.nil_sublist _
  | case3 => exact .refl _
  | case4 x y rest _ ih => exact (ih.cons_cons y).cons x
  | case5 x y rest _ ih => exact ih.cons_cons x

theorem mem_sweep_of_not {l : List α} {z : α} (hz : z ∈ l) (hp : p z = false) :
    z ∈ sweep p l := by
  fun_induction sweep p l with
  | case1 => exact hz
  | case2 x hx =>
      obtain rfl := List.mem_singleton.mp hz
      exact absurd hx (by simp [hp])
  | case3 => exact hz
  | case4 x y rest hx ih =>
      rcases List.mem_cons.mp hz with rfl | hz
      · exact absurd hx (by simp [hp])
      · exact List.mem_cons.mpr ((List.mem_cons.mp hz).imp_right ih)
  | case5 x y rest hx ih => exact List.mem_cons.mpr ((List.mem_cons.mp hz).imp_right ih)

/-- In the run of elements that satisfy `p` an odd number stand before this one. -/
def Skipped (p : α → Bool) (l : List α) (z : α) : Prop :=
  ∃ before run after, l = before ++ run ++ z :: after ∧
    (∀ y ∈ before.getLast?, p y = false) ∧ (∀ y ∈ run, p y = true) ∧ run.length % 2 = 1

theorem not_skipped_nil {z : α} : ¬ Skipped p [] z := by
  rintro ⟨before, run, after, h, -⟩
  simp at h

theorem not_skipped_singleton {x z : α} : ¬ Skipped p [x] z := by
  rintro ⟨before, run, after, h, -, -, hodd⟩
  have hlength := congrArg List.length h
  simp only [List.length_append, List.length_cons, List.length_nil] at hlength
  omega

theorem skipped_cons_of_not {x z : α} {l : List α} (hx : p x = false) :
    Skipped p (x :: l) z ↔ Skipped p l z := by
  constructor
  · rintro ⟨before, run, after, h, hlast, hrun, hodd⟩
    cases before with
    | nil =>
        cases run with
        | nil => simp at hodd
        | cons y run =>
            obtain rfl : x = y := by simpa using (List.cons.inj h).1
            exact absurd (hrun x List.mem_cons_self) (by simp [hx])
    | cons y before =>
        refine ⟨before, run, after, by simpa using (List.cons.inj h).2, fun w hw => ?_, hrun, hodd⟩
        refine hlast w ?_
        rw [List.getLast?_cons, Option.mem_def.mp hw]
        rfl
  · rintro ⟨before, run, after, rfl, hlast, hrun, hodd⟩
    refine ⟨x :: before, run, after, rfl, fun w hw => ?_, hrun, hodd⟩
    rw [List.getLast?_cons] at hw
    cases hl : before.getLast? with
    | none =>
        rw [hl] at hw
        obtain rfl : x = w := by simpa using hw
        exact hx
    | some y =>
        rw [hl] at hw
        obtain rfl : y = w := by simpa using hw
        exact hlast y hl

/-- The second element of a run is skipped, and from the third on it is as if the run
began there. -/
theorem skipped_cons_cons {x y z : α} {l : List α} (hx : p x = true) :
    Skipped p (x :: y :: l) z ↔ z = y ∨ Skipped p l z := by
  constructor
  · rintro ⟨before, run, after, h, hlast, hrun, hodd⟩
    cases before with
    | nil =>
        cases run with
        | nil => simp at hodd
        | cons x' run =>
            have htail : y :: l = run ++ z :: after := by simpa using (List.cons.inj h).2
            cases run with
            | nil => exact .inl (List.cons.inj htail).1.symm
            | cons y' run =>
                refine .inr ⟨[], run, after, (List.cons.inj htail).2, by simp, fun w hw => ?_, ?_⟩
                · exact hrun w (List.mem_cons_of_mem _ (List.mem_cons_of_mem _ hw))
                · simp only [List.length_cons] at hodd
                  omega
    | cons x' before =>
        obtain rfl : x = x' := by simpa using (List.cons.inj h).1
        have htail : y :: l = before ++ run ++ z :: after := by simpa using (List.cons.inj h).2
        cases before with
        | nil => exact absurd (hlast x (by simp)) (by simp [hx])
        | cons y' before =>
            refine .inr ⟨before, run, after, by simpa using (List.cons.inj htail).2,
              fun w hw => ?_, hrun, hodd⟩
            refine hlast w ?_
            rw [List.getLast?_cons, List.getLast?_cons, Option.mem_def.mp hw]
            rfl
  · rintro (rfl | hskipped)
    · exact ⟨[], [x], l, rfl, by simp, by simp [hx], rfl⟩
    · obtain ⟨before, run, after, rfl, hlast, hrun, hodd⟩ := hskipped
      cases before with
      | nil =>
          cases hy : p y with
          | false => exact ⟨[x, y], run, after, rfl, by simp [hy], hrun, hodd⟩
          | true =>
              refine ⟨[], x :: y :: run, after, rfl, by simp, by simpa [hx, hy] using hrun, ?_⟩
              simp only [List.length_cons]
              omega
      | cons w before =>
          refine ⟨x :: y :: w :: before, run, after, rfl, fun v hv => hlast v ?_, hrun, hodd⟩
          simpa [List.getLast?_cons] using hv

theorem mem_sweep_iff {l : List α} {z : α} (hz : p z = true) :
    z ∈ sweep p l ↔ Skipped p l z := by
  fun_induction sweep p l with
  | case1 => exact ⟨fun h => absurd h List.not_mem_nil, fun h => absurd h not_skipped_nil⟩
  | case2 x hx => exact ⟨fun h => absurd h List.not_mem_nil, fun h => absurd h not_skipped_singleton⟩
  | case3 x hx =>
      refine ⟨fun h => ?_, fun h => absurd h not_skipped_singleton⟩
      obtain rfl := List.mem_singleton.mp h
      exact absurd hz hx
  | case4 x y rest hx ih => rw [List.mem_cons, ih, skipped_cons_cons hx]
  | case5 x y rest hx ih =>
      rw [skipped_cons_of_not (by simpa using hx), ← ih, List.mem_cons]
      exact ⟨fun h => h.resolve_left fun hzx => hx (hzx ▸ hz), .inr⟩

/-- All elements that satisfy `p` are removed exactly when no two of them stand side by
side. -/
theorem sweep_removes_all_iff (l : List α) :
    (∀ z ∈ sweep p l, p z = false) ↔ l.IsChain fun a b => ¬ (p a = true ∧ p b = true) := by
  fun_induction sweep p l with
  | case1 => simp
  | case2 x hx => simp
  | case3 x hx => simpa using hx
  | case4 x y rest hx ih =>
      rw [List.forall_mem_cons, ih, List.isChain_cons_cons, List.isChain_cons]
      constructor
      · rintro ⟨hy, hrest⟩
        exact ⟨by simp [hy], by simp [hy], hrest⟩
      · rintro ⟨hxy, -, hrest⟩
        exact ⟨by simpa [hx] using hxy, hrest⟩
  | case5 x y rest hx ih =>
      rw [List.forall_mem_cons, ih, List.isChain_cons_cons]
      simp [hx]

end

end Py
