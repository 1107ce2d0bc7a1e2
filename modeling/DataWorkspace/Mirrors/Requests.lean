import DataWorkspace.Py.Text

/-!
# Requests of the mirrors

A file is copied with a GET to its source and a PUT to the bucket that streams the answer.
Either may raise because the connection or the data fails, and then the file is tried again,
ten times at most.  The tries of a file are an input of the model: `attempt k` is what comes
of the `k`-th.

S3 stores an object in full or not at all, since its length is announced, so an object that
is there is there in full.
-/

namespace Mirrors

open Py

/-! ## One try -/

/-- A status code. -/
abbrev Code := Nat

inductive HttpError where
  | HttpConnectionError
  | HttpDataError
deriving DecidableEq, Repr

/-- The answer to the GET of a file. -/
structure FileResponse where
  code : Code
  content_length : Option Nat
  /-- What comes of reading an answer that is not needed. -/
  blackhole : Except HttpError Unit

/-- What comes of a PUT.  Where it raises, the object may have been stored all the same. -/
inductive PutResult where
  | answered (code : Code)
  | raised (e : HttpError) (stored : Bool)
  /-- The credentials for the bucket cannot be had. -/
  | no_credentials
deriving DecidableEq, Repr

/-- One try to copy a file: what comes of its GET, and of the PUT if it gets that far. -/
structure Attempt where
  get : Except HttpError FileResponse
  put : PutResult

/-- The end of a try. -/
inductive Ending where
  | done
  /-- A connection or data error, after which the file is tried again. -/
  | again (e : HttpError)
  /-- An exception that is not caught here. -/
  | raised
deriving DecidableEq, Repr

/-- The object is in the bucket after the PUT. -/
def PutResult.stores : PutResult → Bool
  | .answered code => code = 200
  | .raised _ stored => stored
  | .no_credentials => false

/-- One try, with `code` before and after. -/
def Attempt.run (a : Attempt) (code : Code) : Code × Ending :=
  match a.get with
  | .error e => (code, .again e)
  | .ok response =>
      if response.code ≠ 200 then
        match response.blackhole with
        | .ok _ => (response.code, .raised)
        | .error e => (response.code, .again e)
      else match response.content_length with
        | none => (response.code, .raised)
        | some _ =>
            match a.put with
            | .answered code => (code, .done)
            | .raised e _ => (response.code, .again e)
            | .no_credentials => (response.code, .raised)

/-- The try gets as far as the PUT. -/
def Attempt.puts (a : Attempt) : Bool :=
  match a.get with
  | .error _ => false
  | .ok response => response.code = 200 && response.content_length.isSome

/-- The file is in the bucket after the try. -/
def Attempt.stores (a : Attempt) : Bool := a.puts && a.put.stores

def Ending.fails : Ending → Bool
  | .again _ => true
  | _ => false

/-- The try ends with a connection or data error. -/
def Attempt.fails (a : Attempt) : Bool := (a.run 200).2.fails

/-- At most `n` tries, from the `k`-th on: `code` after them, unless an exception leaves them,
and whether the file was stored. -/
def tries (attempt : Nat → Attempt) : (n k : Nat) → Code → Option Code × Bool
  | 0, _, code => (some code, false)
  | n + 1, k, code =>
      match (attempt k).run code with
      | (code, .done) => (some code, (attempt k).stores)
      | (code, .again _) =>
          let rest := tries attempt n (k + 1) code
          (rest.1, (attempt k).stores || rest.2)
      | (_, .raised) => (none, false)

/-- Every try before the `k`-th fails, so that it is made. -/
def Made (attempt : Nat → Attempt) (k : Nat) : Prop := ∀ j < k, (attempt j).fails = true

/-- One of the ten tries stores the file. -/
def Copied (attempt : Nat → Attempt) : Prop :=
  ∃ k < 10, Made attempt k ∧ (attempt k).stores = true

/-- All ten tries fail, and none stores the file. -/
def GivenUp (attempt : Nat → Attempt) : Prop :=
  ∀ k < 10, (attempt k).fails = true ∧ (attempt k).stores = false

/-! ## The tries -/

section Tries

variable {a : Attempt} {attempt : Nat → Attempt} {code code' : Code}

/-- How a try ends and whether it stores the file: the cases of the answers. -/
theorem Attempt.run_cases (a : Attempt) (code : Code) :
    (∃ code' e, a.run code = (code', .again e) ∧ a.fails = true) ∨
      (∃ code', a.run code = (code', .raised) ∧ a.fails = false ∧ a.stores = false) ∨
      ∃ code', a.run code = (code', .done) ∧ a.fails = false ∧ a.stores = decide (code' = 200) := by
  obtain ⟨get, put⟩ := a
  cases get with
  | error e => exact .inl ⟨code, e, rfl, rfl⟩
  | ok response =>
      by_cases hcode : response.code = 200
      · cases hlength : response.content_length with
        | none => simp [run, fails, Ending.fails, stores, puts, hcode, hlength]
        | some length =>
            cases put <;>
              simp [run, fails, Ending.fails, stores, puts, PutResult.stores, hcode, hlength]
      · cases hread : response.blackhole <;>
          simp [run, fails, Ending.fails, stores, puts, hcode, hread]

theorem tries_stored : ∀ n k code, (tries attempt n k code).2 = true ↔
    ∃ j < n, (∀ i < j, (attempt (k + i)).fails = true) ∧ (attempt (k + j)).stores = true
  | 0, k, code => by simp [tries]
  | n + 1, k, code => by
      -- a try that does not fail is the last one
      have hlast (hfails : (attempt k).fails = false) :
          (∃ j < n + 1, (∀ i < j, (attempt (k + i)).fails = true) ∧
            (attempt (k + j)).stores = true) ↔ (attempt k).stores = true := by
        constructor
        · rintro ⟨j, -, hmade, hstores⟩
          cases j with
          | zero => exact hstores
          | succ j =>
              have hfirst := hmade 0 (Nat.succ_pos j)
              rw [Nat.add_zero, hfails] at hfirst
              cases hfirst
        · intro hstores
          exact ⟨0, Nat.succ_pos n, fun i hi => absurd hi (Nat.not_lt_zero i), hstores⟩
      rcases (attempt k).run_cases code with
        ⟨c, e, hrun, hfails⟩ | ⟨c, hrun, hfails, hstores⟩ | ⟨c, hrun, hfails, -⟩
      · have ih := tries_stored n (k + 1) c
        rw [tries, hrun]
        dsimp only
        rw [Bool.or_eq_true, ih]
        constructor
        · rintro (hstores | ⟨j, hj, hmade, hstores⟩)
          · exact ⟨0, Nat.succ_pos n, fun i hi => absurd hi (Nat.not_lt_zero i), hstores⟩
          · refine ⟨j + 1, Nat.succ_lt_succ hj, fun i hi => ?_, ?_⟩
            · cases i with
              | zero => exact hfails
              | succ i =>
                  rw [show k + (i + 1) = k + 1 + i by omega]
                  exact hmade i (Nat.lt_of_succ_lt_succ hi)
            · rwa [show k + (j + 1) = k + 1 + j by omega]
        · rintro ⟨j, hj, hmade, hstores⟩
          cases j with
          | zero => exact .inl hstores
          | succ j =>
              refine .inr ⟨j, Nat.lt_of_succ_lt_succ hj, fun i hi => ?_, ?_⟩
              · rw [show k + 1 + i = k + (i + 1) by omega]
                exact hmade (i + 1) (Nat.succ_lt_succ hi)
              · rwa [show k + 1 + j = k + (j + 1) by omega]
      · rw [hlast hfails, tries, hrun, hstores]
      · rw [hlast hfails, tries, hrun]

theorem tries_code : ∀ n k code, (tries attempt n k code).1 = some 200 →
    (∀ j < n, (attempt (k + j)).fails = true) ∨ (tries attempt n k code).2 = true
  | 0, _, _, _ => .inl fun j hj => absurd hj (Nat.not_lt_zero j)
  | n + 1, k, code, h => by
      rcases (attempt k).run_cases code with
        ⟨c, e, hrun, hfails⟩ | ⟨c, hrun, -, -⟩ | ⟨c, hrun, -, hstores⟩
      · rw [tries, hrun] at h ⊢
        dsimp only at h ⊢
        rcases tries_code n (k + 1) c h with hall | hstored
        · refine .inl fun j hj => ?_
          cases j with
          | zero => exact hfails
          | succ j =>
              rw [show k + (j + 1) = k + 1 + j by omega]
              exact hall j (Nat.lt_of_succ_lt_succ hj)
        · exact .inr (by rw [hstored, Bool.or_true])
      · rw [tries, hrun] at h
        cases h
      · rw [tries, hrun] at h ⊢
        obtain rfl := Option.some.inj h
        exact .inr hstores

theorem tries_stored_iff_copied : (tries attempt 10 0 code).2 = true ↔ Copied attempt := by
  rw [tries_stored 10 0 code, Copied]
  simp only [Nat.zero_add, Made]

theorem tries_stored_iff (h : (tries attempt 10 0 code).1 = some 200) :
    (tries attempt 10 0 code).2 = true ↔ ¬ GivenUp attempt := by
  constructor
  · rw [tries_stored_iff_copied]
    rintro ⟨k, hk, -, hstores⟩ hgiven
    rw [(hgiven k hk).2] at hstores
    cases hstores
  · intro hnot
    rcases tries_code 10 0 code h with hall | hstored
    · simp only [Nat.zero_add] at hall
      rw [GivenUp] at hnot
      push Not at hnot
      obtain ⟨k, hk, hstores⟩ := hnot
      rw [tries_stored_iff_copied]
      exact ⟨k, hk, fun j hj => hall j (hj.trans hk),
        Bool.not_eq_false _ ▸ hstores (hall k hk)⟩
    · exact hstored

end Tries

end Mirrors
