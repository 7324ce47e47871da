import Mathlib.Data.List.Basic

/-!
# Loops that read a stream

A loop takes its state and what is left of a stream, and one round either stops it or gives
some output, the next state, and what is left then.  `Reads` is some rounds of it, up to a
place in the stream.  Where every round reads something (`Consumes`), a place is reached in
one way only (`Reads.unique`), a longer way passes through it (`Reads.after`), and the whole
loop goes on from there (`runAll_reads`).
-/

namespace StreamReader

variable {σ ο α : Type}

/-- One round of a loop. -/
abbrev Round (σ ο α : Type) := σ → List α → Option (List ο × σ × List α)

/-- Rounds that lead from a state and a stream to a state and the rest of the stream. -/
inductive Reads (round : Round σ ο α) : σ → List α → List ο → σ → List α → Prop where
  | here (s : σ) (input : List α) : Reads round s input [] s input
  | next {s s' t : σ} {input rest final : List α} {out log : List ο} :
      round s input = some (out, s', rest) → Reads round s' rest log t final →
      Reads round s input (out ++ log) t final

/-- Every round reads something. -/
def Consumes (round : Round σ ο α) : Prop :=
  ∀ s input out s' rest, round s input = some (out, s', rest) →
    ∃ consumed, consumed ≠ [] ∧ input = consumed ++ rest

/-- The loop, for at most so many rounds. -/
def runFor (round : Round σ ο α) : Nat → σ → List α → List ο × σ
  | 0, s, _ => ([], s)
  | n + 1, s, input =>
      match round s input with
      | none => ([], s)
      | some (out, s', rest) =>
          let (log, t) := runFor round n s' rest
          (out ++ log, t)

/-- The loop until it stops. -/
def runAll (round : Round σ ο α) (s : σ) (input : List α) : List ο × σ :=
  runFor round (input.length + 1) s input

variable {round : Round σ ο α} {s t u : σ} {input rest final : List α} {out log : List ο}

theorem runFor_stop {n : Nat} (h : round s input = none) :
    runFor round (n + 1) s input = ([], s) := by
  rw [runFor, h]

theorem runFor_next {n : Nat} (h : round s input = some (out, t, rest)) :
    runFor round (n + 1) s input =
      (out ++ (runFor round n t rest).1, (runFor round n t rest).2) := by
  rw [runFor, h]

theorem Reads.once (h : round s input = some (out, t, rest)) : Reads round s input out t rest := by
  have hreads := Reads.next h (Reads.here t rest)
  rwa [List.append_nil] at hreads

theorem Reads.trans (hfirst : Reads round s input out t rest)
    (hlast : Reads round t rest log u final) : Reads round s input (out ++ log) u final := by
  induction hfirst with
  | here => exact hlast
  | next hround _ ih =>
      rw [List.append_assoc]
      exact Reads.next hround (ih hlast)

section Consumes

/-- A round leaves less than it found. -/
theorem Consumes.length_lt (hround : Consumes round)
    (h : round s input = some (out, t, rest)) : rest.length < input.length := by
  obtain ⟨consumed, hne, rfl⟩ := hround s input out t rest h
  have hpos := List.length_pos_of_ne_nil hne
  rw [List.length_append]
  omega

theorem Reads.length_le (hround : Consumes round) (h : Reads round s input out t rest) :
    rest.length ≤ input.length := by
  induction h with
  | here => exact Nat.le_refl _
  | next hstep _ ih => exact Nat.le_trans ih (Nat.le_of_lt (hround.length_lt hstep))

/-- Rounds that leave the stream as it was are none. -/
theorem Reads.stays (hround : Consumes round) (h : Reads round s input out t input) :
    out = [] ∧ s = t := by
  cases h with
  | here => exact ⟨rfl, rfl⟩
  | next hstep htail =>
      have hlt := hround.length_lt hstep
      have hle := htail.length_le hround
      omega

/-- **A longer way passes through every place before its end.** -/
theorem Reads.after (hround : Consumes round) {mid : List α} {out' : List ο}
    (hmid : Reads round s input out t mid) (hend : Reads round s input out' u final)
    (hle : final.length ≤ mid.length) :
    ∃ log, out' = out ++ log ∧ Reads round t mid log u final := by
  induction hmid generalizing out' with
  | here => exact ⟨out', rfl, hend⟩
  | next hstep hrest ih =>
      cases hend with
      | here =>
          have hlt := hround.length_lt hstep
          have hle' := hrest.length_le hround
          omega
      | next hstep' htail =>
          rw [hstep] at hstep'
          cases hstep'
          obtain ⟨log, rfl, hlog⟩ := ih htail hle
          exact ⟨log, (List.append_assoc _ _ _).symm, hlog⟩

/-- **A place is reached in one way.** -/
theorem Reads.unique (hround : Consumes round) {out' : List ο}
    (h : Reads round s input out t rest) (h' : Reads round s input out' u rest) :
    out' = out ∧ t = u := by
  obtain ⟨log, rfl, hlog⟩ := h.after hround h' (Nat.le_refl _)
  obtain ⟨rfl, rfl⟩ := hlog.stays hround
  exact ⟨List.append_nil _, rfl⟩

/-- More rounds than there are things to read make no difference. -/
theorem runFor_enough (hround : Consumes round) {n m : Nat} (hn : input.length < n)
    (hm : input.length < m) : runFor round n s input = runFor round m s input := by
  induction n generalizing m s input with
  | zero => exact absurd hn (Nat.not_lt_zero _)
  | succ n ih =>
      cases m with
      | zero => exact absurd hm (Nat.not_lt_zero _)
      | succ m =>
          cases hstep : round s input with
          | none => rw [runFor_stop hstep, runFor_stop hstep]
          | some r =>
              obtain ⟨out, s', rest⟩ := r
              have hlt := hround.length_lt hstep
              have htail : runFor round n s' rest = runFor round m s' rest :=
                ih (by omega) (by omega)
              rw [runFor_next hstep, runFor_next hstep, htail]

/-- **The loop goes on** from every place that it reaches. -/
theorem runAll_reads (hround : Consumes round) (h : Reads round s input out t rest) :
    runAll round s input = (out ++ (runAll round t rest).1, (runAll round t rest).2) := by
  induction h with
  | here => rfl
  | @next s s' t input rest final out log hstep _ ih =>
      have hlt := hround.length_lt hstep
      have henough : runFor round input.length s' rest = runAll round s' rest :=
        runFor_enough hround hlt (Nat.lt_succ_self _)
      rw [runAll, runFor_next hstep, henough, ih, List.append_assoc]

end Consumes

end StreamReader
