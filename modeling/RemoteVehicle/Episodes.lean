import Mathlib.Data.List.Basic
import Mathlib.Order.Basic

/-!
# Episodes of a condition

A condition is reported on now and then: a report says whether the condition holds and when
this was seen.  An episode begins with a report that it holds after one that it does not, or
after none, and ends with the next report that it does not hold.

`onsets` lists the times at which the episodes of a list of reports began; `ongoing` says
whether the last one has not ended.
-/

namespace Episodes

variable {T : Type}

/-- A report on a condition. -/
structure Report (T : Type) where
  holds : Bool
  time : T
deriving DecidableEq, Repr

/-- Whether the condition holds after the reports, when it does before them or not. -/
def ongoingFrom : Bool → List (Report T) → Bool
  | before, [] => before
  | _, r :: rs => ongoingFrom r.holds rs

/-- The times of the reports with which an episode begins. -/
def onsetsFrom : Bool → List (Report T) → List T
  | _, [] => []
  | before, r :: rs => (if r.holds && !before then [r.time] else []) ++ onsetsFrom r.holds rs

/-- The last episode has not ended. -/
def ongoing (rs : List (Report T)) : Bool := ongoingFrom false rs

/-- The times at which the episodes began. -/
def onsets (rs : List (Report T)) : List T := onsetsFrom false rs

theorem ongoingFrom_snoc (before : Bool) (rs : List (Report T)) (r : Report T) :
    ongoingFrom before (rs ++ [r]) = r.holds := by
  induction rs generalizing before with
  | nil => rfl
  | cons q rs ih => exact ih q.holds

theorem onsetsFrom_snoc (before : Bool) (rs : List (Report T)) (r : Report T) :
    onsetsFrom before (rs ++ [r]) =
      onsetsFrom before rs ++ if r.holds && !ongoingFrom before rs then [r.time] else [] := by
  induction rs generalizing before with
  | nil => exact (List.append_nil _).trans (List.nil_append _).symm
  | cons q rs ih =>
      rw [List.cons_append, onsetsFrom, onsetsFrom, ongoingFrom, ih, List.append_assoc]

@[simp] theorem ongoing_snoc (rs : List (Report T)) (r : Report T) :
    ongoing (rs ++ [r]) = r.holds := ongoingFrom_snoc false rs r

/-- **A new episode** begins with a report after the end of the last one. -/
theorem onsets_begin {rs : List (Report T)} (h : ongoing rs = false) (now : T) :
    onsets (rs ++ [⟨true, now⟩]) = onsets rs ++ [now] := by
  have h' : ongoingFrom false rs = false := h
  rw [onsets, onsetsFrom_snoc, h']
  rfl

/-- **An episode goes on** as long as it is reported. -/
theorem onsets_goOn {rs : List (Report T)} (h : ongoing rs = true) (now : T) :
    onsets (rs ++ [⟨true, now⟩]) = onsets rs := by
  have h' : ongoingFrom false rs = true := h
  rw [onsets, onsetsFrom_snoc, h']
  exact List.append_nil _

/-- **No episode** begins with a report that the condition does not hold. -/
theorem onsets_end (rs : List (Report T)) (now : T) :
    onsets (rs ++ [⟨false, now⟩]) = onsets rs := by
  rw [onsets, onsetsFrom_snoc]
  exact List.append_nil _

end Episodes
