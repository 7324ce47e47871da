import Mathlib.Data.List.Induction

/-!
# Reports that are merged until they can be sent

A notifier with one slot: the first report fills it, further reports are merged into it,
and a transmission empties it.  What is seen of such a notifier is a list of reports and of
frames.

* `unsent` are the reports since the last frame; the slot holds the first of them.
* `Faithful` says that every frame carries the first report since the frame before it, so
  that no frame comes without a report.
* `faithful_batches` is the reading of such a list: it falls into batches of reports, each
  closed by exactly one frame, and the reports that still wait.
-/

namespace Coalescing

variable {T M : Type}

/-- A report with its data, or a frame that left. -/
inductive Seen (T M : Type) where
  | report (t : T)
  | sent (m : M)
deriving DecidableEq, Repr

/-! ## Reports that wait -/

def unsentStep (ts : List T) : Seen T M → List T
  | .report t => ts ++ [t]
  | .sent _ => []

/-- The reports since the last frame, oldest first. -/
def unsent (tr : List (Seen T M)) : List T := tr.foldl unsentStep []

@[simp] theorem unsent_nil : unsent ([] : List (Seen T M)) = [] := rfl

@[simp] theorem unsent_report (tr : List (Seen T M)) (t : T) :
    unsent (tr ++ [.report t]) = unsent tr ++ [t] := by
  simp only [unsent, List.foldl_append, List.foldl_cons, List.foldl_nil, unsentStep]

@[simp] theorem unsent_sent (tr : List (Seen T M)) (m : M) : unsent (tr ++ [.sent m]) = [] := by
  simp only [unsent, List.foldl_append, List.foldl_cons, List.foldl_nil, unsentStep]

/-! ## Faithful lists -/

/-- Every frame is the frame of the first report since the frame before it. -/
def Faithful (frame : T → M) (tr : List (Seen T M)) : Prop :=
  ∀ p m q, tr = p ++ .sent m :: q → (unsent p).head?.map frame = some m

variable {frame : T → M} {tr : List (Seen T M)}

theorem faithful_nil : Faithful frame ([] : List (Seen T M)) := by
  intro p m q h
  exact absurd h.symm (by simp)

/-- Only the last entry is new. -/
theorem faithful_snoc_iff {o : Seen T M} :
    Faithful frame (tr ++ [o]) ↔
      Faithful frame tr ∧ ∀ m, o = .sent m → (unsent tr).head?.map frame = some m := by
  constructor
  · intro h
    refine ⟨?_, ?_⟩
    · intro p m q htr
      exact h p m (q ++ [o]) (by simp [htr])
    · rintro m rfl
      exact h tr m [] rfl
  · rintro ⟨hold, hnew⟩ p m q htr
    rcases List.eq_nil_or_concat q with rfl | ⟨q', o', rfl⟩
    · obtain ⟨rfl, ho⟩ := List.append_inj' htr rfl
      exact hnew m (List.singleton_inj.mp ho)
    · have htr : tr ++ [o] = (p ++ .sent m :: q') ++ [o'] := by simp [htr]
      obtain ⟨hp, -⟩ := List.append_inj' htr rfl
      exact hold p m q' hp

/-! ## Batches -/

/-- Reports that are merged into one frame. -/
structure Batch (T : Type) where
  first : T
  rest : List T

/-- The reports of a batch and its frame. -/
def Batch.closed (frame : T → M) (g : Batch T) : List (Seen T M) :=
  (g.first :: g.rest).map .report ++ [.sent (frame g.first)]

/-- **One frame for each batch**, and the reports that still wait. -/
theorem faithful_batches (h : Faithful frame tr) :
    ∃ gs : List (Batch T), tr = gs.flatMap (Batch.closed frame) ++ (unsent tr).map .report := by
  induction tr using List.reverseRecOn with
  | nil => exact ⟨[], rfl⟩
  | append_singleton tr o ih =>
      obtain ⟨hold, hnew⟩ := faithful_snoc_iff.mp h
      obtain ⟨gs, hgs⟩ := ih hold
      cases o with
      | report t =>
          refine ⟨gs, ?_⟩
          rw [unsent_report, List.map_append, ← List.append_assoc, ← hgs]
          rfl
      | sent m =>
          -- the frame closes the batch of all unsent reports and shows the first
          have hm := hnew m rfl
          rcases hts : unsent tr with _ | ⟨t, ts⟩
          · rw [hts] at hm
            exact absurd hm (by simp)
          · rw [hts] at hm hgs
            have hm : frame t = m := by simpa using hm
            refine ⟨gs ++ [⟨t, ts⟩], ?_⟩
            rw [unsent_sent, List.map_nil, List.append_nil, List.flatMap_append,
              List.flatMap_singleton, Batch.closed, hm, ← List.append_assoc, ← hgs]

/-! ## The slot -/

/-- The slot holds the first report that waits, and what was seen is faithful. -/
structure Holds (frame : T → M) (slot : Option T) (tr : List (Seen T M)) : Prop where
  slot : slot = (unsent tr).head?
  faithful : Faithful frame tr

theorem holds_nil : Holds frame none [] := ⟨rfl, faithful_nil⟩

/-- A report fills the slot, or is merged into it. -/
theorem Holds.report {slot : Option T} (h : Holds frame slot tr) (t : T) :
    Holds frame (some (slot.getD t)) (tr ++ [.report t]) := by
  refine ⟨?_, faithful_snoc_iff.mpr ⟨h.faithful, by simp⟩⟩
  rw [unsent_report, h.slot]
  rcases unsent tr with _ | ⟨u, us⟩
  · rfl
  · rfl

/-- A frame with the data of the slot empties it. -/
theorem Holds.sent {t : T} (h : Holds frame (some t) tr) :
    Holds frame none (tr ++ [.sent (frame t)]) := by
  refine ⟨by simp, faithful_snoc_iff.mpr ⟨h.faithful, ?_⟩⟩
  rintro m hm
  obtain rfl : frame t = m := by simpa using hm
  rw [← h.slot]
  rfl

/-- The slot is full exactly when a report waits. -/
theorem Holds.full_iff {slot : Option T} (h : Holds frame slot tr) :
    slot.isSome = true ↔ unsent tr ≠ [] := by
  rw [h.slot, List.isSome_head?]

end Coalescing
