import Mathlib.Data.List.Basic

/-!
# Runs of a step function — invariants, guarded runs, simulation, traces

A component is a state type `S`, an event type `E` and a step function.  A run is the
fold of the step function over a list of events, so a statement about every run is a
statement about every list.  Five notions carry all later developments.

1. **Invariants.**  `run_invariant`: what one step preserves, every run preserves.

2. **Guarded runs.**  `AllSteps ok` says that every step of the run is taken in a state
   in which `ok` allows it.  `run_guarded` is the invariant rule for such runs; it is
   what a result about the well-behaved runs of a component is proved with.

3. **Simulation.**  `withSpec` runs a component and its specification side by side, the
   specification on the translated events; `run_simulation` keeps a relation between
   their states.

4. **Traces.**  `trace` lists what the steps of a run contribute, in order; `trace_indexed`
   speaks about the entry at a place, `log_iff` says when all that a log in the state has
   gathered is as it should be.

5. **Progress.**  `LeadsTo` says that repeating one event ends in a state with a given
   property; `leadsTo_trans` chains such facts.

Nothing here names a particular component.
-/

namespace Runs

variable {S E T F U : Type}

/-! ## Runs -/

/-- The state a component is in after a list of events. -/
def run (step : S → E → S) (s : S) (es : List E) : S := es.foldl step s

@[simp] theorem run_nil (step : S → E → S) (s : S) : run step s [] = s := rfl

@[simp] theorem run_cons (step : S → E → S) (s : S) (e : E) (es : List E) :
    run step s (e :: es) = run step (step s e) es := rfl

theorem run_append (step : S → E → S) (s : S) (es fs : List E) :
    run step s (es ++ fs) = run step (run step s es) fs := by
  simp only [run, List.foldl_append]

theorem run_snoc (step : S → E → S) (s : S) (es : List E) (e : E) :
    run step s (es ++ [e]) = step (run step s es) e := by
  rw [run_append]; rfl

/-- **The invariant rule.**  A property that every step preserves holds at the end of
    every run that starts with it. -/
theorem run_invariant {step : S → E → S} (Inv : S → Prop)
    (hstep : ∀ s e, Inv s → Inv (step s e)) {s : S} (hs : Inv s) (es : List E) :
    Inv (run step s es) := by
  induction es generalizing s with
  | nil => exact hs
  | cons e es ih => exact ih (hstep s e hs)

/-! ## Guarded runs -/

/-- Every step of the run is taken in a state where `ok` allows its event. -/
def AllSteps (step : S → E → S) (ok : S → E → Prop) : S → List E → Prop
  | _, [] => True
  | s, e :: es => ok s e ∧ AllSteps step ok (step s e) es

instance decidableAllSteps {step : S → E → S} {ok : S → E → Prop}
    [∀ s e, Decidable (ok s e)] : ∀ s es, Decidable (AllSteps step ok s es)
  | _, [] => inferInstanceAs (Decidable True)
  | s, e :: es =>
      have : Decidable (AllSteps step ok (step s e) es) := decidableAllSteps (step s e) es
      inferInstanceAs (Decidable (ok s e ∧ AllSteps step ok (step s e) es))

theorem allSteps_append {step : S → E → S} {ok : S → E → Prop} {s : S} {es fs : List E} :
    AllSteps step ok s (es ++ fs) ↔
      AllSteps step ok s es ∧ AllSteps step ok (run step s es) fs := by
  induction es generalizing s with
  | nil => exact ⟨fun h => ⟨trivial, h⟩, fun h => h.2⟩
  | cons e es ih =>
      constructor
      · intro h
        obtain ⟨hes, hfs⟩ := ih.mp h.2
        exact ⟨⟨h.1, hes⟩, hfs⟩
      · rintro ⟨⟨hok, hes⟩, hfs⟩
        exact ⟨hok, ih.mpr ⟨hes, hfs⟩⟩

theorem allSteps_of_mem {step : S → E → S} {ok : S → E → Prop} {s : S} {es : List E}
    (h : ∀ s, ∀ e ∈ es, ok s e) : AllSteps step ok s es := by
  induction es generalizing s with
  | nil => trivial
  | cons e es ih => exact ⟨h s e (by simp), ih fun s f hf => h s f (by simp [hf])⟩

/-- A guard and a property of the events. -/
theorem allSteps_and_mem {step : S → E → S} {ok : S → E → Prop} {P : E → Prop} {s : S}
    {es : List E} (hes : AllSteps step ok s es) (h : ∀ e ∈ es, P e) :
    AllSteps step (fun s e => ok s e ∧ P e) s es := by
  induction es generalizing s with
  | nil => trivial
  | cons e es ih => exact ⟨⟨hes.1, h e (by simp)⟩, ih hes.2 fun f hf => h f (by simp [hf])⟩

/-- **The invariant rule for guarded runs.** -/
theorem run_guarded {step : S → E → S} {ok : S → E → Prop} (Inv : S → Prop)
    (hstep : ∀ s e, Inv s → ok s e → Inv (step s e)) {s : S} (hs : Inv s)
    {es : List E} (hes : AllSteps step ok s es) : Inv (run step s es) := by
  induction es generalizing s with
  | nil => exact hs
  | cons e es ih => exact ih (hstep s e hs hes.1) hes.2

/-- **What every guarded step of a run has.**  It follows from an invariant. -/
theorem allSteps_guarded {step : S → E → S} {ok P : S → E → Prop} (Inv : S → Prop)
    (hstep : ∀ s e, Inv s → ok s e → Inv (step s e)) (hP : ∀ s e, Inv s → ok s e → P s e)
    {s : S} (hs : Inv s) {es : List E} (hes : AllSteps step ok s es) :
    AllSteps step P s es := by
  induction es generalizing s with
  | nil => trivial
  | cons e es ih => exact ⟨hP s e hs hes.1, ih (hstep s e hs hes.1) hes.2⟩

/-- Two guards that agree wherever the invariant holds allow the same runs. -/
theorem allSteps_iff {step : S → E → S} {P Q : S → E → Prop} (Inv : S → Prop)
    (hstep : ∀ s e, Inv s → P s e → Inv (step s e)) (hPQ : ∀ s e, Inv s → (P s e ↔ Q s e))
    {s : S} (hs : Inv s) {es : List E} : AllSteps step P s es ↔ AllSteps step Q s es := by
  induction es generalizing s with
  | nil => exact Iff.rfl
  | cons e es ih =>
      constructor
      · rintro ⟨hP, hes⟩
        exact ⟨(hPQ s e hs).mp hP, (ih (hstep s e hs hP)).mp hes⟩
      · rintro ⟨hQ, hes⟩
        have hP := (hPQ s e hs).mpr hQ
        exact ⟨hP, (ih (hstep s e hs hP)).mpr hes⟩

/-- The same, in a run that is known to be guarded. -/
theorem allSteps_iff_guarded {step : S → E → S} {ok P Q : S → E → Prop} (Inv : S → Prop)
    (hstep : ∀ s e, Inv s → ok s e → P s e → Inv (step s e))
    (hPQ : ∀ s e, Inv s → ok s e → (P s e ↔ Q s e)) {s : S} (hs : Inv s) {es : List E}
    (hes : AllSteps step ok s es) : AllSteps step P s es ↔ AllSteps step Q s es := by
  induction es generalizing s with
  | nil => exact Iff.rfl
  | cons e es ih =>
      obtain ⟨hok, hrest⟩ := hes
      constructor
      · rintro ⟨hP, hes⟩
        exact ⟨(hPQ s e hs hok).mp hP, (ih (hstep s e hs hok hP) hrest).mp hes⟩
      · rintro ⟨hQ, hes⟩
        have hP := (hPQ s e hs hok).mpr hQ
        exact ⟨hP, (ih (hstep s e hs hok hP) hrest).mpr hes⟩

/-! ## Simulation -/

/-- A component and its specification side by side.  The specification takes the events
    the component's event stands for: several, one, or none. -/
def withSpec (step : S → E → S) (spec : T → F → T) (tr : S → E → List F) :
    S × T → E → S × T :=
  fun p e => (step p.1 e, run spec p.2 (tr p.1 e))

/-- The specification does not disturb the component. -/
theorem run_withSpec_fst (step : S → E → S) (spec : T → F → T) (tr : S → E → List F)
    (p : S × T) (es : List E) :
    (run (withSpec step spec tr) p es).1 = run step p.1 es := by
  induction es generalizing p with
  | nil => rfl
  | cons e es ih => exact ih (withSpec step spec tr p e)

/-- When the translation does not look at the state, the specification runs on the
    translated list. -/
theorem run_withSpec_snd (step : S → E → S) (spec : T → F → T) (tr : E → List F)
    (p : S × T) (es : List E) :
    (run (withSpec step spec fun _ => tr) p es).2 = run spec p.2 (es.flatMap tr) := by
  induction es generalizing p with
  | nil => rfl
  | cons e es ih =>
      rw [run_cons, ih, List.flatMap_cons, run_append]
      rfl

/-- A guard on a part that runs on its own is a guard on the run of that part. -/
theorem allSteps_map {step : S → E → S} {spec : T → E → T} (f : S → T) (ok : T → E → Prop)
    (hstep : ∀ s e, f (step s e) = spec (f s) e) {s : S} {es : List E} :
    AllSteps step (fun s e => ok (f s) e) s es ↔ AllSteps spec ok (f s) es := by
  induction es generalizing s with
  | nil => exact Iff.rfl
  | cons e es ih =>
      refine and_congr_right fun _ => ?_
      rw [ih, hstep]

/-- A guard on the component alone is a guard on the pair. -/
theorem allSteps_withSpec {step : S → E → S} {spec : T → F → T} {tr : S → E → List F}
    {ok : S → E → Prop} {p : S × T} {es : List E} :
    AllSteps (withSpec step spec tr) (fun q e => ok q.1 e) p es ↔
      AllSteps step ok p.1 es := by
  induction es generalizing p with
  | nil => exact Iff.rfl
  | cons e es ih => exact and_congr_right fun _ => ih

/-- **The simulation rule.**  A relation between component and specification that every
    guarded step keeps is kept by every guarded run. -/
theorem run_simulation {step : S → E → S} {spec : T → F → T} (tr : S → E → List F)
    {ok : S → E → Prop} (R : S → T → Prop)
    (hstep : ∀ s t e, R s t → ok s e → R (step s e) (run spec t (tr s e)))
    {s : S} {t : T} (hR : R s t) {es : List E} (hes : AllSteps step ok s es) :
    R (run (withSpec step spec tr) (s, t) es).1 (run (withSpec step spec tr) (s, t) es).2 :=
  have hpair : AllSteps (withSpec step spec tr) (fun q e => ok q.1 e) (s, t) es :=
    allSteps_withSpec.mpr hes
  run_guarded (fun q => R q.1 q.2) (fun q e hq hok => hstep q.1 q.2 e hq hok) hR hpair

/-! ## Traces -/

/-- What the steps of a run contribute, in order. -/
def trace (step : S → E → S) (f : S → E → List T) : S → List E → List T
  | _, [] => []
  | s, e :: es => f s e ++ trace step f (step s e) es

@[simp] theorem trace_nil (step : S → E → S) (f : S → E → List T) (s : S) :
    trace step f s [] = [] := rfl

@[simp] theorem trace_cons (step : S → E → S) (f : S → E → List T) (s : S) (e : E)
    (es : List E) : trace step f s (e :: es) = f s e ++ trace step f (step s e) es := rfl

theorem trace_append (step : S → E → S) (f : S → E → List T) (s : S) (es fs : List E) :
    trace step f s (es ++ fs) = trace step f s es ++ trace step f (run step s es) fs := by
  induction es generalizing s with
  | nil => rfl
  | cons e es ih =>
      rw [List.cons_append, trace_cons, trace_cons, ih, List.append_assoc]
      rfl

/-- What a run contributes comes from one of its steps. -/
theorem mem_trace {step : S → E → S} {f : S → E → List T} {s : S} {es : List E} {t : T}
    (h : t ∈ trace step f s es) : ∃ s', ∃ e ∈ es, t ∈ f s' e := by
  induction es generalizing s with
  | nil => cases h
  | cons e es ih =>
      rcases List.mem_append.mp h with h | h
      · exact ⟨s, e, List.mem_cons_self, h⟩
      · obtain ⟨s', e', he', ht⟩ := ih h
        exact ⟨s', e', List.mem_cons_of_mem e he', ht⟩

/-- **The invariant rule for traces.**  An invariant between the state and what the run has
    contributed so far. -/
theorem trace_guarded {step : S → E → S} {f : S → E → List T} {ok : S → E → Prop}
    (Inv : S → List T → Prop)
    (hstep : ∀ s ts e, Inv s ts → ok s e → Inv (step s e) (ts ++ f s e)) {s : S} {ts : List T}
    (hs : Inv s ts) {es : List E} (hes : AllSteps step ok s es) :
    Inv (run step s es) (ts ++ trace step f s es) := by
  induction es generalizing s ts with
  | nil => simpa using hs
  | cons e es ih =>
      rw [trace_cons, ← List.append_assoc]
      exact ih (hstep s ts e hs hes.1) hes.2

/-- The same for two contributions side by side. -/
theorem traces_guarded {step : S → E → S} {f : S → E → List T} {g : S → E → List U}
    {ok : S → E → Prop} (Inv : S → List T → List U → Prop)
    (hstep : ∀ s ts us e, Inv s ts us → ok s e → Inv (step s e) (ts ++ f s e) (us ++ g s e))
    {s : S} {ts : List T} {us : List U} (hs : Inv s ts us) {es : List E}
    (hes : AllSteps step ok s es) :
    Inv (run step s es) (ts ++ trace step f s es) (us ++ trace step g s es) := by
  induction es generalizing s ts us with
  | nil => simpa using hs
  | cons e es ih =>
      rw [trace_cons, trace_cons, ← List.append_assoc, ← List.append_assoc]
      exact ih (hstep s ts us e hs hes.1) hes.2

/-- **The indexed rule for traces.**  The invariant knows how many entries there are: a step
    adds none, or one that has the property of its place. -/
theorem trace_indexed {step : S → E → S} {f : S → E → List T} (Inv : Nat → S → Prop)
    (P : Nat → T → Prop)
    (hstep : ∀ n s e, Inv n s → (f s e = [] ∧ Inv n (step s e)) ∨
      ∃ t, f s e = [t] ∧ P n t ∧ Inv (n + 1) (step s e))
    {n : Nat} {s : S} (hs : Inv n s) {es : List E} {k : Nat} {t : T}
    (h : (trace step f s es)[k]? = some t) : P (n + k) t := by
  induction es generalizing n s k with
  | nil => cases h
  | cons e es ih =>
      rw [trace_cons] at h
      rcases hstep n s e hs with ⟨hf, hnext⟩ | ⟨u, hf, hu, hnext⟩
      · rw [hf, List.nil_append] at h
        exact ih hnext h
      · rw [hf, List.singleton_append] at h
        cases k with
        | zero =>
            obtain rfl : u = t := Option.some.inj h
            exact hu
        | succ k =>
            have hrest := ih hnext h
            rw [Nat.add_right_comm] at hrest
            exact hrest

/-- **All entries of a log** that the steps add to are as they should be exactly when each
    step adds only such entries. -/
theorem log_iff {step : S → E → S} {log : S → List T} {P : T → Prop} {ok : S → E → Prop}
    (Inv : S → Prop) (hinv : ∀ s e, Inv s → Inv (step s e))
    (hstep : ∀ s e, Inv s →
      ((∀ t ∈ log (step s e), P t) ↔ (∀ t ∈ log s, P t) ∧ ok s e))
    {s : S} (hs : Inv s) (es : List E) :
    (∀ t ∈ log (run step s es), P t) ↔ (∀ t ∈ log s, P t) ∧ AllSteps step ok s es := by
  induction es generalizing s with
  | nil => exact ⟨fun h => ⟨h, trivial⟩, fun h => h.1⟩
  | cons e es ih =>
      rw [run_cons, ih (hinv s e hs), hstep s e hs]
      exact and_assoc

/-! ## Progress -/

/-- Repeating the event `e` leads from `s` to a state with `P`. -/
def LeadsTo (step : S → E → S) (e : E) (P : S → Prop) (s : S) : Prop :=
  ∃ k, P (run step s (List.replicate k e))

theorem leadsTo_now {step : S → E → S} {e : E} {P : S → Prop} {s : S} (h : P s) :
    LeadsTo step e P s := ⟨0, h⟩

theorem leadsTo_step {step : S → E → S} {e : E} {P : S → Prop} {s : S}
    (h : LeadsTo step e P (step s e)) : LeadsTo step e P s := by
  obtain ⟨k, hk⟩ := h
  exact ⟨k + 1, hk⟩

/-- **Progress composes.** -/
theorem leadsTo_trans {step : S → E → S} {e : E} {P Q : S → Prop} {s : S}
    (h : LeadsTo step e Q s) (hq : ∀ t, Q t → LeadsTo step e P t) : LeadsTo step e P s := by
  obtain ⟨k, hk⟩ := h
  obtain ⟨j, hj⟩ := hq _ hk
  refine ⟨k + j, ?_⟩
  rw [List.replicate_add, run_append]
  exact hj

end Runs
