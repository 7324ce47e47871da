import Mathlib.Data.List.Infix

/-!
# Trouble codes and their history

A fault check either fails or passes.  A trouble code keeps three things: whether the last
check failed, a counter of the failures in a row that stops at a cap, and a latch that a
given number of failures in a row sets.  A clear resets counter and latch; whether it also
resets the first is a matter of policy.

1. **The record.**  `account_run` says what the record tells about the list of checks and
   clears that made it.

2. **Windows.**  A condition that must hold for a while is watched with a timer that
   counts up to a limit and starts again whenever the condition fails.  The timer is full
   exactly when the condition held at each of the last `limit` ticks (`full_iff`).

3. **Periodic checks.**  `Monitor` checks such a window every `period` ticks.
   `watched_tick` says which checks it makes and what they find.
-/

namespace FailHistory

/-! ## Failures in a row -/

/-- The length of the run of failures at the end. -/
def failsInARow (bs : List Bool) : Nat := (bs.reverse.takeWhile id).length

@[simp] theorem failsInARow_nil : failsInARow [] = 0 := rfl

@[simp] theorem failsInARow_fail (bs : List Bool) :
    failsInARow (bs ++ [true]) = failsInARow bs + 1 := by
  simp [failsInARow]

@[simp] theorem failsInARow_pass (bs : List Bool) : failsInARow (bs ++ [false]) = 0 := by
  simp [failsInARow]

/-- At least `n` failures in a row: the last `n` checks failed. -/
theorem le_failsInARow_iff {n : Nat} {bs : List Bool} :
    n ≤ failsInARow bs ↔ List.replicate n true <:+ bs := by
  induction bs using List.reverseRecOn generalizing n with
  | nil =>
      rw [failsInARow_nil, List.suffix_nil, List.replicate_eq_nil_iff]
      exact Nat.le_zero
  | append_singleton bs b ih =>
      rcases n with _ | n
      · exact ⟨fun _ => List.nil_suffix, fun _ => Nat.zero_le _⟩
      · rw [List.replicate_succ']
        cases b with
        | false =>
            rw [failsInARow_pass]
            constructor
            · intro h
              exact absurd h (Nat.not_succ_le_zero n)
            · rintro ⟨rest, h⟩
              rw [← List.append_assoc] at h
              exact absurd (List.append_inj' h rfl).2 (by simp)
        | true =>
            rw [failsInARow_fail, Nat.succ_le_succ_iff, ih]
            exact List.suffix_append_self_iff.symm

/-- A run of failures is old or has just been completed. -/
theorem infix_snoc_iff {n : Nat} {bs : List Bool} {b : Bool} :
    List.replicate n true <:+: bs ++ [b] ↔
      List.replicate n true <:+: bs ∨ n ≤ failsInARow (bs ++ [b]) := by
  rw [le_failsInARow_iff]
  exact List.infix_concat_iff.trans or_comm

/-! ## Records -/

/-- How a trouble code counts. -/
structure Policy where
  confirm : Nat
  cap : Nat
  /-- A clear keeps the result of the last check. -/
  keeps : Bool
  confirm_pos : 0 < confirm
  confirm_le : confirm ≤ cap

/-- What happens to a trouble code. -/
inductive Op where
  | check (failed : Bool)
  | clear
deriving DecidableEq, Repr

/-- What a trouble code keeps. -/
structure Record where
  current : Bool
  history : Bool
  count : Nat
deriving DecidableEq, Repr

/-- Nothing has happened yet. -/
def Record.empty : Record := ⟨false, false, 0⟩

def Record.step (p : Policy) (r : Record) : Op → Record
  | .check true =>
      { current := true
        history := r.history || decide (p.confirm ≤ min p.cap (r.count + 1))
        count := min p.cap (r.count + 1) }
  | .check false => { r with current := false, count := 0 }
  | .clear => { current := p.keeps && r.current, history := false, count := 0 }

/-- The record of a list of checks and clears. -/
def recordAfter (p : Policy) (ops : List Op) : Record := ops.foldl (Record.step p) Record.empty

theorem recordAfter_append (p : Policy) (ops more : List Op) :
    recordAfter p (ops ++ more) = more.foldl (Record.step p) (recordAfter p ops) :=
  List.foldl_append

/-- The result of a check. -/
def Op.result : Op → Option Bool
  | .check failed => some failed
  | .clear => none

/-- The results of all checks. -/
def results (ops : List Op) : List Bool := ops.filterMap Op.result

/-- The results of the checks since the last clear. -/
def sinceClear (ops : List Op) : List Bool :=
  results (ops.reverse.takeWhile fun op => op != .clear).reverse

@[simp] theorem results_check (ops : List Op) (failed : Bool) :
    results (ops ++ [.check failed]) = results ops ++ [failed] := by
  simp [results, Op.result]

@[simp] theorem results_clear (ops : List Op) : results (ops ++ [.clear]) = results ops := by
  simp [results, Op.result]

@[simp] theorem sinceClear_check (ops : List Op) (failed : Bool) :
    sinceClear (ops ++ [.check failed]) = sinceClear ops ++ [failed] := by
  simp [sinceClear, results, Op.result]

@[simp] theorem sinceClear_clear (ops : List Op) : sinceClear (ops ++ [.clear]) = [] := by
  simp [sinceClear, results]

/-- The checks whose last result a clear does not take away. -/
def remembered (p : Policy) (ops : List Op) : List Bool :=
  if p.keeps then results ops else sinceClear ops

/-- What a record tells about what happened. -/
structure Account (p : Policy) (ops : List Op) (r : Record) : Prop where
  current : r.current = true ↔ (remembered p ops).getLast? = some true
  history : r.history = true ↔ List.replicate p.confirm true <:+: sinceClear ops
  count : r.count = min p.cap (failsInARow (sinceClear ops))

section Account

variable {p : Policy} {ops : List Op} {r : Record}

theorem account_empty (p : Policy) : Account p [] Record.empty := by
  have hno : ¬ List.replicate p.confirm true <:+: [] := by
    rw [List.infix_nil, List.replicate_eq_nil_iff]
    exact Nat.ne_of_gt p.confirm_pos
  refine ⟨?_, iff_of_false (by simp [Record.empty]) hno, (Nat.min_zero _).symm⟩
  rw [remembered, sinceClear]
  simp [Record.empty, results]

/-- A check is remembered under either policy. -/
theorem remembered_check (failed : Bool) :
    (remembered p (ops ++ [.check failed])).getLast? = some failed := by
  rw [remembered, results_check, sinceClear_check]
  split <;> exact List.getLast?_concat

theorem account_fail (h : Account p ops r) :
    Account p (ops ++ [.check true]) (r.step p (.check true)) := by
  have hcount : min p.cap (r.count + 1) = min p.cap (failsInARow (sinceClear ops) + 1) := by
    rw [h.count]
    omega
  refine ⟨?_, ?_, ?_⟩
  · rw [remembered_check]
    exact iff_of_true rfl rfl
  · have hle := p.confirm_le
    rw [sinceClear_check, infix_snoc_iff, failsInARow_fail, ← h.history, Record.step, hcount,
      Bool.or_eq_true, decide_eq_true_iff]
    exact or_congr_right (by omega)
  · rw [sinceClear_check, failsInARow_fail, Record.step, hcount]

theorem account_pass (h : Account p ops r) :
    Account p (ops ++ [.check false]) (r.step p (.check false)) := by
  have hpos := p.confirm_pos
  refine ⟨?_, ?_, ?_⟩
  · rw [remembered_check]
    exact iff_of_false Bool.false_ne_true (by simp)
  · rw [sinceClear_check, infix_snoc_iff, failsInARow_pass, ← h.history]
    exact (or_iff_left (by omega)).symm
  · rw [sinceClear_check, failsInARow_pass]
    exact (Nat.min_zero _).symm

theorem account_clear (h : Account p ops r) :
    Account p (ops ++ [.clear]) (r.step p .clear) := by
  have hempty := account_empty p
  have hnil : sinceClear [] = [] := rfl
  refine ⟨?_, ?_, ?_⟩
  · have hcurrent := h.current
    simp only [remembered, results_clear, sinceClear_clear, Record.step] at hcurrent ⊢
    cases hkeeps : p.keeps with
    | false => simp
    | true => simpa [hkeeps] using hcurrent
  · rw [sinceClear_clear]
    exact iff_of_false Bool.false_ne_true
      fun hin => absurd (hempty.history.mpr hin) (by simp [Record.empty])
  · rw [sinceClear_clear]
    exact (Nat.min_zero _).symm

/-- **Step lemma.** -/
theorem account_step (h : Account p ops r) (op : Op) :
    Account p (ops ++ [op]) (r.step p op) := by
  cases op with
  | check failed =>
      cases failed with
      | false => exact account_pass h
      | true => exact account_fail h
  | clear => exact account_clear h

/-- **Run lemma.**  A record tells what happened to it. -/
theorem account_run (p : Policy) (ops : List Op) : Account p ops (recordAfter p ops) := by
  induction ops using List.reverseRecOn with
  | nil => exact account_empty p
  | append_singleton ops op ih =>
      rw [recordAfter_append]
      exact account_step ih op

end Account

/-! ## Windows -/

/-- One tick of a timer that counts up to `limit` while a condition holds. -/
def watch (limit : Nat) (holds : Bool) (timer : Nat) : Nat :=
  if holds then min limit (timer + 1) else 0

/-- The timer counts the last ticks at which the condition held. -/
theorem watch_failsInARow (limit : Nat) (holds : Bool) (bs : List Bool) :
    watch limit holds (min limit (failsInARow bs)) = min limit (failsInARow (bs ++ [holds])) := by
  cases holds with
  | false =>
      rw [failsInARow_pass]
      exact (Nat.min_zero _).symm
  | true =>
      rw [failsInARow_fail, watch, if_pos rfl]
      omega

/-- **The timer is full** exactly when the condition held at each of the last `limit` ticks. -/
theorem full_iff {limit : Nat} {bs : List Bool} :
    limit ≤ min limit (failsInARow bs) ↔ List.replicate limit true <:+ bs := by
  rw [← le_failsInARow_iff]
  omega

/-! ## Periodic checks -/

/-- What a monitor looks for: a condition over a window of ticks, at every so many ticks; and
    the ticks at which its trouble code is cleared, before the condition is looked at. -/
structure Plan (T : Type) where
  policy : Policy
  period : Nat
  window : Nat
  holds : T → Bool
  cleared : T → Bool
  period_pos : 0 < period

variable {T : Type}

/-- What the tick `t` after the ticks `past` is for the trouble code. -/
def Plan.opsAt (p : Plan T) (past : List T) (t : T) : List Op :=
  (if p.cleared t then [.clear] else []) ++
    if (past.length + 1) % p.period = 0 then
      [.check (decide (List.replicate p.window true <:+ (past ++ [t]).map p.holds))]
    else []

/-- What a list of ticks is for the trouble code. -/
def Plan.ops (p : Plan T) (ticks : List T) : List Op :=
  (List.range ticks.length).flatMap fun i =>
    ticks[i]?.toList.flatMap (p.opsAt (ticks.take i))

theorem Plan.ops_snoc (p : Plan T) (ticks : List T) (t : T) :
    p.ops (ticks ++ [t]) = p.ops ticks ++ p.opsAt ticks t := by
  rw [Plan.ops, List.length_append, List.length_singleton, List.range_succ, List.flatMap_append]
  congr 1
  · rw [Plan.ops]
    refine List.flatMap_congr fun i hi => ?_
    have hi : i < ticks.length := List.mem_range.mp hi
    rw [List.getElem?_append_left hi, List.take_append_of_le_length hi.le]
  · simp

/-- Elapsed ticks, window timer and trouble code. -/
structure Monitor where
  elapsed : Nat
  timer : Nat
  record : Record
deriving DecidableEq, Repr

def Monitor.start : Monitor := ⟨0, 0, Record.empty⟩

/-- One tick. -/
def Monitor.tick (p : Plan T) (m : Monitor) (t : T) : Monitor :=
  let record := if p.cleared t then m.record.step p.policy .clear else m.record
  let timer := watch p.window (p.holds t) m.timer
  if p.period ≤ m.elapsed + 1 then
    ⟨0, timer, record.step p.policy (.check (decide (p.window ≤ timer)))⟩
  else ⟨m.elapsed + 1, timer, record⟩

/-- What a monitor tells about its ticks. -/
structure Watched (p : Plan T) (ticks : List T) (m : Monitor) : Prop where
  elapsed : m.elapsed = ticks.length % p.period
  timer : m.timer = min p.window (failsInARow (ticks.map p.holds))
  record : m.record = recordAfter p.policy (p.ops ticks)

theorem watched_start (p : Plan T) : Watched p [] Monitor.start :=
  ⟨(Nat.zero_mod _).symm, (Nat.min_zero _).symm, rfl⟩

/-- **Step lemma.** -/
theorem watched_tick {p : Plan T} {ticks : List T} {m : Monitor} (h : Watched p ticks m) (t : T) :
    Watched p (ticks ++ [t]) (m.tick p t) := by
  obtain ⟨helapsed, htimer, hrecord⟩ := h
  have hpos := p.period_pos
  have hlt : m.elapsed < p.period := helapsed ▸ Nat.mod_lt _ hpos
  -- the counter reaches the period exactly when the number of ticks is a multiple of it
  have hmod : (ticks.length + 1) % p.period = (m.elapsed + 1) % p.period := by
    rw [helapsed, Nat.mod_add_mod]
  have hwatch : watch p.window (p.holds t) m.timer =
      min p.window (failsInARow ((ticks ++ [t]).map p.holds)) := by
    rw [htimer, watch_failsInARow, List.map_append]
    rfl
  have hclear : (if p.cleared t then m.record.step p.policy .clear else m.record) =
      recordAfter p.policy (p.ops ticks ++ if p.cleared t then [Op.clear] else []) := by
    rw [recordAfter_append, ← hrecord]
    split <;> rfl
  simp only [Monitor.tick]
  by_cases hdue : p.period ≤ m.elapsed + 1
  · have hzero : (ticks.length + 1) % p.period = 0 := by
      rw [hmod, show m.elapsed + 1 = p.period by omega, Nat.mod_self]
    rw [if_pos hdue]
    refine ⟨?_, hwatch, ?_⟩
    · rw [List.length_append, List.length_singleton, hzero]
    · have hfull : decide (p.window ≤ watch p.window (p.holds t) m.timer) =
          decide (List.replicate p.window true <:+ (ticks ++ [t]).map p.holds) := by
        rw [hwatch]
        exact decide_eq_decide.mpr full_iff
      rw [Plan.ops_snoc, Plan.opsAt, if_pos hzero, ← List.append_assoc, recordAfter_append,
        ← hclear, hfull]
      rfl
  · have hne : (ticks.length + 1) % p.period ≠ 0 := by
      rw [hmod, Nat.mod_eq_of_lt (by omega)]
      exact Nat.succ_ne_zero _
    rw [if_neg hdue]
    refine ⟨?_, hwatch, ?_⟩
    · rw [List.length_append, List.length_singleton, hmod, Nat.mod_eq_of_lt (by omega)]
    · rw [Plan.ops_snoc, Plan.opsAt, if_neg hne, List.append_nil, ← hclear]

end FailHistory
