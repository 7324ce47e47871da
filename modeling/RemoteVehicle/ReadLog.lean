import Mathlib.Data.List.Basic

/-!
# Programs that read a buffer, and what they read

A parser gets a pointer and a length.  As a function of the memory behind the pointer it
does not say which cells it looked at; as a `Reader` it does.  A reader is a value, or a
read of one cell followed by a reader that depends on what was there.  `eval` is the
function it computes and `reads` the list of cells it looks at on the way.

`InBounds m n r` says that reader `r`, run on memory `m`, stays below `n`.  One lemma for
each way of building a reader turns the bound of a parser into conditions on its reads.
`eval_congr` is why the bound matters: what a reader returns depends on the cells it reads
and on nothing else.
-/

namespace ReadLog

variable {β α γ : Type}

/-- A program over a buffer of `β`. -/
inductive Reader (β α : Type) where
  | done (a : α)
  | read (i : Nat) (next : β → Reader β α)

namespace Reader

/-- The value. -/
def eval (m : Nat → β) : Reader β α → α
  | done a => a
  | read i next => eval m (next (m i))

/-- The cells looked at. -/
def reads (m : Nat → β) : Reader β α → List Nat
  | done _ => []
  | read i next => i :: reads m (next (m i))

/-- One reader after the other. -/
def bind : Reader β α → (α → Reader β γ) → Reader β γ
  | done a, f => f a
  | read i next, f => read i fun b => bind (next b) f

instance : Monad (Reader β) where
  pure := done
  bind := bind

/-- `p[i]`. -/
def cell (i : Nat) : Reader β β := read i done

/-- The same program on the pointer `p + n`. -/
def shift (n : Nat) : Reader β α → Reader β α
  | done a => done a
  | read i next => read (n + i) fun b => shift n (next b)

/-- A copy of the first `k` cells. -/
def block : Nat → Reader β (List β)
  | 0 => pure []
  | k + 1 => do
      let bs ← block k
      let b ← cell k
      pure (bs ++ [b])

end Reader

open Reader

section Eval

variable (m : Nat → β)

@[simp] theorem eval_pure (a : α) : eval m (pure a) = a := rfl
@[simp] theorem eval_cell (i : Nat) : eval m (cell i) = m i := rfl
@[simp] theorem reads_cell (i : Nat) : reads m (cell i) = [i] := rfl

@[simp] theorem eval_bind (r : Reader β α) (f : α → Reader β γ) :
    eval m (r >>= f) = eval m (f (eval m r)) := by
  show eval m (r.bind f) = _
  induction r with
  | done a => rfl
  | read i next ih => exact ih (m i)

@[simp] theorem eval_cell_bind (i : Nat) (f : β → Reader β γ) :
    eval m (cell i >>= f) = eval m (f (m i)) := rfl

@[simp] theorem reads_bind (r : Reader β α) (f : α → Reader β γ) :
    reads m (r >>= f) = reads m r ++ reads m (f (eval m r)) := by
  show reads m (r.bind f) = _
  induction r with
  | done a => rfl
  | read i next ih => exact congrArg (i :: ·) (ih (m i))

@[simp] theorem eval_ite (c : Prop) [Decidable c] (r r' : Reader β α) :
    eval m (if c then r else r') = if c then eval m r else eval m r' := by
  split <;> rfl

@[simp] theorem eval_shift (n : Nat) (r : Reader β α) :
    eval m (shift n r) = eval (fun i => m (n + i)) r := by
  induction r with
  | done a => rfl
  | read i next ih => exact ih (m (n + i))

@[simp] theorem reads_shift (n : Nat) (r : Reader β α) :
    reads m (shift n r) = (reads (fun i => m (n + i)) r).map (n + ·) := by
  induction r with
  | done a => rfl
  | read i next ih => exact congrArg ((n + i) :: ·) (ih (m (n + i)))

@[simp] theorem eval_block (k : Nat) : eval m (block k) = (List.range k).map m := by
  induction k with
  | zero => rfl
  | succ k ih =>
      rw [block, eval_bind, ih, List.range_succ, List.map_append]
      rfl

@[simp] theorem reads_block (k : Nat) : reads m (block k) = List.range k := by
  induction k with
  | zero => rfl
  | succ k ih =>
      rw [block, reads_bind, ih, List.range_succ]
      rfl

/-- **A reader sees what it reads**: memories that agree there give the same value. -/
theorem eval_congr {m m' : Nat → β} {r : Reader β α} (h : ∀ i ∈ reads m r, m i = m' i) :
    eval m r = eval m' r := by
  induction r with
  | done a => rfl
  | read i next ih =>
      have hi : m i = m' i := h i List.mem_cons_self
      show eval m (next (m i)) = eval m' (next (m' i))
      rw [← hi]
      exact ih (m i) fun j hj => h j (List.mem_cons_of_mem i hj)

end Eval

/-! ## Bounds -/

/-- Every cell looked at is below `n`. -/
def InBounds (m : Nat → β) (n : Nat) (r : Reader β α) : Prop := ∀ i ∈ reads m r, i < n

section Bounds

variable {m : Nat → β} {n : Nat}

@[simp] theorem inBounds_pure (a : α) : InBounds m n (pure a : Reader β α) :=
  fun _ h => absurd h List.not_mem_nil

@[simp] theorem inBounds_cell {i : Nat} : InBounds m n (cell i) ↔ i < n := by
  simp [InBounds]

@[simp] theorem inBounds_bind {r : Reader β α} {f : α → Reader β γ} :
    InBounds m n (r >>= f) ↔ InBounds m n r ∧ InBounds m n (f (eval m r)) := by
  simp only [InBounds, reads_bind, List.mem_append]
  constructor
  · intro h
    exact ⟨fun i hi => h i (Or.inl hi), fun i hi => h i (Or.inr hi)⟩
  · rintro ⟨hr, hf⟩ i (hi | hi)
    · exact hr i hi
    · exact hf i hi

@[simp] theorem inBounds_cell_bind {i : Nat} {f : β → Reader β γ} :
    InBounds m n (cell i >>= f) ↔ i < n ∧ InBounds m n (f (m i)) := by
  rw [inBounds_bind, inBounds_cell]
  exact Iff.rfl

@[simp] theorem inBounds_block {k : Nat} : InBounds m n (block k) ↔ k ≤ n := by
  simp only [InBounds, reads_block, List.mem_range]
  constructor
  · intro h
    exact Nat.le_of_not_lt fun hlt => Nat.lt_irrefl n (h n hlt)
  · intro h i hi
    exact Nat.lt_of_lt_of_le hi h

theorem InBounds.mono {k : Nat} {r : Reader β α} (h : InBounds m k r) (hk : k ≤ n) :
    InBounds m n r := fun i hi => Nat.lt_of_lt_of_le (h i hi) hk

theorem inBounds_ite {c : Prop} [Decidable c] {r r' : Reader β α} :
    InBounds m n (if c then r else r') ↔
      (c → InBounds m n r) ∧ (¬ c → InBounds m n r') := by
  by_cases hc : c
  · simp [hc]
  · simp [hc]

/-- A callee that gets `p + k` and the rest of the length. -/
theorem inBounds_shift {k : Nat} {r : Reader β α} (hk : k ≤ n) :
    InBounds m n (shift k r) ↔ InBounds (fun i => m (k + i)) (n - k) r := by
  simp only [InBounds, reads_shift, List.mem_map]
  constructor
  · intro h i hi
    have hlt := h (k + i) ⟨i, hi, rfl⟩
    omega
  · rintro h _ ⟨i, hi, rfl⟩
    have hlt := h i hi
    omega

/-- A reader in bounds depends on the cells below the bound only. -/
theorem InBounds.eval_eq {m' : Nat → β} {r : Reader β α} (h : InBounds m n r)
    (hm : ∀ i < n, m i = m' i) : eval m r = eval m' r :=
  eval_congr fun i hi => hm i (h i hi)

end Bounds

end ReadLog
