import RemoteVehicle.Runs

/-!
# Held commands — a receiver that forgets after a time-out

The specification of a command receiver with a time-out, and the usual way to build one.

1. **Specification.**  `Held` remembers the last accepted command and the number of
   ticks since its acceptance.  A command is in force for fewer than `limit` ticks;
   `Held.output` is the decode of the command in force, or the safe output.

2. **Implementation.**  `Latch` is a mailbox with an updated flag, a saturating time-out
   counter and an output that changes at ticks only.  A tick counts, falls back to the
   safe output when the counter has reached the limit, and otherwise decodes the mailbox
   when the flag is set.

3. **Refinement.**  `tick_output`: right after a tick, the output of a latch is the
   output of the specification, whatever was accepted before and in whatever order.

`Counts` is the part of the refinement relation that does not mention the output, so a
device whose output is written by somebody else as well can still use it.
-/

namespace HeldCommand

open Runs

variable {C O : Type}

/-! ## The specification -/

/-- What happens to a receiver: a command is accepted, or its time advances. -/
inductive Op (C : Type) where
  | accept (c : C)
  | tick
deriving DecidableEq, Repr

/-- The last accepted command with the number of ticks since its acceptance. -/
structure Held (C : Type) where
  last : Option (C × Nat)
deriving DecidableEq, Repr

/-- Nothing was accepted yet. -/
def Held.empty : Held C := ⟨none⟩

def Held.step (h : Held C) : Op C → Held C
  | .accept c => ⟨some (c, 0)⟩
  | .tick => ⟨h.last.map fun p => (p.1, p.2 + 1)⟩

/-- The command in force: the last accepted one, unless `limit` ticks have passed. -/
def Held.inForce (limit : Nat) (h : Held C) : Option C :=
  match h.last with
  | none => none
  | some (c, n) => if n < limit then some c else none

/-- The specified output. -/
def Held.output (limit : Nat) (safe : O) (decode : C → O) (h : Held C) : O :=
  match h.inForce limit with
  | none => safe
  | some c => decode c

@[simp] theorem step_accept_last (h : Held C) (c : C) :
    (h.step (.accept c)).last = some (c, 0) := rfl

theorem step_tick_none {h : Held C} (hl : h.last = none) :
    (h.step .tick).last = none := by
  simp [Held.step, hl]

theorem step_tick_some {h : Held C} {c : C} {n : Nat} (hl : h.last = some (c, n)) :
    (h.step .tick).last = some (c, n + 1) := by
  simp [Held.step, hl]

/-- After a tick, the age of a held command is positive. -/
theorem step_tick_inv {h : Held C} {c : C} {m : Nat}
    (hl : (h.step .tick).last = some (c, m)) :
    ∃ n, m = n + 1 ∧ h.last = some (c, n) := by
  rcases hh : h.last with _ | ⟨d, n⟩
  · rw [step_tick_none hh] at hl
    exact absurd hl (by simp)
  · rw [step_tick_some hh] at hl
    obtain ⟨rfl, rfl⟩ := Prod.mk.inj (Option.some.inj hl)
    exact ⟨n, rfl, rfl⟩

theorem inForce_none {limit : Nat} {h : Held C} (hl : h.last = none) :
    h.inForce limit = none := by
  simp only [Held.inForce, hl]

theorem inForce_some {limit : Nat} {h : Held C} {c : C} {n : Nat}
    (hl : h.last = some (c, n)) (hn : n < limit) : h.inForce limit = some c := by
  simp only [Held.inForce, hl, if_pos hn]

theorem inForce_expired {limit : Nat} {h : Held C} {c : C} {n : Nat}
    (hl : h.last = some (c, n)) (hn : limit ≤ n) : h.inForce limit = none := by
  simp only [Held.inForce, hl, if_neg (Nat.not_lt.mpr hn)]

/-! ## The latch -/

/-- A mailbox, its updated flag, the time-out counter and the output. -/
structure Latch (C O : Type) where
  counter : Nat
  fresh : Bool
  box : C
  out : O

/-- A command arrives: the counter restarts and the mailbox is marked. -/
def Latch.accept (l : Latch C O) (c : C) : Latch C O :=
  { l with counter := 0, fresh := true, box := c }

/-- The counter saturates at the limit. -/
def Latch.count (limit : Nat) (l : Latch C O) : Nat :=
  if l.counter < limit then l.counter + 1 else l.counter

/-- Time advances: count, then time out or decode what is new. -/
def Latch.tick (limit : Nat) (safe : O) (decode : C → O) (l : Latch C O) : Latch C O :=
  if limit ≤ l.count limit then
    { l with counter := l.count limit, out := safe }
  else if l.fresh then
    { l with counter := l.count limit, fresh := false, out := decode l.box }
  else
    { l with counter := l.count limit }

def Latch.step (limit : Nat) (safe : O) (decode : C → O) (l : Latch C O) :
    Op C → Latch C O
  | .accept c => l.accept c
  | .tick => l.tick limit safe decode

@[simp] theorem tick_counter (limit : Nat) (safe : O) (decode : C → O) (l : Latch C O) :
    (l.tick limit safe decode).counter = l.count limit := by
  simp only [Latch.tick]
  split
  · rfl
  · split <;> rfl

@[simp] theorem tick_box (limit : Nat) (safe : O) (decode : C → O) (l : Latch C O) :
    (l.tick limit safe decode).box = l.box := by
  simp only [Latch.tick]
  split
  · rfl
  · split <;> rfl

theorem tick_out_expired {limit : Nat} {safe : O} {decode : C → O} {l : Latch C O}
    (h : limit ≤ l.count limit) : (l.tick limit safe decode).out = safe := by
  rw [Latch.tick, if_pos h]

theorem tick_out_fresh {limit : Nat} {safe : O} {decode : C → O} {l : Latch C O}
    (h : l.count limit < limit) (hf : l.fresh = true) :
    (l.tick limit safe decode).out = decode l.box := by
  rw [Latch.tick, if_neg (Nat.not_le.mpr h), if_pos hf]

theorem tick_out_stale {limit : Nat} {safe : O} {decode : C → O} {l : Latch C O}
    (h : l.count limit < limit) (hf : l.fresh = false) :
    (l.tick limit safe decode).out = l.out := by
  rw [Latch.tick, if_neg (Nat.not_le.mpr h), if_neg (by rw [hf]; simp)]

/-! ## Refinement -/

/-- The latch counts what the specification counts and holds what it holds. -/
structure Counts (limit : Nat) (l : Latch C O) (h : Held C) : Prop where
  idle : h.last = none → l.counter = limit
  count : ∀ c n, h.last = some (c, n) → l.counter = min n limit
  box : ∀ c n, h.last = some (c, n) → l.box = c
  fresh : ∀ c, h.last = some (c, 0) → l.fresh = true

/-- The relation does not look at the output. -/
theorem Counts.congr {limit : Nat} {l k : Latch C O} {h : Held C} (hc : Counts limit l h)
    (hcount : k.counter = l.counter) (hbox : k.box = l.box) (hfresh : k.fresh = l.fresh) :
    Counts limit k h :=
  ⟨fun hn => hcount.trans (hc.idle hn), fun c n hl => hcount.trans (hc.count c n hl),
    fun c n hl => hbox.trans (hc.box c n hl), fun c hl => hfresh.trans (hc.fresh c hl)⟩

theorem counts_accept {limit : Nat} (l : Latch C O) (h : Held C) (c : C) :
    Counts limit (l.accept c) (h.step (.accept c)) := by
  refine ⟨?_, ?_, ?_, fun _ _ => rfl⟩
  · intro hn
    exact absurd hn (by simp)
  · intro d n hd
    obtain ⟨rfl, rfl⟩ := Prod.mk.inj (Option.some.inj hd)
    simp [Latch.accept]
  · intro d n hd
    exact (Prod.mk.inj (Option.some.inj hd)).1

/-- The saturating counter reaches the limit exactly when the command expires. -/
theorem Counts.count_tick {limit : Nat} {l : Latch C O} {h : Held C}
    (hc : Counts limit l h) {c : C} {n : Nat} (hl : h.last = some (c, n)) :
    l.count limit = min (n + 1) limit := by
  have hcount := hc.count c n hl
  rw [Latch.count]
  split <;> omega

theorem Counts.count_idle {limit : Nat} {l : Latch C O} {h : Held C}
    (hc : Counts limit l h) (hl : h.last = none) : l.count limit = limit := by
  have hidle := hc.idle hl
  rw [Latch.count]
  split <;> omega

theorem counts_tick {limit : Nat} {safe : O} {decode : C → O} {l : Latch C O} {h : Held C}
    (hc : Counts limit l h) : Counts limit (l.tick limit safe decode) (h.step .tick) := by
  refine ⟨?_, ?_, ?_, ?_⟩
  · intro hn
    rcases hl : h.last with _ | ⟨d, m⟩
    · rw [tick_counter, hc.count_idle hl]
    · rw [step_tick_some hl] at hn
      exact absurd hn (by simp)
  · intro c m hm
    obtain ⟨n, rfl, hl⟩ := step_tick_inv hm
    rw [tick_counter, hc.count_tick hl]
  · intro c m hm
    obtain ⟨n, rfl, hl⟩ := step_tick_inv hm
    rw [tick_box]
    exact hc.box c n hl
  · intro c hm
    obtain ⟨n, hn, -⟩ := step_tick_inv hm
    exact absurd hn (by omega)

/-- **What a tick does to the output**, by the command in force after it: the safe output
    when there is none, else its decode — or no change, and then the command was already
    in force at the tick before. -/
theorem Counts.tick_cases {limit : Nat} {l : Latch C O} {h : Held C}
    (hc : Counts limit l h) (safe : O) (decode : C → O) :
    ((h.step .tick).inForce limit = none ∧ (l.tick limit safe decode).out = safe) ∨
    ∃ c n, h.last = some (c, n) ∧ n + 1 < limit ∧
      (h.step .tick).inForce limit = some c ∧
      ((l.tick limit safe decode).out = decode c ∨
        (0 < n ∧ (l.tick limit safe decode).out = l.out)) := by
  rcases hl : h.last with _ | ⟨c, n⟩
  · have hcount := hc.count_idle hl
    exact Or.inl ⟨inForce_none (step_tick_none hl), tick_out_expired (by omega)⟩
  · have hcount := hc.count_tick hl
    -- in force while it has been counted less than the limit
    by_cases hn : n + 1 < limit
    · refine Or.inr ⟨c, n, rfl, hn, inForce_some (step_tick_some hl) hn, ?_⟩
      rcases hf : l.fresh with _ | _
      · refine Or.inr ⟨?_, tick_out_stale (by omega) hf⟩
        -- a command no tick has seen is still fresh
        rcases Nat.eq_zero_or_pos n with rfl | hpos
        · rw [hc.fresh c hl] at hf
          exact absurd hf (by simp)
        · exact hpos
      · left
        rw [tick_out_fresh (by omega) hf, hc.box c n hl]
    · refine Or.inl ⟨?_, tick_out_expired (by omega)⟩
      exact inForce_expired (step_tick_some hl) (Nat.not_lt.mp hn)

/-- Once a tick has seen a command, the output is its decode until it expires. -/
def Settled (limit : Nat) (decode : C → O) (l : Latch C O) (h : Held C) : Prop :=
  ∀ c n, h.last = some (c, n + 1) → n + 1 < limit → l.out = decode c

/-- The refinement relation of a latch whose output nobody else writes. -/
structure Tracks (limit : Nat) (decode : C → O) (l : Latch C O) (h : Held C) : Prop where
  counts : Counts limit l h
  settled : Settled limit decode l h

/-- A latch that has never accepted anything, its counter at the limit, is in relation. -/
theorem tracks_empty {limit : Nat} {decode : C → O} {l : Latch C O}
    (hl : l.counter = limit) : Tracks limit decode l Held.empty := by
  refine ⟨⟨fun _ => hl, ?_, ?_, ?_⟩, ?_⟩
  · intro c n h
    exact absurd h (by simp [Held.empty])
  · intro c n h
    exact absurd h (by simp [Held.empty])
  · intro c h
    exact absurd h (by simp [Held.empty])
  · intro c n h
    exact absurd h (by simp [Held.empty])

/-- **Refinement at a tick.**  Right after a tick the output is the specified one. -/
theorem tick_output {limit : Nat} {safe : O} {decode : C → O} {l : Latch C O} {h : Held C}
    (ht : Tracks limit decode l h) :
    (l.tick limit safe decode).out = (h.step .tick).output limit safe decode := by
  rcases ht.counts.tick_cases safe decode with ⟨hf, hout⟩ | ⟨c, n, hl, hn, hf, hout⟩
  · rw [hout, Held.output, hf]
  · rw [Held.output, hf]
    rcases hout with hout | ⟨hpos, hout⟩
    · exact hout
    · obtain ⟨m, rfl⟩ : ∃ m, n = m + 1 := ⟨n - 1, by omega⟩
      rw [hout]
      exact ht.settled c m hl (by omega)

theorem tracks_step {limit : Nat} (safe : O) {decode : C → O} {l : Latch C O} {h : Held C}
    (ht : Tracks limit decode l h) (op : Op C) :
    Tracks limit decode (l.step limit safe decode op) (h.step op) := by
  cases op with
  | accept c =>
      refine ⟨counts_accept l h c, ?_⟩
      intro d n hd
      exact absurd (Prod.mk.inj (Option.some.inj hd)).2 (by omega)
  | tick =>
      refine ⟨counts_tick ht.counts, ?_⟩
      intro c n hl hn
      show (l.tick limit safe decode).out = decode c
      rw [tick_output ht, Held.output, inForce_some hl hn]

end HeldCommand
