import RemoteVehicle.Runs
import Mathlib.Logic.Function.Basic

/-!
# One-place mailboxes read field by field

A producer stores a whole command and raises a flag, in one step.  A consumer, called over
and over, looks at the flag, copies the command field by field, lowers the flag and hands
the copy on.  Nothing but the flag keeps the two apart.

1. **The machine.**  `Box.step` does the consumer's statements one at a time; a store
   may come between any two of them.

2. **The log.**  `Log` remembers what was stored and what was handed on, and whether a
   whole call of the consumer has passed since the last store.

3. **The law.**  `Intact` says that only stored commands are handed on and that a call
   after the last store leaves the last command in effect.  `inv_step` keeps it as long as
   no store contradicts a field already copied (`Ok`).

How a command is copied is a parameter, with the three laws of copying field by field
(`FieldCopy`); any machine that copies so ends with the whole command
(`FieldCopy.leadsTo_copied`).
-/

namespace Mailbox

open Runs

variable {C S E : Type}

/-! ## Copying -/

/-- A command type with `size` fields.  `Agree k` is equality on the first `k` fields. -/
structure FieldCopy (C : Type) where
  size : Nat
  copyField : Nat → C → C → C
  Agree : Nat → C → C → Prop
  agree_zero : ∀ a b, Agree 0 a b
  agree_succ : ∀ k a b, k < size → Agree k a b → Agree (k + 1) a (copyField k a b)
  agree_size : ∀ a b, Agree size a b → b = a

/-- Copying for a type that is given by its fields. -/
def FieldCopy.ofFields {F : Type} {n : Nat} (get : C → Fin n → F) (set : (Fin n → F) → C)
    (hset : ∀ c, set (get c) = c) (hget : ∀ f, get (set f) = f) : FieldCopy C where
  size := n
  copyField k a b :=
    if h : k < n then set (Function.update (get b) ⟨k, h⟩ (get a ⟨k, h⟩)) else b
  Agree k a b := ∀ i : Fin n, i.val < k → get a i = get b i
  agree_zero a b i hi := absurd hi (Nat.not_lt_zero _)
  agree_succ k a b hk h i hi := by
    simp only [dif_pos hk, hget]
    by_cases hik : i = ⟨k, hk⟩
    · rw [hik, Function.update_self]
    · have hne : i.val ≠ k := fun hv => hik (Fin.ext hv)
      rw [Function.update_of_ne hik]
      exact h i (by omega)
  agree_size a b h := by
    have hfields : get b = get a := funext fun i => (h i i.isLt).symm
    rw [← hset b, hfields, hset]

/-- Copying field after field, from a state in which the fields before `k` are copied, ends
    with the whole value. -/
theorem FieldCopy.leadsTo_copied (f : FieldCopy C) {step : S → E → S} {e : E} {box : C}
    (copying : Fin f.size → C → S) (done : C → S)
    (hnext : ∀ (k : Fin f.size) (l : C) (h : k.val + 1 < f.size),
      step (copying k l) e = copying ⟨k.val + 1, h⟩ (f.copyField k box l))
    (hlast : ∀ (k : Fin f.size) (l : C), k.val + 1 = f.size →
      step (copying k l) e = done (f.copyField k box l))
    (n : Nat) :
    ∀ (k : Fin f.size) (l : C), k.val + 1 + n = f.size → f.Agree k box l →
      LeadsTo step e (fun s => s = done box) (copying k l) := by
  -- `n` fields are left after field `k`
  induction n with
  | zero =>
      intro k l hk hagree
      have hall := f.agree_succ k box l k.isLt hagree
      rw [show k.val + 1 = f.size from hk] at hall
      refine leadsTo_step ?_
      rw [hlast k l hk, f.agree_size _ _ hall]
      exact leadsTo_now rfl
  | succ n ih =>
      intro k l hk hagree
      have hlt : k.val + 1 < f.size := by omega
      refine leadsTo_step ?_
      rw [hnext k l hlt]
      exact ih ⟨k.val + 1, hlt⟩ _ (by show k.val + 1 + 1 + n = f.size; omega)
        (f.agree_succ k box l k.isLt hagree)

/-! ## The machine -/

/-- Where the consumer is: outside, with `k` fields copied, or with the flag lowered and
    the copy not yet handed on. -/
inductive Phase where
  | away
  | copying (k : Nat)
  | holding
deriving DecidableEq, Repr

structure Box (C : Type) where
  box : C
  fresh : Bool
  phase : Phase
  copy : C

/-- The producer's step and the consumer's statements. -/
inductive Op (C : Type) where
  /-- A command arrives. -/
  | store (c : C)
  /-- The consumer is called. -/
  | begin
  /-- The flag is up. -/
  | look
  /-- The flag is down; the call has nothing to do. -/
  | miss
  /-- The call returns without looking at the flag. -/
  | skip
  /-- The next field is copied. -/
  | copy
  /-- The flag is lowered. -/
  | clear
  /-- The copy is handed on; the call is done. -/
  | hand (c : C)

def Box.step (f : FieldCopy C) (m : Box C) : Op C → Box C
  | .store c => { m with box := c, fresh := true }
  | .begin => m
  | .look => { m with phase := .copying 0 }
  | .miss => m
  | .skip => m
  | .copy =>
      match m.phase with
      | .copying k => { m with phase := .copying (k + 1), copy := f.copyField k m.box m.copy }
      | _ => m
  | .clear => { m with fresh := false, phase := .holding }
  | .hand _ => { m with phase := .away }

/-! ## The log -/

/-- What was stored and handed on.  `begun` is set while a call runs that began after the
    last store, `complete` once such a call is done. -/
structure Log (C : Type) where
  stored : List C
  handed : List C
  begun : Bool
  complete : Bool
deriving DecidableEq, Repr

def Log.empty : Log C := ⟨[], [], false, false⟩

/-- A call is done. -/
def Log.finish (l : Log C) : Log C :=
  { l with begun := false, complete := l.complete || l.begun }

def Log.step (l : Log C) : Op C → Log C
  | .store c => ⟨l.stored ++ [c], l.handed, false, false⟩
  | .begin => { l with begun := true }
  | .look => l
  | .miss => l.finish
  | .skip => l.finish
  | .copy => l
  | .clear => l
  | .hand c => Log.finish { l with handed := l.handed ++ [c] }

/-- **The law of the mailbox**: only stored commands are handed on, and once a whole call
    has followed the last store, its command was the last one handed on. -/
structure Intact (l : Log C) : Prop where
  untorn : ∀ c ∈ l.handed, c ∈ l.stored
  notLost : l.complete = true → ∀ c, l.stored.getLast? = some c → l.handed.getLast? = some c

/-! ## The law holds for stores that contradict no copied field -/

/-- Both sides of the machine. -/
abbrev Logged (C : Type) := Box C × Log C

def step (f : FieldCopy C) (p : Logged C) (op : Op C) : Logged C :=
  (p.1.step f op, p.2.step op)

/-- When an operation may happen.  The consumer's statements are taken in their order; a
    call that skips the mailbox began before the last store or finds nothing new; and a
    store agrees with what is copied of the command before it. -/
def Ok (f : FieldCopy C) (p : Logged C) : Op C → Prop
  | .store c => ∀ k, p.1.phase = .copying k → f.Agree k c p.1.copy
  | .begin => p.1.phase = .away
  | .look => p.1.phase = .away ∧ p.1.fresh = true
  | .miss => p.1.phase = .away ∧ p.1.fresh = false
  | .skip => p.1.phase = .away ∧ (p.2.begun = true → p.1.fresh = false)
  | .copy => ∃ k, k < f.size ∧ p.1.phase = .copying k
  | .clear => p.1.phase = .copying f.size
  | .hand c => p.1.phase = .holding ∧ c = p.1.copy

/-- The invariant. -/
structure Inv (f : FieldCopy C) (p : Logged C) : Prop where
  intact : Intact p.2
  /-- A new command is the last one stored. -/
  new : p.1.fresh = true → p.2.stored.getLast? = some p.1.box
  copying : ∀ k, p.1.phase = .copying k → p.1.fresh = true ∧ f.Agree k p.1.box p.1.copy
  held : p.1.phase = .holding → p.1.copy ∈ p.2.stored
  /-- What is held is the last command, unless a new one has come in the meantime. -/
  last : p.1.phase = .holding → p.1.fresh = false → p.2.stored.getLast? = some p.1.copy
  /-- With nothing new and nothing held, the last command is in effect. -/
  inEffect : p.1.phase = .away → p.1.fresh = false →
    ∀ c, p.2.stored.getLast? = some c → p.2.handed.getLast? = some c
  begun : p.2.begun = true → p.1.phase = .holding → p.1.fresh = false
  done : p.2.complete = true → p.1.fresh = false

theorem inv_empty (f : FieldCopy C) {m : Box C} (hf : m.fresh = false)
    (hp : m.phase = .away) : Inv f (m, Log.empty) := by
  have hstored : ∀ c, (Log.empty : Log C).stored.getLast? ≠ some c := by
    intro c h
    exact absurd h (by simp [Log.empty])
  refine ⟨⟨?_, ?_⟩, ?_, ?_, ?_, ?_, ?_, ?_, ?_⟩
  · intro c hc
    exact absurd hc (by simp [Log.empty])
  · intro hc
    exact absurd hc (by simp [Log.empty])
  · intro hn
    rw [show m.fresh = true from hn] at hf
    exact absurd hf (by simp)
  · intro k hk
    rw [show m.phase = .copying k from hk] at hp
    exact absurd hp (by simp)
  · intro hh
    rw [show m.phase = .holding from hh] at hp
    exact absurd hp (by simp)
  · intro hh
    rw [show m.phase = .holding from hh] at hp
    exact absurd hp (by simp)
  · intro _ _ c hc
    exact absurd hc (hstored c)
  · intro hb
    exact absurd hb (by simp [Log.empty])
  · intro _
    exact hf

/-- A store: the log grows, nothing counts as complete, the copy stays good. -/
theorem inv_store {f : FieldCopy C} {p : Logged C} (h : Inv f p) {c : C}
    (hok : Ok f p (.store c)) : Inv f (step f p (.store c)) := by
  refine ⟨⟨?_, ?_⟩, ?_, ?_, ?_, ?_, ?_, ?_, ?_⟩
  · intro d hd
    exact List.mem_append_left _ (h.intact.untorn d hd)
  · intro hc
    exact absurd hc (by simp [step, Log.step])
  · intro _
    show (p.2.stored ++ [c]).getLast? = some c
    simp
  · -- the fields copied so far are those of the new command too
    intro k hk
    exact ⟨rfl, hok k hk⟩
  · intro hh
    exact List.mem_append_left _ (h.held hh)
  · intro _ hf
    exact absurd hf (by simp [step, Box.step])
  · intro _ hf
    exact absurd hf (by simp [step, Box.step])
  · intro hb
    exact absurd hb (by simp [step, Log.step])
  · intro hd
    exact absurd hd (by simp [step, Log.step])

/-- The law once a call is done with nothing new left in the mailbox. -/
theorem intact_finish {f : FieldCopy C} {p : Logged C} (h : Inv f p)
    (hp : p.1.phase = .away) (hb : p.2.begun = true → p.1.fresh = false) :
    Intact p.2.finish := by
  refine ⟨h.intact.untorn, ?_⟩
  intro hc c hl
  have hcases : p.2.complete = true ∨ p.2.begun = true := by
    simpa [Log.finish] using hc
  rcases hcases with hdone | hbegun
  · exact h.intact.notLost hdone c hl
  · exact h.inEffect hp (hb hbegun) c hl

/-- A call that finds or looks for nothing. -/
theorem inv_finish {f : FieldCopy C} {p : Logged C} (h : Inv f p) (hp : p.1.phase = .away)
    (hb : p.2.begun = true → p.1.fresh = false) : Inv f (p.1, p.2.finish) := by
  refine ⟨intact_finish h hp hb, h.new, h.copying, h.held, h.last, h.inEffect, ?_, ?_⟩
  · intro hbegun
    exact absurd hbegun (by simp [Log.finish])
  · intro hc
    have hcases : p.2.complete = true ∨ p.2.begun = true := by
      simpa [Log.finish] using hc
    exact hcases.elim h.done hb

theorem inv_begin {f : FieldCopy C} {p : Logged C} (h : Inv f p) (hp : p.1.phase = .away) :
    Inv f (step f p .begin) := by
  refine ⟨⟨h.intact.untorn, h.intact.notLost⟩, h.new, h.copying, h.held, h.last, h.inEffect,
    ?_, h.done⟩
  intro _ hh
  rw [show p.1.phase = .holding from hh] at hp
  exact absurd hp (by simp)

theorem inv_look {f : FieldCopy C} {p : Logged C} (h : Inv f p) (hf : p.1.fresh = true) :
    Inv f (step f p .look) := by
  refine ⟨h.intact, h.new, ?_, ?_, ?_, ?_, ?_, h.done⟩
  · intro k hk
    have hk0 : 0 = k := Phase.copying.inj hk
    subst hk0
    exact ⟨hf, f.agree_zero _ _⟩
  · intro hh
    exact absurd hh (by simp [step, Box.step])
  · intro hh
    exact absurd hh (by simp [step, Box.step])
  · intro hh
    exact absurd hh (by simp [step, Box.step])
  · intro _ hh
    exact absurd hh (by simp [step, Box.step])

theorem inv_copy {f : FieldCopy C} {p : Logged C} (h : Inv f p) {k : Nat} (hk : k < f.size)
    (hp : p.1.phase = .copying k) : Inv f (step f p .copy) := by
  obtain ⟨hfresh, hagree⟩ := h.copying k hp
  have hstep : step f p .copy =
      ({ p.1 with phase := .copying (k + 1), copy := f.copyField k p.1.box p.1.copy }, p.2) := by
    simp only [step, Box.step, hp, Log.step]
  rw [hstep]
  refine ⟨h.intact, h.new, ?_, ?_, ?_, ?_, ?_, h.done⟩
  · intro j hj
    have hj' : k + 1 = j := Phase.copying.inj hj
    subst hj'
    exact ⟨hfresh, f.agree_succ k _ _ hk hagree⟩
  · intro hh
    exact absurd hh (by simp)
  · intro hh
    exact absurd hh (by simp)
  · intro hh
    exact absurd hh (by simp)
  · intro _ hh
    exact absurd hh (by simp)

/-- Lowering the flag: the copy is complete, so it is the last command. -/
theorem inv_clear {f : FieldCopy C} {p : Logged C} (h : Inv f p)
    (hp : p.1.phase = .copying f.size) : Inv f (step f p .clear) := by
  obtain ⟨hfresh, hagree⟩ := h.copying _ hp
  have hcopy : p.1.copy = p.1.box := f.agree_size _ _ hagree
  have hlast : p.2.stored.getLast? = some p.1.copy := by rw [hcopy]; exact h.new hfresh
  refine ⟨h.intact, ?_, ?_, ?_, ?_, ?_, ?_, ?_⟩
  · intro hf
    exact absurd hf (by simp [step, Box.step])
  · intro k hk
    exact absurd hk (by simp [step, Box.step])
  · intro _
    exact List.mem_of_getLast? hlast
  · intro _ _
    exact hlast
  · intro hh
    exact absurd hh (by simp [step, Box.step])
  · intro _ _
    rfl
  · intro _
    rfl

/-- Handing on: a stored command, and the last one unless the mailbox is new again. -/
theorem inv_hand {f : FieldCopy C} {p : Logged C} (h : Inv f p)
    (hp : p.1.phase = .holding) : Inv f (step f p (.hand p.1.copy)) := by
  have hhanded : (p.2.handed ++ [p.1.copy]).getLast? = some p.1.copy := by simp
  -- a call that began after the last store leaves nothing new
  have hdone : (p.2.complete = true ∨ p.2.begun = true) → p.1.fresh = false := by
    rintro (hc | hb)
    · exact h.done hc
    · exact h.begun hb hp
  have hcases : (step f p (.hand p.1.copy)).2.complete = true →
      p.2.complete = true ∨ p.2.begun = true := by
    intro hc
    simpa [step, Log.step, Log.finish] using hc
  have heffect : p.1.fresh = false → ∀ c, p.2.stored.getLast? = some c →
      (p.2.handed ++ [p.1.copy]).getLast? = some c := by
    intro hf c hl
    rw [hhanded, ← hl, h.last hp hf]
  refine ⟨⟨?_, ?_⟩, h.new, ?_, ?_, ?_, ?_, ?_, ?_⟩
  · intro c hc
    rcases List.mem_append.mp hc with hc | hc
    · exact h.intact.untorn c hc
    · rw [List.mem_singleton.mp hc]
      exact h.held hp
  · intro hc c hl
    exact heffect (hdone (hcases hc)) c hl
  · intro k hk
    exact absurd hk (by simp [step, Box.step])
  · intro hh
    exact absurd hh (by simp [step, Box.step])
  · intro hh
    exact absurd hh (by simp [step, Box.step])
  · intro _ hf c hl
    exact heffect hf c hl
  · intro hb
    exact absurd hb (by simp [step, Log.step, Log.finish])
  · intro hc
    exact hdone (hcases hc)

/-- **Step lemma.**  Every allowed operation keeps the invariant. -/
theorem inv_step {f : FieldCopy C} {p : Logged C} (h : Inv f p) (op : Op C)
    (hok : Ok f p op) : Inv f (step f p op) := by
  cases op with
  | store c => exact inv_store h hok
  | begin => exact inv_begin h hok
  | look => exact inv_look h hok.2
  | miss => exact inv_finish h hok.1 fun _ => hok.2
  | skip => exact inv_finish h hok.1 hok.2
  | copy =>
      obtain ⟨k, hk, hp⟩ := hok
      exact inv_copy h hk hp
  | clear => exact inv_clear h hok
  | hand c =>
      obtain ⟨hp, rfl⟩ := hok
      exact inv_hand h hp

end Mailbox
