import Mathlib.Data.List.Nodup
import Mathlib.Logic.Function.Basic

/-!
# Resources that are acquired and released by hand

A program acquires some resources one after the other, does something with them, and releases
them in the same order.  Any of these calls may raise an exception, and nothing after it is
done any more: there is no finaliser that gives the resources back.

A call that acquires can raise, be refused without raising, or be granted.  A call that
releases can raise before or after it has let go; on a resource that is not held it does
nothing and cannot raise.

`session_none_iff` says exactly when nothing is held at the end: whenever something is held at
all, no call raises from the first acquisition up to the release of the last held resource.
-/

namespace Acquisition

variable {R : Type}

/-! ## Calls -/

/-- How a call that acquires ends. -/
inductive Acquired where
  | raises
  | refused
  | granted
deriving DecidableEq, Repr

/-- How a call that releases a held resource ends. -/
inductive Released where
  | done
  | raisesHolding
  | raisesFreed
deriving DecidableEq, Repr

/-- What is held, and whether the program goes on. -/
abbrev Outcome (R : Type) := (R → Bool) × Bool

/-- One part of a program after the other. -/
def Outcome.next (f : (R → Bool) → Outcome R) (o : Outcome R) : Outcome R :=
  if o.2 then f o.1 else o

theorem Outcome.next_done {f : (R → Bool) → Outcome R} {o : Outcome R} (h : o.2 = true) :
    o.next f = f o.1 := if_pos h

theorem Outcome.next_raised {f : (R → Bool) → Outcome R} {o : Outcome R} (h : o.2 = false) :
    o.next f = o := if_neg (by simp [h])

theorem Outcome.next_next (f g : (R → Bool) → Outcome R) (o : Outcome R) :
    (o.next f).next g = o.next fun held => (f held).next g := by
  rcases o with ⟨held, _ | _⟩ <;> rfl

/-- Going on is all that the empty part does. -/
theorem Outcome.next_pure (o : Outcome R) : (o.next fun held => (held, true)) = o := by
  rcases o with ⟨held, _ | _⟩ <;> rfl

def acquire [DecidableEq R] (acq : R → Acquired) (r : R) (held : R → Bool) : Outcome R :=
  match acq r with
  | .raises => (held, false)
  | .refused => (held, true)
  | .granted => (Function.update held r true, true)

def release [DecidableEq R] (rel : R → Released) (r : R) (held : R → Bool) : Outcome R :=
  if held r then
    match rel r with
    | .done => (Function.update held r false, true)
    | .raisesHolding => (held, false)
    | .raisesFreed => (Function.update held r false, false)
  else (held, true)

/-- The same call for each resource in turn. -/
def each (call : R → (R → Bool) → Outcome R) : List R → (R → Bool) → Outcome R
  | [], held => (held, true)
  | r :: rs, held => (call r held).next (each call rs)

/-- The program: acquire, use, release. -/
def session [DecidableEq R] (acq : R → Acquired) (raises : Bool) (rel : R → Released) (rs : List R)
    (held : R → Bool) : Outcome R :=
  ((each (acquire acq) rs held).next fun held => (held, !raises)).next (each (release rel) rs)

theorem each_append (call : R → (R → Bool) → Outcome R) (rs qs : List R) (held : R → Bool) :
    each call (rs ++ qs) held = (each call rs held).next (each call qs) := by
  induction rs generalizing held with
  | nil => rfl
  | cons r rs ih =>
      show (call r held).next (each call (rs ++ qs)) =
        ((call r held).next (each call rs)).next (each call qs)
      rcases call r held with ⟨after, _ | _⟩
      · rfl
      · exact ih after

/-! ## Acquiring -/

section Acquire

variable {acq : R → Acquired} {rs : List R} {held : R → Bool}

/-- A resource is granted when its own call grants it and no call before it raises. -/
def Granted (acq : R → Acquired) (rs : List R) (r : R) : Prop :=
  ∃ before after, rs = before ++ r :: after ∧ (∀ q ∈ before, acq q ≠ .raises) ∧
    acq r = .granted

theorem granted_cons {r q : R} :
    Granted acq (r :: rs) q ↔
      (q = r ∧ acq r = .granted) ∨ (acq r ≠ .raises ∧ Granted acq rs q) := by
  constructor
  · rintro ⟨before, after, heq, hbefore, hgranted⟩
    cases before with
    | nil =>
        obtain ⟨rfl, -⟩ := List.cons.inj heq
        exact Or.inl ⟨rfl, hgranted⟩
    | cons p before =>
        obtain ⟨rfl, hrest⟩ := List.cons.inj heq
        obtain ⟨hp, hbefore⟩ := List.forall_mem_cons.mp hbefore
        exact Or.inr ⟨hp, before, after, hrest, hbefore, hgranted⟩
  · rintro (⟨rfl, hgranted⟩ | ⟨hr, before, after, rfl, hbefore, hgranted⟩)
    · exact ⟨[], rs, rfl, fun _ hp => absurd hp List.not_mem_nil, hgranted⟩
    · exact ⟨r :: before, after, rfl, List.forall_mem_cons.mpr ⟨hr, hbefore⟩, hgranted⟩

variable [DecidableEq R]

/-- Acquiring goes on as long as nothing raises. -/
theorem each_acquire_done : (each (acquire acq) rs held).2 = true ↔ ∀ r ∈ rs, acq r ≠ .raises := by
  induction rs generalizing held with
  | nil => exact ⟨fun _ _ hr => absurd hr List.not_mem_nil, fun _ => rfl⟩
  | cons r rs ih =>
      rw [List.forall_mem_cons]
      show ((acquire acq r held).next (each (acquire acq) rs)).2 = true ↔ _
      rw [acquire]
      cases hr : acq r with
      | raises => simp [Outcome.next]
      | refused => simpa [Outcome.next] using ih
      | granted => simpa [Outcome.next] using ih

/-- **What is held after acquiring**: what was held before, and what was granted. -/
theorem each_acquire_held (q : R) :
    (each (acquire acq) rs held).1 q = true ↔ held q = true ∨ Granted acq rs q := by
  induction rs generalizing held with
  | nil =>
      have hnone : ¬ Granted acq [] q := by
        rintro ⟨before, after, heq, -⟩
        exact absurd heq (by simp)
      exact ⟨Or.inl, fun h => h.resolve_right hnone⟩
  | cons r rs ih =>
      rw [granted_cons]
      show ((acquire acq r held).next (each (acquire acq) rs)).1 q = true ↔ _
      rw [acquire]
      cases hr : acq r with
      | raises => simp [Outcome.next]
      | refused =>
          show (each (acquire acq) rs held).1 q = true ↔ _
          rw [ih]
          simp
      | granted =>
          -- from here on `r` counts as held before
          show (each (acquire acq) rs (Function.update held r true)).1 q = true ↔ _
          rw [ih, Function.update_apply]
          by_cases hq : q = r <;> simp [hq]

end Acquire

/-! ## Releasing -/

section Release

variable {rel : R → Released} {rs : List R} {held : R → Bool}

/-- Every held resource of the list is reached and let go. -/
def AllReleased (rel : R → Released) (held : R → Bool) (rs : List R) : Prop :=
  ∀ before r after, rs = before ++ r :: after → held r = true →
    (∀ q ∈ before, held q = true → rel q = .done) ∧ rel r ≠ .raisesHolding

theorem allReleased_cons {r : R} :
    AllReleased rel held (r :: rs) ↔
      (held r = true → rel r ≠ .raisesHolding) ∧ AllReleased rel held rs ∧
        (held r = true → rel r ≠ .done → ∀ q ∈ rs, held q = false) := by
  constructor
  · intro h
    refine ⟨fun hr => (h [] r rs rfl hr).2, ?_, ?_⟩
    · rintro before q after rfl hq
      obtain ⟨hbefore, hrel⟩ := h (r :: before) q after rfl hq
      exact ⟨fun p hp => hbefore p (List.mem_cons_of_mem r hp), hrel⟩
    · -- a release that raises ends the walk, so nothing held may come after it
      intro hr hdone q hq
      by_contra hheld
      obtain ⟨before, after, rfl⟩ := List.append_of_mem hq
      exact hdone ((h (r :: before) q after rfl (by simpa using hheld)).1 r
        List.mem_cons_self hr)
  · rintro ⟨hown, hrest, hlater⟩ before q after heq hq
    cases before with
    | nil =>
        obtain ⟨rfl, -⟩ := List.cons.inj heq
        exact ⟨fun _ hp => absurd hp List.not_mem_nil, hown hq⟩
    | cons p before =>
        obtain ⟨rfl, rfl⟩ := List.cons.inj heq
        obtain ⟨hbefore, hrel⟩ := hrest before q after rfl hq
        refine ⟨List.forall_mem_cons.mpr ⟨fun hr => ?_, hbefore⟩, hrel⟩
        by_contra hdone
        rw [hlater hr hdone q (by simp)] at hq
        cases hq

variable [DecidableEq R]

/-- Letting go of a resource that does not come again changes nothing for the others. -/
theorem allReleased_update {r : R} (hr : r ∉ rs) (b : Bool) :
    AllReleased rel (Function.update held r b) rs ↔ AllReleased rel held rs := by
  have hsame : ∀ q ∈ rs, Function.update held r b q = held q := by
    intro q hq
    have hne : q ≠ r := by
      rintro rfl
      exact hr hq
    exact Function.update_of_ne hne b held
  constructor
  · rintro h before q after rfl hq
    obtain ⟨hbefore, hrel⟩ := h before q after rfl ((hsame q (by simp)).trans hq)
    exact ⟨fun p hp hheld => hbefore p hp ((hsame p (by simp [hp])).trans hheld), hrel⟩
  · rintro h before q after rfl hq
    rw [hsame q (by simp)] at hq
    obtain ⟨hbefore, hrel⟩ := h before q after rfl hq
    refine ⟨fun p hp hheld => hbefore p hp ?_, hrel⟩
    rw [← hsame p (by simp [hp])]
    exact hheld

/-- A resource that is not in the list is not touched. -/
theorem each_release_other {q : R} (hq : q ∉ rs) : (each (release rel) rs held).1 q = held q := by
  induction rs generalizing held with
  | nil => rfl
  | cons r rs ih =>
      have hne : q ≠ r := fun heq => hq (heq ▸ List.mem_cons_self)
      have hrest : q ∉ rs := fun hmem => hq (List.mem_cons_of_mem r hmem)
      show ((release rel r held).next (each (release rel) rs)).1 q = held q
      rw [release]
      split
      · cases rel r with
        | done =>
            show (each (release rel) rs (Function.update held r false)).1 q = held q
            rw [ih hrest, Function.update_of_ne hne]
        | raisesHolding => rfl
        | raisesFreed => exact Function.update_of_ne hne false held
      · exact ih hrest

/-- **Nothing of the list is held after releasing** exactly when each held resource is reached
    and let go. -/
theorem each_release_none (hnodup : rs.Nodup) :
    (∀ r ∈ rs, (each (release rel) rs held).1 r = false) ↔ AllReleased rel held rs := by
  induction rs generalizing held with
  | nil =>
      constructor
      · rintro - before r after heq
        exact absurd heq (by simp)
      · exact fun _ _ hr => absurd hr List.not_mem_nil
  | cons r rs ih =>
      obtain ⟨hr, hnodup⟩ := List.nodup_cons.mp hnodup
      have hupdate : ∀ q ∈ rs, Function.update held r false q = held q := by
        intro q hq
        have hne : q ≠ r := by
          rintro rfl
          exact hr hq
        exact Function.update_of_ne hne false held
      rw [allReleased_cons, List.forall_mem_cons]
      show (((release rel r held).next (each (release rel) rs)).1 r = false ∧
        ∀ q ∈ rs, ((release rel r held).next (each (release rel) rs)).1 q = false) ↔ _
      rw [release]
      by_cases hheld : held r = true
      · rw [if_pos hheld]
        cases hrel : rel r with
        | done =>
            -- it goes on with the others
            show ((each (release rel) rs (Function.update held r false)).1 r = false ∧
              ∀ q ∈ rs, (each (release rel) rs (Function.update held r false)).1 q = false) ↔ _
            rw [ih hnodup, allReleased_update hr, each_release_other hr, Function.update_self]
            simp
        | raisesHolding =>
            show (held r = false ∧ ∀ q ∈ rs, held q = false) ↔ _
            simp [hheld]
        | raisesFreed =>
            -- what is held after it stays
            show (Function.update held r false r = false ∧
              ∀ q ∈ rs, Function.update held r false q = false) ↔ _
            rw [Function.update_self]
            constructor
            · rintro ⟨-, hnone⟩
              have hnone : ∀ q ∈ rs, held q = false := by
                intro q hq
                rw [← hupdate q hq]
                exact hnone q hq
              refine ⟨fun _ => by simp, ?_, fun _ _ => hnone⟩
              rintro before q after rfl hq
              rw [hnone q (by simp)] at hq
              cases hq
            · rintro ⟨-, -, hnone⟩
              refine ⟨rfl, fun q hq => ?_⟩
              rw [hupdate q hq]
              exact hnone hheld (by simp) q hq
      · rw [if_neg hheld]
        show ((each (release rel) rs held).1 r = false ∧
          ∀ q ∈ rs, (each (release rel) rs held).1 q = false) ↔ _
        rw [ih hnodup, each_release_other hr]
        simp [hheld]

end Release

/-! ## Sessions -/

section Session

variable {acq : R → Acquired} {rel : R → Released} {raises : Bool} {rs : List R}
  {held : R → Bool}

/-- A resource is held when the releases begin: from before, or because it was granted. -/
def InHand (acq : R → Acquired) (rs : List R) (held : R → Bool) (r : R) : Prop :=
  held r = true ∨ Granted acq rs r

/-- No call raises from the first acquisition to the release of a resource that is in hand. -/
def Undisturbed (acq : R → Acquired) (raises : Bool) (rel : R → Released) (rs : List R)
    (held : R → Bool) : Prop :=
  ∀ before r after, rs = before ++ r :: after → InHand acq rs held r →
    (∀ q ∈ rs, acq q ≠ .raises) ∧ raises = false ∧
      (∀ q ∈ before, InHand acq rs held q → rel q = .done) ∧ rel r ≠ .raisesHolding

/-- When something goes wrong before the releases, nothing may be in hand. -/
theorem undisturbed_aborted (h : ¬ ((∀ q ∈ rs, acq q ≠ .raises) ∧ raises = false)) :
    Undisturbed acq raises rel rs held ↔ ∀ r ∈ rs, ¬ InHand acq rs held r := by
  constructor
  · intro hclean r hr hhand
    obtain ⟨before, after, heq⟩ := List.append_of_mem hr
    obtain ⟨hacq, hraises, -⟩ := hclean before r after heq hhand
    exact h ⟨hacq, hraises⟩
  · rintro hnone before r after rfl hhand
    exact absurd hhand (hnone r (by simp))

variable [DecidableEq R]

/-- **Nothing is held after the session** exactly when it is undisturbed. -/
theorem session_none_iff (hnodup : rs.Nodup) :
    (∀ r ∈ rs, (session acq raises rel rs held).1 r = false) ↔
      Undisturbed acq raises rel rs held := by
  have hhand : ∀ r, (each (acquire acq) rs held).1 r = false ↔ ¬ InHand acq rs held r := by
    intro r
    rw [InHand, ← each_acquire_held, Bool.not_eq_true]
  have hdone : (each (acquire acq) rs held).2 = true ↔ ∀ q ∈ rs, acq q ≠ .raises :=
    each_acquire_done
  rw [session]
  generalize each (acquire acq) rs held = o at hhand hdone
  obtain ⟨after, completed⟩ := o
  by_cases hgood : (∀ q ∈ rs, acq q ≠ .raises) ∧ raises = false
  · -- the releases are reached, and what is in hand is what they have to let go
    obtain ⟨hacq, rfl⟩ := hgood
    obtain rfl : completed = true := hdone.mpr hacq
    show (∀ r ∈ rs, (each (release rel) rs after).1 r = false) ↔ _
    have hin : ∀ r, after r = true ↔ InHand acq rs held r := by
      intro r
      rw [← not_iff_not, Bool.not_eq_true]
      exact hhand r
    rw [each_release_none hnodup]
    constructor
    · rintro h before r more heq hr
      obtain ⟨hbefore, hrel⟩ := h before r more heq ((hin r).mpr hr)
      exact ⟨hacq, rfl, fun q hq hheld => hbefore q hq ((hin q).mpr hheld), hrel⟩
    · rintro h before r more heq hr
      obtain ⟨-, -, hbefore, hrel⟩ := h before r more heq ((hin r).mp hr)
      exact ⟨fun q hq hheld => hbefore q hq ((hin q).mp hheld), hrel⟩
  · -- they are not
    rw [undisturbed_aborted hgood]
    have hsame : ((Outcome.next (fun held => (held, !raises)) (after, completed)).next
        (each (release rel) rs)).1 = after := by
      cases completed with
      | false => rfl
      | true =>
          cases raises with
          | true => rfl
          | false => exact absurd ⟨hdone.mp rfl, rfl⟩ hgood
    rw [hsame]
    exact forall₂_congr fun r _ => hhand r

end Session

end Acquisition
