import Mathlib.Data.List.Infix
import Mathlib.Tactic

/-!
# A debounce filter

A filter samples an input and follows it only when the input has stood still.  It keeps the
last sample, a timer of equal samples that stops at a limit, and the stable value; a sample
that finds the timer full becomes the stable value.

`LastRun n xs a` says that the most recent run of `n` equal samples has the value `a`.
`filtered_run` says that the stable value is that of the most recent run of `limit + 2` equal
samples, and the first reading as long as there is none.  The two more than the limit are the
sample that starts the timer and the one that finds it full.
-/

namespace Debounce

variable {α : Type}

/-! ## Runs of equal samples -/

/-- The samples end with `n` equal ones. -/
theorem replicate_suffix_snoc {n : Nat} {a b : α} {xs : List α} :
    List.replicate (n + 1) a <:+ xs ++ [b] ↔ b = a ∧ List.replicate n a <:+ xs := by
  rw [List.replicate_succ']
  constructor
  · rintro ⟨pre, h⟩
    rw [← List.append_assoc] at h
    obtain ⟨hxs, hb⟩ := List.append_inj' h rfl
    exact ⟨(List.singleton_inj.mp hb).symm, pre, hxs⟩
  · rintro ⟨rfl, pre, rfl⟩
    exact ⟨pre, (List.append_assoc ..).symm⟩

/-- The most recent run of `n` equal samples has the value `a`. -/
def LastRun (n : Nat) (xs : List α) (a : α) : Prop :=
  ∃ pre post, xs = pre ++ List.replicate n a ++ post ∧
    ∀ b pre' post', xs = pre' ++ List.replicate n b ++ post' → pre'.length ≤ pre.length

/-- There is no run of `n` equal samples. -/
def NoRun (n : Nat) (xs : List α) : Prop := ∀ a, ¬ List.replicate n a <:+: xs

/-- A run that ends with the last sample is the most recent one. -/
theorem lastRun_suffix {n : Nat} {xs : List α} {a : α} (h : List.replicate n a <:+ xs) :
    LastRun n xs a := by
  obtain ⟨pre, hxs⟩ := h
  refine ⟨pre, [], by rw [List.append_nil, hxs], ?_⟩
  intro b pre' post' h'
  have hlength := congrArg List.length (hxs.trans h')
  simp only [List.length_append, List.length_replicate] at hlength
  omega

/-- A run in one more sample is an old one, or ends with that sample. -/
theorem run_snoc_cases {n : Nat} {xs pre post : List α} {a b : α}
    (h : xs ++ [b] = pre ++ List.replicate n a ++ post) :
    List.replicate n a <:+ xs ++ [b] ∨
      ∃ rest, post = rest ++ [b] ∧ xs = pre ++ List.replicate n a ++ rest := by
  induction post using List.reverseRecOn with
  | nil => exact .inl ⟨pre, by rw [h, List.append_nil]⟩
  | append_singleton rest c _ =>
      rw [← List.append_assoc] at h
      obtain ⟨hxs, hb⟩ := List.append_inj' h rfl
      obtain rfl := List.singleton_inj.mp hb
      exact .inr ⟨rest, rfl, hxs⟩

theorem lastRun_snoc {n : Nat} {xs : List α} {a b : α} (h : LastRun n xs a)
    (hnew : ∀ c, ¬ List.replicate n c <:+ xs ++ [b]) : LastRun n (xs ++ [b]) a := by
  obtain ⟨pre, post, hxs, hlast⟩ := h
  refine ⟨pre, post ++ [b], by rw [hxs, List.append_assoc _ post], ?_⟩
  intro c pre' post' h'
  obtain hend | ⟨rest, _, hold⟩ := run_snoc_cases h'
  · exact absurd hend (hnew c)
  · exact hlast c pre' rest hold

theorem noRun_snoc {n : Nat} {xs : List α} {b : α} (h : NoRun n xs)
    (hnew : ∀ c, ¬ List.replicate n c <:+ xs ++ [b]) : NoRun n (xs ++ [b]) := by
  rintro c ⟨pre, post, hrun⟩
  obtain hend | ⟨rest, _, hold⟩ := run_snoc_cases hrun.symm
  · exact hnew c hend
  · exact h c ⟨pre, rest, hold.symm⟩

/-! ## The filter -/

/-- What a debounce filter keeps. -/
structure Debouncer (α : Type) where
  last : α
  stable : α
  timer : Nat

/-- A filter that has read its input once. -/
def Debouncer.start (first : α) : Debouncer α := ⟨first, first, 0⟩

/-- One sample. -/
def Debouncer.sample [DecidableEq α] (limit : Nat) (f : Debouncer α) (a : α) : Debouncer α :=
  if a ≠ f.last then { f with last := a, timer := 0 }
  else if f.timer < limit then { f with timer := f.timer + 1 }
  else { f with stable := a }

/-- What a filter has to do with its samples. -/
structure Filtered (limit : Nat) (first : α) (xs : List α) (f : Debouncer α) : Prop where
  timer_le : f.timer ≤ limit
  counts : ∀ n ≤ limit, ∀ a,
    a = f.last ∧ n ≤ f.timer ↔ List.replicate (n + 1) a <:+ first :: xs
  stands : LastRun (limit + 2) xs f.stable ∨ NoRun (limit + 2) xs ∧ f.stable = first

variable {limit : Nat} {first : α} {xs : List α} {f : Debouncer α}

theorem filtered_start : Filtered limit first [] (Debouncer.start first) := by
  constructor
  · exact Nat.zero_le limit
  · intro n _ a
    have hsuffix : List.replicate (n + 1) a <:+ [first] ↔ first = a ∧ List.replicate n a <:+ [] :=
      @replicate_suffix_snoc α n a first []
    rw [hsuffix, List.suffix_nil, List.replicate_eq_nil_iff]
    exact and_congr eq_comm Nat.le_zero
  · refine .inr ⟨?_, rfl⟩
    intro a hrun
    have hlength := hrun.length_le
    rw [List.length_replicate] at hlength
    exact absurd hlength (Nat.not_succ_le_zero _)

/-- The timer after one more sample, from the runs before it. -/
theorem counts_snoc (h : Filtered limit first xs f) {b : α} {timer : Nat}
    (htimer : ∀ n < limit, n + 1 ≤ timer ↔ b = f.last ∧ n ≤ f.timer) :
    ∀ n ≤ limit, ∀ a,
      a = b ∧ n ≤ timer ↔ List.replicate (n + 1) a <:+ first :: (xs ++ [b]) := by
  intro n hn a
  rw [← List.cons_append, replicate_suffix_snoc]
  rcases n with _ | n
  · exact and_congr eq_comm ⟨fun _ => List.nil_suffix, fun _ => Nat.zero_le _⟩
  · rw [← h.counts n (Nat.le_of_succ_le hn) a, htimer n hn]
    constructor
    · rintro ⟨rfl, hcounts⟩
      exact ⟨rfl, hcounts⟩
    · rintro ⟨rfl, hcounts⟩
      exact ⟨rfl, hcounts⟩

/-- A sample that does not find the timer full ends no long run. -/
theorem no_new_run (h : Filtered limit first xs f) {b : α}
    (hroom : b = f.last → f.timer < limit) (c : α) :
    ¬ List.replicate (limit + 2) c <:+ xs ++ [b] := by
  intro hrun
  obtain ⟨rfl, hbefore⟩ := replicate_suffix_snoc.mp hrun
  have hall : List.replicate (limit + 1) b <:+ first :: xs :=
    hbefore.trans (List.suffix_cons first xs)
  obtain ⟨hlast, hfull⟩ := (h.counts limit le_rfl b).mpr hall
  exact absurd (hroom hlast) (Nat.not_lt.mpr hfull)

theorem stands_snoc (h : Filtered limit first xs f) {b : α}
    (hroom : b = f.last → f.timer < limit) :
    LastRun (limit + 2) (xs ++ [b]) f.stable ∨
      NoRun (limit + 2) (xs ++ [b]) ∧ f.stable = first := by
  obtain hlast | ⟨hnone, hfirst⟩ := h.stands
  · exact .inl (lastRun_snoc hlast (no_new_run h hroom))
  · exact .inr ⟨noRun_snoc hnone (no_new_run h hroom), hfirst⟩

/-- A sample that finds the timer full ends a long run, or the samples and the first reading
    are all equal. -/
theorem stands_full (h : Filtered limit first xs f) (hfull : f.timer = limit) :
    LastRun (limit + 2) (xs ++ [f.last]) f.last ∨
      NoRun (limit + 2) (xs ++ [f.last]) ∧ f.last = first := by
  have hrun := (h.counts limit le_rfl f.last).mp ⟨rfl, hfull.ge⟩
  obtain hall | hsuffix := List.suffix_cons_iff.mp hrun
  · obtain ⟨hfirst, hxs⟩ := List.cons.inj hall
    refine .inr ⟨?_, hfirst⟩
    intro a hlong
    have hlength := hlong.length_le
    rw [← hxs, List.length_append, List.length_replicate, List.length_replicate] at hlength
    exact absurd hlength (Nat.lt_irrefl _)
  · exact .inl (lastRun_suffix (replicate_suffix_snoc.mpr ⟨rfl, hsuffix⟩))

variable [DecidableEq α]

/-- **One sample.** -/
theorem filtered_sample (h : Filtered limit first xs f) (b : α) :
    Filtered limit first (xs ++ [b]) (f.sample limit b) := by
  have hle := h.timer_le
  rw [Debouncer.sample]
  split_ifs with hchange hroom
  · refine ⟨Nat.zero_le _, counts_snoc h ?_, stands_snoc h fun hlast => absurd hlast hchange⟩
    intro n _
    constructor
    · intro hzero
      exact absurd hzero (Nat.not_succ_le_zero n)
    · rintro ⟨hlast, -⟩
      exact absurd hlast hchange
  · obtain rfl := not_not.mp hchange
    refine ⟨hroom, counts_snoc h ?_, stands_snoc h fun _ => hroom⟩
    intro n _
    rw [Nat.succ_le_succ_iff]
    exact (and_iff_right rfl).symm
  · obtain rfl := not_not.mp hchange
    have hfull : f.timer = limit := by omega
    refine ⟨hle, counts_snoc h ?_, stands_full h hfull⟩
    intro n hn
    rw [hfull]
    exact ⟨fun _ => ⟨rfl, hn.le⟩, fun _ => hn⟩

/-- **The stable value** is that of the most recent long run, or the first reading. -/
theorem filtered_run (limit : Nat) (first : α) (xs : List α) :
    Filtered limit first xs (xs.foldl (Debouncer.sample limit) (Debouncer.start first)) := by
  induction xs using List.reverseRecOn with
  | nil => exact filtered_start
  | append_singleton xs b ih =>
      rw [List.foldl_append]
      exact filtered_sample ih b

end Debounce
