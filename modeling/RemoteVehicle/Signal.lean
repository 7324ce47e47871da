import Mathlib.Tactic

/-!
# Boolean signals — levels, edges, changes

A signal is sampled: a list of levels after a first one.  `final` is the last level, `rises`
and `falls` count its edges and `changes` both.

Edges alternate, so the two counts differ by at most one, and `start_add_rises` says by how
much: `2 * max rises falls` is the number of changes, and one more when the signal ends at
another level than it began with (`two_mul_max`).
-/

namespace Signal

/-- The last level. -/
def final : Bool → List Bool → Bool
  | a, [] => a
  | _, b :: bs => final b bs

/-- Changes from low to high. -/
def rises : Bool → List Bool → Nat
  | _, [] => 0
  | a, b :: bs => (if a = false ∧ b = true then 1 else 0) + rises b bs

/-- Changes from high to low. -/
def falls : Bool → List Bool → Nat
  | _, [] => 0
  | a, b :: bs => (if a = true ∧ b = false then 1 else 0) + falls b bs

/-- Changes. -/
def changes : Bool → List Bool → Nat
  | _, [] => 0
  | a, b :: bs => (if b ≠ a then 1 else 0) + changes b bs

variable (a : Bool) (bs : List Bool)

/-! ## One more sample, or more of them -/

theorem final_append (cs : List Bool) : final a (bs ++ cs) = final (final a bs) cs := by
  induction bs generalizing a with
  | nil => rfl
  | cons b bs ih => exact ih b

theorem changes_append (cs : List Bool) :
    changes a (bs ++ cs) = changes a bs + changes (final a bs) cs := by
  induction bs generalizing a with
  | nil => exact (Nat.zero_add _).symm
  | cons b bs ih => rw [List.cons_append, changes, ih, changes, final, Nat.add_assoc]

@[simp] theorem final_snoc (b : Bool) : final a (bs ++ [b]) = b := final_append a bs [b]

theorem rises_snoc (b : Bool) : rises a (bs ++ [b]) =
    rises a bs + if final a bs = false ∧ b = true then 1 else 0 := by
  induction bs generalizing a with
  | nil => exact Nat.add_comm _ _
  | cons c bs ih => rw [List.cons_append, rises, ih, rises, final, Nat.add_assoc]

theorem falls_snoc (b : Bool) : falls a (bs ++ [b]) =
    falls a bs + if final a bs = true ∧ b = false then 1 else 0 := by
  induction bs generalizing a with
  | nil => exact Nat.add_comm _ _
  | cons c bs ih => rw [List.cons_append, falls, ih, falls, final, Nat.add_assoc]

/-! ## Edges alternate -/

/-- Every change is a rise or a fall. -/
theorem changes_eq : changes a bs = rises a bs + falls a bs := by
  induction bs generalizing a with
  | nil => rfl
  | cons b bs ih =>
      rw [changes, rises, falls, ih]
      rcases a <;> rcases b <;> simp <;> omega

/-- **Rises and falls balance** up to the first and the last level. -/
theorem start_add_rises : a.toNat + rises a bs = falls a bs + (final a bs).toNat := by
  induction bs generalizing a with
  | nil => exact Nat.add_comm _ _
  | cons b bs ih =>
      have hb := ih b
      rw [rises, falls, final]
      rcases a <;> rcases b <;> simp at hb ⊢ <;> omega

/-- **The larger of the two counts** is half the changes, rounded up. -/
theorem two_mul_max : 2 * max (rises a bs) (falls a bs) =
    changes a bs + if final a bs ≠ a then 1 else 0 := by
  have hbalance := start_add_rises a bs
  have hchanges := changes_eq a bs
  rcases a <;> rcases hfinal : final _ bs <;> rw [hfinal] at hbalance <;>
    simp at hbalance ⊢ <;> omega

end Signal
