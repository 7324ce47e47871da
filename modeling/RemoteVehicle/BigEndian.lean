import Mathlib.Tactic

/-!
# Numbers as bytes, the high byte first

`value` is the number that a list of bytes stands for, `digits k n` the last `k` bytes of
`n`.  Each undoes the other: `digits_value` for every list, `value_digits` for the numbers
that fit.
-/

namespace BigEndian

/-- The number that the bytes stand for. -/
def value (bytes : List UInt8) : Nat := bytes.foldl (fun n b => 256 * n + b.toNat) 0

/-- The last `k` bytes of a number. -/
def digits : Nat → Nat → List UInt8
  | 0, _ => []
  | k + 1, n => digits k (n / 256) ++ [UInt8.ofNat n]

@[simp] theorem value_nil : value [] = 0 := rfl

theorem value_concat (bytes : List UInt8) (b : UInt8) :
    value (bytes ++ [b]) = 256 * value bytes + b.toNat := by
  simp only [value, List.foldl_append, List.foldl_cons, List.foldl_nil]

@[simp] theorem digits_zero (n : Nat) : digits 0 n = [] := rfl

theorem digits_succ (k n : Nat) : digits (k + 1) n = digits k (n / 256) ++ [UInt8.ofNat n] := rfl

@[simp] theorem digits_length (k n : Nat) : (digits k n).length = k := by
  induction k generalizing n with
  | zero => rfl
  | succ k ih => rw [digits_succ, List.length_append, ih, List.length_singleton]

theorem value_lt (bytes : List UInt8) : value bytes < 256 ^ bytes.length := by
  induction bytes using List.reverseRecOn with
  | nil => decide
  | append_singleton bytes b ih =>
      have hb := b.toNat_lt
      rw [value_concat, List.length_append, List.length_singleton, Nat.pow_succ]
      omega

/-- **Reading what was written**, for the numbers that fit. -/
theorem value_digits {k n : Nat} (h : n < 256 ^ k) : value (digits k n) = n := by
  induction k generalizing n with
  | zero =>
      rw [Nat.pow_zero] at h
      rw [digits_zero, value_nil]
      omega
  | succ k ih =>
      rw [Nat.pow_succ] at h
      have hdiv : n / 256 < 256 ^ k := by omega
      rw [digits_succ, value_concat, ih hdiv, UInt8.toNat_ofNat']
      omega

/-- **Writing what was read.** -/
theorem digits_value (bytes : List UInt8) : digits bytes.length (value bytes) = bytes := by
  induction bytes using List.reverseRecOn with
  | nil => rfl
  | append_singleton bytes b ih =>
      have hb := b.toNat_lt
      have hdiv : (256 * value bytes + b.toNat) / 256 = value bytes := by omega
      have hlast : UInt8.ofNat (256 * value bytes + b.toNat) = b := by
        rw [← UInt8.toNat_inj, UInt8.toNat_ofNat']
        omega
      rw [value_concat, List.length_append, List.length_singleton, digits_succ, hdiv, ih, hlast]

end BigEndian
