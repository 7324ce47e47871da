import Mathlib.Data.List.Basic

/-!
# A queue with limited room

A producer that does not wait puts an item into the queue when there is room for it and drops it
otherwise; a consumer takes the items out in order.

`Feed` is such a queue with its history: what was offered, what was delivered, what waits, and
how many items were dropped.  Its fields say what holds of it in every state, so `offer` and
`take` are the whole theory: the items come in order, none twice, and all of them unless one was
dropped (`Feed.complete_iff`).
-/

namespace DropQueue

variable {α : Type} {cap : Nat}

/-- A queue with room for `cap` items, and its history. -/
structure Feed (α : Type) (cap : Nat) where
  offered : List α
  delivered : List α
  waiting : List α
  dropped : Nat
  inOrder : (delivered ++ waiting).Sublist offered
  room : waiting.length ≤ cap
  account : offered.length = delivered.length + waiting.length + dropped

/-- Nothing has happened. -/
def Feed.empty : Feed α cap where
  offered := []
  delivered := []
  waiting := []
  dropped := 0
  inOrder := .slnil
  room := Nat.zero_le _
  account := rfl

/-- An item waits if there is room for it. -/
def Feed.offer (f : Feed α cap) (a : α) : Feed α cap :=
  if h : f.waiting.length < cap then
    { offered := f.offered ++ [a]
      delivered := f.delivered
      waiting := f.waiting ++ [a]
      dropped := f.dropped
      inOrder := by
        rw [← List.append_assoc]
        exact f.inOrder.append (List.Sublist.refl [a])
      room := by
        rw [List.length_append, List.length_singleton]
        omega
      account := by
        have haccount := f.account
        rw [List.length_append, List.length_append, List.length_singleton]
        omega }
  else
    { offered := f.offered ++ [a]
      delivered := f.delivered
      waiting := f.waiting
      dropped := f.dropped + 1
      inOrder := f.inOrder.trans (List.sublist_append_left _ _)
      room := f.room
      account := by
        have haccount := f.account
        rw [List.length_append, List.length_singleton]
        omega }

/-- The first item that waits is delivered. -/
def Feed.take (f : Feed α cap) : Feed α cap :=
  match h : f.waiting with
  | [] => f
  | a :: rest =>
      { offered := f.offered
        delivered := f.delivered ++ [a]
        waiting := rest
        dropped := f.dropped
        inOrder := by
          have hsub := f.inOrder
          rwa [h, List.append_cons] at hsub
        room := by
          have hroom := f.room
          rw [h, List.length_cons] at hroom
          omega
        account := by
          have haccount := f.account
          rw [h, List.length_cons] at haccount
          rw [List.length_append, List.length_singleton]
          omega }

theorem Feed.offer_room {f : Feed α cap} (h : f.waiting.length < cap) (a : α) :
    (f.offer a).waiting = f.waiting ++ [a] ∧ (f.offer a).dropped = f.dropped := by
  rw [Feed.offer, dif_pos h]
  exact ⟨rfl, rfl⟩

theorem Feed.offer_full {f : Feed α cap} (h : ¬ f.waiting.length < cap) (a : α) :
    (f.offer a).waiting = f.waiting ∧ (f.offer a).dropped = f.dropped + 1 := by
  rw [Feed.offer, dif_neg h]
  exact ⟨rfl, rfl⟩

@[simp] theorem Feed.offer_offered (f : Feed α cap) (a : α) :
    (f.offer a).offered = f.offered ++ [a] := by
  rw [Feed.offer]
  split <;> rfl

@[simp] theorem Feed.offer_delivered (f : Feed α cap) (a : α) :
    (f.offer a).delivered = f.delivered := by
  rw [Feed.offer]
  split <;> rfl

theorem Feed.take_cons {f : Feed α cap} {a : α} {rest : List α} (h : f.waiting = a :: rest) :
    f.take.waiting = rest ∧ f.take.delivered = f.delivered ++ [a] ∧
      f.take.offered = f.offered ∧ f.take.dropped = f.dropped := by
  rw [Feed.take]
  split
  · rename_i hnil
    rw [h] at hnil
    cases hnil
  · rename_i b tail hcons
    rw [h] at hcons
    obtain ⟨rfl, rfl⟩ := List.cons.inj hcons
    exact ⟨rfl, rfl, rfl, rfl⟩

/-- **Everything offered has been delivered or waits** exactly when nothing was dropped. -/
theorem Feed.complete_iff (f : Feed α cap) :
    f.dropped = 0 ↔ f.delivered ++ f.waiting = f.offered := by
  have haccount := f.account
  have hlength : (f.delivered ++ f.waiting).length = f.delivered.length + f.waiting.length :=
    List.length_append
  constructor
  · intro hnone
    exact f.inOrder.eq_of_length (by omega)
  · intro hall
    rw [hall] at hlength
    omega

end DropQueue
