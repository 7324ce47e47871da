import Mathlib.Data.List.Perm.Basic

/-!
# Exactly one answer to every request

A server takes requests and sends answers; some requests are answered at once, others are
kept open and answered later.  The book of such a server holds the answered requests with
their answers and the open requests, oldest first.

`Balanced` says that the book accounts for everything: its answers are the answers sent, in
order, and its requests are the requests taken, none missing and none twice.
`balanced_reply`, `balanced_take` and `balanced_complete` are the three steps of a server
that keeps it, and `Balanced.count` is the equation between the two numbers.
-/

namespace AnswerLog

variable {Q A : Type}

/-- Answered requests with their answers, and open requests. -/
structure Book (Q A : Type) where
  closed : List (Q × A)
  opened : List Q

/-- The empty book. -/
def Book.empty : Book Q A := ⟨[], []⟩

/-- The book accounts for the requests `qs` and the answers `as`, and every answer is
    right. -/
structure Balanced (Right : Q → A → Prop) (b : Book Q A) (qs : List Q) (as : List A) : Prop where
  answers : b.closed.map Prod.snd = as
  requests : (b.closed.map Prod.fst ++ b.opened).Perm qs
  right : ∀ p ∈ b.closed, Right p.1 p.2

variable {Right : Q → A → Prop} {b : Book Q A} {qs : List Q} {as : List A}

theorem balanced_empty : Balanced Right (Book.empty : Book Q A) [] [] :=
  ⟨rfl, List.Perm.refl _, fun _ h => absurd h List.not_mem_nil⟩

/-- A new entry keeps every answer right. -/
private theorem right_snoc (h : ∀ p ∈ b.closed, Right p.1 p.2) {q : Q} {a : A} (ha : Right q a) :
    ∀ p ∈ b.closed ++ [(q, a)], Right p.1 p.2 := by
  intro p hp
  rcases List.mem_append.mp hp with hp | hp
  · exact h p hp
  · obtain rfl := List.mem_singleton.mp hp
    exact ha

/-- A request is taken and answered. -/
theorem balanced_reply (h : Balanced Right b qs as) {q : Q} {a : A} (ha : Right q a) :
    Balanced Right ⟨b.closed ++ [(q, a)], b.opened⟩ (qs ++ [q]) (as ++ [a]) := by
  refine ⟨?_, ?_, right_snoc h.right ha⟩
  · rw [List.map_append, h.answers]
    rfl
  · have hswap : (b.closed.map Prod.fst ++ [q] ++ b.opened).Perm
        (b.closed.map Prod.fst ++ b.opened ++ [q]) := by
      rw [List.append_assoc, List.append_assoc]
      exact List.Perm.append_left _ List.perm_append_comm
    rw [List.map_append]
    exact hswap.trans (h.requests.append_right [q])

/-- A request is taken and stays open. -/
theorem balanced_take (h : Balanced Right b qs as) (q : Q) :
    Balanced Right ⟨b.closed, b.opened ++ [q]⟩ (qs ++ [q]) as := by
  refine ⟨h.answers, ?_, h.right⟩
  rw [← List.append_assoc]
  exact h.requests.append_right [q]

/-- The oldest open request is answered. -/
theorem balanced_complete (h : Balanced Right b qs as) {q : Q} {rest : List Q} {a : A}
    (hopen : b.opened = q :: rest) (ha : Right q a) :
    Balanced Right ⟨b.closed ++ [(q, a)], rest⟩ qs (as ++ [a]) := by
  refine ⟨?_, ?_, right_snoc h.right ha⟩
  · rw [List.map_append, h.answers]
    rfl
  · rw [List.map_append, List.append_assoc]
    have hrequests := h.requests
    rw [hopen] at hrequests
    exact hrequests

/-- **Every request is answered once or still open.** -/
theorem Balanced.count (h : Balanced Right b qs as) : as.length + b.opened.length = qs.length := by
  have hlen := h.requests.length_eq
  rw [List.length_append, List.length_map] at hlen
  rw [← h.answers, List.length_map]
  exact hlen

end AnswerLog
