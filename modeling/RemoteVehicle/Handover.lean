import Mathlib.Data.List.Nodup
import Mathlib.Data.List.Perm.Subperm
import Mathlib.Tactic.Push
import Mathlib.Tactic.ByContra

/-!
# From a snapshot to live delivery

A producer appends items to a history and holds each of them for a while before it delivers it.
A consumer takes a snapshot first, and from some time on what is delivered.  It wants all items
from one position on, each of them once.

* `Owed` — the item in hand belongs to what the consumer wants, and it does not have it yet.
* `Tight` — the consumer has everything but the item in hand, if that one is owed.

Each step of the producer keeps `Tight` exactly when it treats the item in hand as it should:
an item that is owed is delivered, and any other one is dropped.
-/

namespace Handover

variable {T : Type} {history taken : List T} {first : Nat} {x : T}

/-- The item is wanted and not there. -/
def Owed (history : List T) (first : Nat) (taken : List T) (x : T) : Prop :=
  x ∈ history.drop first ∧ x ∉ taken

instance [DecidableEq T] : Decidable (Owed history first taken x) :=
  inferInstanceAs (Decidable (_ ∧ _))

/-- Everything is there, or everything but the item in hand. -/
def Tight (history : List T) (first : Nat) (hand : Option T) (taken : List T) : Prop :=
  history.drop first = taken ∨ ∃ x, hand = some x ∧ history.drop first = taken ++ [x]

theorem tight_none : Tight history first none taken ↔ history.drop first = taken := by
  constructor
  · rintro (h | ⟨x, hx, -⟩)
    · exact h
    · cases hx
  · intro h
    exact Or.inl h

theorem tight_some : Tight history first (some x) taken ↔
    history.drop first = taken ∨ history.drop first = taken ++ [x] := by
  constructor
  · rintro (h | ⟨y, hy, h⟩)
    · exact Or.inl h
    · obtain rfl := Option.some.inj hy
      exact Or.inr h
  · rintro (h | h)
    · exact Or.inl h
    · exact Or.inr ⟨x, rfl, h⟩

/-- An item that is not owed: everything is there. -/
theorem not_owed_of_whole (h : history.drop first = taken) : ¬ Owed history first taken x := by
  rintro ⟨hmem, hnot⟩
  rw [h] at hmem
  exact hnot hmem

theorem owed_of_missing (hnodup : history.Nodup) (h : history.drop first = taken ++ [x]) :
    Owed history first taken x := by
  have htail : (taken ++ [x]).Nodup := h ▸ hnodup.sublist (List.drop_sublist first history)
  refine ⟨by rw [h]; simp, fun hmem => ?_⟩
  exact (List.nodup_append.mp htail).2.2 x hmem x (by simp) rfl

/-! ## Steps of the producer -/

/-- **A new item** is owed from then on. -/
theorem tight_produce (hfirst : first ≤ history.length) (htaken : ∀ y ∈ taken, y ∈ history)
    (hnew : x ∉ history) :
    Tight (history ++ [x]) first (some x) taken ↔ Tight history first none taken := by
  rw [tight_some, tight_none, List.drop_append_of_le_length hfirst]
  constructor
  · rintro (h | h)
    · have hmem : x ∈ taken := by
        rw [← h]
        simp
      exact absurd (htaken x hmem) hnew
    · exact List.append_cancel_right h
  · intro h
    exact Or.inr (by rw [h])

/-- **A delivery** is right for an item that is owed. -/
theorem tight_deliver (hnodup : history.Nodup) :
    Tight history first none (taken ++ [x]) ↔
      Tight history first (some x) taken ∧ Owed history first taken x := by
  rw [tight_some, tight_none]
  constructor
  · intro h
    exact ⟨Or.inr h, owed_of_missing hnodup h⟩
  · rintro ⟨h | h, howed⟩
    · exact absurd howed (not_owed_of_whole h)
    · exact h

/-- **A loss** is right for any other. -/
theorem tight_lose (hnodup : history.Nodup) :
    Tight history first none taken ↔
      Tight history first (some x) taken ∧ ¬ Owed history first taken x := by
  rw [tight_some, tight_none]
  constructor
  · intro h
    exact ⟨Or.inl h, not_owed_of_whole h⟩
  · rintro ⟨h | h, hnot⟩
    · exact h
    · exact absurd (owed_of_missing hnodup h) hnot

/-! ## Beginning and end -/

/-- Two lists without repetitions, one within the other, with the same items. -/
theorem eq_of_sublist_of_subset {l m : List T} (hsub : l.Sublist m) (hnodup : m.Nodup)
    (hmem : ∀ y ∈ m, y ∈ l) : l = m :=
  hsub.eq_of_length_le (hnodup.subperm hmem).length_le

/-- A part of a list that lacks only the last item. -/
theorem eq_append_of_missing {l m : List T} (hsub : l.Sublist m) (hnodup : m.Nodup)
    (hlast : m.getLast? = some x) (hx : x ∉ l) (hmem : ∀ y ∈ m, y ≠ x → y ∈ l) :
    m = l ++ [x] := by
  obtain ⟨u, rfl⟩ := List.getLast?_eq_some_iff.mp hlast
  have hu : u.Nodup := hnodup.sublist (List.sublist_append_left u [x])
  have hsubu : l.Sublist u := by
    obtain ⟨l₁, l₂, rfl, h₁, h₂⟩ := List.sublist_append_iff.mp hsub
    rcases List.sublist_singleton.mp h₂ with rfl | rfl
    · simpa using h₁
    · exact absurd (by simp) hx
  rw [eq_of_sublist_of_subset hsubu hu]
  intro y hy
  refine hmem y (List.mem_append_left _ hy) fun hyx => ?_
  exact (List.nodup_append.mp hnodup).2.2 y hy x (by simp) hyx

/-- **The snapshot** is right when nothing is owed but the item in hand. -/
theorem tight_open {hand : Option T} (hnodup : history.Nodup)
    (hlast : ∀ y ∈ hand, history.getLast? = some y)
    (hsub : taken.Sublist (history.drop first)) :
    Tight history first hand taken ↔ ∀ y, Owed history first taken y → hand = some y := by
  constructor
  · rintro (h | ⟨x, hx, h⟩) y howed
    · exact absurd howed (not_owed_of_whole h)
    · obtain ⟨hmem, hnot⟩ := howed
      rw [h, List.mem_append, List.mem_singleton] at hmem
      rcases hmem with hmem | rfl
      · exact absurd hmem hnot
      · exact hx
  · intro h
    have hdrop : (history.drop first).Nodup := hnodup.sublist (List.drop_sublist first history)
    by_cases hall : ∀ y ∈ history.drop first, y ∈ taken
    · exact Or.inl (eq_of_sublist_of_subset hsub hdrop hall).symm
    · -- the missing item is in hand, so it is the last one of the history
      push Not at hall
      obtain ⟨x, hmem, hnot⟩ := hall
      have hhand := h x ⟨hmem, hnot⟩
      have hend : (history.drop first).getLast? = some x := by
        rw [List.getLast?_drop, if_neg, hlast x hhand]
        intro hle
        exact List.ne_nil_of_mem hmem (List.drop_eq_nil_of_le hle)
      refine Or.inr ⟨x, hhand, eq_append_of_missing hsub hdrop hend hnot fun y hy hyx => ?_⟩
      by_contra hyt
      have hyhand := h y ⟨hy, hyt⟩
      rw [hhand] at hyhand
      exact hyx (Option.some.inj hyhand).symm

/-- **The end** is right when the item in hand is not owed. -/
theorem whole_iff {hand : Option T} (hnodup : history.Nodup) :
    history.drop first = taken ↔
      Tight history first hand taken ∧ ∀ y ∈ hand, ¬ Owed history first taken y := by
  constructor
  · intro h
    exact ⟨Or.inl h, fun y _ => not_owed_of_whole h⟩
  · rintro ⟨h | ⟨x, hx, h⟩, hnot⟩
    · exact h
    · exact absurd (owed_of_missing hnodup h) (hnot x hx)

end Handover
