import Mathlib.Data.List.Sort

/-!
# Keeping the newest of what was added

Elements are added in the order of their keys, and after an addition all but the newest `k` are to
be removed.  `prune` sorts the keys to find them, and leaves those that cannot be removed.

`Window k kept all` compares what is kept with all that was ever added: the newest `k` are there,
and before them only what could not be removed.  It survives additions (`Window.snoc`), changes of
the elements that leave their keys alone (`Window.map`), and removals (`Window.prune`); removals
that all succeed leave the newest `k` and nothing else (`Window.prune_all`).
-/

namespace Retention

variable {A K : Type} [LinearOrder K] {key : A → K} {removable : K → Bool} {k : Nat}

/-! ## Removing -/

/-- The keys of all but the newest `k`. -/
def oldest (key : A → K) (k : Nat) (l : List A) : List K :=
  ((l.map key).insertionSort (· ≤ ·)).take (l.length - k)

/-- They are removed, where that is possible. -/
def prune (key : A → K) (k : Nat) (removable : K → Bool) (l : List A) : List A :=
  l.filter fun a => !(decide (key a ∈ oldest key k l) && removable (key a))

/-- The keys get greater. -/
def Ascending (key : A → K) (l : List A) : Prop := (l.map key).Pairwise (· < ·)

theorem ascending_append {l m : List A} :
    Ascending key (l ++ m) ↔
      Ascending key l ∧ Ascending key m ∧ ∀ a ∈ l, ∀ b ∈ m, key a < key b := by
  rw [Ascending, List.map_append, List.pairwise_append]
  refine and_congr_right fun _ => and_congr_right fun _ => ?_
  constructor
  · intro h a ha b hb
    exact h (key a) (List.mem_map_of_mem ha) (key b) (List.mem_map_of_mem hb)
  · intro h x hx y hy
    obtain ⟨a, ha, rfl⟩ := List.mem_map.mp hx
    obtain ⟨b, hb, rfl⟩ := List.mem_map.mp hy
    exact h a ha b hb

theorem Ascending.sublist {l m : List A} (h : Ascending key m) (hsub : l.Sublist m) :
    Ascending key l := List.Pairwise.sublist (hsub.map key) h

theorem Ascending.map {l : List A} {g : A → A} (h : Ascending key l)
    (hkey : ∀ a, key (g a) = key a) : Ascending key (l.map g) := by
  have hsame : (l.map g).map key = l.map key := by
    rw [List.map_map]
    exact List.map_congr_left fun a _ => hkey a
  rw [Ascending, hsame]
  exact h

/-- Of a sorted list the first ones are found. -/
theorem oldest_append {old new : List A} (hasc : Ascending key (old ++ new))
    (hlen : old.length + new.length - k = old.length) :
    oldest key k (old ++ new) = old.map key := by
  have hle : ((old ++ new).map key).Pairwise (· ≤ ·) := List.Pairwise.imp le_of_lt hasc
  rw [oldest, hle.insertionSort_eq, List.length_append, hlen, List.map_append]
  exact List.take_left' (List.length_map _)

/-- **The newest `k` stay**, and before them what cannot be removed. -/
theorem prune_append {old new : List A} (hasc : Ascending key (old ++ new))
    (hlen : old.length + new.length - k = old.length) :
    prune key k removable (old ++ new) = old.filter (fun a => !removable (key a)) ++ new := by
  rw [prune, oldest_append hasc hlen, List.filter_append]
  have hbefore := (ascending_append.mp hasc).2.2
  congr 1
  · refine List.filter_congr fun a ha => ?_
    rw [decide_eq_true (List.mem_map_of_mem ha), Bool.true_and]
  · refine List.filter_eq_self.mpr fun b hb => ?_
    have hnot : key b ∉ old.map key := by
      intro hcontra
      obtain ⟨a, ha, heq⟩ := List.mem_map.mp hcontra
      exact absurd (hbefore a ha b hb) (by rw [heq]; exact lt_irrefl _)
    rw [decide_eq_false hnot]
    rfl

/-! ## What is kept -/

/-- All of the newest `k`, and before them some of the others. -/
def Window (k : Nat) (kept all : List A) : Prop :=
  ∃ spared, spared.Sublist (all.take (all.length - k)) ∧
    kept = spared ++ all.drop (all.length - k)

section Window

variable {kept all : List A}

/-- What has few elements behind it is among the newest. -/
theorem mem_newest {a : A} {i : Nat} (hi : all[i]? = some a) (hlen : all.length ≤ i + k) :
    a ∈ all.drop (all.length - k) := by
  refine List.mem_iff_getElem?.mpr ⟨i - (all.length - k), ?_⟩
  rw [List.getElem?_drop, ← hi]
  congr 1
  omega

theorem window_nil : Window k ([] : List A) [] :=
  ⟨[], List.nil_sublist _, List.drop_nil.symm⟩

theorem Window.newest (h : Window k kept all) : all.drop (all.length - k) <:+ kept := by
  obtain ⟨spared, -, rfl⟩ := h
  exact List.suffix_append spared _

theorem Window.sublist (h : Window k kept all) : kept.Sublist all := by
  obtain ⟨spared, hsub, rfl⟩ := h
  have hall := hsub.append (List.Sublist.refl (all.drop (all.length - k)))
  rwa [List.take_append_drop] at hall

theorem Window.map (g : A → A) (h : Window k kept all) : Window k (kept.map g) (all.map g) := by
  obtain ⟨spared, hsub, rfl⟩ := h
  refine ⟨spared.map g, ?_, ?_⟩
  · rw [List.length_map, ← List.map_take]
    exact hsub.map g
  · rw [List.length_map, List.map_append, List.map_drop]

/-- An addition. -/
theorem Window.snoc (a : A) (h : Window k kept all) : Window k (kept ++ [a]) (all ++ [a]) := by
  obtain ⟨spared, hsub, rfl⟩ := h
  rcases hn : all.length - k with _ | m
  · -- there is room, or the oldest of the newest `k` leaves the window
    rw [hn] at hsub
    obtain rfl := List.sublist_nil.mp hsub
    by_cases hroom : all.length < k
    · have hzero : (all ++ [a]).length - k = 0 := by
        rw [List.length_append, List.length_singleton]
        omega
      refine ⟨[], ?_, ?_⟩
      · rw [hzero]
        exact List.Sublist.slnil
      · rw [hzero]
        rfl
    · have hone : (all ++ [a]).length - k = 1 := by
        rw [List.length_append, List.length_singleton]
        omega
      refine ⟨(all ++ [a]).take 1, ?_, ?_⟩
      · rw [hone]
      · rw [hone, List.take_append_drop]
        rfl
  · have hnext : (all ++ [a]).length - k = m + 1 + 1 := by
      rw [List.length_append, List.length_singleton]
      omega
    have hlt : m + 1 < (all ++ [a]).length := by
      rw [List.length_append, List.length_singleton]
      omega
    have hshort : m + 1 ≤ all.length := by omega
    rw [hn] at hsub
    refine ⟨spared ++ [(all ++ [a])[m + 1]], ?_, ?_⟩
    · rw [hnext, List.take_succ_eq_append_getElem hlt, List.take_append_of_le_length hshort]
      exact hsub.append (List.Sublist.refl _)
    · rw [hnext, List.append_assoc, List.append_assoc, List.singleton_append,
        ← List.drop_eq_getElem_cons hlt, List.drop_append_of_le_length hshort]

/-- The part before the window is as long as the sorted keys that are removed. -/
theorem window_length {spared : List A} (hsub : spared.Sublist (all.take (all.length - k))) :
    spared.length + (all.drop (all.length - k)).length - k = spared.length := by
  have hle := hsub.length_le
  rw [List.length_take] at hle
  rw [List.length_drop]
  omega

/-- A removal. -/
theorem Window.prune (hasc : Ascending key all) (h : Window k kept all) :
    Window k (prune key k removable kept) all := by
  have hkept := hasc.sublist h.sublist
  obtain ⟨spared, hsub, rfl⟩ := h
  exact ⟨_, List.filter_sublist.trans hsub, prune_append hkept (window_length hsub)⟩

/-- A removal that succeeds leaves nothing but the window. -/
theorem Window.prune_all (hasc : Ascending key all) (h : Window k kept all)
    (hall : ∀ x, removable x = true) :
    Retention.prune key k removable kept = all.drop (all.length - k) := by
  have hkept := hasc.sublist h.sublist
  obtain ⟨spared, hsub, rfl⟩ := h
  rw [prune_append hkept (window_length hsub)]
  have hnone : (spared.filter fun a => !removable (key a)) = [] := by
    refine List.filter_eq_nil_iff.mpr fun a _ => ?_
    rw [hall]
    exact Bool.false_ne_true
  rw [hnone]
  rfl

/-- Nothing is removed where nothing can be. -/
theorem prune_none (l : List A) : Retention.prune key k (fun _ => false) l = l := by
  refine List.filter_eq_self.mpr fun a _ => ?_
  rw [Bool.and_false]
  rfl

end Window

end Retention
