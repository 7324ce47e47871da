import Mathlib.Data.List.Sort

/-!
# Tables with a primary key

A table is the list of its rows in the order of their keys.  Selecting a row, inserting a
new one, updating one and removing one are the operations of a database on it; `Keyed` is
the invariant that they keep: no two rows have one key.  `Exclusive` says the same of a
column that may be empty.
-/

namespace KeyedTable

variable {K R : Type} [LinearOrder K] {key : R → K}

/-- The row with the key `k`. -/
def select (key : R → K) (k : K) (rows : List R) : Option R := rows.find? fun r => key r = k

/-- A new row, in its place. -/
def insert (key : R → K) (row : R) (rows : List R) : List R :=
  rows.orderedInsert (fun a b => key a ≤ key b) row

/-- The row with the key `k` changes. -/
def update (key : R → K) (k : K) (f : R → R) (rows : List R) : List R :=
  rows.map fun r => if key r = k then f r else r

/-- The row with the key `k` goes. -/
def remove (key : R → K) (k : K) (rows : List R) : List R := rows.filter fun r => key r ≠ k

/-- The rows are in the order of their keys, one row for each. -/
def Keyed (key : R → K) (rows : List R) : Prop := rows.Pairwise fun a b => key a < key b

theorem keyed_nil : Keyed key [] := List.Pairwise.nil

theorem mem_insert {row r : R} {rows : List R} :
    r ∈ insert key row rows ↔ r = row ∨ r ∈ rows := List.mem_orderedInsert _

/-- A row of the table after an update is a changed row or another one. -/
theorem mem_update {k : K} {f : R → R} {rows : List R} {r : R} :
    r ∈ update key k f rows ↔
      (∃ q ∈ rows, key q = k ∧ f q = r) ∨ (r ∈ rows ∧ key r ≠ k) := by
  rw [update, List.mem_map]
  constructor
  · rintro ⟨q, hq, rfl⟩
    by_cases hk : key q = k
    · rw [if_pos hk]
      exact .inl ⟨q, hq, hk, rfl⟩
    · rw [if_neg hk]
      exact .inr ⟨hq, hk⟩
  · rintro (⟨q, hq, hk, rfl⟩ | ⟨hr, hk⟩)
    · exact ⟨q, hq, if_pos hk⟩
    · exact ⟨r, hr, if_neg hk⟩

/-- No row loses its key or gets a new one. -/
theorem key_update {k k' : K} {f : R → R} (hf : ∀ r, key r = k → key (f r) = k) {rows : List R}
    (h : ∀ r ∈ update key k f rows, key r ≠ k') : ∀ r ∈ rows, key r ≠ k' := by
  intro r hr
  by_cases hk : key r = k
  · rw [hk, ← hf r hk]
    exact h (f r) (mem_update.mpr (.inl ⟨r, hr, hk, rfl⟩))
  · exact h r (mem_update.mpr (.inr ⟨hr, hk⟩))

theorem update_id (k : K) (rows : List R) : update key k id rows = rows := by
  simp [update]

theorem mem_remove {k : K} {rows : List R} {r : R} :
    r ∈ remove key k rows ↔ r ∈ rows ∧ key r ≠ k := by
  simp [remove]

@[simp] theorem length_insert (row : R) (rows : List R) :
    (insert key row rows).length = rows.length + 1 := List.orderedInsert_length _ _ _

@[simp] theorem length_update (k : K) (f : R → R) (rows : List R) :
    (update key k f rows).length = rows.length := List.length_map _

theorem length_remove_le (k : K) (rows : List R) :
    (remove key k rows).length ≤ rows.length := List.length_filter_le _ _

theorem select_eq_none {k : K} {rows : List R} :
    select key k rows = none ↔ ∀ r ∈ rows, key r ≠ k := by
  simp [select]

theorem mem_of_select {k : K} {rows : List R} {r : R} (h : select key k rows = some r) :
    r ∈ rows ∧ key r = k := by
  refine ⟨List.mem_of_find?_eq_some h, ?_⟩
  simpa using List.find?_some h

/-- Two rows with one key are one row. -/
theorem Keyed.unique {rows : List R} (h : Keyed key rows) {q r : R} (hq : q ∈ rows)
    (hr : r ∈ rows) (hkey : key q = key r) : q = r := by
  induction rows with
  | nil => exact absurd hq (List.not_mem_nil)
  | cons a rows ih =>
      obtain ⟨hhead, htail⟩ := List.pairwise_cons.mp h
      rcases List.mem_cons.mp hq with hqa | hq <;> rcases List.mem_cons.mp hr with hra | hr
      · exact hqa.trans hra.symm
      · exact absurd (hqa ▸ hkey) (ne_of_lt (hhead r hr))
      · exact absurd (hra ▸ hkey).symm (ne_of_lt (hhead q hq))
      · exact ih htail hq hr

/-- **Inserting** a row under a new key keeps the keys. -/
theorem Keyed.insert {rows : List R} (h : Keyed key rows) {row : R}
    (hnew : ∀ r ∈ rows, key r ≠ key row) : Keyed key (insert key row rows) := by
  induction rows with
  | nil => exact List.pairwise_singleton _ _
  | cons r rows ih =>
      have hr := hnew r (List.mem_cons_self ..)
      obtain ⟨hhead, htail⟩ := List.pairwise_cons.mp h
      rw [KeyedTable.insert, List.orderedInsert_cons]
      by_cases hle : key row ≤ key r
      · have hlt : key row < key r := lt_of_le_of_ne hle hr.symm
        rw [if_pos hle]
        refine List.pairwise_cons.mpr ⟨?_, h⟩
        rintro q hq
        rcases List.mem_cons.mp hq with rfl | hq
        · exact hlt
        · exact lt_trans hlt (hhead q hq)
      · rw [if_neg hle]
        refine List.pairwise_cons.mpr ⟨?_, ih htail fun q hq => hnew q (List.mem_cons_of_mem _ hq)⟩
        rintro q hq
        rcases mem_insert.mp hq with rfl | hq
        · exact not_le.mp hle
        · exact hhead q hq

/-- **Updating** a row under its key keeps the keys. -/
theorem Keyed.update {rows : List R} (h : Keyed key rows) {k : K} {f : R → R}
    (hf : ∀ r, key r = k → key (f r) = k) : Keyed key (update key k f rows) := by
  have hkey : ∀ r, key (if key r = k then f r else r) = key r := by
    intro r
    by_cases hk : key r = k
    · rw [if_pos hk, hf r hk, hk]
    · rw [if_neg hk]
  refine List.pairwise_map.mpr (h.imp fun hab => ?_)
  rw [hkey, hkey]
  exact hab

/-- **Removing** a row keeps the keys. -/
theorem Keyed.remove {rows : List R} (h : Keyed key rows) (k : K) :
    Keyed key (remove key k rows) := h.filter _

/-! ## Exclusive columns -/

section Exclusive

variable {C : Type} {hold : R → Option C} {rows : List R}

/-- No two rows hold one value in the column. -/
def Exclusive (key : R → K) (hold : R → Option C) (rows : List R) : Prop :=
  ∀ c, ∀ q ∈ rows, ∀ r ∈ rows, hold q = some c → hold r = some c → key q = key r

/-- A new row that holds nothing. -/
theorem Exclusive.insert (h : Exclusive key hold rows) {row : R} (hnew : hold row = none) :
    Exclusive key hold (insert key row rows) := by
  intro c q hq r hr hqc hrc
  rcases mem_insert.mp hq with rfl | hq
  · rw [hnew] at hqc
    cases hqc
  · rcases mem_insert.mp hr with rfl | hr
    · rw [hnew] at hrc
      cases hrc
    · exact h c q hq r hr hqc hrc

theorem Exclusive.remove (h : Exclusive key hold rows) (k : K) :
    Exclusive key hold (remove key k rows) :=
  fun c q hq r hr => h c q (mem_remove.mp hq).1 r (mem_remove.mp hr).1

/-- **A row takes a value** that no other row holds, or keeps the one that it has. -/
theorem Exclusive.update (h : Exclusive key hold rows) {k : K} {f : R → R}
    (hf : ∀ r, key r = k → key (f r) = k)
    (hfree : ∀ q ∈ rows, key q = k → hold (f q) = hold q ∨
      ∀ c, hold (f q) = some c → ∀ r ∈ KeyedTable.remove key k rows, hold r ≠ some c) :
    Exclusive key hold (update key k f rows) := by
  intro c q hq r hr hqc hrc
  -- only a changed row and an unchanged one can have different keys
  have hmixed : ∀ p ∈ rows, ∀ o ∈ rows, key p = k → key o ≠ k → hold (f p) = some c →
      hold o = some c → key p = key o := by
    intro p hp o ho hpk hok hpc hoc
    rcases hfree p hp hpk with hsame | htaken
    · exact h c p hp o ho (hsame.symm.trans hpc) hoc
    · exact absurd hoc (htaken c hpc o (mem_remove.mpr ⟨ho, hok⟩))
  rcases mem_update.mp hq with ⟨p, hp, hpk, rfl⟩ | ⟨hq, hqk⟩
  · rcases mem_update.mp hr with ⟨o, ho, hok, rfl⟩ | ⟨hr, hrk⟩
    · rw [hf p hpk, hf o hok]
    · rw [hf p hpk, ← hpk]
      exact hmixed p hp r hr hpk hrk hqc hrc
  · rcases mem_update.mp hr with ⟨o, ho, hok, rfl⟩ | ⟨hr, hrk⟩
    · rw [hf o hok, ← hok]
      exact (hmixed o ho q hq hok hqk hrc hqc).symm
    · exact h c q hq r hr hqc hrc

end Exclusive

end KeyedTable
