import Mathlib.Tactic

/-!
# Length-prefixed messages in a stream

A message carries its own length in a header, so a stream of messages has only one
reading: `flatten_injective`.  A receiver sees the stream cut into segments, each a chain
of buffers.

`firstBuffers` is the receiver that takes no account of this: it looks at the first buffer
of each segment and accepts it when it is a whole message.  `firstBuffers_eq_iff` says on
which cuttings this receiver reads the stream correctly: exactly when every segment is
empty or is one whole message in its first buffer.
-/

namespace Framing

/-- Messages with a header of fixed size; `total` is what the header says the whole
    message has. -/
structure Format (α : Type) where
  header : Nat
  total : List α → Nat
  header_pos : 0 < header
  total_append : ∀ m r, header ≤ m.length → total (m ++ r) = total m

/-- The first buffer of a segment, and the rest of its chain. -/
abbrev Segment (α : Type) := List α × List α

variable {α : Type} (F : Format α)

/-- One whole message and nothing else. -/
def Whole (m : List α) : Prop := F.header ≤ m.length ∧ F.total m = m.length

instance (m : List α) : Decidable (Whole F m) := by unfold Whole; infer_instance

/-- The bytes of a segment. -/
def content (seg : Segment α) : List α := seg.1 ++ seg.2

/-- The first buffers that are whole messages. -/
def firstBuffers (segs : List (Segment α)) : List (List α) :=
  (segs.map Prod.fst).filter fun b => Whole F b

/-- Empty, or one message in the first buffer. -/
def Aligned (seg : Segment α) : Prop := content seg = [] ∨ (Whole F seg.1 ∧ seg.2 = [])

variable {F}

/-! ## One reading -/

/-- No message is the beginning of another. -/
theorem whole_unique {m n r s : List α} (hm : Whole F m) (hn : Whole F n)
    (h : m ++ r = n ++ s) : m = n ∧ r = s := by
  have htotal : F.total m = F.total n := by
    rw [← F.total_append m r hm.1, ← F.total_append n s hn.1, h]
  have hlen : m.length = n.length := by
    rw [← hm.2, ← hn.2, htotal]
  exact List.append_inj h hlen

theorem whole_ne_nil {m : List α} (hm : Whole F m) : m ≠ [] := by
  rintro rfl
  exact absurd hm.1 (Nat.not_le.mpr F.header_pos)

/-- **A stream of messages has one reading.** -/
theorem flatten_injective {ms ns : List (List α)} (hm : ∀ m ∈ ms, Whole F m)
    (hn : ∀ n ∈ ns, Whole F n) (h : ms.flatten = ns.flatten) : ms = ns := by
  induction ms generalizing ns with
  | nil =>
      cases ns with
      | nil => rfl
      | cons n ns =>
          have hnil : n = [] := (List.append_eq_nil_iff.mp h.symm).1
          exact absurd hnil (whole_ne_nil (hn n (by simp)))
  | cons m ms ih =>
      cases ns with
      | nil =>
          have hnil : m = [] := (List.append_eq_nil_iff.mp h).1
          exact absurd hnil (whole_ne_nil (hm m (by simp)))
      | cons n ns =>
          obtain ⟨hhead, htail⟩ := whole_unique (hm m (by simp)) (hn n (by simp)) h
          rw [hhead, ih (fun m' h' => hm m' (by simp [h'])) (fun n' h' => hn n' (by simp [h']))
            htail]

/-! ## The receiver that looks at first buffers -/

theorem firstBuffers_cons (seg : Segment α) (segs : List (Segment α)) :
    firstBuffers F (seg :: segs) =
      if Whole F seg.1 then seg.1 :: firstBuffers F segs else firstBuffers F segs := by
  by_cases h : Whole F seg.1
  · simp [firstBuffers, h]
  · simp [firstBuffers, h]

theorem firstBuffers_whole {segs : List (Segment α)} {m : List α}
    (h : m ∈ firstBuffers F segs) : Whole F m := by
  simpa using (List.mem_filter.mp h).2

/-- Nothing is read twice. -/
theorem length_firstBuffers_le (segs : List (Segment α)) :
    (firstBuffers F segs).flatten.length ≤ (segs.flatMap content).length := by
  induction segs with
  | nil => exact Nat.le_refl 0
  | cons seg segs ih =>
      rw [firstBuffers_cons, List.flatMap_cons, List.length_append, content,
        List.length_append]
      split
      · rw [List.flatten_cons, List.length_append]
        omega
      · omega

/-- On aligned segments nothing is lost. -/
theorem flatten_firstBuffers {segs : List (Segment α)} (h : ∀ seg ∈ segs, Aligned F seg) :
    (firstBuffers F segs).flatten = segs.flatMap content := by
  induction segs with
  | nil => rfl
  | cons seg segs ih =>
      have htail := ih fun s hs => h s (by simp [hs])
      rw [firstBuffers_cons, List.flatMap_cons]
      rcases h seg (by simp) with hempty | ⟨hwhole, hrest⟩
      · have hfirst : seg.1 = [] := (List.append_eq_nil_iff.mp hempty).1
        rw [if_neg fun hw => whole_ne_nil hw hfirst, hempty, htail, List.nil_append]
      · rw [if_pos hwhole, List.flatten_cons, htail, content, hrest, List.append_nil]

/-- Where nothing is lost, every segment is aligned. -/
theorem aligned_of_length {segs : List (Segment α)}
    (h : (firstBuffers F segs).flatten.length = (segs.flatMap content).length) :
    ∀ seg ∈ segs, Aligned F seg := by
  induction segs with
  | nil => simp
  | cons seg segs ih =>
      have hle := length_firstBuffers_le (F := F) segs
      rw [firstBuffers_cons, List.flatMap_cons, List.length_append] at h
      have hcontent : (content seg).length = seg.1.length + seg.2.length := List.length_append
      have hsplit : (firstBuffers F segs).flatten.length = (segs.flatMap content).length ∧
          Aligned F seg := by
        split at h
        · rename_i hwhole
          rw [List.flatten_cons, List.length_append] at h
          exact ⟨by omega, Or.inr ⟨hwhole, List.length_eq_zero_iff.mp (by omega)⟩⟩
        · exact ⟨by omega, Or.inl (List.length_eq_zero_iff.mp (by omega))⟩
      intro s hs
      rcases List.mem_cons.mp hs with rfl | hs
      · exact hsplit.2
      · exact ih hsplit.1 s hs

/-- **When first buffers are enough.**  On a stream of messages, however it is cut, the
    receiver reads these messages in this order exactly when every segment is aligned. -/
theorem firstBuffers_eq_iff {segs : List (Segment α)} {msgs : List (List α)}
    (hmsgs : ∀ m ∈ msgs, Whole F m) (hstream : segs.flatMap content = msgs.flatten) :
    firstBuffers F segs = msgs ↔ ∀ seg ∈ segs, Aligned F seg := by
  constructor
  · rintro rfl
    exact aligned_of_length (by rw [hstream])
  · intro h
    have hread := flatten_firstBuffers h
    exact flatten_injective (fun _ hm => firstBuffers_whole hm) hmsgs (hread.trans hstream)

end Framing
