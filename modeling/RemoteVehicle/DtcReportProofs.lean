import RemoteVehicle.DtcStoreProofs
import RemoteVehicle.PcDiagnostics

/-!
# A trouble code report of MEDIA is read back as it was made

`_rdtc` puts the rows of a query into one response, four bytes for each.  Two parsers read
them: `read_dtcs` of the PC, which skips a record without status bits, and `_parse_dtc` of
the test client.

`parseRecords` is what both of them find (`dtcItems_view`, `rdtc_eq`), and it undoes the
response (`parseRecords_flatMap`).  The rows of a store that was empty once all have
status bits (`statusStored_run`), so nothing is skipped.
-/

namespace DtcReport

open Runs BigEndian KeyedTable MediaUds PcDiagnostics

/-! ## The test client -/

/-- The loop of `_parse_dtc`, from the bytes at its index on. -/
def parseRecords : List UInt8 → List (Nat × UInt8)
  | b0 :: b1 :: b2 :: status :: rest =>
      let code := b0.toNat <<< 16 ||| b1.toNat <<< 8 ||| b2.toNat
      (code, status) :: parseRecords rest
  | _ => []

/-- `_parse_dtc` of `test_client.py`. -/
def parseDtc (resp : List UInt8) : List (Nat × UInt8) :=
  if resp.head? ≠ some 0x59 then [] else parseRecords (resp.drop 3)

/-! ## Records -/

/-- The code of a record, shifted together or read as one number. -/
theorem shifted_eq_value (b0 b1 b2 : UInt8) :
    b0.toNat <<< 16 ||| b1.toNat <<< 8 ||| b2.toNat = value [b0, b1, b2] := by
  have h1 := b1.toNat_lt
  have h2 := b2.toNat_lt
  have hlow : b1.toNat <<< 8 ||| b2.toNat = b1.toNat * 2 ^ 8 + b2.toNat := by
    rw [← Nat.shiftLeft_add_eq_or_of_lt (by omega), Nat.shiftLeft_eq]
  have hall : b0.toNat <<< 16 ||| (b1.toNat * 2 ^ 8 + b2.toNat) =
      b0.toNat * 2 ^ 16 + (b1.toNat * 2 ^ 8 + b2.toNat) := by
    rw [← Nat.shiftLeft_add_eq_or_of_lt (by omega), Nat.shiftLeft_eq]
  rw [Nat.or_assoc, hlow, hall]
  simp only [value, List.foldl_cons, List.foldl_nil]
  omega

/-- What a report says of a row. -/
def view (row : DtcRow) : Nat × UInt8 := (row.dtcCode.val, row.statusByte)

/-- **Reading the records** that were written, whatever their number. -/
theorem parseRecords_flatMap (rows : List DtcRow) :
    parseRecords (rows.flatMap dtcRecord) = rows.map view := by
  induction rows with
  | nil => rfl
  | cons row rows ih =>
      obtain ⟨b0, b1, b2, hdigits⟩ := List.length_eq_three.mp (digits_length 3 row.dtcCode)
      have hcode : value [b0, b1, b2] = row.dtcCode := by
        rw [← hdigits]
        exact value_digits row.dtcCode.isLt
      rw [List.flatMap_cons, dtcRecord, hdigits]
      simp only [List.cons_append, List.nil_append, parseRecords, List.map_cons]
      rw [shifted_eq_value, hcode, ih]
      rfl

/-- **`read_dtcs` finds the same records**, but for those without status bits. -/
theorem dtcItems_view (bytes : List UInt8) :
    (dtcItems bytes).map (fun item => (item.code, item.status)) =
      (parseRecords bytes).filter fun record => record.2 ≠ 0 := by
  induction bytes using dtcItems.induct with
  | case1 b0 b1 b2 rest ih =>
      rw [dtcItems, parseRecords, if_pos rfl, List.filter_cons_of_neg (by simp), ih]
  | case2 b0 b1 b2 status rest hstatus ih =>
      rw [dtcItems, parseRecords, if_neg hstatus, List.filter_cons_of_pos (by simpa using hstatus),
        List.map_cons, ih, shifted_eq_value]
  | case3 bytes hshort =>
      rw [dtcItems.eq_2 _ hshort, parseRecords.eq_2 _ hshort]
      rfl

/-! ## Stores -/

/-- The status of every row has a bit. -/
def StatusStored (dtcs : List DtcRow) : Prop :=
  ∀ row ∈ dtcs, row.statusByte = 0x08 ∨ row.statusByte = 0x09

theorem statusStored_update {dtcs : List DtcRow} (h : StatusStored dtcs) (code : DtcCode)
    {f : DtcRow → DtcRow}
    (hf : ∀ row, row.statusByte = 0x08 ∨ row.statusByte = 0x09 →
      (f row).statusByte = 0x08 ∨ (f row).statusByte = 0x09) :
    StatusStored (update DtcRow.dtcCode code f dtcs) := by
  intro row hrow
  rcases mem_update.mp hrow with ⟨old, hold, -, rfl⟩ | ⟨hold, -⟩
  · exact hf old (h old hold)
  · exact h row hold

/-- **Step lemma.** -/
theorem statusStored_step {dtcs : List DtcRow} (h : StatusStored dtcs) (op : StoreOp) :
    StatusStored (storeStep dtcs op) := by
  cases op with
  | setActive now code =>
      rw [storeStep, setActive]
      split
      · intro row hrow
        rcases mem_insert.mp hrow with rfl | hrow
        · exact .inr rfl
        · exact h row hrow
      · split
        · refine statusStored_update h code fun row hrow => .inr ?_
          rcases hrow with hrow | hrow <;> rw [hrow] <;> rfl
        · exact statusStored_update h code fun row hrow => hrow
  | clearActive now code =>
      rw [storeStep, clearActive]
      split
      · exact h
      · split
        · refine statusStored_update h code fun row hrow => .inl ?_
          rcases hrow with hrow | hrow <;> rw [hrow] <;> rfl
        · exact h
  | clearAll => exact fun row hrow => absurd hrow List.not_mem_nil

/-- **Run lemma.** -/
theorem statusStored_run (ops : List StoreOp) : StatusStored (run storeStep [] ops) :=
  run_invariant StatusStored (fun _ op h => statusStored_step h op)
    (fun _ hrow => absurd hrow List.not_mem_nil) ops

/-! ## Queries -/

/-- A query loses no row that meets the mask and doubles none. -/
theorem query_perm (mask : UInt8) (dtcs : List DtcRow) :
    (query mask dtcs).Perm (dtcs.filter fun row => row.statusByte &&& mask ≠ 0) :=
  List.perm_insertionSort _ _

/-- A query gives the latest rows first. -/
theorem query_sorted (mask : UInt8) (dtcs : List DtcRow) :
    (query mask dtcs).Pairwise fun a b => b.lastOccurrence ≤ a.lastOccurrence := by
  have htotal : Std.Total fun a b : DtcRow => b.lastOccurrence ≤ a.lastOccurrence :=
    ⟨fun a b => le_total b.lastOccurrence a.lastOccurrence⟩
  have htrans : IsTrans DtcRow fun a b => b.lastOccurrence ≤ a.lastOccurrence :=
    ⟨fun _ _ _ hab hbc => le_trans hbc hab⟩
  exact List.pairwise_insertionSort _ _

/-! ## Main result -/

/-- The response to a request with a mask. -/
theorem rdtc_eq (sid mask : UInt8) (more : List UInt8) (dtcs : List DtcRow) :
    rdtc (sid :: 0x02 :: mask :: more) dtcs =
      0x59 :: 0x02 :: 0xFF :: (query mask dtcs).flatMap dtcRecord := by
  simp [rdtc, getAllDtcs]

/-- **A report is read back as it was made**: by both parsers, for every store that was
    empty once, every mask and whatever else is in the request. -/
theorem rdtc_readBack (ops : List StoreOp) (sid mask : UInt8) (more : List UInt8) :
    let dtcs := run storeStep [] ops
    let resp := rdtc (sid :: 0x02 :: mask :: more) dtcs
    let rows := query mask dtcs
    rows.Perm (dtcs.filter fun row => row.statusByte &&& mask ≠ 0) ∧
      rows.Pairwise (fun a b => b.lastOccurrence ≤ a.lastOccurrence) ∧
      (dtcsResult resp).ok = true ∧
      (dtcsResult resp).items.map (fun item => (item.code, item.status)) = rows.map view ∧
      parseDtc resp = rows.map view := by
  intro dtcs resp rows
  have hresp : resp = 0x59 :: 0x02 :: 0xFF :: rows.flatMap dtcRecord := rdtc_eq sid mask more dtcs
  have hstored : ∀ record ∈ rows.map view, record.2 ≠ 0 := by
    intro record hrecord
    obtain ⟨row, hrow, rfl⟩ := List.mem_map.mp hrecord
    have hmem : row ∈ dtcs := (List.mem_filter.mp ((query_perm mask dtcs).mem_iff.mp hrow)).1
    -- a row of the store has one of two statuses, so no parser takes it for padding
    have hbits : row.statusByte ≠ 0 := by
      rcases statusStored_run ops row hmem with hstatus | hstatus <;> rw [hstatus] <;> decide
    exact hbits
  refine ⟨query_perm mask dtcs, query_sorted mask dtcs, ?_, ?_, ?_⟩
  · rw [hresp]
    rfl
  · have hitems : (dtcsResult resp).items = dtcItems (rows.flatMap dtcRecord) := by
      rw [hresp]
      rfl
    rw [hitems, dtcItems_view, parseRecords_flatMap, List.filter_eq_self]
    exact fun record hrecord => decide_eq_true (hstored record hrecord)
  · have hparse : parseDtc resp = parseRecords (rows.flatMap dtcRecord) := by
      rw [hresp]
      rfl
    rw [hparse, parseRecords_flatMap]

end DtcReport
