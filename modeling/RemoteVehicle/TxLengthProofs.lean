import RemoteVehicle.BigEndian
import RemoteVehicle.MainTransmit

/-!
# The overflow guard of `DoIP_ProcessTx` compares a wrapped length

`DoIP_ProcessTx` fills a buffer of 1024 bytes with a header of twelve bytes and the UDS data.
It adds the lengths in 32 bits, but keeps the total in 16, and the guard before the copy
compares the kept total.

Up to a UDS length of 65523 the total is exact, so the guard is too (`total_exact`).  From
65524 on it wraps to less than twelve, the guard lets the call pass, and the copy writes
64 KiB behind the header of a buffer of one (`overflows`).
-/

namespace TxLength

open BigEndian MainState MainTransmit

/-! ## The buffer -/

/-- `sizeof(txBuf)`. -/
def txBufSize : Nat := 1024

/-- `totalTcpLength`. -/
def totalTcpLength (udsLength : Nat) : Nat := (8 + (4 + udsLength)) % 65536

/-- The bytes that a call writes into `txBuf`, unless its guard returns first. -/
def filledBuffer (sourceAddr : UInt16) (udsData : Payload) (udsLength : Nat) :
    Option (List UInt8) :=
  if txBufSize < totalTcpLength udsLength then none
  else some (doIPTxHeader sourceAddr udsLength ++ bytesOf udsData udsLength)

/-- What a call gets right: it transmits nothing and writes nothing, or it transmits one frame,
    which fits the buffer and says its own length. -/
inductive Sound (sourceAddr : UInt16) (udsData : Payload) (udsLength : Nat) : Prop where
  | silent (hbuffer : filledBuffer sourceAddr udsData udsLength = none)
      (hnothing : ∀ s, doIPProcessTx sourceAddr udsData udsLength s = s)
  | frame (txBuf : List UInt8) (hbuffer : filledBuffer sourceAddr udsData udsLength = some txBuf)
      (hlength : txBuf.length = 12 + udsLength) (hfits : txBuf.length ≤ txBufSize)
      (hfield : value ((txBuf.drop 4).take 4) = 4 + udsLength)
      (hdata : txBuf.drop 12 = bytesOf udsData udsLength)
      (htransmit : ∀ s, doIPProcessTx sourceAddr udsData udsLength s =
        soAdIfTransmit 13400 (ofList txBuf) txBuf.length s)

section Call

variable (sourceAddr : UInt16) (udsData : Payload) {udsLength : Nat}

theorem silent_eq (h : txBufSize < totalTcpLength udsLength) (s : Main) :
    doIPProcessTx sourceAddr udsData udsLength s = s := if_pos h

theorem transmit_eq (h : ¬ txBufSize < totalTcpLength udsLength) (s : Main) :
    doIPProcessTx sourceAddr udsData udsLength s =
      soAdIfTransmit 13400 (ofList (doIPTxHeader sourceAddr udsLength ++
        bytesOf udsData udsLength)) (totalTcpLength udsLength) s := if_neg h

theorem txBuf_length : (doIPTxHeader sourceAddr udsLength ++ bytesOf udsData udsLength).length =
    12 + udsLength := by
  rw [List.length_append, bytesOf_length]
  rfl

/-- The four length bytes of a word, first byte first. -/
theorem value_word (w : UInt32) :
    value [(w >>> 24).toUInt8, (w >>> 16).toUInt8, (w >>> 8).toUInt8, (w &&& 0xFF).toUInt8] =
      w.toNat := by
  have hw := w.toNat_lt
  have hlow : w.toNat &&& 255 = w.toNat % 256 := Nat.and_two_pow_sub_one_eq_mod w.toNat 8
  simp only [value, List.foldl_cons, List.foldl_nil, UInt32.toNat_toUInt8, UInt32.toNat_shiftRight,
    UInt32.toNat_and, UInt32.reduceToNat, Nat.shiftRight_eq_div_pow, hlow, Nat.reduceMod,
    Nat.reducePow]
  omega

/-- The length field of the header. -/
theorem txBuf_field (h : udsLength < 65536) :
    value (((doIPTxHeader sourceAddr udsLength ++ bytesOf udsData udsLength).drop 4).take 4) =
      4 + udsLength := by
  have hword := value_word (UInt32.ofNat (4 + udsLength))
  rw [UInt32.toNat_ofNat', Nat.mod_eq_of_lt (by omega)] at hword
  exact hword

/-- **Below the wrap** the kept total is the total. -/
theorem total_exact (h : udsLength < 65524) : totalTcpLength udsLength = 12 + udsLength := by
  rw [totalTcpLength, Nat.mod_eq_of_lt (by omega)]
  omega

/-- **In the wrap region** the guard lets the call pass. -/
theorem total_wraps (h : 65524 ≤ udsLength) (hword : udsLength < 65536) :
    totalTcpLength udsLength = udsLength - 65524 := by
  rw [totalTcpLength]
  omega

theorem sound_of_lt (h : udsLength < 65524) : Sound sourceAddr udsData udsLength := by
  have htotal := total_exact h
  by_cases hguard : txBufSize < totalTcpLength udsLength
  · exact .silent (if_pos hguard) (silent_eq sourceAddr udsData hguard)
  · have hlength : (doIPTxHeader sourceAddr udsLength ++ bytesOf udsData udsLength).length =
        12 + udsLength := txBuf_length sourceAddr udsData
    refine .frame _ (if_neg hguard) hlength ?_ (txBuf_field sourceAddr udsData (by omega)) rfl ?_
    · rw [hlength, ← htotal]
      exact Nat.le_of_not_lt hguard
    · intro s
      rw [hlength, ← htotal]
      exact transmit_eq sourceAddr udsData hguard s

/-- The copy there writes behind the end of the buffer. -/
theorem overflows (h : 65524 ≤ udsLength) (hword : udsLength < 65536) :
    ∃ txBuf, filledBuffer sourceAddr udsData udsLength = some txBuf ∧ txBufSize < txBuf.length := by
  have hguard : ¬ txBufSize < totalTcpLength udsLength := by
    rw [total_wraps h hword, txBufSize]
    omega
  refine ⟨_, if_neg hguard, ?_⟩
  rw [txBuf_length, txBufSize]
  omega

theorem not_sound_of_wrap (h : 65524 ≤ udsLength) (hword : udsLength < 65536) :
    ¬ Sound sourceAddr udsData udsLength := by
  obtain ⟨txBuf, hbuffer, hover⟩ := overflows sourceAddr udsData h hword
  intro hsound
  cases hsound with
  | silent hnone _ => exact absurd (hnone.symm.trans hbuffer) (by simp)
  | frame other hother _ hfits =>
      obtain rfl := Option.some.inj (hother.symm.trans hbuffer)
      omega

end Call

/-- **WHEN THE LENGTH ARITHMETIC HOLDS**, for every 16-bit UDS length: exactly below 65524. -/
theorem tx_length (sourceAddr : UInt16) (udsData : Payload) (udsLength : UInt16) :
    Sound sourceAddr udsData udsLength.toNat ↔ udsLength.toNat < 65524 := by
  constructor
  · intro hsound
    by_contra hwrap
    exact not_sound_of_wrap sourceAddr udsData (Nat.le_of_not_lt hwrap) udsLength.toNat_lt hsound
  · exact sound_of_lt sourceAddr udsData

/-- The first eleven bytes of a message from MAIN with 65535 bytes of UDS data. -/
def firstEleven : List UInt8 :=
  [0x02, 0xFD, 0x80, 0x01, 0x00, 0x01, 0x00, 0x03, 0x00, 0x01, 0x0E]

/-- **The failing length.**  With 65535 bytes of UDS data from MAIN the call writes 65547 bytes
    into its buffer, and transmits the first eleven of them. -/
theorem tx_length_fails :
    ¬ (∀ (sourceAddr : UInt16) (udsData : Payload) (udsLength : UInt16),
        Sound sourceAddr udsData udsLength.toNat) ∧
      (filledBuffer 0x0001 (fun _ => 0) 65535).map List.length = some 65547 ∧
      ∀ s : Main, ∀ pcb, s.tcp.activePcb = some pcb → s.env.Takes firstEleven →
        doIPProcessTx 0x0001 (fun _ => 0) 65535 s = s.emit (.tcp pcb firstEleven) := by
  refine ⟨fun h => ?_, ?_, ?_⟩
  · exact not_sound_of_wrap 0x0001 (fun _ => 0) (by decide) (by decide)
      (h 0x0001 (fun _ => 0) 65535)
  · show some (doIPTxHeader _ 65535 ++ bytesOf _ 65535).length = _
    rw [txBuf_length]
  · intro s pcb hpcb htakes
    rw [transmit_eq 0x0001 (fun _ => 0) (by decide)]
    generalize bytesOf (fun _ => 0) 65535 = rest
    show tcpSend _ 11 s = _
    rw [tcpSend_eq _ (by decide)]
    exact write_taken (taker_some.mpr ⟨htakes, hpcb⟩)

end TxLength
