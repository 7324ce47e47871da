import RemoteVehicle.MainReads

/-!
# Receive parsers and the end of the buffer

Every parser of MAIN gets a pointer and a length.  Most of them look at the length first;
four do not look far enough.  `LongEnough` is the condition on length and content under
which a parser stays inside its buffer, and `reads_in_bounds_iff` shows that it is exact,
for every content, every length and every state.

`process_congr` is what this buys: a parser with a buffer that is long enough does the same
whatever lies behind the buffer.
-/

namespace ReadBounds

open ReadLog ReadLog.Reader MainState MainTransmit MainDcm MainCom MainRouting MainDoip MainTcp
open MainLoop MainSpec MainReads

/-! ## The parsers -/

/-- The parsers behind the UDP, TCP and CAN drivers. -/
inductive Parser where
  | udpCtr
  | someIp
  | canStat
  | canBody
  | doIP
  | canTp (canId : Nat)
  | uds
deriving DecidableEq, Repr

/-- The functions of the model. -/
def Parser.process : Parser → Handler
  | .udpCtr => udpCtrProcessRx
  | .someIp => someIpProcessRx
  | .canStat => canStatProcessRx
  | .canBody => canBodyProcessRx
  | .doIP => doIPProcessRx
  | .canTp canId => canTpRxIndication canId
  | .uds => udsProcessRx

/-- The same functions as readers. -/
def Parser.reader (payload : Payload) : Parser → Parse
  | .udpCtr => udpCtrReads
  | .someIp => someIpReads
  | .canStat => canStatReads
  | .canBody => canBodyReads
  | .doIP => fun length => doIPReads (requestOf payload length) length
  | .canTp canId => canTpReads canId
  | .uds => fun length => udsReads (bytesOf payload length) length

/-- Request 0x19 0x02 without its mask. -/
def LacksMask (reqData : Payload) (reqLength : Nat) : Prop :=
  reqLength = 2 ∧ reqData 0 = 0x19 ∧ reqData 1 = 0x02

instance (reqData : Payload) (reqLength : Nat) : Decidable (LacksMask reqData reqLength) := by
  unfold LacksMask; infer_instance

/-- What a parser needs to stay inside its buffer. -/
def Parser.LongEnough (payload : Payload) (length : Nat) : Parser → Prop
  | .udpCtr => 9 ≤ length
  | .someIp => True
  | .canStat => 5 ≤ length
  | .canBody => 1 ≤ length
  | .doIP => IsDiagnostic payload length → targetAddr payload = 0x0001 →
      ¬ LacksMask (offset payload 12) (length - 12)
  | .canTp _ => True
  | .uds => ¬ LacksMask payload length

/-- **The readers are the parsers.** -/
theorem reader_eval (parser : Parser) (payload : Payload) (length : Nat) (s : Main) :
    eval payload (parser.reader payload length s) = parser.process payload length s := by
  cases parser with
  | udpCtr => rfl
  | someIp => exact someIpReads_eval payload length s
  | canStat => rfl
  | canBody => rfl
  | doIP => exact doIPReads_eval payload length s
  | canTp canId => exact canTpReads_eval payload length s canId
  | uds => exact udsReads_eval payload length s

/-! ## One parser after the other -/

section Bounds

variable {payload : Payload} {length : Nat} {s : Main}

theorem udpCtr_inBounds : InBounds payload length (udpCtrReads length s) ↔ 9 ≤ length := by
  simp only [udpCtrReads, inBounds_cell_bind, inBounds_pure, and_true]
  omega

theorem canStat_inBounds : InBounds payload length (canStatReads length s) ↔ 5 ≤ length := by
  simp only [canStatReads, inBounds_cell_bind, inBounds_pure, and_true]
  omega

theorem canBody_inBounds : InBounds payload length (canBodyReads length s) ↔ 1 ≤ length := by
  simp only [canBodyReads, inBounds_cell_bind, inBounds_pure, and_true]
  omega

/-- The request identifier is copied. -/
theorem someIpSendResponse_inBounds {buzzerState : UInt8} (hlen : 12 ≤ length) :
    InBounds payload length (someIpSendResponseReads buzzerState s) := by
  have hcopy : InBounds payload length (shift 8 (block 4)) :=
    (inBounds_shift (by omega)).mpr (inBounds_block.mpr (by omega))
  exact inBounds_bind.mpr ⟨hcopy, inBounds_pure _⟩

theorem someIp_inBounds : InBounds payload length (someIpReads length s) := by
  simp only [someIpReads, inBounds_ite, inBounds_cell_bind, inBounds_pure, implies_true, true_and]
  intro hlen
  have hresponse : ∀ b s, InBounds payload length (someIpSendResponseReads b s) :=
    fun b s => someIpSendResponse_inBounds (by omega)
  refine ⟨by omega, by omega, by omega, by omega, ?_⟩
  intro _ _
  exact ⟨by omega, by omega, hresponse _ _⟩

/-- The services of `Uds_ProcessRx` check the length first, but 0x19 allows two lengths. -/
theorem udsSessionControl_inBounds (sid : UInt8) :
    InBounds payload length (udsSessionControlReads sid length s) := by
  simp only [udsSessionControlReads, inBounds_ite, inBounds_cell_bind, inBounds_pure, implies_true,
    true_and, and_true]
  omega

theorem udsReadData_inBounds (sid : UInt8) :
    InBounds payload length (udsReadDataReads sid length s) := by
  simp only [udsReadDataReads, inBounds_ite, inBounds_cell_bind, inBounds_pure, implies_true,
    true_and]
  intro hlen
  refine ⟨by omega, by omega, ?_⟩
  split <;> exact inBounds_pure _

theorem udsReadDtc_inBounds (sid : UInt8) :
    InBounds payload length (udsReadDtcReads sid length s) ↔
      ¬ (length = 2 ∧ payload 1 = 0x02) := by
  have hne : (0x02 : UInt8) ≠ 0x0A := by decide
  simp only [udsReadDtcReads, inBounds_ite, inBounds_cell_bind, inBounds_pure, implies_true,
    true_and, and_true]
  constructor
  · rintro h ⟨rfl, hsub⟩
    have hmask := (h (by decide)).2 (hsub ▸ hne) hsub
    omega
  · intro h hlen
    refine ⟨by omega, fun _ hsub => ?_⟩
    have htwo : length ≠ 2 := fun h2 => h ⟨h2, hsub⟩
    omega

theorem udsClearDtc_inBounds (sid : UInt8) :
    InBounds payload length (udsClearDtcReads sid length s) := by
  simp only [udsClearDtcReads, inBounds_ite, inBounds_cell_bind, inBounds_pure, implies_true,
    true_and, and_true]
  omega

/-- **`Uds_ProcessRx`** leaves its buffer for one request only. -/
theorem uds_inBounds (request : List UInt8) :
    InBounds payload length (udsReads request length s) ↔ ¬ LacksMask payload length := by
  have hsession : (0x19 : UInt8) ≠ 0x10 := by decide
  have hdata : (0x19 : UInt8) ≠ 0x22 := by decide
  simp only [udsReads, inBounds_ite, inBounds_cell_bind, inBounds_pure, implies_true, true_and,
    udsSessionControl_inBounds, udsReadData_inBounds, udsReadDtc_inBounds,
    udsClearDtc_inBounds, and_true, LacksMask]
  constructor
  · rintro h ⟨rfl, hsid, hsub⟩
    exact (h (by decide)).2 (hsid ▸ hsession) (hsid ▸ hdata) hsid ⟨rfl, hsub⟩
  · intro h hlen
    refine ⟨by omega, fun _ _ hsid => ?_⟩
    rintro ⟨htwo, hsub⟩
    exact h ⟨htwo, hsid, hsub⟩

theorem canTpTransmit_inBounds (canId : Nat) :
    InBounds payload length (canTpTransmitReads canId length s) := by
  simp only [canTpTransmitReads, inBounds_ite, inBounds_bind, inBounds_block, inBounds_pure,
    implies_true, le_refl, and_self]

theorem doIPProcessTx_inBounds (sourceAddr : UInt16) :
    InBounds payload length (doIPProcessTxReads sourceAddr length s) := by
  simp only [doIPProcessTxReads, inBounds_ite, inBounds_bind, inBounds_block, inBounds_pure,
    implies_true, le_refl, and_self]

/-- A response is copied up to the length in its PCI byte, which is checked. -/
theorem canTp_inBounds (canId : Nat) :
    InBounds payload length (canTpReads canId length s) := by
  -- what is copied is no longer than the rest of the frame
  have hcopy : ∀ {k : Nat} (sourceAddr : UInt16) (s : Main), 1 ≤ length → ¬ length - 1 < k →
      InBounds payload length (shift 1 (doIPProcessTxReads sourceAddr k s)) := by
    intro k sourceAddr s hlen hk
    exact (inBounds_shift hlen).mpr ((doIPProcessTx_inBounds sourceAddr).mono (by omega))
  simp only [canTpReads, inBounds_ite, inBounds_cell_bind, inBounds_pure, implies_true, true_and,
    and_true]
  intro hlen
  refine ⟨by omega, ?_⟩
  intro _ hk
  exact ⟨fun _ => hcopy _ _ (by omega) hk, fun _ _ => hcopy _ _ (by omega) hk⟩

theorem routingActivation_inBounds (port : Nat) :
    InBounds payload length (doIPProcessRoutingActivationReads port length s) := by
  simp only [doIPProcessRoutingActivationReads, inBounds_ite, inBounds_cell_bind, inBounds_pure,
    implies_true, true_and, and_true]
  omega

/-- The request inside a diagnostic message has the bounds of the service. -/
theorem routeDiagnostic_inBounds (request : List UInt8) (targetAddr : UInt16) :
    InBounds payload length (routeDiagnosticReads request targetAddr length s) ↔
      (targetAddr = 0x0001 → ¬ LacksMask payload length) := by
  simp only [routeDiagnosticReads, inBounds_ite, inBounds_pure, uds_inBounds,
    canTpTransmit_inBounds, implies_true, and_true]

theorem doIPProcessDiagnostic_inBounds (request : List UInt8) (port : Nat) :
    InBounds payload length (doIPProcessDiagnosticReads request port length s) ↔
      (12 ≤ length → sourceAddr payload = testerSourceAddress →
        doIPIsKnownTA (targetAddr payload) = true → targetAddr payload = 0x0001 →
        ¬ LacksMask (offset payload 12) (length - 12)) := by
  by_cases hlen : length < 12
  · rw [doIPProcessDiagnosticReads, if_pos hlen]
    exact iff_of_true (inBounds_pure s) fun h => absurd h (by omega)
  · have hlen : 12 ≤ length := Nat.not_lt.mp hlen
    have hroute : ∀ (ta : UInt16) (s : Main),
        InBounds payload length (shift 12 (routeDiagnosticReads request ta (length - 12) s)) ↔
          (ta = 0x0001 → ¬ LacksMask (offset payload 12) (length - 12)) :=
      fun ta s => (inBounds_shift hlen).trans (routeDiagnostic_inBounds request ta)
    have hreg : ∀ sa, ¬ doIPIsRegisteredSA port sa = false ↔ sa = testerSourceAddress := by
      intro sa
      simp [doIPIsRegisteredSA]
    simp only [doIPProcessDiagnosticReads, inBounds_ite, inBounds_cell_bind, inBounds_pure,
      implies_true, true_and, hroute, hreg, Bool.not_eq_false]
    constructor
    · intro h _ hsa hta
      exact (h (by omega)).2.2.2.2 hsa hta
    · intro h _
      exact ⟨by omega, by omega, by omega, by omega, fun hsa hta => h hlen hsa hta⟩

/-- **`DoIP_ProcessRx`** with everything behind it. -/
theorem doIP_inBounds (request : List UInt8) :
    InBounds payload length (doIPReads request length s) ↔
      (IsDiagnostic payload length → targetAddr payload = 0x0001 →
        ¬ LacksMask (offset payload 12) (length - 12)) := by
  simp only [doIPReads, inBounds_ite, inBounds_cell_bind, inBounds_pure, implies_true, true_and,
    and_true, routingActivation_inBounds, doIPProcessDiagnostic_inBounds]
  constructor
  · rintro h ⟨⟨hlen, hfits⟩, htype, hlen', hsa, hta⟩
    exact (h (by omega)).2.2.2.2.2.2 (not_not.mpr hfits) htype hlen' hsa hta
  · intro h hlen
    refine ⟨by omega, by omega, by omega, by omega, by omega, by omega, ?_⟩
    intro hfits htype hlen' hsa hta
    exact h ⟨⟨by omega, not_not.mp hfits⟩, htype, hlen', hsa, hta⟩

end Bounds

/-! ## All of them -/

theorem reader_inBounds (parser : Parser) (payload : Payload) (length : Nat) (s : Main) :
    InBounds payload length (parser.reader payload length s) ↔
      parser.LongEnough payload length := by
  cases parser with
  | udpCtr => exact udpCtr_inBounds
  | someIp => exact iff_of_true someIp_inBounds trivial
  | canStat => exact canStat_inBounds
  | canBody => exact canBody_inBounds
  | doIP => exact doIP_inBounds (requestOf payload length)
  | canTp canId => exact iff_of_true (canTp_inBounds canId) trivial
  | uds => exact uds_inBounds (bytesOf payload length)

/-- Two memories that agree below the length hold the same bytes. -/
theorem bytesOf_congr {payload payload' : Payload} {length : Nat}
    (h : ∀ i < length, payload i = payload' i) : bytesOf payload length = bytesOf payload' length :=
  List.map_congr_left fun i hi => h i (List.mem_range.mp hi)

theorem requestOf_congr {payload payload' : Payload} {length : Nat}
    (h : ∀ i < length, payload i = payload' i) :
    requestOf payload length = requestOf payload' length :=
  bytesOf_congr fun i hi => h (12 + i) (by omega)

/-- **What lies behind a buffer that is long enough does not matter.** -/
theorem process_congr {parser : Parser} {payload payload' : Payload} {length : Nat}
    (hlong : parser.LongEnough payload length) (h : ∀ i < length, payload i = payload' i)
    (s : Main) : parser.process payload length s = parser.process payload' length s := by
  have hsame : parser.reader payload' length s = parser.reader payload length s := by
    cases parser with
    | doIP => exact congrArg (fun r => doIPReads r length s) (requestOf_congr h).symm
    | uds => exact congrArg (fun r => udsReads r length s) (bytesOf_congr h).symm
    | _ => rfl
  rw [← reader_eval parser payload length s, ← reader_eval parser payload' length s, hsame]
  exact ((reader_inBounds parser payload length s).mpr hlong).eval_eq h

/-- **Reads in bounds.**  For every content, every length and every state, a receive parser
    reads below the length it was given if and only if the buffer is long enough; then it does the
    same whatever lies behind the buffer. -/
theorem reads_in_bounds_iff (parser : Parser) (payload : Payload) (length : Nat) (s : Main) :
    eval payload (parser.reader payload length s) = parser.process payload length s ∧
    (InBounds payload length (parser.reader payload length s) ↔
      parser.LongEnough payload length) ∧
    (parser.LongEnough payload length →
      ∀ payload' : Payload, (∀ i < length, payload i = payload' i) →
        parser.process payload length s = parser.process payload' length s) :=
  ⟨reader_eval parser payload length s, reader_inBounds parser payload length s,
    fun hlong _ h => process_congr hlong h s⟩

/-! ## What is delivered -/

/-- The buffers that the drivers hand to the parsers. -/
inductive Delivers : MainCall → Parser → Payload → Nat → Prop where
  | control (p : Pbuf) (addr : IpAddr) (port : Nat) :
      Delivers (.lwip (.udpRecv 5000 p addr port)) .udpCtr p.payload p.len
  | someIp (p : Pbuf) (addr : IpAddr) (port : Nat) :
      Delivers (.lwip (.udpRecv 30492 p addr port)) .someIp p.payload p.len
  | datagram (p : Pbuf) (addr : IpAddr) (port : Nat) :
      Delivers (.lwip (.udpRecv 13400 p addr port)) .doIP p.payload p.len
  | segment (tpcb : Pcb) (p : Pbuf) (rest : List Pbuf) :
      Delivers (.lwip (.tcpRecv tpcb p rest)) .doIP p.payload p.len
  | stat (dlc : Nat) (data : Payload) :
      Delivers (.canRead ⟨0x200, dlc, data⟩) .canStat data (canGetLength dlc)
  | body (dlc : Nat) (data : Payload) :
      Delivers (.canRead ⟨0x310, dlc, data⟩) .canBody data (canGetLength dlc)
  | actUds (dlc : Nat) (data : Payload) :
      Delivers (.canRead ⟨0x708, dlc, data⟩) (.canTp 0x708) data (canGetLength dlc)
  | bodyUds (dlc : Nat) (data : Payload) :
      Delivers (.canRead ⟨0x718, dlc, data⟩) (.canTp 0x718) data (canGetLength dlc)

/-- A control packet without its last byte. -/
def shortControl : Pbuf := Pbuf.ofBytes [0, 1, 0, 1, 3, 0, 0, 1] (by decide)

/-- A diagnostic message to MAIN with the request 19 02 and no mask. -/
def maskless : Pbuf :=
  Pbuf.ofBytes [0x02, 0xFD, 0x80, 0x01, 0, 0, 0, 6, 0x0E, 0x00, 0x00, 0x01, 0x19, 0x02]
    (by decide)

/-- **Four parsers leave their buffer**: a control packet of eight bytes, a 0x200 frame of
    four, an empty 0x310 frame, and a request whose mask is missing. -/
theorem reads_out_of_bounds :
    (Delivers (.lwip (control shortControl)) .udpCtr shortControl.payload 8 ∧
      ¬ InBounds shortControl.payload 8 (Parser.udpCtr.reader shortControl.payload 8 mainReset)) ∧
    (Delivers (.canRead ⟨0x200, 4, ofList []⟩) .canStat (ofList []) 4 ∧
      ¬ InBounds (ofList []) 4 (Parser.canStat.reader (ofList []) 4 mainReset)) ∧
    (Delivers (.canRead ⟨0x310, 0, ofList []⟩) .canBody (ofList []) 0 ∧
      ¬ InBounds (ofList []) 0 (Parser.canBody.reader (ofList []) 0 mainReset)) ∧
    (Delivers (.lwip (.tcpRecv 1 maskless [])) .doIP maskless.payload 14 ∧
      ¬ InBounds maskless.payload 14 (Parser.doIP.reader maskless.payload 14 mainReset)) := by
  refine ⟨⟨.control _ _ _, ?_⟩, ⟨.stat _ _, ?_⟩, ⟨.body _ _, ?_⟩, .segment _ _ _, ?_⟩
  · intro h
    exact absurd (h 8 (by decide +kernel)) (by decide)
  · intro h
    exact absurd (h 4 (by decide +kernel)) (by decide)
  · intro h
    exact absurd (h 0 (by decide +kernel)) (by decide)
  · intro h
    exact absurd (h 14 (by decide +kernel)) (by decide)

end ReadBounds
