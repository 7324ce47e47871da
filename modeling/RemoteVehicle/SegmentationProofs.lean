import Mathlib.Data.List.GetD
import RemoteVehicle.Framing
import RemoteVehicle.MainFrameProofs

/-!
# DoIP messages and TCP segments

A DoIP message carries its length in its header, so the byte stream of a connection can
be read in one way only.  `tcp_server_recv` does not read a stream: it passes the first
buffer of what lwIP delivers to `DoIP_ProcessRx`, which takes it for one message when its
length field fits and answers with a generic NACK when it does not.

`doipFormat` makes DoIP an instance of `Framing.Format`; `received` and `handled` are the
segments that reach MAIN on one connection in a run, and the messages it acts on.
-/

namespace Segmentation

open Runs Framing ByteWords MainState MainTransmit MainDoip MainTcp MainLoop MainSpec MainFrame

/-! ## The format -/

/-- Eight header bytes, the length of the rest in the last four of them. -/
def doipFormat : Format UInt8 where
  header := 8
  total m := 8 + (packWord (m.getD 7 0) (m.getD 6 0) (m.getD 5 0) (m.getD 4 0)).toNat
  header_pos := by decide
  total_append m r h := by
    have hbyte : ∀ i < 8, (m ++ r).getD i 0 = m.getD i 0 := by
      intro i hi
      exact List.getD_append m r 0 i (by omega)
    rw [hbyte 7 (by decide), hbyte 6 (by decide), hbyte 5 (by decide), hbyte 4 (by decide)]

/-- **The header check of `DoIP_ProcessRx`** accepts the buffers that are one message. -/
theorem headerFits_iff (p : Pbuf) : HeaderFits p.payload p.len ↔ Whole doipFormat p.bytes := by
  have hlt := p.len_lt
  rw [HeaderFits, Whole, Pbuf.bytes_length]
  show 8 ≤ p.len ∧ _ ↔ 8 ≤ p.len ∧ _
  refine and_congr_right fun hlen => ?_
  have hnat : (UInt32.ofNat (p.len - 8)).toNat = p.len - 8 := by
    rw [UInt32.toNat_ofNat']
    omega
  show expectedPayloadLength p.payload = UInt32.ofNat (p.len - 8) ↔
    8 + (expectedPayloadLength (ofList p.bytes)).toNat = p.len
  have hexpected : expectedPayloadLength (ofList p.bytes) = expectedPayloadLength p.payload := by
    simp only [expectedPayloadLength]
    rw [p.ofList_bytes (by omega), p.ofList_bytes (by omega), p.ofList_bytes (by omega),
      p.ofList_bytes (by omega)]
  rw [hexpected, ← UInt32.toNat_inj, hnat]
  omega

/-! ## A connection in a run -/

/-- The segment that a call delivers on the connection. -/
def segmentsOf (tpcb : Pcb) (s : Main) (e : MainEvent) : List (Segment UInt8) :=
  match e.call with
  | .lwip (.tcpRecv pcb p rest) =>
      if pcb = tpcb ∧ pcb ∈ s.tcp.registered then [(p.bytes, rest.flatMap Pbuf.bytes)] else []
  | _ => []

/-- The message that a call hands to the second stage of `DoIP_ProcessRx`. -/
def handledOf (tpcb : Pcb) (s : Main) (e : MainEvent) : List (List UInt8) :=
  match e.call with
  | .lwip (.tcpRecv pcb p _) =>
      if pcb = tpcb ∧ pcb ∈ s.tcp.registered then
        if HeaderFits p.payload p.len then [p.bytes] else []
      else []
  | _ => []

/-- All segments of a run, and all messages. -/
def received (tpcb : Pcb) (s : Main) (es : List MainEvent) : List (Segment UInt8) :=
  trace mainStep (segmentsOf tpcb) s es

def handled (tpcb : Pcb) (s : Main) (es : List MainEvent) : List (List UInt8) :=
  trace mainStep (handledOf tpcb) s es

theorem handledOf_eq (tpcb : Pcb) (s : Main) (e : MainEvent) :
    handledOf tpcb s e = firstBuffers doipFormat (segmentsOf tpcb s e) := by
  obtain ⟨env, call⟩ := e
  rcases call with c | _ | _ | _ | _ | _
  · cases c with
    | tcpRecv pcb p rest =>
        simp only [handledOf, segmentsOf]
        split
        · simp only [headerFits_iff, firstBuffers_cons]
          rfl
        · rfl
    | _ => rfl
  all_goals rfl

/-- MAIN is the receiver that looks at first buffers. -/
theorem handled_eq (tpcb : Pcb) (s : Main) (es : List MainEvent) :
    handled tpcb s es = firstBuffers doipFormat (received tpcb s es) := by
  induction es generalizing s with
  | nil => rfl
  | cons e es ih =>
      have hhead := handledOf_eq tpcb s e
      have htail := ih (mainStep s e)
      simp only [handled, received, trace_cons] at htail ⊢
      rw [hhead, htail, firstBuffers, firstBuffers, firstBuffers, List.map_append,
        List.filter_append]

/-! ## What a segment does -/

/-- One message is handled, anything else of at least eight bytes is refused with a generic
    NACK and a request to close, and less is ignored. -/
def onBuffer (p : Pbuf) (s : Main) : Main :=
  if HeaderFits p.payload p.len then doIPDispatch p.payload p.len s
  else if 8 ≤ p.len then soAdCloseSocket doipPort (doIPSendGenericNack doipPort 0x04 s)
  else s

theorem doIPProcessRx_onBuffer (p : Pbuf) (s : Main) :
    doIPProcessRx p.payload p.len s = onBuffer p s := by
  rw [onBuffer]
  by_cases hfits : HeaderFits p.payload p.len
  · rw [if_pos hfits, doIPProcessRx_fits hfits]
  · rw [if_neg hfits]
    split
    · rename_i hlen
      exact doIPProcessRx_misfit hlen hfits s
    · rename_i hlen
      exact doIPProcessRx_short (Nat.not_le.mp hlen) s

/-! ## The law -/

/-- **Segmentation.**  Take any run in which the segments of a connection carry a stream of
    well-formed messages.  MAIN handles exactly these messages, in order, if and only if
    every segment is empty or is one whole message in its first buffer.  What a segment
    does depends on its first buffer alone, so such a message is answered as if it had come
    alone; every other cut of at least eight bytes is refused. -/
theorem segmentation_iff (s : Main) (es : List MainEvent) (tpcb : Pcb)
    (msgs : List (List UInt8)) (hmsgs : ∀ m ∈ msgs, Whole doipFormat m)
    (hstream : (received tpcb s es).flatMap content = msgs.flatten) :
    (handled tpcb s es = msgs ↔ ∀ seg ∈ received tpcb s es, Aligned doipFormat seg) ∧
      ∀ (t : Main) (env : Env) (p : Pbuf) (rest : List Pbuf), tpcb ∈ t.tcp.registered →
        mainStep t ⟨env, .lwip (.tcpRecv tpcb p rest)⟩ = onBuffer p (Main.enter env t) := by
  constructor
  · rw [handled_eq]
    exact firstBuffers_eq_iff hmsgs hstream
  · intro t env p rest hreg
    show (if tpcb ∈ t.tcp.registered then _ else _) = _
    rw [if_pos hreg]
    exact doIPProcessRx_onBuffer p (Main.enter env t)

/-! ## Cuts that are not one message a buffer -/

/-- Every cut of every stream is read correctly. -/
def SegmentationIndependent : Prop :=
  ∀ (s : Main) (es : List MainEvent) (tpcb : Pcb) (msgs : List (List UInt8)),
    (∀ m ∈ msgs, Whole doipFormat m) →
    (received tpcb s es).flatMap content = msgs.flatten → handled tpcb s es = msgs

/-- A connection is accepted and delivers these segments. -/
def onConnection (segs : List (Pbuf × List Pbuf)) : List MainEvent :=
  ⟨freeEnv 0, .lwip (.tcpAccept 7)⟩ ::
    segs.map fun q => ⟨freeEnv 0, .lwip (.tcpRecv 7 q.1 q.2)⟩

/-- The routing activation request, cut after ten bytes. -/
def activationHead : Pbuf :=
  Pbuf.ofBytes [0x02, 0xFD, 0x00, 0x05, 0, 0, 0, 7, 0x0E, 0x00] (by decide)

def activationTail : Pbuf := Pbuf.ofBytes [0, 0, 0, 0, 0] (by decide)

/-- The activation request and a diagnostic message in one buffer. -/
def bothRequests : Pbuf :=
  Pbuf.ofBytes [0x02, 0xFD, 0x00, 0x05, 0, 0, 0, 7, 0x0E, 0x00, 0, 0, 0, 0, 0,
    0x02, 0xFD, 0x80, 0x01, 0, 0, 0, 6, 0x0E, 0x00, 0x00, 0x01, 0x10, 0x03] (by decide)

/-- **The failing cuts.**  Two segments, two buffers of one segment, and two messages in
    one segment: nothing is handled, and the reply is a generic NACK. -/
theorem segmentation_fails :
    ¬ SegmentationIndependent ∧
    (∀ segs ∈ [[(activationHead, []), (activationTail, [])],
        [(activationHead, [activationTail])]],
      (received 7 mainReset (onConnection segs)).flatMap content = activationRequest.bytes ∧
        handled 7 mainReset (onConnection segs) = []) ∧
    bothRequests.bytes = activationRequest.bytes ++ sessionRequest.bytes ∧
    handled 7 mainReset (onConnection [(bothRequests, [])]) = [] ∧
    (mainRun (onConnection [(bothRequests, [])])).out =
      [.tcp 7 [0x02, 0xFD, 0x00, 0x00, 0, 0, 0, 1, 0x04]] := by
  have hsplit : (received 7 mainReset
      (onConnection [(activationHead, []), (activationTail, [])])).flatMap content =
        [activationRequest.bytes].flatten ∧
      handled 7 mainReset (onConnection [(activationHead, []), (activationTail, [])]) = [] := by
    decide +kernel
  refine ⟨?_, by decide +kernel, by decide +kernel, by decide +kernel, by decide +kernel⟩
  intro h
  have hread := h mainReset _ 7 [activationRequest.bytes] (by decide +kernel) hsplit.1
  rw [hsplit.2] at hread
  cases hread

/-- One message a segment. -/
theorem segmentation_iff_aligned :
    handled 7 mainReset (onConnection [(activationRequest, []), (sessionRequest, [])]) =
      [activationRequest.bytes, sessionRequest.bytes] := by
  have hiff := segmentation_iff mainReset
    (onConnection [(activationRequest, []), (sessionRequest, [])]) 7
    [activationRequest.bytes, sessionRequest.bytes] (by decide +kernel) (by decide +kernel)
  refine hiff.1.mpr ?_
  have hcut : received 7 mainReset
      (onConnection [(activationRequest, []), (sessionRequest, [])]) =
        [(activationRequest.bytes, []), (sessionRequest.bytes, [])] := by
    decide +kernel
  rw [hcut]
  intro seg hseg
  rcases List.mem_pair.mp hseg with rfl | rfl
  · exact Or.inr ⟨by decide +kernel, rfl⟩
  · exact Or.inr ⟨by decide +kernel, rfl⟩

end Segmentation
