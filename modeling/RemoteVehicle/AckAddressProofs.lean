import RemoteVehicle.MediaTcp

/-!
# To whom MEDIA addresses its acknowledgements

The two builders take the source address of the acknowledgement first, and that is the target
address of the message that it answers.  Two of the four branches that send one pass the
addresses in this order.  The other two, for a session without routing activation and for a
message from another source address, pass them as they stand in the message, so the refusal
comes from the tester and goes to the gateway.

`acknowledged_active` and `acknowledged_refused` say which sessions take which branch.
-/

namespace AckAddress

open BigEndian MediaDoip MediaTcp

/-! ## Frames between two addresses -/

/-- A frame of this type whose payload begins with a source and a target address. -/
def Between (ptype source target : UInt16) (frame : List UInt8) : Prop :=
  ∃ more, frame = buildFrame ptype (digits 2 source.toNat ++ digits 2 target.toNat ++ more)

section Frames

variable {ptype ptype' source source' target target' : UInt16} {frame : List UInt8}

theorem digits_inj (h : digits 2 source.toNat = digits 2 source'.toNat) : source = source' := by
  have hvalue := congrArg value h
  rwa [value_digits source.toNat_lt, value_digits source'.toNat_lt, UInt16.toNat_inj] at hvalue

/-- The type and the addresses can be read off a frame. -/
theorem between_unique (h : Between ptype source target frame)
    (h' : Between ptype' source' target' frame) :
    ptype = ptype' ∧ source = source' ∧ target = target' := by
  obtain ⟨more, rfl⟩ := h
  obtain ⟨more', hframe⟩ := h'
  obtain ⟨htype, hpayload⟩ := buildFrame_inj hframe
  have haddresses := (List.append_inj hpayload (by simp)).1
  obtain ⟨hsource, htarget⟩ := List.append_inj haddresses (by simp)
  exact ⟨htype, digits_inj hsource, digits_inj htarget⟩

theorem between_negativeAck (source target : UInt16) (nackCode : UInt8) (prevMsg : List UInt8) :
    Between PayloadType.diagnosticMessageNegativeAck source target
      (buildDiagnosticNegativeAck source target nackCode prevMsg) :=
  ⟨[nackCode] ++ prevMsg, congrArg (buildFrame _) (List.append_assoc ..)⟩

theorem between_positiveAck (source target : UInt16) (ackCode : UInt8) (prevMsg : List UInt8) :
    Between PayloadType.diagnosticMessagePositiveAck source target
      (buildDiagnosticPositiveAck source target ackCode prevMsg) :=
  ⟨[ackCode] ++ prevMsg, congrArg (buildFrame _) (List.append_assoc ..)⟩

end Frames

/-! ## What is sent -/

/-- One acknowledgement from `ta` to `sa`, and behind a positive one the response. -/
inductive Acknowledged (sa ta : UInt16) : List (List UInt8) → Prop where
  | positive (ack resp : List UInt8)
      (hack : Between PayloadType.diagnosticMessagePositiveAck ta sa ack)
      (hresp : Between PayloadType.diagnosticMessage ta sa resp) : Acknowledged sa ta [ack, resp]
  | negative (ack : List UInt8)
      (hack : Between PayloadType.diagnosticMessageNegativeAck ta sa ack) : Acknowledged sa ta [ack]

/-- The session is active for this source address. -/
def ActiveFor (sa : UInt16) (self : Session) : Prop :=
  self.activated = true ∧ self.clientSa = some sa

section Dispatch

variable {env : Nat → Interference} {hdr : DoIPHeader} {payload : List UInt8} {c : Connection}

/-- A refusal with the addresses in their order in the message is right only where they are the
    same. -/
theorem acknowledged_swapped {sa ta : UInt16} (nackCode : UInt8) :
    Acknowledged sa ta [buildDiagnosticNegativeAck sa ta nackCode (payload.take 5)] ↔ sa = ta := by
  have hswapped := between_negativeAck sa ta nackCode (payload.take 5)
  constructor
  · intro h
    cases h with
    | negative _ hack => exact (between_unique hswapped hack).2.1
  · rintro rfl
    exact .negative _ hswapped

/-- **Before routing activation** the addresses are swapped. -/
theorem sent_inactive (htype : hdr.payloadType = PayloadType.diagnosticMessage)
    (hlen : 4 ≤ payload.length) (hactive : c.session.activated = false) :
    (dispatch env hdr payload c).1 = [buildDiagnosticNegativeAck (addressAt payload 0)
      (addressAt payload 2) DiagnosticNackCode.outOfMemory (payload.take 5)] := by
  simp only [dispatch, htype]
  rw [if_neg (by decide), if_neg (by decide), if_pos trivial, if_pos hactive, refuseDiagnostic,
    if_pos hlen]

/-- In an active session `_handle_diagnostic` decides; here it refuses. -/
theorem sent_error (htype : hdr.payloadType = PayloadType.diagnosticMessage)
    (hactive : c.session.activated = true) {frame : List UInt8}
    (hhandle : handleDiagnostic payload c.session = .error frame) :
    (dispatch env hdr payload c).1 = [frame] := by
  simp only [dispatch, htype, hactive, hhandle]
  rw [if_neg (by decide), if_neg (by decide), if_pos trivial, if_neg (by decide)]

/-- And here it acknowledges, and the response follows. -/
theorem sent_ok (htype : hdr.payloadType = PayloadType.diagnosticMessage)
    (hactive : c.session.activated = true) {ack : List UInt8} {msg : DiagnosticMessage}
    (hhandle : handleDiagnostic payload c.session = .ok (ack, msg)) :
    ∃ resp, (dispatch env hdr payload c).1 = [ack, resp] ∧
      Between PayloadType.diagnosticMessage msg.targetAddress msg.sourceAddress resp := by
  simp only [dispatch, htype, hactive, hhandle]
  rw [if_neg (by decide), if_neg (by decide), if_pos trivial, if_neg (by decide)]
  exact ⟨_, rfl, _, rfl⟩

theorem parse_long (hlen : 4 ≤ payload.length) : parseDiagnosticMessage payload =
    some ⟨addressAt payload 0, addressAt payload 2, payload.drop 4⟩ := if_neg (by omega)

/-- **For another source address** they are swapped as well. -/
theorem sent_otherSource (htype : hdr.payloadType = PayloadType.diagnosticMessage)
    (hlen : 4 ≤ payload.length) (hactive : c.session.activated = true)
    (hsource : some (addressAt payload 0) ≠ c.session.clientSa) :
    (dispatch env hdr payload c).1 = [buildDiagnosticNegativeAck (addressAt payload 0)
      (addressAt payload 2) DiagnosticNackCode.invalidSa (payload.take 5)] := by
  have hhandle : handleDiagnostic payload c.session = .error (buildDiagnosticNegativeAck
      (addressAt payload 0) (addressAt payload 2) DiagnosticNackCode.invalidSa
        (payload.take 5)) := by
    simp only [handleDiagnostic, parse_long hlen]
    exact if_pos hsource
  exact sent_error htype hactive hhandle

/-- **For the source address of the session** they are in order. -/
theorem acknowledged_active (htype : hdr.payloadType = PayloadType.diagnosticMessage)
    (hlen : 4 ≤ payload.length) (hactive : c.session.activated = true)
    (hsource : some (addressAt payload 0) = c.session.clientSa) :
    Acknowledged (addressAt payload 0) (addressAt payload 2) (dispatch env hdr payload c).1 := by
  by_cases htarget : addressAt payload 2 ≠ LogicalAddress.gatewayRPi2
  · have hhandle : handleDiagnostic payload c.session = .error (buildDiagnosticNegativeAck
        (addressAt payload 2) (addressAt payload 0) DiagnosticNackCode.unknownTa
          (payload.take 5)) := by
      simp only [handleDiagnostic, parse_long hlen]
      exact (if_neg (not_not.mpr hsource)).trans (if_pos htarget)
    rw [sent_error htype hactive hhandle]
    exact .negative _ (between_negativeAck ..)
  · have hhandle : handleDiagnostic payload c.session = .ok (buildDiagnosticPositiveAck
        (addressAt payload 2) (addressAt payload 0) 0x00 (payload.take 5),
          ⟨addressAt payload 0, addressAt payload 2, payload.drop 4⟩) := by
      simp only [handleDiagnostic, parse_long hlen]
      exact (if_neg (not_not.mpr hsource)).trans (if_neg htarget)
    obtain ⟨resp, hsent, hresp⟩ := sent_ok htype hactive hhandle
    rw [hsent]
    exact .positive _ resp (between_positiveAck ..) hresp

/-- The two refusals of a session that is not active for the source address. -/
theorem acknowledged_refused (htype : hdr.payloadType = PayloadType.diagnosticMessage)
    (hlen : 4 ≤ payload.length) (h : ¬ ActiveFor (addressAt payload 0) c.session) :
    Acknowledged (addressAt payload 0) (addressAt payload 2) (dispatch env hdr payload c).1 ↔
      addressAt payload 0 = addressAt payload 2 := by
  by_cases hactive : c.session.activated = false
  · rw [sent_inactive htype hlen hactive]
    exact acknowledged_swapped DiagnosticNackCode.outOfMemory
  · have hactive : c.session.activated = true := Bool.eq_true_of_not_eq_false hactive
    have hsource : some (addressAt payload 0) ≠ c.session.clientSa :=
      fun hsame => h ⟨hactive, hsame.symm⟩
    rw [sent_otherSource htype hlen hactive hsource]
    exact acknowledged_swapped DiagnosticNackCode.invalidSa

end Dispatch

/-! ## The law -/

/-- **WHEN AN ACKNOWLEDGEMENT GOES TO THE SENDER.**  For every session and every diagnostic
    message with both addresses: exactly where the session is active for the source address, or
    where the two addresses are the same. -/
theorem ack_addressed_iff (env : Nat → Interference) (hdr : DoIPHeader) (payload : List UInt8)
    (c : Connection) (htype : hdr.payloadType = PayloadType.diagnosticMessage)
    (hlen : 4 ≤ payload.length) :
    Acknowledged (addressAt payload 0) (addressAt payload 2) (dispatch env hdr payload c).1 ↔
      ActiveFor (addressAt payload 0) c.session ∨ addressAt payload 0 = addressAt payload 2 := by
  by_cases h : ActiveFor (addressAt payload 0) c.session
  · exact iff_of_true (acknowledged_active htype hlen h.1 h.2.symm) (.inl h)
  · rw [acknowledged_refused htype hlen h]
    exact (or_iff_right h).symm

/-- A diagnostic message from the tester to MEDIA: TesterPresent. -/
def testerPresent : List UInt8 := [0x0E, 0x00, 0x00, 0x30, 0x3E, 0x00]

/-- The header of a diagnostic message. -/
def diagnosticHeader (payload : List UInt8) : DoIPHeader :=
  ⟨doipProtocolVersion, PayloadType.diagnosticMessage, UInt32.ofNat payload.length⟩

/-- A new connection to the gateway, and nothing that happens beside it. -/
def newConnection : Connection :=
  ⟨.initial, ⟨[], [], ⟨true, true, true, true, true, true, 0⟩⟩, 0⟩

def alone : Nat → Interference := fun _ => ⟨id, id⟩

/-- Every diagnostic message with both addresses is acknowledged to its sender. -/
def AcknowledgesSender : Prop :=
  ∀ (env : Nat → Interference) (hdr : DoIPHeader) (payload : List UInt8) (c : Connection),
    hdr.payloadType = PayloadType.diagnosticMessage → 4 ≤ payload.length →
      Acknowledged (addressAt payload 0) (addressAt payload 2) (dispatch env hdr payload c).1

/-- **The failing message.**  A new session refuses it with an acknowledgement from 0x0E00 to
    0x0030, as if the tester had sent it. -/
theorem acknowledges_sender_fails :
    ¬ AcknowledgesSender ∧
      (dispatch alone (diagnosticHeader testerPresent) testerPresent newConnection).1 =
        [[0x02, 0xFD, 0x80, 0x03, 0, 0, 0, 10, 0x0E, 0x00, 0x00, 0x30, 0x05,
          0x0E, 0x00, 0x00, 0x30, 0x3E]] := by
  have hsent : (dispatch alone (diagnosticHeader testerPresent) testerPresent newConnection).1 =
      [buildDiagnosticNegativeAck 0x0E00 0x0030 DiagnosticNackCode.outOfMemory
        (testerPresent.take 5)] := sent_inactive rfl (by decide) rfl
  refine ⟨fun h => ?_, hsent.trans (by decide)⟩
  have hack := h alone (diagnosticHeader testerPresent) testerPresent newConnection rfl (by decide)
  rw [hsent] at hack
  have hsame := (acknowledged_swapped DiagnosticNackCode.outOfMemory).mp hack
  exact absurd hsame (by decide)

/-- The same message in a session that is active for the tester. -/
theorem ack_addressed_tester :
    Acknowledged 0x0E00 0x0030 (dispatch alone (diagnosticHeader testerPresent) testerPresent
      { newConnection with session := ⟨true, some 0x0E00⟩ }).1 :=
  (ack_addressed_iff alone (diagnosticHeader testerPresent) testerPresent
    { newConnection with session := ⟨true, some 0x0E00⟩ } rfl (by decide)).mpr (.inl ⟨rfl, rfl⟩)

end AckAddress
