import RemoteVehicle.HeaderCodecProofs
import RemoteVehicle.MediaUdp

/-!
# Vehicle discovery

Who answers a discovery request, and what can be read out of the answer.  `received_cases` is
the whole handler: an announcement for a request that means this vehicle, silence for one that
means another, and some other frame for everything else.
-/

namespace Discovery

open BigEndian HeaderCodec MediaDoip MediaUdp

/-! ## Identifiers -/

section Ascii

theorem char_ofNat_toNat {n : Nat} (h : n < 128) : (Char.ofNat n).toNat = n := by
  interval_cases n <;> rfl

theorem ascii_eq_iff (b : UInt8) {c : Char} (hc : c.toNat < 128) :
    (if b.toNat < 128 then Char.ofNat b.toNat else '\uFFFD') = c ↔ b = UInt8.ofNat c.toNat := by
  have hcode : (UInt8.ofNat c.toNat).toNat = c.toNat := by
    rw [UInt8.toNat_ofNat']
    omega
  by_cases hb : b.toNat < 128
  · rw [if_pos hb, ← UInt8.toNat_inj, hcode]
    constructor
    · rintro rfl
      exact (char_ofNat_toNat hb).symm
    · intro heq
      rw [heq, Char.ofNat_toNat]
  · rw [if_neg hb]
    refine iff_of_false ?_ ?_
    · rintro rfl
      exact absurd hc (by decide)
    · rintro rfl
      rw [hcode] at hb
      exact hb hc

/-- **The VIN filter compares bytes**, although it compares texts. -/
theorem decodeAscii_eq_iff {bytes : List UInt8} {text : List Char}
    (h : ∀ c ∈ text, c.toNat < 128) : decodeAscii bytes = text ↔ bytes = encodeAscii text := by
  induction bytes generalizing text with
  | nil =>
      cases text with
      | nil => exact iff_of_true rfl rfl
      | cons c text =>
          refine iff_of_false ?_ ?_ <;>
            · intro hcontra
              cases hcontra
  | cons b bytes ih =>
      cases text with
      | nil =>
          refine iff_of_false ?_ ?_ <;>
            · intro hcontra
              cases hcontra
      | cons c text =>
          have hrest := ih fun d hd => h d (List.mem_cons_of_mem c hd)
          rw [decodeAscii, encodeAscii, List.map_cons, List.map_cons, List.cons_eq_cons,
            List.cons_eq_cons, ascii_eq_iff b (h c List.mem_cons_self)]
          exact and_congr_right fun _ => hrest

@[simp] theorem encodeAscii_length (text : List Char) :
    (encodeAscii text).length = text.length := List.length_map _

end Ascii

/-! ## What a vehicle sends -/

section Sent

variable {bytes : List UInt8}

/-- The frames that a handler sends, in answer to a datagram or on its own. -/
inductive Sent : List UInt8 → Prop where
  | nack (code : UInt8) : Sent (buildGenericNack code)
  | announcement (cfg : Identity) : Sent (buildVehicleAnnouncement cfg)
  | entityStatus (sockets : UInt8) : Sent (handleEntityStatus sockets)
  | powerMode : Sent handlePowerMode

/-- The payload types that a handler sends. -/
def sentTypes : List UInt16 :=
  [MediaDoip.PayloadType.genericNack, PayloadType.vehicleAnnouncement,
    MediaDoip.PayloadType.entityStatusResponse, PayloadType.powerModeInfoResponse]

theorem announcementPayload_length (cfg : Identity) : (announcementPayload cfg).length = 32 := by
  simp only [announcementPayload, List.length_append, encodeAscii_length, digits_length,
    cfg.vin_length, cfg.eid_length, cfg.gid_length, List.length_singleton]

/-- Each of them is a frame with a short payload. -/
theorem Sent.frame (h : Sent bytes) : ∃ ptype payload, bytes = buildFrame ptype payload ∧
    ptype ∈ sentTypes ∧ payload.length ≤ 32 := by
  cases h with
  | nack code => exact ⟨_, [code], rfl, by decide, Nat.le_of_ble_eq_true rfl⟩
  | announcement cfg =>
      exact ⟨_, announcementPayload cfg, rfl, by decide, (announcementPayload_length cfg).le⟩
  | entityStatus sockets => exact ⟨_, _, rfl, by decide, Nat.le_of_ble_eq_true rfl⟩
  | powerMode => exact ⟨_, _, rfl, by decide, by decide⟩

/-- A frame of the version in use is not refused. -/
theorem received_frame (cfg : Identity) (sockets : UInt8) (ptype : UInt16) {payload : List UInt8}
    (hlen : payload.length < 2 ^ 32) :
    datagramReceived cfg sockets (buildFrame ptype payload) =
      dispatch cfg sockets ⟨doipProtocolVersion, ptype, UInt32.ofNat payload.length⟩ payload := by
  have hparse := parseFrame_buildFrame ptype hlen []
  rw [List.append_nil] at hparse
  rw [datagramReceived, hparse]
  rfl

/-- **What a handler sends, no handler understands**: it is answered with a NACK. -/
theorem received_sent (h : Sent bytes) (cfg : Identity) (sockets : UInt8) :
    datagramReceived cfg sockets bytes =
      some (buildGenericNack GenericNackCode.unknownPayloadType) := by
  obtain ⟨ptype, payload, rfl, htype, hlen⟩ := h.frame
  rw [received_frame cfg sockets ptype (by omega), dispatch]
  dsimp only
  simp only [sentTypes, List.mem_cons, List.not_mem_nil, or_false] at htype
  rcases htype with rfl | rfl | rfl | rfl <;> rfl

end Sent

/-! ## Who is meant -/

section Meant

variable {cfg : Identity} {sockets : UInt8} {data reply : List UInt8}

/-- A request for this vehicle. -/
def Meant (cfg : Identity) (ptype : UInt16) (payload : List UInt8) : Prop :=
  ptype = PayloadType.vehicleIdRequest ∨
    (ptype = PayloadType.vehicleIdRequestWithEid ∧ 6 ≤ payload.length ∧
      payload.take 6 = cfg.eid) ∨
    (ptype = PayloadType.vehicleIdRequestWithVin ∧ 17 ≤ payload.length ∧
      payload.take 17 = encodeAscii cfg.vin)

/-- A request for another vehicle. -/
def Elsewhere (cfg : Identity) (ptype : UInt16) (payload : List UInt8) : Prop :=
  (ptype = PayloadType.vehicleIdRequestWithEid ∧ 6 ≤ payload.length ∧
      payload.take 6 ≠ cfg.eid) ∨
    (ptype = PayloadType.vehicleIdRequestWithVin ∧ 17 ≤ payload.length ∧
      payload.take 17 ≠ encodeAscii cfg.vin)

/-- A datagram with a header that is not refused. -/
def Accepted (data : List UInt8) (ptype : UInt16) (payload : List UInt8) : Prop :=
  ∃ hdr, parseFrame data = .ok (hdr, payload) ∧ hdr.isValid = none ∧ hdr.payloadType = ptype

theorem accepted_unique {ptype ptype' : UInt16} {payload payload' : List UInt8}
    (h : Accepted data ptype payload) (h' : Accepted data ptype' payload') :
    ptype = ptype' ∧ payload = payload' := by
  obtain ⟨hdr, hparse, -, rfl⟩ := h
  obtain ⟨hdr', hparse', -, rfl⟩ := h'
  rw [hparse] at hparse'
  obtain ⟨rfl, rfl⟩ := Prod.mk.inj (Except.ok.inj hparse')
  exact ⟨rfl, rfl⟩

/-- A filter that refuses what is too short and passes over what does not match. -/
theorem filtered_cases {M E S : Prop} [Decidable S] {len n : Nat} {β : Type} (hm : M ↔ n ≤ len ∧ S)
    (he : E ↔ n ≤ len ∧ ¬ S) (short found : Option β) :
    (M ∧ ¬ E ∧ (if len < n then short else if ¬ S then none else found) = found) ∨
    (¬ M ∧ E ∧ (if len < n then short else if ¬ S then none else found) = none) ∨
    (¬ M ∧ ¬ E ∧ (if len < n then short else if ¬ S then none else found) = short) := by
  rw [hm, he]
  by_cases hshort : len < n
  · rw [if_pos hshort]
    exact Or.inr (Or.inr ⟨fun h => by omega, fun h => by omega, rfl⟩)
  · rw [if_neg hshort]
    by_cases hsame : S
    · rw [if_neg (not_not.mpr hsame)]
      exact Or.inl ⟨⟨by omega, hsame⟩, fun h => h.2 hsame, rfl⟩
    · rw [if_pos hsame]
      exact Or.inr (Or.inl ⟨fun h => hsame h.2, ⟨by omega, hsame⟩, rfl⟩)

/-- The answer to a discovery request. -/
theorem vehicleIdRequest_cases (cfg : Identity) {ptype : UInt16} (payload : List UInt8)
    (htype : ptype = PayloadType.vehicleIdRequest ∨ ptype = PayloadType.vehicleIdRequestWithEid ∨
      ptype = PayloadType.vehicleIdRequestWithVin) :
    (Meant cfg ptype payload ∧ ¬ Elsewhere cfg ptype payload ∧
      handleVehicleIdRequest cfg ptype payload = some (buildVehicleAnnouncement cfg)) ∨
    (¬ Meant cfg ptype payload ∧ Elsewhere cfg ptype payload ∧
      handleVehicleIdRequest cfg ptype payload = none) ∨
    (¬ Meant cfg ptype payload ∧ ¬ Elsewhere cfg ptype payload ∧
      handleVehicleIdRequest cfg ptype payload =
        some (buildGenericNack GenericNackCode.invalidPayloadLength)) := by
  have hall : PayloadType.vehicleIdRequest ≠ PayloadType.vehicleIdRequestWithEid := by decide
  have hall' : PayloadType.vehicleIdRequest ≠ PayloadType.vehicleIdRequestWithVin := by decide
  have hvin : PayloadType.vehicleIdRequestWithVin ≠ PayloadType.vehicleIdRequestWithEid := by
    decide
  rw [handleVehicleIdRequest]
  rcases htype with rfl | rfl | rfl
  · rw [if_neg hall, if_neg hall']
    refine Or.inl ⟨Or.inl rfl, ?_, rfl⟩
    rintro (⟨hcontra, -⟩ | ⟨hcontra, -⟩)
    · exact hall hcontra
    · exact hall' hcontra
  · rw [if_pos rfl]
    refine filtered_cases ?_ ?_ _ _
    · simp only [Meant, hall.symm, hvin.symm, true_and, false_and, false_or, or_false]
    · simp only [Elsewhere, hvin.symm, true_and, false_and, or_false]
  · rw [if_neg hvin, if_pos rfl]
    refine filtered_cases ?_ ?_ _ _
    · simp only [Meant, hall'.symm, hvin, true_and, false_and, false_or,
        decodeAscii_eq_iff cfg.vin_ascii]
    · simp only [Elsewhere, hvin, true_and, false_and, false_or, ne_eq,
        decodeAscii_eq_iff cfg.vin_ascii]

/-- The datagram means this vehicle, or another one. -/
def MeansThis (cfg : Identity) (data : List UInt8) : Prop :=
  ∃ ptype payload, Accepted data ptype payload ∧ Meant cfg ptype payload

def MeansOther (cfg : Identity) (data : List UInt8) : Prop :=
  ∃ ptype payload, Accepted data ptype payload ∧ Elsewhere cfg ptype payload

/-- A short frame that is no announcement. -/
def OtherFrame (reply : List UInt8) : Prop :=
  ∃ ptype payload, reply = buildFrame ptype payload ∧ payload.length ≤ 32 ∧
    ptype ≠ PayloadType.vehicleAnnouncement

theorem otherFrame_nack (code : UInt8) : OtherFrame (buildGenericNack code) :=
  ⟨_, [code], rfl, Nat.le_of_ble_eq_true rfl, by decide⟩

theorem otherFrame_ne (h : OtherFrame reply) (cfg : Identity) :
    reply ≠ buildVehicleAnnouncement cfg := by
  obtain ⟨ptype, payload, rfl, -, htype⟩ := h
  exact fun heq => htype (buildFrame_inj heq).1

/-- **The whole handler**: an announcement, silence, or another frame. -/
theorem received_cases (cfg : Identity) (sockets : UInt8) (data : List UInt8) :
    (MeansThis cfg data ∧ ¬ MeansOther cfg data ∧
      datagramReceived cfg sockets data = some (buildVehicleAnnouncement cfg)) ∨
    (¬ MeansThis cfg data ∧ MeansOther cfg data ∧ datagramReceived cfg sockets data = none) ∨
    (¬ MeansThis cfg data ∧ ¬ MeansOther cfg data ∧
      ∃ reply, datagramReceived cfg sockets data = some reply ∧ OtherFrame reply) := by
  rw [datagramReceived]
  rcases hparse : parseFrame data with e | ⟨hdr, payload⟩
  · have hno : ∀ ptype payload, ¬ Accepted data ptype payload := by
      rintro ptype payload ⟨hdr, hok, -⟩
      rw [hparse] at hok
      cases hok
    exact Or.inr (Or.inr ⟨fun ⟨p, q, h, _⟩ => hno p q h, fun ⟨p, q, h, _⟩ => hno p q h,
      _, rfl, otherFrame_nack _⟩)
  · dsimp only
    rcases hvalid : hdr.isValid with _ | nack
    · dsimp only
      have haccepted : Accepted data hdr.payloadType payload := ⟨hdr, hparse, hvalid, rfl⟩
      have hthis : MeansThis cfg data ↔ Meant cfg hdr.payloadType payload := by
        refine ⟨?_, fun h => ⟨_, _, haccepted, h⟩⟩
        rintro ⟨p, q, h, hm⟩
        obtain ⟨rfl, rfl⟩ := accepted_unique haccepted h
        exact hm
      have hother : MeansOther cfg data ↔ Elsewhere cfg hdr.payloadType payload := by
        refine ⟨?_, fun h => ⟨_, _, haccepted, h⟩⟩
        rintro ⟨p, q, h, hm⟩
        obtain ⟨rfl, rfl⟩ := accepted_unique haccepted h
        exact hm
      rw [hthis, hother, dispatch]
      by_cases hreq : hdr.payloadType = PayloadType.vehicleIdRequest ∨
          hdr.payloadType = PayloadType.vehicleIdRequestWithEid ∨
          hdr.payloadType = PayloadType.vehicleIdRequestWithVin
      · rw [if_pos hreq]
        rcases vehicleIdRequest_cases cfg payload hreq with h | h | ⟨hm, he, h⟩
        · exact Or.inl h
        · exact Or.inr (Or.inl h)
        · exact Or.inr (Or.inr ⟨hm, he, _, h, otherFrame_nack _⟩)
      · rw [if_neg hreq]
        have hm : ¬ Meant cfg hdr.payloadType payload := by
          rintro (h | ⟨h, -⟩ | ⟨h, -⟩)
          · exact hreq (Or.inl h)
          · exact hreq (Or.inr (Or.inl h))
          · exact hreq (Or.inr (Or.inr h))
        have he : ¬ Elsewhere cfg hdr.payloadType payload := by
          rintro (⟨h, -⟩ | ⟨h, -⟩)
          · exact hreq (Or.inr (Or.inl h))
          · exact hreq (Or.inr (Or.inr h))
        refine Or.inr (Or.inr ⟨hm, he, ?_⟩)
        split
        · exact ⟨_, rfl, _, _, rfl, Nat.le_of_ble_eq_true rfl, by decide⟩
        · split
          · exact ⟨_, rfl, _, _, rfl, Nat.le_of_ble_eq_true rfl, by decide⟩
          · exact ⟨_, rfl, otherFrame_nack _⟩
    · have hno : ∀ ptype payload, ¬ Accepted data ptype payload := by
        rintro ptype payload ⟨hdr', hok, hgood, -⟩
        rw [hparse] at hok
        obtain ⟨rfl, -⟩ := Prod.mk.inj (Except.ok.inj hok)
        rw [hvalid] at hgood
        cases hgood
      exact Or.inr (Or.inr ⟨fun ⟨p, q, h, _⟩ => hno p q h, fun ⟨p, q, h, _⟩ => hno p q h,
        _, rfl, otherFrame_nack _⟩)

/-! ## What can be read out of an answer -/

/-- The fields of an announcement, as a tester takes them out of its payload. -/
structure Announcement where
  vin : List Char
  logicalAddress : UInt16
  eid : List UInt8
  gid : List UInt8
deriving DecidableEq

def readAnnouncement (payload : List UInt8) : Announcement where
  vin := decodeAscii (payload.take 17)
  logicalAddress := UInt16.ofNat (value ((payload.drop 17).take 2))
  eid := (payload.drop 19).take 6
  gid := (payload.drop 25).take 6

/-- **An announcement is read back.** -/
theorem readAnnouncement_payload (cfg : Identity) :
    readAnnouncement (announcementPayload cfg) =
      ⟨cfg.vin, cfg.logicalAddress, cfg.eid, cfg.gid⟩ := by
  have hvin : (encodeAscii cfg.vin).length = 17 := by rw [encodeAscii_length, cfg.vin_length]
  have hla : (digits 2 cfg.logicalAddress.toNat).length = 2 := digits_length 2 _
  have hfirst : (announcementPayload cfg).take 17 = encodeAscii cfg.vin := List.take_left' hvin
  have hsecond : (announcementPayload cfg).drop 17 =
      digits 2 cfg.logicalAddress.toNat ++ (cfg.eid ++ (cfg.gid ++ [0x00])) := List.drop_left' hvin
  have hthird : (announcementPayload cfg).drop 19 = cfg.eid ++ (cfg.gid ++ [0x00]) := by
    have hdrop : (announcementPayload cfg).drop 19 =
        ((announcementPayload cfg).drop 17).drop 2 := by
      rw [List.drop_drop]
    rw [hdrop, hsecond]
    exact List.drop_left' hla
  have hfourth : (announcementPayload cfg).drop 25 = cfg.gid ++ [0x00] := by
    have hdrop : (announcementPayload cfg).drop 25 =
        ((announcementPayload cfg).drop 19).drop 6 := by
      rw [List.drop_drop]
    rw [hdrop, hthird]
    exact List.drop_left' cfg.eid_length
  have hnumber : UInt16.ofNat (value (digits 2 cfg.logicalAddress.toNat)) =
      cfg.logicalAddress := by
    rw [value_digits cfg.logicalAddress.toNat_lt, UInt16.ofNat_toNat]
  rw [readAnnouncement, hfirst, hsecond, hthird, hfourth, List.take_left' hla,
    List.take_left' cfg.eid_length, List.take_left' cfg.gid_length, hnumber,
    (decodeAscii_eq_iff cfg.vin_ascii).mpr rfl]

/-- **VEHICLE DISCOVERY**, for every datagram: a vehicle announces itself exactly when the datagram
    is a request that means it, keeps silent exactly when the request means another one, and
    answers everything else with another frame.  Every answer is a frame that is parsed back, and
    an announcement says who the vehicle is. -/
theorem discovery (cfg : Identity) (sockets : UInt8) (data : List UInt8) :
    (datagramReceived cfg sockets data = some (buildVehicleAnnouncement cfg) ↔
        MeansThis cfg data) ∧
      (datagramReceived cfg sockets data = none ↔ MeansOther cfg data) ∧
      (∀ reply, datagramReceived cfg sockets data = some reply →
        ∃ hdr payload, parseFrame reply = .ok (hdr, payload) ∧ hdr.isValid = none ∧
          (hdr.payloadType = PayloadType.vehicleAnnouncement → readAnnouncement payload =
            ⟨cfg.vin, cfg.logicalAddress, cfg.eid, cfg.gid⟩)) := by
  have hparsed : ∀ ptype payload, payload.length ≤ 32 →
      parseFrame (buildFrame ptype payload) =
        .ok (⟨doipProtocolVersion, ptype, UInt32.ofNat payload.length⟩, payload) := by
    intro ptype payload hlen
    have hparse := parseFrame_buildFrame ptype (show payload.length < 2 ^ 32 by omega) []
    rwa [List.append_nil] at hparse
  rcases received_cases cfg sockets data with ⟨hthis, hother, hreply⟩ | ⟨hthis, hother, hreply⟩ |
      ⟨hthis, hother, reply, hreply, hframe⟩
  · rw [hreply]
    refine ⟨iff_of_true rfl hthis, iff_of_false (fun hcontra => by cases hcontra) hother, ?_⟩
    intro reply hsome
    obtain rfl := Option.some.inj hsome
    exact ⟨_, _, hparsed _ _ (announcementPayload_length cfg).le, rfl,
      fun _ => readAnnouncement_payload cfg⟩
  · rw [hreply]
    exact ⟨iff_of_false (fun hcontra => by cases hcontra) hthis, iff_of_true rfl hother,
      fun reply hsome => by cases hsome⟩
  · rw [hreply]
    refine ⟨iff_of_false (fun heq => otherFrame_ne hframe cfg (Option.some.inj heq)) hthis,
      iff_of_false (fun hcontra => by cases hcontra) hother, ?_⟩
    intro answer hsome
    obtain rfl := Option.some.inj hsome
    obtain ⟨ptype, payload, rfl, hlen, htype⟩ := hframe
    exact ⟨_, payload, hparsed ptype payload hlen, rfl, fun hcontra => absurd hcontra htype⟩

end Meant

end Discovery
