import RemoteVehicle.UdsAnswer
import RemoteVehicle.UdsTunnelProofs

/-!
# ReadDTCInformation has one length check for two formats

MAIN's server knows two reports: all trouble codes (`19 0A`) and the trouble codes with a
status bit of a mask (`19 02 mask`).  Its comment gives each its length, two and three bytes,
but the check takes both lengths for both.

So a report of all codes may carry a stray byte, and a report by mask may come without its mask
and is then filtered by whatever byte stands behind the request.  `conforms_of_not_swapped`
says that these are the only requests on which the server leaves the grammar.
-/

namespace ReadDtc

open MainState MainTransmit MainDcm MainLoop UdsAnswer UdsTunnel

/-! ## The grammar -/

/-- Report all trouble codes. -/
def supportedRequest : List UInt8 := [0x19, 0x0A]

/-- Report the trouble codes with a status bit of the mask. -/
def maskRequest (mask : UInt8) : List UInt8 := [0x19, 0x02, mask]

def InGrammar (req : List UInt8) : Prop := req = supportedRequest ∨ ∃ mask, req = maskRequest mask

/-- The length is none that the sub-function of the request has. -/
def WrongLength (req : List UInt8) : Prop :=
  (req.getD 1 0 ≠ 0x02 → req.length ≠ 2) ∧ (req.getD 1 0 ≠ 0x0A → req.length ≠ 3)

/-- The sub-function is neither of the two. -/
def UnknownReport (req : List UInt8) : Prop :=
  2 ≤ req.length ∧ req.getD 1 0 ≠ 0x0A ∧ req.getD 1 0 ≠ 0x02

/-- What the grammar says about the response to a request with service identifier 0x19. -/
structure Conforms (req : List UInt8) (d : Dcm) (resp : List UInt8) : Prop where
  positive : resp.head? = some 0x59 ↔ InGrammar req
  supported : req = supportedRequest → resp = [0x59, 0x0A, 0xFF] ++ dtcRecords (dtcTable d)
  masked : ∀ mask, req = maskRequest mask → resp = [0x59, 0x02, 0xFF] ++
    dtcRecords ((dtcTable d).filter fun p => p.2 &&& mask != 0)
  negative : ¬ InGrammar req → (resp = [0x7F, 0x19, 0x13] ∧ WrongLength req) ∨
    (resp = [0x7F, 0x19, 0x12] ∧ UnknownReport req)

/-- The request has the length of the other report. -/
def Swapped (req : List UInt8) : Prop :=
  (req.length = 3 ∧ req.getD 1 0 = 0x0A) ∨ (req.length = 2 ∧ req.getD 1 0 = 0x02)

/-- The server hands this response to `DoIP_ProcessTx`, in every state with these trouble
    codes. -/
def Answered (reqData : Payload) (reqLength : Nat) (d : Dcm) (resp : List UInt8) : Prop :=
  ∀ s : Main, s.dcm = d →
    udsProcessRx reqData reqLength s = respond resp (s.emit (.uds (bytesOf reqData reqLength)))

/-! ## What the server answers -/

/-- The response to a request with service identifier 0x19. -/
def readDtcResponse (reqData : Payload) (reqLength : Nat) (d : Dcm) : List UInt8 :=
  if reqLength ≠ 2 ∧ reqLength ≠ 3 then [0x7F, 0x19, 0x13]
  else if reqData 1 = 0x0A then [0x59, 0x0A, 0xFF] ++ dtcRecords (dtcTable d)
  else if reqData 1 = 0x02 then
    [0x59, 0x02, 0xFF] ++ dtcRecords ((dtcTable d).filter fun p => p.2 &&& reqData 2 != 0)
  else [0x7F, 0x19, 0x12]

section Server

variable {reqData : Payload} {reqLength : Nat} {d : Dcm}

theorem answered_readDtc (hlen : 1 ≤ reqLength) (hsid : reqData 0 = 0x19) :
    Answered reqData reqLength d (readDtcResponse reqData reqLength d) := by
  rintro s rfl
  have hserve := udsProcessRx_sid (s := s) hlen hsid
  rw [if_neg (by decide), if_neg (by decide), if_pos rfl] at hserve
  rw [hserve]
  simp only [udsReadDtc, readDtcResponse, hsid]
  split_ifs <;> rfl

/-- The three records fit one response. -/
theorem readDtcResponse_length : (readDtcResponse reqData reqLength d).length ≤ 15 := by
  have hall : (dtcRecords (dtcTable d)).length = 12 :=
    length_dtcRecords (dtcTable_codes d)
  have hsome : (dtcRecords ((dtcTable d).filter fun p => p.2 &&& reqData 2 != 0)).length ≤ 12 := by
    have hfilter := List.length_filter_le (fun p : List UInt8 × UInt8 => p.2 &&& reqData 2 != 0)
      (dtcTable d)
    have hthree : (dtcTable d).length = 3 := rfl
    rw [length_dtcRecords fun p hp => dtcTable_codes d p (List.mem_of_mem_filter hp)]
    omega
  rw [readDtcResponse]
  split_ifs
  · exact (by decide : 3 ≤ 15)
  · rw [List.length_append, hall]
    rfl
  · rw [List.length_append]
    exact Nat.add_le_add_left hsome 3
  · exact (by decide : 3 ≤ 15)

/-- A short response is determined by what the server does. -/
theorem answered_unique {resp resp' : List UInt8} (hresp : Answered reqData reqLength d resp)
    (hresp' : Answered reqData reqLength d resp') (hlen : resp.length ≤ 15)
    (hlen' : resp'.length ≤ 15) : resp = resp' := by
  let s : Main := { testerOn 0 with dcm := d }
  have hsame : respond resp (s.emit (.uds (bytesOf reqData reqLength))) =
      respond resp' (s.emit (.uds (bytesOf reqData reqLength))) :=
    (hresp s rfl).symm.trans (hresp' s rfl)
  -- the tester's connection has room for both
  have htaken : ∀ body : List UInt8, body.length ≤ 15 →
      (s.emit (.uds (bytesOf reqData reqLength))).taker (doipMessage 0x0001 body) = some 0 := by
    intro body hbody
    refine taker_some.mpr ⟨⟨?_, rfl⟩, rfl⟩
    rw [(diagMessage_doipMessage hbody).length]
    show 12 + body.length ≤ 1072
    omega
  rw [respond_message (by omega), respond_message (by omega), write_taken (htaken resp hlen),
    write_taken (htaken resp' hlen')] at hsame
  have hout := List.append_cancel_left (congrArg Main.out hsame)
  injection hout with htcp
  injection htcp with _ hdata
  exact congrArg (List.drop 12) hdata

end Server

/-! ## The requests one by one -/

section Requests

variable {req resp : List UInt8} {d : Dcm}

theorem conforms_refused (hout : ¬ InGrammar req)
    (hnegative : (resp = [0x7F, 0x19, 0x13] ∧ WrongLength req) ∨
      (resp = [0x7F, 0x19, 0x12] ∧ UnknownReport req)) : Conforms req d resp where
  positive := by
    refine ⟨fun hhead => ?_, fun hin => absurd hin hout⟩
    rcases hnegative with ⟨rfl, -⟩ | ⟨rfl, -⟩
    · exact absurd hhead (by decide)
    · exact absurd hhead (by decide)
  supported := fun h => absurd (.inl h) hout
  masked := fun mask h => absurd (.inr ⟨mask, h⟩) hout
  negative := fun _ => hnegative

theorem conforms_supported :
    Conforms supportedRequest d ([0x59, 0x0A, 0xFF] ++ dtcRecords (dtcTable d)) where
  positive := ⟨fun _ => .inl rfl, fun _ => rfl⟩
  supported := fun _ => rfl
  masked := fun mask h => absurd (congrArg List.length h) (by decide : 2 ≠ 3)
  negative := fun hout => absurd (.inl rfl) hout

theorem conforms_masked (mask : UInt8) : Conforms (maskRequest mask) d ([0x59, 0x02, 0xFF] ++
    dtcRecords ((dtcTable d).filter fun p => p.2 &&& mask != 0)) where
  positive := ⟨fun _ => .inr ⟨mask, rfl⟩, fun _ => rfl⟩
  supported := fun h => absurd (congrArg List.length h) (by decide : 3 ≠ 2)
  masked := by
    intro other h
    injection h with _ htail
    injection htail with _ htail
    injection htail with hmask
    rw [hmask]
  negative := fun hout => absurd (.inr ⟨mask, rfl⟩) hout

/-- A request in the grammar has the length of its report. -/
theorem not_inGrammar (hlength : req.length ≠ 2 ∨ req.getD 1 0 ≠ 0x0A)
    (hmask : req.length ≠ 3 ∨ req.getD 1 0 ≠ 0x02) : ¬ InGrammar req := by
  rintro (rfl | ⟨mask, rfl⟩)
  · rcases hlength with h | h <;> exact h rfl
  · rcases hmask with h | h <;> exact h rfl

/-- **A swapped length** is outside the grammar, and what the grammar says about it is a
    refusal. -/
theorem refused_of_swapped (hswap : Swapped req) (h : Conforms req d resp) :
    resp.head? = some 0x7F ∧ resp.length ≤ 15 := by
  have hout : ¬ InGrammar req := by
    rcases hswap with ⟨hlen, hsub⟩ | ⟨hlen, hsub⟩
    · exact not_inGrammar (.inl (by omega)) (.inr (by rw [hsub]; decide))
    · exact not_inGrammar (.inr (by rw [hsub]; decide)) (.inl (by omega))
  rcases h.negative hout with ⟨rfl, -⟩ | ⟨rfl, -⟩
  · exact ⟨rfl, by decide⟩
  · exact ⟨rfl, by decide⟩

end Requests

/-! ## The law -/

section Law

variable {reqData : Payload} {reqLength : Nat} {d : Dcm}

/-- **Every other request** is answered as the grammar says. -/
theorem conforms_of_not_swapped (hlen : 1 ≤ reqLength) (hsid : reqData 0 = 0x19)
    (h : ¬ Swapped (bytesOf reqData reqLength)) :
    Conforms (bytesOf reqData reqLength) d (readDtcResponse reqData reqLength d) := by
  have hlength : (bytesOf reqData reqLength).length = reqLength := bytesOf_length ..
  rw [Swapped, hlength, not_or, not_and, not_and] at h
  rw [readDtcResponse]
  by_cases hother : reqLength ≠ 2 ∧ reqLength ≠ 3
  · rw [if_pos hother]
    refine conforms_refused ?_ (.inl ⟨rfl, ?_⟩)
    · exact not_inGrammar (.inl (by rw [hlength]; exact hother.1))
        (.inl (by rw [hlength]; exact hother.2))
    · rw [WrongLength, hlength]
      exact ⟨fun _ => hother.1, fun _ => hother.2⟩
  · have hsub : (bytesOf reqData reqLength).getD 1 0 = reqData 1 := getD_bytesOf reqData (by omega)
    rw [hsub] at h
    rw [if_neg hother]
    by_cases hall : reqData 1 = 0x0A
    · -- all codes: the length is two
      have htwo : reqLength = 2 := by
        by_contra hne
        exact h.1 (by omega) hall
      have hreq : bytesOf reqData reqLength = supportedRequest := by
        rw [htwo]
        show [reqData 0, reqData 1] = _
        rw [hsid, hall]
        rfl
      rw [if_pos hall, hreq]
      exact conforms_supported
    · rw [if_neg hall]
      by_cases hmask : reqData 1 = 0x02
      · -- by mask: the length is three
        have hthree : reqLength = 3 := by
          by_contra hne
          exact h.2 (by omega) hmask
        have hreq : bytesOf reqData reqLength = maskRequest (reqData 2) := by
          rw [hthree]
          show [reqData 0, reqData 1, reqData 2] = _
          rw [hsid, hmask]
          rfl
        rw [if_pos hmask, hreq]
        exact conforms_masked (reqData 2)
      · rw [if_neg hmask]
        refine conforms_refused ?_ (.inr ⟨rfl, ?_⟩)
        · exact not_inGrammar (.inr (by rw [hsub]; exact hall)) (.inr (by rw [hsub]; exact hmask))
        · rw [UnknownReport, hlength, hsub]
          exact ⟨by omega, hall, hmask⟩

/-- A request with the length of the other report is answered positively. -/
theorem positive_of_swapped (h : Swapped (bytesOf reqData reqLength)) :
    (readDtcResponse reqData reqLength d).head? = some 0x59 := by
  rw [Swapped, bytesOf_length] at h
  rw [readDtcResponse]
  rcases h with ⟨hlen, hsub⟩ | ⟨hlen, hsub⟩
  · rw [getD_bytesOf reqData (by omega)] at hsub
    rw [if_neg (by omega), if_pos hsub]
    rfl
  · rw [getD_bytesOf reqData (by omega)] at hsub
    rw [if_neg (by omega), if_neg (by rw [hsub]; decide), if_pos hsub]
    rfl

/-- It is outside the grammar. -/
theorem fails_of_swapped (hlen : 1 ≤ reqLength) (hsid : reqData 0 = 0x19)
    (h : Swapped (bytesOf reqData reqLength)) :
    ¬ ∃ resp, Answered reqData reqLength d resp ∧ Conforms (bytesOf reqData reqLength) d resp := by
  rintro ⟨resp, hanswer, hconforms⟩
  obtain ⟨hrefused, hshort⟩ := refused_of_swapped h hconforms
  have hsame : resp = readDtcResponse reqData reqLength d :=
    answered_unique hanswer (answered_readDtc hlen hsid) hshort readDtcResponse_length
  rw [hsame, positive_of_swapped h] at hrefused
  exact absurd hrefused (by decide)

end Law

/-- **WHEN THE GRAMMAR HOLDS.**  A request with service identifier 0x19 is answered as the
    grammar says, in every state of the trouble codes, exactly when it has not the length of the
    other report. -/
theorem read_dtc_grammar (reqData : Payload) (reqLength : Nat) (d : Dcm) (hlen : 1 ≤ reqLength)
    (hsid : reqData 0 = 0x19) :
    (∃ resp, Answered reqData reqLength d resp ∧ Conforms (bytesOf reqData reqLength) d resp) ↔
      ¬ Swapped (bytesOf reqData reqLength) := by
  constructor
  · intro hanswer hswap
    exact fails_of_swapped hlen hsid hswap hanswer
  · intro h
    exact ⟨_, answered_readDtc hlen hsid, conforms_of_not_swapped hlen hsid h⟩

/-- Every request with service identifier 0x19 is answered as the grammar says. -/
def ServesGrammar : Prop :=
  ∀ (reqData : Payload) (reqLength : Nat) (d : Dcm), 1 ≤ reqLength → reqData 0 = 0x19 →
    ∃ resp, Answered reqData reqLength d resp ∧ Conforms (bytesOf reqData reqLength) d resp

/-- **The failing requests.**  All codes with a stray byte, and codes by a mask that is not
    there: both are answered positively. -/
theorem serves_grammar_fails :
    ¬ ServesGrammar ∧
      Answered (ofList [0x19, 0x0A, 0xFF]) 3 mainReset.dcm
        [0x59, 0x0A, 0xFF, 0xC4, 0, 0, 0, 0xC4, 1, 0, 0, 0xC4, 2, 0, 0] ∧
      Answered (ofList [0x19, 0x02]) 2 mainReset.dcm [0x59, 0x02, 0xFF] := by
  refine ⟨?_, answered_readDtc (by decide) rfl, answered_readDtc (by decide) rfl⟩
  intro h
  refine fails_of_swapped (by decide) rfl (.inl ⟨rfl, rfl⟩)
    (h (ofList [0x19, 0x0A, 0xFF]) 3 mainReset.dcm (by decide) rfl)

/-- By mask 0x01, and by a status of ACT that has its bit. -/
theorem read_dtc_grammar_mask :
    ∃ resp, Answered (ofList [0x19, 0x02, 0x01]) 3
        { mainReset.dcm with act := ⟨0x01, 1⟩ } resp ∧
      Conforms [0x19, 0x02, 0x01] { mainReset.dcm with act := ⟨0x01, 1⟩ } resp := by
  refine (read_dtc_grammar (ofList [0x19, 0x02, 0x01]) 3
    { mainReset.dcm with act := ⟨0x01, 1⟩ } (by decide) rfl).mpr ?_
  rintro (⟨-, hsub⟩ | ⟨hlen, -⟩)
  · exact absurd hsub (by decide)
  · exact absurd hlen (by decide)

end ReadDtc
