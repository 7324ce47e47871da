import RemoteVehicle.MediaDoip

/-!
# Which headers come back from `encode` as they were

`build_frame` and `parse_frame` are inverse to each other, whatever follows the frame.  The
header alone is not: `decode` accepts every version whose inverse byte is its complement, and
`encode` writes the complement of the version in use, 0xFD, whatever version the header has.

`encode_decode` says that the version in use is the only one that survives.
-/

namespace HeaderCodec

open BigEndian MediaDoip

/-! ## Frames -/

/-- **A frame is parsed back**, whatever follows it. -/
theorem parseFrame_buildFrame (ptype : UInt16) {payload : List UInt8}
    (hlen : payload.length < 2 ^ 32) (rest : List UInt8) :
    parseFrame (buildFrame ptype payload ++ rest) =
      .ok (⟨doipProtocolVersion, ptype, UInt32.ofNat payload.length⟩, payload) := by
  have hdecode : DoIPHeader.decode (buildFrame ptype payload ++ rest) =
      .ok ⟨doipProtocolVersion, ptype, UInt32.ofNat payload.length⟩ := by
    rw [buildFrame_eq, List.append_assoc, decode_headerStruct]
    exact if_neg (by decide)
  have hdrop : (buildFrame ptype payload ++ rest).drop doipHeaderLen = payload ++ rest := by
    rw [buildFrame_eq, List.append_assoc]
    exact List.drop_left' (headerStruct_length ..)
  have hlength : (UInt32.ofNat payload.length).toNat = payload.length := by
    rw [UInt32.toNat_ofNat', Nat.mod_eq_of_lt hlen]
  rw [parseFrame, hdecode]
  simp only [hdrop, hlength, List.take_left']

/-! ## Headers -/

theorem headerStruct_inj {version inverse inverse' : UInt8} {ptype : UInt16} {plen : UInt32} :
    headerStruct version inverse ptype plen = headerStruct version inverse' ptype plen ↔
      inverse = inverse' := by
  rw [headerStruct, headerStruct, List.cons_inj_right, List.cons_eq_cons]
  exact and_iff_left rfl

/-- **The inverse byte** is what `encode` can get wrong. -/
theorem encode_decode {data : List UInt8} {hdr : DoIPHeader} (hlen : data.length = doipHeaderLen)
    (hdecode : DoIPHeader.decode data = .ok hdr) :
    hdr.encode = data ↔ hdr.protocolVersion = doipProtocolVersion := by
  have hdata := headerStruct_of_decode hdecode
  rw [List.take_of_length_le hlen.le] at hdata
  rw [hdata, DoIPHeader.encode, headerStruct_inj]
  have hinverse : ∀ version : UInt8,
      doipProtocolVersionInv = ~~~version ↔ version = doipProtocolVersion := by
    rintro ⟨b⟩
    revert b
    decide +kernel
  exact hinverse hdr.protocolVersion

/-- The version is the first byte. -/
theorem version_of_decode {data : List UInt8} {hdr : DoIPHeader}
    (hlen : data.length = doipHeaderLen) (hdecode : DoIPHeader.decode data = .ok hdr) :
    hdr.protocolVersion = data.getD 0 0 := by
  have hdata := headerStruct_of_decode hdecode
  rw [List.take_of_length_le hlen.le] at hdata
  rw [hdata]
  rfl

/-! ## The codec -/

/-- **WHAT THE CODEC KEEPS.**  Every frame is parsed back, whatever follows it.  A header that
    `decode` accepts comes back from `encode` exactly where its first byte is the version in
    use. -/
theorem header_codec (ptype : UInt16) (payload rest data : List UInt8) (hdr : DoIPHeader) :
    (payload.length < 2 ^ 32 →
      ∃ parsed, parseFrame (buildFrame ptype payload ++ rest) = .ok (parsed, payload) ∧
        parsed.payloadType = ptype ∧ parsed.payloadLength.toNat = payload.length) ∧
      (data.length = doipHeaderLen → DoIPHeader.decode data = .ok hdr →
        (hdr.encode = data ↔ data.getD 0 0 = doipProtocolVersion)) := by
  constructor
  · intro hlen
    refine ⟨_, parseFrame_buildFrame ptype hlen rest, rfl, ?_⟩
    exact (UInt32.toNat_ofNat' ..).trans (Nat.mod_eq_of_lt hlen)
  · intro hlen hdecode
    rw [← version_of_decode hlen hdecode]
    exact encode_decode hlen hdecode

/-- Every accepted header comes back as it was. -/
def EncodesBack : Prop :=
  ∀ (data : List UInt8) (hdr : DoIPHeader), data.length = doipHeaderLen →
    DoIPHeader.decode data = .ok hdr → hdr.encode = data

/-- **The failing header**, of version 1: its inverse byte 0xFE becomes 0xFD. -/
theorem encodes_back_fails :
    ¬ EncodesBack ∧
      DoIPHeader.decode [0x01, 0xFE, 0x80, 0x01, 0, 0, 0, 6] = .ok ⟨0x01, 0x8001, 6⟩ ∧
      DoIPHeader.encode ⟨0x01, 0x8001, 6⟩ = [0x01, 0xFD, 0x80, 0x01, 0, 0, 0, 6] := by
  have hdecode : DoIPHeader.decode [0x01, 0xFE, 0x80, 0x01, 0, 0, 0, 6] = .ok ⟨0x01, 0x8001, 6⟩ :=
    rfl
  refine ⟨fun h => ?_, hdecode, by decide⟩
  exact absurd (h _ _ rfl hdecode) (by decide)

/-- A frame with a byte behind it, and the header of that frame. -/
theorem header_codec_message :
    (∃ hdr, parseFrame (buildFrame 0x8001 [0x3E, 0x00] ++ [0xFF]) = .ok (hdr, [0x3E, 0x00]) ∧
      hdr.payloadType = 0x8001 ∧ hdr.payloadLength.toNat = 2) ∧
      DoIPHeader.encode ⟨0x02, 0x8001, 2⟩ = [0x02, 0xFD, 0x80, 0x01, 0, 0, 0, 2] := by
  obtain ⟨hframe, hheader⟩ := header_codec 0x8001 [0x3E, 0x00] [0xFF]
    [0x02, 0xFD, 0x80, 0x01, 0, 0, 0, 2] ⟨0x02, 0x8001, 2⟩
  exact ⟨hframe (by decide), (hheader rfl rfl).mpr rfl⟩

end HeaderCodec
