import RemoteVehicle.MediaTcp

/-!
# Resynchronisation after a refused frame — MEDIA

The receive loop refuses a frame of another version or of more than `maxPayloadSize` bytes
by its header and goes on reading; the payload that the header announced is not skipped.

A stream is frames with a matching inverse byte and then anything: where a byte does not
match, or the stream ends inside a frame, the loop is left.  `AsIfUnsent` says that the
session comes to a place behind some frames with the state that it would have if the refused
ones among them had not been sent, and that it has sent the same apart from one NACK for
each.  That is so at every frame behind a refused one exactly when the payload of no refused
frame is noticed: it is made of whole alive check responses, or empty
(`resync_iff`).
-/

namespace Resync

open BigEndian MediaDoip MediaTcp StreamReader

/-! ## Streams of frames -/

/-- A frame with a matching inverse byte. -/
structure Frame where
  version : UInt8
  payloadType : UInt16
  payload : List UInt8
  fits : payload.length < 2 ^ 32

namespace Frame

/-- The header of a frame. -/
def header (f : Frame) : DoIPHeader := ⟨f.version, f.payloadType, UInt32.ofNat f.payload.length⟩

/-- The header as it is sent. -/
def headerBytes (f : Frame) : List UInt8 :=
  headerStruct f.version (~~~f.version) f.payloadType (UInt32.ofNat f.payload.length)

def encode (f : Frame) : List UInt8 := f.headerBytes ++ f.payload

/-- Another version, or a payload above the limit. -/
def Refused (f : Frame) : Prop :=
  f.version ≠ doipProtocolVersion ∨ maxPayloadSize < f.payload.length

instance (f : Frame) : Decidable f.Refused := by unfold Refused; infer_instance

/-- The NACK of a refused frame. -/
def nack (f : Frame) : List UInt8 :=
  buildGenericNack (if f.version ≠ doipProtocolVersion then
    GenericNackCode.incorrectPatternFormat else GenericNackCode.messageTooLarge)

end Frame

/-- The bytes of some frames and what follows them. -/
def stream (fs : List Frame) (tail : List UInt8) : List UInt8 := fs.flatMap Frame.encode ++ tail

/-- A NACK that a header is answered with. -/
def HeaderNack (frame : List UInt8) : Prop :=
  frame = buildGenericNack GenericNackCode.incorrectPatternFormat ∨
    frame = buildGenericNack GenericNackCode.messageTooLarge

instance (frame : List UInt8) : Decidable (HeaderNack frame) := by
  unfold HeaderNack; infer_instance

/-- The session comes behind some frames as if the refused ones had not been sent, apart from
    their NACKs. -/
def AsIfUnsent (env : Nat → Interference) (c : Connection) (before : List Frame)
    (rest : List UInt8) : Prop :=
  ∃ t sent sent',
    Reads (receive env) c (stream before rest) sent t rest ∧
    Reads (receive env) c (stream (before.filter fun f => ¬ f.Refused) rest) sent' t rest ∧
    (sent.filter fun frame => ¬ HeaderNack frame) = sent' ∧
    (sent.filter fun frame => HeaderNack frame) =
      (before.filter fun f => f.Refused).map Frame.nack

/-- Every frame behind a refused one is read and answered as if that had not been sent. -/
def Resyncs (env : Nat → Interference) (c : Connection) (fs : List Frame) (tail : List UInt8) :
    Prop :=
  ∀ before f after, fs = before ++ f :: after → (∃ r ∈ before, r.Refused) →
    AsIfUnsent env c before (stream (f :: after) tail)

/-- A payload that the session reads without a word: whole alive check responses. -/
def Silent (payload : List UInt8) : Prop :=
  ∃ gs : List Frame, payload = gs.flatMap Frame.encode ∧
    ∀ g ∈ gs, ¬ g.Refused ∧ g.payloadType = PayloadType.aliveCheckResponse

section Streams

variable (f g : Frame) (fs gs : List Frame) (tail : List UInt8)

@[simp] theorem stream_nil : stream [] tail = tail := rfl

theorem stream_cons : stream (f :: fs) tail = f.encode ++ stream fs tail := by
  rw [stream, List.flatMap_cons, List.append_assoc]
  rfl

theorem stream_append : stream (fs ++ gs) tail = stream fs (stream gs tail) := by
  rw [stream, List.flatMap_append, List.append_assoc]
  rfl

/-- The length that the header announces. -/
theorem announced : (UInt32.ofNat f.payload.length).toNat = f.payload.length := by
  rw [UInt32.toNat_ofNat', Nat.mod_eq_of_lt f.fits]

theorem silent_nil : Silent [] := ⟨[], rfl, by simp⟩

variable {f g}

theorem silent_cons {payload : List UInt8} (hg : ¬ g.Refused)
    (htype : g.payloadType = PayloadType.aliveCheckResponse) (h : Silent payload) :
    Silent (g.encode ++ payload) := by
  obtain ⟨gs, rfl, hgs⟩ := h
  refine ⟨g :: gs, List.flatMap_cons.symm, ?_⟩
  intro g' hmem
  rcases List.mem_cons.mp hmem with rfl | hmem
  · exact ⟨hg, htype⟩
  · exact hgs g' hmem

theorem nack_headerNack (f : Frame) : HeaderNack f.nack := by
  rw [Frame.nack]
  split
  · exact Or.inl rfl
  · exact Or.inr rfl

end Streams

/-! ## One round -/

section Round

variable {env : Nat → Interference} {c c' : Connection} {input rest : List UInt8}
  {sent : List (List UInt8)}

theorem readExactly_append {n : Nat} {bytes : List UInt8} (h : bytes.length = n)
    (rest : List UInt8) : readExactly n (bytes ++ rest) = some (bytes, rest) := by
  have hlong : ¬ (bytes ++ rest).length < n := by
    rw [List.length_append]
    omega
  rw [readExactly, if_neg hlong, List.take_left' h, List.drop_left' h]

theorem readExactly_some {n : Nat} {stream bytes rest : List UInt8}
    (h : readExactly n stream = some (bytes, rest)) :
    stream = bytes ++ rest ∧ bytes.length = n := by
  rw [readExactly] at h
  split at h
  · cases h
  · cases h
    refine ⟨(List.take_append_drop n stream).symm, ?_⟩
    rw [List.length_take]
    omega

/-- **What a round does with a frame**: a refused one is left after its header. -/
theorem receive_frame (env : Nat → Interference) (c : Connection) (f : Frame)
    (rest : List UInt8) :
    receive env c (f.encode ++ rest) =
      if f.Refused then some ([f.nack], c, f.payload ++ rest)
      else some ((dispatch env f.header f.payload c).1, (dispatch env f.header f.payload c).2,
        rest) := by
  have hheader : readExactly doipHeaderLen (f.encode ++ rest) =
      some (f.headerBytes, f.payload ++ rest) := by
    rw [Frame.encode, List.append_assoc]
    exact readExactly_append (headerStruct_length _ _ _ _) _
  -- the padding after the header is no part of what is decoded
  have hparse : parseFrame (f.headerBytes ++ [0, 0, 0, 0]) =
      .ok (f.header, ((f.headerBytes ++ [0, 0, 0, 0]).drop doipHeaderLen).take
        f.header.payloadLength.toNat) := by
    have hdecode : DoIPHeader.decode (f.headerBytes ++ [0, 0, 0, 0]) = .ok f.header := by
      rw [Frame.headerBytes, decode_headerStruct, if_neg (not_not.mpr rfl)]
      rfl
    rw [parseFrame, hdecode]
  have hlength : f.header.payloadLength.toNat = f.payload.length := announced f
  rw [receive, hheader]
  dsimp only
  rw [hparse]
  dsimp only
  by_cases hversion : f.version = doipProtocolVersion
  · have hvalid : f.header.isValid = none := if_neg (not_not.mpr hversion)
    rw [hvalid]
    dsimp only
    rw [hlength]
    -- an announced length over the bound leaves the payload in the stream
    by_cases hlong : maxPayloadSize < f.payload.length
    · have hrefused : f.Refused := Or.inr hlong
      rw [if_pos hlong, if_pos hrefused, Frame.nack, if_neg (not_not.mpr hversion)]
    · have haccepted : ¬ f.Refused := by
        rintro (h | h)
        · exact h hversion
        · exact hlong h
      rw [if_neg hlong, if_neg haccepted, readExactly_append rfl]
  · -- so does a wrong version
    have hvalid : f.header.isValid = some GenericNackCode.incorrectPatternFormat := if_pos hversion
    have hrefused : f.Refused := Or.inl hversion
    rw [hvalid, if_pos hrefused, Frame.nack, if_pos hversion]

/-- A valid header and its payload are a frame. -/
theorem exists_frame {hdr : DoIPHeader} {payload : List UInt8} (hvalid : hdr.isValid = none)
    (hshort : ¬ maxPayloadSize < hdr.payloadLength.toNat)
    (hpayload : payload.length = hdr.payloadLength.toNat) :
    ∃ f : Frame, ¬ f.Refused ∧ f.header = hdr ∧ f.payload = payload ∧
      f.encode = headerStruct hdr.protocolVersion (~~~hdr.protocolVersion) hdr.payloadType
        hdr.payloadLength ++ payload := by
  have hversion : hdr.protocolVersion = doipProtocolVersion := by
    by_contra hne
    rw [DoIPHeader.isValid, if_pos hne] at hvalid
    cases hvalid
  have hfits : payload.length < 2 ^ 32 := by
    rw [hpayload]
    exact hdr.payloadLength.toNat_lt
  have hlen : UInt32.ofNat payload.length = hdr.payloadLength := by
    rw [hpayload, UInt32.ofNat_toNat]
  refine ⟨⟨hdr.protocolVersion, hdr.payloadType, payload, hfits⟩, ?_, ?_, rfl, ?_⟩
  · rintro (hne | hlong)
    · exact hne hversion
    · rw [← hpayload] at hshort
      exact hshort hlong
  · rw [Frame.header, hlen]
  · rw [Frame.encode, Frame.headerBytes, hlen]

/-- **What a round has read**: the header of a refused frame, or a whole frame. -/
theorem receive_some (h : receive env c input = some (sent, c', rest)) :
    (∃ header, header.length = doipHeaderLen ∧ input = header ++ rest ∧ sent ≠ []) ∨
      ∃ f : Frame, ¬ f.Refused ∧ input = f.encode ++ rest ∧
        (sent, c') = dispatch env f.header f.payload c := by
  rw [receive] at h
  split at h
  · cases h
  · rename_i hdrBytes rest' hread
    obtain ⟨rfl, hlength⟩ := readExactly_some hread
    split at h
    · cases h
    · rename_i hdr _ hparse
      have hdecode : DoIPHeader.decode (hdrBytes ++ [0, 0, 0, 0]) = .ok hdr := by
        rw [parseFrame] at hparse
        split at hparse
        · cases hparse
        · rename_i hdr' hdecode
          cases hparse
          exact hdecode
      have hheader := headerStruct_of_decode hdecode
      rw [List.take_left' hlength] at hheader
      split at h
      · -- the header is refused, and what follows it is read next
        cases h
        exact Or.inl ⟨hdrBytes, hlength, rfl, List.cons_ne_nil _ _⟩
      · rename_i hvalid
        split at h
        · cases h
          exact Or.inl ⟨hdrBytes, hlength, rfl, List.cons_ne_nil _ _⟩
        · rename_i hshort
          split at h
          · cases h
          · rename_i payload rest'' hread'
            obtain ⟨rfl, hpayload⟩ := readExactly_some hread'
            -- accepted: the payload is consumed with its header
            obtain ⟨f, haccepted, rfl, rfl, hencode⟩ := exists_frame hvalid hshort hpayload
            cases h
            refine Or.inr ⟨f, haccepted, ?_, rfl⟩
            rw [hencode, hheader, List.append_assoc]

theorem encode_ne_nil (f : Frame) : f.encode ≠ [] := List.cons_ne_nil _ _

theorem consumes_receive (env : Nat → Interference) : Consumes (receive env) := by
  intro c input sent c' rest h
  rcases receive_some h with ⟨header, hlength, rfl, -⟩ | ⟨f, -, rfl, -⟩
  · refine ⟨header, ?_, rfl⟩
    rintro rfl
    cases hlength
  · exact ⟨f.encode, encode_ne_nil f, rfl⟩

end Round

/-! ## What a frame is answered with -/

section Dispatch

variable {env : Nat → Interference} {hdr : DoIPHeader} {payload : List UInt8} {c : Connection}

/-- The frames of other types are no NACKs of a header. -/
theorem not_headerNack {ptype : UInt16} (h : ptype ≠ PayloadType.genericNack)
    (payload : List UInt8) : ¬ HeaderNack (buildFrame ptype payload) := by
  rintro (heq | heq)
  · exact h (buildFrame_inj heq).1
  · exact h (buildFrame_inj heq).1

theorem not_headerNack_invalidPayloadLength :
    ¬ HeaderNack (buildGenericNack GenericNackCode.invalidPayloadLength) := by decide

theorem not_headerNack_unknownPayloadType :
    ¬ HeaderNack (buildGenericNack GenericNackCode.unknownPayloadType) := by decide

theorem not_headerNack_activation (cfg : Config) (payload : List UInt8) (self : Session)
    (others : List Session) :
    ¬ HeaderNack (handleRoutingActivation cfg payload self others).1 := by
  have hresponse : ∀ sa la code, ¬ HeaderNack (buildRoutingActivationResponse sa la code) :=
    fun _ _ _ => not_headerNack (by decide) _
  rw [handleRoutingActivation]
  split
  · exact not_headerNack_invalidPayloadLength
  · dsimp only
    split
    · exact hresponse _ _ _
    · split
      · exact hresponse _ _ _
      · exact hresponse _ _ _

theorem not_headerNack_refuse (payload : List UInt8) :
    ¬ HeaderNack (refuseDiagnostic payload) := by
  rw [refuseDiagnostic]
  split
  · exact not_headerNack (by decide) _
  · exact not_headerNack_invalidPayloadLength

theorem not_headerNack_diagnostic (payload : List UInt8) (self : Session) :
    (∀ frame, handleDiagnostic payload self = .error frame → ¬ HeaderNack frame) ∧
      ∀ ack msg, handleDiagnostic payload self = .ok (ack, msg) → ¬ HeaderNack ack := by
  have hnack : ∀ sa ta code prev, ¬ HeaderNack (buildDiagnosticNegativeAck sa ta code prev) :=
    fun _ _ _ _ => not_headerNack (by decide) _
  rw [handleDiagnostic]
  split
  · refine ⟨?_, fun _ _ h => by cases h⟩
    rintro frame ⟨⟩
    exact not_headerNack_invalidPayloadLength
  · dsimp only
    split
    · refine ⟨?_, fun _ _ h => by cases h⟩
      rintro frame ⟨⟩
      exact hnack _ _ _ _
    · split
      · refine ⟨?_, fun _ _ h => by cases h⟩
        rintro frame ⟨⟩
        exact hnack _ _ _ _
      · refine ⟨fun _ h => (by cases h), ?_⟩
        rintro ack msg ⟨⟩
        exact not_headerNack (by decide) _

/-- **No frame is answered with a NACK of its header**, once it has been read. -/
theorem dispatch_answers (env : Nat → Interference) (hdr : DoIPHeader) (payload : List UInt8)
    (c : Connection) : ∀ frame ∈ (dispatch env hdr payload c).1, ¬ HeaderNack frame := by
  rw [dispatch]
  dsimp only
  split
  · rintro frame hmem
    rw [List.mem_singleton.mp hmem]
    exact not_headerNack_activation _ _ _ _
  · split
    · -- an alive check response is not answered
      intro frame hmem
      cases hmem
    · split
      · -- a diagnostic message: refused, or acknowledged and answered
        split
        · intro frame hmem
          rw [List.mem_singleton.mp hmem]
          exact not_headerNack_refuse _
        · obtain ⟨herror, hok⟩ := not_headerNack_diagnostic payload c.session
          split
          · rename_i nack hrefused
            intro frame hmem
            rw [List.mem_singleton.mp hmem]
            exact herror nack hrefused
          · rename_i ack msg hacked
            intro frame hmem
            rcases List.mem_cons.mp hmem with rfl | hmem
            · exact hok _ msg hacked
            · rw [List.mem_singleton.mp hmem]
              exact not_headerNack (by decide) _
      · split
        · intro frame hmem
          rw [List.mem_singleton.mp hmem]
          exact not_headerNack (by decide) _
        · intro frame hmem
          rw [List.mem_singleton.mp hmem]
          exact not_headerNack_unknownPayloadType

/-- Only an alive check response is read without a word, and it changes nothing. -/
theorem dispatch_silent (h : hdr.payloadType = PayloadType.aliveCheckResponse) :
    dispatch env hdr payload c = ([], c) := by
  rw [dispatch, h]
  rfl

theorem aliveCheckResponse_of_silent (h : (dispatch env hdr payload c).1 = []) :
    hdr.payloadType = PayloadType.aliveCheckResponse := by
  rw [dispatch] at h
  dsimp only at h
  split at h
  · cases h
  · split at h
    · assumption
    · split at h
      · split at h
        · cases h
        · split at h
          · cases h
          · cases h
      · split at h
        · cases h
        · cases h

end Dispatch

/-! ## Many rounds -/

/-- The answers to frames of which none is refused. -/
def serve (env : Nat → Interference) :
    Connection → List Frame → List (List UInt8) × Connection
  | c, [] => ([], c)
  | c, f :: fs =>
      let (sent, c') := dispatch env f.header f.payload c
      let (log, t) := serve env c' fs
      (sent ++ log, t)

section Rounds

variable {env : Nat → Interference} {c t : Connection} {f : Frame} {before fs : List Frame}
  {payload rest : List UInt8} {log : List (List UInt8)}

theorem reads_refused (env : Nat → Interference) (c : Connection) (h : f.Refused)
    (rest : List UInt8) :
    Reads (receive env) c (f.encode ++ rest) [f.nack] c (f.payload ++ rest) := by
  apply Reads.once
  rw [receive_frame, if_pos h]

theorem reads_accepted (env : Nat → Interference) (c : Connection) (h : ¬ f.Refused)
    (rest : List UInt8) :
    Reads (receive env) c (f.encode ++ rest) (dispatch env f.header f.payload c).1
      (dispatch env f.header f.payload c).2 rest := by
  apply Reads.once
  rw [receive_frame, if_neg h]

/-- A silent payload is read without a trace. -/
theorem reads_silent (c : Connection) (h : Silent payload) (rest : List UInt8) :
    Reads (receive env) c (payload ++ rest) [] c rest := by
  obtain ⟨gs, rfl, hgs⟩ := h
  induction gs with
  | nil => exact Reads.here c rest
  | cons g gs ih =>
      obtain ⟨haccepted, htype⟩ := hgs g List.mem_cons_self
      have hhead := reads_accepted env c haccepted (gs.flatMap Frame.encode ++ rest)
      rw [dispatch_silent htype] at hhead
      rw [List.flatMap_cons, List.append_assoc]
      exact hhead.trans (ih fun g' hmem => hgs g' (List.mem_cons_of_mem g hmem))

/-- Something that ends before `rest` begins is at the beginning of what is before `rest`. -/
theorem append_within {α : Type} {p q rest rest' : List α} (h : p ++ rest = q ++ rest')
    (hle : rest.length ≤ rest'.length) : ∃ p', p = q ++ p' ∧ rest' = p' ++ rest := by
  rcases List.append_eq_append_iff.mp h with ⟨more, hq, hrest⟩ | ⟨more, hp, hrest⟩
  · have hlength := congrArg List.length hrest
    rw [List.length_append] at hlength
    have hnil : more = [] := List.length_eq_zero_iff.mp (by omega)
    subst hnil
    rw [List.append_nil] at hq
    exact ⟨[], by rw [hq, List.append_nil], hrest.symm⟩
  · exact ⟨more, hp, hrest⟩

/-- **A payload that is read without a word is silent.** -/
theorem silent_of_reads (h : Reads (receive env) c (payload ++ rest) [] t rest) :
    Silent payload := by
  generalize hinput : payload ++ rest = input at h
  generalize hlog : ([] : List (List UInt8)) = log at h
  induction h generalizing payload with
  | here =>
      have hnil : payload = [] := List.append_left_eq_self.mp hinput
      rw [hnil]
      exact silent_nil
  | next hround htail ih =>
      obtain ⟨rfl, rfl⟩ := List.append_eq_nil_iff.mp hlog.symm
      rcases receive_some hround with ⟨_, _, _, hsent⟩ | ⟨g, haccepted, rfl, hdispatch⟩
      · exact absurd rfl hsent
      · have htype : g.payloadType = PayloadType.aliveCheckResponse :=
          aliveCheckResponse_of_silent (congrArg Prod.fst hdispatch).symm
        -- the frame ends inside the payload, as the place behind that is still to come
        obtain ⟨payload', rfl, rfl⟩ :=
          append_within hinput (htail.length_le (consumes_receive env))
        exact silent_cons haccepted htype (ih rfl rfl)

/-- Frames of which none is refused are all answered. -/
theorem reads_serve (c : Connection) (h : ∀ f ∈ fs, ¬ f.Refused) (rest : List UInt8) :
    Reads (receive env) c (stream fs rest) (serve env c fs).1 (serve env c fs).2 rest := by
  induction fs generalizing c with
  | nil => exact Reads.here c rest
  | cons f fs ih =>
      have hhead := reads_accepted env c (h f List.mem_cons_self) (stream fs rest)
      rw [stream_cons]
      exact hhead.trans (ih _ fun g hmem => h g (List.mem_cons_of_mem f hmem))

theorem reads_filter (env : Nat → Interference) (c : Connection) (fs : List Frame)
    (rest : List UInt8) :
    Reads (receive env) c (stream (fs.filter fun f => ¬ f.Refused) rest)
      (serve env c (fs.filter fun f => ¬ f.Refused)).1
      (serve env c (fs.filter fun f => ¬ f.Refused)).2 rest := by
  apply reads_serve
  intro f hmem
  exact of_decide_eq_true (List.mem_filter.mp hmem).2

end Rounds

/-! ## The law -/

section Law

variable {env : Nat → Interference} {c t : Connection} {f r : Frame} {before fs : List Frame}
  {rest : List UInt8} {sent : List (List UInt8)}

/-- The same, with the answers to the frames that are not refused. -/
theorem asIfUnsent_iff :
    AsIfUnsent env c before rest ↔
      ∃ sent,
        Reads (receive env) c (stream before rest) sent
          (serve env c (before.filter fun f => ¬ f.Refused)).2 rest ∧
        (sent.filter fun frame => ¬ HeaderNack frame) =
          (serve env c (before.filter fun f => ¬ f.Refused)).1 ∧
        (sent.filter fun frame => HeaderNack frame) =
          (before.filter fun f => f.Refused).map Frame.nack := by
  have hserve := reads_filter env c before rest
  constructor
  · rintro ⟨t, sent, sent', hreads, hreads', hanswers, hnacks⟩
    obtain ⟨rfl, rfl⟩ := hserve.unique (consumes_receive env) hreads'
    exact ⟨sent, hreads, hanswers, hnacks⟩
  · rintro ⟨sent, hreads, hanswers, hnacks⟩
    exact ⟨_, sent, _, hreads, hserve, hanswers, hnacks⟩

/-- What a dispatched frame is answered with stays when the NACKs are left out. -/
theorem filter_dispatch (env : Nat → Interference) (hdr : DoIPHeader) (payload : List UInt8)
    (c : Connection) :
    ((dispatch env hdr payload c).1.filter fun frame => ¬ HeaderNack frame) =
        (dispatch env hdr payload c).1 ∧
      ((dispatch env hdr payload c).1.filter fun frame => HeaderNack frame) = [] := by
  have hanswers := dispatch_answers env hdr payload c
  constructor
  · rw [List.filter_eq_self]
    intro frame hmem
    exact decide_eq_true (hanswers frame hmem)
  · rw [List.filter_eq_nil_iff]
    intro frame hmem
    exact mt of_decide_eq_true (hanswers frame hmem)

/-- **Silent payloads are not noticed.** -/
theorem asIfUnsent_of_silent (h : ∀ r ∈ before, r.Refused → Silent r.payload) :
    AsIfUnsent env c before rest := by
  rw [asIfUnsent_iff]
  induction before generalizing c with
  | nil => exact ⟨[], Reads.here c rest, rfl, rfl⟩
  | cons f before ih =>
      have hbefore : ∀ r ∈ before, r.Refused → Silent r.payload :=
        fun r hmem => h r (List.mem_cons_of_mem f hmem)
      rw [stream_cons]
      -- a refused frame adds its nack, and its silent payload nothing
      by_cases hf : f.Refused
      · have hsilent : Silent f.payload := h f List.mem_cons_self hf
        obtain ⟨sent, hreads, hanswers, hnacks⟩ := ih (c := c) hbefore
        have hskip := (reads_refused env c hf (stream before rest)).trans
          (reads_silent c hsilent (stream before rest))
        refine ⟨[f.nack] ++ [] ++ sent, ?_, ?_, ?_⟩
        · rw [List.filter_cons_of_neg (by simpa using hf)]
          exact hskip.trans hreads
        · rw [List.filter_cons_of_neg (by simpa using hf), ← hanswers]
          exact List.filter_cons_of_neg (by simpa using nack_headerNack f)
        · rw [List.filter_cons_of_pos (by simpa using hf), List.map_cons, ← hnacks]
          exact List.filter_cons_of_pos (by simpa using nack_headerNack f)
      · obtain ⟨sent, hreads, hanswers, hnacks⟩ :=
          ih (c := (dispatch env f.header f.payload c).2) hbefore
        obtain ⟨hkept, hnone⟩ := filter_dispatch env f.header f.payload c
        refine ⟨(dispatch env f.header f.payload c).1 ++ sent, ?_, ?_, ?_⟩
        · rw [List.filter_cons_of_pos (by simpa using hf)]
          exact (reads_accepted env c hf (stream before rest)).trans hreads
        · rw [List.filter_cons_of_pos (by simpa using hf), List.filter_append, hkept, hanswers]
          rfl
        · rw [List.filter_cons_of_neg (by simpa using hf), List.filter_append, hnone, hnacks]
          rfl

/-- **A payload that is not noticed is silent.** -/
theorem silent_of_asIfUnsent (hr : r.Refused) (hbefore : AsIfUnsent env c before (r.encode ++ rest))
    (hafter : AsIfUnsent env c (before ++ [r]) rest) : Silent r.payload := by
  obtain ⟨sent, hreads, hanswers, hnacks⟩ := asIfUnsent_iff.mp hbefore
  obtain ⟨sent', hreads', hanswers', hnacks'⟩ := asIfUnsent_iff.mp hafter
  have haccepted : (before ++ [r]).filter (fun f => ¬ f.Refused) =
      before.filter fun f => ¬ f.Refused := by
    rw [List.filter_append, List.filter_cons_of_neg (by simpa using hr), List.filter_nil,
      List.append_nil]
  have hrefused : (before ++ [r]).filter (fun f => f.Refused) =
      before.filter (fun f => f.Refused) ++ [r] := by
    rw [List.filter_append, List.filter_cons_of_pos (by simpa using hr), List.filter_nil]
  rw [haccepted] at hreads' hanswers'
  rw [hrefused, List.map_append] at hnacks'
  rw [stream_append, stream_cons, stream_nil] at hreads'
  have hlength : rest.length ≤ (r.encode ++ rest).length := by
    rw [List.length_append]
    omega
  have hlength' : rest.length ≤ (r.payload ++ rest).length := by
    rw [List.length_append]
    omega
  -- from the refused frame on: its NACK, and what its payload brings
  obtain ⟨log, rfl, hlog⟩ := hreads.after (consumes_receive env) hreads' hlength
  obtain ⟨more, rfl, hmore⟩ :=
    (reads_refused env _ hr rest).after (consumes_receive env) hlog hlength'
  have hnone : more = [] := by
    rw [List.filter_append, List.filter_append, hnacks, List.append_cancel_left_eq,
      List.filter_cons_of_pos (by simpa using nack_headerNack r), List.filter_nil] at hnacks'
    rw [List.filter_append, List.filter_append, hanswers, List.append_right_eq_self,
      List.filter_cons_of_neg (by simpa using nack_headerNack r), List.filter_nil,
      List.nil_append] at hanswers'
    have hnacked : more.filter (fun frame => HeaderNack frame) = [] :=
      List.append_right_eq_self.mp hnacks'
    cases more with
    | nil => rfl
    | cons frame more =>
        by_cases hframe : HeaderNack frame
        · rw [List.filter_cons_of_pos (by simpa using hframe)] at hnacked
          cases hnacked
        · rw [List.filter_cons_of_pos (by simpa using hframe)] at hanswers'
          cases hanswers'
  rw [hnone] at hmore
  exact silent_of_reads hmore

/-- What the session sends in all is then the same, apart from the NACKs. -/
theorem run_asIfUnsent (h : AsIfUnsent env c before rest) :
    ((run env c (stream before rest)).filter fun frame => ¬ HeaderNack frame) =
      (run env c (stream (before.filter fun f => ¬ f.Refused) rest)).filter
        fun frame => ¬ HeaderNack frame := by
  obtain ⟨t, sent, sent', hreads, hreads', hanswers, -⟩ := h
  have hsame : (sent'.filter fun frame => ¬ HeaderNack frame) = sent' := by
    rw [← hanswers, List.filter_filter]
    simp only [Bool.and_self]
  rw [run, run, runAll_reads (consumes_receive env) hreads,
    runAll_reads (consumes_receive env) hreads', List.filter_append, List.filter_append, hanswers,
    hsame]

/-- **The session resynchronises exactly when every refused frame before another one has a
    silent payload**, whatever its state, the other sessions and the end of the stream. -/
theorem resync_iff (env : Nat → Interference) (c : Connection) (fs : List Frame)
    (tail : List UInt8) :
    Resyncs env c fs tail ↔
      ∀ before r f after, fs = before ++ r :: f :: after → r.Refused → Silent r.payload := by
  constructor
  · intro h before r f after hfs hr
    have hbefore : AsIfUnsent env c before (stream (r :: f :: after) tail) := by
      by_cases hany : ∃ r' ∈ before, r'.Refused
      · exact h before r (f :: after) hfs hany
      · exact asIfUnsent_of_silent fun r' hmem hr' => absurd ⟨r', hmem, hr'⟩ hany
    have hafter : AsIfUnsent env c (before ++ [r]) (stream (f :: after) tail) :=
      h (before ++ [r]) f after (by rw [hfs, List.append_assoc]; rfl) ⟨r, by simp, hr⟩
    rw [stream_cons] at hbefore
    exact silent_of_asIfUnsent hr hbefore hafter
  · intro h before f after hfs _
    apply asIfUnsent_of_silent
    intro r hmem hr
    obtain ⟨front, back, rfl⟩ := List.append_of_mem hmem
    cases back with
    | nil => exact h front r f after (by rw [hfs, List.append_assoc]; rfl) hr
    | cons g back => exact h front r g (back ++ f :: after) (by rw [hfs, List.append_assoc]; rfl) hr

end Law

/-! ## A refused frame that is noticed -/

/-- An alive check response of the version before. -/
def olderVersion : Frame := ⟨0x01, PayloadType.aliveCheckResponse, [0x0E, 0x00], by decide⟩

/-- The routing activation of the tester. -/
def activation : Frame :=
  ⟨0x02, PayloadType.routingActivationRequest, [0x0E, 0x00, 0, 0, 0, 0, 0], by decide⟩

/-- A session that has just been opened, alone. -/
def opened : Connection :=
  ⟨Session.initial, ⟨[], [], ⟨true, false, false, false, false, false, 0⟩⟩, 0⟩

/-- Nobody else does anything. -/
def alone : Nat → Interference := fun _ => ⟨id, id⟩

/-- **The routing activation behind a refused frame is lost**: its bytes are read from two
    bytes before, and the session ends. -/
theorem activation_lost :
    run alone opened (stream [olderVersion, activation] []) = [olderVersion.nack] ∧
      run alone opened (stream [activation] []) =
        [buildRoutingActivationResponse LogicalAddress.tester LogicalAddress.gatewayRPi2
          RoutingActivationResponseCode.success] ∧
      ¬ Resyncs alone opened [olderVersion, activation] [] := by
  have hlost : run alone opened (stream [olderVersion, activation] []) = [olderVersion.nack] := by
    decide +kernel
  have hanswered : run alone opened (stream [activation] []) =
      [buildRoutingActivationResponse LogicalAddress.tester LogicalAddress.gatewayRPi2
        RoutingActivationResponseCode.success] := by
    decide +kernel
  refine ⟨hlost, hanswered, ?_⟩
  intro h
  have hsame := run_asIfUnsent
    (h [olderVersion] activation [] rfl ⟨olderVersion, List.mem_singleton_self _, by decide⟩)
  have hrefused : [olderVersion].filter (fun f => ¬ f.Refused) = [] := rfl
  rw [hrefused, ← stream_append, stream_nil] at hsame
  rw [List.singleton_append, hlost, hanswered] at hsame
  revert hsame
  decide +kernel

end Resync
