import RemoteVehicle.CanFrame

/-!
# MAIN state — the gateway's static variables and what it hands out

`MAIN/` is a gateway: UDP control packets and TCP diagnostic messages come in on one side,
CAN frames go out on the other.  Its modules keep static variables; each gets a record
here, and `Main` is all of them.

* A buffer handed to a callback is the memory the pointer points to, with its length
  beside it, as in the source: reading past the length reads whatever is there.
* `Out` lists what leaves MAIN: messages for the CAN driver, data for lwIP, the UDS
  requests that reach the own diagnostic server, and closed connections.
* `Main.out` holds what the current event has handed out so far; every event starts
  with an empty list.

`Emits P s s'` says that `s'` is `s` with some more outputs, all of the kind `P`.
-/

namespace MainState

open ByteWords CanFrame

/-! ## Buffers -/

/-- What a `uint8_t*` points to: a byte at every index, also past the end. -/
abbrev Payload := Nat → UInt8

/-- The first `length` bytes. -/
def bytesOf (payload : Payload) (length : Nat) : List UInt8 := (List.range length).map payload

/-- A local array; past its end there is something. -/
def ofList (bytes : List UInt8) : Payload := fun i => bytes.getD i 0

/-- `payload + n`. -/
def offset (payload : Payload) (n : Nat) : Payload := fun i => payload (n + i)

@[simp] theorem bytesOf_length (payload : Payload) (length : Nat) :
    (bytesOf payload length).length = length := by
  simp [bytesOf]

theorem getD_bytesOf (payload : Payload) {length i : Nat} (h : i < length) :
    (bytesOf payload length).getD i 0 = payload i := by
  simp [bytesOf, h]

@[simp] theorem bytesOf_ofList (bytes : List UInt8) :
    bytesOf (ofList bytes) bytes.length = bytes := by
  apply List.ext_getElem
  · simp
  · intro i hi hb
    simp [bytesOf, ofList, hb]

/-- `(hi << 8) | lo`. -/
def word16 (hi lo : UInt8) : UInt16 := (hi.toUInt16 <<< 8) ||| lo.toUInt16

/-- `(uint8_t)(w >> 8)` and `(uint8_t)(w & 0xFF)`. -/
def highByte (w : UInt16) : UInt8 := (w >>> 8).toUInt8
def lowByte (w : UInt16) : UInt8 := (w &&& 0xFF).toUInt8

theorem word16_toNat (hi lo : UInt8) : (word16 hi lo).toNat = hi.toNat * 256 + lo.toNat := by
  have hhi := hi.toNat_lt
  have hlo := lo.toNat_lt
  have hor := Nat.shiftLeft_add_eq_or_of_lt (i := 8) (b := lo.toNat) (by omega) hi.toNat
  have hshift : hi.toNat <<< 8 % 65536 = hi.toNat <<< 8 := by
    rw [Nat.shiftLeft_eq]
    omega
  simp only [word16, UInt16.toNat_or, UInt16.toNat_shiftLeft, UInt8.toNat_toUInt16]
  show hi.toNat <<< 8 % 65536 ||| lo.toNat = _
  rw [hshift, ← hor, Nat.shiftLeft_eq]

theorem highByte_toNat (w : UInt16) : (highByte w).toNat = w.toNat / 256 := by
  have hw := w.toNat_lt
  simp only [highByte, UInt16.toNat_toUInt8, UInt16.toNat_shiftRight]
  show w.toNat >>> 8 % 256 = _
  rw [Nat.shiftRight_eq_div_pow]
  omega

theorem lowByte_toNat (w : UInt16) : (lowByte w).toNat = w.toNat % 256 := by
  simp only [lowByte, UInt16.toNat_toUInt8, UInt16.toNat_and]
  show (w.toNat &&& (2 ^ 8 - 1)) % 256 = _
  rw [Nat.and_two_pow_sub_one_eq_mod]
  omega

/-- The two bytes of a word make the word, and the other way round. -/
theorem word16_highByte_lowByte (w : UInt16) : word16 (highByte w) (lowByte w) = w := by
  rw [← UInt16.toNat_inj, word16_toNat, highByte_toNat, lowByte_toNat]
  omega

theorem highByte_word16 (hi lo : UInt8) : highByte (word16 hi lo) = hi := by
  have hlo := lo.toNat_lt
  rw [← UInt8.toNat_inj, highByte_toNat, word16_toNat]
  omega

theorem lowByte_word16 (hi lo : UInt8) : lowByte (word16 hi lo) = lo := by
  have hlo := lo.toNat_lt
  rw [← UInt8.toNat_inj, lowByte_toNat, word16_toNat]
  omega

/-- A received `struct pbuf`: the payload pointer and `len`, a `u16_t`. -/
structure Pbuf where
  payload : Payload
  len : Nat
  len_lt : len < 65536

/-- The received bytes. -/
def Pbuf.bytes (p : Pbuf) : List UInt8 := bytesOf p.payload p.len

/-- A buffer that holds these bytes and nothing else. -/
def Pbuf.ofBytes (bytes : List UInt8) (h : bytes.length < 65536) : Pbuf where
  payload := ofList bytes
  len := bytes.length
  len_lt := h

@[simp] theorem Pbuf.bytes_length (p : Pbuf) : p.bytes.length = p.len := by
  simp [Pbuf.bytes]

/-- Inside the buffer, its bytes are what the pointer shows. -/
theorem Pbuf.ofList_bytes (p : Pbuf) {i : Nat} (h : i < p.len) :
    ofList p.bytes i = p.payload i := getD_bytesOf p.payload h

/-- The bytes from an offset on. -/
theorem bytesOf_offset (payload : Payload) (n length : Nat) :
    bytesOf (offset payload n) (length - n) = (bytesOf payload length).drop n := by
  apply List.ext_getElem
  · simp
  · intro i hi hd
    simp [bytesOf, offset]

/-! ## Outputs -/

/-- `struct tcp_pcb *`: the name of a connection. -/
abbrev Pcb := Nat

/-- An IPv4 address. -/
structure IpAddr where
  a : UInt8
  b : UInt8
  c : UInt8
  d : UInt8
deriving DecidableEq, Repr

/-- What leaves MAIN. -/
inductive Out where
  /-- `IfxCan_Can_sendMessage` took the message. -/
  | can (m : CanMessage)
  /-- `tcp_write` on a connection. -/
  | tcp (pcb : Pcb) (data : List UInt8)
  /-- `udp_sendto`. -/
  | udp (addr : IpAddr) (port : Nat) (data : List UInt8)
  /-- `Uds_ProcessRx` was called with this request. -/
  | uds (reqData : List UInt8)
  /-- `tcp_server_close` was called. -/
  | tcpClose (tpcb : Option Pcb)
deriving DecidableEq, Repr

/-! ## Static variables -/

/-- `COM_RxBuf_UDP_Ctr`: `boolean` is `unsigned char`. -/
structure UdpCtr where
  accel : UInt8
  brake : UInt8
  steer : UInt8
  gear : UInt8
  turnSignal : UInt8
  horn : UInt8
  ignition : UInt8
  headLight : UInt8
deriving DecidableEq, Repr

/-- `COM_RxBuf_CAN_Stat`. -/
structure CanStat where
  speedl : UInt8
  speedh : UInt8
  gear : UInt8
  steer : UInt8
  steeringAngle : UInt8
deriving DecidableEq, Repr

/-- The time stamps of `com.c`, with the two of `COM_Tx_MainFunction`. -/
structure ComTimes where
  lastUdpRxTime : UInt32
  lastActRxTime : UInt32
  lastBodyRxTime : UInt32
  lastTime20ms : UInt32
  lastTime50ms : UInt32
deriving DecidableEq, Repr

/-- The static variables of `com.c`. -/
structure Com where
  rxUdpCtr : UdpCtr
  rxCanStat : CanStat
  bodyAliveCnt : UInt8
  collisionWarn : UInt8
  curMode : UInt8
  safetyOverride : UInt8
  statCnt : UInt8
  times : ComTimes
deriving DecidableEq, Repr

/-- Status and occurrence counter of one trouble code. -/
structure Dtc where
  status : UInt8
  occurCount : UInt8
deriving DecidableEq, Repr

/-- The static variables of `dcm.c`. -/
structure Dcm where
  currentDiagSession : UInt8
  pc : Dtc
  act : Dtc
  body : Dtc
deriving DecidableEq, Repr

/-- The static variables of `soad.c`. -/
structure SoAd where
  isClosePending : Bool
  closeRequestTime : UInt32
deriving DecidableEq, Repr

/-- `tcp_active_pcb`, and the connections whose callbacks are set in lwIP. -/
structure Tcp where
  activePcb : Option Pcb
  registered : List Pcb
deriving DecidableEq, Repr

/-- The addresses `udp_txrx.c` remembers. -/
structure Udp where
  pcip : IpAddr
  someipPort : Nat
deriving DecidableEq, Repr

/-- The static variables of `sd.c`. -/
structure Sd where
  sessionId : UInt16
  lastOfferTime : UInt32
deriving DecidableEq, Repr

/-- What one event finds: the millisecond tick counter, which wraps at 32 bits, which CAN
    transmit buffers are busy, and what lwIP says when `TcpSend` wants to write some bytes:
    the send space then, and whether `tcp_write` fails.  An event writes no bytes twice. -/
structure Env where
  now : Nat
  canBusy : Nat → Bool
  tcpSndbuf : List UInt8 → Nat
  tcpWriteFails : List UInt8 → Bool

/-- lwIP takes these bytes. -/
def Env.Takes (env : Env) (data : List UInt8) : Prop :=
  data.length ≤ env.tcpSndbuf data ∧ env.tcpWriteFails data = false

instance (env : Env) (data : List UInt8) : Decidable (env.Takes data) := by
  unfold Env.Takes; infer_instance

/-- The whole gateway. -/
structure Main where
  com : Com
  dcm : Dcm
  soad : SoAd
  tcp : Tcp
  udp : Udp
  sd : Sd
  env : Env
  out : List Out

/-- The connection that takes these bytes from `TcpSend`. -/
def Main.taker (data : List UInt8) (s : Main) : Option Pcb :=
  if s.env.Takes data then s.tcp.activePcb else none

/-- `Get_SystemTime_ms`. -/
def getSystemTimeMs (s : Main) : UInt32 := UInt32.ofNat s.env.now

/-! ## Emitting -/

/-- One more output. -/
def Main.emit (o : Out) (s : Main) : Main := { s with out := s.out ++ [o] }

@[simp] theorem emit_com (o : Out) (s : Main) : (s.emit o).com = s.com := rfl
@[simp] theorem emit_dcm (o : Out) (s : Main) : (s.emit o).dcm = s.dcm := rfl
@[simp] theorem emit_soad (o : Out) (s : Main) : (s.emit o).soad = s.soad := rfl
@[simp] theorem emit_tcp (o : Out) (s : Main) : (s.emit o).tcp = s.tcp := rfl
@[simp] theorem emit_udp (o : Out) (s : Main) : (s.emit o).udp = s.udp := rfl
@[simp] theorem emit_sd (o : Out) (s : Main) : (s.emit o).sd = s.sd := rfl
@[simp] theorem emit_env (o : Out) (s : Main) : (s.emit o).env = s.env := rfl
@[simp] theorem emit_out (o : Out) (s : Main) : (s.emit o).out = s.out ++ [o] := rfl
@[simp] theorem emit_taker (o : Out) (s : Main) (data : List UInt8) :
    (s.emit o).taker data = s.taker data := rfl

theorem taker_some {data : List UInt8} {s : Main} {pcb : Pcb} :
    s.taker data = some pcb ↔ s.env.Takes data ∧ s.tcp.activePcb = some pcb := by
  rw [Main.taker]
  split
  · rename_i htakes
    exact (and_iff_right htakes).symm
  · rename_i hno
    exact iff_of_false (Option.some_ne_none pcb).symm fun h => hno h.1

/-- Without a connection nothing is taken. -/
theorem taker_closed {data : List UInt8} {s : Main} (h : s.tcp.activePcb = none) :
    s.taker data = none := by
  rw [Main.taker, h, ite_self]

/-- What goes out when these bytes are written, to the connection that takes them. -/
def Main.written (data : List UInt8) (s : Main) : List Out :=
  (s.taker data).toList.map fun pcb => .tcp pcb data

def Main.write (data : List UInt8) (s : Main) : Main :=
  { s with out := s.out ++ s.written data }

@[simp] theorem write_out (data : List UInt8) (s : Main) :
    (s.write data).out = s.out ++ s.written data := rfl

theorem written_taken {data : List UInt8} {s : Main} {pcb : Pcb} (h : s.taker data = some pcb) :
    s.written data = [.tcp pcb data] := by
  rw [Main.written, h]
  rfl

theorem written_refused {data : List UInt8} {s : Main} (h : s.taker data = none) :
    s.written data = [] := by
  rw [Main.written, h]
  rfl

theorem write_taken {data : List UInt8} {s : Main} {pcb : Pcb} (h : s.taker data = some pcb) :
    s.write data = s.emit (.tcp pcb data) := by
  rw [Main.write, written_taken h]
  rfl

theorem write_refused {data : List UInt8} {s : Main} (h : s.taker data = none) :
    s.write data = s := by
  rw [Main.write, written_refused h, List.append_nil]

/-- `s'` is `s` with some more outputs, all of the kind `P`. -/
def Emits (P : Out → Prop) (s s' : Main) : Prop :=
  ∃ outs, s' = { s with out := s.out ++ outs } ∧ ∀ o ∈ outs, P o

section Emits

variable {P Q : Out → Prop} {s s' s'' : Main}

theorem Emits.refl (P : Out → Prop) (s : Main) : Emits P s s :=
  ⟨[], by simp, by simp⟩

theorem Emits.one {o : Out} (h : P o) : Emits P s (s.emit o) :=
  ⟨[o], rfl, by simpa using h⟩

/-- What is written is data on a connection. -/
theorem Emits.write {data : List UInt8} (h : ∀ pcb, P (.tcp pcb data)) :
    Emits P s (s.write data) := by
  refine ⟨s.written data, rfl, fun o ho => ?_⟩
  obtain ⟨pcb, -, rfl⟩ := List.mem_map.mp ho
  exact h pcb

theorem Emits.trans (h : Emits P s s') (h' : Emits P s' s'') : Emits P s s'' := by
  obtain ⟨outs, rfl, hP⟩ := h
  obtain ⟨more, rfl, hP'⟩ := h'
  refine ⟨outs ++ more, by simp, ?_⟩
  intro o ho
  rcases List.mem_append.mp ho with ho | ho
  · exact hP o ho
  · exact hP' o ho

theorem Emits.mono (h : Emits P s s') (hPQ : ∀ o, P o → Q o) : Emits Q s s' := by
  obtain ⟨outs, rfl, hP⟩ := h
  exact ⟨outs, rfl, fun o ho => hPQ o (hP o ho)⟩

/-- Only the outputs change. -/
theorem Emits.com (h : Emits P s s') : s'.com = s.com := by obtain ⟨_, rfl, _⟩ := h; rfl
theorem Emits.dcm (h : Emits P s s') : s'.dcm = s.dcm := by obtain ⟨_, rfl, _⟩ := h; rfl
theorem Emits.soad (h : Emits P s s') : s'.soad = s.soad := by obtain ⟨_, rfl, _⟩ := h; rfl
theorem Emits.tcp (h : Emits P s s') : s'.tcp = s.tcp := by obtain ⟨_, rfl, _⟩ := h; rfl
theorem Emits.env (h : Emits P s s') : s'.env = s.env := by obtain ⟨_, rfl, _⟩ := h; rfl

/-- An output is old or of the kind `P`. -/
theorem Emits.mem (h : Emits P s s') {o : Out} (ho : o ∈ s'.out) : o ∈ s.out ∨ P o := by
  obtain ⟨outs, rfl, hP⟩ := h
  rcases List.mem_append.mp ho with ho | ho
  · exact Or.inl ho
  · exact Or.inr (hP o ho)

/-- Nothing that was handed out is taken back. -/
theorem Emits.old (h : Emits P s s') {o : Out} (ho : o ∈ s.out) : o ∈ s'.out := by
  obtain ⟨outs, rfl, -⟩ := h
  exact List.mem_append_left outs ho

end Emits

end MainState
