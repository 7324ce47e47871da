import RemoteVehicle.MainTcp
import RemoteVehicle.Runs

/-!
# MAIN main loop — `Cpu0_Main.c`

A pass of the loop polls lwIP, reads the CAN FIFOs and calls `COM_TimeOut`,
`COM_Tx_MainFunction`, `Sd_MainFunction` and `SoAd_MainFunction`, in this order.  Polling
lwIP and the FIFOs runs any number of callbacks.  `MainCall` lists the callbacks and the
four functions; `mainStep` makes one call, each with its own reading of the clock.

Results that do not need the order of the loop are about any list of calls;
`Pass.events` is the list of one pass.
-/

namespace MainLoop

open Runs MainState MainTransmit MainDcm MainCom MainRouting MainDoip MainTcp

/-! ## Service discovery — `sd.c` -/

/-- The offer, the session in bytes 10 and 11. -/
def sdOffer (sessionId : UInt16) : List UInt8 :=
  -- SOME/IP header
  [0xFF, 0xFF, 0x81, 0x00, 0, 0, 0, 48, 0x00, 0x00, highByte sessionId, lowByte sessionId,
   0x01, 0x01, 0x02, 0x00] ++
  -- flags and entries array
  [0x00, 0x00, 0x00, 0x00, 0, 0, 0, 16, 0x01, 0x00, 0x00, 0x10, 0x20, 0x01, 0x00, 0x01,
   0x01, 0, 0, 10, 0, 0, 0, 1] ++
  -- options array
  [0, 0, 0, 12, 0, 9, 0x04, 0x00, 192, 168, 10, 2, 0x00, 0x11, 0x77, 0x1C]

/-- `Sd_SendOfferService`. -/
def sdSendOfferService (s : Main) : Main :=
  let buffer := sdOffer s.sd.sessionId
  let s := { s with sd := { s.sd with sessionId := s.sd.sessionId + 1 } }
  udpSendWithPcb ⟨224, 224, 224, 245⟩ 30490 (ofList buffer) buffer.length s

/-- `Sd_MainFunction`. -/
def sdMainFunction (s : Main) : Main :=
  let now := getSystemTimeMs s
  if 1000 ≤ now - s.sd.lastOfferTime then
    sdSendOfferService { s with sd := { s.sd with lastOfferTime := now } }
  else s

/-! ## Calls -/

/-- What lwIP calls. -/
inductive LwipCall where
  /-- `udp_receive_recv`. -/
  | udpRecv (localPort : Nat) (p : Pbuf) (addr : IpAddr) (port : Nat)
  /-- `tcp_server_accept`. -/
  | tcpAccept (newpcb : Pcb)
  /-- Data on a connection. -/
  | tcpRecv (tpcb : Pcb) (p : Pbuf) (rest : List Pbuf)
  /-- The peer closes a connection. -/
  | tcpFin (tpcb : Pcb)
  /-- A connection is reset or aborted. -/
  | tcpErr (tpcb : Pcb)

/-- A message in a CAN receive FIFO. -/
structure CanRx where
  messageId : Nat
  dataLengthCode : Nat
  messageData : Payload

/-- A callback, or a function of the main loop. -/
inductive MainCall where
  | lwip (c : LwipCall)
  | canRead (m : CanRx)
  | comTimeOut
  | comTxMainFunction
  | sdMainFunction
  | soAdMainFunction

/-- A call, and what it finds. -/
structure MainEvent where
  env : Env
  call : MainCall

/-- lwIP calls the callbacks that are registered for the connection. -/
def lwipCall : LwipCall → Main → Main
  | .udpRecv localPort p addr port, s => udpReceiveRecv localPort p addr port s
  | .tcpAccept newpcb, s => tcpServerAccept newpcb s
  | .tcpRecv tpcb p rest, s => if tpcb ∈ s.tcp.registered then tcpServerRecvData p rest s else s
  | .tcpFin tpcb, s => if tpcb ∈ s.tcp.registered then tcpServerRecvFin tpcb s else s
  | .tcpErr tpcb, s => if tpcb ∈ s.tcp.registered then tcpServerError tpcb s else s

/-- The effect of a call. -/
def mainCall : MainCall → Main → Main
  | .lwip c, s => lwipCall c s
  | .canRead m, s => canReadMessage m.messageId m.dataLengthCode m.messageData s
  | .comTimeOut, s => comTimeOut s
  | .comTxMainFunction, s => comTxMainFunction s
  | .sdMainFunction, s => sdMainFunction s
  | .soAdMainFunction, s => soAdMainFunction s

/-- A fresh reading of the environment and an empty output list. -/
def Main.enter (env : Env) (s : Main) : Main := { s with env := env, out := [] }

@[simp] theorem enter_com (env : Env) (s : Main) : (Main.enter env s).com = s.com := rfl
@[simp] theorem enter_dcm (env : Env) (s : Main) : (Main.enter env s).dcm = s.dcm := rfl
@[simp] theorem enter_soad (env : Env) (s : Main) : (Main.enter env s).soad = s.soad := rfl
@[simp] theorem enter_tcp (env : Env) (s : Main) : (Main.enter env s).tcp = s.tcp := rfl
@[simp] theorem enter_env (env : Env) (s : Main) : (Main.enter env s).env = env := rfl
@[simp] theorem enter_out (env : Env) (s : Main) : (Main.enter env s).out = [] := rfl

/-- One call; afterwards `out` is what this call has handed out. -/
def mainStep (s : Main) (e : MainEvent) : Main := mainCall e.call (Main.enter e.env s)

/-! ## Runs -/

/-- The static initialisers. -/
def mainReset : Main where
  com := { rxUdpCtr := ⟨0, 0, 0, 0, 0, 0, 0, 0⟩, rxCanStat := ⟨0, 0, 0, 0, 0⟩,
           bodyAliveCnt := 0, collisionWarn := 1, curMode := modeDefault,
           safetyOverride := 0, statCnt := 0, times := ⟨0, 0, 0, 0, 0⟩ }
  dcm := { currentDiagSession := 0x01, pc := Dtc.clear, act := Dtc.clear, body := Dtc.clear }
  soad := { isClosePending := false, closeRequestTime := 0 }
  tcp := { activePcb := none, registered := [] }
  udp := { pcip := ⟨0, 0, 0, 0⟩, someipPort := 0 }
  sd := { sessionId := 1, lastOfferTime := 0 }
  env := { now := 0, canBusy := fun _ => false, tcpSndbuf := fun _ => 1072,
           tcpWriteFails := fun _ => false }
  out := []

/-- The state after a list of calls. -/
def mainRun (es : List MainEvent) : Main := run mainStep mainReset es

/-- A pass of the loop: the callbacks of lwIP, the messages in the FIFOs, and what the
    four functions find. -/
structure Pass where
  lwip : List (Env × LwipCall)
  can : List (Env × CanRx)
  timeOut : Env
  tx : Env
  sd : Env
  soad : Env

/-- The calls before `COM_TimeOut`. -/
def Pass.receive (p : Pass) : List MainEvent :=
  p.lwip.map (fun q => ⟨q.1, .lwip q.2⟩) ++ p.can.map fun q => ⟨q.1, .canRead q.2⟩

/-- The calls of a pass. -/
def Pass.events (p : Pass) : List MainEvent :=
  p.receive ++ [⟨p.timeOut, .comTimeOut⟩, ⟨p.tx, .comTxMainFunction⟩,
    ⟨p.sd, .sdMainFunction⟩, ⟨p.soad, .soAdMainFunction⟩]

end MainLoop
