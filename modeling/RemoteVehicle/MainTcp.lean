import RemoteVehicle.MainDoip

/-!
# MAIN sockets — `soad.c`, `tcp_txrx.c` and `udp_txrx.c`

The callbacks that lwIP calls, the port table they feed, and the deferred close.

lwIP itself is an environment: it calls `tcp_server_recv` and `tcp_server_error` for a
connection only while these are registered for it, and a connection whose accept function
returned an error keeps the default callbacks, which drop what arrives.  `Tcp.registered`
is that fact.
-/

namespace MainTcp

open MainState MainTransmit MainDcm MainCom MainRouting MainDoip

/-! ## Port table -/

/-- `PduR_RouteRx_Control`, `PduR_RouteRx_SomeIp`. -/
def pduRRouteRxControl : Handler := pduRRouteRx pdurUdpControlId
def pduRRouteRxSomeIp : Handler := pduRRouteRx pdurSomeipId

/-- `SoAd_RxPortTable`. -/
def soAdRxPortTable : List (Nat × Handler) :=
  [(5000, pduRRouteRxControl), (30492, pduRRouteRxSomeIp), (13400, doIPProcessRx)]

/-- `SoAd_RxIndication`. -/
def soAdRxIndication (port : Nat) : Handler := route soAdRxPortTable port

@[simp] theorem soAdRxIndication_control : soAdRxIndication 5000 = udpCtrProcessRx := rfl
@[simp] theorem soAdRxIndication_someip : soAdRxIndication 30492 = someIpProcessRx := rfl
@[simp] theorem soAdRxIndication_doip : soAdRxIndication 13400 = doIPProcessRx := rfl

/-- A port without an entry is ignored. -/
theorem soAdRxIndication_other {port : Nat} (hctr : port ≠ 5000) (hsomeip : port ≠ 30492)
    (hdoip : port ≠ 13400) (payload : Payload) (length : Nat) (s : Main) :
    soAdRxIndication port payload length s = s := by
  have hctr : (port == 5000) = false := beq_false_of_ne hctr
  have hsomeip : (port == 30492) = false := beq_false_of_ne hsomeip
  have hdoip : (port == 13400) = false := beq_false_of_ne hdoip
  simp [soAdRxIndication, route, soAdRxPortTable, List.lookup_cons, hctr, hsomeip, hdoip]

/-! ## UDP -/

/-- `CTR_PORT`, `SOMEIP_PORT`. -/
def ctrPort : Nat := 5000
def someipPort : Nat := 30492

/-- `udp_receive_recv`: note the sender, pass the first buffer on. -/
def udpReceiveRecv (localPort : Nat) (p : Pbuf) (addr : IpAddr) (port : Nat) (s : Main) : Main :=
  let pcip := if localPort = ctrPort ∨ localPort = someipPort then addr else s.udp.pcip
  let someipPort := if localPort = someipPort then port else s.udp.someipPort
  soAdRxIndication localPort p.payload p.len
    { s with udp := { pcip := pcip, someipPort := someipPort } }

/-! ## TCP -/

/-- `TCP_SERVER_PORT`, the local port of every connection. -/
def tcpServerPort : Nat := 13400

/-- A connection becomes the active one and gets its callbacks, unless there is one. -/
def Tcp.accept (newpcb : Pcb) (t : Tcp) : Tcp :=
  match t.activePcb with
  | some _ => t
  | none => { activePcb := some newpcb, registered := newpcb :: t.registered }

/-- A connection loses its callbacks and is no longer the active one. -/
def Tcp.close (tpcb : Option Pcb) (t : Tcp) : Tcp where
  activePcb := if t.activePcb = tpcb then none else t.activePcb
  registered := t.registered.filter fun pcb => some pcb != tpcb

/-- lwIP has freed a connection; there is no active one any more. -/
def Tcp.drop (tpcb : Pcb) (t : Tcp) : Tcp where
  activePcb := none
  registered := t.registered.filter fun pcb => pcb != tpcb

/-- `tcp_server_accept`: one connection at a time. -/
def tcpServerAccept (newpcb : Pcb) (s : Main) : Main :=
  { s with tcp := Tcp.accept newpcb s.tcp }

/-- `tcp_server_close`; closing a null pointer is refused by lwIP. -/
def tcpServerClose (tpcb : Option Pcb) (s : Main) : Main :=
  let s := s.emit (.tcpClose tpcb)
  { s with tcp := Tcp.close tpcb s.tcp }

/-- `tcp_server_recv` with a null buffer: the peer has closed. -/
def tcpServerRecvFin (tpcb : Pcb) (s : Main) : Main :=
  callbackDiagRoutingDeactivated (tcpServerClose (some tpcb) s)

/-- `tcp_server_recv` with data: a chain of buffers, of which the first is passed on. -/
def tcpServerRecvData (p : Pbuf) (_rest : List Pbuf) (s : Main) : Main :=
  soAdRxIndication tcpServerPort p.payload p.len s

/-- `tcp_server_error`. -/
def tcpServerError (tpcb : Pcb) (s : Main) : Main := { s with tcp := Tcp.drop tpcb s.tcp }

/-- `doip_server_close`. -/
def doipServerClose (s : Main) : Main := tcpServerClose s.tcp.activePcb s

/-! ## Deferred close -/

/-- A close was requested at least 50 ms ago. -/
def CloseDue (s : Main) : Prop :=
  s.soad.isClosePending = true ∧ 50 ≤ getSystemTimeMs s - s.soad.closeRequestTime

instance (s : Main) : Decidable (CloseDue s) := by unfold CloseDue; infer_instance

/-- `SoAd_MainFunction`. -/
def soAdMainFunction (s : Main) : Main :=
  if CloseDue s then
    let s := doipServerClose s
    { s with soad := { s.soad with isClosePending := false } }
  else s

/-! ## One connection -/

/-- The callbacks are registered for the active connection and for no other. -/
def OneConnection (t : Tcp) : Prop := t.registered = t.activePcb.toList

section OneConnection

variable {t : Tcp}

theorem oneConnection_mem (h : OneConnection t) {pcb : Pcb} :
    pcb ∈ t.registered ↔ t.activePcb = some pcb := by
  rw [h]
  rcases t.activePcb with _ | c
  · simp
  · simp [eq_comm]

/-- A second connection is not accepted. -/
theorem accept_some {pcb newpcb : Pcb} (h : t.activePcb = some pcb) :
    Tcp.accept newpcb t = t := by
  simp only [Tcp.accept, h]

/-- Closing or losing the active connection leaves none. -/
theorem close_active (h : OneConnection t) : Tcp.close t.activePcb t = ⟨none, []⟩ := by
  rw [Tcp.close, if_pos rfl, h]
  rcases t.activePcb with _ | c
  · rfl
  · simp

theorem drop_active (h : OneConnection t) {pcb : Pcb} (hp : t.activePcb = some pcb) :
    Tcp.drop pcb t = ⟨none, []⟩ := by
  rw [Tcp.drop, h, hp]
  simp

theorem oneConnection_accept (h : OneConnection t) (newpcb : Pcb) :
    OneConnection (Tcp.accept newpcb t) := by
  rcases ha : t.activePcb with _ | c
  · simp only [Tcp.accept, ha, OneConnection]
    rw [h, ha]
    rfl
  · rw [accept_some ha]
    exact h

end OneConnection

end MainTcp
