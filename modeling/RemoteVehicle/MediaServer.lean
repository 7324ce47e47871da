import RemoteVehicle.MediaTcp
import RemoteVehicle.Runs

/-!
# MEDIA DoIP server — the sessions of `tcp_handler.py` side by side

`asyncio` runs one task at a time and changes to another one only where a task waits.  A
session waits for the bytes of a header or a payload and for a frame to be sent; between
these places nothing else happens, so what a session does from one to the next is one step.

Which task goes on is up to the event loop: a run is any list of `Event`s.  The alive checks
that a timer sends are left out, as in `MediaTcp`.
-/

namespace MediaServer

open KeyedTable MediaDoip MediaUds MediaTcp

/-! ## State -/

/-- What a session waits for. -/
inductive Awaiting where
  | header
  | payload (hdr : DoIPHeader)
  /-- A frame is sent; after it the loop starts again. -/
  | sent
  /-- The acknowledgement of a message is sent; after it the message is handled. -/
  | acknowledged (msg : DiagnosticMessage)
deriving DecidableEq

/-- A session with its connection: the bytes that it has not read, whether the client has
    hung up, and the frames that were written. -/
structure TcpTask where
  id : Nat
  session : Session
  awaiting : Awaiting
  unread : List UInt8
  hungUp : Bool
  written : List (List UInt8)
deriving DecidableEq

/-- `DoIPTCPServer` with the store and the status that all sessions share.  `sessions` are
    the entries of the dictionary, in the order of their insertion. -/
structure DoIPTCPServer where
  sessions : List TcpTask
  nextId : Nat
  dtcs : List DtcRow
  status : SystemStatus

/-- `DoIPTCPServer.__init__`. -/
def DoIPTCPServer.initial (status : SystemStatus) : DoIPTCPServer := ⟨[], 0, [], status⟩

/-- What a session sees of the server. -/
def DoIPTCPServer.gateway (server : DoIPTCPServer) (id : Nat) : Gateway where
  others := (remove TcpTask.id id server.sessions).map TcpTask.session
  dtcs := server.dtcs
  status := server.status

/-! ## Steps of a session -/

/-- `_send`: the frame is written, and the session waits until it has left. -/
def TcpTask.send (frame : List UInt8) (next : Awaiting) (task : TcpTask) : TcpTask :=
  { task with written := task.written ++ [frame], awaiting := next }

/-- `_dispatch`, up to the first place where it waits. -/
def dispatch (cfg : Config) (g : Gateway) (hdr : DoIPHeader) (payload : List UInt8)
    (task : TcpTask) : TcpTask :=
  let pt := hdr.payloadType
  if pt = PayloadType.routingActivationRequest then
    let (frame, session) := handleRoutingActivation cfg payload task.session g.others
    { task with session := session }.send frame .sent
  else if pt = PayloadType.aliveCheckResponse then { task with awaiting := .header }
  else if pt = PayloadType.diagnosticMessage then
    if task.session.activated = false then task.send (refuseDiagnostic payload) .sent
    else
      match handleDiagnostic payload task.session with
      | .error frame => task.send frame .sent
      | .ok (ack, msg) => task.send ack (.acknowledged msg)
  else if pt = PayloadType.entityStatusRequest then task.send (entityStatus cfg g) .sent
  else task.send (buildGenericNack GenericNackCode.unknownPayloadType) .sent

/-- `run` after the bytes of a header. -/
def receiveHeader (hdrBytes : List UInt8) (task : TcpTask) : Option TcpTask :=
  match parseFrame (hdrBytes ++ [0, 0, 0, 0]) with
  | .error _ => none
  | .ok (hdr, _) =>
      match hdr.isValid with
      | some nack => some (task.send (buildGenericNack nack) .sent)
      | none =>
          if maxPayloadSize < hdr.payloadLength.toNat then
            some (task.send (buildGenericNack GenericNackCode.messageTooLarge) .sent)
          else some { task with awaiting := .payload hdr }

/-- A session goes on: the session where it waits next, none when its loop is left, and
    what it leaves of the gateway.  A read that is not complete goes on waiting until the
    client hangs up. -/
def resume (cfg : Config) (g : Gateway) (task : TcpTask) : Option TcpTask × Gateway :=
  let whileOpen := if task.hungUp then none else some task
  match task.awaiting with
  | .header =>
      match readExactly doipHeaderLen task.unread with
      | none => (whileOpen, g)
      | some (hdrBytes, rest) => (receiveHeader hdrBytes { task with unread := rest }, g)
  | .payload hdr =>
      match readExactly hdr.payloadLength.toNat task.unread with
      | none => (whileOpen, g)
      | some (payload, rest) => (some (dispatch cfg g hdr payload { task with unread := rest }), g)
  | .sent => (some { task with awaiting := .header }, g)
  | .acknowledged msg =>
      let (frame, g) := answerDiagnostic msg g
      (some (task.send frame .sent), g)

/-! ## Steps of the server -/

inductive Event where
  /-- A client connects. -/
  | connect
  /-- Bytes of a client arrive. -/
  | deliver (id : Nat) (bytes : List UInt8)
  /-- A client hangs up. -/
  | hangUp (id : Nat)
  /-- A session goes on. -/
  | resume (id : Nat)
  /-- What a session waits for raises, or its task is cancelled. -/
  | fail (id : Nat)
  /-- An acknowledgement has been sent, and the handler of the message raises. -/
  | handlerFails (id : Nat)
  /-- The health monitor changes the store. -/
  | monitor (op : StoreOp)
  /-- The health monitor changes the status. -/
  | observe (status : SystemStatus)

/-- `_on_client`, up to the first read. -/
def onClient (cfg : Config) (server : DoIPTCPServer) : DoIPTCPServer :=
  if cfg.maxTcpSessions.toNat ≤ server.sessions.length then server
  else
    let task : TcpTask := ⟨server.nextId, Session.initial, .header, [], false, []⟩
    { server with
      sessions := insert TcpTask.id task server.sessions
      nextId := server.nextId + 1 }

/-- `_cleanup`. -/
def cleanup (id : Nat) (server : DoIPTCPServer) : DoIPTCPServer :=
  { server with sessions := remove TcpTask.id id server.sessions }

/-- The session `id` goes on, if there is one. -/
def resumeSession (cfg : Config) (id : Nat) (server : DoIPTCPServer) : DoIPTCPServer :=
  match select TcpTask.id id server.sessions with
  | none => server
  | some task =>
      let (next, g) := resume cfg (server.gateway id) task
      let server := { server with dtcs := g.dtcs }
      match next with
      | none => cleanup id server
      | some task =>
          { server with sessions := update TcpTask.id id (fun _ => task) server.sessions }

/-- The message that a session is about to handle. -/
def TcpTask.message (task : TcpTask) : Option DiagnosticMessage :=
  match task.awaiting with
  | .acknowledged msg => some msg
  | _ => none

/-- `LocalUDSServer.handle` of the session `id` raises. -/
def handlerFails (id : Nat) (server : DoIPTCPServer) : DoIPTCPServer :=
  match (select TcpTask.id id server.sessions).bind TcpTask.message with
  | none => server
  | some _ => cleanup id server

def serverStep (cfg : Config) (server : DoIPTCPServer) : Event → DoIPTCPServer
  | .connect => onClient cfg server
  | .deliver id bytes =>
      { server with
        sessions := update TcpTask.id id
          (fun task => { task with unread := task.unread ++ bytes }) server.sessions }
  | .hangUp id =>
      { server with
        sessions := update TcpTask.id id (fun task => { task with hungUp := true })
          server.sessions }
  | .resume id => resumeSession cfg id server
  | .fail id => cleanup id server
  | .handlerFails id => handlerFails id server
  | .monitor op => { server with dtcs := storeStep server.dtcs op }
  | .observe status => { server with status := status }

/-- The calls of `LocalUDSServer.handle`: the session and the message. -/
def udsCalls (server : DoIPTCPServer) : Event → List (TcpTask × DiagnosticMessage)
  | .resume id | .handlerFails id =>
      match select TcpTask.id id server.sessions with
      | none => []
      | some task => (task.message.map fun msg => (task, msg)).toList
  | _ => []

/-! ## One session among the others -/

/-- A message that was acknowledged is handled and answered. -/
def answered (cfg : Config) (g : Gateway) (task : TcpTask) : TcpTask :=
  match task.message with
  | none => task
  | some _ => (resume cfg g task).1.getD task

/-- **A session sends what `MediaTcp` says it does** for a frame, where the steps of the
    others are the interference. -/
theorem dispatch_eq_tcp (env : Nat → Interference) (c : Connection) (hdr : DoIPHeader)
    (payload : List UInt8) (task : TcpTask) (hsession : task.session = c.session) :
    let g := (env c.answered).before c.gateway
    let final := answered buildConfig ((env c.answered).acknowledging g)
      (dispatch buildConfig g hdr payload task)
    final.written = task.written ++ (MediaTcp.dispatch env hdr payload c).1 ∧
      final.session = (MediaTcp.dispatch env hdr payload c).2.session := by
  intro g final
  have hfinal : final = answered buildConfig ((env c.answered).acknowledging g)
    (dispatch buildConfig g hdr payload task) := rfl
  rw [hfinal, MediaTcp.dispatch, dispatch, hsession]
  dsimp only
  split
  · exact ⟨rfl, rfl⟩
  · split
    · exact ⟨(List.append_nil _).symm, rfl⟩
    · split
      · split
        · exact ⟨rfl, hsession⟩
        · cases handleDiagnostic payload c.session with
          | error frame => exact ⟨rfl, hsession⟩
          | ok acknowledged => exact ⟨List.append_assoc _ _ _, hsession⟩
      · split
        · exact ⟨rfl, hsession⟩
        · exact ⟨rfl, hsession⟩

end MediaServer
