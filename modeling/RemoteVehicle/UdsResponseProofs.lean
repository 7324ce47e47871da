import RemoteVehicle.AnswerLog
import RemoteVehicle.UdsMainTrace
import RemoteVehicle.UdsTrace

/-!
# Every request gets exactly one response

The three servers return from many places, and on ACT a routine answers a second or two
after it was started, with other requests answered in between.  The account is a book
(`AnswerLog.Balanced`): it pairs every response with a request it answers, leaves no
request out, and holds what is still open.  Only ACT ever has an open request, the one
that started the running routine.

A response needs a way out.  Free transmit buffers are assumed on the two ECUs; MAIN
answers on its TCP connection, and a request that comes as a datagram while there is no
connection, or that finds the send buffer full, is served without an answer.
-/

namespace UdsResponse

open ActUdsDiag hiding word16
open Runs AnswerLog CanFrame ActState ActCan ActLoop BodyState BodyUds BodyCan BodySpec
open UdsFrame UdsAnswer UdsTunnel UdsTrace
open MainState MainTcp MainLoop MainSpec MainFrame UdsMainTrace

/-- The responses `resps` account for the requests `reqs` but for `k` of them. -/
def OneEach (reqs resps : List (List UInt8)) (k : Nat) : Prop :=
  ∃ b : Book (List UInt8) (List UInt8), Balanced IsAnswer b reqs resps ∧ b.opened.length = k

theorem OneEach.count {reqs resps : List (List UInt8)} {k : Nat} (h : OneEach reqs resps k) :
    resps.length + k = reqs.length := by
  obtain ⟨b, hb, rfl⟩ := h
  exact hb.count

/-! ## ACT -/

/-- The open requests of ACT: the one that started the running routine. -/
def OpenRoutine : UdsRoutineState → List (List UInt8) → Prop
  | .none, qs => qs = []
  | .motorTest, qs => ∃ q, qs = [q] ∧ routineOf 0xFF q = some routineMotorTest
  | .servoTest, qs => ∃ q, qs = [q] ∧ routineOf 0xFF q = some routineServoTest

/-- One if a routine is running. -/
def runningRoutines (u : UdsDiag) : Nat := if u.routineState = .none then 0 else 1

theorem openRoutine_length {u : UdsDiag} {qs : List (List UInt8)}
    (h : OpenRoutine u.routineState qs) : qs.length = runningRoutines u := by
  rw [runningRoutines]
  rcases hr : u.routineState with _ | _ | _
  · rw [hr] at h
    obtain rfl : qs = [] := h
    rfl
  · rw [hr] at h
    obtain ⟨q, rfl, -⟩ := h
    rfl
  · rw [hr] at h
    obtain ⟨q, rfl, -⟩ := h
    rfl

/-- The book of ACT. -/
def ActBooked (s : Act) (reqs : List (List UInt8)) : Prop :=
  ∃ b : Book (List UInt8) (List UInt8), Balanced IsAnswer b reqs (actResponses s) ∧
    OpenRoutine s.uds.routineState b.opened

/-- The buffers that ACT may send responses with are free. -/
def ActFree : ActEvent → Prop
  | .rxIsr _ => True
  | .call inp => inp.responseTxBusy = false ∧ inp.routineTxBusy = false

/-- So is that of BODY. -/
def BodyFree : BodyEvent → Prop
  | .rxIsr _ => True
  | .call inp _ => inp.udsTxBusy = false

instance (e : ActEvent) : Decidable (ActFree e) := by
  unfold ActFree
  split <;> infer_instance

instance (e : BodyEvent) : Decidable (BodyFree e) := by
  unfold BodyFree
  split <;> infer_instance

section Act

variable {s t : Act} {reqs : List (List UInt8)}

theorem ActBooked.same (h : ActBooked s reqs) (hst : SameDiag s t) : ActBooked t reqs := by
  obtain ⟨b, hb, hopen⟩ := h
  exact ⟨b, hst.responses ▸ hb, hst.routine ▸ hopen⟩

/-- What a request does besides its answer is nothing to the book. -/
theorem actServed_same (req : List UInt8) (s : Act) :
    actResponses (actServed req s) = actResponses s ∧
      (actServed req s).uds.routineState = s.uds.routineState := by
  rw [actServed]
  split
  · exact ⟨rfl, rfl⟩
  · split <;> exact ⟨rfl, rfl⟩

/-- **Serving a request** enters it in the book, answered or open. -/
theorem actBooked_serve (h : ActBooked s reqs) :
    ActBooked (udsDiagServeRequest false s) (reqs ++ actWaiting s.uds) := by
  rcases serveRequest_eq false s with ⟨hnone, hserve | hserve⟩ | ⟨req, hreq, hserve⟩
  · rw [hnone, List.append_nil, hserve]
    exact h
  · rw [hnone, List.append_nil, hserve]
    exact h.same (untouched_taken s).toSameDiag
  · obtain ⟨b, hb, hopen⟩ := h
    rw [hreq, hserve]
    rcases actServe_cases false req (actTaken s) with ⟨resp, hresp, hpos, hlen, heq⟩ | hstart
    · -- answered at once
      obtain ⟨hresponses, hroutine⟩ := actServed_same req (actTaken s)
      refine ⟨⟨b.closed ++ [(req, resp)], b.opened⟩, ?_, ?_⟩
      · rw [heq, actResponses_send hpos hlen, hresponses]
        exact balanced_reply hb hresp
      · rw [heq, (ActFrame.sendSingleFrame_keeps false _ _).uds.1, hroutine]
        exact hopen
    · -- a routine was started; no other one was open
      have hidle : s.uds.routineState = .none := hstart.idle
      rw [hidle] at hopen
      have hnil : b.opened = [] := hopen
      have htake := balanced_take hb req
      rcases hstart.routine with ⟨hrid, heq⟩ | ⟨hrid, heq⟩
      · rw [heq]
        refine ⟨⟨b.closed, b.opened ++ [req]⟩, htake, ?_⟩
        rw [hnil]
        exact ⟨req, rfl, hrid⟩
      · rw [heq]
        refine ⟨⟨b.closed, b.opened ++ [req]⟩, htake, ?_⟩
        rw [hnil]
        exact ⟨req, rfl, hrid⟩

/-- The result of a routine answers the request that started it. -/
theorem isAnswer_routine {q : List UInt8} {rid : Nat} {hi lo : UInt8}
    (h : routineOf 0xFF q = some rid) (hhi : hi = UInt8.ofNat (rid / 256))
    (hlo : lo = UInt8.ofNat rid) (result : UInt8) :
    IsAnswer q [sidRoutineControl + posRespOffset, 0x01, hi, lo, result] := by
  rw [routineOf] at h
  split at h
  · rename_i hq
    obtain ⟨-, hsid, hsub⟩ := hq
    have hword := Option.some.inj h
    obtain ⟨h2, h3⟩ := bytes_of_word hword
    have hone : q.getD 1 0 = 0x01 := by
      rw [← hsub]
      show q.getD 1 0 = q.getD 1 0 &&& (-1)
      rw [UInt8.and_neg_one]
    have hecho : echo q = [0x01, hi, lo] := by
      rw [echo_routine hsid, hone, h2, h3, hhi, hlo]
      rfl
    exact isAnswer_positive hsid hecho
  · cases h

/-- **The end of a routine** closes the open request. -/
theorem actBooked_result {q : List UInt8} {b : Book (List UInt8) (List UInt8)} {rid : Nat}
    {result : UInt8} (hb : Balanced IsAnswer b reqs (actResponses s)) (hsent : t.sent = s.sent)
    (hq : b.opened = [q]) (hrid : routineOf 0xFF q = some rid) :
    ActBooked (udsDiagEndRoutine (udsDiagSendRoutineResult false rid result t)) reqs := by
  have hanswer := isAnswer_routine hrid rfl rfl result
  have hresponses : actResponses t = actResponses s := by rw [actResponses, actResponses, hsent]
  refine ⟨⟨b.closed ++ [(q, [sidRoutineControl + posRespOffset, 0x01, UInt8.ofNat (rid / 256),
    UInt8.ofNat rid, result])], []⟩, ?_, rfl⟩
  show Balanced IsAnswer _ reqs (actResponses (udsDiagSendSingleFrame false _ t))
  rw [actResponses_send (by simp) (by simp), hresponses]
  exact balanced_complete hb hq hanswer

theorem actBooked_routine (h : ActBooked s reqs) :
    ActBooked (udsDiagUpdateRoutine1ms false s) reqs := by
  rw [udsDiagUpdateRoutine1ms]
  rcases hr : s.uds.routineState with _ | _ | _
  · exact h
  · obtain ⟨b, hb, hopen⟩ := h
    rw [hr] at hopen
    obtain ⟨q, hq, hrid⟩ := hopen
    simp only [udsDiagUpdateMotorRoutine1ms]
    split
    · -- its time is over: the result closes the request that opened it
      exact actBooked_result hb rfl hq hrid
    · refine ⟨b, hb, ?_⟩
      show OpenRoutine s.uds.routineState b.opened
      rw [hr]
      exact ⟨q, hq, hrid⟩
  · obtain ⟨b, hb, hopen⟩ := h
    rw [hr] at hopen
    obtain ⟨q, hq, hrid⟩ := hopen
    have hkeep : OpenRoutine s.uds.routineState b.opened := by
      rw [hr]
      exact ⟨q, hq, hrid⟩
    simp only [udsDiagUpdateServoRoutine1ms]
    split
    · exact ⟨b, hb, hkeep⟩
    · split
      · -- the last step is done: the result closes the request that opened it
        exact actBooked_result hb rfl hq hrid
      · exact ⟨b, hb, hkeep⟩

/-- **Step lemma.** -/
theorem actBooked_step {s : ActMachine} (hboot : BootedDiag s) (h : ActBooked s.act reqs)
    {e : ActEvent} (hfree : ActFree e) :
    ActBooked (actStep s e).act (reqs ++ actRequests s e) := by
  rcases act_step_cases hboot e with ⟨-, hnone, hsame⟩ | ⟨inp, rfl, -, hreqs, heq⟩
  · rw [hnone, List.append_nil]
    exact h.same hsame.toSameDiag
  · obtain ⟨hresponse, hroutine⟩ := hfree
    rw [hreqs, heq, udsDiagUpdate1ms, hresponse, hroutine]
    exact (actBooked_routine (actBooked_serve h)).same (sameDiag_monitor _)

theorem act_one_each (r : ActReset) {es : List ActEvent} (hfree : ∀ e ∈ es, ActFree e) :
    OneEach (trace actStep actRequests (actReset r) es) (actResponses (actRun r es).act)
      (runningRoutines (actRun r es).act.uds) := by
  have hsteps : AllSteps actStep (fun _ e => ActFree e) (actReset r) es :=
    allSteps_of_mem fun _ => hfree
  have hreset : ActBooked (actReset r).act [] := ⟨Book.empty, balanced_empty, rfl⟩
  obtain ⟨-, b, hb, hopen⟩ := trace_guarded (f := actRequests)
    (fun s reqs => BootedDiag s ∧ ActBooked s.act reqs)
    (fun s reqs e hs hok => ⟨bootedDiag_step hs.1 e, actBooked_step hs.1 hs.2 hok⟩)
    ⟨bootedDiag_reset r, hreset⟩ hsteps
  exact ⟨b, hb, openRoutine_length hopen⟩

end Act

/-! ## BODY -/

section Body

variable {s t : Body} {reqs : List (List UInt8)}

theorem OneEach.sameBody {k : Nat} (h : OneEach reqs (bodyResponses s) k)
    (hst : SameBodyDiag s t) : OneEach reqs (bodyResponses t) k := hst.responses ▸ h

/-- A request that is answered at once. -/
theorem OneEach.reply {resps : List (List UInt8)} {k : Nat} (h : OneEach reqs resps k)
    {req resp : List UInt8} (hresp : IsAnswer req resp) :
    OneEach (reqs ++ [req]) (resps ++ [resp]) k := by
  obtain ⟨b, hb, hopen⟩ := h
  exact ⟨⟨b.closed ++ [(req, resp)], b.opened⟩, balanced_reply hb hresp, hopen⟩

theorem oneEach_processUds {inp : BodyInputs} (hfree : inp.udsTxBusy = false)
    (h : OneEach reqs (bodyResponses s) 0) :
    OneEach (reqs ++ bodyWaiting s.can) (bodyResponses (processUdsRequestIfNeeded inp s)) 0 := by
  rcases processUds_eq inp s with ⟨hnone, hsame, -⟩ | ⟨req, hreq, heq⟩
  · rw [hnone, List.append_nil]
    exact h.sameBody hsame
  · obtain ⟨resp, hresp, hpos, hlen, hserve⟩ := bodyServe_eq inp req (bodyTaken s)
    rw [hreq, heq, hserve, hfree, bodyResponses_send hpos hlen]
    exact h.reply hresp

/-- **Step lemma.** -/
theorem oneEach_bodyStep (h : OneEach reqs (bodyResponses s) 0) {e : BodyEvent}
    (hfree : BodyFree e) :
    OneEach (reqs ++ bodyRequests s e) (bodyResponses (bodyStep s e)) 0 := by
  rcases body_step_cases s e with ⟨hnone, hsame⟩ | ⟨inp, rfl⟩
  · rw [hnone, List.append_nil]
    exact h.sameBody hsame
  · obtain ⟨hsent, -, -, hwaiting⟩ := bodyPrepared_kept inp s
    have hprepared : OneEach reqs (bodyResponses (bodyPrepared inp s)) 0 := by
      rw [bodyResponses, hsent]
      exact h
    have hserved := oneEach_processUds hfree hprepared
    rw [hwaiting] at hserved
    exact hserved.sameBody (sameBodyDiag_update inp s)

theorem body_one_each (init : BodyInputs) {es : List BodyEvent} (hfree : ∀ e ∈ es, BodyFree e) :
    OneEach (trace bodyStep bodyRequests (bodyReset init) es)
      (bodyResponses (run bodyStep (bodyReset init) es)) 0 := by
  have hsteps : AllSteps bodyStep (fun _ e => BodyFree e) (bodyReset init) es :=
    allSteps_of_mem fun _ => hfree
  have hreset : OneEach [] (bodyResponses (bodyReset init)) 0 := ⟨Book.empty, balanced_empty, rfl⟩
  exact trace_guarded (f := bodyRequests) (fun s reqs => OneEach reqs (bodyResponses s) 0)
    (fun s reqs e hs hok => oneEach_bodyStep hs hok) hreset hsteps

end Body

/-! ## MAIN -/

/-- A datagram comes while a connection is open. -/
def ConnectionOpen (s : Main) (e : MainEvent) : Prop :=
  match e.call with
  | .lwip (.udpRecv _ _ _ _) => s.tcp.activePcb ≠ none
  | _ => True

/-- A request finds a connection open that takes the response. -/
def WayOut (s : Main) (e : MainEvent) : Prop :=
  mainRequests s e ≠ [] → ConnectionOpen s e ∧ RoomToAnswer s e

section Gateway

variable {s : Main} {e : MainEvent}

/-- A request on a connection is a request while a connection is open. -/
theorem wayOut_open (hone : OneConnection s.tcp) (hopen : ConnectionOpen s e)
    (hreq : mainRequests s e ≠ []) : s.tcp.activePcb ≠ none := by
  rw [mainRequests_eq] at hreq
  obtain ⟨env, call⟩ := e
  cases call with
  | lwip c =>
      cases c with
      | udpRecv localPort p addr port => exact hopen
      | tcpRecv tpcb p rest =>
          -- a segment reaches the server on the registered connection only
          have hreg : tpcb ∈ s.tcp.registered := by
            by_contra hno
            exact hreq (if_neg fun h => hno h.1)
          rw [(oneConnection_mem hone).mp hreg]
          exact Option.some_ne_none tpcb
      | tcpAccept newpcb => exact absurd rfl hreq
      | tcpFin tpcb => exact absurd rfl hreq
      | tcpErr tpcb => exact absurd rfl hreq
  | canRead m => exact absurd rfl hreq
  | comTimeOut => exact absurd rfl hreq
  | comTxMainFunction => exact absurd rfl hreq
  | sdMainFunction => exact absurd rfl hreq
  | soAdMainFunction => exact absurd rfl hreq

/-- **Step lemma.** -/
theorem oneEach_mainStep {reqs resps : List (List UInt8)} (hone : OneConnection s.tcp)
    (h : OneEach reqs resps 0) (hway : WayOut s e) :
    OneEach (reqs ++ mainRequests s e) (resps ++ mainResponses s e) 0 := by
  have hfound : mainRequests s e ≠ [] → s.tcp.activePcb ≠ none ∧ RoomToAnswer s e :=
    fun hreq => ⟨wayOut_open hone (hway hreq).1 hreq, (hway hreq).2⟩
  rcases main_step_cases hfound with ⟨hnone, hquiet⟩ | ⟨req, resp, hreq, hresp, ha⟩
  · rw [hnone, hquiet, List.append_nil, List.append_nil]
    exact h
  · rw [hreq, hresp]
    exact h.reply ha

theorem main_one_each {es : List MainEvent} (hes : AllSteps mainStep WayOut mainReset es) :
    OneEach (trace mainStep mainRequests mainReset es)
      (trace mainStep mainResponses mainReset es) 0 := by
  have hreset : OneConnection mainReset.tcp ∧ OneEach [] [] 0 :=
    ⟨rfl, Book.empty, balanced_empty, rfl⟩
  exact (traces_guarded (f := mainRequests) (g := mainResponses)
    (fun s reqs resps => OneConnection s.tcp ∧ OneEach reqs resps 0)
    (fun s reqs resps e hs hok => ⟨oneConnection_step hs.1 e, oneEach_mainStep hs.1 hs.2 hok⟩)
    hreset hes).2

end Gateway

/-! ## The law -/

/-- **ONE RESPONSE FOR EVERY REQUEST.**  On ACT, BODY and MAIN the responses answer the
    requests that were served, each once and each rightly; on ACT one request is still
    open while a routine runs. -/
theorem one_response_each (r : ActReset) (init : BodyInputs) (es : List ActEvent)
    (bs : List BodyEvent) (ms : List MainEvent) (hact : ∀ e ∈ es, ActFree e)
    (hbody : ∀ e ∈ bs, BodyFree e) (hmain : AllSteps mainStep WayOut mainReset ms) :
    (OneEach (trace actStep actRequests (actReset r) es) (actResponses (actRun r es).act)
        (runningRoutines (actRun r es).act.uds) ∧
      (actResponses (actRun r es).act).length + runningRoutines (actRun r es).act.uds =
        (trace actStep actRequests (actReset r) es).length) ∧
    (OneEach (trace bodyStep bodyRequests (bodyReset init) bs)
        (bodyResponses (run bodyStep (bodyReset init) bs)) 0 ∧
      (bodyResponses (run bodyStep (bodyReset init) bs)).length =
        (trace bodyStep bodyRequests (bodyReset init) bs).length) ∧
    (OneEach (trace mainStep mainRequests mainReset ms)
        (trace mainStep mainResponses mainReset ms) 0 ∧
      (trace mainStep mainResponses mainReset ms).length =
        (trace mainStep mainRequests mainReset ms).length) := by
  have hA := act_one_each r hact
  have hB := body_one_each init hbody
  have hM := main_one_each hmain
  exact ⟨⟨hA, hA.count⟩, ⟨hB, hB.count⟩, ⟨hM, hM.count⟩⟩

/-! ## A request without a way out -/

/-- One response for every request of MAIN, in every run. -/
def MainAnswersEach : Prop :=
  ∀ ms : List MainEvent, OneEach (trace mainStep mainRequests mainReset ms)
    (trace mainStep mainResponses mainReset ms) 0

/-- A session request in a datagram, with no connection. -/
def datagramRequest : List MainEvent :=
  [⟨freeEnv 10, .lwip (.udpRecv 13400 sessionRequest ⟨192, 168, 10, 1⟩ 40000)⟩]

/-- The same request on a connection whose send buffer is full. -/
def congestedRequest : List MainEvent :=
  [⟨freeEnv 10, .lwip (.tcpAccept 1)⟩,
   ⟨{ freeEnv 20 with tcpSndbuf := fun _ => 0 }, .lwip (.tcpRecv 1 sessionRequest [])⟩]

/-- **The failing runs.**  The request is served and not answered. -/
theorem main_answers_each_fails :
    ¬ MainAnswersEach ∧
    trace mainStep mainRequests mainReset datagramRequest = [[0x10, 0x03]] ∧
    trace mainStep mainResponses mainReset datagramRequest = [] ∧
    trace mainStep mainRequests mainReset congestedRequest = [[0x10, 0x03]] ∧
    trace mainStep mainResponses mainReset congestedRequest = [] := by
  have hrequests : trace mainStep mainRequests mainReset datagramRequest = [[0x10, 0x03]] := by
    decide +kernel
  have hresponses : trace mainStep mainResponses mainReset datagramRequest = [] := by
    decide +kernel
  refine ⟨?_, hrequests, hresponses, by decide +kernel, by decide +kernel⟩
  intro h
  have hcount := (h datagramRequest).count
  rw [hrequests, hresponses] at hcount
  exact absurd hcount (by decide)

/-- The boot of ACT, a session request, and the request for the motor test. -/
def motorTestRequested : List ActEvent :=
  List.replicate 955 (.call restInputs) ++ [.rxIsr ActSpec.sessionFrame] ++
    List.replicate 16 (.call restInputs) ++ [.rxIsr ActSpec.motorTestFrame] ++
    List.replicate 16 (.call restInputs)

/-- A session request for BODY. -/
def bodySession : List BodyEvent :=
  [.rxIsr (fdMessage bodyCanUdsReqId 8 [0x02, 0x10, 0x03]), .call restBodyInputs .canUpdate1ms]

/-- The same request for MAIN on a connection. -/
def mainSession : List MainEvent :=
  [⟨freeEnv 10, .lwip (.tcpAccept 1)⟩, ⟨freeEnv 20, .lwip (.tcpRecv 1 sessionRequest [])⟩]

/-- Two requests on ACT, of which one is open; one on BODY and one on MAIN. -/
theorem one_response_each_session :
    (trace actStep actRequests (actReset restReset) motorTestRequested).length = 2 ∧
    (actResponses (actRun restReset motorTestRequested).act).length = 1 ∧
    (bodyResponses (run bodyStep (bodyReset restBodyInputs) bodySession)).length = 1 ∧
    (trace mainStep mainResponses mainReset mainSession).length = 1 := by
  have hway : AllSteps mainStep WayOut mainReset mainSession :=
    ⟨fun _ => ⟨trivial, by decide +kernel⟩, fun _ => ⟨trivial, by decide +kernel⟩, trivial⟩
  have hone := one_response_each restReset restBodyInputs motorTestRequested bodySession mainSession
    (by decide +kernel) (by decide +kernel) hway
  have hrequests :
      (trace actStep actRequests (actReset restReset) motorTestRequested).length = 2 := by
    decide +kernel
  have hrunning : runningRoutines (actRun restReset motorTestRequested).act.uds = 1 := by
    decide +kernel
  have hbody : (trace bodyStep bodyRequests (bodyReset restBodyInputs) bodySession).length = 1 := by
    decide +kernel
  have hmain : (trace mainStep mainRequests mainReset mainSession).length = 1 := by
    decide +kernel
  refine ⟨hrequests, ?_, hone.2.1.2.trans hbody, hone.2.2.2.trans hmain⟩
  have hcount := hone.1.2
  rw [hrequests, hrunning] at hcount
  omega

end UdsResponse
