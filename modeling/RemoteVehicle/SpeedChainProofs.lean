import RemoteVehicle.SpeedReportProofs
import RemoteVehicle.PcBackend

/-!
# The speed on its way from ACT to the operator

ACT clamps the speed to 16 bits and splits it, MAIN keeps the two bytes and puts them into
its status datagram, the backend joins them.  `Chain` runs ACT and MAIN with the status
frames that ACT has handed to its driver in between; frames may be lost, delayed and
doubled.  `inv_step` is what one event preserves: every datagram so far shows the status
frame that MAIN has received last, and carries its own number.
-/

namespace SpeedChain

open Runs CanFrame ActState ActCan ActLoop MainState MainTransmit MainDcm MainCom MainRouting
open MainDoip MainTcp MainLoop MainSpec MainFrame UdsFrame UdsTunnel SpeedReport PcBackend

/-! ## What MAIN knows of the speed -/

/-- Neither the status received last nor the number of the next datagram changes. -/
structure StatusKept (s s' : Main) : Prop where
  stat : s'.com.rxCanStat = s.com.rxCanStat
  cnt : s'.com.statCnt = s.com.statCnt

section StatusKept

variable {s s' s'' : Main} {P : Out → Prop}

theorem StatusKept.trans (h : StatusKept s s') (h' : StatusKept s' s'') : StatusKept s s'' :=
  ⟨h'.stat.trans h.stat, h'.cnt.trans h.cnt⟩

theorem StatusKept.ofCom (h : s'.com = s.com) : StatusKept s s' := by
  constructor <;> rw [h]

/-- A callback of lwIP. -/
theorem statusKept_lwip (c : LwipCall) (s : Main) : StatusKept s (lwipCall c s) := by
  by_cases hctr : ∃ p addr port, c = .udpRecv 5000 p addr port
  · obtain ⟨p, addr, port, rfl⟩ := hctr
    exact ⟨rfl, rfl⟩
  · have hother : LwipOnly s (lwipCall c s) :=
      lwipOnly_lwip (fun p addr port hc => hctr ⟨p, addr, port, hc⟩) s
    obtain ⟨_, _, hcom⟩ := hother.com
    constructor
    · rw [hcom]
    · rw [hcom]

/-- Every CAN message but the status frame. -/
theorem statusKept_can {m : CanRx} (hid : m.messageId ≠ 0x200) (s : Main) :
    StatusKept s (canReadMessage m.messageId m.dataLengthCode m.messageData s) := by
  by_cases hbody : m.messageId = 0x310
  · rw [hbody]
    exact ⟨rfl, rfl⟩
  · exact StatusKept.ofCom (canReadMessage_other hid hbody s).com

theorem statusKept_timeOut (s : Main) : StatusKept s (comTimeOut s) := by
  have hpc : ∀ t s, StatusKept s (pcTimeOut t s) := by
    intro t s
    rw [pcTimeOut]
    split <;> exact ⟨rfl, rfl⟩
  have hact : ∀ t s, StatusKept s (actTimeOut t s) := by
    intro t s
    rw [actTimeOut]
    split <;> exact ⟨rfl, rfl⟩
  have hbody : ∀ t s, StatusKept s (bodyTimeOut t s) := by
    intro t s
    rw [bodyTimeOut]
    split <;> exact ⟨rfl, rfl⟩
  exact ((hpc _ s).trans (hact _ _)).trans (hbody _ _)

theorem statusKept_sd (s : Main) : StatusKept s (sdMainFunction s) := by
  simp only [sdMainFunction]
  split
  · simp only [sdSendOfferService]
    exact StatusKept.ofCom (udpSendWithPcb_emits _ _ _ _ _).com
  · exact ⟨rfl, rfl⟩

theorem statusKept_soAd (s : Main) : StatusKept s (soAdMainFunction s) := by
  rw [soAdMainFunction]
  split <;> exact ⟨rfl, rfl⟩

end StatusKept

/-! ## Status datagrams -/

/-- The bytes of a status datagram. -/
def statusBytes : Out → List (List UInt8)
  | .udp _ port data => if port = 5001 then [data] else []
  | _ => []

/-- The status datagrams that a call sends. -/
def statusDatagrams (s : Main) (e : MainEvent) : List (List UInt8) :=
  match e.call with
  | .comTxMainFunction => (mainStep s e).out.flatMap statusBytes
  | _ => []

theorem statusKept_20ms (currentTime : UInt32) (s : Main) :
    StatusKept s (comTx20ms currentTime s) := by
  rw [comTx20ms]
  split
  · have hcom := (comTxCtrBodyCan_emits (comTxCtrActCan s)).com.trans
      (comTxCtrActCan_emits s).com
    have hsend : StatusKept s (comTxCtrBodyCan (comTxCtrActCan s)) := StatusKept.ofCom hcom
    exact ⟨hsend.stat, hsend.cnt⟩
  · exact ⟨rfl, rfl⟩

/-- The command frames are no datagrams. -/
theorem statusBytes_commands (currentTime : UInt32) (s : Main) :
    (comTx20ms currentTime s).out.flatMap statusBytes = s.out.flatMap statusBytes := by
  rw [comTx20ms]
  split
  · obtain ⟨outs, hs, houts⟩ :=
      (comTxCtrActCan_emits s).trans
        ((comTxCtrBodyCan_emits (comTxCtrActCan s)).mono fun o ho => by
          rwa [relay_congr (comTxCtrActCan_emits s).com] at ho)
    have hnone : outs.flatMap statusBytes = [] := by
      rw [List.flatMap_eq_nil_iff]
      intro o ho
      rcases houts o ho with rfl | rfl <;> rfl
    show (comTxCtrBodyCan (comTxCtrActCan s)).out.flatMap statusBytes = _
    rw [hs]
    show (s.out ++ outs).flatMap statusBytes = _
    rw [List.flatMap_append, hnone, List.append_nil]
  · rfl

/-- `COM_Tx_Stat_UDP` sends one. -/
theorem comTxStatUdp_out (s : Main) :
    (comTxStatUdp s).out = s.out ++ [.udp s.udp.pcip 5001 (statUdpBytes s.com)] ∧
      (comTxStatUdp s).com = { s.com with statCnt := s.com.statCnt + 1 } := by
  simp only [comTxStatUdp, pduRRouteTx_stat]
  exact ⟨rfl, rfl⟩

/-- What a call does to the status: a datagram shows it and has the next number, and every
    other call leaves it alone. -/
inductive StatusEffect (s : Main) (e : MainEvent) : Prop where
  | kept (h : StatusKept s (mainStep s e)) (hno : statusDatagrams s e = [])
  | sent (hstat : (mainStep s e).com.rxCanStat = s.com.rxCanStat)
      (hcnt : (mainStep s e).com.statCnt = s.com.statCnt + 1)
      (hsent : statusDatagrams s e = [statUdpBytes s.com])

theorem statusEffect_tx (s : Main) (env : Env) :
    StatusEffect s ⟨env, .comTxMainFunction⟩ := by
  -- the 20 ms part comes first and leaves the status alone
  obtain ⟨t, ht, hstat, hcnt, hout⟩ : ∃ t : Main,
      mainStep s ⟨env, .comTxMainFunction⟩ = comTx50ms (UInt32.ofNat env.now) t ∧
      t.com.rxCanStat = s.com.rxCanStat ∧ t.com.statCnt = s.com.statCnt ∧
      t.out.flatMap statusBytes = [] := by
    have hkept := statusKept_20ms (UInt32.ofNat env.now) (Main.enter env s)
    exact ⟨_, rfl, hkept.stat, hkept.cnt, statusBytes_commands _ _⟩
  by_cases hdue : 50 ≤ UInt32.ofNat env.now - t.com.times.lastTime50ms
  · have hstep : mainStep s ⟨env, .comTxMainFunction⟩ =
        setLastTime50ms (UInt32.ofNat env.now) (comTxStatUdp t) := by
      rw [ht, comTx50ms, if_pos hdue]
    obtain ⟨hsent, hcom⟩ := comTxStatUdp_out t
    refine .sent ?_ ?_ ?_
    · rw [hstep]
      show (comTxStatUdp t).com.rxCanStat = _
      rw [hcom]
      exact hstat
    · rw [hstep]
      show (comTxStatUdp t).com.statCnt = _
      rw [hcom, ← hcnt]
    · show (mainStep s ⟨env, .comTxMainFunction⟩).out.flatMap statusBytes = _
      rw [hstep]
      show (comTxStatUdp t).out.flatMap statusBytes = _
      have hbytes : statUdpBytes t.com = statUdpBytes s.com := by
        rw [statUdpBytes, hstat, hcnt, statUdpBytes]
      rw [hsent, List.flatMap_append, hout, hbytes]
      rfl
  · have hstep : mainStep s ⟨env, .comTxMainFunction⟩ = t := by
      rw [ht, comTx50ms, if_neg hdue]
    refine .kept ⟨?_, ?_⟩ ?_
    · rw [hstep, hstat]
    · rw [hstep, hcnt]
    · show (mainStep s ⟨env, .comTxMainFunction⟩).out.flatMap statusBytes = _
      rw [hstep, hout]

/-- **Every call of MAIN but the reception of a status frame.** -/
theorem statusEffect_step (s : Main) {e : MainEvent}
    (h : ∀ m, e.call = .canRead m → m.messageId ≠ 0x200) : StatusEffect s e := by
  obtain ⟨env, call⟩ := e
  have henter : StatusKept s (Main.enter env s) := ⟨rfl, rfl⟩
  cases call with
  | lwip c => exact .kept (henter.trans (statusKept_lwip c _)) rfl
  | canRead m => exact .kept (henter.trans (statusKept_can (h m rfl) _)) rfl
  | comTimeOut => exact .kept (henter.trans (statusKept_timeOut _)) rfl
  | comTxMainFunction => exact statusEffect_tx s env
  | sdMainFunction => exact .kept (henter.trans (statusKept_sd _)) rfl
  | soAdMainFunction => exact .kept (henter.trans (statusKept_soAd _)) rfl

/-! ## The chain -/

/-- ACT, MAIN, and the status frames that have been sent with the value of each call; `last`
    is the value in the frame that MAIN has received last. -/
structure Chain where
  act : Act
  main : Main
  bus : List (Nat × CanMessage)
  last : Option Nat

inductive ChainEvent where
  /-- ACT calls `CanComm_SendActStatus`. -/
  | send (busy : Bool) (speedKmhX100 : Nat)
      (gearState steeringState steeringAngleDeg : UInt8)
  /-- MAIN reads one of the frames. -/
  | receive (env : Env) (i : Nat) (r : CanRx)
  /-- Another call of MAIN. -/
  | main (e : MainEvent)

def chainStep (c : Chain) : ChainEvent → Chain
  | .send busy speedKmhX100 gearState steeringState steeringAngleDeg =>
      let act := canCommSendActStatus busy speedKmhX100 gearState steeringState
        steeringAngleDeg c.act
      { c with
        act := act
        bus := c.bus ++ (act.sent.drop c.act.sent.length).map fun m => (speedKmhX100, m.2) }
  | .receive env i r =>
      { c with main := mainStep c.main ⟨env, .canRead r⟩, last := c.bus[i]?.map Prod.fst }
  | .main e => { c with main := mainStep c.main e }

/-- What is received has been sent, and status frames come from ACT only. -/
def OnBus (c : Chain) : ChainEvent → Prop
  | .send _ _ _ _ _ => True
  | .receive _ i r => ∃ sent, c.bus[i]? = some sent ∧ ReadFrom sent.2 r
  | .main e => ∀ m, e.call = .canRead m → m.messageId ≠ 0x200

/-- The status datagrams of an event, each with the value that MAIN has received last. -/
def shown (c : Chain) : ChainEvent → List (Option Nat × List UInt8)
  | .main e => (statusDatagrams c.main e).map fun data => (c.last, data)
  | _ => []

/-- ACT in any state, MAIN after reset, an empty bus. -/
def chainStart (act : Act) : Chain := ⟨act, mainReset, [], none⟩

/-! ## What a datagram shows -/

/-- The value that a status frame is sent with. -/
def Carries (sent : Nat × CanMessage) : Prop :=
  ∃ gearState steeringState steeringAngleDeg,
    sent.2 = statusFrame sent.1 gearState steeringState steeringAngleDeg

/-- The two bytes that MAIN holds. -/
def Holds (s : Main) (last : Option Nat) : Prop :=
  s.com.rxCanStat.speedl = UInt8.ofNat (min (last.getD 0) 65535) ∧
    s.com.rxCanStat.speedh = UInt8.ofNat (min (last.getD 0) 65535 / 256)

theorem holds_reset : Holds mainReset none := by
  constructor <;> decide

/-- A datagram in its place: its number, and what the backend reads out of it. -/
structure Shows (i : Nat) (d : Option Nat × List UInt8) : Prop where
  number : d.2.getD 0 0 = UInt8.ofNat i
  speed : speedOfDatagram d.2 = some ((min (d.1.getD 0) 65535 : ℚ) / 100)

/-- **Joining the two bytes gives the value that was split.** -/
theorem shows_datagram {s : Main} {last : Option Nat} {i : Nat} (h : Holds s last)
    (hcnt : s.com.statCnt = UInt8.ofNat i) : Shows i (last, statUdpBytes s.com) := by
  obtain ⟨hl, hh⟩ := h
  refine ⟨hcnt, ?_⟩
  have hle : min (last.getD 0) 65535 ≤ 65535 := Nat.min_le_right _ _
  have hor := Nat.shiftLeft_add_eq_or_of_lt (i := 8) (b := min (last.getD 0) 65535 % 256)
    (by omega) (min (last.getD 0) 65535 / 256)
  have hjoin : (UInt8.ofNat (min (last.getD 0) 65535)).toNat |||
      (UInt8.ofNat (min (last.getD 0) 65535 / 256)).toNat <<< 8 = min (last.getD 0) 65535 := by
    rw [UInt8.toNat_ofNat', UInt8.toNat_ofNat', Nat.or_comm]
    have hhigh : min (last.getD 0) 65535 / 256 % 2 ^ 8 = min (last.getD 0) 65535 / 256 :=
      Nat.mod_eq_of_lt (by omega)
    rw [hhigh, ← hor, Nat.shiftLeft_eq]
    omega
  show some (((s.com.rxCanStat.speedl.toNat ||| s.com.rxCanStat.speedh.toNat <<< 8 : Nat) : ℚ)
    / 100) = _
  rw [hl, hh, hjoin]
  push_cast
  rfl

/-- The state of the chain and the datagrams so far. -/
structure Inv (c : Chain) (ds : List (Option Nat × List UInt8)) : Prop where
  bus : ∀ sent ∈ c.bus, Carries sent
  holds : Holds c.main c.last
  cnt : c.main.com.statCnt = UInt8.ofNat ds.length
  shows : ∀ i d, ds[i]? = some d → Shows i d

/-- A call of `CanComm_SendActStatus` sends one frame or none. -/
theorem carries_send (c : Chain) (busy : Bool) (speedKmhX100 : Nat)
    (gearState steeringState steeringAngleDeg : UInt8) :
    ∀ sent ∈ (chainStep c (.send busy speedKmhX100 gearState steeringState
        steeringAngleDeg)).bus, sent ∈ c.bus ∨ Carries sent := by
  intro sent hsent
  rcases List.mem_append.mp hsent with hold | hnew
  · exact Or.inl hold
  · right
    obtain ⟨m, hm, rfl⟩ := List.mem_map.mp hnew
    cases busy with
    | true =>
        have hnone : (canCommSendActStatus true speedKmhX100 gearState steeringState
            steeringAngleDeg c.act).sent = c.act.sent := rfl
        rw [hnone, List.drop_length] at hm
        cases hm
    | false =>
        rw [sendActStatus_free, List.drop_left] at hm
        rw [List.mem_singleton.mp hm]
        exact ⟨_, _, _, rfl⟩

/-- MAIN keeps the two bytes of the frame it reads. -/
theorem holds_receive {sent : Nat × CanMessage} {r : CanRx} (h : Carries sent)
    (hr : ReadFrom sent.2 r) (s : Main) (env : Env) :
    Holds (mainStep s ⟨env, .canRead r⟩) (some sent.1) ∧
      (mainStep s ⟨env, .canRead r⟩).com.statCnt = s.com.statCnt := by
  obtain ⟨gearState, steeringState, steeringAngleDeg, hm⟩ := h
  have hid : r.messageId = 0x200 := by rw [hr.messageId, hm]; rfl
  have hlen : canGetLength sent.2.dataLengthCode = 5 := by rw [hm]; rfl
  have hstep : mainStep s ⟨env, .canRead r⟩ =
      canStatProcessRx r.messageData (canGetLength r.dataLengthCode) (Main.enter env s) := by
    show canReadMessage r.messageId r.dataLengthCode r.messageData _ = _
    rw [canReadMessage, hid]
    rfl
  have hbyte : ∀ i < 5, r.messageData i = (frameBytes (statusFrame sent.1 gearState
      steeringState steeringAngleDeg)).getD i 0 := by
    intro i hi
    rw [hr.data i (by omega), hm]
  rw [hstep]
  refine ⟨⟨?_, ?_⟩, rfl⟩
  · show r.messageData 0 = _
    rw [hbyte 0 (by omega), statusFrame, frameBytes_fdMessage _ _ _ (by omega)]
    rfl
  · show r.messageData 1 = _
    rw [hbyte 1 (by omega), statusFrame, frameBytes_fdMessage _ _ _ (by omega)]
    rfl

/-- **Step lemma.** -/
theorem inv_step {c : Chain} {ds : List (Option Nat × List UInt8)} (h : Inv c ds)
    {e : ChainEvent} (hok : OnBus c e) : Inv (chainStep c e) (ds ++ shown c e) := by
  cases e with
  | send busy speedKmhX100 gearState steeringState steeringAngleDeg =>
      show Inv _ (ds ++ [])
      rw [List.append_nil]
      refine ⟨?_, h.holds, h.cnt, h.shows⟩
      intro sent hsent
      exact (carries_send c busy speedKmhX100 gearState steeringState steeringAngleDeg sent
        hsent).elim (h.bus sent) id
  | receive env i r =>
      -- the speed of the frame just read is held, whichever of the bus it is
      obtain ⟨sent, hi, hr⟩ := hok
      obtain ⟨hholds, hcnt⟩ :=
        holds_receive (h.bus sent (List.mem_of_getElem? hi)) hr c.main env
      show Inv _ (ds ++ [])
      rw [List.append_nil]
      refine ⟨h.bus, ?_, hcnt.trans h.cnt, h.shows⟩
      show Holds _ (c.bus[i]?.map Prod.fst)
      rw [hi]
      exact hholds
  | main e =>
      cases statusEffect_step c.main hok with
      | kept hkept hno =>
          have hnone : shown c (.main e) = [] := by
            show (statusDatagrams c.main e).map _ = []
            rw [hno]
            rfl
          rw [hnone, List.append_nil]
          refine ⟨h.bus, ?_, hkept.cnt.trans h.cnt, h.shows⟩
          show Holds (mainStep c.main e) c.last
          rw [Holds, hkept.stat]
          exact h.holds
      | sent hstat hcnt hsent =>
          have hone : shown c (.main e) = [(c.last, statUdpBytes c.main.com)] := by
            show (statusDatagrams c.main e).map _ = _
            rw [hsent]
            rfl
          rw [hone]
          refine ⟨h.bus, ?_, ?_, ?_⟩
          · show Holds (mainStep c.main e) c.last
            rw [Holds, hstat]
            exact h.holds
          · show (mainStep c.main e).com.statCnt = _
            rw [hcnt, h.cnt, List.length_append, List.length_singleton, UInt8.ofNat_add]
            rfl
          · -- the new datagram shows the speed held; the older ones are unchanged
            intro i d hi
            rcases Nat.lt_trichotomy i ds.length with hlt | rfl | hgt
            · rw [List.getElem?_append_left hlt] at hi
              exact h.shows i d hi
            · rw [List.getElem?_append_right le_rfl, Nat.sub_self] at hi
              cases hi
              exact shows_datagram h.holds h.cnt
            · rw [List.getElem?_eq_none (by simp; omega)] at hi
              cases hi

/-- **The speed from end to end.**  In every run the backend reads `min x 65535 / 100` out of
    a status datagram, where `x` is the value in the status frame that MAIN has received
    last, and the counter byte advances by one. -/
theorem speed_end_to_end (act : Act) {es : List ChainEvent}
    (h : AllSteps chainStep OnBus (chainStart act) es) :
    (∀ d ∈ trace chainStep shown (chainStart act) es,
      speedOfDatagram d.2 = some ((min (d.1.getD 0) 65535 : ℚ) / 100)) ∧
    ∀ i d next, (trace chainStep shown (chainStart act) es)[i]? = some d →
      (trace chainStep shown (chainStart act) es)[i + 1]? = some next →
        next.2.getD 0 0 = d.2.getD 0 0 + 1 := by
  have hstart : Inv (chainStart act) [] :=
    ⟨fun _ hsent => (by cases hsent), holds_reset, rfl, fun _ _ hi => (by simp at hi)⟩
  obtain ⟨-, -, -, hshows⟩ := trace_guarded Inv (fun _ _ _ hinv hok => inv_step hinv hok) hstart h
  constructor
  · intro d hd
    obtain ⟨i, hi⟩ := List.mem_iff_getElem?.mp hd
    exact (hshows i d hi).speed
  · intro i d next hd hnext
    rw [(hshows i d hd).number, (hshows (i + 1) next hnext).number, UInt8.ofNat_add]
    rfl

/-- ACT sends 3 km/h, MAIN reads the frame and sends its status. -/
def sampleRun : List ChainEvent :=
  [.send false 300 3 1 90,
   .receive (freeEnv 40) 0 ⟨0x200, 5, ofList [0x2C, 0x01, 3, 1, 90]⟩,
   .main ⟨freeEnv 50, .comTxMainFunction⟩]

theorem speed_end_to_end_sample :
    trace chainStep shown (chainStart (actReset restReset).act) sampleRun =
        [(some 300, [0, 0x2C, 0x01])] ∧
      ∀ d ∈ trace chainStep shown (chainStart (actReset restReset).act) sampleRun,
        speedOfDatagram d.2 = some ((min (d.1.getD 0) 65535 : ℚ) / 100) := by
  refine ⟨rfl, (speed_end_to_end (actReset restReset).act ?_).1⟩
  have hread : ReadFrom (statusFrame 300 3 1 90) ⟨0x200, 5, ofList [0x2C, 0x01, 3, 1, 90]⟩ :=
    ⟨rfl, rfl, by decide⟩
  refine ⟨trivial, ⟨_, rfl, hread⟩, ?_, trivial⟩
  intro m hm
  cases hm

end SpeedChain
