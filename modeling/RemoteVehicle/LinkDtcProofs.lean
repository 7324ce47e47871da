import RemoteVehicle.TroubleCodeProofs
import RemoteVehicle.UdsMainTrace
import RemoteVehicle.RemoteLossProofs

/-!
# The communication codes of MAIN equal their history

MAIN watches three links, and each has a time stamp in `com.c` and a trouble code in
`dcm.c`.  A reception restarts the stamp and clears TEST_FAILED; a `COM_TimeOut` that finds
the stamp 500 ms old counts a loss and restarts the stamp too.

Both halves follow their history separately.  `stamps_step` says when a stamp is
written, so it is the stamp of the last reception or loss (`stamped_run`); `dtc_step` says
that one call does to a code what `linkOps` says, so the code is the record of the checks
and clears so far.
-/

namespace LinkDtc

open Runs TickClock CanFrame MainState MainTransmit MainDcm MainCom MainRouting MainDoip
open MainTcp MainLoop MainSpec MainFrame UdsAnswer UdsMainTrace FailHistory
open RemoteLoss (time)
open TroubleCode (recordOf status_bits)

/-! ## Links -/

/-- The partners of MAIN. -/
inductive Link where
  | act
  | body
  | pc
deriving DecidableEq, Repr

def Link.dtc : Link → Dcm → Dtc
  | .act, d => d.act
  | .body, d => d.body
  | .pc, d => d.pc

def Link.lastRxTime : Link → ComTimes → UInt32
  | .act, t => t.lastActRxTime
  | .body, t => t.lastBodyRxTime
  | .pc, t => t.lastUdpRxTime

def Link.timeoutThresholdMs : Link → UInt32
  | .act => actTimeoutThresholdMs
  | .body => bodyTimeoutThresholdMs
  | .pc => udpTimeoutThresholdMs

/-- A status frame, a heartbeat or a control packet arrives. -/
def received (link : Link) (e : MainEvent) : Bool :=
  match link, e.call with
  | .act, .canRead m => m.messageId == 0x200
  | .body, .canRead m => m.messageId == 0x310
  | .pc, .lwip (.udpRecv localPort _ _ _) => localPort == 5000
  | _, _ => false

/-- The link is checked in this state: the PC link in remote mode only. -/
def Link.Watched (link : Link) (s : Main) : Prop := link = .pc → s.com.curMode = modeRemote

instance (link : Link) (s : Main) : Decidable (link.Watched s) := by
  unfold Link.Watched; infer_instance

/-- `COM_TimeOut` counts a loss of the link: the branch of the source. -/
def Link.Fires (link : Link) (now : UInt32) (s : Main) : Prop :=
  link.Watched s ∧ link.timeoutThresholdMs ≤ now - link.lastRxTime s.com.times

instance (link : Link) (now : UInt32) (s : Main) : Decidable (link.Fires now s) := by
  unfold Link.Fires; infer_instance

/-- A call records a loss of the link. -/
def recordsLoss (link : Link) (s : Main) (e : MainEvent) : Bool :=
  match e.call with
  | .comTimeOut => decide (link.Fires (stamp (time e)) s)
  | _ => false

/-- What a call is for the trouble code of the link. -/
def linkOps (link : Link) (s : Main) (e : MainEvent) : List Op :=
  (if received link e then [.check false] else []) ++
    (if recordsLoss link s e then [.check true] else []) ++
      ((mainRequests s e).filter fun req => decide (ClearsDtc req)).map fun _ => .clear

/-- The times of receptions and recorded losses. -/
def linkTimes (link : Link) (s : Main) (e : MainEvent) : List Nat :=
  if received link e || recordsLoss link s e then [time e] else []

/-- The latest of boot, the last reception and the last recorded loss. -/
def since (link : Link) (past : List MainEvent) : Nat :=
  (trace mainStep (linkTimes link) mainReset past).getLastD 0

/-! ## Time stamps -/

/-- Neither the stamps of the links nor the clock reading change. -/
structure Kept (s s' : Main) : Prop where
  times : ∀ link : Link, link.lastRxTime s'.com.times = link.lastRxTime s.com.times
  env : s'.env = s.env

section Kept

variable {s s' s'' : Main} {P : Out → Prop}

theorem Kept.ofStill (h : Still P s s') : Kept s s' := by
  refine ⟨fun link => ?_, h.env⟩
  rw [h.com]

theorem Kept.ofEmits (h : Emits P s s') : Kept s s' := Kept.ofStill (Still.ofEmits h)

/-- Most assignments touch neither. -/
theorem Kept.ofTimes (h : s'.com.times = s.com.times) (henv : s'.env = s.env) : Kept s s' := by
  refine ⟨fun link => ?_, henv⟩
  rw [h]

/-- Nor does a callback of lwIP. -/
theorem Kept.ofLwip (h : LwipOnly s s') : Kept s s' := by
  obtain ⟨_, _, hcom⟩ := h.com
  refine Kept.ofTimes ?_ h.env
  rw [hcom]

/-- The stamps of transmission are none of the links'. -/
theorem Kept.ofTransmits (h : Transmits P s s') : Kept s s' := by
  refine ⟨fun link => ?_, h.env⟩
  obtain ⟨_, _, _, hcom⟩ := h.com
  rw [hcom]
  cases link <;> rfl

end Kept

/-! ## One call -/

section Step

variable {link : Link} {s : Main} {env : Env}

/-- What a call writes. -/
structure Stamps (link : Link) (s : Main) (e : MainEvent) : Prop where
  time : link.lastRxTime (mainStep s e).com.times =
    if received link e || recordsLoss link s e then stamp (time e)
    else link.lastRxTime s.com.times
  env : (mainStep s e).env = e.env

/-- A call that is neither a reception nor a `COM_TimeOut`. -/
theorem stamps_of_kept {e : MainEvent} (h : Kept (Main.enter e.env s) (mainStep s e))
    (hreceived : received link e = false) (hloss : recordsLoss link s e = false) :
    Stamps link s e := by
  refine ⟨?_, h.env⟩
  rw [h.times, hreceived, hloss]
  rfl

/-- A control datagram. -/
theorem stamps_control (p : Pbuf) (addr : IpAddr) (port : Nat) :
    Stamps link s ⟨env, .lwip (.udpRecv 5000 p addr port)⟩ := by
  cases link with
  | act => exact ⟨rfl, rfl⟩
  | body => exact ⟨rfl, rfl⟩
  | pc => exact ⟨rfl, rfl⟩

theorem stamps_lwip (c : LwipCall) : Stamps link s ⟨env, .lwip c⟩ := by
  by_cases hctr : ∃ p addr port, c = .udpRecv 5000 p addr port
  · obtain ⟨p, addr, port, rfl⟩ := hctr
    exact stamps_control p addr port
  · have hother : ∀ p addr port, c ≠ .udpRecv 5000 p addr port :=
      fun p addr port hc => hctr ⟨p, addr, port, hc⟩
    have hreceived : received link ⟨env, .lwip c⟩ = false := by
      cases link with
      | act => rfl
      | body => rfl
      | pc =>
          cases c with
          | udpRecv localPort p addr port =>
              apply beq_false_of_ne
              rintro rfl
              exact hother p addr port rfl
          | _ => rfl
    exact stamps_of_kept (Kept.ofLwip (lwipOnly_lwip hother (Main.enter env s))) hreceived rfl

/-- The stamps after a CAN message: the status frame and the heartbeat have their own. -/
theorem stamps_can (m : CanRx) : Stamps link s ⟨env, .canRead m⟩ := by
  obtain ⟨messageId, dataLengthCode, messageData⟩ := m
  by_cases hstat : messageId = 0x200
  · subst hstat
    cases link with
    | act => exact ⟨rfl, rfl⟩
    | body => exact ⟨rfl, rfl⟩
    | pc => exact ⟨rfl, rfl⟩
  by_cases hbody : messageId = 0x310
  · subst hbody
    cases link with
    | act => exact ⟨rfl, rfl⟩
    | body => exact ⟨rfl, rfl⟩
    | pc => exact ⟨rfl, rfl⟩
  have hreceived :
      received link ⟨env, .canRead ⟨messageId, dataLengthCode, messageData⟩⟩ = false := by
    cases link with
    | act => exact beq_false_of_ne hstat
    | body => exact beq_false_of_ne hbody
    | pc => rfl
  have hother := canReadMessage_other (m := ⟨messageId, dataLengthCode, messageData⟩) hstat hbody
    (Main.enter env s)
  exact stamps_of_kept (Kept.ofEmits hother) hreceived rfl

end Step

/-! ## `COM_TimeOut` -/

/-- One of the three checks: it acts on its own link only. -/
structure Checked (own : Link) (now : UInt32) (s s' : Main) : Prop where
  dtc : ∀ link : Link, link.dtc s'.dcm =
    if link = own ∧ own.Fires now s then Dtc.commloss (link.dtc s.dcm) else link.dtc s.dcm
  time : ∀ link : Link, link.lastRxTime s'.com.times =
    if link = own ∧ own.Fires now s then now else link.lastRxTime s.com.times
  mode : s'.com.curMode = s.com.curMode
  env : s'.env = s.env

section TimeOut

variable {own link : Link} {now : UInt32} {s s' : Main}

/-- The test is that of the source, and the branch does this to the fields. -/
theorem checked_of_eq {t : Main} (h : s' = if own.Fires now s then t else s)
    (hdtc : ∀ link : Link, link.dtc t.dcm =
      if link = own then Dtc.commloss (link.dtc s.dcm) else link.dtc s.dcm)
    (htime : ∀ link : Link, link.lastRxTime t.com.times =
      if link = own then now else link.lastRxTime s.com.times)
    (hmode : t.com.curMode = s.com.curMode) (henv : t.env = s.env) : Checked own now s s' := by
  subst h
  by_cases hfires : own.Fires now s
  · rw [if_pos hfires]
    refine ⟨?_, ?_, hmode, henv⟩
    · intro link
      simp only [hfires, and_true]
      exact hdtc link
    · intro link
      simp only [hfires, and_true]
      exact htime link
  · rw [if_neg hfires]
    refine ⟨?_, ?_, rfl, rfl⟩
    · intro link
      rw [if_neg fun h => hfires h.2]
    · intro link
      rw [if_neg fun h => hfires h.2]

theorem checked_pc (now : UInt32) (s : Main) : Checked .pc now s (pcTimeOut now s) := by
  refine checked_of_eq
    (t := setLastUdpRxTime now (dcmCallbackPcCommloss (callbackComPcTimeout s))) ?_ ?_ ?_ rfl rfl
  · have hfires : Link.pc.Fires now s ↔ s.com.curMode = modeRemote ∧
        udpTimeoutThresholdMs ≤ now - s.com.times.lastUdpRxTime :=
      and_congr_left fun _ => ⟨fun h => h rfl, fun h _ => h⟩
    simp only [hfires]
    rfl
  · intro link
    cases link <;> rfl
  · intro link
    cases link <;> rfl

/-- The CAN links are watched in every mode. -/
theorem fires_of_ne (h : link ≠ .pc) :
    link.Fires now s ↔ link.timeoutThresholdMs ≤ now - link.lastRxTime s.com.times :=
  and_iff_right fun hpc => absurd hpc h

theorem checked_act (now : UInt32) (s : Main) : Checked .act now s (actTimeOut now s) := by
  refine checked_of_eq (t := setLastActRxTime now (dcmCallbackActCommloss s)) ?_ ?_ ?_ rfl rfl
  · simp only [fires_of_ne (show Link.act ≠ .pc by decide)]
    rfl
  · intro link
    cases link <;> rfl
  · intro link
    cases link <;> rfl

theorem checked_body (now : UInt32) (s : Main) : Checked .body now s (bodyTimeOut now s) := by
  refine checked_of_eq (t := setLastBodyRxTime now (dcmCallbackBodyCommloss s)) ?_ ?_ ?_ rfl rfl
  · simp only [fires_of_ne (show Link.body ≠ .pc by decide)]
    rfl
  · intro link
    cases link <;> rfl
  · intro link
    cases link <;> rfl

theorem Checked.other (h : Checked own now s s') (hne : link ≠ own) :
    link.dtc s'.dcm = link.dtc s.dcm ∧
      link.lastRxTime s'.com.times = link.lastRxTime s.com.times ∧
      (link.Fires now s' ↔ link.Fires now s) := by
  have htime : link.lastRxTime s'.com.times = link.lastRxTime s.com.times := by
    rw [h.time, if_neg fun hh => hne hh.1]
  refine ⟨?_, htime, ?_⟩
  · rw [h.dtc, if_neg fun hh => hne hh.1]
  · rw [Link.Fires, Link.Fires, Link.Watched, Link.Watched, htime, h.mode]

theorem Checked.mine (h : Checked link now s s') :
    link.dtc s'.dcm = (if link.Fires now s then Dtc.commloss (link.dtc s.dcm)
      else link.dtc s.dcm) ∧
      link.lastRxTime s'.com.times =
        if link.Fires now s then now else link.lastRxTime s.com.times := by
  constructor
  · rw [h.dtc]
    simp only [true_and]
  · rw [h.time]
    simp only [true_and]

/-- **`COM_TimeOut`** records a loss of each link whose test fires. -/
theorem comTimeOut_link (link : Link) (s : Main) :
    link.dtc (comTimeOut s).dcm =
        (if link.Fires (getSystemTimeMs s) s then Dtc.commloss (link.dtc s.dcm)
          else link.dtc s.dcm) ∧
      link.lastRxTime (comTimeOut s).com.times =
        (if link.Fires (getSystemTimeMs s) s then getSystemTimeMs s
          else link.lastRxTime s.com.times) ∧
      (comTimeOut s).env = s.env := by
  rw [comTimeOut]
  generalize getSystemTimeMs s = now
  have hpc := checked_pc now s
  have hact := checked_act now (pcTimeOut now s)
  have hbody := checked_body now (actTimeOut now (pcTimeOut now s))
  have henv := hbody.env.trans (hact.env.trans hpc.env)
  -- each link passes two checks that are not its own
  cases link with
  | act =>
      obtain ⟨hdtc, htime, hfires⟩ := hpc.other (show Link.act ≠ .pc by decide)
      obtain ⟨hdtc', htime', -⟩ := hbody.other (show Link.act ≠ .body by decide)
      obtain ⟨hown, hstamp⟩ := hact.mine
      refine ⟨?_, ?_, henv⟩
      · rw [hdtc', hown, hdtc]
        simp only [hfires]
      · rw [htime', hstamp, htime]
        simp only [hfires]
  | body =>
      obtain ⟨hdtc, htime, hfires⟩ := hpc.other (show Link.body ≠ .pc by decide)
      obtain ⟨hdtc', htime', hfires'⟩ := hact.other (show Link.body ≠ .act by decide)
      obtain ⟨hown, hstamp⟩ := hbody.mine
      refine ⟨?_, ?_, henv⟩
      · rw [hown, hdtc', hdtc]
        simp only [hfires', hfires]
      · rw [hstamp, htime', htime]
        simp only [hfires', hfires]
  | pc =>
      obtain ⟨hdtc, htime, -⟩ := hact.other (show Link.pc ≠ .act by decide)
      obtain ⟨hdtc', htime', -⟩ := hbody.other (show Link.pc ≠ .body by decide)
      obtain ⟨hown, hstamp⟩ := hpc.mine
      refine ⟨?_, ?_, henv⟩
      · rw [hdtc', hdtc, hown]
      · rw [htime', htime, hstamp]

end TimeOut

/-- **A stamp is written** at a reception and when a loss is recorded. -/
theorem stamps_step (link : Link) (s : Main) (e : MainEvent) : Stamps link s e := by
  obtain ⟨env, call⟩ := e
  -- only a CAN frame or a call of the stack can be a reception
  have hquiet : ∀ call, (∀ m, call ≠ .canRead m) → (∀ c, call ≠ .lwip c) →
      received link ⟨env, call⟩ = false := by
    intro call hcan hlwip
    cases call with
    | lwip c => exact absurd rfl (hlwip c)
    | canRead m => exact absurd rfl (hcan m)
    | comTimeOut => cases link <;> rfl
    | comTxMainFunction => cases link <;> rfl
    | sdMainFunction => cases link <;> rfl
    | soAdMainFunction => cases link <;> rfl
  cases call with
  | lwip c => exact stamps_lwip c
  | canRead m => exact stamps_can m
  | comTimeOut =>
      obtain ⟨-, htime, henv⟩ := comTimeOut_link link (Main.enter env s)
      refine ⟨?_, henv⟩
      rw [hquiet .comTimeOut (by simp) (by simp), Bool.false_or]
      show link.lastRxTime (comTimeOut (Main.enter env s)).com.times = _
      rw [htime]
      simp only [recordsLoss, decide_eq_true_eq]
      rfl
  | comTxMainFunction =>
      exact stamps_of_kept (Kept.ofTransmits (comTxMainFunction_transmits _))
        (hquiet _ (by simp) (by simp)) rfl
  | sdMainFunction =>
      exact stamps_of_kept (Kept.ofTransmits (sdMainFunction_transmits _))
        (hquiet _ (by simp) (by simp)) rfl
  | soAdMainFunction =>
      refine stamps_of_kept ?_ (hquiet _ (by simp) (by simp)) rfl
      show Kept (Main.enter env s) (soAdMainFunction (Main.enter env s))
      rw [soAdMainFunction]
      split <;> exact Kept.ofTimes rfl rfl

/-! ## Trouble codes -/

/-- Three losses in a row confirm; the counter goes on to 255; a clear clears everything. -/
def threeLosses : Policy where
  confirm := 3
  cap := 255
  keeps := false
  confirm_pos := TroubleCode.threeFails.confirm_pos
  confirm_le := by decide

/-- What happens to a code. -/
def opDtc (d : Dtc) : Op → Dtc
  | .check true => Dtc.commloss d
  | .check false => Dtc.recovered d
  | .clear => Dtc.clear

/-- A code as a record. -/
def linkRecord (d : Dtc) : Record := recordOf d.status d.occurCount.toNat

/-- The counter goes up to 255. -/
theorem toNat_occurCount (count : UInt8) :
    (if count < 255 then count + 1 else count).toNat = min 255 (count.toNat + 1) := by
  have hlt := count.toNat_lt
  by_cases h : count < 255
  · have hcount : count.toNat < 255 := UInt8.lt_iff_toNat_lt.mp h
    rw [if_pos h, UInt8.toNat_add]
    show (count.toNat + 1) % 256 = _
    omega
  · have hcount : ¬ count.toNat < 255 := fun hc => h (UInt8.lt_iff_toNat_lt.mpr hc)
    rw [if_neg h]
    omega

theorem linkRecord_commloss (d : Dtc) :
    linkRecord (Dtc.commloss d) = (linkRecord d).step threeLosses (.check true) := by
  obtain ⟨status, count⟩ := d
  obtain ⟨hset, hkeep, hboth, hlatch, -⟩ := status_bits status
  have hnext := toNat_occurCount count
  have hstep : (linkRecord ⟨status, count⟩).step threeLosses (.check true) =
      ⟨true, status &&& 0x08 != 0 || decide (3 ≤ min 255 (count.toNat + 1)),
        min 255 (count.toNat + 1)⟩ := rfl
  rw [hstep, ← hnext]
  simp only [Dtc.commloss, linkRecord]
  generalize (if count < 255 then count + 1 else count) = next
  have hle : 3 ≤ next ↔ 3 ≤ next.toNat := UInt8.le_iff_toNat_le
  by_cases h : 3 ≤ next
  · rw [if_pos h, decide_eq_true (hle.mp h), Bool.or_true]
    exact congrArg₂ (Record.mk · · _) hboth hlatch
  · rw [if_neg h, decide_eq_false (fun hn => h (hle.mpr hn)), Bool.or_false]
    exact congrArg₂ (Record.mk · · _) hset hkeep

theorem linkRecord_recovered (d : Dtc) :
    linkRecord (Dtc.recovered d) = (linkRecord d).step threeLosses (.check false) := by
  obtain ⟨-, -, -, -, hreset, hold, -⟩ := status_bits d.status
  exact congrArg₂ (Record.mk · · 0) hreset hold

/-- The three operations of `dcm.c` are those of the record. -/
theorem linkRecord_op (d : Dtc) (op : Op) :
    linkRecord (opDtc d op) = (linkRecord d).step threeLosses op := by
  cases op with
  | check failed =>
      cases failed with
      | false => exact linkRecord_recovered d
      | true => exact linkRecord_commloss d
  | clear =>
      have hempty : linkRecord Dtc.clear = Record.empty := by decide
      rw [opDtc, hempty]
      rfl

theorem linkRecord_ops (ops : List Op) (d : Dtc) :
    linkRecord (ops.foldl opDtc d) = ops.foldl (Record.step threeLosses) (linkRecord d) := by
  induction ops generalizing d with
  | nil => rfl
  | cons op ops ih =>
      rw [List.foldl_cons, ih, linkRecord_op]
      rfl

section Dtc

variable {link : Link} {s : Main} {e : MainEvent}

/-- A request for MAIN clears the codes or leaves them alone. -/
theorem dtc_served (req : List UInt8) (d : Dcm) :
    link.dtc (mainServed req d) =
      ((([req].filter fun req => decide (ClearsDtc req)).map fun _ => Op.clear).foldl opDtc
        (link.dtc d)) := by
  by_cases h : ClearsDtc req
  · rw [List.filter_cons_of_pos (by simpa using h), mainServed, if_pos h]
    cases link <;> rfl
  · rw [List.filter_cons_of_neg (by simpa using h), mainServed, if_neg h]
    cases link <;> rfl

/-- Requests are all that a call can bring when it is no reception and no `COM_TimeOut`. -/
theorem linkOps_requests (hreceived : received link e = false)
    (hloss : recordsLoss link s e = false) :
    linkOps link s e =
      ((asked s e).filter fun req => decide (ClearsDtc req)).map fun _ => Op.clear := by
  rw [linkOps, hreceived, hloss, mainRequests_eq]
  rfl

/-- A call that is no reception, no `COM_TimeOut` and no request. -/
theorem dtc_silent (hdcm : (mainStep s e).dcm = s.dcm) (hasked : asked s e = [])
    (hreceived : received link e = false) (hloss : recordsLoss link s e = false) :
    link.dtc (mainStep s e).dcm = (linkOps link s e).foldl opDtc (link.dtc s.dcm) := by
  rw [hdcm, linkOps_requests hreceived hloss, hasked]
  rfl

theorem dtc_udp (localPort : Nat) (p : Pbuf) (addr : IpAddr) (port : Nat) {env : Env}
    (he : e = ⟨env, .lwip (.udpRecv localPort p addr port)⟩) :
    link.dtc (mainStep s e).dcm = (linkOps link s e).foldl opDtc (link.dtc s.dcm) := by
  rw [(accounted s e).dcm]
  subst he
  by_cases hctr : localPort = 5000
  · -- a control packet is a passed check of the PC link
    subst hctr
    have hport : ¬ ((5000 : Nat) = 13400 ∧ AsksMain p) := fun h => absurd h.1 (by decide)
    have hasked : asked s ⟨env, .lwip (.udpRecv 5000 p addr port)⟩ = [] := by
      simp only [asked, if_neg hport]
    rw [linkOps, mainRequests_eq, hasked]
    cases link <;> rfl
  · rw [linkOps_requests (by cases link; rfl; rfl; exact beq_false_of_ne hctr) rfl]
    simp only [dcmAfter, asked, if_neg hctr]
    split
    · exact dtc_served _ _
    · rfl

theorem dtc_tcp (tpcb : Pcb) (p : Pbuf) (rest : List Pbuf) {env : Env}
    (he : e = ⟨env, .lwip (.tcpRecv tpcb p rest)⟩) :
    link.dtc (mainStep s e).dcm = (linkOps link s e).foldl opDtc (link.dtc s.dcm) := by
  rw [(accounted s e).dcm]
  subst he
  rw [linkOps_requests (by cases link <;> rfl) rfl]
  simp only [dcmAfter, asked]
  split
  · exact dtc_served _ _
  · rfl

/-- A status frame or a heartbeat is a passed check of its link. -/
theorem dtc_can (m : CanRx) {env : Env} (he : e = ⟨env, .canRead m⟩) :
    link.dtc (mainStep s e).dcm = (linkOps link s e).foldl opDtc (link.dtc s.dcm) := by
  rw [(accounted s e).dcm]
  subst he
  rw [linkOps, mainRequests_eq]
  simp only [dcmAfter, receivedDcm]
  -- the status frame restores one link, the heartbeat the other
  by_cases hstat : m.messageId = 0x200
  · rw [if_pos hstat]
    cases link with
    | act => simp [received, recordsLoss, asked, hstat, Link.dtc, opDtc]
    | body => simp [received, recordsLoss, asked, hstat, Link.dtc]
    | pc => simp [received, recordsLoss, asked, Link.dtc]
  · rw [if_neg hstat]
    by_cases hbody : m.messageId = 0x310
    · rw [if_pos hbody]
      cases link with
      | act => simp [received, recordsLoss, asked, hbody, Link.dtc]
      | body => simp [received, recordsLoss, asked, hbody, Link.dtc, opDtc]
      | pc => simp [received, recordsLoss, asked, Link.dtc]
    · rw [if_neg hbody]
      cases link with
      | act => simp [received, recordsLoss, asked, hstat, Link.dtc]
      | body => simp [received, recordsLoss, asked, hbody, Link.dtc]
      | pc => simp [received, recordsLoss, asked, Link.dtc]

/-- A recorded loss is a failed check. -/
theorem dtc_timeOut {env : Env} (he : e = ⟨env, .comTimeOut⟩) :
    link.dtc (mainStep s e).dcm = (linkOps link s e).foldl opDtc (link.dtc s.dcm) := by
  subst he
  have hreceived : received link ⟨env, .comTimeOut⟩ = false := by cases link <;> rfl
  obtain ⟨hdtc, -, -⟩ := comTimeOut_link link (Main.enter env s)
  show link.dtc (comTimeOut (Main.enter env s)).dcm = _
  rw [hdtc, linkOps, mainRequests_eq, hreceived]
  show (if link.Fires (stamp env.now) s then _ else _) = _
  by_cases hfires : link.Fires (stamp env.now) s
  · have hloss : recordsLoss link s ⟨env, .comTimeOut⟩ = true := decide_eq_true hfires
    rw [if_pos hfires, hloss]
    rfl
  · have hloss : recordsLoss link s ⟨env, .comTimeOut⟩ = false := decide_eq_false hfires
    rw [if_neg hfires, hloss]
    rfl

/-- **A call does to a code what `linkOps` says.** -/
theorem dtc_step (link : Link) (s : Main) (e : MainEvent) :
    link.dtc (mainStep s e).dcm = (linkOps link s e).foldl opDtc (link.dtc s.dcm) := by
  obtain ⟨env, call⟩ := e
  have hdcm := fun call => (accounted s ⟨env, call⟩).dcm
  cases call with
  | lwip c =>
      cases c with
      | udpRecv localPort p addr port => exact dtc_udp localPort p addr port rfl
      | tcpAccept newpcb => exact dtc_silent (hdcm _) rfl (by cases link <;> rfl) rfl
      | tcpRecv tpcb p rest => exact dtc_tcp tpcb p rest rfl
      | tcpFin tpcb => exact dtc_silent (hdcm _) rfl (by cases link <;> rfl) rfl
      | tcpErr tpcb => exact dtc_silent (hdcm _) rfl (by cases link <;> rfl) rfl
  | canRead m => exact dtc_can m rfl
  | comTimeOut => exact dtc_timeOut rfl
  | comTxMainFunction => exact dtc_silent (hdcm _) rfl (by cases link <;> rfl) rfl
  | sdMainFunction => exact dtc_silent (hdcm _) rfl (by cases link <;> rfl) rfl
  | soAdMainFunction => exact dtc_silent (hdcm _) rfl (by cases link <;> rfl) rfl

end Dtc

/-! ## Runs -/

/-- The code is the record of what happened to the link. -/
theorem linkRecord_run (link : Link) (es : List MainEvent) :
    linkRecord (link.dtc (mainRun es).dcm) =
      recordAfter threeLosses (trace mainStep (linkOps link) mainReset es) := by
  have hsteps : AllSteps mainStep (fun _ _ => True) mainReset es :=
    allSteps_of_mem fun _ _ _ => trivial
  have hboot : linkRecord (link.dtc mainReset.dcm) = recordAfter threeLosses [] := by
    cases link <;> rfl
  refine trace_guarded (f := linkOps link)
    (fun s ops => linkRecord (link.dtc s.dcm) = recordAfter threeLosses ops) ?_ hboot hsteps
  intro s ops e hs _
  rw [dtc_step, linkRecord_ops, hs, recordAfter_append]

/-- The stamp of a link is that of the last entry of its list of times. -/
structure Stamped (link : Link) (s : Main) (times : List Nat) : Prop where
  stamp : link.lastRxTime s.com.times = stamp (times.getLastD 0)
  past : times.getLastD 0 ≤ s.env.now

theorem stamped_step {link : Link} {s : Main} {times : List Nat} {e : MainEvent}
    (h : Stamped link s times) (hclock : s.env.now ≤ time e) :
    Stamped link (mainStep s e) (times ++ linkTimes link s e) := by
  obtain ⟨htime, henv⟩ := stamps_step link s e
  have hnow : (mainStep s e).env.now = time e := by rw [henv]; rfl
  refine ⟨?_, ?_⟩
  · rw [htime, linkTimes]
    split
    · simp
    · rw [List.append_nil]
      exact h.stamp
  · rw [hnow, linkTimes]
    split
    · simp
    · rw [List.append_nil]
      exact h.past.trans hclock

/-- The clock condition, step by step. -/
theorem allSteps_now {es : List MainEvent} (h : Clocked time 0 es) :
    AllSteps mainStep (fun s e => s.env.now ≤ time e ∧ time e < 0 + 2 ^ 32) mainReset es := by
  have hnow : ∀ s e, (mainStep s e).env.now = time e := by
    intro s e
    rw [(stamps_step .pc s e).env]
    rfl
  have hboot : mainReset.env.now = 0 := rfl
  exact allSteps_clocked time (fun s : Main => s.env.now) hnow hboot h

/-- **The stamp of a link** is that of its latest reception or recorded loss. -/
theorem stamped_run (link : Link) {es : List MainEvent} (h : Clocked time 0 es) :
    Stamped link (mainRun es) (trace mainStep (linkTimes link) mainReset es) := by
  have hboot : Stamped link mainReset [] := by
    cases link <;> exact ⟨rfl, Nat.le_refl 0⟩
  refine trace_guarded (f := linkTimes link) (Stamped link) ?_ hboot (allSteps_now h)
  intro s times e hs hok
  exact stamped_step hs hok.1

/-- A run up to some call. -/
theorem clocked_prefix {past : List MainEvent} {e : MainEvent} {es : List MainEvent}
    (h : Clocked time 0 es) (hpre : past ++ [e] <+: es) :
    Clocked time 0 past ∧ (mainRun past).env.now ≤ time e ∧ time e < 2 ^ 32 := by
  obtain ⟨rest, rfl⟩ := hpre
  have hpast : Clocked time 0 past := (allSteps_append.mp (allSteps_append.mp h).1).1
  obtain ⟨-, hlast, -⟩ := allSteps_append.mp (allSteps_now (allSteps_append.mp h).1)
  exact ⟨hpast, hlast.1, by simpa using hlast.2⟩

/-! ## The law -/

/-- A `COM_TimeOut` records a loss when the link is watched and nothing has happened on it
    for 500 ms; the code counts what is recorded. -/
structure LossLaw (link : Link) (past : List MainEvent) (e : MainEvent) : Prop where
  records : recordsLoss link (mainRun past) e = true ↔
    (link = .pc → (mainRun past).com.curMode = modeRemote) ∧ 500 ≤ time e - since link past
  code : link.dtc (mainStep (mainRun past) e).dcm =
    if recordsLoss link (mainRun past) e then Dtc.commloss (link.dtc (mainRun past).dcm)
    else link.dtc (mainRun past).dcm

/-- What a code says about the losses (failed checks), receptions (passed checks) and clears
    so far. -/
structure DtcLaw (d : Dtc) (ops : List Op) : Prop where
  testFailed : d.status &&& 0x01 ≠ 0 ↔ (sinceClear ops).getLast? = some true
  confirmed : d.status &&& 0x08 ≠ 0 ↔ [true, true, true] <:+: sinceClear ops
  occurCount : d.occurCount.toNat = min 255 (failsInARow (sinceClear ops))

theorem lossLaw (link : Link) {past : List MainEvent} {e : MainEvent}
    (hclock : Clocked time 0 past) (hle : (mainRun past).env.now ≤ time e)
    (hlt : time e < 2 ^ 32) (hcall : e.call = .comTimeOut) : LossLaw link past e := by
  obtain ⟨env, call⟩ := e
  subst hcall
  obtain ⟨hstamp, hpast⟩ := stamped_run link hclock
  have hsince : since link past ≤ time ⟨env, .comTimeOut⟩ := hpast.trans hle
  have hthreshold : link.timeoutThresholdMs = 500 := by cases link <;> rfl
  constructor
  · have hold : link.lastRxTime (mainRun past).com.times = stamp (since link past) := hstamp
    have hspan : time ⟨env, .comTimeOut⟩ - since link past < 2 ^ 32 := by omega
    show decide (link.Fires (stamp (time ⟨env, .comTimeOut⟩)) (mainRun past)) = true ↔ _
    rw [decide_eq_true_iff, Link.Fires, hold, hthreshold, le_sub_stamp_iff hsince hspan]
    rfl
  · have hreceived : received link ⟨env, .comTimeOut⟩ = false := by cases link <;> rfl
    have hasked : asked (mainRun past) ⟨env, .comTimeOut⟩ = [] := rfl
    rw [dtc_step, linkOps, mainRequests_eq, hreceived, hasked]
    rcases recordsLoss link (mainRun past) ⟨env, .comTimeOut⟩ with _ | _
    · rfl
    · rfl

theorem dtcLaw (link : Link) (es : List MainEvent) :
    DtcLaw (link.dtc (mainRun es).dcm) (trace mainStep (linkOps link) mainReset es) := by
  obtain ⟨hcurrent, hhistory, hcount⟩ :=
    account_run threeLosses (trace mainStep (linkOps link) mainReset es)
  rw [← linkRecord_run] at hcurrent hhistory hcount
  exact ⟨bne_iff_ne.symm.trans hcurrent, bne_iff_ne.symm.trans hhistory, hcount⟩

/-- **COMMUNICATION CODES EQUAL THEIR HISTORY.**  In every run whose clock does not go back
    and that is shorter than 2^32 ms, every `COM_TimeOut` follows the loss law for each link,
    and at the end each code says what happened to its link. -/
theorem link_dtc_equals_history (link : Link) {es : List MainEvent} (h : Clocked time 0 es) :
    (∀ past e, past ++ [e] <+: es → e.call = .comTimeOut → LossLaw link past e) ∧
      DtcLaw (link.dtc (mainRun es).dcm) (trace mainStep (linkOps link) mainReset es) := by
  refine ⟨?_, dtcLaw link es⟩
  intro past e hpre hcall
  obtain ⟨hpast, hle, hlt⟩ := clocked_prefix h hpre
  exact lossLaw link hpast hle hlt hcall

/-- Three silences of 500 ms, a heartbeat, and another silence. -/
def silences : List MainEvent :=
  [⟨freeEnv 500, .comTimeOut⟩, ⟨freeEnv 999, .comTimeOut⟩, ⟨freeEnv 1000, .comTimeOut⟩,
   ⟨freeEnv 1500, .comTimeOut⟩, ⟨freeEnv 1600, .canRead ⟨0x310, 1, ofList [7]⟩⟩,
   ⟨freeEnv 2100, .comTimeOut⟩]

/-- The heartbeat breaks the second row of losses, not the confirmation by the first. -/
theorem link_dtc_equals_history_silences :
    DtcLaw (Link.body.dtc (mainRun silences).dcm)
        (trace mainStep (linkOps .body) mainReset silences) ∧
      trace mainStep (linkOps .body) mainReset silences =
        [.check true, .check true, .check true, .check false, .check true] ∧
      Link.body.dtc (mainRun silences).dcm = ⟨0x09, 1⟩ :=
  ⟨(link_dtc_equals_history .body (by decide)).2, by decide +kernel, by decide +kernel⟩

end LinkDtc
