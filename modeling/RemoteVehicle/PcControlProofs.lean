import RemoteVehicle.MainFrameProofs
import RemoteVehicle.PcBackend

/-!
# The control requests of the PC and what becomes of them

The backend checks a request before it writes, so a refused request changes nothing
(`handle_refused`), and every value it writes is one that the ECUs know (`valid_step`).
The byte positions are defined three times, by the backend, by MAIN and by the ECUs;
`packet_arrives` follows a packet through them: MAIN reads the control state out of it, and
the frames it makes of it pass the checks of ACT and BODY.
-/

namespace PcControl

open Runs CanFrame MainState MainCom MainTcp MainLoop MainSpec MainFrame PcBackend
open ActCan BodyCan

/-! ## What a request can do -/

/-- The answer to a request and the state after it: one case for each branch. -/
inductive Effect (s : Pc) : Response × Pc → Prop where
  | refused (r : Refusal) : Effect s (.badRequest r, s)
  | raised : Effect s (.raised, s)
  | drive (d : Drive) : Effect s (.ok, applyDrive d s)
  | brake (value : Json) : Effect s (.ok, applyBrake value s)
  | gear (value : Json) (gear : Nat) (h : lookupValue gearMap value = some gear) :
      Effect s (.ok, { s with control := { s.control with gear := gear } })
  | indicator (side : Nat) (value : Json) (h : side ≤ 2) :
      Effect s (.ok, applyIndicator side value s)
  | hazard (value : Json) : Effect s (.ok, applyHazard value s)
  | horn (value : Json) :
      Effect s (.ok, { s with control := { s.control with horn := onOff value } })
  | ignition (value : Json) :
      Effect s (.ok, { s with control := { s.control with ignition := onOff value } })
  | headLight (value : Json) :
      Effect s (.ok, { s with control := { s.control with headLight := onOff value } })

section Effect

variable {s : Pc} {r : Response × Pc}

theorem eq_of_is {t : String} {value : Json} (h : value.is t = true) : value = .str t := by
  cases value with
  | str t' => rw [beq_iff_eq.mp h]
  | null => cases h
  | bool b => cases h
  | num q => cases h
  | arr items => cases h
  | obj fields => cases h

theorem is_other {t t' : String} {value : Json} (h : value.is t = true) (hne : t ≠ t') :
    value.is t' = false := by
  rw [eq_of_is h]
  exact beq_false_of_ne hne

/-- A request that leaves ignition and accelerator as they are. -/
structure Aside (fields : List (String × Json)) (s : Pc) (r : Response × Pc) : Prop where
  notDriven : (getField "type" fields).is "drive" = false ∨
    lookupValue validDriveValues (getField "value" fields) = none
  notIgnition : (getField "type" fields).is "ignition" = false
  effect : Effect s r
  ignition : r.2.control.ignition = s.control.ignition
  accel : r.2.control.accel = s.control.accel

theorem aside_of_is {fields : List (String × Json)} {t : String}
    (h : (getField "type" fields).is t = true) (hdrive : t ≠ "drive") (hignition : t ≠ "ignition")
    (heffect : Effect s r) (hsame : r.2.control.ignition = s.control.ignition)
    (haccel : r.2.control.accel = s.control.accel) : Aside fields s r :=
  ⟨Or.inl (is_other h hdrive), is_other h hignition, heffect, hsame, haccel⟩

/-- **A request by its type**: a drive value, the ignition, or neither. -/
theorem fields_cases (fields : List (String × Json)) (s : Pc) :
    (∃ d, (getField "type" fields).is "drive" = true ∧
      lookupValue validDriveValues (getField "value" fields) = some d ∧
      controlFields fields s = (.ok, applyDrive d s)) ∨
    ((getField "type" fields).is "ignition" = true ∧
      controlFields fields s =
        (.ok, { s with control := { s.control with
          ignition := onOff (getField "value" fields) } })) ∨
    Aside fields s (controlFields fields s) := by
  rw [controlFields]
  dsimp only
  -- the tests of the if chain in their order; each rules out those before it
  by_cases hnone : (getField "type" fields).isNone = true
  · rw [if_pos hnone]
    have hother : ∀ t, (getField "type" fields).is t = false := by
      intro t
      cases htype : getField "type" fields with
      | null => rfl
      | _ => rw [htype] at hnone; cases hnone
    exact Or.inr (Or.inr ⟨Or.inl (hother _), hother _, .refused _, rfl, rfl⟩)
  rw [if_neg hnone]
  by_cases hdrive : (getField "type" fields).is "drive" = true
  · rw [if_pos hdrive]
    cases hvalue : lookupValue validDriveValues (getField "value" fields) with
    | none =>
        exact Or.inr (Or.inr ⟨Or.inr hvalue, is_other hdrive (by decide), .refused _, rfl, rfl⟩)
    | some d => exact Or.inl ⟨d, hdrive, rfl, rfl⟩
  rw [if_neg hdrive]
  by_cases hbrake : (getField "type" fields).is "brake" = true
  · rw [if_pos hbrake]
    exact Or.inr (Or.inr (aside_of_is hbrake (by decide) (by decide) (.brake _) rfl rfl))
  rw [if_neg hbrake]
  by_cases hgear : (getField "type" fields).is "gear" = true
  · rw [if_pos hgear]
    right
    right
    split
    · exact aside_of_is hgear (by decide) (by decide) .raised rfl rfl
    · split
      · exact aside_of_is hgear (by decide) (by decide) (.refused _) rfl rfl
      · rename_i hvalue
        exact aside_of_is hgear (by decide) (by decide) (.gear _ _ hvalue) rfl rfl
  rw [if_neg hgear]
  by_cases hleft : (getField "type" fields).is "indicator_left" = true
  · rw [if_pos hleft]
    exact Or.inr (Or.inr
      (aside_of_is hleft (by decide) (by decide) (.indicator 1 _ (by decide)) rfl rfl))
  rw [if_neg hleft]
  by_cases hright : (getField "type" fields).is "indicator_right" = true
  · rw [if_pos hright]
    exact Or.inr (Or.inr
      (aside_of_is hright (by decide) (by decide) (.indicator 2 _ (by decide)) rfl rfl))
  rw [if_neg hright]
  by_cases hhazard : (getField "type" fields).is "hazard" = true
  · rw [if_pos hhazard]
    exact Or.inr (Or.inr (aside_of_is hhazard (by decide) (by decide) (.hazard _) rfl rfl))
  rw [if_neg hhazard]
  by_cases hhorn : (getField "type" fields).is "horn" = true
  · rw [if_pos hhorn]
    exact Or.inr (Or.inr (aside_of_is hhorn (by decide) (by decide) (.horn _) rfl rfl))
  rw [if_neg hhorn]
  by_cases hignition : (getField "type" fields).is "ignition" = true
  · rw [if_pos hignition]
    exact Or.inr (Or.inl ⟨hignition, rfl⟩)
  rw [if_neg hignition]
  right
  right
  have hdrive := Bool.eq_false_iff.mpr hdrive
  have hignition := Bool.eq_false_iff.mpr hignition
  split
  · exact ⟨Or.inl hdrive, hignition, .headLight _, rfl, rfl⟩
  · exact ⟨Or.inl hdrive, hignition, .refused _, rfl, rfl⟩

theorem effect_fields (fields : List (String × Json)) (s : Pc) :
    Effect s (controlFields fields s) := by
  rcases fields_cases fields s with ⟨d, -, -, hdrive⟩ | ⟨-, hignition⟩ | haside
  · rw [hdrive]
    exact .drive d
  · rw [hignition]
    exact .ignition _
  · exact haside.effect

theorem effect_control (body : Option Json) (s : Pc) : Effect s (controlCommand body s) := by
  simp only [controlCommand]
  cases body with
  | none => exact .refused _
  | some commandData =>
      dsimp only
      split
      · exact .refused _
      · cases commandData with
        | obj fields => exact effect_fields fields s
        | null => exact .raised
        | bool b => exact .raised
        | num q => exact .raised
        | str t => exact .raised
        | arr items => exact .raised

theorem Effect.unchanged (h : Effect s r) (hok : r.1 ≠ .ok) : r.2 = s := by
  cases h with
  | refused r => rfl
  | raised => rfl
  | drive d => exact absurd rfl hok
  | brake value => exact absurd rfl hok
  | gear value gear h => exact absurd rfl hok
  | indicator side value h => exact absurd rfl hok
  | hazard value => exact absurd rfl hok
  | horn value => exact absurd rfl hok
  | ignition value => exact absurd rfl hok
  | headLight value => exact absurd rfl hok

end Effect

/-- **A request that is not answered with OK changes nothing.** -/
theorem handle_refused {s : Pc} {e : PcEvent} (h : (pcHandle s e).1 ≠ .ok) : pcStep s e = s := by
  cases e with
  | start => exact absurd rfl h
  | stop => exact absurd rfl h
  | send => exact absurd rfl h
  | control body => exact (effect_control body s).unchanged h

/-! ## Valid values -/

/-- Every field has a value that the ECUs know. -/
structure ValidControl (c : ControlState) : Prop where
  accel : c.accel ≤ 1
  brake : c.brake ≤ 1
  steer : c.steer ≤ 2
  gear : c.gear ≤ 3
  turnSignal : c.turnSignal ≤ 3
  horn : c.horn ≤ 1
  ignition : c.ignition ≤ 1
  headLight : c.headLight ≤ 1

theorem onOff_le (value : Json) : onOff value ≤ 1 := by
  rw [onOff]
  split <;> decide

theorem gearMap_le {value : Json} {gear : Nat} (h : lookupValue gearMap value = some gear) :
    gear ≤ 3 := by
  cases value with
  | str t =>
      have hmem : (t, gear) ∈ gearMap := by
        obtain ⟨l, r, hlr, -⟩ := List.lookup_eq_some_iff.mp h
        rw [hlr]
        simp
      simp only [gearMap, List.mem_cons, Prod.mk.injEq, List.not_mem_nil, or_false] at hmem
      rcases hmem with ⟨-, rfl⟩ | ⟨-, rfl⟩ | ⟨-, rfl⟩ | ⟨-, rfl⟩ <;> decide
  | null => cases h
  | bool b => cases h
  | num q => cases h
  | arr items => cases h
  | obj fields => cases h

section Valid

variable {s : Pc}

theorem valid_reset (c : ControlState) : ValidControl (resetControlState c) := by
  constructor <;> exact Nat.zero_le _

theorem valid_drive (h : ValidControl s.control) (d : Drive) :
    ValidControl (applyDrive d s).control := by
  obtain ⟨-, hbrake, -, -, hturn, hhorn, hignition, hhead⟩ := h
  cases d <;>
    exact ⟨by simp [applyDrive], hbrake, by simp [applyDrive], by simp [applyDrive],
      hturn, hhorn, hignition, hhead⟩

theorem valid_indicator (h : ValidControl s.control) {side : Nat} (hside : side ≤ 2)
    (value : Json) : ValidControl (applyIndicator side value s).control := by
  have hturn := h.turnSignal
  refine { h with turnSignal := ?_ }
  simp only [applyIndicator]
  split
  · omega
  · split <;> omega

theorem valid_hazard (h : ValidControl s.control) (value : Json) :
    ValidControl (applyHazard value s).control := by
  refine { h with turnSignal := ?_ }
  simp only [applyHazard]
  split <;> decide

theorem Effect.valid {r : Response × Pc} (he : Effect s r) (h : ValidControl s.control) :
    ValidControl r.2.control := by
  cases he with
  | refused r => exact h
  | raised => exact h
  | drive d => exact valid_drive h d
  | brake value => exact { h with brake := onOff_le value }
  | gear value gear hgear => exact { h with gear := gearMap_le hgear }
  | indicator side value hside => exact valid_indicator h hside value
  | hazard value => exact valid_hazard h value
  | horn value => exact { h with horn := onOff_le value }
  | ignition value => exact { h with ignition := onOff_le value }
  | headLight value => exact { h with headLight := onOff_le value }

/-- **Step lemma.** -/
theorem valid_step (h : ValidControl s.control) (e : PcEvent) :
    ValidControl (pcStep s e).control := by
  cases e with
  | start => exact valid_reset s.control
  | stop => exact valid_reset s.control
  | send => exact { h with }
  | control body => exact (effect_control body s).valid h

end Valid

/-! ## A packet on its way -/

/-- The fields of a control state as the bytes of its packet. -/
def ctrOf (c : ControlState) : UdpCtr where
  accel := UInt8.ofNat c.accel
  brake := UInt8.ofNat c.brake
  steer := UInt8.ofNat c.steer
  gear := UInt8.ofNat c.gear
  turnSignal := UInt8.ofNat c.turnSignal
  horn := UInt8.ofNat c.horn
  ignition := UInt8.ofNat c.ignition
  headLight := UInt8.ofNat c.headLight

/-- **The byte offsets of the backend are those of MAIN.** -/
theorem udpCtrOfPayload_packet {p : Pbuf} {c : ControlState} (h : p.bytes = controlPacket c) :
    udpCtrOfPayload p.payload = ctrOf c := by
  have hlen : p.len = 13 := by
    rw [← Pbuf.bytes_length, h]
    rfl
  have hbyte : ∀ i < 13, p.payload i = ofList (controlPacket c) i := by
    intro i hi
    rw [← h, Pbuf.ofList_bytes p (by omega)]
  simp only [udpCtrOfPayload, hbyte 1 (by omega), hbyte 2 (by omega), hbyte 3 (by omega),
    hbyte 4 (by omega), hbyte 5 (by omega), hbyte 6 (by omega), hbyte 7 (by omega),
    hbyte 8 (by omega)]
  rfl

/-- MAIN after a packet of the backend. -/
theorem relay_packet {p : Pbuf} {c : ControlState} (h : p.bytes = controlPacket c) (m : Main)
    (env : Env) (addr : IpAddr) (port : Nat) :
    relay (mainStep m ⟨env, .lwip (.udpRecv 5000 p addr port)⟩) =
      (relay m).packet (ctrOf c) (UInt32.ofNat env.now) := by
  rw [relay_step, ← udpCtrOfPayload_packet h]
  rfl

/-! ## Reception by the ECUs -/

theorem toNat_ofNat {n k : Nat} (h : n ≤ k) (hk : k < 256) : (UInt8.ofNat n).toNat = n :=
  UInt8.toNat_ofNat_of_lt' (by show n < 256; omega)

theorem isValidBool {n : Nat} (h : n ≤ 1) :
    actCanIsValidBool (UInt8.ofNat n) = true ∧ bodyCanIsValidBool (UInt8.ofNat n) = true := by
  obtain rfl | rfl : n = 0 ∨ n = 1 := by omega
  all_goals decide

theorem isValidSteering {n : Nat} (h : n ≤ 2) :
    actCanIsValidSteering (UInt8.ofNat n) = true := by
  obtain rfl | rfl | rfl : n = 0 ∨ n = 1 ∨ n = 2 := by omega
  all_goals decide

theorem isValidGear {n : Nat} (h : n ≤ 3) : actCanIsValidGear (UInt8.ofNat n) = true := by
  obtain rfl | rfl | rfl | rfl : n = 0 ∨ n = 1 ∨ n = 2 ∨ n = 3 := by omega
  all_goals decide

theorem isValidTurnSignal {n : Nat} (h : n ≤ 3) :
    bodyCanIsValidTurnSignal (UInt8.ofNat n) = true := by
  obtain rfl | rfl | rfl | rfl : n = 0 ∨ n = 1 ∨ n = 2 ∨ n = 3 := by omega
  all_goals decide

/-- The mode that an ignition byte of the backend selects is that byte. -/
theorem ignitionMode_ofNat {n : Nat} (h : n ≤ 1) (curMode : UInt8) :
    ignitionMode (UInt8.ofNat n) curMode = UInt8.ofNat n := by
  obtain rfl | rfl : n = 0 ∨ n = 1 := by omega
  all_goals rfl

theorem isValidControlMode {n : Nat} (h : n ≤ 1) :
    actCanIsValidControlMode (UInt8.ofNat n) = true ∧
      bodyCanIsValidControlMode (UInt8.ofNat n) = true := by
  obtain rfl | rfl : n = 0 ∨ n = 1 := by omega
  all_goals decide

/-- A control state and what ACT reads; the ignition has become the mode. -/
structure OnAct (c : ControlState) (cmd : ActState.ActCommand) : Prop where
  accel : cmd.accelRaw.toNat = c.accel
  steer : cmd.steeringRaw.toNat = c.steer
  brake : cmd.brakeRaw.toNat = c.brake
  gear : cmd.gearRaw.toNat = c.gear
  mode : cmd.controlModeRaw.toNat = c.ignition
  override : cmd.safetyOverrideRaw = pcDefault

/-- A control state and what BODY reads. -/
structure OnBody (c : ControlState) (cmd : BodyState.BodyCommand) : Prop where
  headLight : cmd.headlampRaw.toNat = c.headLight
  turnSignal : cmd.turnSignalRaw.toNat = c.turnSignal
  brake : cmd.brakeLampRaw.toNat = c.brake
  horn : cmd.hornRaw.toNat = c.horn
  mode : cmd.controlModeRaw.toNat = c.ignition

section Relay

variable {c : ControlState} {r : Relay} {now : UInt32}

theorem onAct (h : ValidControl c) : OnAct c (actCommand (r.packet (ctrOf c) now)) where
  accel := toNat_ofNat h.accel (by decide)
  steer := toNat_ofNat h.steer (by decide)
  brake := toNat_ofNat h.brake (by decide)
  gear := toNat_ofNat h.gear (by decide)
  mode := by
    show (ignitionMode (UInt8.ofNat c.ignition) r.curMode).toNat = c.ignition
    rw [ignitionMode_ofNat h.ignition]
    exact toNat_ofNat h.ignition (by decide)
  override := rfl

theorem onBody (h : ValidControl c) : OnBody c (bodyCommand (r.packet (ctrOf c) now)) where
  headLight := toNat_ofNat h.headLight (by decide)
  turnSignal := toNat_ofNat h.turnSignal (by decide)
  brake := toNat_ofNat h.brake (by decide)
  horn := toNat_ofNat h.horn (by decide)
  mode := (onAct h).mode

theorem valid_onAct (h : ValidControl c) :
    actCanIsValidCommand (actCommand (r.packet (ctrOf c) now)) = true := by
  have hmode : actCanIsValidControlMode (ignitionMode (UInt8.ofNat c.ignition) r.curMode) =
      true := by
    rw [ignitionMode_ofNat h.ignition]
    exact (isValidControlMode h.ignition).1
  simp only [actCanIsValidCommand, Bool.and_eq_true]
  exact ⟨⟨⟨⟨⟨(isValidBool h.accel).1, isValidSteering h.steer⟩, (isValidBool h.brake).1⟩,
    isValidGear h.gear⟩, hmode⟩, rfl⟩

/-- The sixth byte of BODY is the buzzer state, which is not the backend's. -/
theorem valid_onBody (h : ValidControl c) :
    bodyCanIsValidCommand (bodyCommand (r.packet (ctrOf c) now)) =
      bodyCanIsValidBool r.collisionWarn := by
  have hmode : bodyCanIsValidControlMode (ignitionMode (UInt8.ofNat c.ignition) r.curMode) =
      true := by
    rw [ignitionMode_ofNat h.ignition]
    exact (isValidControlMode h.ignition).2
  have hhead := (isValidBool h.headLight).2
  have hturn := isValidTurnSignal h.turnSignal
  have hbrake := (isValidBool h.brake).2
  have hhorn := (isValidBool h.horn).2
  rw [bodyCanIsValidCommand]
  show (bodyCanIsValidBool (UInt8.ofNat c.headLight) &&
    bodyCanIsValidTurnSignal (UInt8.ofNat c.turnSignal) &&
    bodyCanIsValidBool (UInt8.ofNat c.brake) && bodyCanIsValidBool (UInt8.ofNat c.horn) &&
    bodyCanIsValidBool r.collisionWarn &&
    bodyCanIsValidControlMode (ignitionMode (UInt8.ofNat c.ignition) r.curMode)) = _
  rw [hhead, hturn, hbrake, hhorn, hmode, Bool.and_true]
  rfl

end Relay

/-- MAIN holds a control state, and the frames it makes of it are accepted. -/
structure Arrives (c : ControlState) (m : Main) : Prop where
  ctr : m.com.rxUdpCtr = ctrOf c
  /-- All that `COM_Tx_MainFunction` sends on CAN are the frames of the relay. -/
  frames : ∀ env msg, .can msg ∈ (mainStep m ⟨env, .comTxMainFunction⟩).out →
    msg = actFrame (relay m) ∨ msg = bodyFrame (relay m)
  onAct : OnAct c (actCommand (relay m))
  act : ActSpec.accepted (actFrame (relay m)) = some (actCommand (relay m))
  onBody : OnBody c (bodyCommand (relay m))
  body : BodySpec.accepted (bodyFrame (relay m)) =
    if bodyCanIsValidBool m.com.collisionWarn = true then some (bodyCommand (relay m)) else none

/-- **A packet with valid values arrives.** -/
theorem packet_arrives {c : ControlState} (h : ValidControl c) {p : Pbuf}
    (hp : p.bytes = controlPacket c) (m : Main) (env : Env) (addr : IpAddr) (port : Nat) :
    Arrives c (mainStep m ⟨env, .lwip (.udpRecv 5000 p addr port)⟩) := by
  have hrelay := relay_packet hp m env addr port
  have hwarn : (mainStep m ⟨env, .lwip (.udpRecv 5000 p addr port)⟩).com.collisionWarn =
      (relay m).collisionWarn := congrArg Relay.collisionWarn hrelay
  refine ⟨congrArg Relay.ctr hrelay, ?_, ?_, ?_, ?_, ?_⟩
  · intro tx msg hmsg
    rcases can_step hmsg with ⟨-, hframe⟩ | ⟨⟨_, hcall⟩, -⟩
    · exact hframe
    · cases hcall
  · rw [hrelay]
    exact onAct h
  · rw [accepted_actFrame, hrelay, if_pos (valid_onAct h)]
  · rw [hrelay]
    exact onBody h
  · rw [accepted_bodyFrame, hrelay, valid_onBody h, hwarn]

/-! ## Runs -/

/-- The packets that an event sends. -/
def packetsOf (s : Pc) : PcEvent → List (List UInt8)
  | .send => [controlPacket s.control]
  | _ => []

/-- What no control request changes. -/
structure Untouched (s s' : Pc) : Prop where
  sequence : s'.control.sequenceNumber = s.control.sequenceNumber
  active : s'.vehicle.remoteControlActive = s.vehicle.remoteControlActive

theorem Effect.untouched {s : Pc} {r : Response × Pc} (he : Effect s r) : Untouched s r.2 := by
  cases he with
  | refused r => exact ⟨rfl, rfl⟩
  | raised => exact ⟨rfl, rfl⟩
  | drive d => cases d <;> exact ⟨rfl, rfl⟩
  | brake value =>
      refine ⟨rfl, ?_⟩
      simp only [applyBrake]
      split <;> rfl
  | gear value gear h => exact ⟨rfl, rfl⟩
  | indicator side value h => exact ⟨rfl, rfl⟩
  | hazard value => exact ⟨rfl, rfl⟩
  | horn value => exact ⟨rfl, rfl⟩
  | ignition value => exact ⟨rfl, rfl⟩
  | headLight value => exact ⟨rfl, rfl⟩

/-- The packets so far are numbered, and the state holds the next number. -/
structure Numbered (s : Pc) (packets : List (List UInt8)) : Prop where
  next : s.control.sequenceNumber = packets.length % 256
  numbers : ∀ i packet, packets[i]? = some packet → packet.getD 0 0 = UInt8.ofNat i

theorem numbered_step {s : Pc} {packets : List (List UInt8)} (h : Numbered s packets)
    (e : PcEvent) : Numbered (pcStep s e) (packets ++ packetsOf s e) := by
  -- what sends no packet keeps the number
  have hkept : ∀ s', s'.control.sequenceNumber = s.control.sequenceNumber →
      Numbered s' (packets ++ []) := by
    intro s' hs'
    rw [List.append_nil]
    exact ⟨hs'.trans h.next, h.numbers⟩
  cases e with
  | start => exact hkept _ rfl
  | stop => exact hkept _ rfl
  | control body => exact hkept _ (effect_control body s).untouched.sequence
  | send =>
      refine ⟨?_, ?_⟩
      · show (s.control.sequenceNumber % 256 + 1) % 256 = _
        rw [h.next, List.length_append]
        show _ = (packets.length + 1) % 256
        omega
      · intro i packet hi
        rcases Nat.lt_trichotomy i packets.length with hlt | heq | hgt
        · rw [List.getElem?_append_left hlt] at hi
          exact h.numbers i packet hi
        · -- the packet sent now carries the count of those before it
          subst heq
          rw [List.getElem?_append_right (Nat.le_refl _), Nat.sub_self] at hi
          cases hi
          show UInt8.ofNat s.control.sequenceNumber = UInt8.ofNat packets.length
          rw [h.next, ← UInt8.toNat_inj, UInt8.toNat_ofNat', UInt8.toNat_ofNat', Nat.mod_mod]
        · rw [List.getElem?_eq_none (by simp [packetsOf]; omega)] at hi
          cases hi

/-- **The control requests.**  A refused request changes nothing, every packet that is sent
    arrives, and the packets are numbered. -/
theorem control_requests (es : List PcEvent) :
    AllSteps pcStep
        (fun s e => 400 ≤ (pcHandle s e).1.statusCode → pcStep s e = s) pcInitial es ∧
      AllSteps pcStep
        (fun s e => ∀ packet ∈ packetsOf s e, ∀ (p : Pbuf) (m : Main) (env : Env) addr port,
          p.bytes = packet →
            Arrives s.control (mainStep m ⟨env, .lwip (.udpRecv 5000 p addr port)⟩))
        pcInitial es ∧
      ∀ i packet next, (trace pcStep packetsOf pcInitial es)[i]? = some packet →
        (trace pcStep packetsOf pcInitial es)[i + 1]? = some next →
          next.getD 0 0 = packet.getD 0 0 + 1 := by
  have hall : AllSteps pcStep (fun _ _ => True) pcInitial es :=
    allSteps_of_mem fun _ _ _ => trivial
  refine ⟨?_, ?_, ?_⟩
  · apply allSteps_of_mem
    intro s e _ hcode
    apply handle_refused
    intro hok
    rw [hok] at hcode
    exact absurd hcode (by decide)
  · refine allSteps_guarded (fun s => ValidControl s.control)
      (fun s e h _ => valid_step h e) ?_ (by constructor <;> exact Nat.zero_le _) hall
    intro s e h _ packet hpacket p m env addr port hp
    cases e with
    | start => cases hpacket
    | stop => cases hpacket
    | control body => cases hpacket
    | send =>
        rw [List.mem_singleton.mp hpacket] at hp
        exact packet_arrives h hp m env addr port
  · have hstart : Numbered pcInitial [] := ⟨rfl, fun _ _ hi => by simp at hi⟩
    obtain ⟨-, hnumbers⟩ := trace_guarded Numbered (fun s ts e h _ => numbered_step h e)
      hstart hall
    intro i packet next hi hnext
    rw [hnumbers i packet hi, hnumbers (i + 1) next hnext, UInt8.ofNat_add]
    rfl

end PcControl
