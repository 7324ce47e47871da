import RemoteVehicle.PcPage
import RemoteVehicle.Runs

/-!
# Keys and the command in the backend

The page sends a drive request whenever the command of the pressed keys changes, and does
not wait for the answer; the threads of the backend handle what is in flight in any order.
The request handled last decides (`Follows`, `follows_keys_iff`), so the vehicle goes on
after all keys are released when an older request is handled after the STOP.
-/

namespace KeyRelease

open Runs PcBackend PcPage

/-! ## Page and backend -/

/-- Page and backend with the requests in flight; `sent` and `handled` list the requests of
    the past in their two orders. -/
structure Remote where
  page : Page
  pc : Pc
  inFlight : List Request
  sent : List Request
  handled : List Request

inductive RemoteEvent where
  | page (e : PageEvent)
  /-- A thread handles one of the requests in flight. -/
  | handle (i : Nat)

def remoteStep (s : Remote) : RemoteEvent → Remote
  | .page e =>
      let r := pageHandle s.page e
      { s with page := r.1, inFlight := s.inFlight ++ r.2, sent := s.sent ++ r.2 }
  | .handle i =>
      match s.inFlight[i]? with
      | none => s
      | some r =>
          { s with
            pc := (controlCommand (some (sendControlCommand r)) s.pc).2
            inFlight := s.inFlight.eraseIdx i
            handled := s.handled ++ [r] }

/-- The page opens and starts remote control. -/
def remoteStart (pc : Pc) : Remote := ⟨pageInitial, (startRemoteControl pc).2, [], [], []⟩

/-! ## Drive requests -/

/-- The drive commands among requests. -/
def drives (rs : List Request) : List Drive :=
  rs.filterMap fun r => match r with
    | .drive command => some command
    | _ => none

/-- The last drive command; before any it is STOP. -/
def lastDrive (rs : List Request) : Drive := (drives rs).getLastD .stop

/-- What a drive command does to accelerator and steering. -/
def motion (d : Drive) : Nat × Nat := (driveAccel d, driveSteer d)

/-- Accelerator and steering of the backend. -/
def backendMotion (s : Pc) : Nat × Nat := (s.control.accel, s.control.steer)

theorem drives_append (rs rs' : List Request) : drives (rs ++ rs') = drives rs ++ drives rs' :=
  List.filterMap_append

theorem lastDrive_nil (rs : List Request) {rs' : List Request} (h : drives rs' = []) :
    lastDrive (rs ++ rs') = lastDrive rs := by
  rw [lastDrive, drives_append, h, List.append_nil, lastDrive]

theorem lastDrive_drive (rs : List Request) (d : Drive) :
    lastDrive (rs ++ [.drive d]) = d := by
  rw [lastDrive, drives_append]
  show (drives rs ++ [d]).getLastD .stop = d
  rw [List.getLastD_concat]

/-- **A request that is handled** sets accelerator and steering if it is a drive request. -/
theorem backendMotion_control (r : Request) (s : Pc) :
    backendMotion (controlCommand (some (sendControlCommand r)) s).2 =
      match r with
      | .drive d => motion d
      | _ => backendMotion s := by
  cases r with
  | drive d => cases d <;> rfl
  | brake on => cases on <;> rfl
  | gear g => cases g <;> rfl
  | indicatorLeft on => cases on <;> rfl
  | indicatorRight on => cases on <;> rfl
  | hazard on => cases on <;> rfl
  | horn on => cases on <;> rfl
  | ignition on => cases on <;> rfl
  | headLight on => cases on <;> rfl

/-! ## The page announces every change -/

/-- The last command is that of the pressed keys, and it has been sent. -/
structure Announces (p : Page) (r : Page × List Request) : Prop where
  keys : r.1.lastDriveCommand = getDriveCommand r.1.pressedKeys
  sent : ∀ rs, lastDrive rs = p.lastDriveCommand → lastDrive (rs ++ r.2) = r.1.lastDriveCommand

/-- Everything that is no key of the drive. -/
theorem announces_other {p p' : Page} {rs' : List Request}
    (h : p.lastDriveCommand = getDriveCommand p.pressedKeys)
    (hkeys : p'.pressedKeys = p.pressedKeys) (hlast : p'.lastDriveCommand = p.lastDriveCommand)
    (hdrives : drives rs' = []) : Announces p (p', rs') := by
  refine ⟨?_, ?_⟩
  · show p'.lastDriveCommand = getDriveCommand p'.pressedKeys
    rw [hlast, hkeys, h]
  · intro rs hrs
    rw [lastDrive_nil rs hdrives, hrs]
    exact hlast.symm

theorem announces_keys (p : Page) (keys : PressedKeys) :
    Announces p (sendDriveCommandIfChanged keys { p with pressedKeys := keys }) := by
  simp only [sendDriveCommandIfChanged]
  split
  · rename_i hsame
    refine ⟨hsame, ?_⟩
    intro rs hrs
    rw [List.append_nil, hrs]
  · refine ⟨rfl, ?_⟩
    intro rs _
    exact lastDrive_drive rs (getDriveCommand keys)

/-- **What the operator does**, one case for each handler. -/
theorem announces {p : Page} (h : p.lastDriveCommand = getDriveCommand p.pressedKeys)
    (e : PageEvent) : Announces p (pageHandle p e) := by
  have hnone : Announces p (p, []) := announces_other h rfl rfl rfl
  cases e with
  | keyDown key =>
      -- an arrow that is already held is not announced again
      cases key with
      | other => exact hnone
      | gear g => exact announces_other h rfl rfl rfl
      | space =>
          simp only [pageHandle, handleKeyDown, handleBrakeOn]
          split
          · exact hnone
          · exact announces_other h rfl rfl rfl
      | arrow k =>
          simp only [pageHandle, handleKeyDown]
          split
          · exact hnone
          · exact announces_keys p _
  | keyUp key =>
      cases key with
      | other => exact hnone
      | gear g => exact announces_keys p p.pressedKeys
      | space =>
          simp only [pageHandle, handleKeyUp, handleBrakeOff]
          split
          · exact announces_other h rfl rfl rfl
          · exact hnone
      | arrow k => exact announces_keys p _
  | gearClick g => exact announces_other h rfl rfl rfl
  | leftSignalClick =>
      simp only [pageHandle, handleLeftSignalClick]
      split <;> exact announces_other h rfl rfl rfl
  | rightSignalClick =>
      simp only [pageHandle, handleRightSignalClick]
      split <;> exact announces_other h rfl rfl rfl
  | hazardClick => exact announces_other h rfl rfl rfl
  | hornOn => exact announces_other h rfl rfl rfl
  | hornOff => exact announces_other h rfl rfl rfl
  | ignitionClick => exact announces_other h rfl rfl rfl
  | headLightClick => exact announces_other h rfl rfl rfl

/-! ## Runs -/

structure Inv (s : Remote) : Prop where
  keys : s.page.lastDriveCommand = getDriveCommand s.page.pressedKeys
  sent : lastDrive s.sent = s.page.lastDriveCommand
  handled : backendMotion s.pc = motion (lastDrive s.handled)
  none_lost : s.sent.Perm (s.handled ++ s.inFlight)

theorem inv_start (pc : Pc) : Inv (remoteStart pc) := ⟨rfl, rfl, rfl, List.Perm.nil⟩

/-- **Step lemma.** -/
theorem inv_step {s : Remote} (h : Inv s) (e : RemoteEvent) : Inv (remoteStep s e) := by
  cases e with
  | page e =>
      obtain ⟨hkeys, hsent⟩ := announces h.keys e
      refine ⟨hkeys, hsent s.sent h.sent, h.handled, ?_⟩
      show (s.sent ++ (pageHandle s.page e).2).Perm
        (s.handled ++ (s.inFlight ++ (pageHandle s.page e).2))
      rw [← List.append_assoc]
      exact h.none_lost.append_right _
  | handle i =>
      simp only [remoteStep]
      split
      · exact h
      · rename_i r hr
        refine ⟨h.keys, h.sent, ?_, ?_⟩
        · -- only a drive request moves what the backend drives
          rw [backendMotion_control, h.handled]
          cases r with
          | drive d => rw [lastDrive_drive]
          | brake on => rw [lastDrive_nil _ rfl]
          | gear g => rw [lastDrive_nil _ rfl]
          | indicatorLeft on => rw [lastDrive_nil _ rfl]
          | indicatorRight on => rw [lastDrive_nil _ rfl]
          | hazard on => rw [lastDrive_nil _ rfl]
          | horn on => rw [lastDrive_nil _ rfl]
          | ignition on => rw [lastDrive_nil _ rfl]
          | headLight on => rw [lastDrive_nil _ rfl]
        · obtain ⟨hlt, hget⟩ := List.getElem?_eq_some_iff.mp hr
          -- requests are handled in any order, so none is lost up to a permutation
          have hperm : s.inFlight.Perm (r :: s.inFlight.eraseIdx i) := by
            rw [← hget]
            exact (List.getElem_cons_eraseIdx_perm hlt).symm
          refine (h.none_lost.trans (hperm.append_left s.handled)).trans ?_
          simp

/-- The backend accelerates when up or down is pressed, and steers as the pressed keys say. -/
structure Follows (s : Remote) : Prop where
  accel : s.pc.control.accel = 1 ↔
    s.page.pressedKeys.arrowUp = true ∨ s.page.pressedKeys.arrowDown = true
  steer : s.pc.control.steer = driveSteer (getDriveCommand s.page.pressedKeys)

/-- The command of the keys accelerates when up or down is pressed. -/
theorem driveAccel_keys (keys : PressedKeys) :
    driveAccel (getDriveCommand keys) = 1 ↔ keys.arrowUp = true ∨ keys.arrowDown = true := by
  obtain ⟨up, down, left, right⟩ := keys
  cases up <;> cases down <;> cases left <;> cases right <;> decide

theorem driveAccel_le (d : Drive) : driveAccel d ≤ 1 := by
  cases d <;> decide

theorem follows_iff {s : Remote} (h : Inv s) :
    Follows s ↔ motion (lastDrive s.handled) = motion (lastDrive s.sent) := by
  have hkeys : lastDrive s.sent = getDriveCommand s.page.pressedKeys := h.sent.trans h.keys
  have haccel : s.pc.control.accel = driveAccel (lastDrive s.handled) :=
    congrArg Prod.fst h.handled
  have hsteer : s.pc.control.steer = driveSteer (lastDrive s.handled) :=
    congrArg Prod.snd h.handled
  have hle := driveAccel_le (lastDrive s.handled)
  have hle' := driveAccel_le (getDriveCommand s.page.pressedKeys)
  have hpressed := driveAccel_keys s.page.pressedKeys
  rw [hkeys, motion, motion, Prod.mk.injEq]
  constructor
  · rintro ⟨hfirst, hsecond⟩
    rw [haccel, ← hpressed] at hfirst
    exact ⟨by omega, hsteer.symm.trans hsecond⟩
  · rintro ⟨hfirst, hsecond⟩
    refine ⟨?_, hsteer.trans hsecond⟩
    rw [haccel, hfirst]
    exact hpressed

/-- **The backend follows the keys** exactly when the drive request handled last commands the
    same motion as the one sent last; and what has been handled and what is in flight is what
    has been sent, in some order. -/
theorem follows_keys_iff (pc : Pc) (es : List RemoteEvent) :
    (Follows (run remoteStep (remoteStart pc) es) ↔
      motion (lastDrive (run remoteStep (remoteStart pc) es).handled) =
        motion (lastDrive (run remoteStep (remoteStart pc) es).sent)) ∧
      (run remoteStep (remoteStart pc) es).sent.Perm
        ((run remoteStep (remoteStart pc) es).handled ++
          (run remoteStep (remoteStart pc) es).inFlight) := by
  have h : Inv (run remoteStep (remoteStart pc) es) :=
    run_invariant Inv (fun _ e hinv => inv_step hinv e) (inv_start pc) es
  exact ⟨follows_iff h, h.none_lost⟩

/-- **Up is pressed and released**, and STOP is handled before FORWARD: no key is pressed, no
    request is in flight, and the backend accelerates. -/
theorem released_and_driving :
    let s := run remoteStep (remoteStart pcInitial)
      [.page (.keyDown (.arrow .up)), .page (.keyUp (.arrow .up)), .handle 1, .handle 0]
    s.page.pressedKeys = initialPressedKeys ∧ s.inFlight = [] ∧
      s.sent = [.drive .forward, .drive .stop] ∧ s.handled = [.drive .stop, .drive .forward] ∧
      s.pc.control.accel = 1 := by
  refine ⟨?_, ?_, ?_, ?_, ?_⟩ <;> rfl

end KeyRelease
