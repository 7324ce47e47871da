import RemoteVehicle.Mailbox
import RemoteVehicle.ActFrameProofs

/-!
# The ACT mailbox between two statements

`ActCan_Update100us` one statement at a time, with the receive interrupt between any two
of them.  A called function counts as one statement: what `ActCan_EnterSafeState` and the
apply functions write, the interrupt neither reads nor writes.

* Without an interrupt the statements compute `actCanUpdate100us` (`statements_update`).
* The statements are those of the library's mailbox (`actBox_step`), and its law holds in
  every run whose interrupts agree with the fields already copied (`actLog_intact`).
-/

namespace ActMailbox

open Runs CanFrame ActMotor ActServo ActState ActUdsDiag ActCan ActSpec ActFrame
open HeldCommand (Op)
open Mailbox (FieldCopy Box Log Phase Intact)

/-! ## Statements -/

/-- The statement of `ActCan_Update100us` that comes next. -/
inductive UpdatePc where
  /-- `if (g_cmdTimeoutTick100us < LIMIT)`, also the point between two calls. -/
  | testCount
  /-- `g_cmdTimeoutTick100us++`. -/
  | bumpCount
  /-- `if (g_cmdTimeoutTick100us >= LIMIT)`. -/
  | testTimeout
  /-- `if (g_safeStateEnteredByTimeout == FALSE)`. -/
  | testLatch
  /-- `g_timeoutCount++`. -/
  | countLatch
  /-- `g_safeStateEnteredByTimeout = TRUE`. -/
  | setLatch
  /-- `ActCan_EnterSafeState(); return`. -/
  | enterSafe
  /-- `if (g_rxUpdated == TRUE)`. -/
  | testUpdated
  /-- The six copies. -/
  | copy (k : Fin 6)
  /-- `g_rxUpdated = FALSE`. -/
  | clearUpdated
  /-- What is done with the copies. -/
  | apply
deriving DecidableEq, Repr

/-- The ECU, the statement that comes next and the local variables, which are not
    initialised. -/
structure ActUpdate where
  pc : UpdatePc
  locals : ActCommand
  act : Act
deriving DecidableEq, Repr

/-- The six fields of a command in the order they are copied. -/
def actFields (c : ActCommand) : Fin 6 → UInt8 :=
  ![c.accelRaw, c.steeringRaw, c.brakeRaw, c.gearRaw, c.controlModeRaw, c.safetyOverrideRaw]

def actOfFields (f : Fin 6 → UInt8) : ActCommand := ⟨f 0, f 1, f 2, f 3, f 4, f 5⟩

theorem actFields_ofFields (f : Fin 6 → UInt8) : actFields (actOfFields f) = f := by
  funext i
  fin_cases i <;> rfl

/-- Copying a command field by field. -/
def actCopy : FieldCopy ActCommand :=
  FieldCopy.ofFields actFields actOfFields (fun _ => rfl) actFields_ofFields

/-- One statement. -/
def actStatement (u : ActUpdate) : ActUpdate :=
  let can := u.act.can
  match u.pc with
  | .testCount =>
      { u with pc := if can.cmdTimeoutTick100us < actCanCmdTimeout100usTicks then .bumpCount
        else .testTimeout }
  | .bumpCount =>
      { u with
        pc := .testTimeout
        act := { u.act with can :=
          { can with cmdTimeoutTick100us := can.cmdTimeoutTick100us + 1 } } }
  | .testTimeout =>
      { u with pc := if actCanCmdTimeout100usTicks ≤ can.cmdTimeoutTick100us then .testLatch
        else .testUpdated }
  | .testLatch =>
      { u with pc := if can.safeStateEnteredByTimeout = false then .countLatch
        else .enterSafe }
  | .countLatch =>
      { u with
        pc := .setLatch
        act := { u.act with can := { can with timeoutCount := can.timeoutCount + 1 } } }
  | .setLatch =>
      { u with
        pc := .enterSafe
        act := { u.act with can := { can with safeStateEnteredByTimeout := true } } }
  | .enterSafe => { u with pc := .testCount, act := actCanEnterSafeState u.act }
  | .testUpdated => { u with pc := if can.rxUpdated then .copy 0 else .testCount }
  | .copy k =>
      { u with
        pc := if h : k.val + 1 < 6 then .copy ⟨k.val + 1, h⟩ else .clearUpdated
        locals := actCopy.copyField k can.rx u.locals }
  | .clearUpdated =>
      { u with
        pc := .apply
        act := { u.act with can := { can with rxUpdated := false } } }
  | .apply => { u with pc := .testCount, act := applyCommand u.locals u.act }

/-- A received frame interrupts, or the next statement is executed. -/
inductive UpdateEvent where
  | rxIsr (m : CanMessage)
  | statement
deriving DecidableEq, Repr

def actUpdateStep (u : ActUpdate) : UpdateEvent → ActUpdate
  | .rxIsr m => { u with act := actCanRxIsrHandler m u.act }
  | .statement => actStatement u

/-- Between two calls. -/
def actIdle (locals : ActCommand) (s : Act) : ActUpdate := ⟨.testCount, locals, s⟩

/-- What the call does with the mailbox. -/
def applyUpdated (s : Act) : Act :=
  if s.can.rxUpdated then
    applyCommand s.can.rx { s with can := { s.can with rxUpdated := false } }
  else s

/-- The copies, one after the other: in the end the local variables hold the mailbox. -/
theorem statements_copy {s : Act} (l : ActCommand) :
    LeadsTo actUpdateStep .statement (fun u => u = ⟨.clearUpdated, s.can.rx, s⟩)
      ⟨.copy 0, l, s⟩ := by
  refine actCopy.leadsTo_copied (fun k l => (ActUpdate.mk (.copy k) l s))
    (fun c => ActUpdate.mk .clearUpdated c s) ?_ ?_ 5 (0 : Fin 6) l rfl (actCopy.agree_zero _ _)
  · intro k l hlt
    have hnext : k.val + 1 < 6 := hlt
    simp only [actUpdateStep, actStatement, dif_pos hnext]
    rfl
  · intro k l hk
    have hk : k.val + 1 = 6 := hk
    simp [actUpdateStep, actStatement, hk]

/-- From the flag test to the end of the call. -/
theorem statements_updated {s : Act} {l : ActCommand} :
    LeadsTo actUpdateStep .statement (fun u => u.pc = .testCount ∧ u.act = applyUpdated s)
      ⟨.testUpdated, l, s⟩ := by
  refine leadsTo_step ?_
  by_cases hf : s.can.rxUpdated = true
  · have hstart : actUpdateStep ⟨.testUpdated, l, s⟩ .statement = ⟨.copy 0, l, s⟩ := by
      simp only [actUpdateStep, actStatement, hf]
      rfl
    rw [hstart, applyUpdated, if_pos hf]
    refine leadsTo_trans (statements_copy l) ?_
    rintro _ rfl
    -- the flag is lowered and what was copied is applied
    exact ⟨2, rfl, rfl⟩
  · have hstart : actUpdateStep ⟨.testUpdated, l, s⟩ .statement = ⟨.testCount, l, s⟩ := by
      simp only [actUpdateStep, actStatement, if_neg hf]
    rw [hstart, applyUpdated, if_neg hf]
    exact leadsTo_now ⟨rfl, rfl⟩

/-- **Without an interrupt the statements compute `ActCan_Update100us`.** -/
theorem statements_update (l : ActCommand) (s : Act) :
    LeadsTo actUpdateStep .statement (fun u => u.pc = .testCount ∧
      u.act = actCanUpdate100us s) (actIdle l s) := by
  have hcount : LeadsTo actUpdateStep .statement
      (fun u => u = ⟨.testTimeout, l, countTimeout s⟩) (actIdle l s) := by
    refine leadsTo_step ?_
    rw [countTimeout]
    by_cases hc : s.can.cmdTimeoutTick100us < actCanCmdTimeout100usTicks
    · have hstart : actUpdateStep (actIdle l s) .statement = ⟨.bumpCount, l, s⟩ := by
        simp [actUpdateStep, actStatement, actIdle, hc]
      rw [hstart, if_pos hc]
      exact ⟨1, rfl⟩
    · have hstart : actUpdateStep (actIdle l s) .statement = ⟨.testTimeout, l, s⟩ := by
        simp [actUpdateStep, actStatement, actIdle, hc]
      rw [hstart, if_neg hc]
      exact leadsTo_now rfl
  refine leadsTo_trans hcount ?_
  rintro _ rfl
  refine leadsTo_step ?_
  rw [actCanUpdate100us]
  by_cases hexp : actCanCmdTimeout100usTicks ≤ (countTimeout s).can.cmdTimeoutTick100us
  · have hstart : actUpdateStep ⟨.testTimeout, l, countTimeout s⟩ .statement =
        ⟨.testLatch, l, countTimeout s⟩ := by
      simp only [actUpdateStep, actStatement, if_pos hexp]
    rw [hstart, if_pos hexp, latchTimeout]
    refine leadsTo_step ?_
    by_cases hl : (countTimeout s).can.safeStateEnteredByTimeout = false
    · have hlatch : actUpdateStep ⟨.testLatch, l, countTimeout s⟩ .statement =
          ⟨.countLatch, l, countTimeout s⟩ := by
        simp only [actUpdateStep, actStatement, if_pos hl]
      rw [hlatch, if_pos hl]
      exact ⟨3, rfl, rfl⟩
    · have hlatch : actUpdateStep ⟨.testLatch, l, countTimeout s⟩ .statement =
          ⟨.enterSafe, l, countTimeout s⟩ := by
        simp only [actUpdateStep, actStatement, if_neg hl]
      rw [hlatch, if_neg hl]
      exact ⟨1, rfl, rfl⟩
  · have hstart : actUpdateStep ⟨.testTimeout, l, countTimeout s⟩ .statement =
        ⟨.testUpdated, l, countTimeout s⟩ := by
      simp only [actUpdateStep, actStatement, if_neg hexp]
    rw [hstart, if_neg hexp]
    exact statements_updated

/-! ## The library's mailbox inside ACT -/

/-- Where a statement is, for the library. -/
def actPhase : UpdatePc → Phase
  | .copy k => .copying k
  | .clearUpdated => .copying 6
  | .apply => .holding
  | _ => .away

/-- Mailbox, flag and local variables. -/
def actBox (u : ActUpdate) : Box ActCommand where
  box := u.act.can.rx
  fresh := u.act.can.rxUpdated
  phase := actPhase u.pc
  copy := u.locals

/-- What an event is for the library. -/
def actMailOps (u : ActUpdate) : UpdateEvent → List (Mailbox.Op ActCommand)
  | .rxIsr m => (accepted m).toList.map .store
  | .statement =>
      match u.pc with
      | .testCount => [.begin]
      | .enterSafe => [.skip]
      | .testUpdated => if u.act.can.rxUpdated then [.look] else [.miss]
      | .copy _ => [.copy]
      | .clearUpdated => [.clear]
      | .apply => [.hand u.locals]
      | _ => []

/-- Frames that are no command leave the mailbox alone. -/
theorem actBox_rejected {m : CanMessage} (h : accepted m = none) (u : ActUpdate) :
    actBox (actUpdateStep u (.rxIsr m)) = actBox u := by
  show actBox { u with act := actCanRxIsrHandler m u.act } = actBox u
  rcases rxIsr_cases m u.act with ⟨c, hc, -⟩ | ⟨-, hs | hs⟩
  · rw [h] at hc
    exact absurd hc (by simp)
  · rw [hs]; rfl
  · rw [hs]; rfl

/-- **The statements are those of the library's mailbox.** -/
theorem actBox_step (u : ActUpdate) (e : UpdateEvent) :
    actBox (actUpdateStep u e) = run (Box.step actCopy) (actBox u) (actMailOps u e) := by
  cases e with
  | rxIsr m =>
      rcases hc : accepted m with _ | c
      · simp only [actMailOps, hc]
        exact actBox_rejected hc u
      · show actBox { u with act := actCanRxIsrHandler m u.act } = _
        simp only [actMailOps, hc, rxIsr_accepted hc]
        rfl
  | statement =>
      obtain ⟨pc, l, s⟩ := u
      cases pc with
      | testCount =>
          show actBox (actStatement _) = _
          simp only [actStatement]
          split <;> rfl
      | bumpCount => rfl
      | testTimeout =>
          show actBox (actStatement _) = _
          simp only [actStatement]
          split <;> rfl
      | testLatch =>
          show actBox (actStatement _) = _
          simp only [actStatement]
          split <;> rfl
      | countLatch => rfl
      | setLatch => rfl
      | enterSafe => rfl
      | testUpdated =>
          show actBox (actStatement _) = _
          simp only [actStatement, actMailOps]
          split <;> rfl
      | copy k =>
          show actBox (actStatement _) = _
          simp only [actStatement, actMailOps]
          -- the sixth field ends the copying
          by_cases hk : k.val + 1 < 6
          · rw [dif_pos hk]
            rfl
          · have hsix : k.val + 1 = 6 := by omega
            rw [dif_neg hk]
            show _ = Box.mk _ _ (Phase.copying (k.val + 1)) _
            rw [hsix]
            rfl
      | clearUpdated => rfl
      | apply =>
          have hlatch := applyCommand_spec l s
          have hbox : (applyCommand l s).can.rx = s.can.rx :=
            congrArg HeldCommand.Latch.box hlatch
          have hfresh : (applyCommand l s).can.rxUpdated = s.can.rxUpdated :=
            congrArg HeldCommand.Latch.fresh hlatch
          show Box.mk (applyCommand l s).can.rx (applyCommand l s).can.rxUpdated .away l = _
          rw [hbox, hfresh]
          rfl

/-! ## Runs -/

/-- How many fields are copied at a statement. -/
def copied : UpdatePc → Nat
  | .copy k => k
  | .clearUpdated => 6
  | _ => 0

theorem copied_of_phase {pc : UpdatePc} {k : Nat} (h : actPhase pc = .copying k) :
    copied pc = k := by
  cases pc <;> cases h <;> rfl

/-- An accepted command agrees with what is copied of the one before it.  Every frame does
    that arrives outside the copying part of a call. -/
def ActAgrees (u : ActUpdate) : UpdateEvent → Prop
  | .rxIsr m => ∀ c, accepted m = some c → actCopy.Agree (copied u.pc) c u.locals
  | .statement => True

instance (k : Nat) (a b : ActCommand) : Decidable (actCopy.Agree k a b) :=
  inferInstanceAs (Decidable (∀ i : Fin 6, i.val < k → actFields a i = actFields b i))

instance (u : ActUpdate) : ∀ e, Decidable (ActAgrees u e)
  | .rxIsr m =>
      inferInstanceAs (Decidable (∀ c, accepted m = some c →
        actCopy.Agree (copied u.pc) c u.locals))
  | .statement => inferInstanceAs (Decidable True)

/-- What was stored and handed to the apply functions in a run. -/
def actLogRun (s : Act) (l : ActCommand) (es : List UpdateEvent) :
    ActUpdate × Log ActCommand :=
  run (withSpec actUpdateStep Log.step actMailOps) (actIdle l s, Log.empty) es

/-- How far a new command can have been counted. -/
def allowance : UpdatePc → Nat
  | .testTimeout => 1
  | .testUpdated => 1
  | .copy _ => 1
  | .clearUpdated => 1
  | _ => 0

/-- The branch of the time-out. -/
def Expired : UpdatePc → Prop
  | .testLatch => True
  | .countLatch => True
  | .setLatch => True
  | .enterSafe => True
  | _ => False

/-- The library's invariant, and why a call that times out has missed nothing: a new
    command has been counted once at most. -/
structure ActMailInv (u : ActUpdate) (l : Log ActCommand) : Prop where
  inv : Mailbox.Inv actCopy (actBox u, l)
  young : u.act.can.rxUpdated = true → u.act.can.cmdTimeoutTick100us ≤ allowance u.pc
  missed : Expired u.pc → l.begun = true → u.act.can.rxUpdated = false

/-- One operation of the library. -/
theorem inv_one {u v : ActUpdate} {l : Log ActCommand} (op : Mailbox.Op ActCommand)
    (h : Mailbox.Inv actCopy (actBox u, l)) (hbox : actBox v = (actBox u).step actCopy op)
    (hok : Mailbox.Ok actCopy (actBox u, l) op) :
    Mailbox.Inv actCopy (actBox v, l.step op) := by
  rw [hbox]
  exact Mailbox.inv_step h op hok

theorem actMailInv_rxIsr {u : ActUpdate} {l : Log ActCommand} (h : ActMailInv u l)
    (m : CanMessage) (hok : ActAgrees u (.rxIsr m)) :
    ActMailInv (actUpdateStep u (.rxIsr m)) (run Log.step l (actMailOps u (.rxIsr m))) := by
  rcases hc : accepted m with _ | c
  · have hbox := actBox_rejected hc u
    simp only [actMailOps, hc]
    refine ⟨by rw [hbox]; exact h.inv, ?_, ?_⟩
    · rcases rxIsr_cases m u.act with ⟨c, hc', -⟩ | ⟨-, hs | hs⟩
      · rw [hc] at hc'
        exact absurd hc' (by simp)
      · simp only [actUpdateStep, hs]
        exact h.young
      · simp only [actUpdateStep, hs]
        exact h.young
    · intro hexp hb
      exact (congrArg Box.fresh hbox).trans (h.missed hexp hb)
  · have hstep : actUpdateStep u (.rxIsr m) = { u with act := storeCommand c u.act } := by
      simp only [actUpdateStep, rxIsr_accepted hc]
    have hops : actMailOps u (.rxIsr m) = [.store c] := by
      simp only [actMailOps, hc]
      rfl
    have hagree := hok c hc
    rw [hops, hstep]
    refine ⟨inv_one (.store c) h.inv rfl ?_, fun _ => Nat.zero_le _, ?_⟩
    · intro k hk
      rw [copied_of_phase hk] at hagree
      exact hagree
    · intro _ hb
      exact absurd hb (by simp [run, Log.step])

theorem actMailInv_statement {u : ActUpdate} {l : Log ActCommand} (h : ActMailInv u l) :
    ActMailInv (actStatement u) (run Log.step l (actMailOps u .statement)) := by
  have hbox : actBox (actStatement u) =
      run (Box.step actCopy) (actBox u) (actMailOps u .statement) := actBox_step u .statement
  obtain ⟨hinv, hyoung, hmissed⟩ := h
  obtain ⟨pc, c, s⟩ := u
  cases pc with
  | testCount =>
      refine ⟨inv_one .begin hinv hbox rfl, ?_, ?_⟩
      · simp only [actStatement]
        split <;> exact fun hf => Nat.le_trans (hyoung hf) (Nat.zero_le _)
      · simp only [actStatement]
        split <;> exact fun hexp => hexp.elim
  | bumpCount =>
      refine ⟨?_, ?_, fun hexp => hexp.elim⟩
      · rw [hbox]; exact hinv
      · intro hf
        exact Nat.succ_le_succ (hyoung hf)
  | testTimeout =>
      -- a new command has been counted once at most, so it cannot time out here
      have hfresh : actCanCmdTimeout100usTicks ≤ s.can.cmdTimeoutTick100us →
          s.can.rxUpdated = false := by
        intro hexp
        rcases hf : s.can.rxUpdated with _ | _
        · rfl
        · have hle : s.can.cmdTimeoutTick100us ≤ 1 := hyoung hf
          rw [actCanCmdTimeout100usTicks] at hexp
          omega
      refine ⟨by rw [hbox]; exact hinv, ?_, ?_⟩
      · simp only [actStatement]
        split
        · rename_i hexp
          intro hf
          rw [hfresh hexp] at hf
          exact absurd hf (by simp)
        · exact hyoung
      · simp only [actStatement]
        split
        · rename_i hexp
          exact fun _ _ => hfresh hexp
        · exact fun hexp => hexp.elim
  | testLatch =>
      refine ⟨by rw [hbox]; exact hinv, ?_, ?_⟩
      · simp only [actStatement]
        split <;> exact hyoung
      · simp only [actStatement]
        split <;> exact fun _ => hmissed trivial
  | countLatch => exact ⟨by rw [hbox]; exact hinv, hyoung, fun _ => hmissed trivial⟩
  | setLatch => exact ⟨by rw [hbox]; exact hinv, hyoung, fun _ => hmissed trivial⟩
  | enterSafe =>
      exact ⟨inv_one .skip hinv hbox ⟨rfl, hmissed trivial⟩, hyoung, fun hexp => hexp.elim⟩
  | testUpdated =>
      by_cases hf : s.can.rxUpdated = true
      · have hops : actMailOps ⟨.testUpdated, c, s⟩ .statement = [.look] := by
          simp only [actMailOps, hf]
          rfl
        rw [hops] at hbox ⊢
        refine ⟨inv_one .look hinv hbox ⟨rfl, hf⟩, ?_, ?_⟩
        · simp only [actStatement, if_pos hf]
          exact hyoung
        · simp only [actStatement, if_pos hf]
          exact fun hexp => hexp.elim
      · have hops : actMailOps ⟨.testUpdated, c, s⟩ .statement = [.miss] := by
          simp only [actMailOps, if_neg hf]
        have hfalse : s.can.rxUpdated = false := Bool.not_eq_true _ |>.mp hf
        rw [hops] at hbox ⊢
        refine ⟨inv_one .miss hinv hbox ⟨rfl, hfalse⟩, ?_, ?_⟩
        · simp only [actStatement, if_neg hf]
          exact fun hfresh => absurd hfresh hf
        · simp only [actStatement, if_neg hf]
          exact fun hexp => hexp.elim
  | copy k =>
      refine ⟨inv_one .copy hinv hbox ⟨k, k.isLt, rfl⟩, ?_, ?_⟩
      · simp only [actStatement]
        split <;> exact hyoung
      · simp only [actStatement]
        split <;> exact fun hexp => hexp.elim
  | clearUpdated =>
      refine ⟨inv_one .clear hinv hbox rfl, ?_, fun hexp => hexp.elim⟩
      intro hf
      exact absurd (show false = true from hf) (by simp)
  | apply =>
      have hlatch := applyCommand_spec c s
      have hfresh : (applyCommand c s).can.rxUpdated = s.can.rxUpdated :=
        congrArg HeldCommand.Latch.fresh hlatch
      have hcount : (applyCommand c s).can.cmdTimeoutTick100us =
          s.can.cmdTimeoutTick100us := congrArg HeldCommand.Latch.counter hlatch
      refine ⟨inv_one (.hand c) hinv hbox ⟨rfl, rfl⟩, ?_, fun hexp => hexp.elim⟩
      intro hf
      show (applyCommand c s).can.cmdTimeoutTick100us ≤ 0
      rw [hcount]
      exact hyoung (hfresh.symm.trans hf)

/-- **Run lemma**, for runs whose interrupts agree with what is copied. -/
theorem actLog_intact {s : Act} {c : ActCommand} {es : List UpdateEvent}
    (hes : AllSteps actUpdateStep ActAgrees (actIdle c (actCanInit s)) es) :
    Intact (actLogRun (actCanInit s) c es).2 := by
  have hstart : ActMailInv (actIdle c (actCanInit s)) Log.empty := by
    refine ⟨Mailbox.inv_empty actCopy rfl rfl, ?_, fun hexp => hexp.elim⟩
    intro hf
    exact absurd (show false = true from hf) (by simp)
  have hstep : ∀ (u : ActUpdate) (l : Log ActCommand) (e : UpdateEvent), ActMailInv u l →
      ActAgrees u e → ActMailInv (actUpdateStep u e) (run Log.step l (actMailOps u e)) := by
    intro u l e h hok
    cases e with
    | rxIsr m => exact actMailInv_rxIsr h m hok
    | statement => exact actMailInv_statement h
  exact (run_simulation actMailOps ActMailInv hstep hstart hes).inv.intact

end ActMailbox
