import RemoteVehicle.Mailbox
import RemoteVehicle.BodyCommandProofs

/-!
# The BODY mailbox between two statements

`BodyCan_Update1ms` one statement at a time, as `ActMailbox` does it for ACT.  The
differences: the time-out does not end the call, so every call looks at the flag; and the
call goes on after it is done with the mailbox.
-/

namespace BodyMailbox

open Runs CanFrame BodyState BodyUds BodyCan BodySpec BodyCommand
open Mailbox (FieldCopy Box Log Phase Intact)

/-! ## Statements -/

/-- The statement of `BodyCan_Update1ms` that comes next. -/
inductive UpdatePc where
  /-- `g_bodyCanTimeMs++`, also the point between two calls. -/
  | countTime
  /-- `if (g_cmdTimeoutMs < LIMIT)`. -/
  | testCount
  /-- `g_cmdTimeoutMs++`. -/
  | bumpCount
  /-- `if (g_cmdTimeoutMs >= LIMIT)`. -/
  | testTimeout
  /-- `BodyCan_EnterSafeState()`. -/
  | enterSafe
  /-- `if (g_rxUpdated == TRUE)`. -/
  | testUpdated
  /-- The six copies. -/
  | copy (k : Fin 6)
  /-- `g_rxUpdated = FALSE`. -/
  | clearUpdated
  /-- `BodyCan_ApplyBodyCommand` with the copies. -/
  | apply
  /-- Request, collision event and heartbeat. -/
  | serve
deriving DecidableEq, Repr

/-- The ECU, the statement that comes next and the local variables. -/
structure BodyUpdate where
  pc : UpdatePc
  locals : BodyCommand
  body : Body
deriving DecidableEq, Repr

/-- The six fields of a command in the order they are copied. -/
def bodyFields (c : BodyCommand) : Fin 6 → UInt8 :=
  ![c.headlampRaw, c.turnSignalRaw, c.brakeLampRaw, c.hornRaw, c.collisionWarningRaw,
    c.controlModeRaw]

local instance fieldCount_neZero : NeZero 6 := ⟨by decide⟩

def bodyOfFields (f : Fin 6 → UInt8) : BodyCommand := ⟨f 0, f 1, f 2, f 3, f 4, f 5⟩

theorem bodyFields_ofFields (f : Fin 6 → UInt8) : bodyFields (bodyOfFields f) = f := by
  funext i
  fin_cases i <;> rfl

/-- Copying a command field by field. -/
def bodyCopy : FieldCopy BodyCommand :=
  FieldCopy.ofFields bodyFields bodyOfFields (fun _ => rfl) bodyFields_ofFields

/-- One statement. -/
def bodyStatement (inp : BodyInputs) (u : BodyUpdate) : BodyUpdate :=
  let can := u.body.can
  match u.pc with
  | .countTime =>
      { u with
        pc := .testCount
        body := { u.body with can := { can with bodyCanTimeMs := can.bodyCanTimeMs + 1 } } }
  | .testCount =>
      { u with pc := if can.cmdTimeoutMs < bodyCanCmdTimeoutMs then .bumpCount
        else .testTimeout }
  | .bumpCount =>
      { u with
        pc := .testTimeout
        body := { u.body with can := { can with cmdTimeoutMs := can.cmdTimeoutMs + 1 } } }
  | .testTimeout =>
      { u with pc := if bodyCanCmdTimeoutMs ≤ can.cmdTimeoutMs then .enterSafe
        else .testUpdated }
  | .enterSafe => { u with pc := .testUpdated, body := bodyCanEnterSafeState inp u.body }
  | .testUpdated => { u with pc := if can.rxUpdated then .copy 0 else .serve }
  | .copy k =>
      { u with
        pc := if h : k.val + 1 < 6 then .copy ⟨k.val + 1, h⟩ else .clearUpdated
        locals := bodyCopy.copyField k can.rx u.locals }
  | .clearUpdated =>
      { u with
        pc := .apply
        body := { u.body with can := { can with rxUpdated := false } } }
  | .apply => { u with pc := .serve, body := bodyCanApplyBodyCommand inp u.locals u.body }
  | .serve => { u with pc := .countTime, body := serveRequestsAndSend inp u.body }

/-- A received frame interrupts, or the next statement is executed. -/
inductive UpdateEvent where
  | rxIsr (m : CanMessage)
  | statement (inp : BodyInputs)

def bodyUpdateStep (u : BodyUpdate) : UpdateEvent → BodyUpdate
  | .rxIsr m => { u with body := bodyCanRxIsrHandler m u.body }
  | .statement inp => bodyStatement inp u

/-- Between two calls. -/
def bodyIdle (locals : BodyCommand) (s : Body) : BodyUpdate := ⟨.countTime, locals, s⟩

/-- The copies, one after the other: in the end the local variables hold the mailbox. -/
theorem statements_copy (inp : BodyInputs) {s : Body} (l : BodyCommand) :
    LeadsTo bodyUpdateStep (.statement inp) (fun u => u = ⟨.clearUpdated, s.can.rx, s⟩)
      ⟨.copy 0, l, s⟩ := by
  refine bodyCopy.leadsTo_copied (fun k l => (BodyUpdate.mk (.copy k) l s))
    (fun c => BodyUpdate.mk .clearUpdated c s) ?_ ?_ 5 (0 : Fin 6) l rfl (bodyCopy.agree_zero _ _)
  · intro k l hlt
    have hnext : k.val + 1 < 6 := hlt
    simp only [bodyUpdateStep, bodyStatement, dif_pos hnext]
    rfl
  · intro k l hk
    have hk : k.val + 1 = 6 := hk
    simp [bodyUpdateStep, bodyStatement, hk]

/-- From the flag test to the end of the call. -/
theorem statements_updated (inp : BodyInputs) {s : Body} {l : BodyCommand} :
    LeadsTo bodyUpdateStep (.statement inp)
      (fun u => u.pc = .countTime ∧ u.body = serveRequestsAndSend inp (applyUpdated inp s))
      ⟨.testUpdated, l, s⟩ := by
  refine leadsTo_step ?_
  by_cases hf : s.can.rxUpdated = true
  · have hstart : bodyUpdateStep ⟨.testUpdated, l, s⟩ (.statement inp) = ⟨.copy 0, l, s⟩ := by
      simp [bodyUpdateStep, bodyStatement, hf]
    rw [hstart, applyUpdated, if_pos hf]
    refine leadsTo_trans (statements_copy inp l) ?_
    rintro _ rfl
    -- the flag is lowered, what was copied is applied, and the rest is done
    exact ⟨3, rfl, rfl⟩
  · have hstart : bodyUpdateStep ⟨.testUpdated, l, s⟩ (.statement inp) = ⟨.serve, l, s⟩ := by
      simp [bodyUpdateStep, bodyStatement, hf]
    rw [hstart, applyUpdated, if_neg hf]
    exact ⟨1, rfl, rfl⟩

/-- **Without an interrupt the statements compute `BodyCan_Update1ms`.** -/
theorem statements_update (inp : BodyInputs) (l : BodyCommand) (s : Body) :
    LeadsTo bodyUpdateStep (.statement inp)
      (fun u => u.pc = .countTime ∧ u.body = bodyCanUpdate1ms inp s) (bodyIdle l s) := by
  have hcount : LeadsTo bodyUpdateStep (.statement inp)
      (fun u => u = ⟨.testTimeout, l, countTimeout s⟩) (bodyIdle l s) := by
    refine leadsTo_step (leadsTo_step ?_)
    rw [countTimeout]
    by_cases hc : s.can.cmdTimeoutMs < bodyCanCmdTimeoutMs
    · rw [if_pos hc]
      refine ⟨1, ?_⟩
      simp [bodyUpdateStep, bodyStatement, bodyIdle, hc]
    · rw [if_neg hc]
      refine ⟨0, ?_⟩
      simp [bodyUpdateStep, bodyStatement, bodyIdle, hc]
  refine leadsTo_trans hcount ?_
  rintro _ rfl
  refine leadsTo_step ?_
  rw [bodyCanUpdate1ms, checkTimeout]
  by_cases hexp : bodyCanCmdTimeoutMs ≤ (countTimeout s).can.cmdTimeoutMs
  · have hstart : bodyUpdateStep ⟨.testTimeout, l, countTimeout s⟩ (.statement inp) =
        ⟨.enterSafe, l, countTimeout s⟩ := by
      simp only [bodyUpdateStep, bodyStatement, if_pos hexp]
    rw [hstart, if_pos hexp]
    exact leadsTo_step (statements_updated inp)
  · have hstart : bodyUpdateStep ⟨.testTimeout, l, countTimeout s⟩ (.statement inp) =
        ⟨.testUpdated, l, countTimeout s⟩ := by
      simp only [bodyUpdateStep, bodyStatement, if_neg hexp]
    rw [hstart, if_neg hexp]
    exact statements_updated inp

/-! ## The library's mailbox inside BODY -/

/-- Where a statement is, for the library. -/
def bodyPhase : UpdatePc → Phase
  | .copy k => .copying k
  | .clearUpdated => .copying 6
  | .apply => .holding
  | _ => .away

/-- Mailbox, flag and local variables. -/
def bodyBox (u : BodyUpdate) : Box BodyCommand where
  box := u.body.can.rx
  fresh := u.body.can.rxUpdated
  phase := bodyPhase u.pc
  copy := u.locals

/-- What an event is for the library.  A call counts as done once it is done with the
    mailbox. -/
def bodyMailOps (u : BodyUpdate) : UpdateEvent → List (Mailbox.Op BodyCommand)
  | .rxIsr m => (accepted m).toList.map .store
  | .statement _ =>
      match u.pc with
      | .countTime => [.begin]
      | .testUpdated => if u.body.can.rxUpdated then [.look] else [.miss]
      | .copy _ => [.copy]
      | .clearUpdated => [.clear]
      | .apply => [.hand u.locals]
      | _ => []

/-- A call that keeps the latch keeps mailbox and flag. -/
theorem bodyBox_congr {pc pc' : UpdatePc} {l : BodyCommand} {s t : Body}
    (h : ∃ o, bodyLatch t = { bodyLatch s with out := o }) (hp : bodyPhase pc' = bodyPhase pc) :
    bodyBox ⟨pc', l, t⟩ = bodyBox ⟨pc, l, s⟩ := by
  obtain ⟨o, hlatch⟩ := h
  have hbox : t.can.rx = s.can.rx := congrArg HeldCommand.Latch.box hlatch
  have hfresh : t.can.rxUpdated = s.can.rxUpdated := congrArg HeldCommand.Latch.fresh hlatch
  simp only [bodyBox, hbox, hfresh, hp]

/-- **The statements are those of the library's mailbox.** -/
theorem bodyBox_step (u : BodyUpdate) (e : UpdateEvent) :
    bodyBox (bodyUpdateStep u e) = run (Box.step bodyCopy) (bodyBox u) (bodyMailOps u e) := by
  obtain ⟨pc, l, s⟩ := u
  cases e with
  | rxIsr m =>
      rcases hc : accepted m with _ | c
      · simp only [bodyMailOps, hc]
        exact bodyBox_congr ⟨(bodyLatch s).out, bodyLatch_rejected hc s⟩ rfl
      · show bodyBox ⟨pc, l, bodyCanRxIsrHandler m s⟩ = _
        simp only [bodyMailOps, hc, rxIsr_accepted hc]
        rfl
  | statement inp =>
      show bodyBox (bodyStatement inp _) = _
      cases pc with
      | countTime => rfl
      | testCount =>
          simp only [bodyStatement]
          split <;> rfl
      | bumpCount => rfl
      | testTimeout =>
          simp only [bodyStatement]
          split <;> rfl
      | enterSafe => rfl
      | testUpdated =>
          simp only [bodyStatement, bodyMailOps]
          split <;> rfl
      | copy k =>
          simp only [bodyStatement, bodyMailOps]
          -- the sixth field ends the copying
          by_cases hk : k.val + 1 < 6
          · rw [dif_pos hk]
            rfl
          · have hsix : k.val + 1 = 6 := by omega
            rw [dif_neg hk]
            show _ = Box.mk _ _ (Phase.copying (k.val + 1)) _
            rw [hsix]
            rfl
      | clearUpdated => rfl
      | apply =>
          have hlatch := bodyLatch_apply inp l s
          have hbox : (bodyCanApplyBodyCommand inp l s).can.rx = s.can.rx :=
            congrArg HeldCommand.Latch.box hlatch
          have hfresh : (bodyCanApplyBodyCommand inp l s).can.rxUpdated = s.can.rxUpdated :=
            congrArg HeldCommand.Latch.fresh hlatch
          show Box.mk (bodyCanApplyBodyCommand inp l s).can.rx
            (bodyCanApplyBodyCommand inp l s).can.rxUpdated .away l = _
          rw [hbox, hfresh]
          rfl
      | serve =>
          exact bodyBox_congr ⟨_, bodyLatch_serveRequestsAndSend inp s⟩ rfl

/-! ## Runs -/

/-- How many fields are copied at a statement. -/
def copied : UpdatePc → Nat
  | .copy k => k
  | .clearUpdated => 6
  | _ => 0

theorem copied_of_phase {pc : UpdatePc} {k : Nat} (h : bodyPhase pc = .copying k) :
    copied pc = k := by
  cases pc <;> cases h <;> rfl

/-- An accepted command agrees with what is copied of the one before it. -/
def BodyAgrees (u : BodyUpdate) : UpdateEvent → Prop
  | .rxIsr m => ∀ c, accepted m = some c → bodyCopy.Agree (copied u.pc) c u.locals
  | .statement _ => True

instance (k : Nat) (a b : BodyCommand) : Decidable (bodyCopy.Agree k a b) :=
  inferInstanceAs (Decidable (∀ i : Fin 6, i.val < k → bodyFields a i = bodyFields b i))

instance (u : BodyUpdate) : ∀ e, Decidable (BodyAgrees u e)
  | .rxIsr m =>
      inferInstanceAs (Decidable (∀ c, accepted m = some c →
        bodyCopy.Agree (copied u.pc) c u.locals))
  | .statement _ => inferInstanceAs (Decidable True)

/-- What was stored and handed to the apply function in a run. -/
def bodyLogRun (s : Body) (l : BodyCommand) (es : List UpdateEvent) :
    BodyUpdate × Log BodyCommand :=
  run (withSpec bodyUpdateStep Log.step bodyMailOps) (bodyIdle l s, Log.empty) es

/-- **Step lemma.** -/
theorem bodyInv_step (u : BodyUpdate) (l : Log BodyCommand) (e : UpdateEvent)
    (h : Mailbox.Inv bodyCopy (bodyBox u, l)) (hok : BodyAgrees u e) :
    Mailbox.Inv bodyCopy (bodyBox (bodyUpdateStep u e), run Log.step l (bodyMailOps u e)) := by
  rw [bodyBox_step u e]
  cases e with
  | rxIsr m =>
      rcases hc : accepted m with _ | c
      · simp only [bodyMailOps, hc]
        exact h
      · have hops : bodyMailOps u (.rxIsr m) = [.store c] := by
          simp only [bodyMailOps, hc]
          rfl
        rw [hops]
        refine Mailbox.inv_step h (.store c) ?_
        -- a store in the middle of a copy agrees with what is copied
        intro k hk
        have hagree := hok c hc
        rw [copied_of_phase hk] at hagree
        exact hagree
  | statement inp =>
      obtain ⟨pc, c, s⟩ := u
      cases pc with
      | countTime => exact Mailbox.inv_begin h rfl
      | testUpdated =>
          by_cases hf : s.can.rxUpdated = true
          · have hops : bodyMailOps ⟨.testUpdated, c, s⟩ (.statement inp) = [.look] := by
              simp only [bodyMailOps, if_pos hf]
            rw [hops]
            exact Mailbox.inv_look h hf
          · have hops : bodyMailOps ⟨.testUpdated, c, s⟩ (.statement inp) = [.miss] := by
              simp only [bodyMailOps, if_neg hf]
            have hfalse : s.can.rxUpdated = false := Bool.not_eq_true _ |>.mp hf
            rw [hops]
            exact Mailbox.inv_finish h rfl fun _ => hfalse
      | copy k => exact Mailbox.inv_copy h k.isLt rfl
      | clearUpdated => exact Mailbox.inv_clear h rfl
      | apply => exact Mailbox.inv_hand h rfl
      | _ => exact h

/-- **Run lemma**, for runs whose interrupts agree with what is copied. -/
theorem bodyLog_intact {init : BodyInputs} {s : Body} {c : BodyCommand}
    {es : List UpdateEvent}
    (hes : AllSteps bodyUpdateStep BodyAgrees (bodyIdle c (bodyCanInit init s)) es) :
    Intact (bodyLogRun (bodyCanInit init s) c es).2 := by
  have hstart : Mailbox.Inv bodyCopy (bodyBox (bodyIdle c (bodyCanInit init s)), Log.empty) :=
    Mailbox.inv_empty bodyCopy rfl rfl
  exact (run_simulation bodyMailOps (fun u l => Mailbox.Inv bodyCopy (bodyBox u, l))
    bodyInv_step hstart hes).intact

end BodyMailbox
