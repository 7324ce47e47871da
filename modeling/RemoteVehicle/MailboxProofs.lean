import RemoteVehicle.ActMailbox
import RemoteVehicle.BodyMailbox
import RemoteVehicle.ActLoop

/-!
# The command mailboxes are not atomic

Both receivers copy the mailbox field by field and lower the flag afterwards, while the
interrupt may store a new command at any moment.

* A command that arrives between two copies is mixed with the one before it.
* A command that arrives after the copies and before the flag is lowered is dropped with
  it: the old command is applied and stays in force.

`mailbox_atomic` is what remains: no command is torn or lost in a run in which every
accepted frame agrees with the fields already copied — in particular when none arrives
while the mailbox is copied.
-/

namespace MailboxLaw

open Runs CanFrame ActState ActCan ActSpec BodyState BodyCan
open ActLoop (restReset actReset restInputs)
open ActMailbox (actUpdateStep ActAgrees actIdle actLogRun actLog_intact)
open BodyMailbox (bodyUpdateStep BodyAgrees bodyIdle bodyLogRun bodyLog_intact)
open BodySpec (restBodyInputs lampFrame hazardFrame)
open Mailbox (Log Intact)

/-- The mailbox law, on both ECUs and for every placement of the interrupts. -/
def MailboxAtomicity : Prop :=
  (∀ (s : Act) (c : ActCommand) (es : List ActMailbox.UpdateEvent),
    Intact (actLogRun (actCanInit s) c es).2) ∧
  (∀ (init : BodyInputs) (s : Body) (c : BodyCommand) (es : List BodyMailbox.UpdateEvent),
    Intact (bodyLogRun (bodyCanInit init s) c es).2)

/-- **THE MAILBOX LAW**, for runs whose interrupts agree with what is copied. -/
theorem mailbox_atomic (s : Act) (c : ActCommand) (es : List ActMailbox.UpdateEvent)
    (init : BodyInputs) (t : Body) (d : BodyCommand) (fs : List BodyMailbox.UpdateEvent)
    (hact : AllSteps actUpdateStep ActAgrees (actIdle c (actCanInit s)) es)
    (hbody : AllSteps bodyUpdateStep BodyAgrees (bodyIdle d (bodyCanInit init t)) fs) :
    Intact (actLogRun (actCanInit s) c es).2 ∧
      Intact (bodyLogRun (bodyCanInit init t) d fs).2 :=
  ⟨actLog_intact hact, bodyLog_intact hbody⟩

/-! ## Runs with an interrupt inside the copies -/

/-- `n` statements of ACT. -/
def actStatements (n : Nat) : List ActMailbox.UpdateEvent := List.replicate n .statement

/-- `n` statements of BODY. -/
def bodyStatements (n : Nat) : List BodyMailbox.UpdateEvent :=
  List.replicate n (.statement restBodyInputs)

/-- Both ECUs after initialisation. -/
def actStart : Act := (actReset restReset).act
def bodyStart : Body := ⟨BodyControl.init restBodyInputs, bodyCanInitCan, []⟩

/-- The local variables before the first call. -/
def noActCommand : ActCommand := ⟨0, 0, 0, 0, 0, 0⟩
def noBodyCommand : BodyCommand := ⟨0, 0, 0, 0, 0, 0⟩

/-- Forward, turning left; then, after `k` statements of the update, brake, steering right,
    in gear R; then the rest of the update and a whole one. -/
def actSecondAfter (k : Nat) : List ActMailbox.UpdateEvent :=
  .rxIsr driveLeftFrame :: actStatements k ++
    .rxIsr (fdMessage actCanCmdId actCanDlcIfx [0, 2, 1, 1, 1, 0]) :: actStatements (16 - k)

/-- The same on BODY with headlamp and horn, then hazard lights and brake lamp. -/
def bodySecondAfter (k : Nat) : List BodyMailbox.UpdateEvent :=
  .rxIsr lampFrame :: bodyStatements k ++ .rxIsr hazardFrame :: bodyStatements (20 - k)

/-- **The failing runs.**  Two copies before the second frame tear it; six copies before it
    lose it, and the motor keeps driving although the last command is to brake. -/
theorem mailbox_atomic_fails :
    ¬ MailboxAtomicity ∧
    (actLogRun (actCanInit actStart) noActCommand (actSecondAfter 6)).2 =
      ⟨[⟨1, 1, 0, 3, 1, 0⟩, ⟨0, 2, 1, 1, 1, 0⟩], [⟨1, 1, 1, 1, 1, 0⟩], false, true⟩ ∧
    (actLogRun (actCanInit actStart) noActCommand (actSecondAfter 10)).2 =
      ⟨[⟨1, 1, 0, 3, 1, 0⟩, ⟨0, 2, 1, 1, 1, 0⟩], [⟨1, 1, 0, 3, 1, 0⟩], false, true⟩ ∧
    (actLogRun (actCanInit actStart) noActCommand
      (actSecondAfter 10)).1.act.motor.motorState = .forward ∧
    (bodyLogRun (bodyCanInit restBodyInputs bodyStart) noBodyCommand (bodySecondAfter 11)).2 =
      ⟨[⟨1, 0, 0, 1, 0, 1⟩, ⟨0, 3, 1, 0, 0, 1⟩], [⟨1, 0, 0, 1, 0, 1⟩], false, true⟩ := by
  have htorn : (actLogRun (actCanInit actStart) noActCommand (actSecondAfter 6)).2 =
      ⟨[⟨1, 1, 0, 3, 1, 0⟩, ⟨0, 2, 1, 1, 1, 0⟩], [⟨1, 1, 1, 1, 1, 0⟩], false, true⟩ := by
    decide +kernel
  refine ⟨?_, htorn, by decide +kernel, by decide +kernel, by decide +kernel⟩
  intro h
  have hintact := h.1 actStart noActCommand (actSecondAfter 6)
  rw [htorn] at hintact
  have hmem := hintact.untorn ⟨1, 1, 1, 1, 1, 0⟩ (List.mem_singleton.mpr rfl)
  exact absurd hmem (by decide)

/-- The same frames in front of the update and behind it, and a repeated frame between two
    copies. -/
theorem mailbox_atomic_spaced :
    Intact (actLogRun (actCanInit actStart) noActCommand
      (.rxIsr driveLeftFrame :: actStatements 6 ++
        .rxIsr driveLeftFrame :: actStatements 6 ++
        .rxIsr brakeFrame :: actStatements 12)).2 ∧
    Intact (bodyLogRun (bodyCanInit restBodyInputs bodyStart) noBodyCommand
      (.rxIsr lampFrame :: bodyStatements 14 ++
        .rxIsr hazardFrame :: bodyStatements 14)).2 :=
  mailbox_atomic actStart noActCommand _ restBodyInputs bodyStart noBodyCommand _
    (by decide +kernel) (by decide +kernel)

end MailboxLaw
