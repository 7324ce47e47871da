import RemoteVehicle.PcPage
import RemoteVehicle.Runs

/-!
# The turn signals on the page and in the backend

The page has three toggles and the backend one field.  Each handler of an indicator switches
the other indicator off on the page and sends that, too; no handler looks at the hazard.  The
backend overwrites its field with every ON, and with every OFF of the hazard.

`Signals` is what both sides keep.  It stays in agreement as long as no indicator is switched on
while the hazard is on, and the hazard is not switched off while an indicator is on
(`agrees_click_iff`).
-/

namespace TurnDisplay

open Runs PcBackend PcPage

/-! ## Clicks -/

inductive SignalClick where
  | left
  | right
  | hazard
deriving DecidableEq, Repr

/-- The click as an event of the page. -/
def SignalClick.event : SignalClick → PageEvent
  | .left => .leftSignalClick
  | .right => .rightSignalClick
  | .hazard => .hazardClick

/-- The backend after a request of the page. -/
def handleRequest (pc : Pc) (r : Request) : Pc :=
  (controlCommand (some (sendControlCommand r)) pc).2

/-- A click: the page changes, and the backend handles what it sends in the order sent. -/
def clickStep (s : Page × Pc) (c : SignalClick) : Page × Pc :=
  ((pageHandle s.1 c.event).1, run handleRequest s.2 (pageHandle s.1 c.event).2)

/-- The page opens and starts remote control. -/
def opened (pc : Pc) : Page × Pc := (pageInitial, (startRemoteControl pc).2)

/-- `turn_signal` for what the page shows. -/
def shown (leftSignalOn rightSignalOn hazardOn : Bool) : Nat :=
  if hazardOn then 3 else if leftSignalOn then 1 else if rightSignalOn then 2 else 0

/-- The operator sees what is commanded. -/
def Agrees (s : Page × Pc) : Prop :=
  s.2.control.turnSignal = shown s.1.leftSignalOn s.1.rightSignalOn s.1.hazardOn

/-- No indicator is switched on while the hazard is on, and the hazard is not switched off while
    an indicator is on. -/
def Harmless (s : Page × Pc) : SignalClick → Prop
  | .left => s.1.hazardOn = true → s.1.leftSignalOn = true
  | .right => s.1.hazardOn = true → s.1.rightSignalOn = true
  | .hazard => s.1.hazardOn = true → s.1.leftSignalOn = false ∧ s.1.rightSignalOn = false

/-! ## The signals on both sides -/

@[ext] structure Signals where
  left : Bool
  right : Bool
  hazard : Bool
  turn : Nat

def signals (s : Page × Pc) : Signals :=
  ⟨s.1.leftSignalOn, s.1.rightSignalOn, s.1.hazardOn, s.2.control.turnSignal⟩

/-- The field after the OFF of a side. -/
def offSide (side turn : Nat) : Nat := if turn = side then 0 else turn

/-- What a click does to the signals. -/
def Signals.click (s : Signals) : SignalClick → Signals
  | .left =>
      if s.left then { s with left := false, turn := offSide 1 s.turn }
      else { s with left := true, right := false, turn := 1 }
  | .right =>
      if s.right then { s with right := false, turn := offSide 2 s.turn }
      else { s with right := true, left := false, turn := 2 }
  | .hazard => { s with hazard := !s.hazard, turn := if s.hazard then 0 else 3 }

/-- **Page and backend together** do to the signals what the click means. -/
theorem signals_click (s : Page × Pc) (c : SignalClick) :
    signals (clickStep s c) = (signals s).click c := by
  obtain ⟨page, pc⟩ := s
  obtain ⟨gear, brakeOn, left, right, hazard, ignitionOn, headLightOn, hornOn, keys, last⟩ := page
  cases c with
  | left => cases left <;> rfl
  | right => cases right <;> rfl
  | hazard => cases hazard <;> rfl

/-! ## Agreement -/

/-- In agreement, and not both indicators on. -/
structure Signals.InStep (s : Signals) : Prop where
  turn : s.turn = shown s.left s.right s.hazard
  single : s.left = false ∨ s.right = false

/-- `Harmless` for the signals. -/
def Signals.Harmless (s : Signals) : SignalClick → Prop
  | .left => s.hazard = true → s.left = true
  | .right => s.hazard = true → s.right = true
  | .hazard => s.hazard = true → s.left = false ∧ s.right = false

instance (s : Signals) : ∀ c, Decidable (s.Harmless c)
  | .left => inferInstanceAs (Decidable (s.hazard = true → s.left = true))
  | .right => inferInstanceAs (Decidable (s.hazard = true → s.right = true))
  | .hazard => inferInstanceAs (Decidable (s.hazard = true → s.left = false ∧ s.right = false))

/-- Whatever a click does, at most one indicator is on. -/
theorem single_click {s : Signals} (h : s.left = false ∨ s.right = false) (c : SignalClick) :
    (s.click c).left = false ∨ (s.click c).right = false := by
  cases c with
  | left =>
      rw [Signals.click]
      split_ifs
      · exact .inl rfl
      · exact .inr rfl
  | right =>
      rw [Signals.click]
      split_ifs
      · exact .inr rfl
      · exact .inl rfl
  | hazard => exact h

/-- **One click** keeps the agreement exactly where it is harmless. -/
theorem agrees_click_iff {s : Signals} (h : s.InStep) (c : SignalClick) :
    (s.click c).turn = shown (s.click c).left (s.click c).right (s.click c).hazard ↔
      s.Harmless c := by
  obtain ⟨left, right, hazard, turn⟩ := s
  obtain ⟨hturn, hsingle⟩ := h
  obtain rfl : turn = shown left right hazard := hturn
  revert hsingle
  cases c <;> cases left <;> cases right <;> cases hazard <;> decide

/-- The signals of page and backend are in step. -/
def InStep (s : Page × Pc) : Prop := (signals s).InStep

theorem inStep_opened (pc : Pc) : InStep (opened pc) := ⟨rfl, .inl rfl⟩

theorem agrees_iff {s : Page × Pc} (hs : InStep s) (c : SignalClick) :
    Agrees (clickStep s c) ↔ Harmless s c := by
  have hclick := agrees_click_iff hs c
  rw [← signals_click] at hclick
  refine hclick.trans ?_
  cases c <;> exact Iff.rfl

theorem inStep_click {s : Page × Pc} {c : SignalClick} (hs : InStep s)
    (h : Agrees (clickStep s c)) : InStep (clickStep s c) := by
  refine ⟨h, ?_⟩
  rw [signals_click]
  exact single_click hs.single c

/-! ## Runs -/

/-- **WHEN THE DISPLAY AGREES.**  From the opening of the page on, the operator sees after every
    click what is commanded, exactly if every click is harmless. -/
theorem turn_display (pc : Pc) (cs : List SignalClick) :
    AllSteps clickStep (fun s c => Agrees (clickStep s c)) (opened pc) cs ↔
      AllSteps clickStep Harmless (opened pc) cs :=
  allSteps_iff InStep (fun _ _ hs h => inStep_click hs h) (fun _ c hs => agrees_iff hs c)
    (inStep_opened pc)

/-- After every list of clicks the operator sees what is commanded. -/
def AlwaysAgrees : Prop :=
  ∀ (pc : Pc) (cs : List SignalClick), Agrees (run clickStep (opened pc) cs)

/-- **The failing clicks.**  After left, hazard and hazard again the page shows the left
    indicator on, and nothing is commanded; after hazard and left it shows the hazard, and left
    is commanded. -/
theorem always_agrees_fails :
    ¬ AlwaysAgrees ∧
      signals (run clickStep (opened pcInitial) [.left, .hazard, .hazard]) =
        ⟨true, false, false, 0⟩ ∧
      signals (run clickStep (opened pcInitial) [.hazard, .left]) = ⟨true, false, true, 1⟩ := by
  have hoff : signals (run clickStep (opened pcInitial) [.left, .hazard, .hazard]) =
      ⟨true, false, false, 0⟩ := rfl
  refine ⟨fun h => ?_, hoff, rfl⟩
  have hagrees : 0 = shown true false false := h pcInitial [.left, .hazard, .hazard]
  exact absurd hagrees (by decide)

end TurnDisplay
