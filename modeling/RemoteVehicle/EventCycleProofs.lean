import RemoteVehicle.MediaTrigger
import RemoteVehicle.Runs

/-!
# The cycle of events in the blackbox

A trigger is accepted when no event is under way and the last one is thirty seconds past; the
handler of the accepted event ends it.  Triggers and handlers come in any order, so what keeps
the events apart is an invariant of the whole system.

1. `Serial`: every handler but the last one has ended, and the last one has when the flag says
   that no event is under way.  It holds in every run.
2. `Spaced`: the events follow each other at a distance of thirty seconds.  It holds in every
   run in which time does not go backwards.

A handler that raises before its `try` block never ends its event: `event_closed_iff` says that
this is the only way in which the flag stays set.
-/

namespace EventCycle

open Calendar Raising Runs MediaTrigger

/-! ## Steps -/

section Steps

variable {cfg : Config} {s : EventSystem}

/-- The handler has come to its end. -/
def Ended (h : Handler) : Prop := ∃ e, h.endedAt = some e

/-- A handler that goes on is the only one that changes. -/
theorem enter_getElem? {box : Blackbox} {now : ℚ} {i : Nat} {h : Handler} {phase : HandlerPhase}
    (hi : s.handlers[i]? = some h) (j : Nat) :
    (s.enter box now i h phase).handlers[j]? =
      if i = j then some { h with phase := phase } else s.handlers[j]? := by
  have hlt : i < s.handlers.length := (List.getElem?_eq_some_iff.mp hi).1
  show (s.handlers.set i _)[j]? = _
  rw [List.getElem?_set, if_pos hlt]

/-- What the handlers are after a new one has come. -/
theorem snoc_getElem? {α : Type} {l : List α} {x a : α} {j : Nat} (h : (l ++ [x])[j]? = some a) :
    l[j]? = some a ∨ (j = l.length ∧ a = x) := by
  rcases Nat.lt_trichotomy j l.length with hj | hj | hj
  · rw [List.getElem?_append_left hj] at h
    exact Or.inl h
  · rw [List.getElem?_append_right (Nat.le_of_eq hj.symm), hj, Nat.sub_self] at h
    exact Or.inr ⟨hj, (Option.some.inj h).symm⟩
  · rw [List.getElem?_eq_none (by simpa using hj)] at h
    cases h

theorem onTrigger_cases (now : ℚ) (t : EventTrigger) :
    (onTrigger now t = (false, t) ∧ (t.inEvent = true ∨ now < t.lastEventEnd + 30)) ∨
    (onTrigger now t = (true, { t with inEvent := true }) ∧ t.inEvent = false ∧
      t.lastEventEnd + 30 ≤ now) := by
  rw [onTrigger]
  split
  · rename_i hevent
    exact Or.inl ⟨rfl, Or.inl hevent⟩
  · rename_i hevent
    have hevent : t.inEvent = false := Bool.eq_false_iff.mpr hevent
    split
    · rename_i hearly
      rw [postEventCooldownSecs] at hearly
      exact Or.inl ⟨rfl, Or.inr (by linarith)⟩
    · rename_i hlate
      rw [postEventCooldownSecs] at hlate
      exact Or.inr ⟨rfl, hevent, by linarith⟩

/-- A new handler, for an event that is under way from now on. -/
def accepted (s : EventSystem) (now : ℚ) (info : TriggerInfo) : EventSystem where
  box := { s.box with trigger := { s.box.trigger with inEvent := true } }
  handlers := s.handlers ++ [⟨info, now, .spawned⟩]
  clock := now

/-- **A step of the system**: nothing but the clock changes, a trigger is accepted, or a handler
    goes on. -/
inductive Steps (cfg : Config) (s : EventSystem) : SystemEvent → EventSystem → Prop where
  /-- The step does not take place. -/
  | idle (e : SystemEvent) : Steps cfg s e s
  | refused (now : ℚ) (info : TriggerInfo) : Steps cfg s (.trigger now info) { s with clock := now }
  | accepted (now : ℚ) (info : TriggerInfo) (hidle : s.box.trigger.inEvent = false)
      (hlate : s.box.trigger.lastEventEnd + 30 ≤ now) :
      Steps cfg s (.trigger now info) (accepted s now info)
  | opened (i : Nat) (now : ℚ) (inp : HandlerInputs) (h : Handler) (eventId : String)
      (hi : s.handlers[i]? = some h) (hphase : h.phase = .spawned)
      (hid : eventIdOf cfg.utcOffset now = some eventId) (hopens : Opens cfg inp now) :
      Steps cfg s (.begin i now inp) (s.enter s.box now i h (.recording now eventId))
  | died (i : Nat) (now : ℚ) (inp : HandlerInputs) (h : Handler)
      (hi : s.handlers[i]? = some h) (hphase : h.phase = .spawned)
      (hopens : ¬ Opens cfg inp now) :
      Steps cfg s (.begin i now inp) (s.enter s.box now i h .died)
  | ended (i : Nat) (now : ℚ) (inp : HandlerInputs) (h : Handler) (triggeredAt : ℚ)
      (eventId : String) (box : Blackbox) (hi : s.handlers[i]? = some h)
      (hphase : h.phase = .recording triggeredAt eventId) (hbox : box.trigger = ⟨false, now⟩) :
      Steps cfg s (.finish i now inp) (s.enter box now i h (.ended triggeredAt eventId now))

theorem systemStep_steps (cfg : Config) (s : EventSystem) (e : SystemEvent) :
    Steps cfg s e (systemStep cfg s e) := by
  cases e with
  | trigger now info =>
      rcases onTrigger_cases now s.box.trigger with ⟨hrefused, -⟩ | ⟨haccepted, hidle, hlate⟩
      · simp only [systemStep, hrefused]
        exact .refused now info
      · simp only [systemStep, haccepted]
        exact .accepted now info hidle hlate
  | begin i now inp =>
      rw [systemStep]
      rcases hi : s.handlers[i]? with _ | h
      · exact .idle _
      · dsimp only
        rcases hphase : h.phase with _ | ⟨t, id⟩ | _ | ⟨t, id, ended⟩
        · rcases openEvent_cases cfg inp now s.box with ⟨hno, c, hrun⟩ | ⟨hopens, id, hid, hrun⟩
          · rw [hrun]
            exact .died i now inp h hi hphase hno
          · rw [hrun]
            exact .opened i now inp h id hi hphase hid hopens
        · exact .idle _
        · exact .idle _
        · exact .idle _
  | finish i now inp =>
      rw [systemStep]
      rcases hi : s.handlers[i]? with _ | h
      · exact .idle _
      · dsimp only
        rcases hphase : h.phase with _ | ⟨t, id⟩ | _ | ⟨t, id, ended⟩
        · exact .idle _
        · refine .ended i now inp h t id _ hi hphase ?_
          rw [runOn_tryEvent]
        · exact .idle _
        · exact .idle _

/-- The two steps of a handler are the whole of `_handle_event`. -/
theorem begin_finish_box {i : Nat} {h : Handler} (hi : s.handlers[i]? = some h)
    (hphase : h.phase = .spawned) (inp : HandlerInputs) (triggeredAt endedAt : ℚ) :
    (systemStep cfg (systemStep cfg s (.begin i triggeredAt inp)) (.finish i endedAt inp)).box =
      (runOn (handleEvent cfg inp h.info triggeredAt endedAt) s.box).2 := by
  have hlive : ∀ (box : Blackbox) (phase : HandlerPhase),
      (s.enter box triggeredAt i h phase).handlers[i]? = some { h with phase := phase } := by
    intro box phase
    rw [enter_getElem? hi, if_pos rfl]
  rcases openEvent_cases cfg inp triggeredAt s.box with ⟨-, c, hrun⟩ | ⟨-, id, -, hrun⟩
  · have hbegin : systemStep cfg s (.begin i triggeredAt inp) =
        s.enter s.box triggeredAt i h .died := by
      rw [systemStep, hi]
      dsimp only
      rw [hphase]
      dsimp only
      rw [hrun]
    rw [hbegin, systemStep, hlive, handleEvent, runOn_bind_error hrun]
    rfl
  · have hbegin : systemStep cfg s (.begin i triggeredAt inp) =
        s.enter s.box triggeredAt i h (.recording triggeredAt id) := by
      rw [systemStep, hi]
      dsimp only
      rw [hphase]
      dsimp only
      rw [hrun]
    rw [hbegin, systemStep, hlive, handleEvent, runOn_bind_ok hrun]
    rfl

end Steps

/-! ## One event after the other -/

section Serial

variable {cfg : Config} {s t : EventSystem} {e : SystemEvent}

/-- Every handler that is not the last one has ended, and so has the last one when no event is
    under way. -/
structure Serial (s : EventSystem) : Prop where
  order : ∀ (i j : Nat) (a : Handler), i < j → s.handlers[i]? = some a →
    (s.handlers[j]?).isSome = true → Ended a
  idle : s.box.trigger.inEvent = false → ∀ (i : Nat) (a : Handler), s.handlers[i]? = some a →
    Ended a

theorem serial_initial (clock : ℚ) : Serial (EventSystem.initial clock) := by
  constructor
  · intro i j a _ hi
    cases hi
  · intro _ i a hi
    cases hi

/-- A handler that has not ended is the last one. -/
theorem Serial.last (h : Serial s) {i j : Nat} {a b : Handler} (hi : s.handlers[i]? = some a)
    (hopen : ¬ Ended a) (hj : s.handlers[j]? = some b) : j ≤ i := by
  by_contra hlt
  exact hopen (h.order i j a (Nat.lt_of_not_le hlt) hi (by rw [hj]; rfl))

/-- While one has not ended, an event is under way. -/
theorem Serial.busy (h : Serial s) {i : Nat} {a : Handler} (hi : s.handlers[i]? = some a)
    (hopen : ¬ Ended a) : s.box.trigger.inEvent = true := by
  by_contra hidle
  exact hopen (h.idle (by simpa using hidle) i a hi)

/-- A handler that goes on keeps the order: there is none after it. -/
theorem Serial.enter_order (h : Serial s) {box : Blackbox} {now : ℚ} {i : Nat} {a : Handler}
    {phase : HandlerPhase} (hi : s.handlers[i]? = some a) (hopen : ¬ Ended a) :
    ∀ (p q : Nat) (b : Handler), p < q → (s.enter box now i a phase).handlers[p]? = some b →
      ((s.enter box now i a phase).handlers[q]?).isSome = true → Ended b := by
  intro p q b hpq hp hq
  rw [enter_getElem? hi] at hp hq
  have hold : (s.handlers[q]?).isSome = true := by
    by_cases hiq : i = q
    · rw [← hiq, hi]
      rfl
    · rw [if_neg hiq] at hq
      exact hq
  obtain ⟨c, hc⟩ := Option.isSome_iff_exists.mp hold
  have hle := h.last hi hopen hc
  have hip : i ≠ p := by omega
  rw [if_neg hip] at hp
  exact h.order p q b hpq hp hold

theorem not_ended_of_live {a : Handler} (h : a.live = true) : ¬ Ended a := by
  rintro ⟨e, he⟩
  rw [Handler.live] at h
  rw [Handler.endedAt] at he
  rcases hphase : a.phase with _ | ⟨t, id⟩ | _ | ⟨t, id, ended⟩ <;> rw [hphase] at h he
  · cases he
  · cases he
  · cases he
  · cases h

theorem live_spawned {a : Handler} (h : a.phase = .spawned) : a.live = true := by
  rw [Handler.live, h]

theorem live_recording {a : Handler} {triggeredAt : ℚ} {eventId : String}
    (h : a.phase = .recording triggeredAt eventId) : a.live = true := by
  rw [Handler.live, h]

/-- **Step lemma.** -/
theorem serial_step (h : Serial s) (hstep : Steps cfg s e t) : Serial t := by
  cases hstep with
  | idle => exact h
  | refused now info => exact ⟨h.order, h.idle⟩
  | accepted now info hidle hlate =>
      constructor
      · intro i j a hij hi hj
        rcases snoc_getElem? hi with hold | ⟨hlast, -⟩
        · exact h.idle hidle i a hold
        · -- nothing comes after the new one
          obtain ⟨b, hb⟩ := Option.isSome_iff_exists.mp hj
          have hlen := (List.getElem?_eq_some_iff.mp hb).1
          simp only [accepted, List.length_append, List.length_singleton] at hlen
          omega
      · intro hcontra
        cases hcontra
  | opened i now inp a id hi hphase =>
      have hopen := not_ended_of_live (live_spawned hphase)
      refine ⟨h.enter_order hi hopen, fun hidle => ?_⟩
      exact absurd (h.busy hi hopen) (Bool.eq_false_iff.mp hidle)
  | died i now inp a hi hphase =>
      have hopen := not_ended_of_live (live_spawned hphase)
      refine ⟨h.enter_order hi hopen, fun hidle => ?_⟩
      exact absurd (h.busy hi hopen) (Bool.eq_false_iff.mp hidle)
  | ended i now inp a triggeredAt id box hi hphase hbox =>
      have hopen := not_ended_of_live (live_recording hphase)
      refine ⟨h.enter_order hi hopen, fun _ j b hj => ?_⟩
      rw [enter_getElem? hi] at hj
      by_cases hij : i = j
      · rw [if_pos hij] at hj
        obtain rfl := Option.some.inj hj
        exact ⟨now, rfl⟩
      · rw [if_neg hij] at hj
        have hle := h.last hi hopen hj
        exact h.order j i b (by omega) hj (by rw [hi]; rfl)

/-- **Run lemma.** -/
theorem serial_run (cfg : Config) (clock : ℚ) (es : List SystemEvent) :
    Serial (run (systemStep cfg) (EventSystem.initial clock) es) :=
  run_invariant Serial (fun s e h => serial_step h (systemStep_steps cfg s e))
    (serial_initial clock) es

end Serial

/-! ## The flag at the end of a handler -/

section Closing

variable {cfg : Config} {s : EventSystem} {e : SystemEvent}

/-- The step ends the thread of the `i`-th handler. -/
def EndsHandler (cfg : Config) (s : EventSystem) (e : SystemEvent) (i : Nat) : Prop :=
  ∃ a b, s.handlers[i]? = some a ∧ a.live = true ∧
    (systemStep cfg s e).handlers[i]? = some b ∧ b.live = false

/-- The flag is cleared, and every trigger after the cooldown is accepted. -/
def Available (t : EventTrigger) : Prop :=
  t.inEvent = false ∧ ∀ now, t.lastEventEnd + 30 ≤ now → (onTrigger now t).1 = true

theorem available_iff (t : EventTrigger) : Available t ↔ t.inEvent = false := by
  refine ⟨fun h => h.1, fun h => ⟨h, fun now hnow => ?_⟩⟩
  rcases onTrigger_cases now t with ⟨-, hbusy | hearly⟩ | ⟨haccepted, -⟩
  · rw [h] at hbusy
    cases hbusy
  · exact absurd hnow (not_le.mpr hearly)
  · rw [haccepted]

/-- The handler raises before its `try` block: it cannot name the event, or cannot make its
    directory. -/
def RaisesEarly (cfg : Config) : SystemEvent → Prop
  | .begin _ now inp => ¬ Opens cfg inp now
  | _ => False

/-- A thread ends by an early exception, or through the `finally` block. -/
theorem closed_step (h : Serial s) {i : Nat} (hends : EndsHandler cfg s e i) :
    Available (systemStep cfg s e).box.trigger ↔ ¬ RaisesEarly cfg e := by
  obtain ⟨a, b, ha, halive, hb, hdead⟩ := hends
  have hbusy := h.busy ha (not_ended_of_live halive)
  rw [available_iff]
  have hsame : ∀ {u : EventSystem}, u.handlers[i]? = s.handlers[i]? →
      u.handlers[i]? = some b → False := by
    intro u hu hub
    rw [hu, ha] at hub
    obtain rfl := Option.some.inj hub
    rw [halive] at hdead
    cases hdead
  have hstep := systemStep_steps cfg s e
  generalize systemStep cfg s e = u at hb hstep
  cases hstep with
  | idle => exact absurd hb fun hb => hsame rfl hb
  | refused now info => exact absurd hb fun hb => hsame (u := { s with clock := now }) rfl hb
  | accepted now info hidle =>
      rw [hbusy] at hidle
      cases hidle
  | opened j now inp c id hj hphase =>
      rw [enter_getElem? hj] at hb
      split at hb
      · obtain rfl := Option.some.inj hb
        cases hdead
      · exact absurd hb fun hb => hsame (u := s) rfl hb
  | died j now inp c hj hphase hno =>
      -- an exception before the `try` block: the flag stays as it was
      have hflag : s.box.trigger.inEvent ≠ false := by simp [hbusy]
      exact ⟨fun hclear => absurd hclear hflag, fun hgood => absurd hno hgood⟩
  | ended j now inp c triggeredAt id box hj hphase hbox =>
      refine ⟨fun _ hearly => hearly, fun _ => ?_⟩
      show box.trigger.inEvent = false
      rw [hbox]

/-- **RECORDING BECOMES AVAILABLE AGAIN** at the end of a handler exactly when the handler did
    not raise before its `try` block, in every run and whatever raises in that block. -/
theorem event_closed_iff (cfg : Config) (clock : ℚ) (es : List SystemEvent) (e : SystemEvent)
    (i : Nat)
    (hends : EndsHandler cfg (run (systemStep cfg) (EventSystem.initial clock) es) e i) :
    Available (systemStep cfg (run (systemStep cfg) (EventSystem.initial clock) es) e).box.trigger ↔
      ¬ RaisesEarly cfg e :=
  closed_step (serial_run cfg clock es) hends

/-- A trigger, and its handler up to the `try` block. -/
def oneEvent : List SystemEvent :=
  [.trigger 1769904000 ⟨"manual", none, none⟩, .begin 0 1769904001 raisesNothing]

/-- The event is closed although a recorder cannot be started. -/
theorem event_closed_start :
    Available (systemStep allRecorders (run (systemStep allRecorders) (.initial 0) oneEvent)
        (.finish 0 1769904016 (raisesOnly (.startClip .mic)))).box.trigger ↔
      ¬ RaisesEarly allRecorders (.finish 0 1769904016 (raisesOnly (.startClip .mic))) :=
  event_closed_iff allRecorders 0 oneEvent _ 0
    ⟨⟨⟨"manual", none, none⟩, 1769904000, .recording 1769904001 "20260201_090001"⟩,
      ⟨⟨"manual", none, none⟩, 1769904000,
        .ended 1769904001 "20260201_090001" 1769904016⟩,
      by decide +kernel, rfl, by decide +kernel, rfl⟩

/-- **No event is recorded any more** when its directory cannot be made: the handler is over, and
    a trigger is refused a day later. -/
theorem directory_blocks_events :
    EndsHandler allRecorders
      (run (systemStep allRecorders) (.initial 0) [.trigger 1769904000 ⟨"manual", none, none⟩])
      (.begin 0 1769904001 (raisesOnly .mkdir)) 0 ∧
    (onTrigger 1769990400 (run (systemStep allRecorders) (.initial 0)
      [.trigger 1769904000 ⟨"manual", none, none⟩,
        .begin 0 1769904001 (raisesOnly .mkdir)]).box.trigger).1 = false :=
  ⟨⟨⟨⟨"manual", none, none⟩, 1769904000, .spawned⟩,
      ⟨⟨"manual", none, none⟩, 1769904000, .died⟩,
      by decide +kernel, rfl, by decide +kernel, rfl⟩, by decide +kernel⟩

end Closing

/-! ## Identifiers -/

section Identifiers

variable {utcOffset : Int} {t u : ℚ}

/-- Thirty seconds later the clock shows a later second. -/
theorem second_lt (h : t + 30 ≤ u) :
    roundHalfEven (t * 1000000) / 1000000 < roundHalfEven (u * 1000000) / 1000000 := by
  obtain ⟨-, hearly⟩ := roundHalfEven_near (t * 1000000)
  obtain ⟨hlate, -⟩ := roundHalfEven_near (u * 1000000)
  have hgap : (roundHalfEven (t * 1000000) : ℚ) + 29000000 ≤ roundHalfEven (u * 1000000) := by
    linarith
  have hgap : roundHalfEven (t * 1000000) + 29000000 ≤ roundHalfEven (u * 1000000) := by
    exact_mod_cast hgap
  omega

/-- A date and time comes from one second. -/
theorem fromTimestamp_inv {d : DateTime} (h : fromTimestamp utcOffset t = some d) :
    d.InRange ∧
      0 ≤ roundHalfEven (t * 1000000) / 1000000 + utcOffset + epochDays * 86400 ∧
      ofSeconds (roundHalfEven (t * 1000000) / 1000000 + utcOffset + epochDays * 86400).toNat =
        some d := by
  unfold fromTimestamp at h
  dsimp only at h
  split at h
  · cases h
  · rename_i hpos
    exact ⟨ofSeconds_inRange h, Int.not_lt.mp hpos, h⟩

/-- **Events thirty seconds apart have different identifiers.** -/
theorem eventIdOf_ne {a b : String} (h : t + 30 ≤ u) (ha : eventIdOf utcOffset t = some a)
    (hb : eventIdOf utcOffset u = some b) : a ≠ b := by
  rintro rfl
  unfold eventIdOf at ha hb
  obtain ⟨d, hd, rfl⟩ := Option.map_eq_some_iff.mp ha
  obtain ⟨d', hd', heq⟩ := Option.map_eq_some_iff.mp hb
  obtain ⟨hrange, hpos, hsecond⟩ := fromTimestamp_inv hd
  obtain ⟨hrange', hpos', hsecond'⟩ := fromTimestamp_inv hd'
  have hsame : d' = d := stamp_inj hrange' hrange (String.ofList_injective heq)
  rw [hsame] at hsecond'
  have hsame := ofSeconds_inj hsecond hsecond'
  have hlt := second_lt h
  omega

end Identifiers

/-! ## Thirty seconds apart -/

section Spaced

variable {cfg : Config} {s t : EventSystem} {e : SystemEvent}

/-- Time does not go backwards. -/
def InOrder (s : EventSystem) (e : SystemEvent) : Prop := s.clock ≤ e.now

/-- The times of a handler are in order, and it has the identifier of its start. -/
def Timely (utcOffset : Int) (clock : ℚ) (h : Handler) : Prop :=
  match h.phase with
  | .spawned => h.acceptedAt ≤ clock
  | .recording triggeredAt eventId =>
      h.acceptedAt ≤ triggeredAt ∧ triggeredAt ≤ clock ∧
        eventIdOf utcOffset triggeredAt = some eventId
  | .died => True
  | .ended triggeredAt eventId endedAt =>
      h.acceptedAt ≤ triggeredAt ∧ triggeredAt ≤ endedAt ∧ endedAt ≤ clock ∧
        eventIdOf utcOffset triggeredAt = some eventId

/-- The later event was accepted thirty seconds after the end of the earlier one. -/
def Apart (a b : Handler) : Prop := ∃ e, a.endedAt = some e ∧ e + 30 ≤ b.acceptedAt

/-- The events follow each other at a distance, and the last one is over when the flag says so. -/
structure Spaced (utcOffset : Int) (s : EventSystem) : Prop where
  apart : ∀ (i j : Nat) (a b : Handler), i < j → s.handlers[i]? = some a →
    s.handlers[j]? = some b → Apart a b
  timely : ∀ (i : Nat) (a : Handler), s.handlers[i]? = some a → Timely utcOffset s.clock a
  idle : s.box.trigger.inEvent = false → ∀ (i : Nat) (a : Handler), s.handlers[i]? = some a →
    ∃ e, a.endedAt = some e ∧ e ≤ s.box.trigger.lastEventEnd

theorem spaced_initial (utcOffset : Int) (clock : ℚ) :
    Spaced utcOffset (EventSystem.initial clock) := by
  refine ⟨?_, ?_, ?_⟩
  · intro i j a b _ hi
    cases hi
  · intro i a hi
    cases hi
  · intro _ i a hi
    cases hi

/-- What is timely stays so. -/
theorem Timely.later {utcOffset : Int} {clock now : ℚ} {h : Handler}
    (ht : Timely utcOffset clock h) (hle : clock ≤ now) : Timely utcOffset now h := by
  rw [Timely] at ht ⊢
  split at ht
  · exact ht.trans hle
  · exact ⟨ht.1, ht.2.1.trans hle, ht.2.2⟩
  · trivial
  · exact ⟨ht.1, ht.2.1, ht.2.2.1.trans hle, ht.2.2.2⟩

/-- A handler that goes on stays apart from the others: it comes after all of them. -/
theorem Spaced.enter_apart {utcOffset : Int} (h : Spaced utcOffset s) {box : Blackbox} {now : ℚ}
    {i : Nat} {a : Handler} {phase : HandlerPhase} (hi : s.handlers[i]? = some a)
    (hopen : ¬ Ended a) :
    ∀ (p q : Nat) (b c : Handler), p < q → (s.enter box now i a phase).handlers[p]? = some b →
      (s.enter box now i a phase).handlers[q]? = some c → Apart b c := by
  intro p q b c hpq hp hq
  rw [enter_getElem? hi] at hp hq
  by_cases hip : i = p
  · -- the handler before another one has ended, and this one has not
    rw [if_neg (by omega)] at hq
    obtain ⟨e, he, -⟩ := h.apart i q a c (by omega) hi hq
    exact absurd ⟨e, he⟩ hopen
  · rw [if_neg hip] at hp
    by_cases hiq : i = q
    · rw [if_pos hiq] at hq
      obtain rfl := Option.some.inj hq
      exact h.apart p i b a (by omega) hp hi
    · rw [if_neg hiq] at hq
      exact h.apart p q b c hpq hp hq

/-- Its own times are looked at, and those of the others stay. -/
theorem Spaced.enter_timely {utcOffset : Int} (h : Spaced utcOffset s) {box : Blackbox} {now : ℚ}
    {i : Nat} {a : Handler} {phase : HandlerPhase} (hi : s.handlers[i]? = some a)
    (hle : s.clock ≤ now) (hown : Timely utcOffset now { a with phase := phase }) :
    ∀ (j : Nat) (b : Handler), (s.enter box now i a phase).handlers[j]? = some b →
      Timely utcOffset now b := by
  intro j b hj
  rw [enter_getElem? hi] at hj
  by_cases hij : i = j
  · rw [if_pos hij] at hj
    obtain rfl := Option.some.inj hj
    exact hown
  · rw [if_neg hij] at hj
    exact (h.timely j b hj).later hle

/-- While one has not ended, an event is under way. -/
theorem Spaced.busy {utcOffset : Int} (h : Spaced utcOffset s) {i : Nat} {a : Handler}
    (hi : s.handlers[i]? = some a) (hopen : ¬ Ended a) : ¬ s.box.trigger.inEvent = false := by
  intro hidle
  obtain ⟨e, he, -⟩ := h.idle hidle i a hi
  exact hopen ⟨e, he⟩

/-- A new handler comes after a pause behind all the others. -/
theorem Spaced.accept {utcOffset : Int} (h : Spaced utcOffset s) {now : ℚ} (hle : s.clock ≤ now)
    (info : TriggerInfo) (hidle : s.box.trigger.inEvent = false)
    (hlate : s.box.trigger.lastEventEnd + 30 ≤ now) : Spaced utcOffset (accepted s now info) := by
  refine ⟨?_, ?_, ?_⟩
  · intro i j a b hij hi hj
    rcases snoc_getElem? hj with hjold | ⟨hjlast, rfl⟩
    · rcases snoc_getElem? hi with hiold | ⟨hilast, -⟩
      · exact h.apart i j a b hij hiold hjold
      · have hlen := (List.getElem?_eq_some_iff.mp hjold).1
        omega
    · rcases snoc_getElem? hi with hiold | ⟨hilast, -⟩
      · obtain ⟨e, he, hend⟩ := h.idle hidle i a hiold
        exact ⟨e, he, by dsimp only; linarith⟩
      · omega
  · intro i a hi
    rcases snoc_getElem? hi with hold | ⟨-, rfl⟩
    · exact (h.timely i a hold).later hle
    · exact le_refl now
  · intro hcontra
    cases hcontra

/-- When a handler ends, all have ended by then: the others did before it was accepted. -/
theorem Spaced.enter_idle {utcOffset : Int} (h : Spaced utcOffset s) {box : Blackbox} {now : ℚ}
    {i : Nat} {a : Handler} {triggeredAt : ℚ} {id : String} (hi : s.handlers[i]? = some a)
    (hopen : ¬ Ended a) (haccepted : a.acceptedAt ≤ now) :
    ∀ (j : Nat) (b : Handler),
      (s.enter box now i a (.ended triggeredAt id now)).handlers[j]? = some b →
        ∃ e, b.endedAt = some e ∧ e ≤ now := by
  intro j b hj
  rw [enter_getElem? hi] at hj
  by_cases hij : i = j
  · rw [if_pos hij] at hj
    obtain rfl := Option.some.inj hj
    exact ⟨now, rfl, le_refl now⟩
  · rw [if_neg hij] at hj
    rcases Nat.lt_or_gt_of_ne hij with hlt | hgt
    · obtain ⟨e, he, -⟩ := h.apart i j a b hlt hi hj
      exact absurd ⟨e, he⟩ hopen
    · obtain ⟨e, he, hgap⟩ := h.apart j i b a hgt hj hi
      exact ⟨e, he, by linarith⟩

/-- **Step lemma.** -/
theorem spaced_step (h : Spaced cfg.utcOffset s) (hstep : Steps cfg s e t) (hle : InOrder s e) :
    Spaced cfg.utcOffset t := by
  cases hstep with
  | idle => exact h
  | refused now info => exact ⟨h.apart, fun i a hi => (h.timely i a hi).later hle, h.idle⟩
  | accepted now info hidle hlate => exact h.accept hle info hidle hlate
  | opened i now inp a id hi hphase hid =>
      have hopen := not_ended_of_live (live_spawned hphase)
      have hown := h.timely i a hi
      rw [Timely, hphase] at hown
      refine ⟨h.enter_apart hi hopen, h.enter_timely hi hle ?_, fun hidle => ?_⟩
      · exact ⟨hown.trans hle, le_refl now, hid⟩
      · exact absurd hidle (h.busy hi hopen)
  | died i now inp a hi hphase =>
      have hopen := not_ended_of_live (live_spawned hphase)
      refine ⟨h.enter_apart hi hopen, h.enter_timely hi hle trivial, fun hidle => ?_⟩
      exact absurd hidle (h.busy hi hopen)
  | ended i now inp a triggeredAt id box hi hphase hbox =>
      have hopen := not_ended_of_live (live_recording hphase)
      have hown := h.timely i a hi
      rw [Timely, hphase] at hown
      obtain ⟨haccepted, hstarted, hid⟩ := hown
      have hbefore : triggeredAt ≤ now := hstarted.trans hle
      refine ⟨h.enter_apart hi hopen, h.enter_timely hi hle ?_, fun _ j b hj => ?_⟩
      · exact ⟨haccepted, hbefore, le_refl now, hid⟩
      · have hend : (s.enter box now i a (.ended triggeredAt id now)).box.trigger.lastEventEnd =
            now := congrArg EventTrigger.lastEventEnd hbox
        rw [hend]
        exact h.enter_idle hi hopen (haccepted.trans hbefore) j b hj

/-- **Run lemma.** -/
theorem spaced_run (cfg : Config) (clock : ℚ) {es : List SystemEvent}
    (hes : AllSteps (systemStep cfg) InOrder (EventSystem.initial clock) es) :
    Spaced cfg.utcOffset (run (systemStep cfg) (EventSystem.initial clock) es) :=
  run_guarded (Spaced cfg.utcOffset)
    (fun s e h hle => spaced_step h (systemStep_steps cfg s e) hle)
    (spaced_initial cfg.utcOffset clock) hes

/-- A relation that holds of any two entries. -/
theorem pairwise_of_getElem? {α : Type} {R : α → α → Prop} {l : List α}
    (h : ∀ (i j : Nat) (a b : α), i < j → l[i]? = some a → l[j]? = some b → R a b) :
    l.Pairwise R := by
  rw [List.pairwise_iff_getElem]
  intro i j hi hj hij
  exact h i j _ _ hij (List.getElem?_eq_getElem hi) (List.getElem?_eq_getElem hj)

/-- A recording starts when its trigger was accepted, or later. -/
theorem Timely.startedAt {utcOffset : Int} {clock started : ℚ} {h : Handler}
    (ht : Timely utcOffset clock h) (hstarted : h.startedAt = some started) :
    h.acceptedAt ≤ started := by
  rw [Timely] at ht
  rw [Handler.startedAt] at hstarted
  rcases hphase : h.phase with _ | ⟨t, id⟩ | _ | ⟨t, id, ended⟩ <;> rw [hphase] at ht hstarted
  · cases hstarted
  · obtain rfl := Option.some.inj hstarted
    exact ht.1
  · cases hstarted
  · obtain rfl := Option.some.inj hstarted
    exact ht.1

/-- It ends when it started, or later. -/
theorem Timely.endedAt {utcOffset : Int} {clock started ended : ℚ} {h : Handler}
    (ht : Timely utcOffset clock h) (hstarted : h.startedAt = some started)
    (hended : h.endedAt = some ended) : started ≤ ended := by
  rw [Timely] at ht
  rw [Handler.startedAt] at hstarted
  rw [Handler.endedAt] at hended
  rcases hphase : h.phase with _ | ⟨t, id⟩ | _ | ⟨t, id, last⟩ <;>
    rw [hphase] at ht hstarted hended
  · cases hended
  · cases hended
  · cases hended
  · obtain rfl := Option.some.inj hstarted
    obtain rfl := Option.some.inj hended
    exact ht.2.1

/-- Its identifier is that of its start. -/
theorem Timely.eventId {utcOffset : Int} {clock : ℚ} {id : String} {h : Handler}
    (ht : Timely utcOffset clock h) (hid : h.eventId = some id) :
    ∃ started, h.startedAt = some started ∧ eventIdOf utcOffset started = some id := by
  rw [Timely] at ht
  rw [Handler.eventId] at hid
  rw [Handler.startedAt]
  rcases hphase : h.phase with _ | ⟨t, id⟩ | _ | ⟨t, id, ended⟩ <;> rw [hphase] at ht hid
  · cases hid
  · obtain rfl := Option.some.inj hid
    exact ⟨t, rfl, ht.2.2⟩
  · cases hid
  · obtain rfl := Option.some.inj hid
    exact ⟨t, rfl, ht.2.2.2⟩

/-- The recordings do not overlap, and the later one starts after the pause. -/
def Follows (a b : Handler) : Prop :=
  ∃ ended, a.endedAt = some ended ∧ ended + 30 ≤ b.acceptedAt ∧
    ∀ started, b.startedAt = some started → ended + 30 ≤ started

theorem Spaced.follows {utcOffset : Int} (h : Spaced utcOffset s) :
    s.handlers.Pairwise Follows := by
  refine pairwise_of_getElem? fun i j a b hij hi hj => ?_
  obtain ⟨ended, hended, hgap⟩ := h.apart i j a b hij hi hj
  refine ⟨ended, hended, hgap, fun started hstarted => ?_⟩
  have hlate := (h.timely j b hj).startedAt hstarted
  linarith

/-- Two events with a pause between them have different identifiers. -/
theorem Spaced.eventId_ne {utcOffset : Int} (h : Spaced utcOffset s) {i j : Nat} {a b : Handler}
    (hij : i < j) (hi : s.handlers[i]? = some a) (hj : s.handlers[j]? = some b) {p q : String}
    (hp : a.eventId = some p) (hq : b.eventId = some q) : p ≠ q := by
  obtain ⟨ended, hended, hgap⟩ := h.apart i j a b hij hi hj
  obtain ⟨t, ht, hpt⟩ := (h.timely i a hi).eventId hp
  obtain ⟨u, hu, hqu⟩ := (h.timely j b hj).eventId hq
  have hbefore := (h.timely i a hi).endedAt ht hended
  have hafter := (h.timely j b hj).startedAt hu
  exact eventIdOf_ne (by linarith) hpt hqu

theorem Spaced.eventIds_nodup {utcOffset : Int} (h : Spaced utcOffset s) :
    (s.handlers.filterMap Handler.eventId).Nodup := by
  have hne : s.handlers.Pairwise fun a b =>
      ∀ p, a.eventId = some p → ∀ q, b.eventId = some q → p ≠ q :=
    pairwise_of_getElem? fun i j a b hij hi hj p hp q hq => h.eventId_ne hij hi hj hp hq
  exact List.pairwise_filterMap.mpr hne

/-- **EVENTS NEVER OVERLAP**: for every sequence of triggers and handler steps in which time does
    not go backwards, the events follow each other thirty seconds apart, and no two of them have
    the same identifier. -/
theorem events_spaced (cfg : Config) (clock : ℚ) (es : List SystemEvent)
    (hes : AllSteps (systemStep cfg) InOrder (EventSystem.initial clock) es) :
    let s := run (systemStep cfg) (EventSystem.initial clock) es
    s.handlers.Pairwise Follows ∧
    (∀ a ∈ s.handlers, ∀ started ended, a.startedAt = some started → a.endedAt = some ended →
      started ≤ ended) ∧
    (s.handlers.filterMap Handler.eventId).Nodup := by
  intro s
  have h : Spaced cfg.utcOffset s := spaced_run cfg clock hes
  refine ⟨h.follows, ?_, h.eventIds_nodup⟩
  intro a ha started ended hstarted hended
  obtain ⟨i, hi⟩ := List.mem_iff_getElem?.mp ha
  exact (h.timely i a hi).endedAt hstarted hended

/-- Two events; a trigger between them is refused. -/
def twoEvents : List SystemEvent :=
  oneEvent ++
    [.trigger 1769904010 ⟨"manual", none, none⟩,
      .finish 0 1769904016 (raisesOnly .insertEvent),
      .trigger 1769904045 ⟨"manual", none, none⟩,
      .trigger 1769904046 ⟨"manual", none, none⟩,
      .begin 1 1769904046 raisesNothing]

instance (s : EventSystem) (e : SystemEvent) : Decidable (InOrder s e) :=
  inferInstanceAs (Decidable (s.clock ≤ e.now))

theorem two_events_spaced :
    let s := run (systemStep allRecorders) (EventSystem.initial 0) twoEvents
    s.handlers.Pairwise Follows ∧
    (∀ a ∈ s.handlers, ∀ started ended, a.startedAt = some started → a.endedAt = some ended →
      started ≤ ended) ∧
    (s.handlers.filterMap Handler.eventId).Nodup :=
  events_spaced allRecorders 0 twoEvents (by decide +kernel)

end Spaced

end EventCycle
