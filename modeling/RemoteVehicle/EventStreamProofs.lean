import RemoteVehicle.AccidentListProofs
import RemoteVehicle.DropQueue

/-!
# What the subscribers of the event stream get

Each connection has a queue of its own, with room for ten events; the thread of a handler puts
every new event into all of them and does not wait.  `Feeds` says that a connection is such a
queue, and it holds through any interleaving of events, connections, turns and new starts.

An event is told about after its row is in the table, so whoever is told finds it there.
-/

namespace EventStream

open AccidentList DropQueue EventCycle MediaHistory MediaTrigger Runs

/-! ## One connection -/

section Connection

variable {offered ids : List String} {c : Subscriber} {id : String}

/-- The connection is a queue to which these events were offered. -/
def Feeds (offered : List String) (c : Subscriber) : Prop :=
  ∃ f : Feed String sseMaxSize, f.offered = offered ∧ f.delivered = c.sent ∧
    f.waiting = c.queue ∧ f.dropped = c.missed

theorem feeds_connect : Feeds [] ⟨[], [], 0, true⟩ := ⟨.empty, rfl, rfl, rfl, rfl⟩

theorem feeds_putNowait (h : Feeds offered c) (id : String) :
    Feeds (offered ++ [id]) (c.putNowait id) := by
  obtain ⟨f, hoffered, hsent, hqueue, hmissed⟩ := h
  refine ⟨f.offer id, by rw [Feed.offer_offered, hoffered], ?_⟩
  rw [Feed.offer_delivered, hsent, Subscriber.putNowait, ← hqueue]
  split
  · rename_i hroom
    obtain ⟨hwaiting, hdropped⟩ := Feed.offer_room hroom id
    exact ⟨rfl, hwaiting, hdropped.trans hmissed⟩
  · rename_i hfull
    obtain ⟨hwaiting, hdropped⟩ := Feed.offer_full hfull id
    exact ⟨rfl, hwaiting, hdropped.trans (congrArg (· + 1) hmissed)⟩

theorem feeds_turn (h : Feeds offered c) : Feeds offered c.turn.1 := by
  obtain ⟨f, hoffered, hsent, hqueue, hmissed⟩ := h
  rw [Subscriber.turn]
  rcases hc : c.queue with _ | ⟨id, rest⟩
  · exact ⟨f, hoffered, hsent, hqueue, hmissed⟩
  · obtain ⟨hwaiting, hdelivered, htaken, hdropped⟩ := Feed.take_cons (hqueue.trans hc)
    refine ⟨f.take, htaken.trans hoffered, ?_, hwaiting, hdropped.trans hmissed⟩
    rw [hdelivered, hsent]

/-- **Some events one after the other**, seen by one of the connections. -/
theorem notify_getElem? {clients : List Subscriber} {i : Nat} (hi : clients[i]? = some c)
    (hfeeds : c.listed = true → Feeds offered c) (ids : List String) :
    ∃ c', (ids.foldl (fun cs id => notifyNewEvent id cs) clients)[i]? = some c' ∧
      (c'.listed = true → Feeds (offered ++ ids) c') := by
  induction ids generalizing clients c offered with
  | nil => exact ⟨c, hi, fun h => by rw [List.append_nil]; exact hfeeds h⟩
  | cons id ids ih =>
      have hnext : (notifyNewEvent id clients)[i]? =
          some (if c.listed then c.putNowait id else c) := by
        rw [notifyNewEvent, List.getElem?_map, hi, Option.map_some]
      rw [List.foldl_cons, List.append_cons]
      refine ih hnext fun hlisted => ?_
      cases hc : c.listed with
      | true =>
          rw [if_pos rfl]
          exact feeds_putNowait (hfeeds hc) id
      | false =>
          rw [hc, if_neg Bool.false_ne_true] at hlisted
          rw [hc] at hlisted
          cases hlisted

end Connection

/-! ## The blackbox -/

section Media

variable {cfg : Config} {s : EventSystem} {h : Hub}

/-- Nothing that was told about is forgotten. -/
theorem historyStep_notified (cfg : Config) (s : EventSystem) (e : HistoryEvent) :
    (historyStep cfg s e).box.notified =
      s.box.notified ++ freshEvents s (historyStep cfg s e) := by
  have hgrow : ∃ ids, (historyStep cfg s e).box.notified = s.box.notified ++ ids := by
    cases e with
    | boot now => exact ⟨[], (List.append_nil _).symm⟩
    | system e =>
        rcases systemStep_recorded cfg s e with ⟨-, hsame⟩ |
            ⟨_, _, _, _, _, id, -, -, -, ⟨-, hsame⟩ | ⟨-, hsame | hnew⟩⟩
        · exact ⟨[], hsame.trans (List.append_nil _).symm⟩
        · exact ⟨[], hsame.trans (List.append_nil _).symm⟩
        · exact ⟨[], hsame.trans (List.append_nil _).symm⟩
        · exact ⟨[id], hnew⟩
  obtain ⟨ids, hids⟩ := hgrow
  rw [freshEvents, hids, List.drop_left]

/-- Every event that was told about is in the table. -/
def Listed (s : EventSystem) : Prop := ∀ id ∈ s.box.notified, ∃ r ∈ s.box.rows, r.eventId = id

theorem listed_step (hs : Listed s) (e : HistoryEvent) : Listed (historyStep cfg s e) := by
  cases e with
  | boot now => exact hs
  | system e =>
      show Listed (systemStep cfg s e)
      have hmore : ∀ (row : EventRow) (rows : List EventRow), rows = s.box.rows ++ [row] →
          ∀ id ∈ s.box.notified, ∃ r ∈ rows, r.eventId = id := by
        rintro row rows rfl id hid
        obtain ⟨r, hr, hname⟩ := hs id hid
        exact ⟨r, List.mem_append_left _ hr, hname⟩
      rcases systemStep_recorded cfg s e with hsilent |
          ⟨_, _, _, _, t, id, -, -, -, hsilent | ⟨hrows, hsame | hnew⟩⟩
      · rw [Listed, hsilent.1, hsilent.2]
        exact hs
      · rw [Listed, hsilent.1, hsilent.2]
        exact hs
      · rw [Listed, hsame]
        exact hmore _ _ hrows
      · rw [Listed, hnew]
        intro name hname
        rcases List.mem_append.mp hname with hold | hlast
        · exact hmore _ _ hrows name hold
        · refine ⟨rowOf cfg t id, ?_, (List.mem_singleton.mp hlast).symm⟩
          rw [hrows]
          exact List.mem_append_right _ (List.mem_singleton.mpr rfl)

theorem hubStep_media (cfg : Config) (h : Hub) (e : HubEvent) :
    (hubStep cfg h e).media = h.media ∨
      ∃ e', e = .media e' ∧ (hubStep cfg h e).media = historyStep cfg h.media e' := by
  cases e with
  | media e => exact Or.inr ⟨e, rfl, rfl⟩
  | connect => exact Or.inl rfl
  | turn i => exact Or.inl rfl
  | disconnect i => exact Or.inl rfl

theorem listed_run (cfg : Config) (clock : ℚ) (es : List HubEvent) :
    Listed (hubRun cfg clock es).media := by
  refine run_invariant (fun h : Hub => Listed h.media) ?_ ?_ es
  · intro h e hlisted
    rcases hubStep_media cfg h e with hsame | ⟨e', -, hnext⟩
    · rw [hsame]
      exact hlisted
    · rw [hnext]
      exact listed_step hlisted e'
  · intro id hid
    cases hid

/-- A row is found by its name. -/
theorem getEvent_isSome {rows : List EventRow} {id : String}
    (h : ∃ r ∈ rows, r.eventId = id) : (getEvent id rows).isSome = true := by
  obtain ⟨r, hr, rfl⟩ := h
  obtain ⟨i, hi⟩ := List.mem_iff_getElem?.mp hr
  have hrow : (dbRows rows)[i]? = some ⟨i + 1, r.eventId, r.triggeredAt, r.eventDir⟩ := by
    rw [dbRows_getElem?, hi]
    rfl
  rw [getEvent, List.find?_isSome]
  exact ⟨_, List.mem_of_getElem? hrow, beq_self_eq_true _⟩

end Media

/-! ## A connection in a run -/

section Run

variable {cfg : Config} {h : Hub} {since i : Nat}

/-- The `i`-th connection, since so many events had been told about. -/
def Follows (since i : Nat) (h : Hub) : Prop :=
  since ≤ h.media.box.notified.length ∧ ∃ c, h.clients[i]? = some c ∧
    (c.listed = true → Feeds (h.media.box.notified.drop since) c)

/-- What is done to one connection. -/
theorem Follows.modify (hf : Follows since i h) {f : Subscriber → Subscriber} (j : Nat)
    (hfeeds : ∀ c, (c.listed = true → Feeds (h.media.box.notified.drop since) c) →
      (f c).listed = true → Feeds (h.media.box.notified.drop since) (f c)) :
    Follows since i { h with clients := h.clients.modify j f } := by
  obtain ⟨hlen, c, hi, hc⟩ := hf
  refine ⟨hlen, ?_⟩
  by_cases hij : j = i
  · refine ⟨f c, ?_, hfeeds c hc⟩
    show (h.clients.modify j f)[i]? = some (f c)
    rw [List.getElem?_modify, hi]
    exact congrArg some (if_pos hij)
  · refine ⟨c, ?_, hc⟩
    show (h.clients.modify j f)[i]? = some c
    rw [List.getElem?_modify, hi]
    exact congrArg some (if_neg hij)

/-- A new start closes what is there. -/
theorem keepClients_getElem? {clients : List Subscriber} {c : Subscriber} {offered : List String}
    (hi : clients[i]? = some c) (hc : c.listed = true → Feeds offered c) (e : HistoryEvent) :
    ∃ c', (keepClients clients e)[i]? = some c' ∧ (c'.listed = true → Feeds offered c') := by
  cases e with
  | boot now =>
      refine ⟨{ c with listed := false }, ?_, fun hcontra => by cases hcontra⟩
      rw [keepClients, List.getElem?_map, hi, Option.map_some]
  | system e => exact ⟨c, hi, hc⟩

/-- **Step lemma.** -/
theorem follows_step (hf : Follows since i h) (e : HubEvent) :
    Follows since i (hubStep cfg h e) := by
  cases e with
  | media e =>
      obtain ⟨hlen, c, hi, hc⟩ := hf
      have hnotified := historyStep_notified cfg h.media e
      obtain ⟨c', hi', hc'⟩ := keepClients_getElem? hi hc e
      obtain ⟨c'', hi'', hc''⟩ :=
        notify_getElem? hi' hc' (freshEvents h.media (historyStep cfg h.media e))
      refine ⟨?_, c'', hi'', fun hlisted => ?_⟩
      · show since ≤ (historyStep cfg h.media e).box.notified.length
        rw [hnotified, List.length_append]
        omega
      · show Feeds ((historyStep cfg h.media e).box.notified.drop since) c''
        rw [hnotified, List.drop_append_of_le_length hlen]
        exact hc'' hlisted
  | connect =>
      obtain ⟨hlen, c, hi, hc⟩ := hf
      refine ⟨hlen, c, ?_, hc⟩
      show (h.clients ++ [_])[i]? = some c
      rw [List.getElem?_append_left (List.getElem?_eq_some_iff.mp hi).1, hi]
  | turn j =>
      refine hf.modify j fun c hc hlisted => ?_
      cases hopen : c.listed with
      | true =>
          rw [if_pos rfl]
          exact feeds_turn (hc hopen)
      | false =>
          rw [hopen, if_neg Bool.false_ne_true] at hlisted
          rw [hopen] at hlisted
          cases hlisted
  | disconnect j => exact hf.modify j fun c _ hcontra => by cases hcontra

/-- **WHAT A SUBSCRIBER GETS**, from its connection on and for as long as it lasts, however
    events, other connections and new starts come in between: the events in their order and none
    twice, at most ten of them waiting; all of them exactly when none found its queue full; and
    every event it is told about is in the table. -/
theorem subscriber_stream (cfg : Config) (clock : ℚ) (before after : List HubEvent) :
    let first := hubRun cfg clock before
    let last := hubRun cfg clock (before ++ .connect :: after)
    let offered := last.media.box.notified.drop first.media.box.notified.length
    ∃ c, last.clients[first.clients.length]? = some c ∧ (c.listed = true →
      (c.sent ++ c.queue).Sublist offered ∧ c.queue.length ≤ 10 ∧
      offered.length = c.sent.length + c.queue.length + c.missed ∧
      (c.missed = 0 ↔ c.sent ++ c.queue = offered) ∧
      ∀ id ∈ offered, (getEvent id last.media.box.rows).isSome = true) := by
  intro first last offered
  have hstart : Follows first.media.box.notified.length first.clients.length
      (hubStep cfg first .connect) := by
    refine ⟨le_refl _, ⟨[], [], 0, true⟩, List.getElem?_concat_length, fun _ => ?_⟩
    show Feeds (first.media.box.notified.drop first.media.box.notified.length) _
    rw [List.drop_length]
    exact feeds_connect
  have hlast : last = run (hubStep cfg) (hubStep cfg first .connect) after := run_append ..
  have hfollows := run_invariant (Follows first.media.box.notified.length first.clients.length)
    (fun h e hf => (follows_step hf e : Follows _ _ (hubStep cfg h e))) hstart after
  rw [← hlast] at hfollows
  obtain ⟨-, c, hc, hfeeds⟩ := hfollows
  refine ⟨c, hc, fun hlisted => ?_⟩
  obtain ⟨f, hoffered, hsent, hqueue, hmissed⟩ := hfeeds hlisted
  have hoffered : f.offered = offered := hoffered
  have horder := f.inOrder
  have hroom := f.room
  have haccount := f.account
  have hcomplete := f.complete_iff
  rw [hoffered, hsent, hqueue] at horder
  rw [hqueue] at hroom
  rw [hoffered, hsent, hqueue, hmissed] at haccount
  rw [hoffered, hsent, hqueue, hmissed] at hcomplete
  refine ⟨horder, hroom, haccount, hcomplete, fun id hid => getEvent_isSome ?_⟩
  exact listed_run cfg clock (before ++ .connect :: after) id (List.mem_of_mem_drop hid)

end Run

end EventStream
