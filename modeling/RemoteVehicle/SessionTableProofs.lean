import RemoteVehicle.MediaServer

/-!
# One activated session for each client address, at every point of every run

Routing activation looks at the other sessions of the table and then changes its own; there
is no place to wait between the two, so both are in one step of the server and the table
stays exclusive in the addresses of the activated sessions (`safe_resume`).

A message is compared with the session before it is acknowledged and handled after that.
While the acknowledgement is sent the other sessions go on, but the session itself does not,
so the message that it handles is still one that it accepts (`goesOn_resume`).
-/

namespace SessionTable

open MediaTcp hiding dispatch run
open Runs KeyedTable MediaDoip MediaUds MediaServer

/-! ## Sessions -/

/-- The address that a session has been activated for. -/
def Session.activeSa (self : Session) : Option UInt16 :=
  if self.activated then self.clientSa else none

/-- The address that a session of the table has been activated for. -/
def activeSa (task : TcpTask) : Option UInt16 := Session.activeSa task.session

/-- The message comes from the client that the session has been activated for, and goes to
    this server. -/
structure Accepted (self : Session) (msg : DiagnosticMessage) : Prop where
  activated : self.activated = true
  source : self.clientSa = some msg.sourceAddress
  target : msg.targetAddress = buildConfig.logicalAddress

variable {cfg : Config} {g : Gateway} {self : Session} {payload : List UInt8}

/-- **Routing activation** leaves the session as it is, or takes an address that no other
    session has. -/
theorem handleRoutingActivation_session (cfg : Config) (payload : List UInt8) (self : Session)
    (others : List Session) :
    (handleRoutingActivation cfg payload self others).2 = self ∨
      ∃ sa, (handleRoutingActivation cfg payload self others).2 = ⟨true, some sa⟩ ∧
        ∀ other ∈ others, Session.activeSa other ≠ some sa := by
  rw [handleRoutingActivation]
  split
  · exact .inl rfl
  · rename_i req _
    dsimp only
    split
    · exact .inl rfl
    · split
      · exact .inl rfl
      · rename_i hfree
        refine .inr ⟨req.sourceAddress, rfl, ?_⟩
        intro other hother hactive
        rw [Session.activeSa] at hactive
        split at hactive
        · rename_i hactivated
          exact hfree (List.any_eq_true.mpr ⟨other, hother, by simp [hactive, hactivated]⟩)
        · cases hactive

/-- **A message is handled** only when the session accepts it. -/
theorem handleDiagnostic_accepted {ack : List UInt8} {msg : DiagnosticMessage}
    (hactivated : self.activated = true) (h : handleDiagnostic payload self = .ok (ack, msg)) :
    Accepted self msg := by
  rw [handleDiagnostic] at h
  split at h
  · cases h
  · dsimp only at h
    split at h
    · cases h
    · rename_i hsource
      split at h
      · cases h
      · rename_i htarget
        cases h
        exact ⟨hactivated, (not_not.mp hsource).symm, not_not.mp htarget⟩

/-! ## Tasks -/

/-- A session that goes on stays in its place of the table, and has its address or one that
    no other session has; a message that it is to handle is accepted. -/
structure GoesOn (g : Gateway) (task next : TcpTask) : Prop where
  id : next.id = task.id
  address : activeSa next = activeSa task ∨
    ∀ sa, activeSa next = some sa → ∀ other ∈ g.others, Session.activeSa other ≠ some sa
  accepted : ∀ msg, next.message = some msg → Accepted next.session msg

/-- It only waits for something else. -/
theorem goesOn_of_waiting {task next : TcpTask} (hid : next.id = task.id)
    (hsession : next.session = task.session) (hmessage : next.message = none) :
    GoesOn g task next := by
  refine ⟨hid, .inl ?_, fun msg hmsg => ?_⟩
  · rw [activeSa, hsession, activeSa]
  · rw [hmessage] at hmsg
    cases hmsg

theorem goesOn_dispatch (hdr : DoIPHeader) (task : TcpTask) :
    GoesOn g task (dispatch cfg g hdr payload task) := by
  rw [dispatch]
  dsimp only
  split
  · -- routing activation: the check and the change are in this one step
    refine ⟨rfl, ?_, fun msg hmsg => by cases hmsg⟩
    rcases handleRoutingActivation_session cfg payload task.session g.others with
      hsame | ⟨sa, hnew, hfree⟩
    · exact .inl (congrArg Session.activeSa hsame)
    · refine .inr fun sa' hsa' => ?_
      have hheld : some sa = some sa' := (congrArg Session.activeSa hnew).symm.trans hsa'
      rw [← hheld]
      exact hfree
  · split
    · exact goesOn_of_waiting rfl rfl rfl
    · split
      · split
        · exact goesOn_of_waiting rfl rfl rfl
        · rename_i hidle
          have hactivated : task.session.activated = true := by simpa using hidle
          split
          · exact goesOn_of_waiting rfl rfl rfl
          · rename_i ack msg hok
            refine ⟨rfl, .inl rfl, ?_⟩
            rintro _ ⟨rfl⟩
            exact handleDiagnostic_accepted hactivated hok
      · split
        · exact goesOn_of_waiting rfl rfl rfl
        · exact goesOn_of_waiting rfl rfl rfl

theorem goesOn_receiveHeader {hdrBytes : List UInt8} {task next : TcpTask}
    (h : receiveHeader hdrBytes task = some next) : GoesOn g task next := by
  rw [receiveHeader] at h
  split at h
  · cases h
  · split at h
    · cases h
      exact goesOn_of_waiting rfl rfl rfl
    · split at h
      · cases h
        exact goesOn_of_waiting rfl rfl rfl
      · cases h
        exact goesOn_of_waiting rfl rfl rfl

/-- What it has read does not matter. -/
theorem GoesOn.of_unread {task next : TcpTask} {rest : List UInt8}
    (h : GoesOn g { task with unread := rest } next) : GoesOn g task next :=
  ⟨h.id, h.address, h.accepted⟩

/-- **Step lemma of a session.** -/
theorem goesOn_resume {task next : TcpTask} (hbefore : ∀ msg, task.message = some msg →
      Accepted task.session msg)
    (h : (resume cfg g task).1 = some next) : GoesOn g task next := by
  -- a read that cannot be done waits, or ends the session when the client has hung up
  have hwait : (if task.hungUp then none else some task) = some next → GoesOn g task next := by
    intro hopen
    split at hopen
    · cases hopen
    · cases hopen
      exact ⟨rfl, .inl rfl, hbefore⟩
  rw [resume] at h
  dsimp only at h
  split at h
  · split at h
    · exact hwait h
    · rename_i hdrBytes rest _
      have hheader : receiveHeader hdrBytes { task with unread := rest } = some next := h
      exact (goesOn_receiveHeader hheader).of_unread
  · split at h
    · exact hwait h
    · rename_i hdr _ _ _ rest _
      cases h
      exact (goesOn_dispatch hdr { task with unread := rest }).of_unread
  · cases h
    exact goesOn_of_waiting rfl rfl rfl
  · cases h
    exact goesOn_of_waiting rfl rfl rfl

/-! ## The table -/

/-- What every step of the server keeps. -/
structure SessionsSafe (cfg : Config) (server : DoIPTCPServer) : Prop where
  keyed : Keyed TcpTask.id server.sessions
  fresh : ∀ task ∈ server.sessions, task.id < server.nextId
  bounded : server.sessions.length ≤ cfg.maxTcpSessions.toNat
  exclusive : Exclusive TcpTask.id activeSa server.sessions
  accepted : ∀ task ∈ server.sessions, ∀ msg, task.message = some msg →
    Accepted task.session msg

variable {server : DoIPTCPServer}

theorem safe_initial (status : SystemStatus) : SessionsSafe cfg (.initial status) where
  keyed := keyed_nil
  fresh _ htask := absurd htask List.not_mem_nil
  bounded := Nat.zero_le _
  exclusive _ _ htask := absurd htask List.not_mem_nil
  accepted _ htask := absurd htask List.not_mem_nil

theorem safe_onClient (h : SessionsSafe cfg server) : SessionsSafe cfg (onClient cfg server) := by
  rw [onClient]
  split
  · exact h
  · rename_i hroom
    refine ⟨h.keyed.insert fun task htask => ne_of_lt (h.fresh task htask), ?_, ?_, ?_, ?_⟩
    · intro task htask
      rcases mem_insert.mp htask with rfl | htask
      · exact Nat.lt_succ_self _
      · exact Nat.lt_succ_of_lt (h.fresh task htask)
    · rw [length_insert]
      omega
    · exact h.exclusive.insert rfl
    · intro task htask msg hmsg
      rcases mem_insert.mp htask with rfl | htask
      · cases hmsg
      · exact h.accepted task htask msg hmsg

theorem safe_cleanup (h : SessionsSafe cfg server) (id : Nat) :
    SessionsSafe cfg (cleanup id server) where
  keyed := h.keyed.remove id
  fresh task htask := h.fresh task (mem_remove.mp htask).1
  bounded := le_trans (length_remove_le _ _) h.bounded
  exclusive := h.exclusive.remove id
  accepted task htask := h.accepted task (mem_remove.mp htask).1

/-- A session changes in its place. -/
theorem safe_update (h : SessionsSafe cfg server) {id : Nat} {f : TcpTask → TcpTask}
    (hf : ∀ task ∈ server.sessions, task.id = id → GoesOn (server.gateway id) task (f task))
    (hid : ∀ task, task.id = id → (f task).id = id) :
    SessionsSafe cfg { server with sessions := update TcpTask.id id f server.sessions } := by
  refine ⟨h.keyed.update hid, ?_, ?_, h.exclusive.update hid ?_, ?_⟩
  · intro task htask
    rcases mem_update.mp htask with ⟨old, hold, hold', rfl⟩ | ⟨htask, -⟩
    · rw [(hf old hold hold').id]
      exact h.fresh old hold
    · exact h.fresh task htask
  · rw [length_update]
    exact h.bounded
  · intro task htask htask'
    rcases (hf task htask htask').address with hsame | hfree
    · exact .inl hsame
    · exact .inr fun sa hsa other hother =>
        hfree sa hsa other.session (List.mem_map_of_mem hother)
  · intro task htask
    rcases mem_update.mp htask with ⟨old, hold, hold', rfl⟩ | ⟨htask, -⟩
    · exact (hf old hold hold').accepted
    · exact h.accepted task htask

/-- The store and the status do not matter. -/
theorem safe_shared (h : SessionsSafe cfg server) (dtcs : List DtcRow) (status : SystemStatus) :
    SessionsSafe cfg { server with dtcs := dtcs, status := status } :=
  ⟨h.keyed, h.fresh, h.bounded, h.exclusive, h.accepted⟩

theorem safe_resume (h : SessionsSafe cfg server) (id : Nat) :
    SessionsSafe cfg (resumeSession cfg id server) := by
  rw [resumeSession]
  split
  · exact h
  · rename_i task hselect
    obtain ⟨hmem, hid⟩ := mem_of_select hselect
    have hshared := safe_shared h (resume cfg (server.gateway id) task).2.dtcs server.status
    dsimp only
    split
    · exact safe_cleanup hshared id
    · rename_i next hnext
      have hgoes := goesOn_resume (h.accepted task hmem) hnext
      refine safe_update hshared ?_ fun _ _ => hgoes.id.trans hid
      intro old hold hold'
      have hsame : old = task := h.keyed.unique hold hmem (hold'.trans hid.symm)
      subst hsame
      exact ⟨hgoes.id, hgoes.address, hgoes.accepted⟩

/-- **Step lemma of the server.** -/
theorem safe_step (h : SessionsSafe cfg server) (e : Event) :
    SessionsSafe cfg (serverStep cfg server e) := by
  cases e with
  | connect => exact safe_onClient h
  | deliver id bytes =>
      exact safe_update h (fun task htask _ => ⟨rfl, .inl rfl, h.accepted task htask⟩)
        fun _ hid => hid
  | hangUp id =>
      exact safe_update h (fun task htask _ => ⟨rfl, .inl rfl, h.accepted task htask⟩)
        fun _ hid => hid
  | resume id => exact safe_resume h id
  | fail id => exact safe_cleanup h id
  | handlerFails id =>
      show SessionsSafe cfg (handlerFails id server)
      rw [handlerFails]
      split
      · exact h
      · exact safe_cleanup h id
  | monitor op => exact safe_shared h _ _
  | observe status => exact safe_shared h _ _

/-- A message that is handled is one that its session accepts. -/
theorem accepted_udsCalls (h : SessionsSafe cfg server) (e : Event) :
    ∀ call ∈ udsCalls server e,
      call.1 ∈ server.sessions ∧ Accepted call.1.session call.2 := by
  have hcall : ∀ id, ∀ call ∈ udsCalls server (.resume id),
      call.1 ∈ server.sessions ∧ Accepted call.1.session call.2 := by
    intro id call hmem
    rw [udsCalls] at hmem
    split at hmem
    · cases hmem
    · rename_i task hselect
      obtain ⟨htask, -⟩ := mem_of_select hselect
      obtain ⟨msg, hmsg, rfl⟩ := Option.map_eq_some_iff.mp (Option.mem_toList.mp hmem)
      exact ⟨htask, h.accepted task htask msg hmsg⟩
  cases e with
  | resume id => exact hcall id
  | handlerFails id => exact hcall id
  | connect | deliver | hangUp | fail | monitor | observe => exact fun _ hmem => by cases hmem

/-! ## Main result -/

/-- **The sessions are safe in every run**, whatever the configuration: no address is
    activated for two of them, there are never more than the maximum, and each call of the
    handler is for a message that an activated session of the table accepts. -/
theorem sessions_safe (cfg : Config) (status : SystemStatus) (es : List Event) :
    let server := run (serverStep cfg) (.initial status) es
    (∀ sa, ∀ task ∈ server.sessions, ∀ other ∈ server.sessions,
      activeSa task = some sa → activeSa other = some sa → task = other) ∧
    server.sessions.length ≤ cfg.maxTcpSessions.toNat ∧
    ∀ e, ∀ call ∈ udsCalls server e,
      call.1 ∈ server.sessions ∧ Accepted call.1.session call.2 := by
  intro server
  have hsafe : SessionsSafe cfg server :=
    run_invariant (SessionsSafe cfg) (fun _ e h => safe_step h e) (safe_initial status) es
  refine ⟨?_, hsafe.bounded, fun e => accepted_udsCalls hsafe e⟩
  intro sa task htask other hother hactive hactive'
  exact hsafe.keyed.unique htask hother
    (hsafe.exclusive sa task htask other hother hactive hactive')

end SessionTable
