import RemoteVehicle.Runs

/-!
# Messages that keep being answered

Members of a network answer what they receive, each message with one message or none.  A run is
any interleaving of deliveries, losses and messages that somebody sends on its own.

If there is a kind of message that every member answers with a message of that kind, then what
the members have on the way between them does not dry up: `balance` says that its amount is what
was posted less what was lost, however often it has been delivered.
-/

namespace Exchange

open Runs

variable {A X M : Type}

/-- A message on its way. -/
structure Packet (A M : Type) where
  src : A
  dst : A
  msg : M
deriving DecidableEq, Repr

/-- What happens next.  An answer may depend on some more that is found at its time. -/
inductive Event (A X M : Type) where
  | deliver (i : Nat) (x : X)
  | lose (i : Nat)
  | post (p : Packet A M)
deriving Repr

/-- The members, and how they answer. -/
structure Members (A X M : Type) where
  isMember : A → Bool
  answer : A → X → M → Option M

/-- The answer to a packet goes back to where it came from; others than members do not answer. -/
def reply (ms : Members A X M) (x : X) (p : Packet A M) : List (Packet A M) :=
  if ms.isMember p.dst then
    match ms.answer p.dst x p.msg with
    | none => []
    | some m => [⟨p.dst, p.src, m⟩]
  else []

/-- One step on what is on the way. -/
def step (ms : Members A X M) (net : List (Packet A M)) : Event A X M → List (Packet A M)
  | .deliver i x =>
      match net[i]? with
      | none => net
      | some p => net.eraseIdx i ++ reply ms x p
  | .lose i => net.eraseIdx i
  | .post p => net ++ [p]

/-- The packet is between two members. -/
def inside (ms : Members A X M) (p : Packet A M) : Bool := ms.isMember p.src && ms.isMember p.dst

/-- How many packets are on the way between members. -/
def traffic (ms : Members A X M) (net : List (Packet A M)) : Nat := net.countP (inside ms)

/-- What a step has posted between members, and what it has lost. -/
def posted (ms : Members A X M) (_ : List (Packet A M)) : Event A X M → List (Packet A M)
  | .post p => [p].filter (inside ms)
  | _ => []

def lost (ms : Members A X M) (net : List (Packet A M)) : Event A X M → List (Packet A M)
  | .lose i => net[i]?.toList.filter (inside ms)
  | _ => []

/-- A kind of message that members answer, and they answer with nothing else. -/
structure Kept (ms : Members A X M) (K : M → Prop) : Prop where
  answers : ∀ a x m r, ms.isMember a = true → ms.answer a x m = some r → K r
  answered : ∀ a x m, ms.isMember a = true → K m → ∃ r, ms.answer a x m = some r

/-- Members post messages of that kind only. -/
def PostsKind (ms : Members A X M) (K : M → Prop) (_ : List (Packet A M)) :
    Event A X M → Prop
  | .post p => ms.isMember p.src = true → K p.msg
  | _ => True

section Balance

variable {ms : Members A X M} {K : M → Prop} {net : List (Packet A M)} {p : Packet A M} {i : Nat}

theorem traffic_append (net more : List (Packet A M)) :
    traffic ms (net ++ more) = traffic ms net + traffic ms more := List.countP_append

/-- One packet less. -/
theorem traffic_eraseIdx (hi : net[i]? = some p) :
    traffic ms (net.eraseIdx i) + ([p].filter (inside ms)).length = traffic ms net := by
  have hlt := (List.getElem?_eq_some_iff.mp hi).1
  have hget := (List.getElem?_eq_some_iff.mp hi).2
  have hsplit : net = net.take i ++ p :: net.drop (i + 1) := by
    rw [← hget, ← List.drop_eq_getElem_cons hlt, List.take_append_drop]
  have herase : net.eraseIdx i = net.take i ++ net.drop (i + 1) :=
    List.eraseIdx_eq_take_drop_succ ..
  have hone : ([p].filter (inside ms)).length = traffic ms [p] := List.countP_eq_length_filter.symm
  have hcons : traffic ms (p :: net.drop (i + 1)) =
      traffic ms [p] + traffic ms (net.drop (i + 1)) := traffic_append [p] _
  have hwhole : traffic ms net = traffic ms (net.take i) + traffic ms (p :: net.drop (i + 1)) :=
    (congrArg (traffic ms) hsplit).trans (traffic_append _ _)
  rw [herase, traffic_append, hone]
  omega

/-- Every packet of a member has a message of the kind. -/
def AllKind (ms : Members A X M) (K : M → Prop) (net : List (Packet A M)) : Prop :=
  ∀ p ∈ net, ms.isMember p.src = true → K p.msg

/-- Between members, a packet is answered by one packet between members. -/
theorem reply_inside (hkept : Kept ms K) (hp : inside ms p = true)
    (hkind : ms.isMember p.src = true → K p.msg) (x : X) :
    ∃ r, reply ms x p = [⟨p.dst, p.src, r⟩] ∧ inside ms ⟨p.dst, p.src, r⟩ = true := by
  obtain ⟨hsrc, hdst⟩ := Bool.and_eq_true_iff.mp hp
  obtain ⟨r, hanswer⟩ := hkept.answered p.dst x p.msg hdst (hkind hsrc)
  refine ⟨r, ?_, ?_⟩
  · rw [reply, if_pos hdst, hanswer]
  · exact Bool.and_eq_true_iff.mpr ⟨hdst, hsrc⟩

/-- A packet that is not between members has no answer between members. -/
theorem reply_outside (hp : inside ms p = false) (x : X) :
    traffic ms (reply ms x p) = 0 := by
  rw [reply]
  split
  · rename_i hdst
    split
    · rfl
    · rename_i m _
      have hout : inside ms ⟨p.dst, p.src, m⟩ = false := by
        rw [inside, Bool.and_comm]
        exact hp
      rw [traffic, List.countP_singleton, hout]
      rfl
  · rfl

/-- **Step lemma.** -/
theorem step_balance (hkept : Kept ms K) (hnet : AllKind ms K net) (e : Event A X M) :
    traffic ms (step ms net e) + (lost ms net e).length =
      traffic ms net + (posted ms net e).length := by
  cases e with
  | deliver i x =>
      show traffic ms (step ms net (.deliver i x)) + 0 = traffic ms net + 0
      rw [step]
      rcases hi : net[i]? with _ | p
      · rfl
      · have herase : traffic ms (net.eraseIdx i) + ([p].filter (inside ms)).length =
            traffic ms net := traffic_eraseIdx hi
        dsimp only
        rw [traffic_append]
        cases hp : inside ms p with
        | true =>
            obtain ⟨r, hreply, hback⟩ :=
              reply_inside hkept hp (hnet p (List.mem_of_getElem? hi)) x
            have hone : traffic ms (reply ms x p) = 1 := by
              rw [hreply, traffic, List.countP_singleton, hback]
              rfl
            have hgone : ([p].filter (inside ms)).length = 1 := by
              rw [List.filter_singleton, hp]
              rfl
            omega
        | false =>
            have hnone := reply_outside hp x
            have hgone : ([p].filter (inside ms)).length = 0 := by
              rw [List.filter_singleton, hp]
              rfl
            omega
  | lose i =>
      show traffic ms (net.eraseIdx i) + (net[i]?.toList.filter (inside ms)).length =
        traffic ms net + 0
      rcases hi : net[i]? with _ | p
      · rw [List.eraseIdx_of_length_le (List.getElem?_eq_none_iff.mp hi)]
        rfl
      · exact traffic_eraseIdx hi
  | post p =>
      show traffic ms (net ++ [p]) + 0 = traffic ms net + ([p].filter (inside ms)).length
      have hone : ([p].filter (inside ms)).length = traffic ms [p] :=
        List.countP_eq_length_filter.symm
      rw [traffic_append, hone]
      rfl

/-- What is answered is of the kind. -/
theorem reply_kind (hkept : Kept ms K) {x : X} {q : Packet A M} (hq : q ∈ reply ms x p) :
    K q.msg := by
  rw [reply] at hq
  split at hq
  · rename_i hdst
    split at hq
    · cases hq
    · rename_i r hanswer
      obtain rfl := List.mem_singleton.mp hq
      exact hkept.answers p.dst x p.msg r hdst hanswer
  · cases hq

/-- Members stay with the kind. -/
theorem allKind_step (hkept : Kept ms K) (net : List (Packet A M)) (e : Event A X M)
    (hnet : AllKind ms K net) (he : PostsKind ms K net e) : AllKind ms K (step ms net e) := by
  intro q hq hsrc
  cases e with
  | deliver i x =>
      rw [step] at hq
      rcases hi : net[i]? with _ | p
      · rw [hi] at hq
        exact hnet q hq hsrc
      · rw [hi] at hq
        rcases List.mem_append.mp hq with hold | hnew
        · exact hnet q (List.mem_of_mem_eraseIdx hold) hsrc
        · exact reply_kind hkept hnew
  | lose i => exact hnet q (List.mem_of_mem_eraseIdx hq) hsrc
  | post p =>
      rcases List.mem_append.mp hq with hold | hnew
      · exact hnet q hold hsrc
      · obtain rfl := List.mem_singleton.mp hnew
        exact he hsrc

/-- **Balance.**  What is on the way between members is what they have posted to each other, less
    what was lost. -/
theorem balance (hkept : Kept ms K) (hnet : AllKind ms K net) {es : List (Event A X M)}
    (hes : AllSteps (step ms) (PostsKind ms K) net es) :
    traffic ms (run (step ms) net es) + (trace (step ms) (lost ms) net es).length =
      traffic ms net + (trace (step ms) (posted ms) net es).length := by
  induction es generalizing net with
  | nil => rfl
  | cons e es ih =>
      have hrest := ih (allKind_step hkept net e hnet hes.1) hes.2
      have hone := step_balance hkept hnet e
      rw [run_cons, trace_cons, trace_cons, List.length_append, List.length_append]
      omega

end Balance

end Exchange
