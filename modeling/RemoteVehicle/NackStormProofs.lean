import RemoteVehicle.DiscoveryProofs
import RemoteVehicle.Exchange

/-!
# Discovery handlers that hear each other

A handler listens on the port that announcements are broadcast to, and answers whatever it does
not understand to where it came from — from the same port.  So a vehicle that hears an
announcement, another vehicle's or its own, has started an exchange of NACKs that `Exchange`'s
rule applies to: all that handlers send, handlers answer.
-/

namespace NackStorm

open Discovery Exchange MediaDoip MediaUdp Runs

variable {A : Type}

/-- The addresses that a `DoIPUDPHandler` is bound to. -/
def handlers (vehicle : A → Option Identity) : Members A UInt8 (List UInt8) where
  isMember a := (vehicle a).isSome
  answer a sockets data :=
    match vehicle a with
    | none => none
    | some cfg => datagramReceived cfg sockets data

/-- `announce_loop` sends nothing but its own announcement; others send what they like. -/
def Announces (vehicle : A → Option Identity) (_ : List (Packet A (List UInt8))) :
    Event A UInt8 (List UInt8) → Prop
  | .post p => ∀ cfg, vehicle p.src = some cfg → p.msg = buildVehicleAnnouncement cfg
  | _ => True

/-- The NACK that goes to and fro. -/
def unknownNack : List UInt8 := buildGenericNack GenericNackCode.unknownPayloadType

/-- What is on the way from one handler to another. -/
def Stray (vehicle : A → Option Identity) (net : List (Packet A (List UInt8))) : Prop :=
  ∀ p ∈ net, inside (handlers vehicle) p = true → p.msg = unknownNack ∨
    ∃ cfg, vehicle p.src = some cfg ∧ p.msg = buildVehicleAnnouncement cfg

section Handlers

variable {vehicle : A → Option Identity}

/-- What a handler answers is one of the frames it sends. -/
theorem sent_received {cfg : Identity} {sockets : UInt8} {data reply : List UInt8}
    (h : datagramReceived cfg sockets data = some reply) : Sent reply := by
  rw [datagramReceived] at h
  split at h
  · obtain rfl := Option.some.inj h
    exact Sent.nack _
  · split at h
    · obtain rfl := Option.some.inj h
      exact Sent.nack _
    · rw [dispatch] at h
      split at h
      · rename_i hreq
        rcases vehicleIdRequest_cases cfg _ hreq with ⟨-, -, hr⟩ | ⟨-, -, hr⟩ | ⟨-, -, hr⟩
        · rw [hr] at h
          obtain rfl := Option.some.inj h
          exact Sent.announcement cfg
        · rw [hr] at h
          cases h
        · rw [hr] at h
          obtain rfl := Option.some.inj h
          exact Sent.nack _
      · split at h
        · obtain rfl := Option.some.inj h
          exact Sent.entityStatus sockets
        · split at h
          · obtain rfl := Option.some.inj h
            exact Sent.powerMode
          · obtain rfl := Option.some.inj h
            exact Sent.nack _

/-- Handlers answer what handlers send. -/
theorem kept (vehicle : A → Option Identity) : Kept (handlers vehicle) Sent where
  answers := by
    intro a sockets data reply _ hanswer
    rw [handlers] at hanswer
    dsimp only at hanswer
    rcases hcfg : vehicle a with _ | cfg
    · rw [hcfg] at hanswer
      cases hanswer
    · rw [hcfg] at hanswer
      exact sent_received hanswer
  answered := by
    intro a sockets data hmember hsent
    obtain ⟨cfg, hcfg⟩ := Option.isSome_iff_exists.mp hmember
    refine ⟨unknownNack, ?_⟩
    rw [handlers]
    dsimp only
    rw [hcfg]
    exact received_sent hsent cfg sockets

theorem postsKind_of_announces (net : List (Packet A (List UInt8)))
    (e : Event A UInt8 (List UInt8)) (h : Announces vehicle net e) :
    PostsKind (handlers vehicle) Sent net e := by
  cases e with
  | deliver _ _ => trivial
  | lose _ => trivial
  | post p =>
      intro hmember
      obtain ⟨cfg, hcfg⟩ := Option.isSome_iff_exists.mp hmember
      rw [h cfg hcfg]
      exact Sent.announcement cfg

/-- An announcement or a NACK is answered with the NACK. -/
theorem stray_reply {p q : Packet A (List UInt8)} {sockets : UInt8}
    (hp : inside (handlers vehicle) p = true → p.msg = unknownNack ∨
      ∃ cfg, vehicle p.src = some cfg ∧ p.msg = buildVehicleAnnouncement cfg)
    (hq : q ∈ reply (handlers vehicle) sockets p) (hin : inside (handlers vehicle) q = true) :
    q.msg = unknownNack := by
  rw [reply] at hq
  split at hq
  · rename_i hdst
    obtain ⟨cfg, hcfg⟩ := Option.isSome_iff_exists.mp hdst
    have hanswer : (handlers vehicle).answer p.dst sockets p.msg =
        datagramReceived cfg sockets p.msg := by
      rw [handlers]
      dsimp only
      rw [hcfg]
    split at hq
    · cases hq
    · rename_i r hr
      obtain rfl := List.mem_singleton.mp hq
      have hback : inside (handlers vehicle) p = true := by
        rw [inside, Bool.and_comm]
        exact hin
      have hsent : Sent p.msg := by
        rcases hp hback with hmsg | ⟨own, -, hmsg⟩
        · rw [hmsg]
          exact Sent.nack _
        · rw [hmsg]
          exact Sent.announcement own
      rw [hanswer, received_sent hsent] at hr
      exact (Option.some.inj hr).symm
  · cases hq

/-- **Step lemma.** -/
theorem stray_step (net : List (Packet A (List UInt8))) (e : Event A UInt8 (List UInt8))
    (hnet : Stray vehicle net) (he : Announces vehicle net e) :
    Stray vehicle (step (handlers vehicle) net e) := by
  intro q hq hin
  cases e with
  | deliver i sockets =>
      rw [step] at hq
      rcases hi : net[i]? with _ | p
      · rw [hi] at hq
        exact hnet q hq hin
      · rw [hi] at hq
        rcases List.mem_append.mp hq with hold | hnew
        · exact hnet q (List.mem_of_mem_eraseIdx hold) hin
        · exact Or.inl (stray_reply (hnet p (List.mem_of_getElem? hi)) hnew hin)
  | lose i => exact hnet q (List.mem_of_mem_eraseIdx hq) hin
  | post p =>
      rcases List.mem_append.mp hq with hold | hnew
      · exact hnet q hold hin
      · obtain rfl := List.mem_singleton.mp hnew
        obtain ⟨hsrc, -⟩ := Bool.and_eq_true_iff.mp hin
        obtain ⟨cfg, hcfg⟩ := Option.isSome_iff_exists.mp hsrc
        exact Or.inr ⟨cfg, hcfg, he cfg hcfg⟩

end Handlers

/-- **HANDLERS THAT HEAR EACH OTHER**, in every interleaving of announcements, testers' datagrams,
    deliveries and losses: what is on the way between handlers is as much as they have announced to
    each other less what was lost, whatever has been delivered meanwhile, and apart from the
    announcements it is NACKs for an unknown payload type. -/
theorem nack_storm (vehicle : A → Option Identity) (es : List (Event A UInt8 (List UInt8)))
    (hes : AllSteps (step (handlers vehicle)) (Announces vehicle) [] es) :
    let net := run (step (handlers vehicle)) [] es
    traffic (handlers vehicle) net +
        (trace (step (handlers vehicle)) (lost (handlers vehicle)) [] es).length =
      (trace (step (handlers vehicle)) (posted (handlers vehicle)) [] es).length ∧
      Stray vehicle net := by
  refine ⟨?_, ?_⟩
  · have hkinds := allSteps_guarded (P := PostsKind (handlers vehicle) Sent) (fun _ => True)
      (fun _ _ _ _ => trivial) (fun net e _ he => postsKind_of_announces net e he) trivial hes
    have hbalance := balance (kept vehicle) (fun p hp => by cases hp) hkinds
    rw [hbalance]
    exact Nat.zero_add _
  · exact run_guarded (Stray vehicle) stray_step (fun p hp => by cases hp) hes

/-- A vehicle, alone on its network, that hears its own announcement. -/
def ownVehicle : Identity where
  vin := List.replicate 17 'V'
  logicalAddress := 0x0030
  eid := [2, 0, 0, 0, 0, 1]
  gid := [2, 0, 0, 0, 0, 1]
  vin_length := rfl
  vin_ascii := fun c hc => by
    obtain rfl := List.eq_of_mem_replicate hc
    decide
  eid_length := rfl
  gid_length := rfl

def ownNetwork : Unit → Option Identity := fun _ => some ownVehicle

def ownEvents (n : Nat) : List (Event Unit UInt8 (List UInt8)) :=
  .post ⟨(), (), buildVehicleAnnouncement ownVehicle⟩ :: List.replicate n (.deliver 0 0)

theorem own_announces (n : Nat) :
    AllSteps (step (handlers ownNetwork)) (Announces ownNetwork) [] (ownEvents n) := by
  refine allSteps_of_mem fun net e he => ?_
  rcases List.mem_cons.mp he with rfl | he
  · intro cfg hcfg
    obtain rfl := Option.some.inj hcfg
    rfl
  · obtain rfl := (List.mem_replicate.mp he).2
    trivial

/-- A hundred deliveries later there is still a datagram on the way. -/
theorem nack_storm_own :
    traffic (handlers ownNetwork) (run (step (handlers ownNetwork)) [] (ownEvents 100)) = 1 ∧
      Stray ownNetwork (run (step (handlers ownNetwork)) [] (ownEvents 100)) := by
  have hstorm := nack_storm ownNetwork (ownEvents 100) (own_announces 100)
  have hlost : (trace (step (handlers ownNetwork)) (lost (handlers ownNetwork)) []
      (ownEvents 100)).length = 0 := by decide +kernel
  have hposted : (trace (step (handlers ownNetwork)) (posted (handlers ownNetwork)) []
      (ownEvents 100)).length = 1 := by decide +kernel
  refine ⟨?_, hstorm.2⟩
  have hbalance := hstorm.1
  rwa [hlost, hposted, Nat.add_zero] at hbalance

end NackStorm
