import RemoteVehicle.BodySpec
import RemoteVehicle.CollisionEventProofs
import RemoteVehicle.MediaTrigger
import RemoteVehicle.PcBackend
import RemoteVehicle.UdsTunnelProofs

/-!
# One collision event and three readers

BODY sends type and time in five bytes, MAIN passes them on.  The two readers of MEDIA take
exactly this.  The backend of the operator page expects a byte more, between type and time,
and drops every such datagram.
-/

namespace CollisionCodec

open CanFrame BodyState BodyCan CollisionEvent MainState MainTransmit MainRouting MainLoop
open UdsFrame UdsTunnel PcBackend

/-- The five bytes of an event. -/
def collisionBytes (occurrenceTimeMs : UInt32) : List UInt8 :=
  1 :: BigEndian.digits 4 occurrenceTimeMs.toNat

/-- The bytes that BODY puts into its frame. -/
theorem collisionBytes_eq (occurrenceTimeMs : UInt32) :
    collisionBytes occurrenceTimeMs =
      ([1, (occurrenceTimeMs >>> 24).toUInt8, (occurrenceTimeMs >>> 16).toUInt8,
        (occurrenceTimeMs >>> 8).toUInt8, occurrenceTimeMs.toUInt8] : List UInt8) := by
  have hbyte : ∀ w : UInt32, w.toUInt8 = UInt8.ofNat w.toNat := by
    intro w
    rw [← UInt8.toNat_inj, UInt32.toNat_toUInt8, UInt8.toNat_ofNat']
  have hshift : ∀ k : UInt32, k.toNat < 32 →
      (occurrenceTimeMs >>> k).toNat = occurrenceTimeMs.toNat / 2 ^ k.toNat := by
    intro k hk
    rw [UInt32.toNat_shiftRight, Nat.mod_eq_of_lt hk, Nat.shiftRight_eq_div_pow]
  have h8 : (occurrenceTimeMs >>> 8).toNat = occurrenceTimeMs.toNat / 256 :=
    hshift 8 (by decide)
  have h16 : (occurrenceTimeMs >>> 16).toNat = occurrenceTimeMs.toNat / 256 / 256 := by
    rw [Nat.div_div_eq_div_mul]
    exact hshift 16 (by decide)
  have h24 : (occurrenceTimeMs >>> 24).toNat = occurrenceTimeMs.toNat / 256 / 256 / 256 := by
    rw [Nat.div_div_eq_div_mul, Nat.div_div_eq_div_mul]
    exact hshift 24 (by decide)
  rw [hbyte, hbyte, hbyte, hbyte, h8, h16, h24]
  rfl

theorem value_collisionBytes (occurrenceTimeMs : UInt32) :
    BigEndian.value (((collisionBytes occurrenceTimeMs).drop 1).take 4) =
      occurrenceTimeMs.toNat := by
  have hlt : occurrenceTimeMs.toNat < 256 ^ 4 := occurrenceTimeMs.toNat_lt
  have htake : ((collisionBytes occurrenceTimeMs).drop 1).take 4 =
      BigEndian.digits 4 occurrenceTimeMs.toNat := by
    show (BigEndian.digits 4 occurrenceTimeMs.toNat).take 4 = _
    exact List.take_of_length_le (by simp)
  rw [htake, BigEndian.value_digits hlt]

/-- **MAIN passes the five bytes on.** -/
theorem forwards_collision {occurrenceTimeMs : UInt32} {r : CanRx}
    (hr : ReadFrom (collisionFrame occurrenceTimeMs) r) (s : Main) (env : Env) :
    (mainStep s ⟨env, .canRead r⟩).out =
      [.udp ⟨192, 168, 20, 2⟩ 5002 (collisionBytes occurrenceTimeMs)] := by
  have hid : r.messageId = 0x210 := hr.messageId
  have hlen : canGetLength r.dataLengthCode = 5 := by rw [hr.dataLengthCode]; rfl
  have hbytes : bytesOf r.messageData 5 = collisionBytes occurrenceTimeMs := by
    -- byte by byte: the controller reads what the frame carried
    rw [collisionBytes_eq]
    apply List.ext_getElem
    · rfl
    · intro i hi hb
      have hi : i < 5 := by simpa using hi
      have hbyte : r.messageData i = (frameBytes (fdMessage bodyCanCollisionEventId 5
          [1, (occurrenceTimeMs >>> 24).toUInt8, (occurrenceTimeMs >>> 16).toUInt8,
            (occurrenceTimeMs >>> 8).toUInt8, occurrenceTimeMs.toUInt8])).getD i 0 :=
        hr.data i hi
      rw [frameBytes_fdMessage _ _ _ (by omega)] at hbyte
      calc (bytesOf r.messageData 5)[i]
          = (bytesOf r.messageData 5).getD i 0 := (List.getD_eq_getElem _ _ _).symm
        _ = r.messageData i := getD_bytesOf _ hi
        _ = _ := hbyte
        _ = _ := List.getD_eq_getElem _ _ hb
  show (canReadMessage r.messageId r.dataLengthCode r.messageData (Main.enter env s)).out = _
  rw [canReadMessage, hid, hlen]
  show [Out.udp _ 5002 (bytesOf r.messageData 5)] = _
  rw [hbytes]

/-! ## The readers -/

theorem udpListener_collisionBytes (occurrenceTimeMs : UInt32) :
    MediaTrigger.udpListener (collisionBytes occurrenceTimeMs) =
      some ⟨1, occurrenceTimeMs.toNat⟩ := by
  rw [← value_collisionBytes]
  rfl

theorem relay_collisionBytes (occurrenceTimeMs : UInt32) :
    MediaTrigger.relay (collisionBytes occurrenceTimeMs) =
      some (⟨1, occurrenceTimeMs.toNat⟩, collisionBytes occurrenceTimeMs) := by
  rw [← value_collisionBytes]
  rfl

theorem parseEventPacket_collisionBytes (occurrenceTimeMs : UInt32) (addr : IpAddr × Nat) :
    parseEventPacket (collisionBytes occurrenceTimeMs) addr = none := rfl

/-- All three read a collision at this time. -/
structure Agree (data : List UInt8) (addr : IpAddr × Nat) (occurrenceTimeMs : UInt32) : Prop where
  trigger : MediaTrigger.udpListener data = some ⟨1, occurrenceTimeMs.toNat⟩
  relay : (MediaTrigger.relay data).map Prod.fst = some ⟨1, occurrenceTimeMs.toNat⟩
  backend : ∃ event, parseEventPacket data addr = some event ∧ event.eventType = 1 ∧
    event.timestampMs = occurrenceTimeMs.toNat

/-- **The backend drops every collision event**, at whatever time, and so the readers never
    agree; the two of MEDIA read it, and the relay sends it on as it came. -/
theorem collision_events_dropped (occurrenceTimeMs : UInt32) (b : Body) :
    ∃ buffer m, (bodyCanSendCollisionEvent false occurrenceTimeMs b).sent =
        b.sent ++ [(buffer, m)] ∧
      ∀ (s : Main) (env : Env) (r : CanRx) (addr : IpAddr × Nat), ReadFrom m r →
        ∃ data, (mainStep s ⟨env, .canRead r⟩).out = [.udp ⟨192, 168, 20, 2⟩ 5002 data] ∧
          MediaTrigger.udpListener data = some ⟨1, occurrenceTimeMs.toNat⟩ ∧
          MediaTrigger.relay data = some (⟨1, occurrenceTimeMs.toNat⟩, data) ∧
          parseEventPacket data addr = none ∧
          ¬ Agree data addr occurrenceTimeMs := by
  refine ⟨b.can.txBufferIndex, collisionFrame occurrenceTimeMs, ?_, ?_⟩
  · rw [sendCollision_free]
  · intro s env r addr hr
    refine ⟨collisionBytes occurrenceTimeMs, forwards_collision hr s env,
      udpListener_collisionBytes occurrenceTimeMs, relay_collisionBytes occurrenceTimeMs,
      parseEventPacket_collisionBytes occurrenceTimeMs addr, ?_⟩
    rintro ⟨-, -, event, hevent, -⟩
    rw [parseEventPacket_collisionBytes] at hevent
    cases hevent

/-- **An event at 16909060 ms**: what BODY sends and MAIN passes on is nothing to the
    backend. -/
theorem collision_event_dropped :
    (bodyCanSendCollisionEvent false 0x01020304 (bodyReset BodySpec.restBodyInputs)).sent =
        [(0, { fdMessage 0x210 5 [1, 1, 2, 3, 4] with frameMode := .fdLong })] ∧
      (mainStep mainReset ⟨MainSpec.freeEnv 0, .canRead ⟨0x210, 5, ofList [1, 1, 2, 3, 4]⟩⟩).out =
        [.udp ⟨192, 168, 20, 2⟩ 5002 [1, 1, 2, 3, 4]] ∧
      parseEventPacket [1, 1, 2, 3, 4] (⟨192, 168, 10, 2⟩, 5002) = none := by
  refine ⟨?_, ?_, ?_⟩ <;> rfl

end CollisionCodec
