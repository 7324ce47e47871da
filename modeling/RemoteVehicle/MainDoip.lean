import RemoteVehicle.MainRouting

/-!
# MAIN DoIP — `doip.c`

The receiving side: header check, routing activation, and diagnostic messages that are
acknowledged and handed to the PDU router.  A message that is refused may ask for the
connection to be closed; `SoAd_CloseSocket` only notes the request and its time.
-/

namespace MainDoip

open ByteWords MainState MainTransmit MainDcm MainCom MainRouting

/-! ## Replies -/

/-- The DoIP port. -/
def doipPort : Nat := 13400

/-- `MY_TARGET_ADDRESS`. -/
def myTargetAddress : UInt16 := 0x0001

/-- `SoAd_IfTransmit` of a whole local array. -/
def transmitArray (port : Nat) (txBuf : List UInt8) (s : Main) : Main :=
  soAdIfTransmit port (ofList txBuf) txBuf.length s

/-- `DoIP_SendGenericNack`. -/
def doIPSendGenericNack (port : Nat) (nackCode : UInt8) (s : Main) : Main :=
  transmitArray port [0x02, 0xFD, 0x00, 0x00, 0x00, 0x00, 0x00, 0x01, nackCode] s

/-- `DoIP_SendDiagAck`. -/
def doIPSendDiagAck (port : Nat) (sa ta : UInt16) (ackCode : UInt8) (s : Main) : Main :=
  transmitArray port [0x02, 0xFD, 0x80, 0x02, 0x00, 0x00, 0x00, 0x05,
    highByte sa, lowByte sa, highByte ta, lowByte ta, ackCode] s

/-- `DoIP_SendDiagNack`. -/
def doIPSendDiagNack (port : Nat) (sa ta : UInt16) (nackCode : UInt8) (s : Main) : Main :=
  transmitArray port [0x02, 0xFD, 0x80, 0x03, 0x00, 0x00, 0x00, 0x05,
    highByte sa, lowByte sa, highByte ta, lowByte ta, nackCode] s

/-- `DoIP_SendRoutingActivationResponse`. -/
def doIPSendRoutingActivationResponse (port : Nat) (testerSA : UInt16) (responseCode : UInt8)
    (s : Main) : Main :=
  transmitArray port [0x02, 0xFD, 0x00, 0x06, 0x00, 0x00, 0x00, 0x09,
    highByte testerSA, lowByte testerSA, highByte myTargetAddress, lowByte myTargetAddress,
    responseCode, 0x00, 0x00, 0x00, 0x00] s

/-- `SoAd_CloseSocket`. -/
def soAdCloseSocket (port : Nat) (s : Main) : Main :=
  if port = 13400 then
    { s with soad := { isClosePending := true, closeRequestTime := getSystemTimeMs s } }
  else s

/-! ## Checks -/

/-- `DoIP_IsRegisteredSA`. -/
def doIPIsRegisteredSA (_port : Nat) (sa : UInt16) : Bool := sa == testerSourceAddress

/-- `DoIP_IsKnownTA`. -/
def doIPIsKnownTA (ta : UInt16) : Bool := ta == 0x0001 || ta == 0x0010 || ta == 0x0020

/-- `payloadType` and `expectedPayloadLength` of the header. -/
def payloadType (payload : Payload) : UInt16 := word16 (payload 2) (payload 3)
def expectedPayloadLength (payload : Payload) : UInt32 :=
  packWord (payload 7) (payload 6) (payload 5) (payload 4)

/-- The addresses of a message. -/
def sourceAddr (payload : Payload) : UInt16 := word16 (payload 8) (payload 9)
def targetAddr (payload : Payload) : UInt16 := word16 (payload 10) (payload 11)

/-! ## Reception -/

/-- `DoIP_ProcessRoutingActivation`. -/
def doIPProcessRoutingActivation (port : Nat) (payload : Payload) (length : Nat) (s : Main) :
    Main :=
  if length < 15 then s
  else
    let testerSA := sourceAddr payload
    if testerSA = testerSourceAddress then
      doIPSendRoutingActivationResponse port testerSA 0x10 (callbackDiagRoutingActivated s)
    else
      soAdCloseSocket port (doIPSendRoutingActivationResponse port testerSA 0x00 s)

/-- The routing of an acknowledged message to `PduR_RouteRx`. -/
def routeDiagnostic (targetAddr : UInt16) (udsData : Payload) (udsLength : Nat) (s : Main) :
    Main :=
  if targetAddr = 0x0001 then pduRRouteRx pdurDoipMainTcpId udsData udsLength s
  else if targetAddr = 0x0010 then pduRRouteRx pdurDoipActTcpId udsData udsLength s
  else if targetAddr = 0x0020 then pduRRouteRx pdurDoipBodyTcpId udsData udsLength s
  else s

/-- The branch of `DoIP_ProcessRx` for payload type 0x8001. -/
def doIPProcessDiagnostic (port : Nat) (payload : Payload) (length : Nat) (s : Main) : Main :=
  if length < 12 then s
  else if doIPIsRegisteredSA port (sourceAddr payload) = false then
    soAdCloseSocket port
      (doIPSendDiagNack port (targetAddr payload) (sourceAddr payload) 0x02 s)
  else if doIPIsKnownTA (targetAddr payload) = false then
    doIPSendDiagNack port (targetAddr payload) (sourceAddr payload) 0x03 s
  else
    let s := doIPSendDiagAck port (targetAddr payload) (sourceAddr payload) 0x00 s
    routeDiagnostic (targetAddr payload) (offset payload 12) (length - 12) s

/-- The second stage of `DoIP_ProcessRx`: a message whose header is consistent. -/
def doIPDispatch (payload : Payload) (length : Nat) (s : Main) : Main :=
  if payloadType payload = 0x8001 then doIPProcessDiagnostic doipPort payload length s
  else if payloadType payload = 0x0005 then
    doIPProcessRoutingActivation doipPort payload length s
  else doIPSendGenericNack doipPort 0x01 s

/-- `DoIP_ProcessRx`. -/
def doIPProcessRx (payload : Payload) (length : Nat) (s : Main) : Main :=
  if length < 8 then s
  else if expectedPayloadLength payload ≠ UInt32.ofNat (length - 8) then
    soAdCloseSocket doipPort (doIPSendGenericNack doipPort 0x04 s)
  else doIPDispatch payload length s

end MainDoip
