import RemoteVehicle.ByteWords

/-!
# CAN messages — what the CAN driver hands over and takes

A message as the vendor driver stores it in the message RAM: identifier, frame mode,
data length code and the data words.  The receive handlers of ACT and BODY read the
message in 32-bit words and take eight bytes out of the first two; the senders pack
their bytes into words the same way.
-/

namespace CanFrame

open ByteWords

/-- `IfxCan_FrameMode`. -/
inductive FrameMode where
  | standard
  | fdLong
  | fdLongAndFast
deriving DecidableEq, Repr

/-- `IfxCan_DataLengthCode_0` to `_8` are the byte counts themselves. -/
def ifxCanDataLengthCode12 : Nat := 9

/-- A message in a transmit or receive buffer. -/
structure CanMessage where
  messageId : Nat
  frameMode : FrameMode
  dataLengthCode : Nat
  word0 : UInt32
  word1 : UInt32
  word2 : UInt32
deriving DecidableEq, Repr

/-- The eight bytes `rxByte[0..7]` a receive handler unpacks. -/
def rxByte (m : CanMessage) : Vector UInt8 8 :=
  #v[wordByte m.word0 0, wordByte m.word0 1, wordByte m.word0 2, wordByte m.word0 3,
     wordByte m.word1 0, wordByte m.word1 1, wordByte m.word1 2, wordByte m.word1 3]

/-- One of the unpacked bytes. -/
def byteAt (b : Vector UInt8 8) (i : Nat) : UInt8 := b.toList.getD i 0

/-- A CAN FD message with bit rate switching whose bytes are packed as the senders do;
    bytes past the end of the list are zero. -/
def fdMessage (messageId dataLengthCode : Nat) (txByte : List UInt8) : CanMessage where
  messageId := messageId
  frameMode := .fdLongAndFast
  dataLengthCode := dataLengthCode
  word0 := packWord (txByte.getD 0 0) (txByte.getD 1 0) (txByte.getD 2 0) (txByte.getD 3 0)
  word1 := packWord (txByte.getD 4 0) (txByte.getD 5 0) (txByte.getD 6 0) (txByte.getD 7 0)
  word2 := packWord (txByte.getD 8 0) (txByte.getD 9 0) (txByte.getD 10 0) (txByte.getD 11 0)

/-- **Unpacking undoes packing** on the first eight bytes. -/
theorem rxByte_fdMessage (messageId dataLengthCode : Nat) (txByte : List UInt8) :
    rxByte (fdMessage messageId dataLengthCode txByte) =
      #v[txByte.getD 0 0, txByte.getD 1 0, txByte.getD 2 0, txByte.getD 3 0,
         txByte.getD 4 0, txByte.getD 5 0, txByte.getD 6 0, txByte.getD 7 0] := by
  simp only [rxByte, fdMessage, wordByte_packWord_zero, wordByte_packWord_one,
    wordByte_packWord_two, wordByte_packWord_three]

end CanFrame
