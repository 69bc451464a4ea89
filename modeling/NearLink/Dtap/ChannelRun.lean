import NearLink.Dtap.Reliable
import NearLink.Transition

/-!
# Runs of a reliable channel

The entry points of a reliable channel as the events of a machine.  A received
frame is any frame the parser can produce, so its numbers may be forged but
fit their fields.  The channel either trusts its caller (`step`) or first
applies `DTAP_CheckEnhanceFrame`, as `DTAP_DataRecvFrame` does
(`checkedStep`).
-/

namespace NearLink.Dtap

open Sdf

def Frame.InRange (frame : Frame) : Prop :=
  frame.txSeq < 16384 ∧ (frame.reqSeq < 16384 ∨ frame.reqSeq = frameSeqInit)

instance (frame : Frame) : Decidable frame.InRange :=
  inferInstanceAs (Decidable (_ ∧ _))

structure ReceivedFrame where
  frame : Frame
  inRange : frame.InRange

namespace Channel

inductive Event where
  | dataSend (pi : Nat) (data : Bytes)
  | recvFrame (received : ReceivedFrame)
  | setStatus (result : Nat)
  | statusChange (result : Nat)
  | rspTimer
  | reorderTimer
  | retransTimer

def step (env : Env) (registry : Registry) (channel : Channel) :
    Event → Channel
  | .dataSend pi data => (channel.dataSend env pi data).2
  | .recvFrame received =>
    (channel.recvEnhanceFrame env (registry.select received.frame.pi)
      received.frame).2
  | .setStatus result => channel.channelSetStatus env registry result
  | .statusChange result => channel.transChannelStatusChange env result
  | .rspTimer => channel.rspTimerExpireProc env
  | .reorderTimer => channel.reorderTimerExpireProc env
  | .retransTimer => channel.retransTimerExpireProc env

def checkedStep (env : Env) (registry : Registry) (channel : Channel) :
    Event → Channel
  | .recvFrame received =>
    if channel.checkEnhanceFrame received.frame then
      channel.step env registry (.recvFrame received)
    else channel
  | event => channel.step env registry event

def oneByteFrame (txSeq : Nat) (payload : UInt8) (crc : Bytes) : Frame :=
  { frameType := .simplexFrag
    buff :=
      { head := [], tail := []
        data := [64, 34, 6, 0, 1, UInt8.ofNat txSeq, 0, payload] ++ crc }
    bits := frameCBit, pi := 1, txSeq := txSeq, reqSeq := frameSeqInit
    headerLen := 7, payload := [payload] }

def firstFrame : ReceivedFrame :=
  ⟨oneByteFrame 0 7 [70, 106], by decide⟩

def secondFrame : ReceivedFrame :=
  ⟨oneByteFrame 1 8 [87, 174], by decide⟩

def plainConf : Conf :=
  { lcid := 1, srcTcid := 64, dstTcid := 64, mtu := 512, mps := 64
    crcInit := 0, reorderTimeout := 0, retransTimeout := 0, rspTimeout := 0
    maxTxThreshold := 3 }

def plainEnv : Env :=
  { alloc := fun _ => true, dataSend := fun _ => true
    timerAdd := fun _ => true, findTransChannel := fun _ => true
    statusCbk := true }

def takesAll : Registry :=
  { byTcid := some fun _ _ _ => .taken, byProto := fun _ => none }

end Channel

end NearLink.Dtap
