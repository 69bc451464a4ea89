import NearLink.Dtap.Reliable
import Mathlib.Data.List.Forall2

/-!
# The two sides of a reliable channel

A channel is split into what its sender works on and what its receiver works
on.  Sending a buffer, building an acknowledgement, operating the response and
retransmission timers and asking for the release of the channel touch neither
side.  One lemma per operation says so; later arguments follow one side and
never look at the operations of the other.
-/

namespace NearLink.Dtap

open Sdf

structure TxSide where
  txWindow : TxWindow
  reTxSeq : Nat
  isTxWindowFull : Bool
  cachePi : Nat
  cacheBuff : Option Bytes
  sendPollingCounter : Nat
  framed : List Message

structure RxSide where
  rxWindow : RxWindow
  nackCnt : Nat
  isRecvFrame : Bool
  isRxWindowFull : Bool
  frags : Option Bytes
  reorderTimer : Option Nat
  up : List Upcall
  handed : List Nat

/-- The channel without its response and retransmission timers and without
the record of outside calls other than the receive callbacks. -/
structure Core where
  conf : Conf
  tx : TxSide
  rx : RxSide

namespace Channel

def txSide (channel : Channel) : TxSide :=
  { txWindow := channel.txWindow
    reTxSeq := channel.reTxSeq
    isTxWindowFull := channel.isTxWindowFull
    cachePi := channel.cachePi
    cacheBuff := channel.cacheBuff
    sendPollingCounter := channel.sendPollingCounter
    framed := channel.framed }

def rxSide (channel : Channel) : RxSide :=
  { rxWindow := channel.rxWindow
    nackCnt := channel.nackCnt
    isRecvFrame := channel.isRecvFrame
    isRxWindowFull := channel.isRxWindowFull
    frags := channel.frags
    reorderTimer := channel.reorderTimer
    up := channel.host.up
    handed := channel.handed }

def core (channel : Channel) : Core :=
  { conf := channel.conf, tx := channel.txSide, rx := channel.rxSide }

def sender (channel : Channel) : Conf × TxSide :=
  (channel.conf, channel.txSide)

def receiver (channel : Channel) : Conf × RxSide :=
  (channel.conf, channel.rxSide)

variable {env : Env} {channel other : Channel}

theorem sender_of_core (kept : other.core = channel.core) :
    other.sender = channel.sender :=
  congrArg (fun core : Core => (core.conf, core.tx)) kept

theorem receiver_of_core (kept : other.core = channel.core) :
    other.receiver = channel.receiver :=
  congrArg (fun core : Core => (core.conf, core.rx)) kept

@[simp] theorem skip_core (count : Nat) :
    (channel.skip count).core = channel.core :=
  rfl

@[simp] theorem sendFrame_core (buff : Bytes) :
    (channel.sendFrame env buff).2.core = channel.core := by
  unfold sendFrame
  split <;> rfl

@[simp] theorem restartRspTimer_core :
    (channel.restartRspTimer env).core = channel.core := rfl

@[simp] theorem restartRetransTimer_core (expire : Nat) :
    (channel.restartRetransTimer env expire).core = channel.core := rfl

@[simp] theorem dynTransChannReleaseReq_core :
    (channel.dynTransChannReleaseReq env).core = channel.core := by
  unfold dynTransChannReleaseReq
  split
  · rfl
  · split <;> rfl

@[simp] theorem sendAckFrame_core (fBit sBit : Bool) :
    (channel.sendAckFrame env fBit sBit).2.core = channel.core := by
  unfold sendAckFrame
  split
  · rfl
  · split
    · rfl
    · exact (sendFrame_core _).trans (skip_core _)

@[simp] theorem reportStatus_core (result : Nat) :
    (channel.reportStatus env result).core = channel.core := by
  unfold reportStatus
  split <;> rfl

@[simp] theorem answerPolling_core (bits : Nat) :
    (channel.answerPolling env bits).core = channel.core := by
  unfold answerPolling
  split
  · dsimp only
    split
    · rw [restartRspTimer_core, sendAckFrame_core]
    · exact sendAckFrame_core true false
  · rfl

@[simp] theorem rspTimerExpireProc_core :
    (channel.rspTimerExpireProc env).core = channel.core :=
  sendAckFrame_core false false

@[simp] theorem startSendTimers_core (reset : Bool) :
    (channel.startSendTimers env reset).core = channel.core := by
  unfold startSendTimers
  extract_lets answered
  have kept : answered.core = channel.core := by
    unfold answered
    split <;> rfl
  split
  · rw [restartRetransTimer_core, kept]
  · exact kept

theorem reorderTimerExpireProc_core :
    ∃ nackCnt, (channel.reorderTimerExpireProc env).core =
      { channel.core with rx := { channel.rxSide with nackCnt := nackCnt } } := by
  unfold reorderTimerExpireProc
  split
  · exact ⟨channel.nackCnt, dynTransChannReleaseReq_core⟩
  · have kept := @sendAckFrame_core env channel false true
    split
    next sent equality =>
      rw [equality] at kept
      exact ⟨channel.nackCnt, kept⟩
    next sent equality =>
      rw [equality] at kept
      refine ⟨(sent.nackCnt + 1) % 256, ?_⟩
      have received : sent.rxSide = channel.rxSide := congrArg Core.rx kept
      rw [← received, ← kept]
      rfl

@[simp] theorem slideRxWindow_sender (frame : Frame) :
    (channel.slideRxWindow frame).sender = channel.sender := rfl

@[simp] theorem operateReorderTimer_sender :
    (channel.operateReorderTimer env).sender = channel.sender := by
  unfold operateReorderTimer
  dsimp only
  split
  · split <;> rfl
  · split
    · rfl
    · split <;> rfl

section

variable (recvCb : Option RecvCb)
include recvCb

@[simp] theorem recvFirstFrame_sender (frame : Frame) :
    (channel.recvFirstFrame env recvCb frame).2.2.sender =
      channel.sender := by
  unfold recvFirstFrame
  split <;> rfl

@[simp] theorem recvQueuedFrames_sender (frames : List Frame) :
    (recvQueuedFrames env recvCb frames channel).sender = channel.sender := by
  induction frames generalizing channel with
  | nil => rfl
  | cons frame rest induction =>
    have kept := @recvFirstFrame_sender env channel recvCb frame
    unfold recvQueuedFrames
    split
    · rfl
    · dsimp only
      split
      · exact kept
      · rw [induction]
        exact kept

@[simp] theorem recvEnhanceFrameInner_sender :
    (channel.recvEnhanceFrameInner env recvCb).sender = channel.sender := by
  unfold recvEnhanceFrameInner
  split
  · rfl
  · exact recvQueuedFrames_sender recvCb _

@[simp] theorem setTransChannelStatus_sender (result : Nat) :
    (channel.setTransChannelStatus env recvCb result).sender =
      channel.sender := by
  unfold setTransChannelStatus
  split
  · rw [recvEnhanceFrameInner_sender]
    rfl
  · rfl

@[simp] theorem recvDataFrame_sender (frame : Frame) :
    (channel.recvDataFrame env recvCb frame).sender = channel.sender := by
  unfold recvDataFrame
  rw [sender_of_core (answerPolling_core _), recvEnhanceFrameInner_sender,
    operateReorderTimer_sender, slideRxWindow_sender]

end

@[simp] theorem reorderTimerExpireProc_sender :
    (channel.reorderTimerExpireProc env).sender = channel.sender := by
  obtain ⟨nackCnt, kept⟩ :=
    @reorderTimerExpireProc_core env channel
  exact congrArg (fun core : Core => (core.conf, core.tx)) kept

@[simp] theorem setReTxSeq_receiver (seq : Nat) :
    (channel.setReTxSeq seq).receiver = channel.receiver := rfl

@[simp] theorem setTxWindowFull_receiver (full : Bool) :
    (channel.setTxWindowFull full).receiver = channel.receiver := rfl

variable (frame : Frame)

@[simp] theorem retransDone_receiver :
    (channel.retransDone env frame).receiver = channel.receiver := by
  unfold retransDone
  split <;> rfl

@[simp] theorem retransEnhanceFrame_receiver :
    (channel.retransEnhanceFrame env).2.receiver = channel.receiver := by
  unfold retransEnhanceFrame
  split
  · rfl
  · split
    · exact receiver_of_core dynTransChannReleaseReq_core
    · dsimp only
      split
      · rfl
      next frame _ _ _ =>
        have kept := receiver_of_core (@sendFrame_core env
          ((channel.updateTxFrame
            (setPbitForSendPolling channel.conf.crcInit frame)
            channel.reTxSeq).skip 1)
          (setPbitForSendPolling channel.conf.crcInit frame).buff.data)
        split
        next sent equality =>
          rw [equality] at kept
          exact kept
        next sent equality =>
          rw [equality] at kept
          rw [retransDone_receiver]
          exact kept

@[simp] theorem retransTimerExpireProc_receiver :
    (channel.retransTimerExpireProc env).receiver = channel.receiver := by
  unfold retransTimerExpireProc
  split
  · rfl
  · rw [retransEnhanceFrame_receiver, setReTxSeq_receiver]

@[simp] theorem slideTxWindow_receiver :
    (channel.slideTxWindow env frame).receiver = channel.receiver := by
  unfold slideTxWindow
  dsimp only
  split
  · rfl
  · split
    · rfl
    · split
      · split <;> split <;> rfl
      · split <;> rfl

@[simp] theorem recvNackFrame_receiver :
    (channel.recvNackFrame env frame).2.receiver = channel.receiver := by
  unfold recvNackFrame
  split
  · have kept := @retransEnhanceFrame_receiver env
      (channel.setReTxSeq frame.reqSeq)
    split <;> (rename_i equality; rw [equality] at kept; exact kept)
  · rfl

@[simp] theorem queueTxFrame_receiver :
    (channel.queueTxFrame frame).receiver = channel.receiver := rfl

@[simp] theorem countSendPolling_receiver :
    channel.countSendPolling.receiver = channel.receiver := rfl

@[simp] theorem sendNewFrame_receiver :
    (channel.sendNewFrame env frame).2.receiver = channel.receiver := by
  unfold sendNewFrame
  rw [queueTxFrame_receiver]
  split
  · rw [receiver_of_core (sendFrame_core _),
      receiver_of_core (skip_core 1), countSendPolling_receiver]
  · rfl

@[simp] theorem sendNewFrames_receiver (frames : List Frame) (reset : Bool) :
    (sendNewFrames env frames reset channel).2.receiver =
      channel.receiver := by
  induction frames generalizing channel reset with
  | nil => rfl
  | cons frame frames induction =>
    unfold sendNewFrames
    rw [induction, sendNewFrame_receiver]

@[simp] theorem resendBeforeNew_receiver :
    (channel.resendBeforeNew env).2.receiver = channel.receiver := by
  unfold resendBeforeNew
  split
  · dsimp only
    split
    · exact retransEnhanceFrame_receiver
    · rw [setReTxSeq_receiver, retransEnhanceFrame_receiver]
  · rfl

@[simp] theorem sendEnhanceFrameInner_receiver (frames : List Frame) :
    (channel.sendEnhanceFrameInner env frames).2.receiver =
      channel.receiver := by
  unfold sendEnhanceFrameInner
  dsimp only
  split
  · exact resendBeforeNew_receiver
  · rw [receiver_of_core (startSendTimers_core _), sendNewFrames_receiver,
      resendBeforeNew_receiver]

theorem fragmentFrame_host (data : Bytes) (mps : Nat)
    (frameType : FrameType) (host : Host) :
    ∃ count, (fragmentFrame env data mps frameType host).2 =
      host.skip count := by
  unfold fragmentFrame
  dsimp only
  split
  · exact ⟨0, rfl⟩
  · split <;> exact ⟨_, rfl⟩

@[simp] theorem packEnhanceFrames_core (pi : Nat) (data : Bytes) (mps : Nat) :
    (channel.packEnhanceFrames env pi data mps).2.core = channel.core := by
  obtain ⟨count, skipped⟩ := @fragmentFrame_host env data mps
    channel.sendFrameType channel.host
  unfold packEnhanceFrames
  dsimp only
  rw [skipped]
  split <;> rfl

@[simp] theorem recordFramed_receiver (message : Message) :
    (channel.recordFramed message).receiver = channel.receiver := rfl

section

variable (pi : Nat) (data : Bytes)

@[simp] theorem sendFitting_receiver (mps : Nat) :
    (channel.sendFitting env pi data mps).2.receiver =
      channel.receiver := by
  have packed := receiver_of_core (@packEnhanceFrames_core env
    channel pi data mps)
  unfold sendFitting
  dsimp only
  split
  · exact packed
  next frames _ =>
    have sent := (@sendEnhanceFrameInner_receiver env
      ((channel.packEnhanceFrames env pi data mps).2)
      frames).trans packed
    split
    · rw [recordFramed_receiver, sent]
    · exact sent

@[simp] theorem cacheMessage_receiver :
    (channel.cacheMessage env pi data).receiver = channel.receiver := by
  unfold cacheMessage
  split <;> rfl

@[simp] theorem sendEnhanceFrame_receiver :
    (channel.sendEnhanceFrame env pi data).2.receiver =
      channel.receiver := by
  unfold sendEnhanceFrame
  split
  · rfl
  · dsimp only
    split_ifs
    · rfl
    · rw [setTxWindowFull_receiver, cacheMessage_receiver]
    · rw [sendFitting_receiver, setTxWindowFull_receiver]
    · exact sendFitting_receiver pi data _

@[simp] theorem dataSend_receiver :
    (channel.dataSend env pi data).2.receiver = channel.receiver := by
  unfold dataSend
  split_ifs
  · rfl
  · rfl
  · exact sendEnhanceFrame_receiver pi data

end

@[simp] theorem clearCache_receiver :
    channel.clearCache.receiver = channel.receiver := rfl

@[simp] theorem transChannelStatusChange_receiver (result : Nat) :
    (channel.transChannelStatusChange env result).receiver =
      channel.receiver := by
  unfold transChannelStatusChange
  split
  · rfl
  · split
    · unfold transSendCacheBuff
      split
      · rfl
      · rw [receiver_of_core (reportStatus_core _), clearCache_receiver,
          sendEnhanceFrame_receiver, setTxWindowFull_receiver]
    · split
      · rw [receiver_of_core (reportStatus_core _), setTxWindowFull_receiver]
      · rfl

end Channel

end NearLink.Dtap
