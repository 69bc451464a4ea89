import NearLink.Dtap.FrameEnhance

/-!
# Reliable transmission mode

The state of a reliable channel (`DTAP_Channel_S` with its
`DTAP_ReliableChannel_S`) and the functions of `dtap_trans_reliable.c`,
together with the parts of `dtap_trans.c`, `dtap_channel.c` and `dtap.c` that
they call or are called from.  A timer handle is kept as the period the timer
was started with, `none` standing for `INVALID_TIMER_HANDLE`.
-/

namespace NearLink.Dtap

open Sdf

/-- `DTAP_IsFrameSeqSmaller`; the difference is a `uint16_t`. -/
def isFrameSeqSmaller (own other : Nat) : Bool :=
  ((own + 65536 - other) % 65536) &&& frameSeqSignMask == frameSeqSignMask

def getNextFrameSeq (seq : Nat) : Nat :=
  if seq + 1 > frameSeqMax then 0 else seq + 1

structure Conf where
  lcid : Nat
  srcTcid : Nat
  dstTcid : Nat
  mtu : Nat
  mps : Nat
  crcInit : UInt16
  reorderTimeout : Nat
  retransTimeout : Nat
  rspTimeout : Nat
  maxTxThreshold : Nat

structure Message where
  pi : Nat
  data : Bytes
  deriving DecidableEq

structure TxWindow where
  size : Nat
  nextTxSeq : Nat := 0
  expectedAckSeq : Nat := 0
  txList : List Frame := []

structure RxWindow where
  size : Nat
  bufferSeq : Nat := 0
  expectedTxSeq : Nat := 0
  maxExpectedTxSeq : Nat := 0
  rxList : List Frame := []

/-- A reliable channel.  The last two fields are not in the source: `framed`
lists the messages whose fragments have been appended to `txList`, `handed`
the numbers of the frames given to `DTAP_RecvAggregateFrame` or
`DTAP_RecvFragmentFrame`. -/
structure Channel where
  conf : Conf
  txWindow : TxWindow
  rxWindow : RxWindow
  reTxSeq : Nat := 0
  nackCnt : Nat := 0
  isRecvFrame : Bool := false
  isRxWindowFull : Bool := false
  isTxWindowFull : Bool := false
  isDestroyMsgSent : Bool := false
  frags : Option Bytes := none
  cachePi : Nat := 0
  cacheBuff : Option Bytes := none
  sendPollingCounter : Nat := 0
  reorderTimer : Option Nat := none
  retransTimer : Option Nat := none
  rspTimer : Option Nat := none
  host : Host := {}
  framed : List Message := []
  handed : List Nat := []

/-- `DTAP_ReliableChannelCreate`, once the response timer has been started.
A configured window of zero means `CM_CAP_WND`. -/
def reliableChannelCreate (conf : Conf) (txWindow : UInt8) : Channel :=
  let window := if txWindow = 0 then 200 else txWindow.toNat
  let orDefault := fun timeout default : Nat =>
    if timeout = 0 then default else timeout
  let conf := { conf with
    reorderTimeout := orDefault conf.reorderTimeout 10000
    retransTimeout := orDefault conf.retransTimeout 1000
    rspTimeout := orDefault conf.rspTimeout 1000 }
  { conf := conf
    txWindow := { size := window }
    rxWindow := { size := window }
    rspTimer := some conf.rspTimeout }

namespace Channel

def skip (channel : Channel) (count : Nat) : Channel :=
  { channel with host := channel.host.skip count }

def setHost (channel : Channel) (host : Host) : Channel :=
  { channel with host := host }

def setReTxSeq (channel : Channel) (seq : Nat) : Channel :=
  { channel with reTxSeq := seq }

def setTxWindow (channel : Channel) (window : TxWindow) : Channel :=
  { channel with txWindow := window }

def setTxList (channel : Channel) (txList : List Frame) : Channel :=
  channel.setTxWindow { channel.txWindow with txList := txList }

def setRxWindow (channel : Channel) (window : RxWindow) : Channel :=
  { channel with rxWindow := window }

def setRxList (channel : Channel) (rxList : List Frame) : Channel :=
  channel.setRxWindow { channel.rxWindow with rxList := rxList }

def setTxWindowFull (channel : Channel) (full : Bool) : Channel :=
  { channel with isTxWindowFull := full }

def sendFrame (env : Env) (channel : Channel) (buff : Bytes) :
    Bool × Channel :=
  if env.dataSend channel.host.tick then
    (true, channel.setHost
      { channel.host with
        tick := channel.host.tick + 1
        out := channel.host.out ++ [buff] })
  else (false, channel.skip 1)

/-- The handle `DTAP_TransRestartTimer` leaves behind. -/
def timerHandle (env : Env) (channel : Channel) (expire : Nat) : Option Nat :=
  if env.timerAdd channel.host.tick then some expire else none

/-- `DTAP_TransRestartTimer` on the response timer. -/
def restartRspTimer (env : Env) (channel : Channel) : Channel :=
  { channel.skip 1 with
    rspTimer := channel.timerHandle env channel.conf.rspTimeout }

/-- `DTAP_TransRestartTimer` on the retransmission timer. -/
def restartRetransTimer (env : Env) (channel : Channel) (expire : Nat) :
    Channel :=
  { channel.skip 1 with retransTimer := channel.timerHandle env expire }

/-- `DTAP_TransStopTimer` on the retransmission timer. -/
def stopRetransTimer (channel : Channel) : Channel :=
  { channel with retransTimer := none }

def dynTransChannReleaseReq (env : Env) (channel : Channel) : Channel :=
  if channel.isDestroyMsgSent then channel
  else if !env.findTransChannel channel.host.tick then channel.skip 1
  else
    { channel with
      isDestroyMsgSent := true
      host := { channel.host with
        tick := channel.host.tick + 1
        releases := channel.host.releases + 1 } }

/-- The frame `DTAP_SendAckFrame` builds: a normal answer carries `bufferSeq`,
an abnormal one `expectedTxSeq`. -/
def ackFrame (channel : Channel) (fBit sBit : Bool) : Frame :=
  { frameType := .ack
    buff := .new 0
    bits := if fBit then frameCBit ||| frameFBit else frameCBit
    sBit := sBit
    reqSeq := if sBit then channel.rxWindow.expectedTxSeq
      else channel.rxWindow.bufferSeq }

@[grind =] def sendAckFrame (env : Env) (channel : Channel) (fBit sBit : Bool) :
    Bool × Channel :=
  if !env.alloc channel.host.tick then (false, channel.skip 1)
  else
    match buildFrame (channel.ackFrame fBit sBit) channel.conf.dstTcid
        channel.conf.crcInit with
    | .error _ => (false, channel.skip 1)
    | .ok frame => (channel.skip 1).sendFrame env frame.buff.data

def rspTimerExpireProc (env : Env) (channel : Channel) : Channel :=
  (channel.sendAckFrame env false false).2

def reorderTimerExpireProc (env : Env) (channel : Channel) : Channel :=
  if channel.nackCnt ≥ channel.conf.maxTxThreshold then
    channel.dynTransChannReleaseReq env
  else
    match channel.sendAckFrame env false true with
    | (false, channel) => channel
    | (true, channel) =>
      { channel.restartRspTimer env with
        nackCnt := (channel.nackCnt + 1) % 256 }

def findFrameBySeq (list : List Frame) (seq : Nat) : Option Frame :=
  list.find? fun frame => frame.txSeq == seq

def checkEnhanceFrameTxSeq (window : RxWindow) (txSeq : Nat) : Bool :=
  if isFrameSeqSmaller txSeq window.expectedTxSeq then false
  else if txSeq = window.expectedTxSeq then true
  else
    let boundarySeq := (window.bufferSeq + window.size) % 65536 &&& frameSeqMax
    if !isFrameSeqSmaller txSeq boundarySeq then false
    else (findFrameBySeq window.rxList txSeq).isNone

def checkEnhanceFrame (channel : Channel) (frame : Frame) : Bool :=
  if frame.frameType = .basic then false
  else if crc16 channel.conf.crcInit frame.buff.data ≠ 0 then false
  else if frame.frameType = .ack then true
  else checkEnhanceFrameTxSeq channel.rxWindow frame.txSeq

/-- Update in place the frame that `DTAP_FindFrameBySeq` returns. -/
@[grind =] def updateFrameBySeq (update : Frame → Frame) (seq : Nat) :
    List Frame → List Frame
  | [] => []
  | frame :: frames =>
    if frame.txSeq = seq then update frame :: frames
    else frame :: updateFrameBySeq update seq frames

def updateTxFrame (channel : Channel) (replacement : Frame) (seq : Nat) :
    Channel :=
  channel.setTxList
    (updateFrameBySeq (fun _ => replacement) seq channel.txWindow.txList)

def calculateRetransTimeout (baseTimeout count : Nat) : Nat :=
  if count = 0 then baseTimeout
  else
    let safeCount := min count 15
    if baseTimeout > 65535 >>> safeCount then 65535
    else baseTimeout <<< safeCount

/-- The end of `DTAP_RetransEnhanceFrame`, after the copy of the frame has
been accepted: count the attempt and restart the timers. -/
def retransDone (env : Env) (channel : Channel) (frame : Frame) : Channel :=
  let reTxCnt := (frame.reTxCnt + 1) % 256
  let counted := channel.updateTxFrame { frame with reTxCnt := reTxCnt }
    frame.txSeq
  let answered := if frame.frameType = .duplexFrag then
      counted.restartRspTimer env
    else counted
  answered.restartRetransTimer env
    (calculateRetransTimeout channel.conf.retransTimeout reTxCnt)

def retransEnhanceFrame (env : Env) (channel : Channel) : Errno × Channel :=
  match findFrameBySeq channel.txWindow.txList channel.reTxSeq with
  | none => (.transReliableFindFrameErr, channel)
  | some frame =>
    if frame.reTxCnt ≥ channel.conf.maxTxThreshold then
      (.transReliableReachMaxReTxCntErr, channel.dynTransChannReleaseReq env)
    else
      let marked := setPbitForSendPolling channel.conf.crcInit frame
      let polled := channel.updateTxFrame marked channel.reTxSeq
      if !env.alloc channel.host.tick then
        (.transReliableCopyBuffErr, polled.skip 1)
      else
        match (polled.skip 1).sendFrame env marked.buff.data with
        | (false, channel) => (.frameSendDliSendErr, channel)
        | (true, channel) => (.success, channel.retransDone env marked)

def retransTimerExpireProc (env : Env) (channel : Channel) : Channel :=
  if channel.txWindow.txList.length = 0 then channel
  else
    ((channel.setReTxSeq
      channel.txWindow.expectedAckSeq).retransEnhanceFrame env).2

/-- The test of `DTAP_SlideTxWindow`: the acknowledged number lies behind
`expectedAckSeq` and not behind `nextTxSeq`. -/
def ackInWindow (window : TxWindow) (reqSeq : Nat) : Bool :=
  (isFrameSeqSmaller window.expectedAckSeq reqSeq &&
    isFrameSeqSmaller reqSeq window.nextTxSeq) || reqSeq == window.nextTxSeq

/-- Advance `expectedAckSeq` and free the acknowledged frames. -/
def ackTxWindow (window : TxWindow) (reqSeq : Nat) : TxWindow :=
  { window with
    expectedAckSeq := reqSeq
    txList := window.txList.dropWhile fun frame =>
      isFrameSeqSmaller frame.txSeq reqSeq }

def slideTxWindow (env : Env) (channel : Channel) (frame : Frame) : Channel :=
  let reqSeq := frame.reqSeq
  if reqSeq = frameSeqInit then channel
  else
    let reset := { channel with sendPollingCounter := 0 }
    if channel.txWindow.txList.length = 0 then reset
    else
      let moved := if isFrameSeqSmaller channel.reTxSeq reqSeq then
          reset.setReTxSeq reqSeq
        else reset
      if ackInWindow channel.txWindow reqSeq then
        let slid := moved.setTxWindow (ackTxWindow channel.txWindow reqSeq)
        if reqSeq = channel.txWindow.nextTxSeq then slid.stopRetransTimer
        else slid.restartRetransTimer env channel.conf.retransTimeout
      else moved

def recvNackFrame (env : Env) (channel : Channel) (frame : Frame) :
    Errno × Channel :=
  if frame.frameType = .ack ∧ frame.sBit = true then
    match (channel.setReTxSeq frame.reqSeq).retransEnhanceFrame env with
    | (.transReliableReachMaxReTxCntErr, channel) =>
      (.transReliableReachMaxReTxCntErr, channel)
    | (_, channel) => (.success, channel)
  else (.success, channel)

/-- Sorted insertion of `DTAP_SlideRxWindow`: before the first queued frame
that is ahead of the new one. -/
def insertBySeq (frame : Frame) : List Frame → List Frame
  | [] => [frame]
  | cur :: rest =>
    if isFrameSeqSmaller frame.txSeq cur.txSeq then frame :: cur :: rest
    else cur :: insertBySeq frame rest

/-- The search for the next missing frame, at most `size` steps long. -/
def findMissingSeq (list : List Frame) : Nat → Nat → Option Nat
  | 0, _ => none
  | bound + 1, seq =>
    if (findFrameBySeq list seq).isNone then some seq
    else findMissingSeq list bound (getNextFrameSeq seq)

def missingSeq (window : RxWindow) (frame : Frame) : Option Nat :=
  if frame.txSeq = window.expectedTxSeq then
    findMissingSeq (insertBySeq frame window.rxList) window.size
      (getNextFrameSeq frame.txSeq)
  else none

/-- The window part of `DTAP_SlideRxWindow`. -/
def queueRxFrame (window : RxWindow) (frame : Frame) : RxWindow :=
  { window with
    rxList := insertBySeq frame window.rxList
    expectedTxSeq := (missingSeq window frame).getD window.expectedTxSeq
    maxExpectedTxSeq :=
      if isFrameSeqSmaller window.maxExpectedTxSeq frame.txSeq ||
          window.maxExpectedTxSeq == frame.txSeq then
        getNextFrameSeq frame.txSeq
      else window.maxExpectedTxSeq }

def slideRxWindow (channel : Channel) (frame : Frame) : Channel :=
  { channel with
    isRecvFrame := true
    nackCnt := if (missingSeq channel.rxWindow frame).isSome then 0
      else channel.nackCnt
    rxWindow := queueRxFrame channel.rxWindow frame }

/-- `DTAP_TransRestartTimer` on the reordering timer. -/
def restartReorderTimer (env : Env) (channel : Channel) : Channel :=
  { channel.skip 1 with
    reorderTimer := channel.timerHandle env channel.conf.reorderTimeout }

def operateReorderTimer (env : Env) (channel : Channel) : Channel :=
  let window := channel.rxWindow
  let gap := isFrameSeqSmaller window.expectedTxSeq window.maxExpectedTxSeq
  match channel.reorderTimer with
  | none => if gap then channel.restartReorderTimer env else channel
  | some _ =>
    if window.expectedTxSeq = window.maxExpectedTxSeq then
      { channel with reorderTimer := none }
    else if gap then channel.restartReorderTimer env
    else channel

def recordHanded (channel : Channel) (frame : Frame) : Channel :=
  { channel with handed := channel.handed ++ [frame.txSeq] }

/-- Hand the first queued frame to `DTAP_RecvAggregateFrame` or
`DTAP_RecvFragmentFrame`. -/
def recvFirstFrame (env : Env) (recvCb : Option RecvCb) (channel : Channel)
    (frame : Frame) : Errno × Frame × Channel :=
  let info : DataInfo :=
    { pi := frame.pi, lcid := channel.conf.lcid, tcid := channel.conf.dstTcid }
  match frame.frameType with
  | .simplexAggr | .duplexAggr =>
    match recvAggregateFrame env frame info recvCb channel.host with
    | (errno, frame, host) =>
      (errno, frame, (channel.recordHanded frame).setHost host)
  | .simplexFrag | .duplexFrag =>
    match recvFragmentFrame env channel.frags frame info recvCb
        channel.host with
    | (errno, frags, frame, host) =>
      (errno, frame,
        { channel.recordHanded frame with frags := frags, host := host })
  | .basic | .ack => (.success, frame, channel)

/-- The frame at `bufferSeq` has been handed over. -/
def advanceBufferSeq (channel : Channel) : Channel :=
  channel.setRxWindow { channel.rxWindow with
    bufferSeq := getNextFrameSeq channel.rxWindow.bufferSeq }

/-- The loop of `DTAP_RecvEnhanceFrameInner`, on the frames still queued. -/
def recvQueuedFrames (env : Env) (recvCb : Option RecvCb) :
    List Frame → Channel → Channel
  | [], channel => channel.setRxList []
  | frame :: rest, channel =>
    if frame.txSeq ≠ channel.rxWindow.bufferSeq then
      channel.setRxList (frame :: rest)
    else
      match channel.recvFirstFrame env recvCb frame with
      | (errno, frame, channel) =>
        if errno = .transReliableTransChannelFull then
          { channel.setRxList (frame :: rest) with isRxWindowFull := true }
        else recvQueuedFrames env recvCb rest channel.advanceBufferSeq

def recvEnhanceFrameInner (env : Env) (recvCb : Option RecvCb)
    (channel : Channel) : Channel :=
  if channel.isRxWindowFull then channel
  else recvQueuedFrames env recvCb channel.rxWindow.rxList channel

/-- `DTAP_SetTransChannelStatus`; `result` is compared with
`DTAP_SUCCESS`. -/
def setTransChannelStatus (env : Env) (recvCb : Option RecvCb)
    (result : Nat) (channel : Channel) : Channel :=
  if result = 0 then
    { channel with isRxWindowFull := false }.recvEnhanceFrameInner env recvCb
  else channel

/-- The frame type and the length of its header follow from whether a data
frame has been received. -/
def sendFrameType (channel : Channel) : FrameType :=
  if channel.isRecvFrame then .duplexFrag else .simplexFrag

/-- The building loop of `DTAP_PackEnhanceFrames`. -/
@[grind =] def packFrames (channel : Channel) (pi : Nat) :
    Nat → List Frame → Except Errno (List Frame)
  | _, [] => .ok []
  | nextTxSeq, frame :: frames =>
    match buildFrame
        { frame with
          bits := frameCBit
          pi := pi
          txSeq := nextTxSeq
          reqSeq := channel.rxWindow.expectedTxSeq }
        channel.conf.dstTcid channel.conf.crcInit with
    | .error errno => .error errno
    | .ok frame =>
      match packFrames channel pi (getNextFrameSeq nextTxSeq) frames with
      | .error errno => .error errno
      | .ok frames => .ok (frame :: frames)

def packEnhanceFrames (env : Env) (channel : Channel) (pi : Nat)
    (data : Bytes) (mps : Nat) : Except Errno (List Frame) × Channel :=
  match fragmentFrame env data mps channel.sendFrameType channel.host with
  | (frames, host) =>
    if frames = [] then
      (.error .transReliableFragmentErr, channel.setHost host)
    else
      (channel.packFrames pi channel.txWindow.nextTxSeq frames,
        channel.setHost host)

/-- `DTAP_TriggerSendPolling`, the test and the new counter. -/
def triggerSendPolling (channel : Channel) : Bool :=
  channel.sendPollingCounter * 4 ≥ channel.txWindow.size

def countSendPolling (channel : Channel) : Channel :=
  { channel with
    sendPollingCounter := if channel.triggerSendPolling then 0
      else (channel.sendPollingCounter + 1) % 256 }

def queueTxFrame (channel : Channel) (frame : Frame) : Channel :=
  (channel.setReTxSeq (getNextFrameSeq channel.reTxSeq)).setTxWindow
    { channel.txWindow with
      nextTxSeq := getNextFrameSeq channel.txWindow.nextTxSeq
      txList := channel.txWindow.txList ++ [frame] }

/-- One round of the sending loop of `DTAP_SendEnhanceFrameInner`.  The frame
is queued whether the scheduler accepts its copy or not; the first component
tells which. -/
def sendNewFrame (env : Env) (channel : Channel) (frame : Frame) :
    Bool × Channel :=
  let polled := if channel.triggerSendPolling then
      setBitForSendPolling channel.conf.crcInit frame
    else frame
  let copied := channel.countSendPolling.skip 1
  let sent := if env.alloc channel.host.tick then
      copied.sendFrame env polled.buff.data
    else (false, copied)
  (sent.1, sent.2.queueTxFrame polled)

/-- The sending loop of `DTAP_SendEnhanceFrameInner`; the flag is
`isResetRspTimer`. -/
def sendNewFrames (env : Env) : List Frame → Bool → Channel → Bool × Channel
  | [], reset, channel => (reset, channel)
  | frame :: frames, reset, channel =>
    let sent := channel.sendNewFrame env frame
    sendNewFrames env frames (reset || sent.1) sent.2

/-- The retransmission at the start of `DTAP_SendEnhanceFrameInner`.  The
first component is `none` when no old frame is due. -/
def resendBeforeNew (env : Env) (channel : Channel) :
    Option Errno × Channel :=
  if isFrameSeqSmaller channel.reTxSeq channel.txWindow.nextTxSeq then
    let retrans := channel.retransEnhanceFrame env
    if retrans.1 = .transReliableReachMaxReTxCntErr then
      (some retrans.1, retrans.2)
    else
      (some retrans.1, retrans.2.setReTxSeq retrans.2.txWindow.nextTxSeq)
  else (none, channel)

/-- The timers at the end of `DTAP_SendEnhanceFrameInner`. -/
def startSendTimers (env : Env) (channel : Channel) (reset : Bool) :
    Channel :=
  let answered := if reset && channel.isRecvFrame then
      channel.restartRspTimer env
    else channel
  if answered.retransTimer.isNone then
    answered.restartRetransTimer env answered.conf.retransTimeout
  else answered

def sendEnhanceFrameInner (env : Env) (channel : Channel)
    (frames : List Frame) : Errno × Channel :=
  let resent := channel.resendBeforeNew env
  if resent.1 = some .transReliableReachMaxReTxCntErr then
    (.transReliableReachMaxReTxCntErr, resent.2)
  else
    let sent := sendNewFrames env frames (resent.1 == some .success) resent.2
    (.success, sent.2.startSendTimers env sent.1)

/-- The room `DTAP_SendEnhanceFrame` has for payload in one frame, `none` when
the header and the CRC leave none. -/
def payloadRoom (channel : Channel) : Option Nat :=
  let headerLen := channel.sendFrameType.headerLen
  if channel.conf.mps ≤ headerLen + crcLen then none
  else some (channel.conf.mps - headerLen - crcLen)

def cacheMessage (env : Env) (channel : Channel) (pi : Nat) (data : Bytes) :
    Channel :=
  if channel.cacheBuff.isNone then
    { channel.skip 1 with
      cacheBuff := if env.alloc channel.host.tick then some data else none
      cachePi := pi }
  else channel

def recordFramed (channel : Channel) (message : Message) : Channel :=
  { channel with framed := channel.framed ++ [message] }

/-- The part of `DTAP_SendEnhanceFrame` behind the window test. -/
def sendFitting (env : Env) (channel : Channel) (pi : Nat) (data : Bytes)
    (mps : Nat) : Errno × Channel :=
  let packed := channel.packEnhanceFrames env pi data mps
  match packed.1 with
  | .error errno => (errno, packed.2)
  | .ok frames =>
    let sent := packed.2.sendEnhanceFrameInner env frames
    if sent.1 = .success then
      (if sent.2.isTxWindowFull then .transReliableTxWindowFull else .success,
        sent.2.recordFramed { pi := pi, data := data })
    else sent

def sendEnhanceFrame (env : Env) (channel : Channel) (pi : Nat) (data : Bytes) : Errno × Channel :=
  match channel.payloadRoom with
  | none => (.transReliableInvalidMps, channel)
  | some mps =>
    let needed := channel.txWindow.txList.length +
      getFragmentFramesNum data.length mps
    if getFragmentFramesNum data.length mps > maxFragmentNum then
      (.transReliableInvalidFrameNum, channel)
    else if needed > channel.txWindow.size then
      (.transReliableTxWindowFull,
        (channel.cacheMessage env pi data).setTxWindowFull true)
    else if needed = channel.txWindow.size then
      (channel.setTxWindowFull true).sendFitting env pi data mps
    else channel.sendFitting env pi data mps

def maxPayloadLen : Nat := 32768

/-- `DTAP_DataSend` on a channel that the search finds. -/
def dataSend (env : Env) (channel : Channel) (pi : Nat) (data : Bytes) :
    Errno × Channel :=
  if data.length = 0 ∨ data.length > maxPayloadLen then
    (.transInvalidData, channel)
  else if data.length > channel.conf.mtu then (.transExceedMtuErr, channel)
  else channel.sendEnhanceFrame env pi data

/-- Report through `transChannelStatusChangeCbk`. -/
def reportStatus (env : Env) (channel : Channel) (result : Nat) : Channel :=
  if env.statusCbk then
    channel.setHost { channel.host with
      status := channel.host.status ++ [result] }
  else channel

def clearCache (channel : Channel) : Channel :=
  { channel with cacheBuff := none }

/-- The frame count `DTAP_TransSendCacheBuff` computes for the cached message.
The subtraction that gives the room is a `uint16_t` one. -/
def cachedFrameCnt (channel : Channel) (cacheBuff : Bytes) : Nat :=
  getFragmentFramesNum cacheBuff.length
    ((channel.conf.mps + 65536 - channel.sendFrameType.headerLen - crcLen) %
      65536)

/-- `DTAP_TransSendCacheBuff`: when the send fails although the window has
room, the message is dropped. -/
def transSendCacheBuff (env : Env) (channel : Channel) (cacheBuff : Bytes)
    (result : Nat) : Channel :=
  if channel.txWindow.txList.length + channel.cachedFrameCnt cacheBuff ≥
      channel.txWindow.size then
    channel
  else
    ((channel.setTxWindowFull false).sendEnhanceFrame env channel.cachePi
      cacheBuff).2.clearCache.reportStatus env result

def transChannelStatusChange (env : Env) (channel : Channel) (result : Nat) : Channel :=
  if !channel.isTxWindowFull then channel
  else
    match channel.cacheBuff with
    | some cacheBuff => channel.transSendCacheBuff env cacheBuff result
    | none =>
      if channel.txWindow.txList.length < channel.txWindow.size then
        (channel.setTxWindowFull false).reportStatus env result
      else channel

/-- The acknowledgement `DTAP_RecvEnhanceFrame` owes a frame with the polling
bit. -/
def answerPolling (env : Env) (channel : Channel) (bits : Nat) : Channel :=
  if checkFrameBit bits framePBit then
    let sent := channel.sendAckFrame env true false
    if sent.1 then sent.2.restartRspTimer env else sent.2
  else channel

/-- The data part of `DTAP_RecvEnhanceFrame`: queue the copy, operate the
reordering timer, hand over what is in sequence and answer a poll. -/
def recvDataFrame (env : Env) (recvCb : Option RecvCb) (channel : Channel)
    (frame : Frame) : Channel :=
  let queued := (channel.slideRxWindow frame).operateReorderTimer env
  (queued.recvEnhanceFrameInner env recvCb).answerPolling env frame.bits

/-- `DTAP_RecvEnhanceFrame`; the copy of the frame is two allocations. -/
def recvEnhanceFrame (env : Env) (recvCb : Option RecvCb)
    (channel : Channel) (frame : Frame) : Errno × Channel :=
  let nacked := channel.recvNackFrame env frame
  if nacked.1 ≠ .success then nacked
  else
    let slid := nacked.2.slideTxWindow env frame
    if frame.frameType = .ack then
      (.success, slid.transChannelStatusChange env 0)
    else if !env.allocAll slid.host 2 then
      (.transReliableCopyFrameErr, slid.skip 2)
    else
      (.success, ((slid.skip 2).recvDataFrame env recvCb
        frame).transChannelStatusChange env 0)

/-- The checks of `DTAP_DataRecvFrame`: the length field, the parser, the
payload limit, the frame header and the mode's own check decide whether a
frame is accepted. -/
def acceptFrame (channel : Channel) (buff : Buff) : Option Frame :=
  if buff.data.length < basicHeaderLen then none
  else if buff.data.length ≠ wordAt buff.data 2 + basicHeaderLen then none
  else
    match parseFrame (byteAt buff.data 1 % 16) buff with
    | .error _ => none
    | .ok frame =>
      if frame.payload.length > channel.conf.mps then none
      else if !checkFrameHeader frame then none
      else if !channel.checkEnhanceFrame frame then none
      else some frame

/-- Callbacks registered by `DTAP_RegisterDataRecvCb` for the channel's tcid
and by `DTAP_RegisterProtoRecvCbk` for each protocol. -/
structure Registry where
  byTcid : Option RecvCb
  byProto : Nat → Option RecvCb

/-- The callback `DTAP_DataRecvFrame` chooses for a frame. -/
def Registry.select (registry : Registry) (pi : Nat) : Option RecvCb :=
  registry.byTcid <|> registry.byProto pi

def dataRecvFrame (env : Env) (registry : Registry) (channel : Channel)
    (buff : Buff) : Channel :=
  match channel.acceptFrame buff with
  | none => channel
  | some frame =>
    (channel.recvEnhanceFrame env (registry.select frame.pi) frame).2

/-- `DTAP_ChannelSetStatus` on a channel that the search finds: only the
callback registered for the tcid is looked up. -/
def channelSetStatus (env : Env) (registry : Registry) (channel : Channel)
    (result : Nat) : Channel :=
  channel.setTransChannelStatus env registry.byTcid result

end Channel

end NearLink.Dtap
