import NearLink.Dtap.Sequence
import NearLink.Transition

/-!
# The stream mode

`dtap_trans_stream.c`: frames are handed on in the order of their numbers.  A
frame that is ahead of the expected one waits in `rxList`, and a timer gives up
on the frames that are missing.

Each event carries the answers of its surroundings: two readings of the clock,
the outcome of an allocation and of `CP_TimerAdd`, and what the source reads as
the number of the last node when it casts the head of an empty list.  The
frames that arrive are numbered, so that copies can be told apart.
-/

namespace NearLink.Dtap

open Sdf

def streamCacheMax : Nat := 256

/-- `StreamRxNode`; `arrival` is the number of the frame among all that
arrived. -/
structure StreamRxNode where
  txSeq : Nat
  pi : Nat
  data : Bytes
  timeStamp : Nat
  arrival : Nat

/-- One call of `RecvCallback`; `handed` says whether a callback is set. -/
structure StreamUpcall where
  info : DataInfo
  sdu : Bytes
  handed : Bool
  txSeq : Nat
  arrival : Nat

structure StreamConf where
  lcid : Nat
  srcTcid : Nat
  mps : Nat
  crcInit : UInt16

/-- `DTAP_Stream_Channel_S`, with the upcalls so far. -/
structure Stream where
  conf : StreamConf
  expectedSeq : Nat
  maxExpectedSeq : Nat
  reorderTxSeq : Nat
  rxList : List StreamRxNode
  reorderTimer : Bool
  recvCb : Bool
  up : List StreamUpcall
  arrivals : Nat

structure StreamAnswers where
  /-- `DP_GetMonoTimeMs` for the time stamp of a node. -/
  stamp : Nat
  /-- `DP_GetMonoTimeMs` in `StartReorderTimer`. -/
  now : Nat
  alloc : Bool
  timerAdd : Bool
  headSeq : Nat

def streamChannelCreate (conf : StreamConf) : Stream where
  conf
  expectedSeq := frameSeqInit
  maxExpectedSeq := frameSeqInit
  reorderTxSeq := 0
  rxList := []
  reorderTimer := false
  recvCb := false
  up := []
  arrivals := 0

/-- `InsertStreamRxNode`: before the first node with a greater number. -/
def insertStreamRxNode (node : StreamRxNode) :
    List StreamRxNode → List StreamRxNode
  | [] => [node]
  | cur :: nodes =>
    if isFrameSeqSmaller node.txSeq cur.txSeq then node :: cur :: nodes
    else cur :: insertStreamRxNode node nodes

namespace Stream

def recvCallback (node : StreamRxNode) (stream : Stream) : Stream :=
  { stream with
    up := stream.up ++
      [{ info :=
           { pi := node.pi
             lcid := stream.conf.lcid
             tcid := stream.conf.srcTcid }
         sdu := node.data
         handed := stream.recvCb
         txSeq := node.txSeq
         arrival := node.arrival }] }

/-- The choice of `StartReorderTimer`: the oldest node, among those that are
older than the reading of the clock. -/
def oldestSeq : Nat → Nat → List StreamRxNode → Nat
  | _, reorderTxSeq, [] => reorderTxSeq
  | minTimeStamp, reorderTxSeq, node :: nodes =>
    if node.timeStamp < minTimeStamp then
      oldestSeq node.timeStamp node.txSeq nodes
    else oldestSeq minTimeStamp reorderTxSeq nodes

def startReorderTimer (answers : StreamAnswers) (stream : Stream) : Stream :=
  if stream.expectedSeq ≠ stream.maxExpectedSeq then
    { stream with
      reorderTxSeq :=
        oldestSeq answers.now stream.reorderTxSeq stream.rxList
      reorderTimer := stream.reorderTimer || answers.timerAdd }
  else stream

def stopReorderTimer (stream : Stream) : Stream :=
  { stream with reorderTimer := false }

/-- `ReportExpectedStreamFrame`, on the nodes that remain. -/
def reportExpectedStreamFrame : List StreamRxNode → Stream → Stream
  | [], stream => { stream with rxList := [] }
  | node :: nodes, stream =>
    if node.txSeq ≠ stream.expectedSeq then
      { stream with rxList := node :: nodes }
    else
      reportExpectedStreamFrame nodes
        { stream.recvCallback node with
          expectedSeq := getNextFrameSeq stream.expectedSeq }

/-- The loop of `DTAP_ReorderStreamFrameTask`, on the nodes that remain. -/
def reportSmallerFrames : List StreamRxNode → Stream → Stream
  | [], stream => { stream with rxList := [] }
  | node :: nodes, stream =>
    if !isFrameSeqSmaller node.txSeq stream.reorderTxSeq then
      { stream with rxList := node :: nodes }
    else
      reportSmallerFrames nodes
        { stream.recvCallback node with
          expectedSeq := getNextFrameSeq node.txSeq }

/-- The number behind the last node; `SDF_DListLast` of an empty list is the
list head, read as if it were a node. -/
def lastSeqNext (answers : StreamAnswers) (nodes : List StreamRxNode) : Nat :=
  match nodes.getLast? with
  | some last => (last.txSeq + 1) % 2 ^ 16
  | none => (answers.headSeq + 1) % 2 ^ 16

def reorderStreamFrameTask (answers : StreamAnswers) (stream : Stream) :
    Stream :=
  let flushed := reportSmallerFrames stream.rxList
    { stream with reorderTimer := false }
  let drained := reportExpectedStreamFrame flushed.rxList flushed
  { drained with maxExpectedSeq := lastSeqNext answers drained.rxList }
    |>.startReorderTimer answers

/-- `BuffCheck`: the data of the frame without CRC and header. -/
def buffCheck (crcInit : UInt16) (frame : Frame) : Except Errno Buff :=
  let crc := frame.buff.data.drop (frame.buff.data.length - crcLen)
  match frame.buff.trimSuffix crcLen with
  | none => .error .transStreamRecvTrimSufErr
  | some message =>
    if decode2ByteLittle crc ≠ (crc16 crcInit message.data).toNat then
      .error .transStreamRecvCrcErr
    else
      match message.trimPrefix frame.headerLen with
      | none => .error .transStreamRecvTrimPreErr
      | some payload => .ok payload

/-- The part of `DTAP_RecvStreamFrame` behind the checks. -/
def recvChecked (answers : StreamAnswers) (txSeq pi : Nat) (data : Bytes)
    (stream : Stream) : Errno × Stream :=
  let node : StreamRxNode :=
    { txSeq, pi, data, timeStamp := answers.stamp, arrival := stream.arrivals }
  let stream := { stream with arrivals := stream.arrivals + 1 }
  if stream.expectedSeq = frameSeqInit then
    (.success, { stream.recvCallback node with
      expectedSeq := getNextFrameSeq txSeq
      maxExpectedSeq := getNextFrameSeq txSeq })
  else if txSeq = stream.expectedSeq then
    let reported :=
      { stream.recvCallback node with
        expectedSeq := getNextFrameSeq stream.expectedSeq }
    (.success, reportExpectedStreamFrame reported.rxList reported
      |>.stopReorderTimer |>.startReorderTimer answers)
  else if isFrameSeqSmaller txSeq stream.expectedSeq then
    (.transStreamRecvDuplicatedErr, stream)
  else if stream.rxList.any (·.txSeq == txSeq) then
    (.transStreamRecvDuplicatedErr, stream)
  else if !answers.alloc then (.transMallocErr, stream)
  else
    let rxList := insertStreamRxNode node stream.rxList
    let queued :=
      { stream with
        rxList
        maxExpectedSeq := lastSeqNext answers rxList }
    if queued.reorderTimer then (.success, queued)
    else (.success, queued.startReorderTimer answers)

/-- `DTAP_RecvStreamFrame`.  The number and the fragmentation state are read
from the header of the frame, whatever its type. -/
def recvStreamFrame (answers : StreamAnswers) (recvCb : Bool) (frame : Frame)
    (stream : Stream) : Errno × Stream :=
  let word := wordAt frame.buff.data 5
  if Sar.ofCode (word / 2 ^ 14) ≠ .unseg then (.transUnsupported, stream)
  else
    let stream := { stream with recvCb }
    if stream.rxList.length > streamCacheMax then
      (.transStreamRxFull, stream)
    else
      match buffCheck stream.conf.crcInit frame with
      | .error errno => (errno, stream)
      | .ok payload =>
        stream.recvChecked answers (word % 2 ^ 14) frame.pi payload.data

def checkStreamFrame (frame : Frame) : Bool :=
  byteAt frame.buff.data 1 % 16 == FrameType.simplexFrag.code ||
    byteAt frame.buff.data 1 % 16 == FrameType.simplexAggr.code

/-- The checks of `DTAP_DataRecvFrame` for a stream channel. -/
def acceptFrame (stream : Stream) (buff : Buff) : Option Frame :=
  if buff.data.length < basicHeaderLen then none
  else if buff.data.length ≠ wordAt buff.data 2 + basicHeaderLen then none
  else
    match parseFrame (byteAt buff.data 1 % 16) buff with
    | .error _ => none
    | .ok frame =>
      if frame.payload.length > stream.conf.mps then none
      else if !checkFrameHeader frame then none
      else if !checkStreamFrame frame then none
      else some frame

/-- `DTAP_DataRecvFrame`, with a callback registered for a protocol or not. -/
def dataRecvFrame (answers : StreamAnswers) (recvCb : Nat → Bool)
    (buff : Buff) (stream : Stream) : Stream :=
  match stream.acceptFrame buff with
  | none => stream
  | some frame => (stream.recvStreamFrame answers (recvCb frame.pi) frame).2

/-- `DTAP_PackStreamFrame`, with the number of the last frame sent before and
after it. -/
def packStreamFrame (crcInit : UInt16) (frameTxSeq tcid pi : Nat) (buff : Buff)
    (sar : Sar) : Nat × Except Errno Buff :=
  let txSeq := getNextFrameSeq frameTxSeq
  let length := buff.dataLen + FrameType.headerLen .simplexFrag -
    basicHeaderLen + crcLen
  let header := basicHeader tcid .simplexFrag frameCBit length ++
    [UInt8.ofNat pi] ++ encodeWord (txSeq % 2 ^ 14 + 2 ^ 14 * sar.code)
  match buff.prepend header with
  | none => (frameTxSeq, .error .transStreamPackHeaderErr)
  | some headed =>
    match headed.append (encode2ByteLittle (crc16 crcInit headed.data)) with
    | none => (txSeq, .error .transStreamPackCrcErr)
    | some packed => (txSeq, .ok packed)

/-- The events of a stream channel.  The task of the timer may run after the
timer was stopped, once the timer has posted it. -/
inductive Event where
  | recvFrame (recvCb : Nat → Bool) (buff : Buff)
  | reorderTimer

structure Input where
  event : Event
  answers : StreamAnswers

def step (stream : Stream) (input : Input) : Stream :=
  match input.event with
  | .recvFrame recvCb buff => stream.dataRecvFrame input.answers recvCb buff
  | .reorderTimer => stream.reorderStreamFrameTask input.answers

end Stream

end NearLink.Dtap
