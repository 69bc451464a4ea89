import NearLink.Dli.Layer
import NearLink.Dtap.Frame
import NearLink.Keyed
import Mathlib.Logic.Function.Basic
import Mathlib.Logic.Function.Iterate

/-!
# The packet scheduler

`dtap_scheduler.c`: packets wait in four priority queues, ordered by logical
link and then by channel, until the link has credit at the controller.  A
packet is split when its turn comes; fragments that find no credit move to the
first queue.

Everything the scheduler asks of the outside is answered by `Answers`: the
outcome of each `DLI_DataSend`, of each allocation, and the buffer number the
collaboration service may set.  A channel is named by its logical link and
`srcTcid`, which the channel table keeps unique.  Log texts, the packet numbers
and the previous quota that only they read, and the rate statistics are left
out.
-/

namespace NearLink.Dtap

open Sdf Dli Keyed

/-- `DTAP_ChannelPriority`, most urgent first. -/
inductive Priority where
  | fragment
  | cmd
  | high
  | normal
  deriving DecidableEq

/-- The priority `DTAP_ChannelCreate` gives to a channel. -/
def channelPriority (srcTcid : Nat) : Priority :=
  if srcTcid = 0x02 then .cmd
  else if srcTcid ≤ 0x1F then .high
  else .normal

def fragmentTcid : Nat := 0xFF

def packetMaxSize : Nat := 10000

def minBufferNum : Nat := 1

def schedSub (minuend subtrahend : Nat) : Nat :=
  if minuend > subtrahend then minuend - subtrahend else 0

/-- `DTAP_PendingPacket`: a whole packet, or a fragment of one that is already
split (`isSplited`). -/
inductive PendingPacket where
  | whole (buff : Bytes)
  | splited (fragment : Fragment)
  deriving DecidableEq

/-- A channel on the list of a logical link, with its `pktList`. -/
structure ChannelNode where
  srcTcid : Nat
  pktList : List PendingPacket

structure LcidNode where
  lcid : Nat
  hasScheduled : Bool
  pktCnt : Nat
  channelList : List ChannelNode

structure PriorityQueue where
  lcidList : List LcidNode
  pktCnt : Nat

structure BufferNode where
  lcid : Nat
  quota : Nat
  sendNotAckPktCnt : Nat
  queuedPktCnt : Nat

/-- The node `DTAP_AddLcidBufferNode` creates. -/
def BufferNode.created (lcid : Nat) : BufferNode :=
  { lcid, quota := 0, sendNotAckPktCnt := 0, queuedPktCnt := 0 }

/-- A call of `DLI_DataSend` and the credit counters it was made under. -/
structure Post where
  lcid : Nat
  fragment : Fragment
  accepted : Bool
  sendNotAckPktCnt : Nat
  apBufferNum : Nat
  linkNotAckPktCnt : Nat
  quota : Nat

inductive Trace where
  /-- A call of `DLI_DataSend`. -/
  | post (post : Post)
  /-- A `DTAP_SCHED_SUB` on a packet counter. -/
  | sub (minuend subtrahend : Nat)
  /-- `DTAP_PriorityQueuePeek` finds packets counted but none queued. -/
  | noPacket

/-- The state of `dtap_scheduler.c`, with the packet boundary flag of the
device layer and the trace so far. -/
structure Scheduler where
  queue : Priority → PriorityQueue
  lcidBufferList : List BufferNode
  sendNotAckPktCnt : Nat
  apBufferNum : Nat
  pdFlag : Option PdFlag
  trace : List Trace

/-- What the outside answers during one event.  Outcomes that can differ within
an event depend on the length of the trace when they are asked for. -/
structure Answers where
  /-- `DLI_DataLenGet(ACB_DATA_TYPE)` -/
  acbLen : Nat
  /-- `DTAP_SendData`, for a fragment that was saved earlier or not. -/
  dataSend : (isSplited : Bool) → Nat → Bool
  /-- The allocations of `DTAP_SplitData`. -/
  splitAlloc : Nat → Bool
  /-- The allocations of `DTAP_SaveFragmentData`. -/
  saveAlloc : Nat → Bool
  /-- `DTAP_CreatePacket` in `DTAP_DataSendWithPriority`. -/
  packetAlloc : Bool
  /-- `DTAP_CreateLcidNode` in `DTAP_DataSendWithPriority`. -/
  lcidNodeAlloc : Bool
  /-- The allocation of `DTAP_AddLcidBufferNode`. -/
  bufferNodeAlloc : Bool
  collabBufferNum : Option Nat

/-- Nothing fails and the collaboration service stays silent. -/
def Answers.granted (acbLen : Nat) : Answers where
  acbLen
  dataSend _ _ := true
  splitAlloc _ := true
  saveAlloc _ := true
  packetAlloc := true
  lcidNodeAlloc := true
  bufferNodeAlloc := true
  collabBufferNum := none

namespace Scheduler

/-- The state after `DTAP_SchedulerInit`. -/
def initial : Scheduler where
  queue _ := { lcidList := [], pktCnt := 0 }
  lcidBufferList := []
  sendNotAckPktCnt := 0
  apBufferNum := minBufferNum
  pdFlag := none
  trace := []

def getLcidBufferNode (state : Scheduler) (lcid : Nat) : Option BufferNode :=
  lookup BufferNode.lcid lcid state.lcidBufferList

def getLcidNode (state : Scheduler) (priority : Priority) (lcid : Nat) :
    Option LcidNode :=
  lookup LcidNode.lcid lcid (state.queue priority).lcidList

def lcidPktCnt (state : Scheduler) (priority : Priority) (lcid : Nat) : Nat :=
  ((state.getLcidNode priority lcid).map LcidNode.pktCnt).getD 0

/-- The count of queued packets the buffer node of a link keeps. -/
def queuedPktCnt (state : Scheduler) (lcid : Nat) : Nat :=
  ((state.getLcidBufferNode lcid).map BufferNode.queuedPktCnt).getD 0

def clock (state : Scheduler) : Nat := state.trace.length

def canSend (state : Scheduler) (lcid : Nat) : Bool :=
  match state.getLcidBufferNode lcid with
  | none => false
  | some node =>
    if state.sendNotAckPktCnt ≥ state.apBufferNum then false
    else node.sendNotAckPktCnt < node.quota

def setQueue (priority : Priority) (queue : PriorityQueue) (state : Scheduler) : Scheduler :=
  { state with queue := Function.update state.queue priority queue }

def modifyBufferNode (lcid : Nat) (change : BufferNode → BufferNode)
    (state : Scheduler) : Scheduler :=
  { state with
    lcidBufferList := modify BufferNode.lcid lcid change state.lcidBufferList }

def note (events : List Trace) (state : Scheduler) : Scheduler :=
  { state with trace := state.trace ++ events }

def calcTotalQueuedPktCnt (nodes : List BufferNode) : Nat :=
  (nodes.map BufferNode.queuedPktCnt).sum

def floorBonus (bonusPool total : Nat) (node : BufferNode) : Nat :=
  bonusPool * node.queuedPktCnt / total % 2 ^ 8

/-- The inner loop of the largest remainder method: the node with the largest
fraction among those that have no more than their rounded bonus. -/
def maxFracNode (bonusPool total : Nat) :
    Nat → Option Nat → List BufferNode → Option Nat
  | _, maxNode, [] => maxNode
  | maxFrac, maxNode, node :: nodes =>
    let frac := bonusPool * node.queuedPktCnt % total
    if node.quota - minBufferNum > floorBonus bonusPool total node then
      maxFracNode bonusPool total maxFrac maxNode nodes
    else if frac > maxFrac then
      maxFracNode bonusPool total frac (some node.lcid) nodes
    else maxFracNode bonusPool total maxFrac maxNode nodes

def raiseMaxFracNode (bonusPool total : Nat) (nodes : List BufferNode) :
    List BufferNode :=
  match maxFracNode bonusPool total 0 none nodes with
  | none => nodes
  | some lcid =>
    modify BufferNode.lcid lcid
      (fun node => { node with quota := (node.quota + 1) % 2 ^ 8 }) nodes

def allocLcidQuota (apBufferNum total : Nat) (nodes : List BufferNode) :
    List BufferNode :=
  let lcidNums := nodes.length
  let bonusPool :=
    if apBufferNum > lcidNums * minBufferNum then
      apBufferNum - lcidNums * minBufferNum
    else 0
  let sumBonus := (nodes.map (floorBonus bonusPool total)).sum % 2 ^ 8
  let floors := nodes.map fun node =>
    { node with
      quota := (minBufferNum + floorBonus bonusPool total node) % 2 ^ 8 }
  let rem := (bonusPool + 2 ^ 8 - sumBonus) % 2 ^ 8
  (raiseMaxFracNode bonusPool total)^[rem] floors

def recalcLcidQuota (state : Scheduler) : Scheduler :=
  let total := calcTotalQueuedPktCnt state.lcidBufferList
  { state with
    lcidBufferList :=
      if total ≠ 0 then
        allocLcidQuota state.apBufferNum total state.lcidBufferList
      else state.lcidBufferList.map fun node =>
        { node with quota := minBufferNum } }

def setApBufferNum (bufferNum : Nat) (state : Scheduler) : Scheduler :=
  recalcLcidQuota { state with apBufferNum := bufferNum % 2 ^ 8 }

/-- `COLLAB_ContinueAssignTransBuffer`, which may call back
`DTAP_SetApBufferNum`. -/
def continueAssignTransBuffer (answers : Answers) (state : Scheduler) :
    Scheduler :=
  match answers.collabBufferNum with
  | none => state
  | some bufferNum => state.setApBufferNum bufferNum

/-- `DTAP_PriorityQueuePeek`: the first channel with a packet and that
packet. -/
def priorityQueuePeek (node : LcidNode) : Option (Nat × PendingPacket) :=
  if node.pktCnt = 0 then none
  else node.channelList.findSome? fun channel =>
    channel.pktList.head?.map fun packet => (channel.srcTcid, packet)

/-- Remove the first packet of a channel.  A channel that has more moves to
the end of the list. -/
def popChannel (srcTcid : Nat) (channels : List ChannelNode) :
    List ChannelNode :=
  match lookup ChannelNode.srcTcid srcTcid channels with
  | none => channels
  | some channel =>
    if channel.pktList.tail.isEmpty then
      modify ChannelNode.srcTcid srcTcid
        (fun channel => { channel with pktList := channel.pktList.tail })
        channels
    else remove ChannelNode.srcTcid srcTcid channels ++
      [{ channel with pktList := channel.pktList.tail }]

def priorityQueuePop (priority : Priority) (lcid srcTcid : Nat)
    (state : Scheduler) : Scheduler :=
  let queue := state.queue priority
  let popped : PriorityQueue :=
    { lcidList := modify LcidNode.lcid lcid
        (fun node => { node with
          pktCnt := schedSub node.pktCnt 1
          channelList := popChannel srcTcid node.channelList })
        queue.lcidList
      pktCnt := schedSub queue.pktCnt 1 }
  state.setQueue priority popped
    |>.modifyBufferNode lcid (fun node =>
      { node with queuedPktCnt := schedSub node.queuedPktCnt 1 })
    |>.note [.sub (state.lcidPktCnt priority lcid) 1,
      .sub queue.pktCnt 1, .sub (state.queuedPktCnt lcid) 1]

/-- `DTAP_PriorityQueuePush`, with the outcome of `DTAP_CreateLcidNode`. -/
def priorityQueuePush (allocated : Bool) (priority : Priority)
    (lcid srcTcid pktCnt : Nat) (state : Scheduler) : Option Scheduler :=
  let queue := state.queue priority
  if (state.getLcidNode priority lcid).isNone ∧ ¬ allocated then none
  else
    let nodes := ensure LcidNode.lcid lcid
      { lcid, hasScheduled := false, pktCnt := 0, channelList := [] }
      queue.lcidList
    let pushed : PriorityQueue :=
      { lcidList := modify LcidNode.lcid lcid
          (fun node => { node with
            pktCnt := node.pktCnt + pktCnt
            -- DTAP_InsertChannelToLcidNode
            channelList := ensure ChannelNode.srcTcid srcTcid
              { srcTcid, pktList := [] } node.channelList })
          nodes
        pktCnt := queue.pktCnt + pktCnt }
    some (state.setQueue priority pushed
      |>.modifyBufferNode lcid (fun node =>
        { node with queuedPktCnt := node.queuedPktCnt + pktCnt }))

/-- Append packets to the `pktList` of a channel that is on its list. -/
def appendPackets (priority : Priority) (lcid srcTcid : Nat)
    (packets : List PendingPacket) (state : Scheduler) : Scheduler :=
  let queue := state.queue priority
  state.setQueue priority { queue with
    lcidList := modify LcidNode.lcid lcid
      (fun node => { node with
        channelList := modify ChannelNode.srcTcid srcTcid (fun channel =>
            { channel with pktList := channel.pktList ++ packets })
          node.channelList })
      queue.lcidList }

def channelDownProc (priority : Priority) (lcid srcTcid : Nat)
    (state : Scheduler) : Scheduler :=
  let queue := state.queue priority
  match state.getLcidNode priority lcid with
  | none => state
  | some node =>
    match lookup ChannelNode.srcTcid srcTcid node.channelList with
    | none =>
      if node.channelList.isEmpty then
        state.setQueue priority { queue with
          lcidList := remove LcidNode.lcid lcid queue.lcidList }
      else state
    | some channel =>
      let channelPktCnt := channel.pktList.length
      let channels :=
        remove ChannelNode.srcTcid srcTcid node.channelList
      let nodes :=
        if channels.isEmpty then
          remove LcidNode.lcid lcid queue.lcidList
        else modify LcidNode.lcid lcid
          (fun node => { node with
            pktCnt := schedSub node.pktCnt channelPktCnt
            channelList := channels })
          queue.lcidList
      let queued := (state.getLcidBufferNode lcid).map fun buffer =>
        Trace.sub buffer.queuedPktCnt channelPktCnt
      state.setQueue priority
          { lcidList := nodes
            pktCnt := schedSub queue.pktCnt channelPktCnt }
        |>.modifyBufferNode lcid (fun buffer => { buffer with
          queuedPktCnt := schedSub buffer.queuedPktCnt channelPktCnt })
        |>.note (queued.toList ++ [.sub node.pktCnt channelPktCnt,
            .sub queue.pktCnt channelPktCnt])

def channelDown (lcid srcTcid : Nat) (state : Scheduler) : Scheduler :=
  state.channelDownProc .fragment lcid fragmentTcid
    |>.channelDownProc .cmd lcid srcTcid
    |>.channelDownProc .high lcid srcTcid
    |>.channelDownProc .normal lcid srcTcid

def sendData (answers : Answers) (isSplited : Bool) (lcid : Nat)
    (fragment : Fragment) (state : Scheduler) : Bool × Scheduler :=
  let accepted := answers.dataSend isSplited state.clock
  let node := state.getLcidBufferNode lcid
  (accepted, state.note [.post
    { lcid
      fragment
      accepted
      sendNotAckPktCnt := state.sendNotAckPktCnt
      apBufferNum := state.apBufferNum
      linkNotAckPktCnt := (node.map BufferNode.sendNotAckPktCnt).getD 0
      quota := (node.map BufferNode.quota).getD 0 }])

def takeCredit (lcid : Nat) (state : Scheduler) : Scheduler :=
  let booked := state.modifyBufferNode lcid fun node =>
    { node with sendNotAckPktCnt := node.sendNotAckPktCnt + 1 }
  { booked with
    sendNotAckPktCnt := (state.sendNotAckPktCnt + 1) % 2 ^ 8 }

/-- The loop of `DTAP_ScheduleLcid` over the fragments of a packet: those that
are left when the credit is used up or a fragment is refused. -/
def sendFragments (answers : Answers) (lcid : Nat) :
    List Fragment → Scheduler → List Fragment × Scheduler
  | [], state => ([], state)
  | fragment :: fragments, state =>
    if state.canSend lcid then
      let sent := state.sendData answers false lcid fragment
      if sent.1 then
        sendFragments answers lcid fragments (sent.2.takeCredit lcid)
      else (fragment :: fragments, sent.2)
    else (fragment :: fragments, state)

/-- `DTAP_SplitData` -/
def splitPacket (answers : Answers) (lcid : Nat) (buff : Bytes)
    (state : Scheduler) : Option (List Fragment) × Scheduler :=
  if answers.splitAlloc state.clock then
    match splitData lcid answers.acbLen
        (getDataFragmentNums answers.acbLen buff) state.pdFlag buff with
    | none => (none, state)
    | some (fragments, pdFlag) => (some fragments, { state with pdFlag })
  else (none, state)

/-- `DTAP_SaveFragmentData`.  Its packets are counted before they are appended;
the source does it the other way round, and undoes it when counting fails. -/
def saveFragmentData (answers : Answers) (lcid : Nat)
    (fragments : List Fragment) (state : Scheduler) : Bool × Scheduler :=
  if answers.saveAlloc state.clock then
    match state.priorityQueuePush true .fragment lcid fragmentTcid
        fragments.length with
    | none => (false, state)
    | some pushed =>
      (true, pushed.appendPackets .fragment lcid fragmentTcid
        (fragments.map .splited))
  else (false, state)

/-- How a round of the loop of `DTAP_ScheduleLcid` ends: with the next round,
or by leaving the loop or the function. -/
inductive Round where
  | again
  | done
  | failed

/-- The body of the loop of `DTAP_ScheduleLcid`, its peek included. -/
def scheduleRound (answers : Answers) (priority : Priority) (lcid : Nat)
    (state : Scheduler) : Round × Scheduler :=
  match state.getLcidNode priority lcid with
  | none => (.done, state)
  | some node =>
    match priorityQueuePeek node with
    | none =>
      if node.pktCnt = 0 then (.done, state)
      else (.done, state.note [.noPacket])
    | some (srcTcid, .splited fragment) =>
      let sent := state.sendData answers true lcid fragment
      if sent.1 then
        (.again, (sent.2.priorityQueuePop priority lcid srcTcid).takeCredit
          lcid)
      else (.failed, sent.2)
    | some (srcTcid, .whole buff) =>
      match state.splitPacket answers lcid buff with
      | (none, split) => (.failed, split)
      | (some fragments, split) =>
        let sent := split.sendFragments answers lcid fragments
        let popped := sent.2.priorityQueuePop priority lcid srcTcid
        if sent.1.isEmpty then (.again, popped)
        else
          let saved := popped.saveFragmentData answers lcid sent.1
          (if saved.1 then .done else .failed, saved.2)

/-- `DTAP_ScheduleLcid`, for at most `rounds` rounds. -/
def scheduleLcid (answers : Answers) (priority : Priority) (lcid : Nat) :
    Nat → Scheduler → Bool × Scheduler
  | 0, state => (true, state)
  | rounds + 1, state =>
    if state.canSend lcid then
      match state.scheduleRound answers priority lcid with
      | (.again, next) => scheduleLcid answers priority lcid rounds next
      | (.done, next) => (true, next)
      | (.failed, next) => (false, next)
    else (true, state)

/-- The free buffers of the controller, an upper bound for the rounds of
`DTAP_ScheduleLcid`: a round that is followed by another sends a fragment. -/
def freeBuffers (state : Scheduler) : Nat :=
  state.apBufferNum - state.sendNotAckPktCnt

/-- Set `hasScheduled` of a node. -/
def markScheduled (priority : Priority) (lcid : Nat) (state : Scheduler) :
    Scheduler :=
  let queue := state.queue priority
  state.setQueue priority { queue with
    lcidList := modify LcidNode.lcid lcid
      (fun node => { node with hasScheduled := true }) queue.lcidList }

/-- The first loop of `DTAP_SchedulePriority`. -/
def scheduleNodes (answers : Answers) (priority : Priority) :
    List Nat → Scheduler → Bool × Scheduler
  | [], state => (true, state)
  | lcid :: lcids, state =>
    if state.canSend lcid then
      let marked := state.markScheduled priority lcid
      match marked.scheduleLcid answers priority lcid marked.freeBuffers with
      | (false, next) => (false, next)
      | (true, next) => scheduleNodes answers priority lcids next
    else scheduleNodes answers priority lcids state

/-- The second loop of `DTAP_SchedulePriority`: the nodes that had their turn
move to the end of the list, in order. -/
def rotateScheduled (priority : Priority) (state : Scheduler) : Scheduler :=
  let queue := state.queue priority
  state.setQueue priority { queue with
    lcidList := queue.lcidList.filter (fun node => !node.hasScheduled) ++
      (queue.lcidList.filter (·.hasScheduled)).map fun node =>
        { node with hasScheduled := false } }

def schedulePriority (answers : Answers) (priority : Priority)
    (state : Scheduler) : Bool × Scheduler :=
  let scheduled := state.scheduleNodes answers priority
    ((state.queue priority).lcidList.map (·.lcid))
  (scheduled.1, scheduled.2.rotateScheduled priority)

/-- The loop of `DTAP_SchedulerRun` over the priorities that remain. -/
def runPriorities (answers : Answers) :
    List Priority → Scheduler → Scheduler
  | [], state => state
  | priority :: priorities, state =>
    if state.sendNotAckPktCnt ≥ state.apBufferNum then state
    else if (state.queue priority).pktCnt = 0 then
      runPriorities answers priorities state
    else
      match state.schedulePriority answers priority with
      | (false, next) => next
      | (true, next) => runPriorities answers priorities next

def schedulerRun (answers : Answers) (state : Scheduler) : Scheduler :=
  state.runPriorities answers [.fragment, .cmd, .high, .normal]

/-- `DTAP_DataSendWithPriority` up to the scheduler run: the packet is queued
and, when the link has used up its quota, quotas are recalculated. -/
def queuePacket (answers : Answers) (lcid srcTcid : Nat) (buff : Bytes)
    (state : Scheduler) : Except Errno Scheduler :=
  let priority := channelPriority srcTcid
  if (state.queue priority).pktCnt ≥ packetMaxSize then
    .error .transExceedMaxErr
  else if ¬ answers.packetAlloc then .error .transMallocErr
  else
    match state.priorityQueuePush answers.lcidNodeAlloc priority lcid srcTcid
        1 with
    | none => .error .transMallocErr
    | some pushed =>
      let queued :=
        pushed.appendPackets priority lcid srcTcid [.whole buff]
      match queued.getLcidBufferNode lcid with
      | none => .ok queued
      | some node =>
        if node.sendNotAckPktCnt ≥ node.quota ∧
            queued.sendNotAckPktCnt < queued.apBufferNum then
          .ok queued.recalcLcidQuota
        else .ok queued

def dataSendWithPriority (answers : Answers) (lcid srcTcid : Nat)
    (buff : Bytes) (state : Scheduler) : Errno × Scheduler :=
  match state.queuePacket answers lcid srcTcid buff with
  | .error errno => (errno, state)
  | .ok queued => (.success, queued.schedulerRun answers)

/-- `DTAP_SendCompleteCbk` up to the scheduler run, for a link that has a
buffer node. -/
def returnCredit (answers : Answers) (connHandle numCompletedPackets : Nat)
    (state : Scheduler) : Scheduler :=
  let returned := { state with
    sendNotAckPktCnt :=
      schedSub state.sendNotAckPktCnt numCompletedPackets }
  returned.continueAssignTransBuffer answers
    |>.modifyBufferNode connHandle (fun node => { node with
      sendNotAckPktCnt := schedSub node.sendNotAckPktCnt numCompletedPackets })
    |>.recalcLcidQuota

def sendCompleteCbk (answers : Answers) (connHandle numCompletedPackets : Nat)
    (state : Scheduler) : Scheduler :=
  match state.getLcidBufferNode connHandle with
  | none => state
  | some _ =>
    (state.returnCredit answers connHandle numCompletedPackets).schedulerRun
      answers

/-- `DTAP_DLIConnectCbk` with `DTAP_AddLcidBufferNode`, for a connection that
succeeded. -/
def connectCbk (answers : Answers) (connHandle : Nat) (state : Scheduler) :
    Scheduler :=
  match state.getLcidBufferNode connHandle with
  | some _ => state
  | none =>
    if answers.bufferNodeAlloc then
      recalcLcidQuota { state with
        lcidBufferList :=
          state.lcidBufferList ++ [BufferNode.created connHandle] }
    else state

/-- `DTAP_DLIDisconnectCbk` with `DTAP_DeleteLcidBufferNode` -/
def disconnectCbk (answers : Answers) (connHandle : Nat) (state : Scheduler) :
    Scheduler :=
  match state.getLcidBufferNode connHandle with
  | none => state
  | some node =>
    let returned := { state with
      sendNotAckPktCnt :=
        schedSub state.sendNotAckPktCnt node.sendNotAckPktCnt }
    let assigned := returned.continueAssignTransBuffer answers
    recalcLcidQuota { assigned with
      lcidBufferList :=
        remove BufferNode.lcid connHandle assigned.lcidBufferList }

/-- `DTAP_DLIDataNumChangecbk`; the registered listener may set the number
again. -/
def dataNumChangecbk (answers : Answers) (isAcb : Bool) (dataNum : Nat)
    (state : Scheduler) : Scheduler :=
  if isAcb then
    (state.setApBufferNum dataNum).continueAssignTransBuffer answers
  else state

inductive Event where
  | dataSend (lcid srcTcid : Nat) (buff : Bytes)
  | sendComplete (connHandle numCompletedPackets : Nat)
  | connect (connHandle : Nat)
  | disconnect (connHandle : Nat)
  | setApBufferNum (bufferNum : Nat)
  | dataNumChange (isAcb : Bool) (dataNum : Nat)
  | channelDown (lcid srcTcid : Nat)

structure Input where
  event : Event
  answers : Answers

def step (state : Scheduler) (input : Input) : Scheduler :=
  match input.event with
  | .dataSend lcid srcTcid buff =>
    (state.dataSendWithPriority input.answers lcid srcTcid buff).2
  | .sendComplete connHandle numCompletedPackets =>
    state.sendCompleteCbk input.answers connHandle numCompletedPackets
  | .connect connHandle => state.connectCbk input.answers connHandle
  | .disconnect connHandle => state.disconnectCbk input.answers connHandle
  | .setApBufferNum bufferNum => state.setApBufferNum bufferNum
  | .dataNumChange isAcb dataNum =>
    state.dataNumChangecbk input.answers isAcb dataNum
  | .channelDown lcid srcTcid => state.channelDown lcid srcTcid

end Scheduler

end NearLink.Dtap
