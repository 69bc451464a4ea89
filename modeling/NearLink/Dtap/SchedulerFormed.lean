import NearLink.Dtap.SchedulerRun
import NearLink.Transition

/-!
# Well-formed scheduler states

The queues are well formed in every state of every run, whatever the device
layer, the allocator and the controller do.
-/

namespace NearLink.Dtap.Scheduler

open Sdf Dli Keyed List

structure Formed (state : Scheduler) : Prop where
  queues : ∀ priority, (state.queue priority).Formed priority
  links : (state.lcidBufferList.map BufferNode.lcid).Nodup
  buffers : state.apBufferNum < 2 ^ 8

theorem initial_formed : initial.Formed where
  queues _ := ⟨nodup_nil, nofun, rfl⟩
  links := nodup_nil
  buffers := by decide

variable {state next : Scheduler} {priority other : Priority}
  {lcid srcTcid link : Nat} {node : LcidNode} {Value : Type*}
  {channel : ChannelNode}

section

variable (formed : state.Formed)
include formed

theorem Formed.listed (found : state.getLcidNode priority lcid = some node) :
    node.Formed priority :=
  (formed.queues priority).nodes node (lookup_mem found)

theorem Formed.setQueue {queue : PriorityQueue}
    (replaced : queue.Formed priority) :
    (state.setQueue priority queue).Formed := { formed with
  queues other := by
    by_cases same : other = priority
    · subst same
      rw [queue_setQueue]
      exact replaced
    · rw [queue_setQueue_ne same]
      exact formed.queues other }

theorem Formed.modifyBufferNode (change : BufferNode → BufferNode)
    (keeps : ∀ node, (change node).lcid = node.lcid) (lcid : Nat) :
    (state.modifyBufferNode lcid change).Formed := { formed with
  links := by
    unfold Scheduler.modifyBufferNode
    rw [map_modify keeps]
    exact formed.links }

theorem Formed.pop {packet : PendingPacket}
    (found : state.getLcidNode priority lcid = some node)
    (peeked : priorityQueuePeek node = some (srcTcid, packet)) :
    (state.priorityQueuePop priority lcid srcTcid).Formed := by
  obtain ⟨good, counted⟩ := (formed.listed found).popped peeked
  have total := (formed.queues priority).counted
  have part := weight_le_sum LcidNode.pktCnt found
  have queue := (formed.queues priority).modified (LcidNode.popped srcTcid)
    (schedSub (state.queue priority).pktCnt 1) found (fun _ => rfl) good (by
      rw [schedSub_eq]
      omega)
  have counted := (formed.setQueue queue).modifyBufferNode
    (fun node => { node with queuedPktCnt := schedSub node.queuedPktCnt 1 })
    (fun _ => rfl) lcid
  exact { counted with }

theorem Formed.enqueue {packets : List PendingPacket}
    (kinds : ∀ packet ∈ packets, packet.isSplited = true ↔ priority = .fragment)
    (alone : priority = .fragment → srcTcid = fragmentTcid) :
    (state.enqueue priority lcid srcTcid packets).Formed := by
  have ensured := (formed.queues priority).ensured lcid
  obtain ⟨node, found⟩ : ∃ node, lookup LcidNode.lcid lcid
      (ensure LcidNode.lcid lcid (LcidNode.fresh lcid)
        (state.queue priority).lcidList) = some node :=
    ⟨_, lookup_ensure_self rfl⟩
  have good := (ensured.nodes node (lookup_mem found)).admitted kinds alone
  have queue := ensured.modified (LcidNode.admitted srcTcid packets)
    ((state.queue priority).pktCnt + packets.length) found (fun _ => rfl) good
    (by
      simp only [LcidNode.admitted]
      omega)
  exact (formed.setQueue queue).modifyBufferNode _ (by intro; rfl) lcid

theorem Formed.mark (priority : Priority) (lcid : Nat) :
    (state.markScheduled priority lcid).Formed := by
  cases found : state.getLcidNode priority lcid with
  | none =>
    unfold markScheduled
    dsimp only
    rw [modify_absent found]
    exact formed.setQueue (formed.queues priority)
  | some node =>
    have listed := formed.listed found
    exact formed.setQueue ((formed.queues priority).modified
      (fun node => { node with hasScheduled := true }) _ found
      (fun _ => rfl)
      { listed with } rfl)

end

theorem rotateScheduled_perm (priority : Priority) (state : Scheduler) :
    ((state.rotateScheduled priority).queue priority).lcidList.Perm
      ((state.queue priority).lcidList.map fun node =>
        { node with hasScheduled := false }) := by
  unfold rotateScheduled
  rw [queue_setQueue]
  generalize (state.queue priority).lcidList = nodes
  induction nodes with
  | nil => exact List.Perm.refl _
  | cons node nodes induction =>
    by_cases marked : node.hasScheduled = true
    · simp only [filter_cons, marked, Bool.not_true, if_true,
        Bool.false_eq_true, if_false, map_cons]
      exact (perm_middle).trans (induction.cons _)
    · have cleared : { node with hasScheduled := false } = node := by
        cases node
        simpa using marked
      simp only [filter_cons, marked, Bool.not_false, if_true,
        Bool.false_eq_true, if_false, map_cons, cleared, cons_append]
      exact induction.cons _

theorem Formed.rotate (formed : state.Formed) (priority : Priority) :
    (state.rotateScheduled priority).Formed := by
  have permuted := rotateScheduled_perm priority state
  have queue := formed.queues priority
  have rotated : ((state.rotateScheduled priority).queue priority).Formed
      priority := by
    constructor
    · rw [(permuted.map LcidNode.lcid).nodup_iff, map_map]
      exact queue.lcids
    · intro node member
      obtain ⟨earlier, listed, rfl⟩ :=
        mem_map.mp (permuted.mem_iff.mp member)
      have good := queue.nodes earlier listed
      exact { good with }
    · rw [(permuted.map LcidNode.pktCnt).sum_nat, map_map]
      unfold rotateScheduled
      rw [queue_setQueue]
      exact queue.counted
  unfold rotateScheduled at rotated ⊢
  rw [queue_setQueue] at rotated
  exact formed.setQueue rotated

theorem kept_formed (answers : Answers) : Kept answers Formed where
  sendData _ _ formed _ := { formed with }
  takeCredit formed _ :=
    have booked := formed.modifyBufferNode (fun node => { node with
      sendNotAckPktCnt := node.sendNotAckPktCnt + 1 }) (fun _ => rfl) _
    { booked with }
  split _ formed := { formed with }
  pop formed found peeked _ := formed.pop found peeked
  save fragments formed _ := formed.enqueue (by simp [PendingPacket.isSplited])
    (fun _ => rfl)
  noPacket formed _ _ _ := { formed with }
  mark priority lcid formed := formed.mark priority lcid
  rotate priority formed := formed.rotate priority

theorem Formed.takeCredit_used (formed : state.Formed)
    (can : state.canSend lcid = true) :
    (state.takeCredit lcid).sendNotAckPktCnt = state.sendNotAckPktCnt + 1 := by
  have free := (canSend_iff.mp can).1
  have small := formed.buffers
  exact Nat.mod_eq_of_lt (by omega)

def withoutQuota (node : BufferNode) : BufferNode := { node with quota := 0 }

theorem raiseMaxFracNode_withoutQuota (bonusPool total : Nat)
    (nodes : List BufferNode) :
    (raiseMaxFracNode bonusPool total nodes).map withoutQuota =
      nodes.map withoutQuota := by
  unfold raiseMaxFracNode
  split
  · rfl
  · rw [map_modify]
    exact fun _ => rfl

theorem allocLcidQuota_withoutQuota (apBufferNum total : Nat)
    (nodes : List BufferNode) :
    (allocLcidQuota apBufferNum total nodes).map withoutQuota =
      nodes.map withoutQuota := by
  have rounds (bonusPool rounds : Nat) (nodes : List BufferNode) :
      ((raiseMaxFracNode bonusPool total)^[rounds] nodes).map withoutQuota =
        nodes.map withoutQuota := by
    induction rounds generalizing nodes with
    | zero => rfl
    | succ rounds induction =>
      rw [Function.iterate_succ_apply, induction, raiseMaxFracNode_withoutQuota]
  unfold allocLcidQuota
  rw [rounds, map_map]
  rfl

theorem recalcLcidQuota_withoutQuota (state : Scheduler) :
    state.recalcLcidQuota.lcidBufferList.map withoutQuota =
      state.lcidBufferList.map withoutQuota := by
  unfold recalcLcidQuota
  dsimp only
  split
  · exact allocLcidQuota_withoutQuota _ _ _
  · rw [map_map]
    rfl

theorem map_recalcLcidQuota (view : BufferNode → Value)
    (quotaFree : ∀ node, view (withoutQuota node) = view node)
    (state : Scheduler) : state.recalcLcidQuota.lcidBufferList.map view =
      state.lcidBufferList.map view := by
  have stripped (nodes : List BufferNode) :
      nodes.map view = (nodes.map withoutQuota).map view := by
    rw [map_map]
    apply map_congr_left
    intro node _
    exact (quotaFree node).symm
  rw [stripped, recalcLcidQuota_withoutQuota, ← stripped]

theorem Formed.recalc (formed : state.Formed) :
    state.recalcLcidQuota.Formed := { formed with
  links := by
    rw [map_recalcLcidQuota BufferNode.lcid fun _ => rfl]
    exact formed.links }

theorem Formed.setApBufferNum (formed : state.Formed) (bufferNum : Nat) :
    (state.setApBufferNum bufferNum).Formed :=
  Formed.recalc ⟨formed.queues, formed.links, Nat.mod_lt _ (by decide)⟩

theorem Formed.continueAssign (formed : state.Formed) (answers : Answers) :
    (state.continueAssignTransBuffer answers).Formed := by
  unfold continueAssignTransBuffer
  split
  · exact formed
  · exact formed.setApBufferNum _

theorem continueAssign_used (answers : Answers) (state : Scheduler) :
    (state.continueAssignTransBuffer answers).sendNotAckPktCnt =
        state.sendNotAckPktCnt ∧
      (state.continueAssignTransBuffer answers).trace = state.trace := by
  unfold continueAssignTransBuffer
  split <;> exact ⟨rfl, rfl⟩

theorem getLcidBufferNode_recalc (state : Scheduler) (lcid : Nat) :
    (state.recalcLcidQuota.getLcidBufferNode lcid).map withoutQuota =
      (state.getLcidBufferNode lcid).map withoutQuota := by
  unfold getLcidBufferNode
  rw [← lookup_map (by intro; rfl), ← lookup_map (by intro; rfl),
    recalcLcidQuota_withoutQuota]

section

variable (view : BufferNode → Value)
  (quotaFree : ∀ node, view (withoutQuota node) = view node)
include quotaFree

theorem map_getLcidBufferNode_recalc (state : Scheduler) (lcid : Nat) :
    (state.recalcLcidQuota.getLcidBufferNode lcid).map view =
      (state.getLcidBufferNode lcid).map view := by
  have stripped (found : Option BufferNode) :
      found.map view = (found.map withoutQuota).map view := by
    cases found with
    | none => rfl
    | some node => simp [quotaFree]
  rw [stripped, getLcidBufferNode_recalc, ← stripped]

theorem map_getLcidBufferNode_continueAssign (answers : Answers)
    (state : Scheduler) (lcid : Nat) :
    ((state.continueAssignTransBuffer answers).getLcidBufferNode lcid).map
        view = (state.getLcidBufferNode lcid).map view := by
  unfold continueAssignTransBuffer
  split
  · rfl
  · exact map_getLcidBufferNode_recalc view quotaFree _ _

end

theorem queuePacket_spec {answers : Answers} {buff : Bytes} {queued : Scheduler}
    (done : state.queuePacket answers lcid srcTcid buff = .ok queued) :
    queued = state.enqueue (channelPriority srcTcid) lcid srcTcid
        [.whole buff] ∨
      queued = (state.enqueue (channelPriority srcTcid) lcid srcTcid
        [.whole buff]).recalcLcidQuota := by
  unfold queuePacket at done
  dsimp only at done
  split at done
  · cases done
  · split at done
    · cases done
    · split at done
      · cases done
      next push =>
        rw [appendPackets_push push] at done
        split at done
        · cases done
          exact .inl rfl
        · split at done <;> cases done
          · exact .inr rfl
          · exact .inl rfl

section

variable (formed : state.Formed)
include formed

theorem Formed.admitPacket (lcid srcTcid : Nat) (buff : Bytes) :
    (state.enqueue (channelPriority srcTcid) lcid srcTcid
      [.whole buff]).Formed := by
  have different := channelPriority_ne_fragment srcTcid
  exact formed.enqueue (by simp [PendingPacket.isSplited, different])
    (fun fragment => absurd fragment different)

theorem Formed.queuePacket {answers : Answers} {buff : Bytes}
    {queued : Scheduler}
    (done : state.queuePacket answers lcid srcTcid buff = .ok queued) :
    queued.Formed := by
  have admitted := formed.admitPacket lcid srcTcid buff
  rcases queuePacket_spec done with rfl | rfl
  · exact admitted
  · exact admitted.recalc

theorem Formed.withUsed (used : Nat) :
    ({ state with sendNotAckPktCnt := used } : Scheduler).Formed :=
  { formed with }

section

variable (answers : Answers)

theorem Formed.returnCredit (connHandle numCompletedPackets : Nat) :
    (state.returnCredit answers connHandle numCompletedPackets).Formed := by
  have assigned := (formed.withUsed (schedSub state.sendNotAckPktCnt
    numCompletedPackets)).continueAssign answers
  exact (assigned.modifyBufferNode _ (by intro; rfl) connHandle).recalc

theorem Formed.connect (connHandle : Nat) :
    (state.connectCbk answers connHandle).Formed := by
  unfold connectCbk
  split
  · exact formed
  next absent =>
    split
    · apply Formed.recalc
      exact ⟨formed.queues, nodup_append_singleton formed.links
        (lookup_eq_none.mp absent), formed.buffers⟩
    · exact formed

theorem Formed.disconnect (connHandle : Nat) :
    (state.disconnectCbk answers connHandle).Formed := by
  unfold disconnectCbk
  split
  · exact formed
  next node found =>
    have assigned := (formed.withUsed (schedSub state.sendNotAckPktCnt
      node.sendNotAckPktCnt)).continueAssign answers
    apply Formed.recalc
    exact ⟨assigned.queues,
      assigned.links.sublist (remove_sublist.map _), assigned.buffers⟩

end

end

def closedNodes (lcid srcTcid : Nat) (node : LcidNode)
    (channel : ChannelNode) (nodes : List LcidNode) : List LcidNode :=
  let channels := remove ChannelNode.srcTcid srcTcid node.channelList
  if channels.isEmpty then remove LcidNode.lcid lcid nodes
  else modify LcidNode.lcid lcid
    (fun node => { node with
      pktCnt := schedSub node.pktCnt channel.pktList.length
      channelList := channels }) nodes

/-- What `DTAP_ChannelDownProc` does. -/
inductive DownOutcome (priority : Priority) (lcid srcTcid : Nat)
    (state : Scheduler) : Scheduler → Prop
  | untouched : DownOutcome priority lcid srcTcid state state
  | emptied {node : LcidNode} (found : state.getLcidNode priority lcid = some node)
      (none : node.channelList = []) :
      DownOutcome priority lcid srcTcid state
        (state.setQueue priority { state.queue priority with
          lcidList := remove LcidNode.lcid lcid
            (state.queue priority).lcidList })
  | closed {node : LcidNode} {channel : ChannelNode}
      (found : state.getLcidNode priority lcid = some node)
      (listed : lookup ChannelNode.srcTcid srcTcid node.channelList =
        some channel) :
      DownOutcome priority lcid srcTcid state (state.setQueue priority
            { lcidList := closedNodes lcid srcTcid node channel
                (state.queue priority).lcidList
              pktCnt := schedSub (state.queue priority).pktCnt
                channel.pktList.length }
          |>.modifyBufferNode lcid (fun buffer => { buffer with
            queuedPktCnt :=
              schedSub buffer.queuedPktCnt channel.pktList.length })
          |>.note (((state.getLcidBufferNode lcid).map fun buffer =>
                Trace.sub buffer.queuedPktCnt channel.pktList.length).toList ++
              [.sub node.pktCnt channel.pktList.length,
                .sub (state.queue priority).pktCnt channel.pktList.length]))

theorem channelDownProc_outcome (priority : Priority) (lcid srcTcid : Nat)
    (state : Scheduler) :
    DownOutcome priority lcid srcTcid state
      (state.channelDownProc priority lcid srcTcid) := by
  unfold Scheduler.channelDownProc
  split
  · exact .untouched
  next node found =>
    split
    · split
      next empty =>
        exact .emptied found (by simpa using empty)
      · exact .untouched
    next channel listed =>
      exact .closed found listed

section

variable (formed : state.Formed)
include formed

theorem Formed.closedNodes (found : state.getLcidNode priority lcid = some node)
    (listed : lookup ChannelNode.srcTcid srcTcid node.channelList =
      some channel) :
    ({ lcidList := Scheduler.closedNodes lcid srcTcid node channel
         (state.queue priority).lcidList
       pktCnt := schedSub (state.queue priority).pktCnt
         channel.pktList.length } : PriorityQueue).Formed priority := by
  obtain ⟨good, enough, last⟩ := (formed.listed found).closed listed
  have total := (formed.queues priority).counted
  have part := weight_le_sum LcidNode.pktCnt found
  unfold Scheduler.closedNodes
  dsimp only
  split
  next empty =>
    have count := last (by simpa using empty)
    apply (formed.queues priority).removed found
    rw [schedSub_eq]
    omega
  · apply (formed.queues priority).modified _ _ found (by intro; rfl) good
    simp only [schedSub_eq]
    omega

theorem Formed.channelDownProc (priority : Priority) (lcid srcTcid : Nat) :
    (state.channelDownProc priority lcid srcTcid).Formed := by
  have outcome := channelDownProc_outcome priority lcid srcTcid state
  generalize state.channelDownProc priority lcid srcTcid = result at outcome ⊢
  cases outcome with
  | untouched => exact formed
  | @emptied node found none =>
    apply formed.setQueue
    apply (formed.queues priority).removed found
    rw [(formed.listed found).counted, LcidNode.total, none]
    rfl
  | @closed node channel found listed =>
    have counted := (formed.setQueue
      (formed.closedNodes found listed)).modifyBufferNode
        (fun buffer => { buffer with
          queuedPktCnt :=
            schedSub buffer.queuedPktCnt channel.pktList.length })
        (fun _ => rfl) lcid
    exact { counted with }

theorem Formed.step (input : Input) :
    (state.step input).Formed := by
  obtain ⟨event, answers⟩ := input
  cases event with
  | dataSend lcid srcTcid buff =>
    exact (kept_formed answers).dataSend formed fun _ done =>
      formed.queuePacket done
  | sendComplete connHandle numCompletedPackets =>
    exact (kept_formed answers).sendComplete formed fun _ _ =>
      formed.returnCredit answers connHandle numCompletedPackets
  | connect connHandle => exact formed.connect answers connHandle
  | disconnect connHandle => exact formed.disconnect answers connHandle
  | setApBufferNum bufferNum => exact formed.setApBufferNum bufferNum
  | dataNumChange isAcb dataNum =>
    unfold Scheduler.step dataNumChangecbk
    dsimp only
    split
    · exact (formed.setApBufferNum dataNum).continueAssign answers
    · exact formed
  | channelDown lcid srcTcid =>
    exact channelDown_rule (fun _ priority srcTcid formed =>
      formed.channelDownProc priority lcid srcTcid) srcTcid formed

end

def SameQueues (state next : Scheduler) : Prop :=
  next.queue = state.queue ∧ next.pdFlag = state.pdFlag ∧
    next.trace = state.trace

section

variable (answers : Answers)
include answers

theorem sameQueues_continueAssign (state : Scheduler) :
    SameQueues state (state.continueAssignTransBuffer answers) := by
  unfold continueAssignTransBuffer
  split <;> exact ⟨rfl, rfl, rfl⟩

section

variable (connHandle : Nat) (state : Scheduler)

theorem sameQueues_connect :
    SameQueues state (state.connectCbk answers connHandle) := by
  unfold connectCbk
  split
  · exact ⟨rfl, rfl, rfl⟩
  · split <;> exact ⟨rfl, rfl, rfl⟩

theorem sameQueues_disconnect :
    SameQueues state (state.disconnectCbk answers connHandle) := by
  unfold disconnectCbk
  split
  · exact ⟨rfl, rfl, rfl⟩
  · exact sameQueues_continueAssign answers { state with
      sendNotAckPktCnt := _ }

end

theorem sameQueues_returnCredit (connHandle numCompletedPackets : Nat)
    (state : Scheduler) : SameQueues state
      (state.returnCredit answers connHandle numCompletedPackets) :=
  sameQueues_continueAssign answers { state with sendNotAckPktCnt := _ }

end

def linkQueue (state : Scheduler) (priority : Priority) (lcid : Nat) :
    Option (Nat × List ChannelNode) :=
  (state.getLcidNode priority lcid).map fun node =>
    (node.pktCnt, node.channelList)

theorem lcidPktCnt_eq (state : Scheduler) (priority : Priority) (lcid : Nat) :
    state.lcidPktCnt priority lcid =
      ((state.linkQueue priority lcid).map Prod.fst).getD 0 := by
  unfold lcidPktCnt linkQueue
  cases state.getLcidNode priority lcid <;> rfl

structure OnlyLink (priority : Priority) (lcid : Nat)
    (state next : Scheduler) : Prop where
  queues : ∀ other link, other ≠ priority ∨ link ≠ lcid →
    next.linkQueue other link = state.linkQueue other link
  buffers : ∀ link, link ≠ lcid →
    next.getLcidBufferNode link = state.getLcidBufferNode link

theorem linkQueue_setQueue (priority : Priority) (queue : PriorityQueue)
    (state : Scheduler) (lcid : Nat) :
    (state.setQueue priority queue).linkQueue priority lcid =
      (lookup LcidNode.lcid lcid queue.lcidList).map fun node =>
        (node.pktCnt, node.channelList) := by
  unfold linkQueue getLcidNode
  rw [queue_setQueue]

theorem linkQueue_setQueue_ne (differs : other ≠ priority)
    (queue : PriorityQueue) (state : Scheduler) (lcid : Nat) :
    (state.setQueue priority queue).linkQueue other lcid =
      state.linkQueue other lcid := by
  unfold linkQueue getLcidNode
  rw [queue_setQueue_ne differs]

theorem onlyLink_setQueue {queue : PriorityQueue}
    (others : ∀ link, link ≠ lcid → lookup LcidNode.lcid link queue.lcidList =
        state.getLcidNode priority link) :
    OnlyLink priority lcid state (state.setQueue priority queue) where
  queues other link differs := by
    by_cases same : other = priority
    · subst same
      have elsewhere := differs.resolve_left fun differs => differs rfl
      rw [linkQueue_setQueue, others link elsewhere]
      rfl
    · rw [linkQueue_setQueue_ne same]
  buffers _ _ := rfl

theorem OnlyLink.modifyBufferNode (only : OnlyLink priority lcid state next)
    (change : BufferNode → BufferNode)
    (keeps : ∀ node, (change node).lcid = node.lcid) :
    OnlyLink priority lcid state (next.modifyBufferNode lcid change) where
  queues := only.queues
  buffers link differs := by
    rw [getLcidBufferNode_modify_ne keeps differs]
    exact only.buffers link differs

theorem OnlyLink.note (only : OnlyLink priority lcid state next)
    (events : List Trace) : OnlyLink priority lcid state (next.note events) :=
  ⟨only.queues, only.buffers⟩

theorem onlyLink_pop (priority : Priority) (lcid srcTcid : Nat)
    (state : Scheduler) :
    OnlyLink priority lcid state
      (state.priorityQueuePop priority lcid srcTcid) := by
  apply OnlyLink.note
  apply OnlyLink.modifyBufferNode
  · apply onlyLink_setQueue
    intro link differs
    exact lookup_modify_ne (by intro; rfl) differs
  · exact fun _ => rfl

theorem linkQueue_pop (found : state.getLcidNode priority lcid = some node)
    (srcTcid : Nat) :
    (state.priorityQueuePop priority lcid srcTcid).linkQueue priority lcid =
      some ((node.popped srcTcid).pktCnt,
        (node.popped srcTcid).channelList) := by
  change (state.setQueue priority _).linkQueue priority lcid = _
  rw [linkQueue_setQueue]
  rw [lookup_modify_self]
  · rw [show lookup LcidNode.lcid lcid (state.queue priority).lcidList =
      some node from found]
    rfl
  · exact fun _ => rfl

theorem onlyLink_enqueue (priority : Priority) (lcid srcTcid : Nat)
    (packets : List PendingPacket) (state : Scheduler) :
    OnlyLink priority lcid state
      (state.enqueue priority lcid srcTcid packets) := by
  apply OnlyLink.modifyBufferNode
  · apply onlyLink_setQueue
    intro link differs
    rw [lookup_modify_ne _ differs, lookup_ensure_ne
      (show (LcidNode.fresh lcid).lcid = lcid from rfl) differs]
    · rfl
    · exact fun _ => rfl
  · exact fun _ => rfl

theorem linkQueue_enqueue (priority : Priority) (lcid srcTcid : Nat)
    (packets : List PendingPacket) (state : Scheduler) :
    let node := ((state.getLcidNode priority lcid).getD
      (LcidNode.fresh lcid)).admitted srcTcid packets
    (state.enqueue priority lcid srcTcid packets).linkQueue priority lcid =
      some (node.pktCnt, node.channelList) := by
  change (state.setQueue priority _).linkQueue priority lcid = _
  rw [linkQueue_setQueue]
  rw [lookup_modify_self, lookup_ensure_self
    (show (LcidNode.fresh lcid).lcid = lcid from rfl)]
  · rfl
  · exact fun _ => rfl

theorem DownOutcome.onlyLink
    (outcome : DownOutcome priority lcid srcTcid state next) :
    OnlyLink priority lcid state next := by
  cases outcome with
  | untouched => exact ⟨fun _ _ _ => rfl, fun _ _ => rfl⟩
  | emptied =>
    apply onlyLink_setQueue
    intro link differs
    exact lookup_remove_ne differs
  | closed =>
    apply OnlyLink.note
    apply OnlyLink.modifyBufferNode
    · apply onlyLink_setQueue
      intro link differs
      dsimp only [Scheduler.closedNodes]
      split
      · exact lookup_remove_ne differs
      · exact lookup_modify_ne (by intro; rfl) differs
    · exact fun _ => rfl

theorem Formed.lcidPktCnt_closed (formed : state.Formed) (queue : PriorityQueue)
    (found : state.getLcidNode priority lcid = some node)
    (listed : lookup ChannelNode.srcTcid srcTcid node.channelList =
      some channel)
    (replaced : queue.lcidList = Scheduler.closedNodes lcid srcTcid node
      channel (state.queue priority).lcidList) :
    (state.setQueue priority queue).lcidPktCnt priority lcid =
      node.pktCnt - channel.pktList.length := by
  obtain ⟨-, -, last⟩ := (formed.listed found).closed listed
  rw [lcidPktCnt_eq, linkQueue_setQueue, replaced]
  unfold Scheduler.closedNodes
  dsimp only
  split
  next empty =>
    have count := last (by simpa using empty)
    rw [lookup_remove_self (formed.queues priority).lcids, count, Nat.sub_self]
    rfl
  · rw [lookup_modify_self]
    · rw [show lookup LcidNode.lcid lcid (state.queue priority).lcidList =
        some node from found]
      exact schedSub_eq _ _
    · exact fun _ => rfl

theorem linkQueue_mark (priority other : Priority) (lcid link : Nat)
    (state : Scheduler) :
    (state.markScheduled priority lcid).linkQueue other link =
      state.linkQueue other link := by
  unfold markScheduled
  by_cases same : other = priority
  · subst same
    rw [linkQueue_setQueue]
    by_cases named : link = lcid
    · subst named
      rw [lookup_modify_self]
      · rw [Option.map_map]
        rfl
      · exact fun _ => rfl
    · rw [lookup_modify_ne _ named]
      · rfl
      · exact fun _ => rfl
  · rw [linkQueue_setQueue_ne same]

theorem Formed.linkQueue_rotate (formed : state.Formed)
    (priority other : Priority) (link : Nat) :
    (state.rotateScheduled priority).linkQueue other link =
      state.linkQueue other link := by
  by_cases same : other = priority
  · subst same
    have permuted := rotateScheduled_perm other state
    have unique : (((state.queue other).lcidList.map fun node =>
        { node with hasScheduled := false }).map LcidNode.lcid).Nodup := by
      rw [map_map]
      exact (formed.queues other).lcids
    unfold linkQueue getLcidNode
    rw [lookup_perm permuted unique, lookup_map, Option.map_map]
    · rfl
    · exact fun _ => rfl
  · unfold rotateScheduled
    rw [linkQueue_setQueue_ne same]

end NearLink.Dtap.Scheduler
