import NearLink.Dtap.SchedulerFormed

/-!
# Controller credit

The scheduler counts the fragments the controller has not acknowledged twice:
for each link and for all links together.  The two counts drift apart exactly
when the controller acknowledges more fragments of a link than the link has
outstanding while other links have some too: `DTAP_SendCompleteCbk` subtracts
the reported number from both counters and saturates each on its own.
-/

namespace NearLink.Dtap

/-- A call of `DLI_DataSend` was made with credit, and counting it does not
wrap. -/
def Post.Backed (post : Post) : Prop :=
  post.sendNotAckPktCnt < post.apBufferNum ∧
    post.linkNotAckPktCnt < post.quota ∧ post.sendNotAckPktCnt + 1 < 2 ^ 8

namespace Scheduler

open Sdf Dli Keyed Transition List Option

def linksNotAck (state : Scheduler) : Nat :=
  (state.lcidBufferList.map BufferNode.sendNotAckPktCnt).sum

structure CreditConserved (state : Scheduler) : Prop where
  total : state.sendNotAckPktCnt = state.linksNotAck
  backed : ∀ post, Trace.post post ∈ state.trace → post.Backed

/-- The controller does not acknowledge more fragments of a link than the link
has outstanding, unless no other link has any. -/
def AcknowledgesSent (state : Scheduler) (input : Input) : Prop :=
  match input.event with
  | .sendComplete connHandle numCompletedPackets =>
    ∀ node, state.getLcidBufferNode connHandle = some node →
      numCompletedPackets ≤ node.sendNotAckPktCnt ∨
        state.sendNotAckPktCnt = node.sendNotAckPktCnt
  | _ => True

structure Balance (gain debt : Nat) (state : Scheduler) : Prop where
  formed : state.Formed
  counts : state.sendNotAckPktCnt + debt = state.linksNotAck + gain
  backed : ∀ post, Trace.post post ∈ state.trace → post.Backed

variable {answers : Answers} {state : Scheduler} {lcid : Nat}

theorem linksNotAck_modify {change : BufferNode → BufferNode} (keeps : ∀ node,
      (change node).sendNotAckPktCnt = node.sendNotAckPktCnt)
    (lcid : Nat) (state : Scheduler) :
    (state.modifyBufferNode lcid change).linksNotAck =
      state.linksNotAck := by
  unfold linksNotAck modifyBufferNode
  rw [map_modify keeps]

section

variable (priority : Priority) (lcid srcTcid : Nat)

theorem linksNotAck_pop (state : Scheduler) :
    (state.priorityQueuePop priority lcid srcTcid).linksNotAck =
      state.linksNotAck :=
  linksNotAck_modify (by intro; rfl) lcid (state.setQueue priority _)

theorem linksNotAck_enqueue (packets : List PendingPacket) (state : Scheduler) :
    (state.enqueue priority lcid srcTcid packets).linksNotAck =
      state.linksNotAck :=
  linksNotAck_modify (by intro; rfl) lcid (state.setQueue priority _)

end

theorem linksNotAck_recalc (state : Scheduler) :
    state.recalcLcidQuota.linksNotAck = state.linksNotAck := by
  unfold linksNotAck
  rw [map_recalcLcidQuota BufferNode.sendNotAckPktCnt fun _ => rfl]

theorem linksNotAck_continueAssign (answers : Answers) (state : Scheduler) :
    (state.continueAssignTransBuffer answers).linksNotAck =
      state.linksNotAck := by
  unfold continueAssignTransBuffer
  split
  · rfl
  · exact linksNotAck_recalc _

theorem takeCredit_links (can : state.canSend lcid = true) :
    (state.takeCredit lcid).linksNotAck = state.linksNotAck + 1 := by
  obtain ⟨node, found⟩ := isSome_iff_exists.mp (isSome_of_canSend can)
  have sum := sum_modify BufferNode.sendNotAckPktCnt (fun node => { node with
    sendNotAckPktCnt := node.sendNotAckPktCnt + 1 }) found
  simp only [linksNotAck, takeCredit, modifyBufferNode] at sum ⊢
  omega

theorem backed_note {trace notes : List Trace}
    (silent : ∀ post, Trace.post post ∉ notes)
    (backed : ∀ post, Trace.post post ∈ trace → post.Backed) :
    ∀ post, Trace.post post ∈ trace ++ notes → post.Backed := by
  intro post member
  rcases mem_append.mp member with earlier | last
  · exact backed post earlier
  · exact absurd last (silent post)

theorem sendData_backed (formed : state.Formed)
    (can : state.canSend lcid = true) (isSplited : Bool) (fragment : Fragment)
    (backed : ∀ post, Trace.post post ∈ state.trace → post.Backed) :
    ∀ post, Trace.post post ∈
      (state.sendData answers isSplited lcid fragment).2.trace →
        post.Backed := by
  intro post member
  rcases mem_append.mp member with earlier | last
  · exact backed post earlier
  · obtain ⟨free, used, quota, credit, left⟩ := canSend_iff.mp can
    have small := formed.buffers
    unfold linkCredit at credit
    rw [map_eq_some_iff] at credit
    obtain ⟨node, found, same⟩ := credit
    cases same
    cases mem_singleton.mp last
    simp only [Post.Backed, found, map_some, getD_some]
    omega

theorem kept_balance (answers : Answers) (gain debt : Nat) :
    Kept answers (Balance gain debt) where
  sendData isSplited fragment balance can :=
    ⟨(kept_formed answers).sendData isSplited fragment balance.formed can,
      balance.counts,
      sendData_backed balance.formed can isSplited fragment balance.backed⟩
  takeCredit balance can := by
    have used := balance.formed.takeCredit_used can
    have links := takeCredit_links can
    refine ⟨(kept_formed answers).takeCredit balance.formed can, ?_,
      balance.backed⟩
    have counts := balance.counts
    omega
  split pdFlag balance :=
    ⟨(kept_formed answers).split pdFlag balance.formed, balance.counts,
      balance.backed⟩
  pop balance found peeked present := by
    refine ⟨balance.formed.pop found peeked, ?_, ?_⟩
    · rw [linksNotAck_pop]
      exact balance.counts
    · exact backed_note (by simp) balance.backed
  save fragments balance stopped := by
    refine ⟨(kept_formed answers).save fragments balance.formed stopped, ?_,
      balance.backed⟩
    rw [linksNotAck_enqueue]
    exact balance.counts
  noPacket balance found counted peeked := by
    refine ⟨(kept_formed answers).noPacket balance.formed found counted peeked,
      balance.counts, ?_⟩
    exact backed_note (by simp) balance.backed
  mark priority lcid balance :=
    ⟨balance.formed.mark priority lcid, balance.counts, balance.backed⟩
  rotate priority balance :=
    ⟨balance.formed.rotate priority, balance.counts, balance.backed⟩

variable {gain debt : Nat}

theorem Balance.queuePacket {srcTcid : Nat} {buff : Bytes} {queued : Scheduler}
    (balance : state.Balance gain debt)
    (done : state.queuePacket answers lcid srcTcid buff = .ok queued) :
    queued.Balance gain debt := by
  refine ⟨balance.formed.queuePacket done, ?_, ?_⟩
  · rcases queuePacket_spec done with rfl | rfl
    · rw [linksNotAck_enqueue]
      exact balance.counts
    · rw [linksNotAck_recalc, linksNotAck_enqueue]
      exact balance.counts
  · rcases queuePacket_spec done with rfl | rfl <;> exact balance.backed

section

variable {node : BufferNode} (found : state.getLcidBufferNode lcid = some node)
include found

/-- Lowering the count of all links and calling the collaboration service
leaves the node of a link and the counts of the links alone. -/
theorem continueAssign_lowered (answers : Answers) (used : Nat) :
    let assigned := ({ state with sendNotAckPktCnt := used } :
      Scheduler).continueAssignTransBuffer answers
    assigned.sendNotAckPktCnt = used ∧ assigned.trace = state.trace ∧
      assigned.linksNotAck = state.linksNotAck ∧
      ∃ kept, assigned.getLcidBufferNode lcid = some kept ∧
        kept.sendNotAckPktCnt = node.sendNotAckPktCnt := by
  have stored := map_getLcidBufferNode_continueAssign
    BufferNode.sendNotAckPktCnt (fun _ => rfl) answers
    { state with sendNotAckPktCnt := used } lcid
  rw [show ({ state with sendNotAckPktCnt := used } :
      Scheduler).getLcidBufferNode lcid = some node from found,
    map_some, map_eq_some_iff] at stored
  obtain ⟨kept, keptFound, counted⟩ := stored
  obtain ⟨lower, trace⟩ := continueAssign_used answers
    { state with sendNotAckPktCnt := used }
  exact ⟨lower, trace, linksNotAck_continueAssign _ _, kept, keptFound, counted⟩

theorem returnCredit_counts (answers : Answers) (numCompletedPackets : Nat) :
    let returned := state.returnCredit answers lcid numCompletedPackets
    returned.sendNotAckPktCnt = state.sendNotAckPktCnt - numCompletedPackets ∧
      returned.linksNotAck + node.sendNotAckPktCnt =
        state.linksNotAck + (node.sendNotAckPktCnt - numCompletedPackets) ∧
      returned.trace = state.trace := by
  obtain ⟨lower, trace, links, kept, keptFound, counted⟩ :=
    continueAssign_lowered found answers
      (schedSub state.sendNotAckPktCnt numCompletedPackets)
  have sum := sum_modify BufferNode.sendNotAckPktCnt (fun node => { node with
    sendNotAckPktCnt := schedSub node.sendNotAckPktCnt numCompletedPackets })
    keptFound
  refine ⟨lower.trans (schedSub_eq _ _), ?_, trace⟩
  unfold returnCredit
  rw [linksNotAck_recalc]
  simp only [linksNotAck, modifyBufferNode, schedSub_eq] at sum links ⊢
  omega

theorem disconnect_counts (answers : Answers) :
    let gone := state.disconnectCbk answers lcid
    gone.sendNotAckPktCnt = state.sendNotAckPktCnt - node.sendNotAckPktCnt ∧
      gone.linksNotAck + node.sendNotAckPktCnt = state.linksNotAck ∧
      gone.trace = state.trace := by
  obtain ⟨lower, trace, links, kept, keptFound, counted⟩ :=
    continueAssign_lowered found answers
      (schedSub state.sendNotAckPktCnt node.sendNotAckPktCnt)
  have sum := sum_remove BufferNode.sendNotAckPktCnt keptFound
  unfold disconnectCbk
  rw [found]
  refine ⟨lower.trans (schedSub_eq _ _), ?_, trace⟩
  rw [linksNotAck_recalc]
  simp only [linksNotAck] at links ⊢
  omega

end

theorem Balance.disconnect (balance : state.Balance 0 0) (answers : Answers)
    (connHandle : Nat) :
    (state.disconnectCbk answers connHandle).Balance 0 0 := by
  cases found : state.getLcidBufferNode connHandle with
  | none =>
    unfold disconnectCbk
    rw [found]
    exact balance
  | some node =>
    obtain ⟨used, links, trace⟩ := disconnect_counts found answers
    refine ⟨balance.formed.disconnect answers connHandle, ?_, ?_⟩
    · have counts := balance.counts
      omega
    · rw [trace]
      exact balance.backed

section

variable (balance : state.Balance gain debt)
include balance

theorem Balance.connect (answers : Answers) (connHandle : Nat) :
    (state.connectCbk answers connHandle).Balance gain debt := by
  refine ⟨balance.formed.connect answers connHandle, ?_, ?_⟩
  · unfold connectCbk
    split
    · exact balance.counts
    · split
      · rw [linksNotAck_recalc]
        simp only [linksNotAck, map_append, sum_append,
          map_singleton, sum_singleton]
        exact balance.counts
      · exact balance.counts
  · unfold connectCbk
    split
    · exact balance.backed
    · split <;> exact balance.backed

theorem Balance.setApBufferNum (bufferNum : Nat) :
    (state.setApBufferNum bufferNum).Balance gain debt := by
  refine ⟨balance.formed.setApBufferNum bufferNum, ?_, balance.backed⟩
  unfold Scheduler.setApBufferNum
  rw [linksNotAck_recalc]
  exact balance.counts

theorem Balance.continueAssign (answers : Answers) :
    (state.continueAssignTransBuffer answers).Balance gain debt := by
  unfold continueAssignTransBuffer
  split
  · exact balance
  · exact balance.setApBufferNum _

theorem Balance.channelDownProc (priority : Priority) (lcid srcTcid : Nat) :
    (state.channelDownProc priority lcid srcTcid).Balance gain debt := by
  have formed := balance.formed.channelDownProc priority lcid srcTcid
  have outcome := channelDownProc_outcome priority lcid srcTcid state
  generalize state.channelDownProc priority lcid srcTcid = result
    at outcome formed ⊢
  cases outcome with
  | untouched => exact balance
  | emptied => exact ⟨formed, balance.counts, balance.backed⟩
  | @closed node channel =>
    refine ⟨formed, ?_, backed_note (by simp) balance.backed⟩
    have links := linksNotAck_modify
      (show ∀ buffer : BufferNode, ({ buffer with
        queuedPktCnt := schedSub buffer.queuedPktCnt
          channel.pktList.length } : BufferNode).sendNotAckPktCnt =
            buffer.sendNotAckPktCnt from fun _ => rfl) lcid state
    exact balance.counts.trans (congrArg (· + gain) links.symm)

end

section

variable (balance : state.Balance 0 0) (input : Input)
include balance

theorem Balance.step (acknowledges : state.AcknowledgesSent input) :
    (state.step input).Balance 0 0 := by
  obtain ⟨event, answers⟩ := input
  cases event with
  | dataSend lcid srcTcid buff =>
    exact (kept_balance answers 0 0).dataSend balance fun _ done =>
      balance.queuePacket done
  | sendComplete connHandle numCompletedPackets =>
    apply (kept_balance answers 0 0).sendComplete balance
    intro node found
    obtain ⟨used, links, trace⟩ :=
      returnCredit_counts found answers numCompletedPackets
    refine ⟨balance.formed.returnCredit _ _ _, ?_, ?_⟩
    · have enough := acknowledges node found
      have counts := balance.counts
      omega
    · rw [trace]
      exact balance.backed
  | connect connHandle => exact balance.connect answers connHandle
  | disconnect connHandle => exact balance.disconnect answers connHandle
  | setApBufferNum bufferNum => exact balance.setApBufferNum bufferNum
  | dataNumChange isAcb dataNum =>
    unfold Scheduler.step dataNumChangecbk
    dsimp only
    split
    · exact (balance.setApBufferNum dataNum).continueAssign answers
    · exact balance
  | channelDown lcid srcTcid =>
    exact channelDown_rule (fun _ priority srcTcid balance =>
      balance.channelDownProc priority lcid srcTcid) srcTcid balance

theorem Balance.acknowledges (conserved : (state.step input).CreditConserved) :
    state.AcknowledgesSent input := by
  obtain ⟨event, answers⟩ := input
  cases event with
  | sendComplete connHandle numCompletedPackets =>
    intro node found
    obtain ⟨used, links, trace⟩ :=
      returnCredit_counts found answers numCompletedPackets
    -- the run that follows keeps the difference of the counts
    have started : (state.returnCredit answers connHandle
        numCompletedPackets).Balance _ _ :=
      ⟨balance.formed.returnCredit _ _ _, Nat.add_comm _ _, by
        rw [trace]
        exact balance.backed⟩
    have finished := ((kept_balance answers _ _).schedulerRun started).counts
    have total := conserved.total
    rw [step_sendComplete found] at total
    have counts := balance.counts
    omega
  | _ => trivial

end

theorem initial_balance : initial.Balance 0 0 where
  formed := initial_formed
  counts := rfl
  backed := nofun

/-- Credit is conserved in every state of a run exactly when no event of the
run acknowledges fragments of a link that are not outstanding while other links
have outstanding fragments. -/
theorem creditConserved_iff (inputs : List Input) :
    Always step CreditConserved initial inputs ↔
      Meets step AcknowledgesSent initial inputs := by
  have sound (state : Scheduler) (balance : state.Balance 0 0) :
      state.CreditConserved := ⟨balance.counts, balance.backed⟩
  exact always_iff_meets sound
    (fun _ input balance met => balance.step input met)
    (fun _ input balance conserved => balance.acknowledges input conserved)
    initial_balance

/-- Two links have one fragment outstanding each; the controller acknowledges
two of the first link. -/
def overAcknowledged : List Input :=
  [.setApBufferNum 4, .connect 1, .connect 2, .dataSend 1 0x20 [7],
    .dataSend 2 0x20 [8], .sendComplete 1 2].map
      fun event => ⟨event, .granted 10⟩

theorem creditConserved_fails :
    ¬ Always step CreditConserved initial overAcknowledged := by
  intro always
  have total := always.at_end.total
  revert total
  decide +kernel

end Scheduler

end NearLink.Dtap
