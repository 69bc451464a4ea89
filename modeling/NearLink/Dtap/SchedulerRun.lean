import NearLink.Dtap.SchedulerQueue

/-!
# What a scheduler run can do

A run of the scheduler is a sequence of a few actions: hand a fragment to the
device layer, take credit for it, take a packet from its queue, save the
fragments that are left, and reorder a queue.  A property that each of them
keeps is kept by the run.
-/

namespace NearLink.Dtap.Scheduler

open Sdf Dli Keyed

@[simp] theorem queue_setQueue (priority : Priority) (queue : PriorityQueue)
    (state : Scheduler) :
    (state.setQueue priority queue).queue priority = queue := by
  simp [setQueue]

variable {priority : Priority} {change : BufferNode → BufferNode}

theorem queue_setQueue_ne {other : Priority} (differs : other ≠ priority)
    (queue : PriorityQueue) (state : Scheduler) :
    (state.setQueue priority queue).queue other = state.queue other := by
  simp [setQueue, differs]

theorem getLcidBufferNode_modify_self
    (keeps : ∀ node, (change node).lcid = node.lcid) (lcid : Nat)
    (state : Scheduler) :
    (state.modifyBufferNode lcid change).getLcidBufferNode lcid =
      (state.getLcidBufferNode lcid).map change :=
  lookup_modify_self keeps

variable {lcid : Nat}

section

variable (keeps : ∀ node, (change node).lcid = node.lcid)
include keeps

theorem getLcidBufferNode_modify_ne {other : Nat} (differs : other ≠ lcid)
    (state : Scheduler) :
    (state.modifyBufferNode lcid change).getLcidBufferNode other =
      state.getLcidBufferNode other :=
  lookup_modify_ne keeps differs

theorem map_getLcidBufferNode_modify {Value : Type*} {view : BufferNode → Value}
    (spared : ∀ node, view (change node) = view node) (lcid other : Nat)
    (state : Scheduler) :
    ((state.modifyBufferNode lcid change).getLcidBufferNode other).map view =
      (state.getLcidBufferNode other).map view := by
  by_cases same : other = lcid
  · subst same
    rw [getLcidBufferNode_modify_self keeps]
    cases state.getLcidBufferNode other with
    | none => rfl
    | some node => simp [spared]
  · rw [getLcidBufferNode_modify_ne keeps same]

end

def credit (node : BufferNode) : Nat × Nat :=
  (node.sendNotAckPktCnt, node.quota)

/-- What `DTAP_CanSend` reads of a link. -/
def linkCredit (state : Scheduler) (lcid : Nat) : Option (Nat × Nat) :=
  (state.getLcidBufferNode lcid).map credit

theorem linkCredit_modify (keeps : ∀ node, (change node).lcid = node.lcid)
    (spared : ∀ node, credit (change node) = credit node) (lcid other : Nat)
    (state : Scheduler) :
    (state.modifyBufferNode lcid change).linkCredit other =
      state.linkCredit other :=
  map_getLcidBufferNode_modify keeps spared lcid other state

variable {state : Scheduler} {srcTcid : Nat}

theorem canSend_iff :
    state.canSend lcid = true ↔ state.sendNotAckPktCnt < state.apBufferNum ∧
        ∃ used quota, state.linkCredit lcid = some (used, quota) ∧
          used < quota := by
  unfold canSend linkCredit
  cases state.getLcidBufferNode lcid with
  | none => simp
  | some node =>
    by_cases full : state.sendNotAckPktCnt ≥ state.apBufferNum
    · simp [full, Nat.not_lt.mpr full]
    · simp [full, credit, Nat.lt_of_not_ge full]

theorem canSend_congr {next : Scheduler}
    (links : next.linkCredit lcid = state.linkCredit lcid)
    (used : next.sendNotAckPktCnt = state.sendNotAckPktCnt)
    (buffers : next.apBufferNum = state.apBufferNum) :
    next.canSend lcid = state.canSend lcid := by
  rw [Bool.eq_iff_iff, canSend_iff, canSend_iff, links, used, buffers]

theorem isSome_of_canSend (can : state.canSend lcid = true) :
    (state.getLcidBufferNode lcid).isSome = true := by
  unfold canSend at can
  cases found : state.getLcidBufferNode lcid with
  | none => simp [found] at can
  | some node => rfl

def enqueue (priority : Priority) (lcid srcTcid : Nat)
    (packets : List PendingPacket) (state : Scheduler) : Scheduler :=
  let queue := state.queue priority
  state.setQueue priority
      { lcidList := modify LcidNode.lcid lcid
          (LcidNode.admitted srcTcid packets)
          (ensure LcidNode.lcid lcid (LcidNode.fresh lcid) queue.lcidList)
        pktCnt := queue.pktCnt + packets.length }
    |>.modifyBufferNode lcid (fun node =>
      { node with queuedPktCnt := node.queuedPktCnt + packets.length })

theorem appendPackets_push {allocated : Bool} {packets : List PendingPacket}
    {pushed : Scheduler}
    (push : state.priorityQueuePush allocated priority lcid srcTcid
      packets.length = some pushed) :
    pushed.appendPackets priority lcid srcTcid packets =
      state.enqueue priority lcid srcTcid packets := by
  unfold priorityQueuePush at push
  split at push <;> cases push
  · unfold appendPackets enqueue
    dsimp only [modifyBufferNode, setQueue]
    rw [Function.update_self, Function.update_idem, modify_modify]
    · rfl
    · exact fun _ => rfl

theorem saveFragmentData_spec (answers : Answers) (lcid : Nat)
    (fragments : List Fragment) (state : Scheduler) :
    state.saveFragmentData answers lcid fragments =
      if answers.saveAlloc state.clock then
        (true, state.enqueue .fragment lcid fragmentTcid
          (fragments.map .splited))
      else (false, state) := by
  unfold saveFragmentData
  split
  · cases push : state.priorityQueuePush true .fragment lcid fragmentTcid
        fragments.length with
    | none => simp [priorityQueuePush] at push
    | some pushed =>
      dsimp only
      rw [appendPackets_push]
      rw [List.length_map]
      exact push
  · rfl

structure Kept (answers : Answers) (property : Scheduler → Prop) : Prop where
  sendData : ∀ {state lcid} (isSplited fragment), property state →
    state.canSend lcid = true →
    property (state.sendData answers isSplited lcid fragment).2
  takeCredit : ∀ {state lcid}, property state → state.canSend lcid = true →
    property (state.takeCredit lcid)
  split : ∀ {state} (pdFlag), property state → property { state with pdFlag }
  pop : ∀ {state priority lcid node srcTcid packet}, property state →
    state.getLcidNode priority lcid = some node →
    priorityQueuePeek node = some (srcTcid, packet) →
    (state.getLcidBufferNode lcid).isSome = true →
    property (state.priorityQueuePop priority lcid srcTcid)
  save : ∀ {state lcid} (fragments : List Fragment), property state →
    state.canSend lcid = false ∨ (∃ time, answers.dataSend false time = false) →
    property (state.enqueue .fragment lcid fragmentTcid
      (fragments.map .splited))
  noPacket : ∀ {state priority lcid node}, property state →
    state.getLcidNode priority lcid = some node →
    node.pktCnt ≠ 0 → priorityQueuePeek node = none →
    property (state.note [.noPacket])
  mark : ∀ {state} (priority lcid), property state →
    property (state.markScheduled priority lcid)
  rotate : ∀ {state} (priority), property state →
    property (state.rotateScheduled priority)

variable {answers : Answers} {property : Scheduler → Prop}

@[simp] theorem canSend_pop (priority : Priority) (lcid srcTcid other : Nat)
    (state : Scheduler) :
    (state.priorityQueuePop priority lcid srcTcid).canSend other =
      state.canSend other :=
  canSend_congr (linkCredit_modify (by intro; rfl) (by intro; rfl) lcid other
    (state.setQueue priority _)) rfl rfl

theorem sendFragments_queue (lcid : Nat) (fragments : List Fragment)
    (state : Scheduler) :
    (state.sendFragments answers lcid fragments).2.queue = state.queue := by
  induction fragments generalizing state with
  | nil => rfl
  | cons fragment fragments induction =>
    unfold sendFragments
    split
    · dsimp only
      split
      · rw [induction]
        rfl
      · rfl
    · rfl

theorem isSome_takeCredit (lcid other : Nat) (state : Scheduler) :
    ((state.takeCredit lcid).getLcidBufferNode other).isSome =
      (state.getLcidBufferNode other).isSome := by
  have named : ((state.takeCredit lcid).getLcidBufferNode other).map
      BufferNode.lcid = (state.getLcidBufferNode other).map BufferNode.lcid :=
    map_getLcidBufferNode_modify (by intro; rfl) (by intro; rfl) lcid other
      state
  rw [← Option.isSome_map, named, Option.isSome_map]

theorem sendFragments_isSome (lcid : Nat) (fragments : List Fragment)
    (state : Scheduler) (other : Nat) :
    ((state.sendFragments answers lcid fragments).2.getLcidBufferNode
      other).isSome = (state.getLcidBufferNode other).isSome := by
  induction fragments generalizing state with
  | nil => rfl
  | cons fragment fragments induction =>
    unfold sendFragments
    split
    · dsimp only
      split
      · rw [induction, isSome_takeCredit]
        rfl
      · rfl
    · rfl

theorem sendFragments_left {fragments : List Fragment}
    (left : (state.sendFragments answers lcid fragments).1 ≠ []) :
    (state.sendFragments answers lcid fragments).2.canSend lcid = false ∨
      ∃ time, answers.dataSend false time = false := by
  induction fragments generalizing state with
  | nil => exact absurd rfl left
  | cons fragment fragments induction =>
    unfold sendFragments at left ⊢
    split at left
    next can =>
      rw [if_pos can]
      dsimp only at left ⊢
      split at left
      next accepted =>
        rw [if_pos accepted]
        exact induction left
      next refused =>
        exact .inr ⟨state.clock, by simpa [sendData] using refused⟩
    next cannot =>
      rw [if_neg cannot]
      exact .inl (by simpa using cannot)

/-- What a round of the loop of `DTAP_ScheduleLcid` does. -/
inductive RoundOutcome (answers : Answers) (priority : Priority) (lcid : Nat)
    (state : Scheduler) : Round × Scheduler → Prop
  | empty (none : state.lcidPktCnt priority lcid = 0) :
      RoundOutcome answers priority lcid state (.done, state)
  | lost {node} (found : state.getLcidNode priority lcid = some node)
      (counted : node.pktCnt ≠ 0) (peeked : priorityQueuePeek node = none) :
      RoundOutcome answers priority lcid state (.done, state.note [.noPacket])
  | resumed {node srcTcid fragment}
      (found : state.getLcidNode priority lcid = some node)
      (peeked : priorityQueuePeek node = some (srcTcid, .splited fragment))
      (accepted : answers.dataSend true state.clock = true) :
      RoundOutcome answers priority lcid state
        (.again, ((state.sendData answers true lcid
          fragment).2.priorityQueuePop priority lcid srcTcid).takeCredit lcid)
  | refused {node srcTcid fragment}
      (found : state.getLcidNode priority lcid = some node)
      (peeked : priorityQueuePeek node = some (srcTcid, .splited fragment))
      (refusal : answers.dataSend true state.clock = false) :
      RoundOutcome answers priority lcid state
        (.failed, (state.sendData answers true lcid fragment).2)
  | unsplit {node srcTcid buff}
      (found : state.getLcidNode priority lcid = some node)
      (peeked : priorityQueuePeek node = some (srcTcid, .whole buff))
      (failed : answers.splitAlloc state.clock = false ∨
        splitData lcid answers.acbLen
          (getDataFragmentNums answers.acbLen buff) state.pdFlag buff = none) :
      RoundOutcome answers priority lcid state (.failed, state)
  | sent {node srcTcid buff fragments pdFlag}
      (found : state.getLcidNode priority lcid = some node)
      (peeked : priorityQueuePeek node = some (srcTcid, .whole buff))
      (split : splitData lcid answers.acbLen
        (getDataFragmentNums answers.acbLen buff) state.pdFlag buff =
          some (fragments, pdFlag))
      (all : (({ state with pdFlag } : Scheduler).sendFragments answers lcid
        fragments).1 = []) :
      RoundOutcome answers priority lcid state
        (.again, (({ state with pdFlag } : Scheduler).sendFragments answers
          lcid fragments).2.priorityQueuePop priority lcid srcTcid)
  | saved {node srcTcid buff fragments pdFlag}
      (found : state.getLcidNode priority lcid = some node)
      (peeked : priorityQueuePeek node = some (srcTcid, .whole buff))
      (split : splitData lcid answers.acbLen
        (getDataFragmentNums answers.acbLen buff) state.pdFlag buff =
          some (fragments, pdFlag))
      (left : (({ state with pdFlag } : Scheduler).sendFragments answers lcid
        fragments).1 ≠ []) :
      RoundOutcome answers priority lcid state
        (.done, ((({ state with pdFlag } : Scheduler).sendFragments answers
          lcid fragments).2.priorityQueuePop priority lcid srcTcid).enqueue
            .fragment lcid fragmentTcid
            ((({ state with pdFlag } : Scheduler).sendFragments answers lcid
              fragments).1.map .splited))
  | dropped {node srcTcid buff fragments pdFlag time}
      (found : state.getLcidNode priority lcid = some node)
      (peeked : priorityQueuePeek node = some (srcTcid, .whole buff))
      (split : splitData lcid answers.acbLen
        (getDataFragmentNums answers.acbLen buff) state.pdFlag buff =
          some (fragments, pdFlag))
      (left : (({ state with pdFlag } : Scheduler).sendFragments answers lcid
        fragments).1 ≠ [])
      (unsaved : answers.saveAlloc time = false) :
      RoundOutcome answers priority lcid state
        (.failed, (({ state with pdFlag } : Scheduler).sendFragments answers
          lcid fragments).2.priorityQueuePop priority lcid srcTcid)

theorem scheduleRound_whole {node : LcidNode} {buff : Bytes}
    (found : state.getLcidNode priority lcid = some node)
    (peeked : priorityQueuePeek node = some (srcTcid, .whole buff)) :
    RoundOutcome answers priority lcid state
      (state.scheduleRound answers priority lcid) := by
  unfold Scheduler.scheduleRound
  rw [found]
  dsimp only
  rw [peeked]
  dsimp only
  unfold splitPacket
  by_cases allocated : answers.splitAlloc state.clock = true
  · rw [if_pos allocated]
    cases split : splitData lcid answers.acbLen
        (getDataFragmentNums answers.acbLen buff) state.pdFlag buff with
    | none => exact .unsplit found peeked (.inr split)
    | some pieces =>
      obtain ⟨fragments, pdFlag⟩ := pieces
      dsimp only
      by_cases all : (({ state with pdFlag } : Scheduler).sendFragments
          answers lcid fragments).1 = []
      · rw [all]
        exact .sent found peeked split all
      · rw [if_neg (by simpa using all), saveFragmentData_spec]
        split
        · exact .saved found peeked split all
        next unsaved =>
          exact .dropped found peeked split all (by simpa using unsaved)
  · rw [if_neg allocated]
    exact .unsplit found peeked (.inl (by simpa using allocated))

theorem scheduleRound_outcome (answers : Answers) (priority : Priority)
    (lcid : Nat) (state : Scheduler) :
    RoundOutcome answers priority lcid state
      (state.scheduleRound answers priority lcid) := by
  cases found : state.getLcidNode priority lcid with
  | none =>
    unfold Scheduler.scheduleRound
    rw [found]
    exact .empty (by simp [lcidPktCnt, found])
  | some node =>
    cases peeked : priorityQueuePeek node with
    | none =>
      unfold Scheduler.scheduleRound
      rw [found]
      dsimp only
      rw [peeked]
      dsimp only
      split
      next none =>
        exact .empty (by simp [lcidPktCnt, found, none])
      next counted =>
        exact .lost found counted peeked
    | some first =>
      obtain ⟨srcTcid, packet⟩ := first
      cases packet with
      | whole buff => exact scheduleRound_whole found peeked
      | splited fragment =>
        unfold Scheduler.scheduleRound
        rw [found]
        dsimp only
        rw [peeked]
        dsimp only
        by_cases accepted : answers.dataSend true state.clock = true
        · rw [if_pos (show (state.sendData answers true lcid
            fragment).1 = true from accepted)]
          exact .resumed found peeked accepted
        · rw [if_neg (show ¬ (state.sendData answers true lcid
            fragment).1 = true from accepted)]
          exact .refused found peeked (by simpa using accepted)

namespace Kept

variable {state : Scheduler}

theorem sendFragments (kept : Kept answers property) {lcid : Nat}
    (fragments : List Fragment) (holds : property state) :
    property (state.sendFragments answers lcid fragments).2 := by
  induction fragments generalizing state with
  | nil => exact holds
  | cons fragment fragments induction =>
    unfold Scheduler.sendFragments
    split
    next can =>
      have sent := kept.sendData false fragment holds can
      dsimp only
      split
      · apply induction
        exact kept.takeCredit sent can
      · exact sent
    · exact holds

theorem scheduleRound (kept : Kept answers property) (priority : Priority)
    (lcid : Nat) (holds : property state) (can : state.canSend lcid = true) :
    property (state.scheduleRound answers priority lcid).2 := by
  have spared {node : LcidNode} {srcTcid : Nat} {packet : PendingPacket}
      {pdFlag : Option PdFlag} {fragments : List Fragment}
      (found : state.getLcidNode priority lcid = some node)
      (peeked : priorityQueuePeek node = some (srcTcid, packet)) :
      property ((({ state with pdFlag } : Scheduler).sendFragments answers
        lcid fragments).2.priorityQueuePop priority lcid srcTcid) := by
    apply kept.pop (kept.sendFragments fragments (kept.split pdFlag holds))
      _ peeked
    · rw [sendFragments_isSome]
      exact isSome_of_canSend can
    · unfold getLcidNode
      rw [sendFragments_queue]
      exact found
  have outcome := scheduleRound_outcome answers priority lcid state
  generalize state.scheduleRound answers priority lcid = result at outcome ⊢
  cases outcome with
  | lost found counted peeked => exact kept.noPacket holds found counted peeked
  | @resumed _ _ fragment found peeked =>
    have sent := kept.sendData true fragment holds can
    have popped := kept.pop sent found peeked (isSome_of_canSend can)
    exact kept.takeCredit popped ((canSend_pop ..).trans can)
  | refused => exact kept.sendData true _ holds can
  | sent found peeked => exact spared found peeked
  | saved found peeked split left =>
    apply kept.save _ (spared found peeked)
    rw [canSend_pop]
    exact sendFragments_left left
  | dropped found peeked => exact spared found peeked
  | _ => exact holds

end Kept

theorem scheduleLcid_rule
    (round : ∀ state, property state → state.canSend lcid = true →
      property (state.scheduleRound answers priority lcid).2) (rounds : Nat)
    (holds : property state) :
    property (state.scheduleLcid answers priority lcid rounds).2 := by
  induction rounds generalizing state with
  | zero => exact holds
  | succ rounds induction =>
    unfold scheduleLcid
    split
    next can =>
      have next := round state holds can
      split <;> rename_i result <;> rw [result] at next
      · exact induction next
      · exact next
      · exact next
    · exact holds

variable {priority : Priority} {numCompletedPackets connHandle : Nat}

theorem scheduleNodes_rule
    (round : ∀ lcid state, property state → state.canSend lcid = true →
      property (state.scheduleRound answers priority lcid).2)
    (mark : ∀ lcid state, property state →
      property (state.markScheduled priority lcid)) (lcids : List Nat)
    (holds : property state) :
    property (state.scheduleNodes answers priority lcids).2 := by
  induction lcids generalizing state with
  | nil => exact holds
  | cons lcid lcids induction =>
    unfold scheduleNodes
    split
    · have marked := mark lcid state holds
      have scheduled := scheduleLcid_rule (round lcid)
        (state.markScheduled priority lcid).freeBuffers marked
      dsimp only
      split <;> rename_i result <;> rw [result] at scheduled
      · exact scheduled
      · exact induction scheduled
    · exact induction holds

theorem runPriorities_rule {priorities : List Priority}
    (turn : ∀ priority ∈ priorities, ∀ state, property state →
      property (state.schedulePriority answers priority).2)
    (holds : property state) :
    property (state.runPriorities answers priorities) := by
  induction priorities generalizing state with
  | nil => exact holds
  | cons priority priorities induction =>
    have later := fun next (holds : property next) =>
      induction (fun other member =>
        turn other (.tail _ member)) holds
    have first := turn priority (by simp) state holds
    unfold runPriorities
    split_ifs
    · exact holds
    · exact later state holds
    · split <;> rename_i result <;> rw [result] at first
      · exact first
      · exact later _ first

section

variable (kept : Kept answers property)
include kept

theorem Kept.scheduleNodes (priority : Priority) (lcids : List Nat)
    (holds : property state) :
    property (state.scheduleNodes answers priority lcids).2 :=
  scheduleNodes_rule
    (fun lcid _ holds can => kept.scheduleRound priority lcid holds can)
    (fun lcid _ holds => kept.mark priority lcid holds) lcids holds

theorem Kept.schedulePriority (priority : Priority) (holds : property state) :
    property (state.schedulePriority answers priority).2 :=
  kept.rotate priority (kept.scheduleNodes priority _ holds)

theorem Kept.schedulerRun (holds : property state) :
    property (state.schedulerRun answers) :=
  runPriorities_rule (fun priority _ _ holds =>
    kept.schedulePriority priority holds) holds

theorem Kept.dataSend {srcTcid : Nat} {buff : Bytes} (holds : property state)
    (ready : ∀ queued,
      state.queuePacket answers lcid srcTcid buff = .ok queued →
        property queued) :
    property (state.step ⟨.dataSend lcid srcTcid buff, answers⟩) := by
  unfold step dataSendWithPriority
  dsimp only
  split
  · exact holds
  next queued done =>
    exact kept.schedulerRun (ready queued done)

end

theorem step_sendComplete {node : BufferNode}
    (found : state.getLcidBufferNode connHandle = some node) :
    state.step ⟨.sendComplete connHandle numCompletedPackets, answers⟩ =
      (state.returnCredit answers connHandle
        numCompletedPackets).schedulerRun answers := by
  unfold step sendCompleteCbk
  dsimp only
  rw [found]

theorem Kept.sendComplete (kept : Kept answers property)
    (holds : property state)
    (ready : ∀ node, state.getLcidBufferNode connHandle = some node →
      property (state.returnCredit answers connHandle numCompletedPackets)) :
    property (state.step
      ⟨.sendComplete connHandle numCompletedPackets, answers⟩) := by
  cases found : state.getLcidBufferNode connHandle with
  | none =>
    unfold step sendCompleteCbk
    dsimp only
    rw [found]
    exact holds
  | some node =>
    rw [step_sendComplete found]
    exact kept.schedulerRun (ready node found)

theorem channelDown_rule (proc : ∀ state priority srcTcid, property state →
      property (state.channelDownProc priority lcid srcTcid)) (srcTcid : Nat)
    (holds : property state) :
    property (state.channelDown lcid srcTcid) := by
  exact proc _ _ _ (proc _ _ _ (proc _ _ _ (proc _ _ _ holds)))

end NearLink.Dtap.Scheduler
