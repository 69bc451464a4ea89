import NearLink.Dtap.SchedulerFormed

/-!
# Packet accounting

The number of packets of a link is kept in the nodes of the queues and once
more in the buffer node of the link.  The queues always count right.  The
buffer node counts right exactly when it is created for a link that has nothing
queued: `DTAP_AddLcidBufferNode` starts it at zero.
-/

namespace NearLink.Dtap.Scheduler

open Sdf Dli Keyed Transition Option
open List hiding lookup lookup_append

def linkPktCnt (state : Scheduler) (lcid : Nat) : Nat :=
  state.lcidPktCnt .fragment lcid + state.lcidPktCnt .cmd lcid +
    state.lcidPktCnt .high lcid + state.lcidPktCnt .normal lcid

/-- All packet counters are exact and were exact whenever they were used. -/
structure Accounted (state : Scheduler) : Prop where
  queues : ∀ priority, (state.queue priority).pktCnt =
    ((state.queue priority).lcidList.map LcidNode.pktCnt).sum
  nodes : ∀ priority, ∀ node ∈ (state.queue priority).lcidList,
    node.pktCnt = (node.channelList.map (·.pktList.length)).sum
  lcids : ∀ priority, ((state.queue priority).lcidList.map LcidNode.lcid).Nodup
  links : ∀ buffer ∈ state.lcidBufferList,
    buffer.queuedPktCnt = state.linkPktCnt buffer.lcid
  /-- `DTAP_SCHED_SUB` did not saturate. -/
  subtractions : ∀ minuend subtrahend,
    Trace.sub minuend subtrahend ∈ state.trace → subtrahend ≤ minuend
  /-- `DTAP_PriorityQueuePeek` did not miss a packet that is counted. -/
  peeks : Trace.noPacket ∉ state.trace ∧
    ∀ priority, ∀ node ∈ (state.queue priority).lcidList,
      node.pktCnt ≠ 0 → priorityQueuePeek node ≠ none

/-- A buffer node is created only for a link that has no packet queued. -/
def ConnectsEmpty (state : Scheduler) (input : Input) : Prop :=
  match input.event with
  | .connect connHandle =>
    state.getLcidBufferNode connHandle = none →
      input.answers.bufferNodeAlloc = true → state.linkPktCnt connHandle = 0
  | _ => True

variable {answers : Answers} {state next : Scheduler}
  {priority : Priority} {lcid srcTcid : Nat} {node : LcidNode}

theorem lcidPktCnt_of_found
    (found : state.getLcidNode priority lcid = some node) :
    state.lcidPktCnt priority lcid = node.pktCnt := by
  simp [lcidPktCnt, found]

theorem lcidPktCnt_le_link (state : Scheduler) (priority : Priority)
    (lcid : Nat) :
    state.lcidPktCnt priority lcid ≤ state.linkPktCnt lcid := by
  unfold linkPktCnt
  cases priority <;> omega

theorem OnlyLink.linkPktCnt_ne {link : Nat}
    (only : OnlyLink priority lcid state next) (differs : link ≠ lcid) :
    next.linkPktCnt link = state.linkPktCnt link := by
  simp only [linkPktCnt, lcidPktCnt_eq, only.queues _ link (.inr differs)]

theorem OnlyLink.linkPktCnt (only : OnlyLink priority lcid state next) :
    next.linkPktCnt lcid + state.lcidPktCnt priority lcid =
      state.linkPktCnt lcid + next.lcidPktCnt priority lcid := by
  have same (other : Priority) (differs : other ≠ priority) :
      next.lcidPktCnt other lcid = state.lcidPktCnt other lcid := by
    rw [lcidPktCnt_eq, lcidPktCnt_eq, only.queues other lcid (.inl differs)]
  unfold Scheduler.linkPktCnt
  cases priority with
  | fragment =>
    rw [same .cmd nofun, same .high nofun, same .normal nofun]
    omega
  | cmd =>
    rw [same .fragment nofun, same .high nofun, same .normal nofun]
    omega
  | high =>
    rw [same .fragment nofun, same .cmd nofun, same .normal nofun]
    omega
  | normal =>
    rw [same .fragment nofun, same .cmd nofun, same .high nofun]
    omega

structure Tracked (state : Scheduler) : Prop where
  formed : state.Formed
  links : ∀ lcid buffer, state.getLcidBufferNode lcid = some buffer →
    buffer.queuedPktCnt = state.linkPktCnt lcid
  subtractions : ∀ minuend subtrahend,
    Trace.sub minuend subtrahend ∈ state.trace → subtrahend ≤ minuend
  peeks : Trace.noPacket ∉ state.trace

theorem Tracked.accounted (tracked : state.Tracked) : state.Accounted where
  queues priority := (tracked.formed.queues priority).counted
  nodes priority node member :=
    ((tracked.formed.queues priority).nodes node member).counted
  lcids priority := (tracked.formed.queues priority).lcids
  links buffer member :=
    tracked.links buffer.lcid buffer (lookup_of_mem tracked.formed.links member)
  subtractions := tracked.subtractions
  peeks := by
    refine ⟨tracked.peeks, ?_⟩
    intro priority node member counted missed
    have good := (tracked.formed.queues priority).nodes node member
    obtain ⟨srcTcid, packet, peeked⟩ := good.peek_of_counted counted
    rw [missed] at peeked
    cases peeked

theorem Tracked.links_only (change : BufferNode → BufferNode)
    (tracked : state.Tracked) (only : OnlyLink priority lcid state next)
    (buffers : next.getLcidBufferNode lcid =
      (state.getLcidBufferNode lcid).map change)
    (follows : ∀ buffer, state.getLcidBufferNode lcid = some buffer →
      (change buffer).queuedPktCnt + state.lcidPktCnt priority lcid =
        buffer.queuedPktCnt + next.lcidPktCnt priority lcid) :
    ∀ link buffer, next.getLcidBufferNode link = some buffer →
      buffer.queuedPktCnt = next.linkPktCnt link := by
  intro link buffer found
  by_cases same : link = lcid
  · subst same
    rw [buffers, map_eq_some_iff] at found
    obtain ⟨earlier, listed, rfl⟩ := found
    have before := tracked.links link earlier listed
    have moved := only.linkPktCnt
    have both := follows earlier listed
    omega
  · rw [only.buffers link same] at found
    rw [only.linkPktCnt_ne same]
    exact tracked.links link buffer found

theorem Tracked.links_same (tracked : state.Tracked)
    (queues : ∀ priority link, next.linkQueue priority link =
      state.linkQueue priority link)
    (buffers : ∀ link, (next.getLcidBufferNode link).map
        BufferNode.queuedPktCnt =
      (state.getLcidBufferNode link).map BufferNode.queuedPktCnt) :
    ∀ link buffer, next.getLcidBufferNode link = some buffer →
      buffer.queuedPktCnt = next.linkPktCnt link := by
  intro link buffer found
  have counted := buffers link
  rw [found, map_some, eq_comm, map_eq_some_iff] at counted
  obtain ⟨earlier, listed, same⟩ := counted
  rw [← same, tracked.links link earlier listed]
  simp only [linkPktCnt, lcidPktCnt_eq, queues]

theorem Tracked.pop {packet : PendingPacket} (tracked : state.Tracked)
    (found : state.getLcidNode priority lcid = some node)
    (peeked : priorityQueuePeek node = some (srcTcid, packet))
    (present : (state.getLcidBufferNode lcid).isSome = true) :
    (state.priorityQueuePop priority lcid srcTcid).Tracked := by
  obtain ⟨-, counted⟩ := (tracked.formed.listed found).popped peeked
  have total := (tracked.formed.queues priority).counted
  have part := weight_le_sum LcidNode.pktCnt found
  have listed := lcidPktCnt_of_found found
  have bound := lcidPktCnt_le_link state priority lcid
  obtain ⟨buffer, buffered⟩ := isSome_iff_exists.mp present
  have queued := tracked.links lcid buffer buffered
  have popped : (state.priorityQueuePop priority lcid srcTcid).lcidPktCnt
      priority lcid = (node.popped srcTcid).pktCnt := by
    rw [lcidPktCnt_eq, linkQueue_pop found]
    rfl
  refine ⟨tracked.formed.pop found peeked, ?_, ?_, ?_⟩
  · apply tracked.links_only _ (onlyLink_pop priority lcid srcTcid state)
      (getLcidBufferNode_modify_self (by intro; rfl) lcid
        (state.setQueue priority _))
    intro earlier located
    rw [buffered, some.injEq] at located
    subst located
    simp only [schedSub_eq]
    omega
  · intro minuend subtrahend member
    rcases mem_append.mp member with earlier | last
    · exact tracked.subtractions minuend subtrahend earlier
    · simp only [mem_cons, Trace.sub.injEq, not_mem_nil, or_false] at last
      simp only [queuedPktCnt, buffered, map_some, getD_some] at last
      omega
  · intro member
    rcases mem_append.mp member with earlier | last
    · exact tracked.peeks earlier
    · simp at last

theorem Tracked.enqueue {packets : List PendingPacket} (tracked : state.Tracked)
    (formed : (state.enqueue priority lcid srcTcid packets).Formed) :
    (state.enqueue priority lcid srcTcid packets).Tracked := by
  refine ⟨formed, ?_, tracked.subtractions, tracked.peeks⟩
  apply tracked.links_only _
    (onlyLink_enqueue priority lcid srcTcid packets state)
    (getLcidBufferNode_modify_self (by intro; rfl) lcid
      (state.setQueue priority _))
  intro buffer _
  have counted : (state.enqueue priority lcid srcTcid packets).lcidPktCnt
      priority lcid = state.lcidPktCnt priority lcid + packets.length := by
    rw [lcidPktCnt_eq, linkQueue_enqueue]
    unfold lcidPktCnt
    cases state.getLcidNode priority lcid <;> rfl
  dsimp only
  omega

theorem kept_tracked (answers : Answers) : Kept answers Tracked where
  sendData isSplited fragment tracked can := by
    refine ⟨(kept_formed answers).sendData isSplited fragment tracked.formed
      can, tracked.links, ?_, ?_⟩
    · intro minuend subtrahend member
      rcases mem_append.mp member with earlier | last
      · exact tracked.subtractions minuend subtrahend earlier
      · simp at last
    · intro member
      rcases mem_append.mp member with earlier | last
      · exact tracked.peeks earlier
      · simp at last
  takeCredit {state lcid} tracked can := by
    refine ⟨(kept_formed answers).takeCredit tracked.formed can, ?_,
      tracked.subtractions, tracked.peeks⟩
    exact tracked.links_same (by intros; rfl) fun link =>
      map_getLcidBufferNode_modify (by intro; rfl) (by intro; rfl) lcid link
        state
  split pdFlag tracked :=
    ⟨(kept_formed answers).split pdFlag tracked.formed, tracked.links,
      tracked.subtractions, tracked.peeks⟩
  pop tracked found peeked present := tracked.pop found peeked present
  save fragments tracked stopped :=
    tracked.enqueue ((kept_formed answers).save fragments tracked.formed stopped)
  noPacket tracked found counted missed := by
    have good := tracked.formed.listed found
    obtain ⟨srcTcid, packet, peeked⟩ := good.peek_of_counted counted
    rw [missed] at peeked
    cases peeked
  mark priority lcid tracked :=
    ⟨tracked.formed.mark priority lcid,
      tracked.links_same (fun other link => linkQueue_mark priority other lcid
        link _) (fun _ => rfl),
      tracked.subtractions, tracked.peeks⟩
  rotate priority tracked :=
    ⟨tracked.formed.rotate priority,
      tracked.links_same (fun other link => tracked.formed.linkQueue_rotate
        priority other link) (fun _ => rfl),
      tracked.subtractions, tracked.peeks⟩

section

variable (tracked : state.Tracked)
include tracked

theorem Tracked.recalc : state.recalcLcidQuota.Tracked :=
  ⟨tracked.formed.recalc, tracked.links_same (fun _ _ => rfl) fun link =>
      map_getLcidBufferNode_recalc BufferNode.queuedPktCnt (fun _ => rfl)
        state link,
    tracked.subtractions, tracked.peeks⟩

theorem Tracked.setApBufferNum (bufferNum : Nat) :
    (state.setApBufferNum bufferNum).Tracked := by
  apply Tracked.recalc
  exact ⟨⟨tracked.formed.queues, tracked.formed.links,
    Nat.mod_lt _ (by decide)⟩, tracked.links, tracked.subtractions,
    tracked.peeks⟩

theorem Tracked.continueAssign (answers : Answers) :
    (state.continueAssignTransBuffer answers).Tracked := by
  unfold continueAssignTransBuffer
  split
  · exact tracked
  · exact tracked.setApBufferNum _

theorem Tracked.withUsed (used : Nat) :
    ({ state with sendNotAckPktCnt := used } : Scheduler).Tracked :=
  ⟨tracked.formed.withUsed used, tracked.links, tracked.subtractions,
    tracked.peeks⟩

theorem Tracked.queuePacket {buff : Bytes} {queued : Scheduler}
    (done : state.queuePacket answers lcid srcTcid buff = .ok queued) :
    queued.Tracked := by
  have admitted := tracked.enqueue (tracked.formed.admitPacket lcid srcTcid buff)
  rcases queuePacket_spec done with rfl | rfl
  · exact admitted
  · exact admitted.recalc

theorem Tracked.returnCredit (answers : Answers)
    (connHandle numCompletedPackets : Nat) :
    (state.returnCredit answers connHandle numCompletedPackets).Tracked := by
  have assigned := (tracked.withUsed (schedSub state.sendNotAckPktCnt
    numCompletedPackets)).continueAssign answers
  unfold Scheduler.returnCredit
  dsimp only
  generalize continueAssignTransBuffer answers _ = lowered at assigned
  apply Tracked.recalc
  refine ⟨assigned.formed.modifyBufferNode _ (by intro; rfl) connHandle, ?_,
    assigned.subtractions, assigned.peeks⟩
  exact assigned.links_same (by intros; rfl) fun link =>
    map_getLcidBufferNode_modify (by intro; rfl) (by intro; rfl) connHandle
      link lowered

theorem Tracked.connect (connHandle : Nat)
    (empty : state.ConnectsEmpty ⟨.connect connHandle, answers⟩) :
    (state.connectCbk answers connHandle).Tracked := by
  have formed := tracked.formed.connect answers connHandle
  unfold connectCbk at formed ⊢
  split
  · exact tracked
  next absent =>
    split
    next allocated =>
      apply Tracked.recalc
      refine ⟨⟨tracked.formed.queues, nodup_append_singleton
        tracked.formed.links (lookup_eq_none.mp absent),
        tracked.formed.buffers⟩, ?_, tracked.subtractions, tracked.peeks⟩
      intro link buffer found
      unfold getLcidBufferNode at found
      rw [lookup_append, or_eq_some_iff] at found
      rcases found with earlier | ⟨-, new⟩
      · exact tracked.links link buffer earlier
      · split at new
        next named =>
          cases new
          subst named
          exact (empty absent allocated).symm
        · cases new
    · exact tracked

theorem Tracked.disconnect (answers : Answers) (connHandle : Nat) :
    (state.disconnectCbk answers connHandle).Tracked := by
  unfold disconnectCbk
  split
  · exact tracked
  next node found =>
    have assigned := (tracked.withUsed (schedSub state.sendNotAckPktCnt
      node.sendNotAckPktCnt)).continueAssign answers
    dsimp only
    generalize continueAssignTransBuffer answers _ = lowered at assigned
    apply Tracked.recalc
    refine ⟨⟨assigned.formed.queues, assigned.formed.links.sublist
      (remove_sublist.map _), assigned.formed.buffers⟩, ?_,
      assigned.subtractions, assigned.peeks⟩
    intro link buffer located
    have differs : link ≠ connHandle := by
      rintro rfl
      unfold getLcidBufferNode at located
      rw [lookup_remove_self assigned.formed.links] at located
      cases located
    have kept : lowered.getLcidBufferNode link = some buffer := by
      unfold getLcidBufferNode at located ⊢
      rwa [lookup_remove_ne differs] at located
    exact assigned.links link buffer kept

theorem Tracked.channelDownProc (priority : Priority) (lcid srcTcid : Nat) :
    (state.channelDownProc priority lcid srcTcid).Tracked := by
  have formed := tracked.formed.channelDownProc priority lcid srcTcid
  have outcome := channelDownProc_outcome priority lcid srcTcid state
  generalize state.channelDownProc priority lcid srcTcid = result
    at outcome formed ⊢
  have only := outcome.onlyLink
  cases outcome with
  | untouched => exact tracked
  | @emptied node found none =>
    have count : node.pktCnt = 0 := by
      rw [(tracked.formed.listed found).counted, LcidNode.total, none]
      rfl
    refine ⟨formed, ?_, tracked.subtractions, tracked.peeks⟩
    apply tracked.links_only id only (by simp; rfl)
    intro buffer _
    rw [lcidPktCnt_of_found found, count, lcidPktCnt_eq, linkQueue_setQueue,
      lookup_remove_self (tracked.formed.queues priority).lcids]
    rfl
  | @closed node channel found listed =>
    obtain ⟨-, enough, -⟩ := (tracked.formed.listed found).closed listed
    have counted := lcidPktCnt_of_found found
    have total := (tracked.formed.queues priority).counted
    have part := weight_le_sum LcidNode.pktCnt found
    have bound := lcidPktCnt_le_link state priority lcid
    refine ⟨formed, ?_, ?_, ?_⟩
    · apply tracked.links_only _ only (getLcidBufferNode_modify_self
        (by intro; rfl) lcid (state.setQueue priority _))
      intro buffer buffered
      have queued := tracked.links lcid buffer buffered
      have lowered := tracked.formed.lcidPktCnt_closed
        { lcidList := closedNodes lcid srcTcid node channel
            (state.queue priority).lcidList
          pktCnt := schedSub (state.queue priority).pktCnt
            channel.pktList.length } found listed rfl
      change (schedSub buffer.queuedPktCnt channel.pktList.length) + _ =
        _ + (state.setQueue priority _).lcidPktCnt priority lcid
      rw [lowered, schedSub_eq]
      omega
    · intro minuend subtrahend member
      rcases mem_append.mp member with earlier | last
      · exact tracked.subtractions minuend subtrahend earlier
      · rcases mem_append.mp last with first | rest
        · simp only [mem_toList, map_eq_some_iff, Trace.sub.injEq] at first
          obtain ⟨buffer, buffered, rfl, rfl⟩ := first
          have queued := tracked.links lcid buffer buffered
          omega
        · simp only [mem_cons, Trace.sub.injEq, not_mem_nil, or_false] at rest
          omega
    · intro member
      rcases mem_append.mp member with earlier | last
      · exact tracked.peeks earlier
      · simp at last

/-- A step that creates no buffer node for queued packets keeps the counts
exact. -/
theorem Tracked.step (input : Input) (empty : state.ConnectsEmpty input) :
    (state.step input).Tracked := by
  obtain ⟨event, answers⟩ := input
  cases event with
  | dataSend lcid srcTcid buff =>
    exact (kept_tracked answers).dataSend tracked fun _ done =>
      tracked.queuePacket done
  | sendComplete connHandle numCompletedPackets =>
    exact (kept_tracked answers).sendComplete tracked fun _ _ =>
      tracked.returnCredit answers connHandle numCompletedPackets
  | connect connHandle => exact tracked.connect connHandle empty
  | disconnect connHandle => exact tracked.disconnect answers connHandle
  | setApBufferNum bufferNum => exact tracked.setApBufferNum bufferNum
  | dataNumChange isAcb dataNum =>
    unfold Scheduler.step dataNumChangecbk
    dsimp only
    split
    · exact (tracked.setApBufferNum dataNum).continueAssign answers
    · exact tracked
  | channelDown lcid srcTcid =>
    exact channelDown_rule (fun _ priority srcTcid tracked =>
      tracked.channelDownProc priority lcid srcTcid) srcTcid tracked

end

theorem Accounted.connectsEmpty {input : Input}
    (accounted : (state.step input).Accounted) :
    state.ConnectsEmpty input := by
  obtain ⟨event, answers⟩ := input
  cases event with
  | connect connHandle =>
    intro absent allocated
    change (state.connectCbk answers connHandle).Accounted at accounted
    unfold connectCbk at accounted
    rw [absent] at accounted
    rw [if_pos allocated] at accounted
    -- the new node is still listed, with its count at zero
    have listed : (connHandle, 0) ∈ (state.lcidBufferList ++
        [BufferNode.created connHandle]).map fun buffer =>
          (buffer.lcid, buffer.queuedPktCnt) := by
      simp [BufferNode.created]
    have kept := map_recalcLcidQuota (fun buffer =>
      (buffer.lcid, buffer.queuedPktCnt)) (fun _ => rfl)
      { state with lcidBufferList :=
          state.lcidBufferList ++ [BufferNode.created connHandle] }
    rw [← kept] at listed
    obtain ⟨buffer, member, same⟩ := mem_map.mp listed
    rw [Prod.mk.injEq] at same
    have exact := accounted.links buffer member
    rw [same.1, same.2] at exact
    exact exact.symm
  | _ => trivial

theorem initial_tracked : initial.Tracked where
  formed := initial_formed
  links := nofun
  subtractions := nofun
  peeks := nofun

/-- The packet counters are exact in every state of a run exactly when no event
of the run creates a buffer node for a link that has packets queued. -/
theorem accounted_iff (inputs : List Input) :
    Always Scheduler.step Accounted initial inputs ↔
      Meets Scheduler.step ConnectsEmpty initial inputs := by
  have sound (state : Scheduler) (tracked : state.Tracked) :
      state.Accounted := tracked.accounted
  exact always_iff_meets sound
    (fun _ input tracked empty => tracked.step input empty)
    (fun _ _ _ accounted => accounted.connectsEmpty) initial_tracked

/-- A packet is still queued when its link is disconnected and connected
again. -/
def reconnectedQueued : List Input :=
  [.connect 1, .dataSend 1 0x20 [7], .dataSend 1 0x20 [8], .disconnect 1,
    .connect 1].map fun event => ⟨event, .granted 10⟩

theorem accounted_fails :
    ¬ Always Scheduler.step Accounted initial reconnectedQueued := by
  intro always
  have links := always.at_end.links
  revert links
  decide +kernel

end NearLink.Dtap.Scheduler
