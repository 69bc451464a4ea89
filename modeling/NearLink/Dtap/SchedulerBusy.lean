import NearLink.Dtap.SchedulerSettle

/-!
# Work conservation

After a scheduler run that is not cut short no link has both credit and a
packet.  Two things stand in the way between events.  A connect, a disconnect
and a change of the buffer number hand out credit without a run, so waiting
packets wait for the next send or acknowledgement.  And a packet that cannot be
split ends every run that reaches it.
-/

namespace NearLink.Dtap

open Sdf Dli Keyed Transition List

/-- Allocations and `DLI_PostTask` succeed. -/
structure Answers.Succeeds (answers : Answers) : Prop where
  dataSend : ∀ isSplited time, answers.dataSend isSplited time = true
  splitAlloc : ∀ time, answers.splitAlloc time = true
  saveAlloc : ∀ time, answers.saveAlloc time = true
  packetAlloc : answers.packetAlloc = true
  lcidNodeAlloc : answers.lcidNodeAlloc = true
  bufferNodeAlloc : answers.bufferNodeAlloc = true

theorem Answers.granted_succeeds (acbLen : Nat) :
    (Answers.granted acbLen).Succeeds :=
  ⟨fun _ _ => rfl, fun _ => rfl, fun _ => rfl, rfl, rfl, rfl⟩

/-- `DLI_SplitData` accepts the number of fragments of the packet. -/
def PendingPacket.Splittable (acbLen : Nat) : PendingPacket → Prop
  | whole buff => 0 < getDataFragmentNums acbLen buff ∧
      getDataFragmentNums acbLen buff ≤ Dli.maxFragmentNum
  | splited _ => True

instance (acbLen : Nat) (packet : PendingPacket) :
    Decidable (packet.Splittable acbLen) :=
  match packet with
  | .whole _ => inferInstanceAs (Decidable (_ ∧ _))
  | .splited _ => inferInstanceAs (Decidable True)

instance decidableForallPriority {holds : Priority → Prop}
    [∀ priority, Decidable (holds priority)] :
    Decidable (∀ priority, holds priority) :=
  decidable_of_iff (holds .fragment ∧ holds .cmd ∧ holds .high ∧ holds .normal)
    ⟨fun ⟨fragment, cmd, high, normal⟩ priority => by
      cases priority <;> assumption,
    fun all => ⟨all _, all _, all _, all _⟩⟩

namespace Scheduler

def WorkConserving (state : Scheduler) : Prop :=
  ∀ lcid, state.canSend lcid = true →
    ∀ priority, state.pending priority lcid = []

def Splittable (acbLen : Nat) (state : Scheduler) : Prop :=
  ∀ priority, ∀ node ∈ (state.queue priority).lcidList,
    state.canSend node.lcid = true →
      ∀ channel ∈ node.channelList, ∀ packet ∈ channel.pktList,
        packet.Splittable acbLen

def QuietBut (lcid : Option Nat) (state : Scheduler) : Prop :=
  ∀ buffer ∈ state.lcidBufferList, some buffer.lcid ≠ lcid →
    ∀ priority, state.pending priority buffer.lcid = []

def assignedBufferNum (answers : Answers) (bufferNum : Nat) : Nat :=
  match answers.collabBufferNum with
  | none => bufferNum
  | some assigned => assigned % 2 ^ 8

/-- An event that runs the scheduler starts the run with packets that can be
split.  One that does not comes when all buffers of the controller are taken or
no packet waits for a connected link. -/
def RunsOrRests (state : Scheduler) (input : Input) : Prop :=
  match input.event with
  | .dataSend lcid srcTcid buff =>
    match state.queuePacket input.answers lcid srcTcid buff with
    | .error _ => True
    | .ok queued => queued.Splittable input.answers.acbLen
  | .sendComplete connHandle numCompletedPackets =>
    state.getLcidBufferNode connHandle = none ∨
      (state.returnCredit input.answers connHandle
        numCompletedPackets).Splittable input.answers.acbLen
  | .connect connHandle =>
    state.getLcidBufferNode connHandle ≠ none ∨
      state.apBufferNum ≤ state.sendNotAckPktCnt ∨
      (state.QuietBut none ∧ ∀ priority, state.pending priority connHandle = [])
  | .disconnect connHandle =>
    match state.getLcidBufferNode connHandle with
    | none => True
    | some node =>
      assignedBufferNum input.answers state.apBufferNum ≤
          state.sendNotAckPktCnt - node.sendNotAckPktCnt ∨
        state.QuietBut (some connHandle)
  | .setApBufferNum bufferNum =>
    bufferNum % 2 ^ 8 ≤ state.sendNotAckPktCnt ∨ state.QuietBut none
  | .dataNumChange isAcb dataNum =>
    isAcb = false ∨ assignedBufferNum input.answers (dataNum % 2 ^ 8) ≤
        state.sendNotAckPktCnt ∨ state.QuietBut none
  | .channelDown _ _ => True

instance (acbLen : Nat) (state : Scheduler) :
    Decidable (state.Splittable acbLen) :=
  inferInstanceAs (Decidable (∀ _, ∀ node ∈ _, _ → ∀ channel ∈ _,
    ∀ packet ∈ _, _))

instance (lcid : Option Nat) (state : Scheduler) :
    Decidable (state.QuietBut lcid) :=
  inferInstanceAs (Decidable (∀ buffer ∈ _, _ → ∀ _, _))

instance (state : Scheduler) (input : Input) :
    Decidable (state.RunsOrRests input) :=
  match input with
  | ⟨.dataSend lcid srcTcid buff, answers⟩ =>
    match done : state.queuePacket answers lcid srcTcid buff with
    | .error _ => isTrue (by simp [RunsOrRests, done])
    | .ok queued => decidable_of_iff (queued.Splittable answers.acbLen)
        (by simp [RunsOrRests, done])
  | ⟨.sendComplete _ _, _⟩ => inferInstanceAs (Decidable (_ ∨ _))
  | ⟨.connect _, _⟩ => inferInstanceAs (Decidable (_ ∨ _ ∨ _ ∧ _))
  | ⟨.disconnect connHandle, answers⟩ =>
    match found : state.getLcidBufferNode connHandle with
    | none => isTrue (by simp [RunsOrRests, found])
    | some node => decidable_of_iff
        (assignedBufferNum answers state.apBufferNum ≤
            state.sendNotAckPktCnt - node.sendNotAckPktCnt ∨
          state.QuietBut (some connHandle))
        (by simp [RunsOrRests, found])
  | ⟨.setApBufferNum _, _⟩ => inferInstanceAs (Decidable (_ ∨ _))
  | ⟨.dataNumChange _ _, _⟩ => inferInstanceAs (Decidable (_ ∨ _ ∨ _))
  | ⟨.channelDown _ _, _⟩ => isTrue trivial

variable {answers : Answers} {state next : Scheduler} {priority : Priority}
  {lcid connHandle : Nat}

def SplitsAll (acbLen : Nat) (state : Scheduler) : Prop :=
  ∀ priority lcid, state.canSend lcid = true →
    ∀ packet ∈ state.pending priority lcid, packet.Splittable acbLen

theorem Splittable.splitsAll {acbLen : Nat}
    (splittable : state.Splittable acbLen) : state.SplitsAll acbLen := by
  intro priority lcid can packet member
  unfold pending at member
  cases found : state.getLcidNode priority lcid with
  | none =>
    rw [found] at member
    cases member
  | some node =>
    rw [found] at member
    obtain ⟨channel, inside, listed⟩ := mem_flatMap.mp member
    have named : node.lcid = lcid := lookup_key found
    exact splittable priority node (lookup_mem found) (named ▸ can) channel
      inside packet listed

theorem kept_splitsAll (answers : Answers) (acbLen : Nat) :
    Kept answers (fun state => state.Formed ∧ state.SplitsAll acbLen) where
  sendData isSplited fragment holds can :=
    ⟨(kept_formed answers).sendData isSplited fragment holds.1 can, holds.2⟩
  takeCredit holds can :=
    ⟨(kept_formed answers).takeCredit holds.1 can, fun priority link later =>
        holds.2 priority link (holds.1.canSend_of_takeCredit can later)⟩
  split pdFlag holds := ⟨(kept_formed answers).split pdFlag holds.1, holds.2⟩
  pop {state priority lcid _ srcTcid _} holds found peeked _ := by
    refine ⟨holds.1.pop found peeked, ?_⟩
    intro other link can packet member
    rw [canSend_pop] at can
    apply holds.2 other link can
    by_cases same : other = priority ∧ link = lcid
    · obtain ⟨rfl, rfl⟩ := same
      exact holds.1.pending_pop found peeked packet member
    · rwa [(onlyLink_pop priority lcid srcTcid state).pending (by tauto)]
        at member
  save {state lcid} fragments holds stopped := by
    refine ⟨(kept_formed answers).save fragments holds.1 stopped, ?_⟩
    intro other link can packet member
    rw [canSend_enqueue] at can
    by_cases same : other = .fragment ∧ link = lcid
    · obtain ⟨rfl, rfl⟩ := same
      rcases pending_enqueue .fragment link fragmentTcid _ state packet member
        with earlier | new
      · exact holds.2 .fragment link can packet earlier
      · obtain ⟨fragment, -, rfl⟩ := mem_map.mp new
        trivial
    · rw [(onlyLink_enqueue .fragment lcid fragmentTcid _ state).pending
        (by tauto)] at member
      exact holds.2 other link can packet member
  noPacket holds found counted peeked :=
    ⟨(kept_formed answers).noPacket holds.1 found counted peeked, holds.2⟩
  mark other lcid holds := by
    refine ⟨holds.1.mark other lcid, ?_⟩
    intro priority link can packet member
    rw [pending_eq, linkQueue_mark, ← pending_eq] at member
    exact holds.2 priority link can packet member
  rotate other holds := by
    refine ⟨holds.1.rotate other, ?_⟩
    intro priority link can packet member
    rw [pending_eq, holds.1.linkQueue_rotate, ← pending_eq] at member
    exact holds.2 priority link can packet member

theorem Formed.round_succeeds (formed : state.Formed)
    (succeeds : answers.Succeeds) (splits : state.SplitsAll answers.acbLen)
    (can : state.canSend lcid = true) (priority : Priority) :
    (state.scheduleRound answers priority lcid).1 ≠ .failed := by
  have outcome := scheduleRound_outcome answers priority lcid state
  generalize state.scheduleRound answers priority lcid = result at outcome ⊢
  intro failed
  cases outcome with
  | refused _ _ refusal =>
    rw [succeeds.dataSend] at refusal
    cases refusal
  | @unsplit node srcTcid buff found peeked reason =>
    have waiting := formed.mem_pending_of_peek found peeked
    have counted : 0 < getDataFragmentNums answers.acbLen buff ∧
        getDataFragmentNums answers.acbLen buff ≤ Dli.maxFragmentNum :=
      splits priority lcid can _ waiting
    rcases reason with unallocated | unsplit
    · rw [succeeds.splitAlloc] at unallocated
      cases unallocated
    · unfold splitData at unsplit
      rw [if_pos counted] at unsplit
      cases unsplit
  | dropped _ _ _ _ unsaved =>
    rw [succeeds.saveAlloc] at unsaved
    cases unsaved
  | _ => cases failed

section

variable (succeeds : answers.Succeeds)
include succeeds

theorem scheduleLcid_succeeds (priority : Priority) (lcid rounds : Nat)
    (holds : state.Formed ∧ state.SplitsAll answers.acbLen) :
    (state.scheduleLcid answers priority lcid rounds).1 = true := by
  induction rounds generalizing state with
  | zero => rfl
  | succ rounds induction =>
    unfold scheduleLcid
    split
    next can =>
      have next := (kept_splitsAll answers answers.acbLen).scheduleRound
        priority lcid holds can
      have success := holds.1.round_succeeds succeeds holds.2 can priority
      generalize state.scheduleRound answers priority lcid = result
        at next success ⊢
      obtain ⟨round, reached⟩ := result
      cases round with
      | again => exact induction next
      | done => rfl
      | failed => exact absurd rfl success
    · rfl

theorem schedulePriority_succeeds (priority : Priority)
    (holds : state.Formed ∧ state.SplitsAll answers.acbLen) :
    (state.schedulePriority answers priority).1 = true := by
  have kept := kept_splitsAll answers answers.acbLen
  unfold schedulePriority
  generalize (state.queue priority).lcidList.map (·.lcid) = lcids
  induction lcids generalizing state with
  | nil => rfl
  | cons lcid lcids induction =>
    unfold scheduleNodes
    split
    · have marked := kept.mark priority lcid holds
      have next := scheduleLcid_rule (fun _ holds can =>
        kept.scheduleRound priority lcid holds can)
        (state.markScheduled priority lcid).freeBuffers marked
      have success := scheduleLcid_succeeds succeeds priority lcid
        (state.markScheduled priority lcid).freeBuffers marked
      dsimp only
      generalize (state.markScheduled priority lcid).scheduleLcid answers
        priority lcid _ = result at next success ⊢
      obtain ⟨finished, reached⟩ := result
      subst success
      exact induction next
    · exact induction holds

theorem runPriorities_settles (priorities : List Priority)
    (holds : state.Formed ∧ state.SplitsAll answers.acbLen)
    {priority : Priority}
    (visited : priority ∈ priorities ∨ state.Settled (fun _ => True) priority) :
    (state.runPriorities answers priorities).Settled (fun _ => True)
      priority := by
  have fresh : answers.TakesFresh := succeeds.dataSend false
  induction priorities generalizing state with
  | nil => exact visited.resolve_left (by simp)
  | cons first priorities induction =>
    unfold runPriorities
    split
    next full =>
      intro link _ can
      exact absurd (canSend_iff.mp can).1 (Nat.not_lt.mpr full)
    · split
      next none =>
        have empty := holds.1.settled_of_empty (fun _ => True) none
        apply induction holds
        rcases visited with member | settled
        · rcases mem_cons.mp member with rfl | later
          · exact .inr empty
          · exact .inl later
        · exact .inr settled
      · have success := schedulePriority_succeeds succeeds first holds
        have next := (kept_splitsAll answers
          answers.acbLen).schedulePriority first holds
        have turned := holds.1.schedulePriority_settles fresh first success
        have kept (settled : state.Settled (fun _ => True) priority) :=
          ((kept_settled fresh (fun _ => True) priority).schedulePriority
            first ⟨holds.1, settled⟩).2
        generalize state.schedulePriority answers first = result
          at success next turned kept ⊢
        obtain ⟨finished, reached⟩ := result
        subst success
        apply induction next
        rcases visited with member | settled
        · rcases mem_cons.mp member with rfl | later
          · exact .inr turned
          · exact .inl later
        · exact .inr (kept settled)

theorem schedulerRun_workConserving (formed : state.Formed)
    (splittable : state.Splittable answers.acbLen) :
    (state.schedulerRun answers).WorkConserving := by
  intro lcid can priority
  apply runPriorities_settles succeeds _ ⟨formed, splittable.splitsAll⟩
    (Or.inl _) lcid trivial can
  cases priority <;> simp

end

theorem mem_links_of_canSend (can : state.canSend lcid = true) :
    lcid ∈ state.lcidBufferList.map BufferNode.lcid := by
  obtain ⟨node, found⟩ := Option.isSome_iff_exists.mp (isSome_of_canSend can)
  exact mem_map.mpr ⟨node, lookup_mem found, lookup_key found⟩

theorem workConserving_of_rests
    (rests : state.apBufferNum ≤ state.sendNotAckPktCnt ∨
      ∀ lcid ∈ state.lcidBufferList.map BufferNode.lcid,
        ∀ priority, state.pending priority lcid = []) :
    state.WorkConserving := by
  intro lcid can
  rcases rests with full | quiet
  · exact absurd (canSend_iff.mp can).1 (Nat.not_lt.mpr full)
  · exact quiet lcid (mem_links_of_canSend can)

theorem QuietBut.links (quiet : state.QuietBut none) :
    ∀ lcid ∈ state.lcidBufferList.map BufferNode.lcid,
      ∀ priority, state.pending priority lcid = [] := by
  exact forall_mem_map.mpr fun buffer listed => quiet buffer listed nofun

section

variable (answers : Answers) (state : Scheduler)

theorem continueAssign_bufferNum :
    (state.continueAssignTransBuffer answers).apBufferNum =
      assignedBufferNum answers state.apBufferNum := by
  unfold continueAssignTransBuffer assignedBufferNum
  cases answers.collabBufferNum with
  | none | some => rfl

theorem continueAssign_links :
    (state.continueAssignTransBuffer answers).lcidBufferList.map
      BufferNode.lcid = state.lcidBufferList.map BufferNode.lcid := by
  unfold continueAssignTransBuffer
  split
  · rfl
  · exact map_recalcLcidQuota BufferNode.lcid (fun _ => rfl) _

theorem continueAssign_pending :
    (state.continueAssignTransBuffer answers).pending = state.pending := by
  unfold continueAssignTransBuffer
  split <;> rfl

end

theorem workConserving_setApBufferNum {bufferNum : Nat}
    (rests : bufferNum % 2 ^ 8 ≤ state.sendNotAckPktCnt ∨ state.QuietBut none) :
    (state.setApBufferNum bufferNum).WorkConserving := by
  apply workConserving_of_rests
  apply rests.imp id
  intro quiet lcid member
  rw [setApBufferNum, map_recalcLcidQuota BufferNode.lcid fun _ => rfl]
    at member
  exact quiet.links lcid member

theorem workConserving_dataNumChange {dataNum : Nat}
    (rests : assignedBufferNum answers (dataNum % 2 ^ 8) ≤
      state.sendNotAckPktCnt ∨ state.QuietBut none) :
    ((state.setApBufferNum dataNum).continueAssignTransBuffer
      answers).WorkConserving := by
  apply workConserving_of_rests
  rw [continueAssign_bufferNum, (continueAssign_used answers _).1,
    continueAssign_links, continueAssign_pending]
  apply rests.imp id
  intro quiet lcid member
  rw [setApBufferNum, map_recalcLcidQuota BufferNode.lcid fun _ => rfl]
    at member
  exact quiet.links lcid member

theorem WorkConserving.connect (conserving : state.WorkConserving)
    (rests : state.getLcidBufferNode connHandle ≠ none ∨
      state.apBufferNum ≤ state.sendNotAckPktCnt ∨
      (state.QuietBut none ∧
        ∀ priority, state.pending priority connHandle = [])) :
    (state.connectCbk answers connHandle).WorkConserving := by
  unfold connectCbk
  split
  · exact conserving
  next absent =>
    split
    · apply workConserving_of_rests
      apply (rests.resolve_left fun present => present absent).imp id
      rintro ⟨quiet, fresh⟩ lcid member
      rw [map_recalcLcidQuota BufferNode.lcid fun _ => rfl,
        map_append] at member
      rcases mem_append.mp member with earlier | new
      · exact quiet.links lcid earlier
      · rw [show lcid = connHandle from mem_singleton.mp new]
        exact fresh
    · exact conserving

theorem Formed.workConserving_disconnect (formed : state.Formed)
    (conserving : state.WorkConserving)
    (rests : ∀ node, state.getLcidBufferNode connHandle = some node →
      assignedBufferNum answers state.apBufferNum ≤
          state.sendNotAckPktCnt - node.sendNotAckPktCnt ∨
        state.QuietBut (some connHandle)) :
    (state.disconnectCbk answers connHandle).WorkConserving := by
  unfold disconnectCbk
  split
  · exact conserving
  next node found =>
    have kept := formed.withUsed
      (schedSub state.sendNotAckPktCnt node.sendNotAckPktCnt)
    have assigned := kept.continueAssign answers
    apply workConserving_of_rests
    rcases rests node found with full | quiet
    · left
      change (continueAssignTransBuffer answers _).apBufferNum ≤
        (continueAssignTransBuffer answers _).sendNotAckPktCnt
      rw [continueAssign_bufferNum, (continueAssign_used answers _).1]
      rw [schedSub_eq]
      exact full
    · right
      intro lcid member
      rw [map_recalcLcidQuota BufferNode.lcid fun _ => rfl] at member
      -- the link that is gone is not listed any more
      have different : lcid ≠ connHandle := by
        rintro rfl
        exact lookup_eq_none.mp (lookup_remove_self assigned.links) member
      have listed := (remove_sublist.map BufferNode.lcid).subset member
      rw [continueAssign_links] at listed
      obtain ⟨buffer, earlier, rfl⟩ := mem_map.mp listed
      change ∀ priority, (continueAssignTransBuffer answers _).pending
        priority buffer.lcid = []
      rw [continueAssign_pending]
      exact quiet buffer earlier fun same =>
        different (Option.some.inj same)

theorem canSend_channelDownProc (priority : Priority) (lcid srcTcid link : Nat)
    (state : Scheduler) :
    (state.channelDownProc priority lcid srcTcid).canSend link =
      state.canSend link := by
  have outcome := channelDownProc_outcome priority lcid srcTcid state
  generalize state.channelDownProc priority lcid srcTcid = result at outcome ⊢
  cases outcome with
  | closed =>
    exact canSend_congr (linkCredit_modify (by intro; rfl) (by intro; rfl)
      lcid link (state.setQueue priority _)) rfl rfl
  | _ => rfl

theorem workConserving_channelDown (lcid srcTcid : Nat)
    (holds : state.Formed ∧ state.WorkConserving) :
    (state.channelDown lcid srcTcid).WorkConserving := by
  have proc (state : Scheduler) (priority : Priority) (srcTcid : Nat)
      (holds : state.Formed ∧ state.WorkConserving) :
      (state.channelDownProc priority lcid srcTcid).Formed ∧
        (state.channelDownProc priority lcid srcTcid).WorkConserving := by
    refine ⟨holds.1.channelDownProc priority lcid srcTcid, ?_⟩
    intro link can other
    rw [canSend_channelDownProc] at can
    have fewer := holds.1.pending_channelDownProc priority lcid srcTcid other
      link
    rw [holds.2 link can other] at fewer
    exact eq_nil_of_subset_nil fewer
  exact (channelDown_rule proc srcTcid holds).2

theorem Formed.workConserving_step (formed : state.Formed)
    (conserving : state.WorkConserving) (input : Input)
    (succeeds : input.answers.Succeeds) (met : state.RunsOrRests input) :
    (state.step input).WorkConserving := by
  obtain ⟨event, answers⟩ := input
  cases event with
  | dataSend lcid srcTcid buff =>
    unfold RunsOrRests at met
    unfold Scheduler.step dataSendWithPriority
    dsimp only at met ⊢
    split
    · exact conserving
    next queued done =>
      rw [done] at met
      exact schedulerRun_workConserving succeeds (formed.queuePacket done) met
  | sendComplete connHandle numCompletedPackets =>
    unfold Scheduler.step sendCompleteCbk
    dsimp only
    split
    · exact conserving
    next node found =>
      apply schedulerRun_workConserving succeeds
        (formed.returnCredit answers connHandle numCompletedPackets)
      apply Or.resolve_left met
      rw [found]
      exact nofun
  | connect connHandle => exact conserving.connect met
  | disconnect connHandle =>
    apply formed.workConserving_disconnect conserving
    intro node found
    unfold RunsOrRests at met
    dsimp only at met
    rw [found] at met
    exact met
  | setApBufferNum bufferNum => exact workConserving_setApBufferNum met
  | dataNumChange isAcb dataNum =>
    unfold Scheduler.step dataNumChangecbk
    dsimp only
    split
    next acb =>
      apply workConserving_dataNumChange
      apply Or.resolve_left met
      rw [acb]
      exact nofun
    · exact conserving
  | channelDown lcid srcTcid =>
    exact workConserving_channelDown lcid srcTcid ⟨formed, conserving⟩

theorem initial_workConserving : initial.WorkConserving :=
  workConserving_of_rests (.inr nofun)

/-- In a run without failures no link ever has both credit and a packet
between two events, if the scheduler meets only packets it can split and the
events that do not run it leave it nothing to send. -/
theorem workConserving_of_runsOrRests (inputs : List Input)
    (meets : Meets step (fun state input =>
      input.answers.Succeeds ∧ state.RunsOrRests input) initial inputs) :
    Always step WorkConserving initial inputs := by
  have sound (state : Scheduler) (holds : state.Formed ∧ state.WorkConserving) :
      state.WorkConserving := holds.2
  apply always_of_meets sound _ ⟨initial_formed, initial_workConserving⟩ meets
  rintro state input ⟨formed, conserving⟩ ⟨succeeds, met⟩
  exact ⟨formed.step input,
    formed.workConserving_step conserving input succeeds met⟩

/-- Two packets share one buffer of the controller; more buffers come when the
queues are empty. -/
def sharedBuffer : List Input :=
  [.connect 1, .dataSend 1 0x20 [7], .dataSend 1 0x20 [8], .sendComplete 1 1,
    .setApBufferNum 4, .connect 2, .dataSend 2 0x20 [9], .channelDown 2 0x20,
    .disconnect 1].map fun event => ⟨event, .granted 10⟩

theorem workConserving_sharedBuffer :
    Always step WorkConserving initial sharedBuffer := by
  apply workConserving_of_runsOrRests
  refine ⟨?_, ?_, ?_, ?_, ?_, ?_, ?_, ?_, ?_, trivial⟩
  all_goals exact ⟨Answers.granted_succeeds 10, by decide +kernel⟩

def connectedLate : List Input :=
  [.dataSend 1 0x20 [7], .connect 1].map fun event => ⟨event, .granted 10⟩

/-- A packet of link 1 needs one fragment more than `DLI_MAX_FRAGMEN_NUM`. -/
def oversizedFirst : List Input :=
  [.setApBufferNum 4, .connect 1, .connect 2,
    .dataSend 1 0x02 (List.replicate 1281 0), .dataSend 2 0x20 [7]].map
      fun event => ⟨event, .granted 10⟩

/-- A connect event does not send what waits for the link, and a packet that
cannot be split keeps the packets of other links waiting. -/
theorem workConserving_fails :
    ¬ Always step WorkConserving initial connectedLate ∧
      ¬ Always step WorkConserving initial oversizedFirst := by
  constructor
  · intro always
    have empty := always.at_end 1 (by decide +kernel) .normal
    revert empty
    decide +kernel
  · intro always
    have empty := always.at_end 2 (by decide +kernel) .normal
    revert empty
    decide +kernel

end Scheduler

end NearLink.Dtap
