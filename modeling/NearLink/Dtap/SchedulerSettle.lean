import NearLink.Dtap.SchedulerFormed

/-!
# When a queue is settled

A queue is settled when no link with credit has a packet in it.  The turn of a
queue settles it, unless the turn ends early or the device layer refuses a
fragment of a packet that is just being split; and what comes later in the run
does not unsettle it.
-/

namespace NearLink.Dtap

/-- The device layer takes every fragment of a packet that is being split. -/
def Answers.TakesFresh (answers : Answers) : Prop :=
  ∀ time, answers.dataSend false time = true

namespace Scheduler

open Sdf Dli Keyed LcidNode

def pending (state : Scheduler) (priority : Priority) (lcid : Nat) :
    List PendingPacket :=
  ((state.getLcidNode priority lcid).map packets).getD []

def Settled (links : Nat → Prop) (priority : Priority) (state : Scheduler) : Prop :=
  ∀ lcid, links lcid → state.canSend lcid = true →
    state.pending priority lcid = []

variable {answers : Answers} {state next : Scheduler}
  {priority other : Priority} {lcid link srcTcid : Nat} {node : LcidNode}
  {links : Nat → Prop} {packet : PendingPacket}

theorem pending_eq (state : Scheduler) (priority : Priority) (lcid : Nat) :
    state.pending priority lcid =
      ((state.linkQueue priority lcid).map fun queued =>
        queued.2.flatMap (·.pktList)).getD [] := by
  unfold pending linkQueue
  cases state.getLcidNode priority lcid <;> rfl

section

variable (formed : state.Formed)
include formed

theorem Formed.pending_length (priority : Priority) (lcid : Nat) :
    (state.pending priority lcid).length = state.lcidPktCnt priority lcid := by
  unfold pending lcidPktCnt
  cases found : state.getLcidNode priority lcid with
  | none => rfl
  | some node =>
    have counted := (formed.listed found).counted
    rw [total_eq] at counted
    exact counted.symm

theorem Formed.pending_eq_nil :
    state.pending priority lcid = [] ↔ state.lcidPktCnt priority lcid = 0 := by
  rw [← formed.pending_length, List.length_eq_zero_iff]

theorem Formed.settled_of_empty (links : Nat → Prop)
    (none : (state.queue priority).pktCnt = 0) :
    state.Settled links priority := by
  intro link _ _
  apply formed.pending_eq_nil.mpr
  have total := (formed.queues priority).counted
  unfold lcidPktCnt
  cases found : state.getLcidNode priority link with
  | none => rfl
  | some node =>
    have part := weight_le_sum pktCnt found
    simp only [Option.map_some, Option.getD_some]
    omega

theorem Formed.canSend_of_takeCredit (can : state.canSend lcid = true)
    (later : (state.takeCredit lcid).canSend link = true) :
    state.canSend link = true := by
  have used := formed.takeCredit_used can
  obtain ⟨free, taken, quota, credit, left⟩ := canSend_iff.mp later
  change (state.modifyBufferNode lcid _).linkCredit link = _ at credit
  rw [used] at free
  by_cases same : link = lcid
  · exact same ▸ can
  · unfold linkCredit at credit
    rw [getLcidBufferNode_modify_ne (by intro; rfl) same] at credit
    refine canSend_iff.mpr ⟨?_, taken, quota, credit, left⟩
    exact Nat.lt_of_succ_lt free

end

@[simp] theorem canSend_enqueue (priority : Priority) (lcid srcTcid : Nat)
    (packets : List PendingPacket) (state : Scheduler) (link : Nat) :
    (state.enqueue priority lcid srcTcid packets).canSend link =
      state.canSend link :=
  canSend_congr (linkCredit_modify (by intro; rfl) (by intro; rfl) lcid link
    (state.setQueue priority _)) rfl rfl

theorem OnlyLink.pending (only : OnlyLink priority lcid state next)
    (differs : other ≠ priority ∨ link ≠ lcid) :
    next.pending other link = state.pending other link := by
  rw [pending_eq, pending_eq, only.queues other link differs]

section

variable (formed : state.Formed)
  (found : state.getLcidNode priority lcid = some node)
  (peeked : priorityQueuePeek node = some (srcTcid, packet))
include formed found peeked

theorem Formed.mem_pending_of_peek :
    packet ∈ state.pending priority lcid := by
  obtain ⟨rest, listed⟩ := (formed.listed found).peek peeked
  unfold pending
  rw [found]
  exact mem_packets (lookup_mem listed) packet (by simp)

theorem Formed.pending_pop :
    ∀ later ∈ (state.priorityQueuePop priority lcid srcTcid).pending priority
      lcid, later ∈ state.pending priority lcid := by
  rw [pending_eq, linkQueue_pop found]
  unfold Scheduler.pending
  rw [found]
  exact mem_packets_popped (formed.listed found) peeked

end

theorem pending_enqueue (priority : Priority) (lcid srcTcid : Nat)
    (packets : List PendingPacket) (state : Scheduler) :
    ∀ later ∈ (state.enqueue priority lcid srcTcid packets).pending priority
      lcid, later ∈ state.pending priority lcid ∨ later ∈ packets := by
  rw [pending_eq, linkQueue_enqueue]
  unfold Scheduler.pending
  cases state.getLcidNode priority lcid with
  | none => exact mem_packets_admitted srcTcid packets _
  | some node => exact mem_packets_admitted srcTcid packets node

theorem Formed.pending_channelDownProc (formed : state.Formed)
    (priority : Priority) (lcid srcTcid : Nat) (other : Priority) (link : Nat) :
    ∀ later ∈ (state.channelDownProc priority lcid srcTcid).pending other
      link, later ∈ state.pending other link := by
  have outcome := channelDownProc_outcome priority lcid srcTcid state
  generalize state.channelDownProc priority lcid srcTcid = result at outcome ⊢
  intro later member
  by_cases same : other = priority ∧ link = lcid
  · obtain ⟨rfl, rfl⟩ := same
    have gone : lookup lcid link (remove lcid link
        (state.queue other).lcidList) = none :=
      lookup_remove_self (formed.queues other).lcids
    cases outcome with
    | untouched => exact member
    | emptied =>
      rw [pending_eq, linkQueue_setQueue, gone] at member
      cases member
    | @closed node channel found listed =>
      change later ∈ (state.setQueue other _).pending other link at member
      rw [pending_eq, linkQueue_setQueue] at member
      unfold Scheduler.closedNodes at member
      dsimp only at member
      split at member
      · rw [gone] at member
        cases member
      · rw [lookup_modify_self (by intro; rfl),
          show lookup lcid link (state.queue other).lcidList =
            some node from found] at member
        obtain ⟨kept, inside, carried⟩ := List.mem_flatMap.mp member
        unfold Scheduler.pending
        rw [found]
        exact mem_packets (remove_sublist.subset inside) later carried
  · rwa [outcome.onlyLink.pending (by tauto)] at member

theorem Formed.settled_pop (formed : state.Formed)
    (settled : state.Settled links other)
    (found : state.getLcidNode priority lcid = some node)
    (peeked : priorityQueuePeek node = some (srcTcid, packet)) :
    (state.priorityQueuePop priority lcid srcTcid).Settled links other := by
  intro link among can
  rw [canSend_pop] at can
  have empty := settled link among can
  by_cases same : other = priority ∧ link = lcid
  · obtain ⟨rfl, rfl⟩ := same
    have fewer := formed.pending_pop found peeked
    rw [empty] at fewer
    exact List.eq_nil_of_subset_nil fewer
  · rw [(onlyLink_pop priority lcid srcTcid state).pending]
    · exact empty
    · tauto

/-- A run of the scheduler keeps a settled queue settled, if the device layer
takes every fragment of a packet that is being split. -/
theorem kept_settled (fresh : answers.TakesFresh) (links : Nat → Prop)
    (priority : Priority) :
    Kept answers (fun state => state.Formed ∧ state.Settled links priority)
    where
  sendData isSplited fragment holds can :=
    ⟨(kept_formed answers).sendData isSplited fragment holds.1 can, holds.2⟩
  takeCredit holds can :=
    ⟨(kept_formed answers).takeCredit holds.1 can, fun link among later =>
      holds.2 link among (holds.1.canSend_of_takeCredit can later)⟩
  split pdFlag holds := ⟨(kept_formed answers).split pdFlag holds.1, holds.2⟩
  pop holds found peeked _ :=
    ⟨holds.1.pop found peeked, holds.1.settled_pop holds.2 found peeked⟩
  save {state lcid} fragments holds stopped := by
    refine ⟨(kept_formed answers).save fragments holds.1 stopped, ?_⟩
    intro link among can
    rw [canSend_enqueue] at can
    have empty := holds.2 link among can
    have differs : link ≠ lcid := by
      rintro rfl
      rcases stopped with blocked | ⟨time, refused⟩
      · rw [blocked] at can
        cases can
      · rw [fresh time] at refused
        cases refused
    rw [(onlyLink_enqueue .fragment lcid fragmentTcid _ state).pending
      (.inr differs)]
    exact empty
  noPacket holds found counted peeked :=
    ⟨(kept_formed answers).noPacket holds.1 found counted peeked, holds.2⟩
  mark other lcid holds := by
    refine ⟨holds.1.mark other lcid, ?_⟩
    intro link among can
    rw [pending_eq, linkQueue_mark, ← pending_eq]
    exact holds.2 link among can
  rotate other holds := by
    refine ⟨holds.1.rotate other, ?_⟩
    intro link among can
    rw [pending_eq, holds.1.linkQueue_rotate, ← pending_eq]
    exact holds.2 link among can

theorem Formed.sendFragments_used (formed : state.Formed)
    (answers : Answers) (lcid : Nat) (fragments : List Fragment) :
    let sent := state.sendFragments answers lcid fragments
    sent.2.sendNotAckPktCnt + sent.1.length =
        state.sendNotAckPktCnt + fragments.length ∧
      sent.2.apBufferNum = state.apBufferNum := by
  induction fragments generalizing state with
  | nil => exact ⟨rfl, rfl⟩
  | cons fragment fragments induction =>
    unfold Scheduler.sendFragments
    dsimp only
    split
    next can =>
      split
      · have sent := (kept_formed answers).sendData false fragment formed can
        have booked := (kept_formed answers).takeCredit sent can
        have used := sent.takeCredit_used can
        have rest := induction booked
        rw [used] at rest
        exact ⟨by rw [rest.1]; exact Nat.add_right_comm _ _ _, rest.2⟩
      · exact ⟨rfl, rfl⟩
    · exact ⟨rfl, rfl⟩

theorem splitData_pos {bufferLen : Nat} {flag pdFlag : Option PdFlag}
    {buff : Bytes} {fragments : List Fragment}
    (split : splitData lcid bufferLen (getDataFragmentNums bufferLen buff)
      flag buff = some (fragments, pdFlag)) : 0 < fragments.length := by
  unfold splitData at split
  split at split
  next counted =>
    rw [Option.some.injEq] at split
    have pieces := congrArg (·.1.length) split
    dsimp only at pieces
    rw [splitLoop_length] at pieces
    omega
  · cases split

variable (formed : state.Formed)
include formed

theorem Formed.round_again (answers : Answers) (priority : Priority)
    (can : state.canSend lcid = true)
    (again : (state.scheduleRound answers priority lcid).1 = .again) :
    (state.scheduleRound answers priority lcid).2.freeBuffers <
      state.freeBuffers := by
  have free := (canSend_iff.mp can).1
  have outcome := scheduleRound_outcome answers priority lcid state
  generalize state.scheduleRound answers priority lcid = result
    at outcome again ⊢
  cases outcome with
  | @resumed _ srcTcid fragment found peeked _ =>
    have sent := (kept_formed answers).sendData true fragment formed can
    have popped := sent.pop found peeked
    have used := popped.takeCredit_used (by rw [canSend_pop]; exact can)
    unfold freeBuffers
    rw [used]
    change state.apBufferNum - (state.sendNotAckPktCnt + 1) < _
    omega
  | @sent _ _ _ fragments pdFlag _ _ split all =>
    have opened := (kept_formed answers).split pdFlag formed
    have used := opened.sendFragments_used answers lcid fragments
    have some := splitData_pos split
    dsimp only at used
    rw [all, List.length_nil] at used
    change freeBuffers (Scheduler.sendFragments answers lcid fragments _).2 < _
    unfold freeBuffers
    omega
  | _ => cases again

variable (fresh : answers.TakesFresh)
include fresh

theorem Formed.round_done (priority : Priority) (lcid : Nat)
    (done : (state.scheduleRound answers priority lcid).1 = .done)
    (can : (state.scheduleRound answers priority lcid).2.canSend lcid = true) :
    (state.scheduleRound answers priority lcid).2.pending priority lcid =
      [] := by
  have outcome := scheduleRound_outcome answers priority lcid state
  generalize state.scheduleRound answers priority lcid = result
    at outcome done can ⊢
  cases outcome with
  | empty none => exact formed.pending_eq_nil.mpr none
  | lost found counted missed =>
    obtain ⟨srcTcid, packet, peeked⟩ :=
      (formed.listed found).peek_of_counted counted
    rw [missed] at peeked
    cases peeked
  | saved found peeked split left =>
    exfalso
    rw [canSend_enqueue, canSend_pop] at can
    rcases sendFragments_left left with blocked | ⟨time, refused⟩
    · rw [blocked] at can
      cases can
    · rw [fresh time] at refused
      cases refused
  | _ => cases done

/-- `DTAP_ScheduleLcid` leaves a link without packets or without credit,
unless it fails. -/
theorem Formed.scheduleLcid_settles (priority : Priority) (lcid rounds : Nat)
    (enough : state.freeBuffers ≤ rounds)
    (finished : (state.scheduleLcid answers priority lcid rounds).1 = true)
    (can : (state.scheduleLcid answers priority lcid rounds).2.canSend lcid =
      true) :
    (state.scheduleLcid answers priority lcid rounds).2.pending priority
      lcid = [] := by
  induction rounds generalizing state with
  | zero =>
    have free := (canSend_iff.mp can).1
    change state.sendNotAckPktCnt < state.apBufferNum at free
    unfold freeBuffers at enough
    omega
  | succ rounds induction =>
    unfold scheduleLcid at finished can ⊢
    by_cases start : state.canSend lcid = true
    · rw [if_pos start] at finished can ⊢
      have next := (kept_formed answers).scheduleRound priority lcid formed
        start
      have again := formed.round_again answers priority start
      have done := formed.round_done fresh priority lcid
      generalize state.scheduleRound answers priority lcid = result
        at finished can next again done ⊢
      obtain ⟨round, reached⟩ := result
      cases round with
      | again =>
        have fewer : reached.freeBuffers < state.freeBuffers := again rfl
        exact induction next (by omega) finished can
      | done => exact done rfl can
      | failed => cases finished
    · rw [if_neg start] at can
      exact absurd can start

theorem Formed.scheduleNodes_settles (lcids : List Nat)
    (settled : state.Settled (· ∉ lcids) priority)
    (finished : (state.scheduleNodes answers priority lcids).1 = true) :
    (state.scheduleNodes answers priority lcids).2.Settled (fun _ => True)
      priority := by
  induction lcids generalizing state with
  | nil => exact fun link _ can => settled link (by simp) can
  | cons lcid lcids induction =>
    unfold scheduleNodes at finished ⊢
    by_cases start : state.canSend lcid = true
    · rw [if_pos start] at finished ⊢
      dsimp only at finished ⊢
      have kept := kept_settled fresh (· ∉ lcid :: lcids) priority
      have marked := kept.mark priority lcid ⟨formed, settled⟩
      have turn := scheduleLcid_rule (fun _ holds can =>
        kept.scheduleRound priority lcid holds can)
        (state.markScheduled priority lcid).freeBuffers marked
      have own := marked.1.scheduleLcid_settles fresh priority lcid _ (le_rfl)
      generalize (state.markScheduled priority lcid).scheduleLcid answers
        priority lcid _ = result at finished turn own ⊢
      obtain ⟨ended, reached⟩ := result
      cases ended with
      | false => cases finished
      | true =>
        apply induction turn.1 _ finished
        intro link among can
        by_cases same : link = lcid
        · exact same ▸ own rfl (same ▸ can)
        · exact turn.2 link (by simp [same, among]) can
    · rw [if_neg start] at finished ⊢
      apply induction formed _ finished
      intro link among can
      by_cases same : link = lcid
      · exact absurd (same ▸ can) start
      · exact settled link (by simp [same, among]) can

theorem Formed.schedulePriority_settles (priority : Priority)
    (finished : (state.schedulePriority answers priority).1 = true) :
    (state.schedulePriority answers priority).2.Settled (fun _ => True)
      priority := by
  have unlisted : state.Settled (· ∉ (state.queue priority).lcidList.map
      lcid) priority := by
    intro link absent _
    unfold pending getLcidNode
    rw [lookup_eq_none.mpr absent]
    rfl
  have visited := formed.scheduleNodes_settles fresh _ unlisted finished
  have reached := (kept_formed answers).scheduleNodes priority
    ((state.queue priority).lcidList.map lcid) formed
  exact ((kept_settled fresh (fun _ => True) priority).rotate priority
    ⟨reached, visited⟩).2

end Scheduler

end NearLink.Dtap
