import NearLink.Dtap.SchedulerFormed

/-!
# Closing a channel in the scheduler

What `DTAP_ChannelDown` leaves in the queues.  All fragments of a link wait on
one channel, whichever channels their packets came from.
-/

namespace NearLink.Dtap

open Keyed Transition List

/-- A packet that waits, with its link and channel. -/
structure Waiting where
  lcid : Nat
  srcTcid : Nat
  packet : PendingPacket

def Waiting.elsewhere (lcid srcTcid : Nat) (entry : Waiting) : Bool :=
  entry.lcid ≠ lcid ∨ entry.srcTcid ≠ srcTcid

namespace LcidNode

variable {node : LcidNode} {nodes : List LcidNode} {lcid srcTcid : Nat}
  {priority : Priority}

def waiting (node : LcidNode) : List Waiting :=
  node.channelList.flatMap fun channel =>
    channel.pktList.map fun packet => ⟨node.lcid, channel.srcTcid, packet⟩

theorem mem_waiting {entry : Waiting} (member : entry ∈ node.waiting) :
    entry.lcid = node.lcid ∧
      ∃ channel ∈ node.channelList, entry.srcTcid = channel.srcTcid := by
  obtain ⟨channel, among, held⟩ := mem_flatMap.mp member
  obtain ⟨packet, _, rfl⟩ := mem_map.mp held
  exact ⟨rfl, channel, among, rfl⟩

theorem filter_waiting_ne (others : ∀ node ∈ nodes, node.lcid ≠ lcid) :
    (nodes.flatMap waiting).filter (Waiting.elsewhere lcid srcTcid) =
      nodes.flatMap waiting := by
  apply filter_eq_self.mpr
  intro entry member
  obtain ⟨node, listed, inside⟩ := mem_flatMap.mp member
  simp [Waiting.elsewhere, (mem_waiting inside).1, others node listed]

theorem Formed.filter_waiting (formed : node.Formed priority) (srcTcid : Nat) :
    node.waiting.filter (Waiting.elsewhere node.lcid srcTcid) =
      { node with
        channelList :=
          remove ChannelNode.srcTcid srcTcid node.channelList }.waiting := by
  apply filter_flatMap_remove formed.channels
  intro channel entry member
  obtain ⟨packet, _, rfl⟩ := mem_map.mp member
  simp [Waiting.elsewhere]

end LcidNode

namespace Scheduler

variable {state : Scheduler} {priority other : Priority} {lcid srcTcid : Nat}

/-- What waits at a priority, link by link and channel by channel. -/
def waiting (state : Scheduler) (priority : Priority) : List Waiting :=
  (state.queue priority).lcidList.flatMap LcidNode.waiting

theorem waiting_setQueue (priority : Priority) (queue : PriorityQueue)
    (state : Scheduler) :
    (state.setQueue priority queue).waiting priority =
      queue.lcidList.flatMap LcidNode.waiting := by
  rw [waiting, queue_setQueue]

theorem Formed.waiting_down (formed : state.Formed) (priority : Priority)
    (lcid srcTcid : Nat) :
    (state.channelDownProc priority lcid srcTcid).waiting priority =
      (state.waiting priority).filter (Waiting.elsewhere lcid srcTcid) := by
  unfold Scheduler.channelDownProc
  cases located : state.getLcidNode priority lcid with
  | none =>
    have others := lookup_eq_none.mp located
    refine (LcidNode.filter_waiting_ne fun node member same => ?_).symm
    exact others (mem_map.mpr ⟨node, member, same⟩)
  | some node =>
    obtain ⟨before, after, whole, -, removed, changed⟩ :=
      split_of_lookup located
    have own : node.lcid = lcid := lookup_key located
    subst own
    have unique := (formed.queues priority).lcids
    rw [whole, map_append, map_cons, nodup_append, nodup_cons] at unique
    have parts : (state.waiting priority).filter
        (Waiting.elsewhere node.lcid srcTcid) =
          before.flatMap LcidNode.waiting ++ ({ node with
            channelList :=
              remove ChannelNode.srcTcid srcTcid node.channelList }.waiting ++
                after.flatMap LcidNode.waiting) := by
      rw [waiting, whole, flatMap_append, flatMap_cons, filter_append,
        filter_append, (formed.listed located).filter_waiting,
        LcidNode.filter_waiting_ne, LcidNode.filter_waiting_ne]
      · intro other member same
        exact unique.2.1.1 (mem_map.mpr ⟨other, member, same⟩)
      · intro other member same
        exact unique.2.2 _ (mem_map_of_mem member) _ (.head _) same
    rw [parts]
    dsimp only
    cases listed : lookup ChannelNode.srcTcid srcTcid node.channelList with
    | none =>
      rw [remove_absent listed]
      dsimp only
      split
      next empty =>
        rw [waiting_setQueue, removed, flatMap_append]
        simp [LcidNode.waiting, isEmpty_iff.mp empty]
      · rw [waiting, whole, flatMap_append, flatMap_cons]
    | some channel =>
      change (state.setQueue priority _).waiting priority = _
      rw [waiting_setQueue]
      dsimp only
      split
      next empty =>
        rw [removed, flatMap_append, isEmpty_iff.mp empty]
        rfl
      · rw [changed, flatMap_append, flatMap_cons]
        rfl

theorem Formed.waiting_channelDownProc (formed : state.Formed)
    (priority other : Priority) (lcid srcTcid : Nat) :
    (state.channelDownProc priority lcid srcTcid).waiting other =
      if other = priority then
        (state.waiting other).filter (Waiting.elsewhere lcid srcTcid)
      else state.waiting other := by
  split
  next same =>
    rw [same]
    exact formed.waiting_down priority lcid srcTcid
  next differs =>
    have outcome := channelDownProc_outcome priority lcid srcTcid state
    generalize state.channelDownProc priority lcid srcTcid = result
      at outcome ⊢
    cases outcome with
    | untouched => rfl
    | emptied | closed =>
      change ((state.setQueue priority _).queue other).lcidList.flatMap _ = _
      rw [queue_setQueue_ne differs]
      rfl

theorem waiting_channelDown (inputs : List Input) (lcid srcTcid : Nat)
    (priority : Priority) :
    let state := run step initial inputs
    (state.channelDown lcid srcTcid).waiting priority =
      (state.waiting priority).filter fun entry =>
        entry.lcid ≠ lcid ∨ priority ≠ .fragment ∧ entry.srcTcid ≠ srcTcid := by
  intro state
  have formed : state.Formed :=
    run_invariant_of_step (fun _ input formed => formed.step input)
      initial_formed inputs
  have saved := formed.channelDownProc .fragment lcid fragmentTcid
  have cmd := saved.channelDownProc .cmd lcid srcTcid
  have high := cmd.channelDownProc .high lcid srcTcid
  unfold channelDown
  rw [high.waiting_channelDownProc, cmd.waiting_channelDownProc,
    saved.waiting_channelDownProc, formed.waiting_channelDownProc]
  cases priority with
  | fragment =>
    apply filter_congr
    intro entry member
    obtain ⟨node, listed, inside⟩ := mem_flatMap.mp member
    obtain ⟨link, channel, among, tcid⟩ := LcidNode.mem_waiting inside
    have alone := ((formed.queues .fragment).nodes node listed).alone rfl
    simp [Waiting.elsewhere, tcid, alone channel among]
  | _ =>
    simp only [reduceCtorEq, if_true, if_false]
    exact filter_congr fun entry _ => by simp [Waiting.elsewhere]

end Scheduler

end NearLink.Dtap
