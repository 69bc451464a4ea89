import NearLink.Dtap.Scheduler

/-!
# Queues of the scheduler

Every queue counts its packets at three levels and never lists a link or a
channel twice.  These facts do not depend on what the controller reports, and
every operation on a queue keeps them.
-/

namespace NearLink.Dtap

open Sdf Dli Keyed List Option Scheduler

@[simp] theorem schedSub_eq (minuend subtrahend : Nat) :
    schedSub minuend subtrahend = minuend - subtrahend := by
  unfold schedSub
  split <;> omega

def PendingPacket.isSplited : PendingPacket → Bool
  | whole _ => false
  | splited _ => true

theorem channelPriority_ne_fragment (srcTcid : Nat) :
    channelPriority srcTcid ≠ .fragment := by
  unfold channelPriority
  split
  · exact nofun
  · split <;> exact nofun

namespace LcidNode

def packets (node : LcidNode) : List PendingPacket :=
  node.channelList.flatMap (·.pktList)

def total (node : LcidNode) : Nat :=
  (node.channelList.map (·.pktList.length)).sum

theorem total_eq (node : LcidNode) : node.total = node.packets.length := by
  simp [total, packets, length_flatMap]

structure Formed (priority : Priority) (node : LcidNode) : Prop where
  counted : node.pktCnt = node.total
  channels : (node.channelList.map ChannelNode.srcTcid).Nodup
  kinds : ∀ channel ∈ node.channelList, ∀ packet ∈ channel.pktList,
    packet.isSplited = true ↔ priority = .fragment
  alone : priority = .fragment →
    ∀ channel ∈ node.channelList, channel.srcTcid = fragmentTcid

def popped (srcTcid : Nat) (node : LcidNode) : LcidNode :=
  { node with
    pktCnt := schedSub node.pktCnt 1
    channelList := popChannel srcTcid node.channelList }

def admitted (srcTcid : Nat) (packets : List PendingPacket) (node : LcidNode) : LcidNode :=
  { node with
    pktCnt := node.pktCnt + packets.length
    channelList := modify ChannelNode.srcTcid srcTcid
      (fun channel => { channel with pktList := channel.pktList ++ packets })
      (ensure ChannelNode.srcTcid srcTcid { srcTcid, pktList := [] }
        node.channelList) }

def fresh (lcid : Nat) : LcidNode :=
  { lcid, hasScheduled := false, pktCnt := 0, channelList := [] }

theorem formed_fresh (priority : Priority) (lcid : Nat) :
    (fresh lcid).Formed priority where
  counted := rfl
  channels := nodup_nil
  kinds := nofun
  alone := nofun

variable {priority : Priority} {node : LcidNode} {srcTcid : Nat}
  {packet : PendingPacket}

theorem Formed.peek (formed : node.Formed priority)
    (peeked : priorityQueuePeek node = some (srcTcid, packet)) :
    ∃ rest, lookup ChannelNode.srcTcid srcTcid node.channelList =
      some { srcTcid, pktList := packet :: rest } := by
  unfold priorityQueuePeek at peeked
  split at peeked
  · cases peeked
  · obtain ⟨channel, member, found⟩ := exists_of_findSome?_eq_some peeked
    rw [map_eq_some_iff] at found
    obtain ⟨head, first, same⟩ := found
    cases same
    obtain ⟨rest, list⟩ : ∃ rest, channel.pktList = packet :: rest := by
      cases list : channel.pktList with
      | nil => simp [list] at first
      | cons head' rest =>
        simp only [list, head?_cons, some.injEq] at first
        exact ⟨rest, by rw [first]⟩
    refine ⟨rest, ?_⟩
    rw [lookup_of_mem formed.channels member, ← list]

theorem Formed.peek_of_counted (formed : node.Formed priority)
    (counted : node.pktCnt ≠ 0) :
    ∃ srcTcid packet, priorityQueuePeek node = some (srcTcid, packet) := by
  unfold priorityQueuePeek
  rw [if_neg counted]
  have filled : node.packets ≠ [] := by
    intro empty
    apply counted
    rw [formed.counted, total_eq, empty]
    rfl
  cases found : node.channelList.findSome? (fun channel =>
      channel.pktList.head?.map fun packet => (channel.srcTcid, packet)) with
  | some first => exact ⟨first.1, first.2, rfl⟩
  | none =>
    exfalso
    apply filled
    rw [findSome?_eq_none_iff] at found
    rw [packets, flatMap_eq_nil_iff]
    intro channel member
    have empty := found channel member
    simpa using empty

variable {channels : List ChannelNode} {rest : List PendingPacket}

section

variable
  (found : lookup ChannelNode.srcTcid srcTcid channels =
    some { srcTcid, pktList := packet :: rest })
include found

theorem popChannel_spec :
    (popChannel srcTcid channels = modify ChannelNode.srcTcid srcTcid
          (fun channel => { channel with pktList := channel.pktList.tail })
          channels) ∨
      popChannel srcTcid channels =
        remove ChannelNode.srcTcid srcTcid channels ++
          [{ srcTcid, pktList := rest }] := by
  unfold popChannel
  rw [found]
  by_cases empty : rest = []
  · left
    simp [empty]
  · right
    simp [empty]

theorem popChannel_sum :
    ((popChannel srcTcid channels).map (·.pktList.length)).sum + 1 =
      (channels.map (·.pktList.length)).sum := by
  rcases popChannel_spec found with shape | shape
  · have parts := sum_modify (fun channel => channel.pktList.length)
      (fun channel => { channel with pktList := channel.pktList.tail }) found
    rw [shape]
    simp only [length_cons, tail_cons] at parts
    omega
  · have parts := sum_remove (fun channel => channel.pktList.length) found
    rw [shape]
    simp only [length_cons, map_append, sum_append,
      map_singleton, sum_singleton] at parts ⊢
    omega

end

theorem popChannel_nodup (unique : (channels.map ChannelNode.srcTcid).Nodup)
    (found : lookup ChannelNode.srcTcid srcTcid channels =
      some { srcTcid, pktList := packet :: rest }) :
    ((popChannel srcTcid channels).map ChannelNode.srcTcid).Nodup := by
  rcases popChannel_spec found with shape | shape
  · rw [shape, map_modify]
    · exact unique
    · exact fun _ => rfl
  · rw [shape]
    apply nodup_append_singleton (unique.sublist (remove_sublist.map _))
    exact lookup_eq_none.mp (lookup_remove_self unique)

theorem popChannel_forall {property : ChannelNode → Prop}
    (found : lookup ChannelNode.srcTcid srcTcid channels =
      some { srcTcid, pktList := packet :: rest })
    (all : ∀ channel ∈ channels, property channel)
    (shorter : property { srcTcid, pktList := rest }) :
    ∀ channel ∈ popChannel srcTcid channels, property channel := by
  rcases popChannel_spec found with shape | shape <;> rw [shape]
  · apply forall_modify all
    intro channel located
    rw [found, some.injEq] at located
    exact located ▸ shorter
  · exact forall_mem_append.mpr ⟨
      fun channel earlier => all channel (remove_sublist.subset earlier),
      forall_mem_singleton.mpr shorter⟩

section

variable (formed : node.Formed priority)
include formed

theorem Formed.popped
    (peeked : priorityQueuePeek node = some (srcTcid, packet)) :
    (node.popped srcTcid).Formed priority ∧
      (node.popped srcTcid).pktCnt + 1 = node.pktCnt := by
  obtain ⟨rest, found⟩ := formed.peek peeked
  have sum := popChannel_sum found
  have kinds := formed.kinds _ (lookup_mem found)
  have counted := formed.counted
  unfold total at counted
  refine ⟨⟨?_, popChannel_nodup formed.channels found, ?_, ?_⟩, ?_⟩
  · simp only [LcidNode.popped, total, schedSub_eq]
    omega
  · apply popChannel_forall found formed.kinds
    intro packet member
    exact kinds packet (.tail _ member)
  · intro fragment
    apply popChannel_forall found (formed.alone fragment)
    have channel := formed.alone fragment _ (lookup_mem found)
    exact channel
  · simp only [LcidNode.popped, schedSub_eq]
    omega

theorem Formed.admitted {packets : List PendingPacket}
    (kinds : ∀ packet ∈ packets, packet.isSplited = true ↔ priority = .fragment)
    (alone : priority = .fragment → srcTcid = fragmentTcid) :
    (node.admitted srcTcid packets).Formed priority := by
  obtain ⟨channel, ensured⟩ : ∃ channel, lookup ChannelNode.srcTcid srcTcid
      (ensure ChannelNode.srcTcid srcTcid { srcTcid, pktList := [] }
        node.channelList) = some channel := ⟨_, lookup_ensure_self rfl⟩
  have parts := sum_modify (fun channel => channel.pktList.length)
    (fun channel => { channel with pktList := channel.pktList ++ packets })
    ensured
  rw [sum_ensure _ (by rfl)] at parts
  have counted := formed.counted
  unfold total at counted
  have added {property : ChannelNode → Prop}
      (all : ∀ channel ∈ node.channelList, property channel)
      (new : property { srcTcid, pktList := [] }) :
      ∀ channel ∈ ensure ChannelNode.srcTcid srcTcid
        { srcTcid, pktList := [] } node.channelList, property channel :=
    forall_ensure all new
  refine ⟨?_, ?_, ?_, ?_⟩
  · simp only [LcidNode.admitted, total]
    simp only [length_append] at parts
    omega
  · simp only [LcidNode.admitted]
    rw [map_modify]
    · exact nodup_ensure rfl formed.channels
    · exact fun _ => rfl
  · have all := added formed.kinds (by simp)
    apply forall_modify all
    intro channel located packet member
    rcases mem_append.mp member with earlier | later
    · exact all channel (lookup_mem located) packet earlier
    · exact kinds packet later
  · intro fragment
    have all := added (formed.alone fragment) (alone fragment)
    apply forall_modify all
    intro channel located
    exact all channel (lookup_mem located)

theorem Formed.closed {channel : ChannelNode}
    (found : lookup ChannelNode.srcTcid srcTcid node.channelList = some
      channel) :
    let channels := remove ChannelNode.srcTcid srcTcid node.channelList
    ({ node with
      pktCnt := schedSub node.pktCnt channel.pktList.length
      channelList := channels } : LcidNode).Formed priority ∧
    channel.pktList.length ≤ node.pktCnt ∧
    (channels = [] → node.pktCnt = channel.pktList.length) := by
  have parts := sum_remove (fun channel => channel.pktList.length) found
  have counted := formed.counted
  unfold total at counted
  refine ⟨⟨?_, ?_, ?_, ?_⟩, ?_, ?_⟩
  · simp only [total, schedSub_eq]
    omega
  · exact formed.channels.sublist (remove_sublist.map _)
  · intro other member
    exact formed.kinds other (remove_sublist.subset member)
  · intro fragment other member
    exact formed.alone fragment other (remove_sublist.subset member)
  · omega
  · intro empty
    rw [empty] at parts
    simp only [map_nil, sum_nil] at parts
    omega

end

theorem mem_packets {channel : ChannelNode}
    (member : channel ∈ node.channelList) :
    ∀ packet ∈ channel.pktList, packet ∈ node.packets := fun _ inside =>
  mem_flatMap.mpr ⟨channel, member, inside⟩

theorem mem_packets_popped (formed : node.Formed priority)
    (peeked : priorityQueuePeek node = some (srcTcid, packet)) :
    ∀ later ∈ (node.popped srcTcid).packets, later ∈ node.packets := by
  obtain ⟨rest, found⟩ := formed.peek peeked
  have all := popChannel_forall found (fun channel member =>
    mem_packets member) fun later member =>
      mem_packets (lookup_mem found) later (.tail _ member)
  intro later member
  obtain ⟨channel, inside, listed⟩ := mem_flatMap.mp member
  exact all channel inside later listed

theorem mem_packets_admitted (srcTcid : Nat) (packets : List PendingPacket)
    (node : LcidNode) :
    ∀ later ∈ (node.admitted srcTcid packets).packets,
      later ∈ node.packets ∨ later ∈ packets := by
  have listed : ∀ channel ∈ ensure ChannelNode.srcTcid srcTcid
      { srcTcid, pktList := [] } node.channelList,
      ∀ later ∈ channel.pktList, later ∈ node.packets ∨ later ∈ packets := by
    apply forall_ensure
    · intro channel member later inside
      exact .inl (mem_packets member later inside)
    · simp
  have appended : ∀ channel ∈ (node.admitted srcTcid packets).channelList,
      ∀ later ∈ channel.pktList, later ∈ node.packets ∨ later ∈ packets := by
    apply forall_modify listed
    intro channel located later member
    rcases mem_append.mp member with earlier | last
    · exact listed channel (lookup_mem located) later earlier
    · exact .inr last
  intro later member
  obtain ⟨channel, inside, listed⟩ := mem_flatMap.mp member
  exact appended channel inside later listed

end LcidNode

namespace PriorityQueue

structure Formed (priority : Priority) (queue : PriorityQueue) : Prop where
  lcids : (queue.lcidList.map LcidNode.lcid).Nodup
  nodes : ∀ node ∈ queue.lcidList, node.Formed priority
  counted : queue.pktCnt = (queue.lcidList.map LcidNode.pktCnt).sum

variable {priority : Priority} {queue : PriorityQueue} {lcid : Nat}
  {node : LcidNode}

theorem Formed.modified (change : LcidNode → LcidNode) (pktCnt : Nat)
    (formed : queue.Formed priority)
    (found : lookup LcidNode.lcid lcid queue.lcidList = some node)
    (keeps : ∀ node, (change node).lcid = node.lcid)
    (changed : (change node).Formed priority)
    (counted : pktCnt + node.pktCnt = queue.pktCnt + (change node).pktCnt) :
    ({ lcidList := modify LcidNode.lcid lcid change queue.lcidList
       pktCnt } : PriorityQueue).Formed priority where
  lcids := by
    rw [map_modify keeps]
    exact formed.lcids
  nodes := by
    apply forall_modify formed.nodes
    intro other located
    rw [found, some.injEq] at located
    exact located ▸ changed
  counted := by
    have parts := sum_modify LcidNode.pktCnt change found
    have total := formed.counted
    dsimp only
    omega

theorem Formed.removed {pktCnt : Nat} (formed : queue.Formed priority)
    (found : lookup LcidNode.lcid lcid queue.lcidList = some node)
    (counted : pktCnt + node.pktCnt = queue.pktCnt) :
    ({ lcidList := remove LcidNode.lcid lcid queue.lcidList
       pktCnt } : PriorityQueue).Formed priority where
  lcids := formed.lcids.sublist (remove_sublist.map _)
  nodes := fun other member =>
    formed.nodes other (remove_sublist.subset member)
  counted := by
    have parts := sum_remove LcidNode.pktCnt found
    have total := formed.counted
    dsimp only
    omega

theorem Formed.ensured (formed : queue.Formed priority) (lcid : Nat) :
    ({ queue with
       lcidList := ensure LcidNode.lcid lcid (LcidNode.fresh lcid)
         queue.lcidList } : PriorityQueue).Formed priority where
  lcids := nodup_ensure rfl formed.lcids
  nodes := forall_ensure formed.nodes (LcidNode.formed_fresh priority lcid)
  counted := by
    rw [sum_ensure _ (by rfl)]
    exact formed.counted

end PriorityQueue

end NearLink.Dtap
