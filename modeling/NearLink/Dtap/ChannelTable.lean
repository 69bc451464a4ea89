import NearLink.Dtap.SchedulerSettle

/-!
# The channel table and the scheduler

`dtap_channel.c`: the channels of the logical links are created and destroyed
by activations and releases, and a packet is sent on the channel that is found
for its link and tcid.  The scheduler keeps the same channel objects on its
lists and tells them apart by link and tcid only.

Objects are numbered in the order of their creation.  The packets of an object
that is on a list of the scheduler are the packets of its entry there; an
object that is on no list keeps them itself.
-/

namespace NearLink.Dtap

open Sdf Dli Keyed Transition Option

/-- `DTAP_Channel_S` -/
structure ChannelObject where
  object : Nat
  lcid : Nat
  srcTcid : Nat
  /-- The mode is `CM_TRANS_MODE_TRANSPARENT`. -/
  transparent : Bool
  pktList : List PendingPacket
  deriving DecidableEq

namespace Scheduler

def channelEntry (state : Scheduler) (priority : Priority)
    (lcid srcTcid : Nat) : Option ChannelNode :=
  (state.getLcidNode priority lcid).bind fun node =>
    lookup ChannelNode.srcTcid srcTcid node.channelList

/-- `DTAP_DataSendWithPriority` up to the scheduler run, with the packets that
are on the list of the entry only afterwards. -/
def queuePackets (answers : Answers) (lcid srcTcid : Nat)
    (packets : List PendingPacket) (state : Scheduler) :
    Except Errno Scheduler :=
  let priority := channelPriority srcTcid
  if (state.queue priority).pktCnt ≥ packetMaxSize then
    .error .transExceedMaxErr
  else if ¬ answers.packetAlloc then .error .transMallocErr
  else
    match state.priorityQueuePush answers.lcidNodeAlloc priority lcid srcTcid
        1 with
    | none => .error .transMallocErr
    | some pushed =>
      let queued := pushed.appendPackets priority lcid srcTcid packets
      match queued.getLcidBufferNode lcid with
      | none => .ok queued
      | some node =>
        if node.sendNotAckPktCnt ≥ node.quota ∧
            queued.sendNotAckPktCnt < queued.apBufferNum then
          .ok queued.recalcLcidQuota
        else .ok queued

end Scheduler

/-- `g_dtapLogicLinksMap`, with the channels of all links in one list, and the
scheduler with the object of each entry of its lists. -/
structure ChannelTable where
  channels : List ChannelObject
  nextObject : Nat
  scheduler : Scheduler
  listed : Nat → Nat → Option Nat

namespace ChannelTable

def initial : ChannelTable where
  channels := []
  nextObject := 0
  scheduler := Scheduler.initial
  listed _ _ := none

/-- `DTAP_ChannelSearch` with `DTAP_ChannelFind`: a transparent channel is found
for every tcid. -/
def channelFind (table : ChannelTable) (lcid tcid : Nat) :
    Option ChannelObject :=
  table.channels.find? fun channel =>
    channel.lcid = lcid ∧ (channel.transparent ∨ channel.srcTcid = tcid)

/-- The packets on the `pktList` of a channel. -/
def packets (table : ChannelTable) (channel : ChannelObject) :
    List PendingPacket :=
  if table.listed channel.lcid channel.srcTcid = some channel.object then
    ((table.scheduler.channelEntry (channelPriority channel.srcTcid)
      channel.lcid channel.srcTcid).map ChannelNode.pktList).getD []
  else channel.pktList

def setListed (lcid srcTcid : Nat) (object : Option Nat)
    (table : ChannelTable) : ChannelTable :=
  { table with
    listed := Function.update table.listed lcid
      (Function.update (table.listed lcid) srcTcid object) }

/-- Take a channel from the table and free it (`DTAP_ChannelDestroy`). -/
def channelDestroy (channel : ChannelObject) (table : ChannelTable) :
    ChannelTable :=
  { table with
    channels := remove ChannelObject.object channel.object table.channels }

/-- `DTAP_ChannelAdd`, with the outcome of its allocations. -/
def channelAdd (lcid srcTcid : Nat) (transparent created : Bool)
    (table : ChannelTable) : ChannelTable :=
  let cleared :=
    match table.channelFind lcid srcTcid with
    | none => table
    | some channel => table.channelDestroy channel
  if created then
    { cleared with
      channels :=
        { object := table.nextObject, lcid, srcTcid, transparent,
          pktList := [] } :: cleared.channels
      nextObject := table.nextObject + 1 }
  else cleared

def channelDel (lcid srcTcid : Nat) (table : ChannelTable) : ChannelTable :=
  match table.channelFind lcid srcTcid with
  | none => table
  | some channel =>
    { table with
      scheduler := table.scheduler.channelDown lcid srcTcid }
      |>.setListed lcid srcTcid none
      |>.channelDestroy channel

/-- A channel joins the list of its link unless one of the same identity is
there (`DTAP_InsertChannelToLcidNode`). -/
def Joins (table : ChannelTable) (channel : ChannelObject) : Prop :=
  table.listed channel.lcid channel.srcTcid = none ∨
    table.listed channel.lcid channel.srcTcid = some channel.object

instance (table : ChannelTable) (channel : ChannelObject) :
    Decidable (table.Joins channel) :=
  inferInstanceAs (Decidable (_ ∨ _))

def setPackets (channel : ChannelObject) (packets : List PendingPacket)
    (table : ChannelTable) : ChannelTable :=
  { table with
    channels := modify ChannelObject.object channel.object
      (fun found => { found with pktList := packets }) table.channels }

/-- `DTAP_DataSendWithPriority` on the channel that is found. -/
def dataSend (answers : Answers) (lcid tcid : Nat) (buff : Bytes)
    (table : ChannelTable) : ChannelTable :=
  match table.channelFind lcid tcid with
  | none => table
  | some channel =>
    let packets := channel.pktList ++ [.whole buff]
    if table.Joins channel then
      match table.scheduler.queuePackets answers channel.lcid
          channel.srcTcid packets with
      | .error _ => table
      | .ok queued =>
        { table with scheduler := queued.schedulerRun answers }
          |>.setListed channel.lcid channel.srcTcid (some channel.object)
          |>.setPackets channel []
    else
      -- counted for the entry of the other object, appended to this one
      match table.scheduler.queuePackets answers channel.lcid
          channel.srcTcid [] with
      | .error _ => table
      | .ok queued =>
        { table with scheduler := queued.schedulerRun answers }
          |>.setPackets channel packets

inductive Event where
  | activate (lcid srcTcid : Nat) (transparent created : Bool)
  | release (lcid srcTcid : Nat)
  | send (answers : Answers) (lcid tcid : Nat) (buff : Bytes)
  | callback (input : Scheduler.Input)

def step (table : ChannelTable) : Event → ChannelTable
  | .activate lcid srcTcid transparent created =>
    table.channelAdd lcid srcTcid transparent created
  | .release lcid srcTcid => table.channelDel lcid srcTcid
  | .send answers lcid tcid buff => table.dataSend answers lcid tcid buff
  | .callback input =>
    match input.event with
    | .dataSend _ _ _ => table
    | .channelDown _ _ => table
    | _ => { table with scheduler := table.scheduler.step input }

structure Consistent (table : ChannelTable) : Prop where
  entries : ∀ priority, priority ≠ .fragment →
    ∀ node ∈ (table.scheduler.queue priority).lcidList,
      ∀ entry ∈ node.channelList,
        ∃ channel ∈ table.channels, channel.lcid = node.lcid ∧
          channel.srcTcid = entry.srcTcid ∧
          table.listed node.lcid entry.srcTcid = some channel.object
  queued : ∀ channel ∈ table.channels, table.packets channel ≠ [] →
    table.listed channel.lcid channel.srcTcid = some channel.object ∧
      (table.scheduler.channelEntry (channelPriority channel.srcTcid)
        channel.lcid channel.srcTcid).isSome = true

/-- The event destroys no channel that stays on a list of the scheduler, and
queues no packet on a channel while another one of the same identity is on the
list. -/
def KeepsIdentity (table : ChannelTable) : Event → Prop
  | .activate lcid srcTcid _ _ =>
    ∀ channel, table.channelFind lcid srcTcid = some channel →
      table.listed channel.lcid channel.srcTcid ≠ some channel.object
  | .release lcid srcTcid =>
    ∀ channel, table.channelFind lcid srcTcid = some channel →
      channel.srcTcid = srcTcid ∨
        table.listed channel.lcid channel.srcTcid ≠ some channel.object
  | .send answers lcid tcid _ =>
    ∀ channel, table.channelFind lcid tcid = some channel →
      table.Joins channel ∨
        ∃ errno, table.scheduler.queuePackets answers channel.lcid
          channel.srcTcid [] = .error errno
  | .callback _ => True

end ChannelTable

namespace Scheduler

variable {answers : Answers} {state next : Scheduler}
  {priority other : Priority} {lcid srcTcid link tcid : Nat} {node : LcidNode}

def Lists (state : Scheduler) (priority : Priority) (lcid srcTcid : Nat) :
    Prop :=
  (state.channelEntry priority lcid srcTcid).isSome = true

theorem channelEntry_eq (state : Scheduler) (priority : Priority)
    (lcid srcTcid : Nat) :
    state.channelEntry priority lcid srcTcid =
      (state.linkQueue priority lcid).bind fun queued =>
        lookup ChannelNode.srcTcid srcTcid queued.2 := by
  unfold channelEntry linkQueue
  cases state.getLcidNode priority lcid <;> rfl

theorem lists_congr
    (same : next.linkQueue priority lcid = state.linkQueue priority lcid) :
    next.Lists priority lcid srcTcid ↔ state.Lists priority lcid srcTcid := by
  unfold Lists
  rw [channelEntry_eq, channelEntry_eq, same]

theorem OnlyLink.lists (only : OnlyLink priority lcid state next)
    (differs : other ≠ priority ∨ link ≠ lcid) (tcid : Nat) :
    next.Lists other link tcid ↔ state.Lists other link tcid :=
  lists_congr (only.queues other link differs)

theorem lists_enqueue (priority : Priority) (lcid srcTcid : Nat)
    (packets : List PendingPacket) (state : Scheduler) (other : Priority)
    (link tcid : Nat) :
    (state.enqueue priority lcid srcTcid packets).Lists other link tcid ↔
      state.Lists other link tcid ∨
        (other = priority ∧ link = lcid ∧ tcid = srcTcid) := by
  by_cases same : other = priority ∧ link = lcid
  · obtain ⟨rfl, rfl⟩ := same
    unfold Lists
    rw [channelEntry_eq, linkQueue_enqueue, bind_some]
    unfold LcidNode.admitted
    by_cases own : tcid = srcTcid
    · subst own
      rw [lookup_modify_self (by intro; rfl), lookup_ensure_self (by rfl)]
      simp
    · rw [lookup_modify_ne (by intro; rfl) own, lookup_ensure_ne (by rfl) own]
      unfold channelEntry
      cases state.getLcidNode other link with
      | none => simp [own, LcidNode.fresh, lookup]
      | some node => simp [own]
  · rw [(onlyLink_enqueue priority lcid srcTcid packets state).lists (by tauto)]
    tauto

theorem Formed.lists_pop {packet : PendingPacket} (formed : state.Formed)
    (found : state.getLcidNode priority lcid = some node)
    (peeked : priorityQueuePeek node = some (srcTcid, packet))
    (other : Priority) (link tcid : Nat) :
    (state.priorityQueuePop priority lcid srcTcid).Lists other link tcid ↔
      state.Lists other link tcid := by
  by_cases same : other = priority ∧ link = lcid
  · obtain ⟨rfl, rfl⟩ := same
    obtain ⟨rest, located⟩ := (formed.listed found).peek peeked
    unfold Lists
    rw [channelEntry_eq, linkQueue_pop found, bind_some]
    unfold channelEntry LcidNode.popped
    rw [found, bind_some]
    rcases LcidNode.popChannel_spec located with shape | shape
    · rw [shape]
      by_cases own : tcid = srcTcid
      · subst own
        rw [lookup_modify_self (by intro; rfl), isSome_map]
      · rw [lookup_modify_ne (by intro; rfl) own]
    · rw [shape, lookup_append]
      by_cases own : tcid = srcTcid
      · subst own
        simp [located]
      · rw [lookup_remove_ne own]
        simp [Ne.symm own]
  · exact (onlyLink_pop priority lcid srcTcid state).lists (by tauto) tcid

theorem kept_lists (answers : Answers) (lists : Priority → Nat → Nat → Prop) :
    Kept answers (fun state => state.Formed ∧
      ∀ priority, priority ≠ .fragment → ∀ lcid srcTcid,
        state.Lists priority lcid srcTcid ↔ lists priority lcid srcTcid) where
  sendData isSplited fragment holds can :=
    ⟨(kept_formed answers).sendData isSplited fragment holds.1 can, holds.2⟩
  takeCredit holds can :=
    ⟨(kept_formed answers).takeCredit holds.1 can, holds.2⟩
  split pdFlag holds := ⟨(kept_formed answers).split pdFlag holds.1, holds.2⟩
  pop holds found peeked _ := by
    refine ⟨holds.1.pop found peeked, ?_⟩
    intro other later link tcid
    rw [holds.1.lists_pop found peeked]
    exact holds.2 other later link tcid
  save fragments holds stopped := by
    refine ⟨(kept_formed answers).save fragments holds.1 stopped, ?_⟩
    intro other later link tcid
    rw [(onlyLink_enqueue .fragment _ fragmentTcid _ _).lists (.inl later)]
    exact holds.2 other later link tcid
  noPacket holds found counted peeked :=
    ⟨(kept_formed answers).noPacket holds.1 found counted peeked, holds.2⟩
  mark priority lcid holds := by
    refine ⟨holds.1.mark priority lcid, ?_⟩
    intro other later link tcid
    rw [lists_congr (linkQueue_mark priority other lcid link _)]
    exact holds.2 other later link tcid
  rotate priority holds := by
    refine ⟨holds.1.rotate priority, ?_⟩
    intro other later link tcid
    rw [lists_congr (holds.1.linkQueue_rotate priority other link)]
    exact holds.2 other later link tcid

theorem lists_down (found : state.getLcidNode priority lcid = some node)
    (gone : lookup LcidNode.lcid lcid (remove LcidNode.lcid lcid
      (state.queue priority).lcidList) = none) :
    (state.channelDownProc priority lcid srcTcid).Lists priority lcid tcid ↔
      (lookup ChannelNode.srcTcid tcid (remove ChannelNode.srcTcid srcTcid
        node.channelList)).isSome = true := by
  have removed {pktCnt : Nat}
      (none : remove ChannelNode.srcTcid srcTcid node.channelList = []) :
      (state.setQueue priority
        { lcidList := remove LcidNode.lcid lcid
            (state.queue priority).lcidList
          pktCnt }).Lists priority lcid tcid ↔
        (lookup ChannelNode.srcTcid tcid (remove ChannelNode.srcTcid srcTcid
          node.channelList)).isSome = true := by
    unfold Lists
    rw [channelEntry_eq, linkQueue_setQueue, gone, none]
    simp [lookup]
  unfold Scheduler.channelDownProc
  rw [found]
  dsimp only
  split
  next absent =>
    rw [remove_absent absent]
    split
    next empty =>
      have none : remove ChannelNode.srcTcid srcTcid node.channelList = [] :=
        (remove_absent absent).trans (by simpa using empty)
      rw [removed none, remove_absent absent]
    · unfold Lists channelEntry
      rw [found, bind_some]
  next channel listed =>
    split
    next empty =>
      exact removed (by simpa using empty)
    · change (state.setQueue priority _).Lists priority lcid tcid ↔ _
      unfold Lists
      rw [channelEntry_eq, linkQueue_setQueue]
      rw [lookup_modify_self (by intro; rfl),
        show lookup LcidNode.lcid lcid (state.queue priority).lcidList =
          some node from found]
      rfl

theorem Formed.lists_channelDownProc (formed : state.Formed)
    (priority : Priority) (lcid srcTcid : Nat) (other : Priority)
    (link tcid : Nat) :
    (state.channelDownProc priority lcid srcTcid).Lists other link tcid ↔
      state.Lists other link tcid ∧
        ¬ (other = priority ∧ link = lcid ∧ tcid = srcTcid) := by
  by_cases same : other = priority ∧ link = lcid
  · obtain ⟨rfl, rfl⟩ := same
    have gone : lookup LcidNode.lcid link (remove LcidNode.lcid link
        (state.queue other).lcidList) = none :=
      lookup_remove_self (formed.queues other).lcids
    cases found : state.getLcidNode other link with
    | none =>
      have absent : ¬ state.Lists other link tcid := by
        simp [Lists, channelEntry, found]
      have untouched : state.channelDownProc other link srcTcid = state := by
        unfold Scheduler.channelDownProc
        rw [found]
      rw [untouched]
      tauto
    | some node =>
      have before : state.Lists other link tcid ↔
          (lookup ChannelNode.srcTcid tcid node.channelList).isSome =
            true := by
        unfold Lists channelEntry
        rw [found, bind_some]
      rw [before, lists_down found gone]
      by_cases own : tcid = srcTcid
      · subst own
        simp [lookup_remove_self (formed.listed found).channels]
      · rw [lookup_remove_ne own]
        simp [own]
  · rw [(channelDownProc_outcome priority lcid srcTcid
      state).onlyLink.lists (by tauto)]
    tauto

theorem Formed.lists_channelDown (formed : state.Formed)
    (lcid srcTcid : Nat) (later : other ≠ .fragment) (link tcid : Nat) :
    (state.channelDown lcid srcTcid).Lists other link tcid ↔
      state.Lists other link tcid ∧ ¬ (link = lcid ∧ tcid = srcTcid) := by
  have saved := formed.channelDownProc .fragment lcid fragmentTcid
  have cmd := saved.channelDownProc .cmd lcid srcTcid
  have high := cmd.channelDownProc .high lcid srcTcid
  unfold channelDown
  rw [high.lists_channelDownProc, cmd.lists_channelDownProc,
    saved.lists_channelDownProc, formed.lists_channelDownProc]
  cases other with
  | fragment => exact absurd rfl later
  | _ => simp

theorem SameQueues.lists (same : SameQueues state next) :
    next.Lists priority lcid srcTcid ↔ state.Lists priority lcid srcTcid := by
  unfold Lists channelEntry getLcidNode
  rw [same.1]

theorem Formed.lists_schedulerRun (formed : state.Formed)
    (answers : Answers) (later : priority ≠ .fragment) (lcid srcTcid : Nat) :
    (state.schedulerRun answers).Lists priority lcid srcTcid ↔
      state.Lists priority lcid srcTcid :=
  ((kept_lists answers state.Lists).schedulerRun
    ⟨formed, fun _ _ _ _ => Iff.rfl⟩).2 priority later lcid srcTcid

theorem Formed.lists_callback (formed : state.Formed) {input : Input}
    (noSend : ∀ lcid srcTcid buff, input.event ≠ .dataSend lcid srcTcid buff)
    (noDown : ∀ lcid srcTcid, input.event ≠ .channelDown lcid srcTcid)
    (later : priority ≠ .fragment) (lcid srcTcid : Nat) :
    (state.step input).Lists priority lcid srcTcid ↔
      state.Lists priority lcid srcTcid := by
  obtain ⟨event, answers⟩ := input
  cases event with
  | dataSend lcid srcTcid buff => exact absurd rfl (noSend lcid srcTcid buff)
  | sendComplete connHandle numCompletedPackets =>
    unfold Scheduler.step sendCompleteCbk
    dsimp only
    split
    · exact Iff.rfl
    · have returned := formed.returnCredit answers connHandle
        numCompletedPackets
      rw [returned.lists_schedulerRun answers later]
      exact (sameQueues_returnCredit answers connHandle numCompletedPackets
        state).lists
  | connect connHandle =>
    exact (sameQueues_connect answers connHandle state).lists
  | disconnect connHandle =>
    exact (sameQueues_disconnect answers connHandle state).lists
  | setApBufferNum bufferNum => exact Iff.rfl
  | dataNumChange isAcb dataNum =>
    unfold Scheduler.step dataNumChangecbk
    dsimp only
    split
    · exact (sameQueues_continueAssign answers
        (state.setApBufferNum dataNum)).lists
    · exact Iff.rfl
  | channelDown lcid srcTcid => exact absurd rfl (noDown lcid srcTcid)

theorem Formed.lists_queuePacket {buff : Bytes} {queued : Scheduler}
    (formed : state.Formed)
    (done : state.queuePackets answers lcid srcTcid [.whole buff] = .ok queued)
    (later : priority ≠ .fragment) (link tcid : Nat) :
    (queued.schedulerRun answers).Lists priority link tcid ↔
      state.Lists priority link tcid ∨
        (priority = channelPriority srcTcid ∧ link = lcid ∧
          tcid = srcTcid) := by
  have packet : state.queuePacket answers lcid srcTcid buff = .ok queued :=
    done
  have listed := lists_enqueue (channelPriority srcTcid) lcid srcTcid
    [.whole buff] state priority link tcid
  rw [(formed.queuePacket packet).lists_schedulerRun answers later, ← listed]
  rcases queuePacket_spec packet with rfl | rfl
  · exact Iff.rfl
  · exact Iff.rfl

end Scheduler

namespace ChannelTable

variable {table : ChannelTable} {channel : ChannelObject}
  {lcid srcTcid tcid : Nat}

structure Linked (table : ChannelTable) : Prop where
  formed : table.scheduler.Formed
  entries : ∀ priority, priority ≠ .fragment → ∀ lcid srcTcid,
    table.scheduler.Lists priority lcid srcTcid ↔
      priority = channelPriority srcTcid ∧
        (table.listed lcid srcTcid).isSome = true
  live : ∀ lcid srcTcid object, table.listed lcid srcTcid = some object →
    ∃ channel ∈ table.channels, channel.object = object ∧
      channel.lcid = lcid ∧ channel.srcTcid = srcTcid
  idle : ∀ channel ∈ table.channels, channel.pktList = []
  objects : (table.channels.map ChannelObject.object).Nodup
  fresh : ∀ channel ∈ table.channels, channel.object < table.nextObject

theorem channelFind_spec (found : table.channelFind lcid tcid = some channel) :
    channel ∈ table.channels ∧ channel.lcid = lcid := by
  have named := List.find?_some found
  simp only [decide_eq_true_eq] at named
  exact ⟨List.mem_of_find?_eq_some found, named.1⟩

theorem Linked.same_channel (linked : table.Linked) {other : ChannelObject}
    (member : channel ∈ table.channels) (memberToo : other ∈ table.channels)
    (same : other.object = channel.object) : other = channel := by
  have one := lookup_of_mem linked.objects member
  have two := lookup_of_mem linked.objects memberToo
  rw [same, one, some.injEq] at two
  exact two.symm

theorem Linked.consistent (linked : table.Linked) : table.Consistent where
  entries priority later node listed entry member := by
    have located : table.scheduler.getLcidNode priority node.lcid = some node :=
      lookup_of_mem (linked.formed.queues priority).lcids listed
    have lists : table.scheduler.Lists priority node.lcid entry.srcTcid := by
      unfold Scheduler.Lists Scheduler.channelEntry
      rw [located, bind_some, lookup_of_mem
        ((linked.formed.queues priority).nodes node listed).channels member]
      rfl
    obtain ⟨-, some⟩ := (linked.entries priority later _ _).mp lists
    obtain ⟨object, held⟩ := isSome_iff_exists.mp some
    obtain ⟨channel, inside, named, link, tcid⟩ :=
      linked.live _ _ object held
    exact ⟨channel, inside, link, tcid, named ▸ held⟩
  queued channel member waiting := by
    by_cases held : table.listed channel.lcid channel.srcTcid =
        some channel.object
    · refine ⟨held, ?_⟩
      apply (linked.entries _ (channelPriority_ne_fragment _) _ _).mpr
      exact ⟨rfl, by rw [held]; rfl⟩
    · unfold packets at waiting
      rw [if_neg held] at waiting
      exact absurd (linked.idle channel member) waiting

theorem listed_setListed (lcid srcTcid : Nat) (object : Option Nat)
    (table : ChannelTable) (link tcid : Nat) :
    (table.setListed lcid srcTcid object).listed link tcid =
      if link = lcid ∧ tcid = srcTcid then object
      else table.listed link tcid := by
  unfold setListed
  by_cases same : link = lcid
  · subst same
    by_cases own : tcid = srcTcid
    · simp [own]
    · simp [own]
  · simp [same]

section

variable (linked : table.Linked) {answers : Answers} {buff : Bytes}
include linked

theorem Linked.destroy (member : channel ∈ table.channels)
    (unlisted : table.listed channel.lcid channel.srcTcid ≠ some
      channel.object) :
    (table.channelDestroy channel).Linked := { linked with
  live lcid srcTcid object held := by
    obtain ⟨other, inside, named, link, tcid⟩ :=
      linked.live lcid srcTcid object held
    refine ⟨other, (mem_remove linked.objects).mpr ⟨inside, ?_⟩, named, link,
      tcid⟩
    intro same
    rw [linked.same_channel member inside same] at named link tcid
    rw [link, tcid, named] at unlisted
    exact unlisted held
  idle other inside := linked.idle other (remove_sublist.subset inside)
  objects := linked.objects.sublist (remove_sublist.map _)
  fresh other inside := linked.fresh other (remove_sublist.subset inside) }

theorem Linked.create (lcid srcTcid : Nat) (transparent : Bool) : ({ table with
      channels :=
        { object := table.nextObject, lcid, srcTcid, transparent,
          pktList := [] } :: table.channels
      nextObject := table.nextObject + 1 } : ChannelTable).Linked :=
  { linked with
  live lcid srcTcid object held := by
    obtain ⟨other, inside, named⟩ := linked.live lcid srcTcid object held
    exact ⟨other, .tail _ inside, named⟩
  idle := List.forall_mem_cons.mpr ⟨rfl, linked.idle⟩
  objects := by
    rw [List.map_cons, List.nodup_cons]
    refine ⟨?_, linked.objects⟩
    intro taken
    obtain ⟨other, inside, same⟩ := List.mem_map.mp taken
    exact Nat.lt_irrefl _ (same ▸ linked.fresh other inside)
  fresh := List.forall_mem_cons.mpr ⟨Nat.lt_succ_self _,
    fun other inside => Nat.lt_succ_of_lt (linked.fresh other inside)⟩ }

theorem Linked.add (transparent created : Bool)
    (keeps : ∀ channel, table.channelFind lcid srcTcid = some channel →
      table.listed channel.lcid channel.srcTcid ≠ some channel.object) :
    (table.channelAdd lcid srcTcid transparent created).Linked := by
  unfold channelAdd
  cases found : table.channelFind lcid srcTcid with
  | none =>
    dsimp only
    split
    · exact linked.create lcid srcTcid transparent
    · exact linked
  | some channel =>
    have destroyed := linked.destroy (channelFind_spec found).1
      (keeps channel found)
    dsimp only
    split
    · exact destroyed.create lcid srcTcid transparent
    · exact destroyed

theorem Linked.unlist (lcid srcTcid : Nat) : (({ table with
      scheduler := table.scheduler.channelDown lcid srcTcid } :
        ChannelTable).setListed lcid srcTcid none).Linked := { linked with
  formed := linked.formed.step ⟨.channelDown lcid srcTcid, .granted 0⟩
  entries priority later link tcid := by
    rw [listed_setListed]
    change (table.scheduler.channelDown lcid srcTcid).Lists priority link
      tcid ↔ _
    rw [linked.formed.lists_channelDown lcid srcTcid later,
      linked.entries priority later]
    by_cases own : link = lcid ∧ tcid = srcTcid
    · simp [own]
    · simp [own]
  live link tcid object held := by
    rw [listed_setListed] at held
    split at held
    · cases held
    · exact linked.live link tcid object held }

theorem Linked.del
    (keeps : ∀ channel, table.channelFind lcid srcTcid = some channel →
      channel.srcTcid = srcTcid ∨
        table.listed channel.lcid channel.srcTcid ≠ some channel.object) :
    (table.channelDel lcid srcTcid).Linked := by
  unfold channelDel
  cases found : table.channelFind lcid srcTcid with
  | none => exact linked
  | some channel =>
    obtain ⟨member, link⟩ := channelFind_spec found
    apply (linked.unlist lcid srcTcid).destroy member
    rw [listed_setListed]
    split
    · exact nofun
    next elsewhere =>
      rcases keeps channel found with own | unlisted
      · exact absurd ⟨link, own⟩ elsewhere
      · exact unlisted

theorem Linked.join {queued : Scheduler} (member : channel ∈ table.channels)
    (done : table.scheduler.queuePackets answers channel.lcid channel.srcTcid
      [.whole buff] = .ok queued) :
    (({ table with scheduler := queued.schedulerRun answers } :
      ChannelTable).setListed channel.lcid channel.srcTcid
        (some channel.object)).Linked := { linked with
  formed := (Scheduler.kept_formed answers).schedulerRun
    (linked.formed.queuePacket done)
  entries priority later link tcid := by
    rw [listed_setListed]
    change (queued.schedulerRun answers).Lists priority link tcid ↔ _
    rw [linked.formed.lists_queuePacket done later,
      linked.entries priority later]
    by_cases own : link = channel.lcid ∧ tcid = channel.srcTcid
    · simp only [own, and_true, if_true, isSome_some]
      tauto
    · simp [own]
  live link tcid object held := by
    rw [listed_setListed] at held
    split at held
    next own =>
      exact ⟨channel, member, some.inj held, own.1.symm, own.2.symm⟩
    · exact linked.live link tcid object held }

theorem Linked.send
    (keeps : ∀ channel, table.channelFind lcid tcid = some channel →
      table.Joins channel ∨
        ∃ errno, table.scheduler.queuePackets answers channel.lcid
          channel.srcTcid [] = .error errno) :
    (table.dataSend answers lcid tcid buff).Linked := by
  unfold dataSend
  cases found : table.channelFind lcid tcid with
  | none => exact linked
  | some channel =>
    obtain ⟨member, -⟩ := channelFind_spec found
    have none := linked.idle channel member
    dsimp only
    rw [none, List.nil_append]
    split
    · split
      · exact linked
      next queued done =>
        have joined := linked.join member done
        have same : modify ChannelObject.object channel.object
            (fun found => { found with pktList := [] }) table.channels =
              table.channels := by
          apply modify_eq_self
          intro other inside
          rw [← linked.idle other inside]
        unfold setPackets
        exact ⟨joined.formed, joined.entries, same.symm ▸ joined.live,
          same.symm ▸ joined.idle, same.symm ▸ joined.objects,
          same.symm ▸ joined.fresh⟩
    next apart =>
      obtain ⟨errno, refused⟩ := (keeps channel found).resolve_left apart
      rw [refused]
      exact linked

theorem Linked.step (event : Event) (keeps : table.KeepsIdentity event) :
    (table.step event).Linked := by
  cases event with
  | activate lcid srcTcid transparent created =>
    exact linked.add transparent created keeps
  | release lcid srcTcid => exact linked.del keeps
  | send answers lcid tcid buff => exact linked.send keeps
  | callback input =>
    unfold ChannelTable.step
    dsimp only
    split
    · exact linked
    · exact linked
    next noSend noDown =>
      refine { linked with
        formed := linked.formed.step input
        entries := ?_ }
      intro priority later lcid srcTcid
      rw [← linked.entries priority later]
      exact linked.formed.lists_callback noSend noDown later lcid srcTcid

end

theorem Consistent.channel_of_listed (consistent : table.Consistent)
    {object : Nat} (held : table.listed lcid srcTcid = some object)
    (lists : table.scheduler.Lists (channelPriority srcTcid) lcid srcTcid) :
    ∃ channel ∈ table.channels, channel.object = object := by
  obtain ⟨entry, located⟩ := isSome_iff_exists.mp lists
  obtain ⟨node, found, listed⟩ := bind_eq_some_iff.mp located
  obtain ⟨channel, inside, -, -, named⟩ := consistent.entries _
    (channelPriority_ne_fragment srcTcid) node (lookup_mem found) entry
      (lookup_mem listed)
  rw [lookup_key found, lookup_key listed, held, some.injEq] at named
  exact ⟨channel, inside, named.symm⟩

section

variable (linked : table.Linked)
include linked

theorem Linked.lists_of_held {object : Nat}
    (held : table.listed lcid srcTcid = some object) :
    table.scheduler.Lists (channelPriority srcTcid) lcid srcTcid := by
  apply (linked.entries _ (channelPriority_ne_fragment srcTcid) _ _).mpr
  exact ⟨rfl, by rw [held]; rfl⟩

theorem Linked.keeps_of_add {transparent created : Bool} (consistent :
      (table.channelAdd lcid srcTcid transparent created).Consistent)
    (found : table.channelFind lcid srcTcid = some channel) :
    table.listed channel.lcid channel.srcTcid ≠ some channel.object := by
  intro held
  obtain ⟨member, -⟩ := channelFind_spec found
  have lists := linked.lists_of_held held
  unfold channelAdd at consistent
  rw [found] at consistent
  dsimp only at consistent
  split at consistent
  · obtain ⟨other, inside, same⟩ := consistent.channel_of_listed held lists
    rcases List.mem_cons.mp inside with rfl | kept
    · exact Nat.lt_irrefl _ (same ▸ linked.fresh channel member)
    · exact ((mem_remove linked.objects).mp kept).2 same
  · obtain ⟨other, kept, same⟩ := consistent.channel_of_listed held lists
    exact ((mem_remove linked.objects).mp kept).2 same

theorem Linked.keeps_of_del
    (consistent : (table.channelDel lcid srcTcid).Consistent)
    (found : table.channelFind lcid srcTcid = some channel) :
    channel.srcTcid = srcTcid ∨
      table.listed channel.lcid channel.srcTcid ≠ some channel.object := by
  by_cases own : channel.srcTcid = srcTcid
  · exact .inl own
  · right
    intro held
    unfold channelDel at consistent
    rw [found] at consistent
    have still := (linked.formed.lists_channelDown lcid srcTcid
      (channelPriority_ne_fragment channel.srcTcid) channel.lcid
      channel.srcTcid).mpr ⟨linked.lists_of_held held, by tauto⟩
    have kept : (({ table with
        scheduler := table.scheduler.channelDown lcid srcTcid } :
          ChannelTable).setListed lcid srcTcid none).listed channel.lcid
            channel.srcTcid = some channel.object := by
      rw [listed_setListed, if_neg (by tauto)]
      exact held
    obtain ⟨other, inside, same⟩ := consistent.channel_of_listed kept still
    exact ((mem_remove linked.objects).mp inside).2 same

theorem Linked.keeps_of_send {answers : Answers} {buff : Bytes}
    (consistent : (table.dataSend answers lcid tcid buff).Consistent)
    (found : table.channelFind lcid tcid = some channel) : table.Joins channel ∨
      ∃ errno, table.scheduler.queuePackets answers channel.lcid
        channel.srcTcid [] = .error errno := by
  by_cases joins : table.Joins channel
  · exact .inl joins
  · right
    obtain ⟨member, -⟩ := channelFind_spec found
    unfold dataSend at consistent
    rw [found] at consistent
    dsimp only at consistent
    rw [if_neg joins] at consistent
    split at consistent
    next errno refused =>
      exact ⟨errno, refused⟩
    · exfalso
      have located := lookup_of_mem linked.objects member
      have moved : lookup ChannelObject.object channel.object
          (modify ChannelObject.object channel.object
            (fun found => { found with
              pktList := channel.pktList ++ [PendingPacket.whole buff] })
            table.channels) = some { channel with
              pktList := channel.pktList ++ [PendingPacket.whole buff] } := by
        rw [lookup_modify_self (by intro; rfl), located]
        rfl
      have elsewhere : table.listed channel.lcid channel.srcTcid ≠
          some channel.object := fun held => joins (.inr held)
      have waiting := consistent.queued _ (lookup_mem moved)
      apply elsewhere
      apply (waiting _).1
      unfold packets setPackets
      rw [if_neg elsewhere]
      simp

theorem Linked.keepsIdentity (event : Event)
    (consistent : (table.step event).Consistent) :
    table.KeepsIdentity event := by
  cases event with
  | activate lcid srcTcid transparent created =>
    exact fun _ found => linked.keeps_of_add consistent found
  | release lcid srcTcid =>
    exact fun _ found => linked.keeps_of_del consistent found
  | send answers lcid tcid buff =>
    exact fun _ found => linked.keeps_of_send consistent found
  | callback input => trivial

end

theorem initial_linked : initial.Linked where
  formed := Scheduler.initial_formed
  entries priority later lcid srcTcid := by
    constructor
    · exact nofun
    · rintro ⟨-, ⟨⟩⟩
  live := nofun
  idle := nofun
  objects := List.nodup_nil
  fresh := nofun

/-- Channel table and scheduler agree in every state of a run exactly when no
event of the run destroys a channel that stays on a list of the scheduler, or
queues a packet on a channel while another one of the same identity is on the
list. -/
theorem consistent_iff (events : List Event) :
    Always step Consistent initial events ↔
      Meets step KeepsIdentity initial events := by
  have sound (table : ChannelTable) (linked : table.Linked) :
      table.Consistent := linked.consistent
  exact always_iff_meets sound
    (fun _ event linked keeps => linked.step event keeps)
    (fun _ event linked consistent => linked.keepsIdentity event consistent)
    initial_linked

def reactivated : List Event :=
  [.activate 1 0x20 false true, .send (.granted 10) 1 0x20 [7],
    .activate 1 0x20 false true]

theorem consistent_fails :
    ¬ Always step Consistent initial reactivated := by
  intro always
  have entries := always.at_end.entries .normal nofun
  revert entries
  decide +kernel

end ChannelTable

end NearLink.Dtap
