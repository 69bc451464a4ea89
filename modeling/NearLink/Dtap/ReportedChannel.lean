import NearLink.Dtap.ChannelTable
import NearLink.Dtap.SendWindow
import NearLink.Dtap.StreamTimer

/-!
# The channel that received data names

Every mode fills the `DTAP_Data_Info_S` of its receive callback itself, and the
upper layer answers on the channel that the search finds for it.
-/

namespace NearLink.Dtap

open Sdf Transition Keyed List Nat

def tcidSleSmtc : Nat := 0x0A

def basicModeMaxCacheNum : Nat := 64

/-- `DTAP_BasicCacheFrame_S`; the callback is kept with the frame. -/
structure BasicCacheFrame where
  buff : Bytes
  info : DataInfo
  recvCb : Bool

/-- `DTAP_Basic_Channel_S`, with the identity of its channel and the calls of
the receive callback so far. -/
structure Basic where
  lcid : Nat
  srcTcid : Nat
  isReady : Bool
  cacheRxBuffs : List BasicCacheFrame
  up : List (DataInfo × Bytes)

namespace Basic

def basicChannelCreate (lcid srcTcid : Nat) : Basic where
  lcid
  srcTcid
  isReady := srcTcid != tcidSleSmtc
  cacheRxBuffs := []
  up := []

/-- `DTAP_RecvBasicFrame`; the error it returns is only logged. -/
def recvBasicFrame (alloc recvCb : Bool) (frame : Frame) (basic : Basic) :
    Basic :=
  match frame.buff.trimPrefix frame.headerLen with
  | none => basic
  | some buff =>
    let info : DataInfo :=
      { pi := frame.pi, lcid := basic.lcid, tcid := basic.srcTcid }
    if !basic.isReady then
      if basic.cacheRxBuffs.length ≤ basicModeMaxCacheNum && alloc then
        { basic with
          cacheRxBuffs :=
            basic.cacheRxBuffs ++ [{ buff := buff.data, info, recvCb }] }
      else basic
    else if recvCb then { basic with up := basic.up ++ [(info, buff.data)] }
    else basic

def recvBasicFrameContinue (basic : Basic) : Basic :=
  { basic with
    isReady := true
    cacheRxBuffs := []
    up := basic.up ++ (basic.cacheRxBuffs.filter (·.recvCb)).map fun frame =>
      (frame.info, frame.buff) }

end Basic

/-- A channel of the transparent mode with its calls so far. -/
structure Transparent where
  lcid : Nat
  srcTcid : Nat
  up : List (DataInfo × Bytes)

def Transparent.transFrame (recvCb : Bool) (buff : Bytes)
    (transparent : Transparent) : Transparent :=
  let info : DataInfo :=
    { pi := 0, lcid := transparent.lcid, tcid := transparent.srcTcid }
  if recvCb then { transparent with up := transparent.up ++ [(info, buff)] }
  else transparent

/-- The part of the parameters of a channel that its mode uses. -/
inductive TransMode where
  | basic
  | stream (mps : Nat) (crcInit : UInt16)
  | reliable (conf : Conf) (txWindow : UInt8)
  | transparent

/-- `CM_TransChan_S` -/
structure TransChan where
  lcid : Nat
  srcTcid : Nat
  dstTcid : Nat
  mode : TransMode

inductive Receiver where
  | basic (channel : Basic)
  | stream (channel : Stream)
  | reliable (channel : Channel)
  | transparent (channel : Transparent)

namespace Receiver

/-- `DTAP_ChannelCreate` -/
def channelCreate (param : TransChan) : Receiver :=
  match param.mode with
  | .basic => .basic (Basic.basicChannelCreate param.lcid param.srcTcid)
  | .stream mps crcInit =>
    .stream (streamChannelCreate
      { lcid := param.lcid, srcTcid := param.srcTcid, mps, crcInit })
  | .reliable conf txWindow =>
    .reliable (reliableChannelCreate
      { conf with
        lcid := param.lcid
        srcTcid := param.srcTcid
        dstTcid := param.dstTcid } txWindow)
  | .transparent =>
    .transparent { lcid := param.lcid, srcTcid := param.srcTcid, up := [] }

/-- What arrives on a channel, is sent on it or expires. -/
inductive Event where
  | basicFrame (alloc recvCb : Bool) (frame : Frame)
  | basicContinue
  | stream (input : Stream.Input)
  | reliable (event : Channel.Event)
  | transFrame (recvCb : Bool) (buff : Bytes)

/-- A channel takes no part in what belongs to another mode. -/
def step (env : Env) (registry : Channel.Registry) :
    Receiver → Event → Receiver
  | .basic channel, .basicFrame alloc recvCb frame =>
    .basic (channel.recvBasicFrame alloc recvCb frame)
  | .basic channel, .basicContinue => .basic channel.recvBasicFrameContinue
  | .stream channel, .stream input => .stream (channel.step input)
  | .reliable channel, .reliable event =>
    .reliable (channel.step env registry event)
  | .transparent channel, .transFrame recvCb buff =>
    .transparent (channel.transFrame recvCb buff)
  | receiver, _ => receiver

/-- The information that was passed to receive callbacks. -/
def infos : Receiver → List DataInfo
  | .basic channel => channel.up.map Prod.fst
  | .stream channel => channel.up.map (·.info)
  | .reliable channel => channel.host.up.map (·.info)
  | .transparent channel => channel.up.map Prod.fst

end Receiver

/-- The information names a link and one of its channel ends. -/
def DataInfo.Of (lcid tcid : Nat) (info : DataInfo) : Prop :=
  info.lcid = lcid ∧ info.tcid = tcid

def Names (lcid tcid : Nat) (infos : List DataInfo) : Prop :=
  ∀ info ∈ infos, info.Of lcid tcid

variable {lcid tcid : Nat} {basic : Basic} {stream : Stream} {info : DataInfo}
  {host : Host}

theorem Names.append {infos more : List DataInfo}
    (names : Names lcid tcid infos) (added : Names lcid tcid more) :
    Names lcid tcid (infos ++ more) :=
  fun info member => (mem_append.mp member).elim (names info) (added info)

/-- The cached frames name the channel, too. -/
structure Basic.Names (lcid tcid : Nat) (basic : Basic) : Prop where
  same : basic.lcid = lcid ∧ basic.srcTcid = tcid
  called : Dtap.Names lcid tcid (basic.up.map Prod.fst)
  cached : Dtap.Names lcid tcid (basic.cacheRxBuffs.map (·.info))

theorem Basic.Names.recvBasicFrame (names : basic.Names lcid tcid)
    (alloc recvCb : Bool) (frame : Frame) :
    (basic.recvBasicFrame alloc recvCb frame).Names lcid tcid := by
  have own (info : DataInfo) (filled : info.lcid = basic.lcid ∧
      info.tcid = basic.srcTcid) : Dtap.Names lcid tcid [info] := by
    intro other member
    cases mem_singleton.mp member
    exact ⟨filled.1.trans names.same.1, filled.2.trans names.same.2⟩
  unfold Basic.recvBasicFrame
  split
  · exact names
  split
  · split
    · refine ⟨names.same, names.called, ?_⟩
      rw [map_append]
      exact names.cached.append (own _ ⟨rfl, rfl⟩)
    · exact names
  split
  · refine ⟨names.same, ?_, names.cached⟩
    rw [map_append]
    exact names.called.append (own _ ⟨rfl, rfl⟩)
  · exact names

theorem Basic.Names.recvBasicFrameContinue (names : basic.Names lcid tcid) :
    basic.recvBasicFrameContinue.Names lcid tcid := by
  refine ⟨names.same, ?_, nofun⟩
  unfold Basic.recvBasicFrameContinue
  rw [map_append, map_map]
  refine names.called.append fun info member => ?_
  obtain ⟨frame, kept, rfl⟩ := mem_map.mp member
  exact names.cached _ (mem_map_of_mem (mem_of_mem_filter kept))

structure Stream.Names (lcid tcid : Nat) (stream : Stream) : Prop where
  same : stream.conf.lcid = lcid ∧ stream.conf.srcTcid = tcid
  called : Dtap.Names lcid tcid (stream.up.map (·.info))

section

variable (names : stream.Names lcid tcid)
include names

theorem Stream.Names.hands {next : Stream} {given rest : List StreamRxNode}
    (hands : Hands given rest stream next) : next.Names lcid tcid := by
  refine ⟨hands.same.1 ▸ names.same, ?_⟩
  rw [hands.calls, map_append, map_map]
  refine names.called.append fun info member => ?_
  obtain ⟨node, -, rfl⟩ := mem_map.mp member
  exact names.same

variable (answers : StreamAnswers)

theorem Stream.Names.startTimer :
    (stream.startReorderTimer answers).Names lcid tcid := by
  unfold Stream.startReorderTimer
  split
  · exact ⟨names.same, names.called⟩
  · exact names

theorem Stream.Names.recvChecked (txSeq pi : Nat) (data : Bytes) :
    (stream.recvChecked answers txSeq pi data).2.Names lcid tcid := by
  let node : StreamRxNode :=
    { txSeq, pi, data, timeStamp := answers.stamp, arrival := stream.arrivals }
  let counted : Stream := { stream with arrivals := stream.arrivals + 1 }
  have arrived : counted.Names lcid tcid := ⟨names.same, names.called⟩
  have handed := arrived.hands (hands_recvCallback counted node)
  unfold Stream.recvChecked
  dsimp only
  split
  · exact ⟨handed.same, handed.called⟩
  split
  · obtain ⟨given, rest, -, hands, -⟩ := reportExpected_hands stream.rxList
      { counted.recvCallback node with
        expectedSeq := getNextFrameSeq stream.expectedSeq }
    have called : Stream.Names lcid tcid
        { counted.recvCallback node with
          expectedSeq := getNextFrameSeq stream.expectedSeq } :=
      ⟨handed.same, handed.called⟩
    have reported := called.hands hands
    apply Stream.Names.startTimer
    exact ⟨reported.same, reported.called⟩
  split
  · exact arrived
  split
  · exact arrived
  split
  · exact arrived
  split
  · exact ⟨names.same, names.called⟩
  · apply Stream.Names.startTimer
    exact ⟨names.same, names.called⟩

theorem Stream.Names.step (input : Stream.Input) :
    (stream.step input).Names lcid tcid := by
  obtain ⟨event, answers⟩ := input
  cases event with
  | recvFrame recvCb buff =>
    change (stream.dataRecvFrame answers recvCb buff).Names lcid tcid
    unfold Stream.dataRecvFrame
    split
    · exact names
    unfold Stream.recvStreamFrame
    dsimp only
    split
    · exact names
    split
    · exact ⟨names.same, names.called⟩
    split
    · exact ⟨names.same, names.called⟩
    · apply Stream.Names.recvChecked
      exact ⟨names.same, names.called⟩
  | reorderTimer =>
    obtain ⟨given, rest, -, hands, -⟩ := reorderTask_hands answers stream
    exact names.hands hands

end

def Host.Names (lcid tcid : Nat) (host : Host) : Prop :=
  Dtap.Names lcid tcid (host.up.map (·.info))

section

variable (names : host.Names lcid tcid) (own : info.Of lcid tcid)
include names own

theorem Host.Names.recv (recvCb : RecvCb) (sdu : Bytes) :
    (host.recv recvCb info sdu).2.Names lcid tcid := by
  unfold Host.recv Host.Names
  rw [map_append]
  refine Names.append names fun other member => ?_
  cases mem_singleton.mp member
  exact own

theorem Host.Names.recvAggregateLoop {bound : Nat} (env : Env) (recvCb : RecvCb)
    (frame : Frame) (rest : Bytes) :
    (recvAggregateLoop env recvCb info bound frame rest
      host).2.2.Names lcid tcid := by
  induction bound generalizing rest host with
  | zero => exact names
  | succ bound induction =>
    unfold Dtap.recvAggregateLoop
    dsimp only
    split
    · exact names
    split
    · exact names
    split
    · exact names
    have skipped : (host.skip 1).Names lcid tcid := names
    have called := skipped.recv own recvCb ((rest.drop 2).take (wordAt rest 0))
    split
    next later answer =>
      rw [answer] at called
      exact called
    next later answer =>
      rw [answer] at called
      split
      · exact induction called _
      · exact called

end

theorem updateFragmentFrame_up (env : Env) (buffs buff : Bytes) (host : Host) :
    (updateFragmentFrame env buffs buff host).2.2.up = host.up := by
  unfold updateFragmentFrame
  split
  · rfl
  · split <;> rfl

theorem Host.Names.recvFragmentPayload (names : host.Names lcid tcid)
    (own : info.Of lcid tcid) (env : Env) (buffs : Option Bytes) (sar : Sar)
    (payload : Bytes) (recvCb : Option RecvCb) :
    (recvFragmentPayload env buffs sar payload info recvCb
      host).2.2.Names lcid tcid := by
  have updated (collected : Bytes) :
      (updateFragmentFrame env collected payload host).2.2.Names lcid tcid := by
    unfold Host.Names
    rw [updateFragmentFrame_up]
    exact names
  unfold Dtap.recvFragmentPayload
  cases sar with
  | unseg =>
    cases recvCb with
    | none => exact names
    | some recvCb =>
      have called := names.recv own recvCb payload
      dsimp only
      split
      next later answer =>
        rw [answer] at called
        exact called
      next later answer =>
        rw [answer] at called
        exact called
  | first =>
    dsimp only
    split <;> exact names
  | mid =>
    cases buffs with
    | none => exact names
    | some collected => exact updated collected
  | last =>
    cases buffs with
    | none => exact names
    | some collected =>
      have kept := updated collected
      dsimp only
      split
      next errno later result =>
        rw [result] at kept
        exact kept
      next errno sdu later result =>
        rw [result] at kept
        exact kept
      next errno sdu later recvCb result =>
        rw [result] at kept
        have called := kept.recv own recvCb sdu
        split
        next last answer =>
          rw [answer] at called
          exact called
        next last answer =>
          rw [answer] at called
          exact called

namespace Channel

variable {env : Env} {channel result : Channel} {lcid tcid : Nat}

structure Names (lcid tcid : Nat) (channel : Channel) : Prop where
  same : channel.conf.lcid = lcid ∧ channel.conf.dstTcid = tcid
  called : channel.host.Names lcid tcid

section

variable (names : channel.Names lcid tcid)
include names

theorem Names.of_kept (conf : result.conf = channel.conf)
    (calls : result.host.up = channel.host.up) : result.Names lcid tcid := by
  refine ⟨conf ▸ names.same, ?_⟩
  unfold Host.Names
  rw [calls]
  exact names.called

theorem Names.of_receiver (same : result.receiver = channel.receiver) :
    result.Names lcid tcid :=
  names.of_kept (congrArg Prod.fst same) (congrArg (·.2.up) same)

theorem Names.recvFirstFrame (recvCb : Option RecvCb) (frame : Frame) :
    (channel.recvFirstFrame env recvCb frame).2.2.Names lcid tcid := by
  let info : DataInfo :=
    { pi := frame.pi, lcid := channel.conf.lcid, tcid := channel.conf.dstTcid }
  have own : info.Of lcid tcid := names.same
  have aggregate : (recvAggregateFrame env frame info recvCb
      channel.host).2.2.Names lcid tcid := by
    unfold recvAggregateFrame
    split
    · exact names.called
    · split
      · exact names.called
      · exact names.called.recvAggregateLoop own _ _ _ _
  have fragment : (recvFragmentFrame env channel.frags frame info recvCb
      channel.host).2.2.2.Names lcid tcid := by
    unfold recvFragmentFrame
    split
    · exact names.called
    · split
      · exact names.called
      · exact names.called.recvFragmentPayload own _ _ _ _ _
  unfold Channel.recvFirstFrame
  cases frame.frameType with
  | simplexAggr | duplexAggr => exact ⟨names.same, aggregate⟩
  | simplexFrag | duplexFrag => exact ⟨names.same, fragment⟩
  | basic | ack => exact names

end

variable (recvCb : Option RecvCb)

theorem Names.recvQueuedFrames (frames : List Frame)
    (names : channel.Names lcid tcid) :
    (recvQueuedFrames env recvCb frames channel).Names lcid tcid := by
  induction frames generalizing channel with
  | nil => exact ⟨names.same, names.called⟩
  | cons frame rest induction =>
    unfold Channel.recvQueuedFrames
    split
    · exact ⟨names.same, names.called⟩
    · have handed := @Names.recvFirstFrame env _ _ _ names recvCb frame
      dsimp only
      split
      · exact ⟨handed.same, handed.called⟩
      · apply induction
        exact ⟨handed.same, handed.called⟩

variable (names : channel.Names lcid tcid)
include names

theorem Names.recvEnhanceFrameInner :
    (channel.recvEnhanceFrameInner env recvCb).Names lcid tcid := by
  unfold Channel.recvEnhanceFrameInner
  split
  · exact names
  · exact names.recvQueuedFrames recvCb _

theorem Names.operateReorderTimer :
    (channel.operateReorderTimer env).Names lcid tcid := by
  unfold Channel.operateReorderTimer
  dsimp only
  split
  · split
    · exact ⟨names.same, names.called⟩
    · exact names
  · split_ifs
    · exact ⟨names.same, names.called⟩
    · exact ⟨names.same, names.called⟩
    · exact names

theorem Names.recvEnhanceFrame (frame : Frame) :
    (channel.recvEnhanceFrame env recvCb frame).2.Names lcid tcid := by
  have nacked := names.of_receiver (@recvNackFrame_receiver env channel frame)
  have slid := nacked.of_receiver (@slideTxWindow_receiver env
    (channel.recvNackFrame env frame).2 frame)
  unfold Channel.recvEnhanceFrame
  dsimp only
  split
  · exact nacked
  split
  · exact slid.of_receiver (transChannelStatusChange_receiver 0)
  split
  · exact ⟨slid.same, slid.called⟩
  · refine Names.of_receiver ?_ (transChannelStatusChange_receiver 0)
    refine Names.of_receiver ?_ (receiver_of_core (answerPolling_core _))
    apply Names.recvEnhanceFrameInner
    apply Names.operateReorderTimer
    exact ⟨slid.same, slid.called⟩

theorem Names.step (registry : Registry) (event : Event) :
    (channel.step env registry event).Names lcid tcid := by
  cases event with
  | dataSend pi data => exact names.of_receiver (dataSend_receiver pi data)
  | recvFrame received => exact names.recvEnhanceFrame _ _
  | setStatus result =>
    change (channel.setTransChannelStatus env registry.byTcid
      result).Names lcid tcid
    unfold setTransChannelStatus
    split
    · apply Names.recvEnhanceFrameInner
      exact ⟨names.same, names.called⟩
    · exact names
  | statusChange result =>
    exact names.of_receiver (transChannelStatusChange_receiver result)
  | rspTimer =>
    exact names.of_receiver (receiver_of_core rspTimerExpireProc_core)
  | reorderTimer =>
    obtain ⟨nackCnt, core⟩ := @reorderTimerExpireProc_core env channel
    exact names.of_kept (congrArg Core.conf core)
      (congrArg (fun core : Core => core.rx.up) core)
  | retransTimer => exact names.of_receiver retransTimerExpireProc_receiver

end Channel

namespace ChannelTable

variable {table : ChannelTable} {object : ChannelObject}

/-- What the search looks at. -/
def identity (object : ChannelObject) : Nat × Nat × Bool :=
  (object.object, object.lcid, object.transparent)

/-- On its link no channel comes before a transparent one. -/
structure Ordered (table : ChannelTable) : Prop where
  fresh : ∀ entry ∈ table.channels.map identity, entry.1 < table.nextObject
  unique : (table.channels.map identity).Pairwise fun earlier later =>
    earlier.1 ≠ later.1 ∧ (earlier.2.1 = later.2.1 → later.2.2 = false)

section

variable (ordered : table.Ordered)
include ordered

theorem Ordered.of_sublist {next : ChannelTable}
    (kept : (next.channels.map identity).Sublist (table.channels.map identity))
    (counter : table.nextObject ≤ next.nextObject) : next.Ordered :=
  ⟨fun entry member => lt_of_lt_of_le
      (ordered.fresh entry (kept.subset member)) counter,
    ordered.unique.sublist kept⟩

theorem Ordered.destroy (object : ChannelObject) :
    (table.channelDestroy object).Ordered :=
  ordered.of_sublist (remove_sublist.map identity) (le_rfl)

theorem Ordered.channelFind (member : object ∈ table.channels)
    (transparent : object.transparent = true) (tcid : Nat) :
    table.channelFind object.lcid tcid = some object := by
  obtain ⟨before, after, split⟩ := append_of_mem member
  have unique := ordered.unique
  rw [split, map_append, pairwise_append] at unique
  refine find?_eq_some_iff_append.mpr
    ⟨by simp [transparent], before, after, split, fun other earlier => ?_⟩
  have apart := (unique.2.2 (identity other) (mem_map_of_mem earlier)
    (identity object) (by simp)).2
  have elsewhere : other.lcid ≠ object.lcid := by
    intro same
    exact absurd (apart same) (by simp [identity, transparent])
  simp [elsewhere]

theorem Ordered.objects : (table.channels.map ChannelObject.object).Nodup :=
  pairwise_map.mpr ((pairwise_map.mp ordered.unique).imp And.left)

/-- What `DTAP_ChannelAdd` leaves of the channels of the link has no
transparent channel. -/
theorem Ordered.add (lcid srcTcid : Nat) (transparent created : Bool) :
    (table.channelAdd lcid srcTcid transparent created).Ordered := by
  unfold channelAdd
  extract_lets cleared
  have kept : cleared.Ordered ∧ cleared.nextObject = table.nextObject := by
    unfold cleared
    split
    · exact ⟨ordered, rfl⟩
    · exact ⟨ordered.destroy _, rfl⟩
  have plain : ∀ other ∈ cleared.channels, lcid = other.lcid →
      other.transparent = false := by
    intro other member same
    by_contra notPlain
    rw [Bool.not_eq_false] at notPlain
    have among : other ∈ table.channels := by
      unfold cleared at member
      split at member
      · exact member
      · exact remove_sublist.subset member
    have found := ordered.channelFind among notPlain srcTcid
    rw [← same] at found
    unfold cleared at member
    rw [found] at member
    exact ((mem_remove ordered.objects).mp member).2 rfl
  split
  · refine ⟨fun entry member => ?_, ?_⟩
    · rcases mem_cons.mp member with rfl | earlier
      · exact lt_succ_self _
      · exact lt_succ_of_lt (kept.2 ▸ kept.1.fresh entry earlier)
    · refine pairwise_cons.mpr ⟨fun entry later => ?_, kept.1.unique⟩
      have small := kept.1.fresh entry later
      rw [kept.2] at small
      obtain ⟨other, member, rfl⟩ := mem_map.mp later
      exact ⟨ne_of_gt small, plain other member⟩
  · exact kept.1

theorem Ordered.of_same {next : ChannelTable}
    (same : next.channels.map identity = table.channels.map identity)
    (counter : next.nextObject = table.nextObject) : next.Ordered :=
  ordered.of_sublist (by rw [same]) (le_of_eq counter.symm)

theorem Ordered.setPackets (packets : List PendingPacket) :
    (table.setPackets object packets).Ordered :=
  ordered.of_same (map_modify fun _ => rfl) rfl

theorem Ordered.step (event : Event) : (table.step event).Ordered := by
  cases event with
  | activate lcid srcTcid transparent created => exact ordered.add _ _ _ _
  | release lcid srcTcid =>
    change (table.channelDel lcid srcTcid).Ordered
    unfold channelDel
    split
    · exact ordered
    · apply Ordered.destroy
      exact ⟨ordered.fresh, ordered.unique⟩
  | send answers lcid tcid buff =>
    change (table.dataSend answers lcid tcid buff).Ordered
    unfold dataSend
    split
    · exact ordered
    · dsimp only
      split
      all_goals
        split
        · exact ordered
        · apply Ordered.setPackets
          exact ⟨ordered.fresh, ordered.unique⟩
  | callback input =>
    unfold ChannelTable.step
    dsimp only
    split <;> exact ⟨ordered.fresh, ordered.unique⟩

end

/-- In every table the frames of a channel reach it under the tcid of its own
end, too. -/
theorem channelFind_own (events : List Event) {lcid tcid : Nat}
    (found : (run step initial events).channelFind lcid tcid = some object) :
    (run step initial events).channelFind lcid object.srcTcid =
      some object := by
  have empty : initial.Ordered :=
    ⟨fun _ member => absurd member not_mem_nil, List.Pairwise.nil⟩
  have ordered : (run step initial events).Ordered :=
    run_invariant_of_step (fun table event (ordered : Ordered table) =>
      ordered.step event) empty events
  have matches_ := find?_some found
  rw [decide_eq_true_iff] at matches_
  rcases matches_ with ⟨same, transparent | own⟩
  · rw [← same]
    exact ordered.channelFind (mem_of_find?_eq_some found) transparent _
  · rw [own]
    exact found

end ChannelTable

namespace Receiver

variable {env : Env} {registry : Channel.Registry} {receiver : Receiver}
  {lcid tcid : Nat}

def Names (lcid tcid : Nat) : Receiver → Prop
  | .basic channel => channel.Names lcid tcid
  | .stream channel => channel.Names lcid tcid
  | .reliable channel => channel.Names lcid tcid
  | .transparent channel =>
    (channel.lcid = lcid ∧ channel.srcTcid = tcid) ∧
      Dtap.Names lcid tcid (channel.up.map Prod.fst)

/-- The channel end that the mode reports. -/
def reportedTcid (param : TransChan) : Nat :=
  match param.mode with
  | .reliable _ _ => param.dstTcid
  | _ => param.srcTcid

theorem channelCreate_names (param : TransChan) :
    (channelCreate param).Names param.lcid (reportedTcid param) := by
  unfold channelCreate reportedTcid
  cases param.mode with
  | basic => exact ⟨⟨rfl, rfl⟩, nofun, nofun⟩
  | stream | reliable | transparent => exact ⟨⟨rfl, rfl⟩, nofun⟩

theorem Names.step (names : receiver.Names lcid tcid) (event : Event) :
    (receiver.step env registry event).Names lcid tcid := by
  cases receiver with
  | basic channel =>
    cases event with
    | basicFrame alloc recvCb frame =>
      exact Basic.Names.recvBasicFrame names _ _ _
    | basicContinue => exact Basic.Names.recvBasicFrameContinue names
    | _ => exact names
  | stream channel =>
    cases event with
    | stream input => exact Stream.Names.step names input
    | _ => exact names
  | reliable channel =>
    cases event with
    | reliable event => exact Channel.Names.step names registry event
    | _ => exact names
  | transparent channel =>
    cases event with
    | transFrame recvCb buff =>
      change (Receiver.transparent (channel.transFrame recvCb
        buff)).Names lcid tcid
      unfold Transparent.transFrame
      split
      · refine ⟨names.1, ?_⟩
        rw [map_append]
        refine names.2.append fun info member => ?_
        cases mem_singleton.mp member
        exact names.1
      · exact names
    | _ => exact names

theorem Names.infos (names : receiver.Names lcid tcid) :
    Dtap.Names lcid tcid receiver.infos := by
  cases receiver with
  | basic channel => exact Basic.Names.called names
  | stream channel => exact Stream.Names.called names
  | reliable channel => exact Channel.Names.called names
  | transparent channel => exact names.2

/-- The search finds the channel for all information it reports. -/
def Answerable (table : ChannelTable) (object : ChannelObject)
    (receiver : Receiver) : Prop :=
  ∀ info ∈ receiver.infos, table.channelFind info.lcid info.tcid = some object

/-- A channel whose two ends have the same number, or that is not reliable,
reports itself, however it came into the table. -/
theorem reports_itself (env : Env) (registry : Channel.Registry)
    (tables : List ChannelTable.Event) (object : ChannelObject)
    (param : TransChan) (tcid : Nat) (events : List Event)
    (found : (run ChannelTable.step ChannelTable.initial tables).channelFind
      param.lcid tcid = some object)
    (own : object.srcTcid = param.srcTcid)
    (ends : ∀ conf txWindow, param.mode = .reliable conf txWindow →
      param.dstTcid = param.srcTcid) :
    Always (step env registry)
      (Answerable (run ChannelTable.step ChannelTable.initial tables) object)
      (channelCreate param) events := by
  have reported : reportedTcid param = object.srcTcid := by
    rw [own]
    unfold reportedTcid
    split
    · exact ends _ _ ‹_›
    · rfl
  have initial := channelCreate_names param
  rw [reported] at initial
  refine always_of_step ?_ (fun receiver event
    (names : receiver.Names param.lcid object.srcTcid) => names.step event)
    initial events
  intro receiver names info member
  obtain ⟨link, channelEnd⟩ := names.infos info member
  rw [link, channelEnd]
  exact ChannelTable.channelFind_own tables found

/-- A reliable channel with its end 64 and the end of the peer. -/
def reliablePair (dstTcid : Nat) : TransChan where
  lcid := 1
  srcTcid := 64
  dstTcid
  mode := .reliable Channel.plainConf 4

def oneChannel : ChannelTable :=
  run ChannelTable.step ChannelTable.initial [.activate 1 64 false true]

theorem reports_itself_sameEnds :
    Always (step Channel.plainEnv Channel.takesAll) (Answerable oneChannel
        { object := 0, lcid := 1, srcTcid := 64, transparent := false,
          pktList := [] })
      (channelCreate (reliablePair 64))
      [.reliable (.recvFrame Channel.firstFrame)] :=
  reports_itself Channel.plainEnv Channel.takesAll
    [.activate 1 64 false true] _ (reliablePair 64) 64 _ rfl rfl
    fun _ _ _ => rfl

theorem reports_otherEnd :
    oneChannel.channelFind 1 64 = some
        { object := 0, lcid := 1, srcTcid := 64, transparent := false,
          pktList := [] } ∧
      ¬ Always (step Channel.plainEnv Channel.takesAll) (Answerable oneChannel
          { object := 0, lcid := 1, srcTcid := 64, transparent := false,
            pktList := [] })
        (channelCreate (reliablePair 65))
        [.reliable (.recvFrame Channel.firstFrame)] := by
  refine ⟨rfl, fun always => ?_⟩
  have answerable := always.at_end { pi := 1, lcid := 1, tcid := 65 }
    (by decide +kernel)
  revert answerable
  decide +kernel

end Receiver

end NearLink.Dtap
