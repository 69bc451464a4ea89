import NearLink.Qosm.TransChannel

/-!
# What the QoS manager hears of a step

Of what a device logs while it handles an event, the QoS manager hears at most
one answer about one channel, unless a link goes down.
-/

namespace NearLink.Qosm

open Keyed Transition Cm List Device

/-- The entry is one that a callback or a return value brings to the QoS
manager. -/
def loud : DeviceLog → Bool
  | .establishRsp _ _ => true
  | .releaseRsp _ _ => true
  | .statusIndication _ _ _ => true
  | .establishAccepted _ => true
  | .releaseAccepted _ => true
  | _ => false

theorem answered_quiet {fate : Fate} {tables : Tables} {entry : DeviceLog}
    (quiet : loud entry = false) : tables.answered fate entry = tables := by
  cases entry with
  | sent | moved | timedOut => rfl
  | _ => cases quiet

theorem foldl_answered_loud (fate : Fate) (tables : Tables)
    (entries : List DeviceLog) :
    entries.foldl (Tables.answered fate) tables =
      (entries.filter loud).foldl (Tables.answered fate) tables := by
  induction entries generalizing tables with
  | nil => rfl
  | cons entry entries induction =>
    cases heard : loud entry with
    | true => simp [heard, induction]
    | false => simp [heard, induction, answered_quiet heard]

inductive Moved (device : Device) :
    DeviceEvent → List DeviceLog → List DynChannel → Prop where
  | nothing {event : DeviceEvent} : Moved device event [] device.channels
  | requested {event : DeviceEvent} {channel : DynChannel}
      (serial : channel.serial = device.serial)
      (state : channel.state = .activating)
      (free : device.freeTcid channel.lcid true = some channel.localTcid) :
      Moved device event [.establishAccepted channel]
        (device.channels ++ [channel])
  | established {event : DeviceEvent} {channel : DynChannel} {dstTcid : Nat}
      (establishes : device.establishes event = some (channel, dstTcid)) :
      Moved device event
        [.establishRsp { channel with
          remoteTcid := dstTcid, state := .activated } rspSuccess]
        (modify DynChannel.serial channel.serial
          (fun node => { node with remoteTcid := dstTcid, state := .activated })
          device.channels)
  | refused {event : DeviceEvent} {channel : DynChannel} {result : UInt8}
      (member : channel ∈ device.channels)
      (activating : channel.state = .activating)
      (failed : result ≠ rspSuccess) :
      Moved device event [.establishRsp channel result]
        (remove DynChannel.serial channel.serial device.channels)
  | releasing {event : DeviceEvent} {channel : DynChannel}
      (starts : device.startsRelease event = some channel) :
      Moved device event [.releaseAccepted channel]
        (modify DynChannel.serial channel.serial
          (fun node => { node with state := .releasing }) device.channels)
  | unreleased {event : DeviceEvent} {channel : DynChannel}
      (starts : device.startsRelease event = some channel) :
      Moved device event [] (modify DynChannel.serial channel.serial
          (fun node => { node with state := .activated }) device.channels)
  | released {event : DeviceEvent} {channel : DynChannel} {result : UInt8}
      (member : channel ∈ device.channels) :
      Moved device event [.releaseRsp channel result]
        (remove DynChannel.serial channel.serial device.channels)
  | accepted {event : DeviceEvent} {channel : DynChannel} {unicast : Bool}
      (serial : channel.serial = device.serial)
      (state : channel.state = .activated)
      (free : device.freeTcid channel.lcid unicast = some channel.localTcid) :
      Moved device event [.statusIndication channel true indicationNormal]
        (device.channels ++ [channel])
  | disconnected {event : DeviceEvent} {channel : DynChannel}
      (member : channel ∈ device.channels) :
      Moved device event
        [.statusIndication channel false indicationDisconnected]
        (remove DynChannel.serial channel.serial device.channels)
  | linkDown {lcid : Nat} {allocated : Bool} :
      Moved device (.linkDown lcid allocated) (if allocated then
          (device.channels.filter fun channel =>
            channel.lcid = lcid).map disconnectReport
        else [])
        (if allocated then
          device.channels.filter fun channel => channel.lcid ≠ lcid
        else device.channels)

namespace Moved

variable {device : Device} {event : DeviceEvent}

theorem loud_sent (messages : List (Nat × ChanSignal)) :
    (messages.map fun sent => DeviceLog.sent sent.1 sent.2).filter loud =
      [] := by
  rw [filter_eq_nil_iff]
  exact forall_mem_map.mpr fun _ _ => Bool.false_ne_true

section

variable (device : Device) (event : DeviceEvent)

theorem begun_log :
    ∃ quiet, (device.begun event).log = device.log ++ quiet ∧
      quiet.filter loud = [] := by
  unfold begun
  split
  · split
    · exact ⟨[], by simp, rfl⟩
    · exact ⟨_, rfl, rfl⟩
  · exact ⟨[], by simp, rfl⟩

theorem begun_channels :
    (device.begun event).channels = device.channels := by
  unfold begun
  split
  · split <;> rfl
  · rfl

theorem begun_pools :
    (device.begun event).pools = device.pools := by
  unfold begun
  split
  · split <;> rfl
  · rfl

theorem begun_serial :
    (device.begun event).serial = device.serial := by
  unfold begun
  split
  · split <;> rfl
  · rfl

theorem begun_freeTcid (lcid : Nat) (unicast : Bool) :
    (device.begun event).freeTcid lcid unicast =
      device.freeTcid lcid unicast := by
  unfold freeTcid poolOf
  rw [begun_pools]

theorem begun_establishes :
    (device.begun event).establishes event = device.establishes event := by
  cases event with
  | expire id => rfl
  | _ => rfl

theorem begun_startsRelease :
    (device.begun event).startsRelease event = device.startsRelease event := by
  cases event with
  | expire id => rfl
  | _ => rfl

end

theorem heard (answers : List DeviceLog) {before after added : List DeviceLog}
    (log : after = before ++ added) (kept : added.filter loud = answers) :
    (after.drop before.length).filter loud = answers := by
  rw [log, drop_left, kept]

theorem releasing_then_activated (channel : DynChannel)
    (channels : List DynChannel) :
    modify DynChannel.serial channel.serial
        (fun node => { node with state := ChannelState.activated })
        (modify DynChannel.serial channel.serial
          (fun node => { node with state := ChannelState.releasing })
          channels) =
      modify DynChannel.serial channel.serial
        (fun node => { node with state := .activated }) channels :=
  modify_modify fun _ => rfl

section Release

variable {device base failed : Device} {quiet : List DeviceLog}
  {channel : DynChannel}

section

variable (begins : base.log = device.log ++ quiet)
  (silent : quiet.filter loud = [])
include begins silent

theorem releasing_heard {sent : Device}
    (unmoved : (base.releasing channel).Unmoved sent) :
    ((sent.note (.releaseAccepted channel)).log.drop
      device.log.length).filter loud = [.releaseAccepted channel] := by
  obtain ⟨messages, log⟩ := unmoved.log
  have added : (sent.note (.releaseAccepted channel)).log =
      device.log ++ (quiet ++
        ([DeviceLog.moved .activeReleasingReq channel.state] ++
          ((messages.map fun sent => DeviceLog.sent sent.1 sent.2) ++
            [DeviceLog.releaseAccepted channel]))) := by
    show sent.log ++ _ = _
    rw [log, ← append_assoc, ← append_assoc, ← append_assoc, ← begins]
    rfl
  exact heard [_] added (by simp [silent, loud_sent, loud])

theorem noted_heard {sent : Device} {entry : DeviceLog}
    {messages : List (Nat × ChanSignal)}
    (log : sent.log = base.log ++ messages.map fun sent =>
      DeviceLog.sent sent.1 sent.2) (spoken : loud entry = true) :
    ((sent.note entry).log.drop device.log.length).filter loud = [entry] := by
  have added : (sent.note entry).log = device.log ++ (quiet ++
      ((messages.map fun sent => DeviceLog.sent sent.1 sent.2) ++
        [entry])) := by
    show sent.log ++ _ = _
    rw [log, ← append_assoc, ← append_assoc, ← begins]
  exact heard [_] added (by simp [silent, loud_sent, spoken])

theorem ended_heard {row : ChanEvent} {report : DeviceLog}
    (spoken : loud report = true) :
    ((base.endChannel row channel report).log.drop
      device.log.length).filter loud = [report] := by
  have added : (base.endChannel row channel report).log = _ :=
    endChannel_log channel row report
  rw [begins, append_assoc] at added
  have moved : loud (.moved row channel.state) = false := rfl
  exact heard [_] added (by simp [silent, spoken, moved])

theorem unreleased_heard (unmoved : (base.releasing channel).Unmoved failed) :
    ((failed.setState channel .activated).log.drop
      device.log.length).filter loud = [] := by
  obtain ⟨messages, log⟩ := unmoved.log
  have added : (failed.setState channel .activated).log =
      device.log ++ (quiet ++
        ([DeviceLog.moved .activeReleasingReq channel.state] ++
          (messages.map fun sent => DeviceLog.sent sent.1 sent.2))) := by
    show failed.log = _
    rw [log, ← append_assoc, ← append_assoc, ← begins]
    rfl
  exact heard [] added (by simp [silent, loud_sent, loud])

end

theorem unreleased_channels (unmoved : (base.releasing channel).Unmoved
      failed) :
    (failed.setState channel .activated).channels =
      modify DynChannel.serial channel.serial
        (fun node => { node with state := .activated }) base.channels := by
  show modify _ _ _ failed.channels = _
  rw [unmoved.channels]
  exact releasing_then_activated channel base.channels

theorem of_startsRelease {event : DeviceEvent}
    (starts : device.startsRelease event = some channel) :
    ((System.answers device event).filter loud = [.releaseAccepted channel] ∧
      (device.step event).channels = modify DynChannel.serial channel.serial
          (fun node => { node with state := .releasing }) device.channels) ∨
    (System.answers device event).filter loud = [] ∧
      (device.step event).channels = modify DynChannel.serial channel.serial
          (fun node => { node with state := .activated }) device.channels := by
  cases event with
  | release lcid tcid fate =>
    unfold System.answers
    rw [step, releaseReq_of_channel starts]
    have begins : device.log = device.log ++ [] :=
      (append_nil _).symm
    rcases device.activeReleasingHandler_cases channel fate with
      ⟨sent, unmoved, _, handled⟩ | ⟨failed, unmoved, handled⟩
    · left
      rw [handled, releasing_heard begins rfl unmoved]
      exact ⟨rfl, unmoved.channels⟩
    · right
      rw [handled, unreleased_heard begins rfl unmoved,
        unreleased_channels unmoved]
      exact ⟨rfl, rfl⟩
  | _ => cases starts

end Release

theorem loud_disconnectReport (device : Device) (lcid : Nat)
    (allocated : Bool) :
    (if allocated then
      (device.channels.filter fun channel =>
        channel.lcid = lcid).map disconnectReport
    else []).filter loud =
      if allocated then
        (device.channels.filter fun channel =>
          channel.lcid = lcid).map disconnectReport
      else [] := by
  rw [filter_eq_self]
  intro entry member
  split at member
  · obtain ⟨channel, _, rfl⟩ := mem_map.mp member
    unfold disconnectReport
    split <;> rfl
  · cases member

theorem linkDown_heard (formed : device.Formed) (lcid : Nat)
    (allocated : Bool) :
    (System.answers device (.linkDown lcid allocated)).filter loud =
      if allocated then
        (device.channels.filter fun channel =>
          channel.lcid = lcid).map disconnectReport
      else [] := by
  unfold System.answers
  rw [step, linkDown_eq formed]
  exact heard _ rfl (loud_disconnectReport device lcid allocated)

theorem of_step (formed : device.Formed) (event : DeviceEvent) :
    Moved device event ((System.answers device event).filter loud)
      (device.step event).channels := by
  obtain ⟨core, outcome, settled⟩ := device.step_outcome formed event
  obtain ⟨quiet, begins, silent⟩ := begun_log device event
  have channels := begun_channels device event
  unfold System.answers
  rw [settled.log, settled.channels]
  cases outcome with
  | unmoved unmoved =>
    obtain ⟨messages, log⟩ := unmoved.log
    rw [begins, append_assoc] at log
    rw [unmoved.channels, channels, heard [] log (by simp [silent, loud_sent])]
    exact .nothing
  | @requested req tcid sent free unmoved armed =>
    obtain ⟨messages, log⟩ := unmoved.log
    rw [begun_freeTcid] at free
    rw [noted_heard begins silent log rfl]
    show Moved device event _ sent.channels
    rw [unmoved.channels]
    show Moved device event _ ((device.begun event).channels ++ _)
    rw [channels]
    exact .requested (begun_serial device event) rfl free
  | @established channel dstTcid establishes =>
    rw [begun_establishes] at establishes
    have added : ((device.begun event).activeEstablishedRspHandler channel
        dstTcid).log = device.log ++ (quiet ++
          [DeviceLog.moved .activeEstablishedRsp channel.state,
            .establishRsp { channel with
              remoteTcid := dstTcid, state := .activated } rspSuccess]) := by
      simp [activeEstablishedRspHandler, note, setTcid,
        begins, ChanEvent.nextState]
    rw [heard [_] added (by simp [silent, loud]; rfl)]
    show Moved device event _ (modify _ _ _ (device.begun event).channels)
    rw [channels]
    exact .established establishes
  | @refused channel result member activating =>
    rw [activeEstablishingFailRspHandler, endChannel_channels, channels,
      ended_heard begins silent rfl]
    refine .refused (channels ▸ member) activating ?_
    split <;> decide
  | @releasing channel sent starts unmoved armed =>
    rw [begun_startsRelease] at starts
    rw [releasing_heard begins silent unmoved]
    show Moved device event _ sent.channels
    rw [unmoved.channels]
    show Moved device event _ (modify _ _ _ (device.begun event).channels)
    rw [channels]
    exact .releasing starts
  | @unreleased channel failed starts unmoved =>
    rw [begun_startsRelease] at starts
    rw [unreleased_heard begins silent unmoved, unreleased_channels unmoved,
      channels]
    exact .unreleased starts
  | @released channel row result ends rows =>
    rw [endChannel_channels, channels, ended_heard begins silent rfl]
    exact .released (channels ▸ endsRelease_mem ends)
  | @accepted lcid tcid remoteTcid params sent dynamic new free unmoved =>
    obtain ⟨messages, log⟩ := unmoved.log
    rw [begun_freeTcid] at free
    rw [noted_heard begins silent log rfl]
    show Moved device event _ sent.channels
    rw [unmoved.channels]
    show Moved device event _ ((device.begun event).channels ++ _)
    rw [channels]
    exact .accepted (begun_serial device event) rfl free
  | @disconnected channel after releases unmoved =>
    obtain ⟨messages, log⟩ := unmoved.log
    rw [disconnected_log, begins, append_assoc, append_assoc] at log
    rw [unmoved.channels, disconnected_channels, channels,
      heard [.statusIndication channel false indicationDisconnected] log
        (by rw [filter_append, filter_append, silent, loud_sent]
            rfl)]
    exact .disconnected (channels ▸ (releasedByPeer_spec releases).1)
  | @linkUp lcid allocated up =>
    subst up
    have same : (device.linkUp lcid allocated).log = device.log ++ [] :=
      (append_nil _).symm
    show Moved device _
      (((device.linkUp lcid allocated).log.drop _).filter loud)
      (device.linkUp lcid allocated).channels
    rw [heard [] same rfl]
    exact .nothing
  | @linkDown lcid allocated down =>
    subst down
    have answers := linkDown_heard formed lcid allocated
    unfold System.answers at answers
    rw [step] at answers
    show Moved device _
      (((device.linkDown lcid allocated).log.drop _).filter loud)
      (device.linkDown lcid allocated).channels
    rw [answers, linkDown_eq formed]
    exact .linkDown

end Moved

end NearLink.Qosm
