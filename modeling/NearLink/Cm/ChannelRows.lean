import NearLink.Cm.DeviceOutcome

/-!
# The rows of the table of channel events

`CM_DynTransChanPostEventAndHandler` takes the row of the event, without a look
at the state of the channel.  A handler then moves a channel in another state
than that of its row exactly when a channel that is not activated is released,
or one that is not being released is named by a release response or by the
timeout of a release request.
-/

namespace NearLink.Cm

open Keyed Transition List

def DeviceLog.OnRow : DeviceLog → Prop
  | .moved event before =>
    before = event.currentState ∨
      event = .passiveReleasedReq ∧ before = .releasing
  | _ => True

namespace Device

def OnRows (device : Device) : Prop :=
  ∀ entry ∈ device.log, entry.OnRow

/-- A channel that is to be released is activated, and one whose release is
answered or has timed out is being released. -/
def FollowsRow (device : Device) (event : DeviceEvent) : Prop :=
  (∀ channel, device.startsRelease event = some channel →
    channel.state = .activated) ∧
  ∀ channel, device.endsRelease event = some channel →
    channel.state = .releasing

section OnRows

variable {device after : Device} {event : DeviceEvent}

section

variable (onRows : device.OnRows)
include onRows

theorem OnRows.note {entry : DeviceLog} (onRow : entry.OnRow) :
    (device.note entry).OnRows := by
  exact forall_mem_append.mpr ⟨onRows, forall_mem_singleton.mpr onRow⟩

theorem OnRows.congr (log : after.log = device.log) : after.OnRows := by
  unfold OnRows
  rw [log]
  exact onRows

theorem OnRows.unmoved (unmoved : Unmoved device after) : after.OnRows := by
  obtain ⟨messages, log⟩ := unmoved.log
  intro entry member
  rw [log] at member
  rcases mem_append.mp member with member | member
  · exact onRows entry member
  · obtain ⟨sent, _, rfl⟩ := mem_map.mp member
    trivial

theorem OnRows.opened (channel : DynChannel) : (device.opened channel).OnRows :=
  onRows.congr rfl

theorem OnRows.begun : (device.begun event).OnRows := by
  unfold Device.begun
  split
  · split
    · exact onRows
    · exact onRows.note trivial
  · exact onRows

end

variable {channel : DynChannel}

section

variable (onRows : device.OnRows)
include onRows

theorem OnRows.endChannel {row : ChanEvent} {report : DeviceLog}
    (state : channel.state = row.currentState) (reported : report.OnRow) :
    (device.endChannel row channel report).OnRows := by
  have moved : (DeviceLog.moved row channel.state).OnRow := .inl state
  apply ((onRows.note moved).note reported).congr
  rw [endChannel_log]
  simp [Device.note]

theorem OnRows.releasing (state : channel.state = .activated) :
    (device.releasing channel).OnRows := by
  have moved : (DeviceLog.moved .activeReleasingReq channel.state).OnRow :=
    .inl state
  exact (onRows.note moved).congr rfl

theorem OnRows.disconnected {unicast : Bool}
    (state : channel.state = .activated ∨ channel.state = .releasing) :
    (device.disconnected channel unicast).OnRows := by
  have moved : (DeviceLog.moved .passiveReleasedReq channel.state).OnRow :=
    state.imp id fun releasing => ⟨rfl, releasing⟩
  have reported : (DeviceLog.statusIndication channel false
    indicationDisconnected).OnRow := trivial
  apply ((onRows.note moved).note reported).congr
  rw [disconnected_log]
  simp [Device.note]

end

section

variable (formed : device.Formed)
include formed

theorem OnRows.linkDown (onRows : device.OnRows) (lcid : Nat) (allocated : Bool)
    :
    (device.linkDown lcid allocated).OnRows := by
  rw [linkDown_eq formed]
  refine forall_mem_append.mpr ⟨onRows, fun entry member => ?_⟩
  split at member
  · obtain ⟨channel, _, rfl⟩ := mem_map.mp member
    unfold disconnectReport
    split <;> trivial
  · cases member

theorem Formed.established_of_remote (member : channel ∈ device.channels)
    (dynamic : isDynamic channel.remoteTcid = true) :
    channel.state = .activated ∨ channel.state = .releasing := by
  rcases formed.live channel member with ⟨_, remote⟩ | established
  · rw [remote] at dynamic
    cases dynamic
  · exact established

theorem OnRows.outcome (onRows : device.OnRows)
    (follows : device.FollowsRow event) (outcome : device.Outcome event after)
    : after.OnRows := by
  cases outcome with
  | unmoved unmoved => exact onRows.unmoved unmoved
  | requested free unmoved armed =>
    exact ((onRows.opened _).unmoved unmoved).note trivial
  | @established channel dstTcid establishes =>
    obtain ⟨_, activating, _⟩ := establishes_spec establishes
    have moved :
        (DeviceLog.moved .activeEstablishedRsp channel.state).OnRow :=
      .inl activating
    have reported : (DeviceLog.establishRsp
      { channel with remoteTcid := dstTcid, state := .activated }
      rspSuccess).OnRow := trivial
    exact ((onRows.note moved).note reported).congr rfl
  | refused member activating => exact onRows.endChannel activating trivial
  | releasing starts unmoved armed =>
    have activated := follows.1 _ starts
    exact ((onRows.releasing activated).unmoved unmoved).note trivial
  | unreleased starts unmoved =>
    have activated := follows.1 _ starts
    exact ((onRows.releasing activated).unmoved unmoved).congr rfl
  | released ends rows =>
    have releasing := follows.2 _ ends
    rcases rows with rfl | rfl
    all_goals exact onRows.endChannel releasing trivial
  | accepted dynamic new free unmoved =>
    exact ((onRows.opened _).unmoved unmoved).note trivial
  | disconnected releases unmoved =>
    obtain ⟨member, dynamic⟩ := releasedByPeer_spec releases
    have established := formed.established_of_remote member dynamic
    exact (onRows.disconnected established).unmoved unmoved
  | linkUp up => exact onRows.congr rfl
  | linkDown down => exact onRows.linkDown formed _ _

end

theorem followsRow_begun (follows : device.FollowsRow event) :
    (device.begun event).FollowsRow event := by
  unfold Device.begun
  split
  · split <;> exact follows
  · exact follows

theorem OnRows.step (formed : device.Formed) (onRows : device.OnRows)
    (follows : device.FollowsRow event) : (device.step event).OnRows := by
  obtain ⟨core, outcome, settled⟩ := device.step_outcome formed event
  have moved := onRows.begun.outcome formed.begun (followsRow_begun follows)
    outcome
  exact moved.congr settled.log

theorem moved_mem_unmoved {entry : DeviceLog} (member : entry ∈ device.log)
    (unmoved : Unmoved device after) : entry ∈ after.log := by
  obtain ⟨messages, log⟩ := unmoved.log
  rw [log]
  exact mem_append_left _ member

theorem moved_mem_releasing (starts : device.startsRelease event = some channel) :
    .moved .activeReleasingReq channel.state ∈ (device.step event).log := by
  cases event with
  | release lcid tcid fate =>
    have member : .moved .activeReleasingReq channel.state ∈
        (device.releasing channel).log :=
      mem_append_right _ mem_cons_self
    simp only [step, releaseReq_of_channel starts fate]
    rcases device.activeReleasingHandler_cases channel fate with
      ⟨sent, unmoved, _, handled⟩ | ⟨failed, unmoved, handled⟩
    all_goals rw [handled]
    · exact mem_append_left _ (moved_mem_unmoved member unmoved)
    · have logged := moved_mem_unmoved member unmoved
      exact logged
  | _ => cases starts

theorem moved_mem_releaseRspCbk {lcid tcid : Nat}
    (found : device.channelOf lcid tcid = some channel) (result : UInt8) :
    ∃ row : ChanEvent,
      (row = .activeReleasedRsp ∨ row = .activeReleasingFailRsp) ∧
      .moved row channel.state ∈
        (device.releaseRspCbk lcid tcid result).log := by
  obtain ⟨row, outcome, rows, ended⟩ := releaseRspCbk_of_channel found result
  refine ⟨row, rows, ?_⟩
  rw [ended, endChannel_log]
  exact mem_append_right _ mem_cons_self

theorem moved_mem_released (ends : device.endsRelease event = some channel) :
    ∃ row : ChanEvent,
      (row = .activeReleasedRsp ∨ row = .activeReleasingFailRsp) ∧
      .moved row channel.state ∈ (device.step event).log := by
  cases event with
  | recv lcid message fate =>
    cases message with
    | disconnectRsp id srcTcid dstTcid result =>
      obtain ⟨row, rows, member⟩ := moved_mem_releaseRspCbk ends result
      refine ⟨row, rows, ?_⟩
      simpa [step, recvSignalingData, handle] using member
    | _ => cases ends
  | expire id =>
    obtain ⟨request, located, chosen⟩ := Option.bind_eq_some_iff.mp ends
    split at chosen
    · next code =>
        have found : (device.note (.timedOut request
            ((device.findByLocalTcid request.lcid request.srcTcid).map
              DynChannel.serial))).channelOf request.lcid
            request.srcTcid = some channel := chosen
        obtain ⟨row, rows, member⟩ :=
          moved_mem_releaseRspCbk found resultReleaseTimeout
        refine ⟨row, rows, ?_⟩
        simpa [step, signalingTimeout, located, code] using member
    · cases chosen
  | _ => cases ends

theorem followsRow_of_onRows (onRows : (device.step event).OnRows) :
    device.FollowsRow event := by
  constructor
  · intro channel starts
    rcases onRows _ (moved_mem_releasing starts) with state | ⟨row, _⟩
    · exact state
    · cases row
  · intro channel ends
    obtain ⟨row, rows, member⟩ := moved_mem_released ends
    rcases rows with rfl | rfl
    all_goals
      rcases onRows _ member with state | ⟨row, _⟩
      · exact state
      · cases row

end OnRows

/-- In a run every handler finds its channel in the state of its row exactly
when no step releases a channel that is not activated, and none answers or
times out the release of a channel that is not being released. -/
theorem onRows_iff (identifier : UInt8) (events : List DeviceEvent) :
    Always step OnRows (init identifier) events ↔
      Meets step FollowsRow (init identifier) events := by
  have sound (device : Device) (kept : device.Formed ∧ device.OnRows) :
      device.OnRows := kept.2
  have preserved (device : Device) (event : DeviceEvent)
      (kept : device.Formed ∧ device.OnRows)
      (follows : device.FollowsRow event) :
      (device.step event).Formed ∧ (device.step event).OnRows :=
    ⟨kept.1.step event, kept.2.step kept.1 follows⟩
  have necessary (device : Device) (event : DeviceEvent)
      (_ : device.Formed ∧ device.OnRows)
      (onRows : (device.step event).OnRows) : device.FollowsRow event :=
    followsRow_of_onRows onRows
  exact always_iff_meets sound preserved necessary
    ⟨formed_init identifier, nofun⟩

/-- A channel is requested on the first link, and released before the peer
has answered. -/
def releasedEarly : List DeviceEvent :=
  [.linkUp 1 true,
    .establish ⟨1, 0, ⟨0, 0, 0, 0, 0, ⟨0, 64, 1, 2⟩⟩⟩ true ⟨true, true, true⟩,
    .release 1 0x80 ⟨true, true, true⟩]

/-- A channel that waits for its response is released. -/
theorem onRows_fails : ¬ Always step OnRows (init 0) releasedEarly := by
  intro always
  have onRow := always.at_end (.moved .activeReleasingReq .activating)
    (by decide)
  rcases onRow with state | ⟨row, _⟩
  · cases state
  · cases row

end Device

end NearLink.Cm
