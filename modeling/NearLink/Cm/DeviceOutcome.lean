import NearLink.Cm.DeviceStep

/-!
# What a step of a device can do

A step moves at most one channel, unless a link comes up or goes down.
-/

namespace NearLink.Cm

open Keyed Transition List

namespace Device

def channelOf (lcid tcid : Nat) (device : Device) : Option DynChannel :=
  if isDynamic tcid then device.findByLocalTcid lcid tcid else none

def startsRelease (device : Device) : DeviceEvent → Option DynChannel
  | .release lcid tcid _ => device.channelOf lcid tcid
  | _ => none

def endsRelease (device : Device) : DeviceEvent → Option DynChannel
  | .recv lcid (.disconnectRsp _ srcTcid _ _) _ => device.channelOf lcid srcTcid
  | .expire id =>
    (lookup CachedRequest.id id device.cached).bind fun request =>
      if request.code = .disconnectReq then
        device.channelOf request.lcid request.srcTcid
      else none
  | _ => none

def establishes (device : Device) : DeviceEvent → Option (DynChannel × Nat)
  | .recv lcid (.connectRsp _ srcTcid dstTcid result) _ =>
    if isDynamic srcTcid && isDynamic dstTcid && result == resultSuccess then
      (device.findByLocalTcid lcid srcTcid).bind fun channel =>
        if channel.state = .activating then some (channel, dstTcid) else none
    else none
  | _ => none

def releasedByPeer (device : Device) : DeviceEvent → Option DynChannel
  | .recv lcid (.disconnectReq _ srcTcid _) _ =>
    if isDynamic srcTcid then device.findByRemoteTcid lcid srcTcid else none
  | _ => none

section Named

variable {device : Device} {event : DeviceEvent} {channel : DynChannel}

theorem channelOf_mem {lcid tcid : Nat}
    (found : device.channelOf lcid tcid = some channel) :
    channel ∈ device.channels := by
  unfold channelOf at found
  split at found
  · exact lookup_mem found
  · cases found

theorem startsRelease_mem (starts : device.startsRelease event = some channel) :
    channel ∈ device.channels := by
  cases event with
  | release lcid tcid fate => exact channelOf_mem starts
  | _ => cases starts

theorem endsRelease_mem (ends : device.endsRelease event = some channel) :
    channel ∈ device.channels := by
  cases event with
  | recv lcid message fate =>
    cases message with
    | disconnectRsp id srcTcid dstTcid result => exact channelOf_mem ends
    | _ => cases ends
  | expire id =>
    obtain ⟨request, _, ended⟩ := Option.bind_eq_some_iff.mp ends
    split at ended
    · exact channelOf_mem ended
    · cases ended
  | _ => cases ends

theorem establishes_spec {dstTcid : Nat}
    (establishes : device.establishes event = some (channel, dstTcid)) :
    channel ∈ device.channels ∧ channel.state = .activating ∧
      isDynamic dstTcid = true := by
  cases event with
  | recv lcid message fate =>
    cases message with
    | connectRsp id srcTcid remoteTcid result =>
      simp only [Device.establishes, Bool.and_eq_true] at establishes
      split at establishes
      · next dynamic =>
          obtain ⟨found, located, chosen⟩ :=
            Option.bind_eq_some_iff.mp establishes
          split at chosen
          · next activating =>
              cases chosen
              exact ⟨lookup_mem located, activating, dynamic.1.2⟩
          · cases chosen
      · cases establishes
    | _ => cases establishes
  | _ => cases establishes

theorem releasedByPeer_spec
    (releases : device.releasedByPeer event = some channel) :
    channel ∈ device.channels ∧ isDynamic channel.remoteTcid = true := by
  cases event with
  | recv lcid message fate =>
    cases message with
    | disconnectReq id srcTcid dstTcid =>
      unfold releasedByPeer at releases
      dsimp only at releases
      split at releases
      · next dynamic =>
          have keys : channel.remoteKey = (lcid, srcTcid) :=
            lookup_key releases
          have remote : channel.remoteTcid = srcTcid :=
            (Prod.mk.inj keys).2
          exact ⟨lookup_mem releases, remote ▸ dynamic⟩
      · cases releases
    | _ => cases releases
  | _ => cases releases

end Named

structure Settled (device after : Device) : Prop where
  links : after.links = device.links
  channels : after.channels = device.channels
  pools : after.pools = device.pools
  serial : after.serial = device.serial
  log : after.log = device.log

theorem Settled.refl (device : Device) : Settled device device :=
  ⟨rfl, rfl, rfl, rfl, rfl⟩

inductive Outcome (device : Device) (event : DeviceEvent) : Device → Prop where
  | unmoved {after : Device} (unmoved : Unmoved device after) :
      Outcome device event after
  | requested {req : EstablishReq} {tcid : Nat} {sent : Device}
      (free : device.freeTcid req.lcid true = some tcid) (unmoved :
        Unmoved (device.opened (device.requestedChannel req tcid)) sent)
      (armed : sent.Armed .connectReq req.lcid tcid) :
      Outcome device event
        (sent.note (.establishAccepted (device.requestedChannel req tcid)))
  | established {channel : DynChannel} {dstTcid : Nat}
      (establishes : device.establishes event = some (channel, dstTcid)) :
      Outcome device event (device.activeEstablishedRspHandler channel dstTcid)
  | refused {channel : DynChannel} {result : UInt8}
      (member : channel ∈ device.channels)
      (activating : channel.state = .activating) :
      Outcome device event
        (device.activeEstablishingFailRspHandler channel result)
  | releasing {channel : DynChannel} {sent : Device}
      (starts : device.startsRelease event = some channel)
      (unmoved : Unmoved (device.releasing channel) sent)
      (armed : sent.Armed .disconnectReq channel.lcid channel.localTcid) :
      Outcome device event (sent.note (.releaseAccepted channel))
  | unreleased {channel : DynChannel} {failed : Device}
      (starts : device.startsRelease event = some channel)
      (unmoved : Unmoved (device.releasing channel) failed) :
      Outcome device event (failed.setState channel .activated)
  | released {channel : DynChannel} {row : ChanEvent} {result : UInt8}
      (ends : device.endsRelease event = some channel)
      (rows : row = .activeReleasedRsp ∨ row = .activeReleasingFailRsp) :
      Outcome device event
        (device.endChannel row channel (.releaseRsp channel result))
  | accepted {lcid tcid remoteTcid : Nat} {params : ChannelParams}
      {sent : Device} (dynamic : isDynamic remoteTcid = true)
      (new : device.findByRemoteTcid lcid remoteTcid = none)
      (free : device.freeTcid lcid (isUnicast remoteTcid) = some tcid)
      (unmoved : Unmoved (device.opened (device.newChannel lcid tcid
        remoteTcid .activated params)) sent) :
      Outcome device event
        (sent.note (.statusIndication (device.newChannel lcid tcid remoteTcid
          .activated params) true indicationNormal))
  | disconnected {channel : DynChannel} {after : Device}
      (releases : device.releasedByPeer event = some channel)
      (unmoved : Unmoved (device.disconnected channel
        (isUnicast channel.remoteTcid)) after) :
      Outcome device event after
  | linkUp {lcid : Nat} {allocated : Bool}
      (up : event = .linkUp lcid allocated) :
      Outcome device event (device.linkUp lcid allocated)
  | linkDown {lcid : Nat} {allocated : Bool}
      (down : event = .linkDown lcid allocated) :
      Outcome device event (device.linkDown lcid allocated)

variable {device : Device} {lcid tcid : Nat} {channel : DynChannel}

theorem releaseReq_of_channel
    (found : device.channelOf lcid tcid = some channel) (fate : RequestFate) :
    device.releaseReq lcid tcid fate =
      device.activeReleasingHandler channel fate := by
  unfold channelOf at found
  split at found
  · next dynamic =>
      unfold releaseReq
      rw [if_pos dynamic, found]
  · cases found

theorem releaseReq_of_none (absent : device.channelOf lcid tcid = none)
    (fate : RequestFate) : device.releaseReq lcid tcid fate = device := by
  unfold channelOf at absent
  unfold releaseReq
  split at absent
  · next dynamic => rw [if_pos dynamic, absent]
  · next other => rw [if_neg other]

theorem releaseRspCbk_of_none (absent : device.channelOf lcid tcid = none)
    (result : UInt8) : device.releaseRspCbk lcid tcid result = device := by
  unfold channelOf at absent
  unfold releaseRspCbk
  split at absent
  · next dynamic => rw [if_pos dynamic, absent]
  · next other => rw [if_neg other]

theorem releaseRspCbk_of_channel
    (found : device.channelOf lcid tcid = some channel) (result : UInt8) :
    ∃ row outcome, (row = .activeReleasedRsp ∨ row = .activeReleasingFailRsp) ∧
      device.releaseRspCbk lcid tcid result =
        device.endChannel row channel (.releaseRsp channel outcome) := by
  unfold channelOf at found
  split at found
  · next dynamic =>
      unfold releaseRspCbk
      rw [if_pos dynamic, found]
      dsimp only
      split
      · exact ⟨_, _, .inl rfl, rfl⟩
      · exact ⟨_, _, .inr rfl, rfl⟩
  · cases found

section Outcomes

variable (device : Device) (event : DeviceEvent)

theorem establishRspCbk_outcome (lcid srcTcid dstTcid : Nat) (result : UInt8)
    (named : result = resultSuccess →
      ∃ id fate, event = .recv lcid (.connectRsp id srcTcid dstTcid result)
      fate) :
    device.Outcome event
      (device.establishRspCbk lcid srcTcid dstTcid result) := by
  rcases device.establishRspCbk_cases lcid srcTcid dstTcid result with
    same | ⟨channel, dynamic, found, activating, outcome⟩
  · rw [same]
    exact .unmoved (.refl device)
  · rcases outcome with ⟨success, remote, outcome⟩ | outcome <;> rw [outcome]
    · apply Outcome.established
      obtain ⟨id, fate, rfl⟩ := named success
      simp [establishes, dynamic, remote, success, found, activating]
    · exact .refused (lookup_mem found) activating

theorem releaseRspCbk_outcome (lcid srcTcid : Nat) (result : UInt8)
    (named : device.endsRelease event = device.channelOf lcid srcTcid) :
    device.Outcome event (device.releaseRspCbk lcid srcTcid result) := by
  cases found : device.channelOf lcid srcTcid with
  | none =>
    rw [releaseRspCbk_of_none found]
    exact .unmoved (.refl device)
  | some channel =>
    obtain ⟨row, outcome, rows, ended⟩ :=
      releaseRspCbk_of_channel found result
    rw [ended]
    exact .released (named.trans found) rows

theorem establishReqCbk_outcome (formed : device.Formed)
    (event : DeviceEvent) (lcid : Nat) (id : UInt8) (srcTcid : Nat)
    (slqi : UInt8) (aid : UInt16) (config : ChannelConfig) (fate : RecvFate) :
    device.Outcome event
      (device.establishReqCbk lcid id srcTcid slqi aid config fate) := by
  rcases device.establishReqCbk_cases lcid id srcTcid slqi aid config
    fate with same | ⟨dynamic, new, params, outcome⟩
  · rw [same]
    exact .unmoved (.refl device)
  · rw [outcome]
    rcases passiveEstablishedReqHandler_cases formed lcid id srcTcid
      params fate with unmoved | ⟨tcid, sent, free, unmoved, handled⟩
    · exact .unmoved unmoved
    · rw [handled]
      exact .accepted dynamic new free unmoved

theorem releaseReqCbk_outcome (lcid : Nat) (id : UInt8)
    (srcTcid dstTcid : Nat) (fate : RecvFate) :
    device.Outcome (.recv lcid (.disconnectReq id srcTcid dstTcid) fate)
      (device.releaseReqCbk lcid id srcTcid fate) := by
  rcases device.releaseReqCbk_cases lcid id srcTcid fate with
    same | ⟨dynamic, channel, found, outcome⟩
  · rw [same]
    exact .unmoved (.refl device)
  · have remote : channel.remoteTcid = srcTcid := by
      have keys : channel.remoteKey = (lcid, srcTcid) := lookup_key found
      exact (Prod.mk.inj keys).2
    have handled := device.passiveReleasedReqHandler_unmoved channel id
      (isUnicast srcTcid) fate
    rw [outcome]
    rw [← remote] at handled ⊢
    refine .disconnected ?_ handled
    rw [releasedByPeer, remote, if_pos dynamic, found]

theorem handle_outcome (formed : device.Formed) (lcid : Nat)
    (message : ChanSignal) (fate : RecvFate) :
    device.Outcome (.recv lcid message fate)
      (device.handle lcid message fate) := by
  cases message with
  | connectReq id srcTcid slqi aid config =>
    exact device.establishReqCbk_outcome formed _ lcid id srcTcid slqi aid
      config fate
  | connectRsp id srcTcid dstTcid result =>
    exact device.establishRspCbk_outcome _ lcid srcTcid dstTcid result
      fun _ => ⟨id, fate, rfl⟩
  | disconnectReq id srcTcid dstTcid =>
    exact device.releaseReqCbk_outcome lcid id srcTcid dstTcid fate
  | disconnectRsp id srcTcid dstTcid result =>
    exact device.releaseRspCbk_outcome _ lcid srcTcid result rfl

theorem releaseReq_outcome (lcid tcid : Nat) (fate : RequestFate) :
    device.Outcome (.release lcid tcid fate)
      (device.releaseReq lcid tcid fate) := by
  cases found : device.channelOf lcid tcid with
  | none =>
    rw [releaseReq_of_none found]
    exact .unmoved (.refl device)
  | some channel =>
    have starts : device.startsRelease (.release lcid tcid fate) =
      some channel := found
    rw [releaseReq_of_channel found]
    rcases device.activeReleasingHandler_cases channel fate with
      ⟨sent, unmoved, armed, handled⟩ | ⟨failed, unmoved, handled⟩
    all_goals rw [handled]
    · exact .releasing starts unmoved armed
    · exact .unreleased starts unmoved

theorem establishReq_outcome (formed : device.Formed) (event : DeviceEvent)
    (req : EstablishReq) (nodeAllocated : Bool) (fate : RequestFate) :
    device.Outcome event (device.establishReq req nodeAllocated fate) := by
  rcases establishReq_cases formed req nodeAllocated fate with
    unmoved | ⟨tcid, sent, free, unmoved, armed, handled⟩
  · exact .unmoved unmoved
  · rw [handled]
    exact .requested free unmoved armed

@[grind =] def begun (device : Device) : DeviceEvent → Device
  | .expire id =>
    match lookup CachedRequest.id id device.cached with
    | none => device
    | some request =>
      device.note (.timedOut request
        ((device.findByLocalTcid request.lcid request.srcTcid).map
          DynChannel.serial))
  | _ => device

def timeoutHandled (request : CachedRequest) (device : Device) : Device :=
  match request.code with
  | .connectReq =>
    device.establishRspCbk request.lcid request.srcTcid request.dstTcid
      resultEstablishTimeout
  | .disconnectReq =>
    device.releaseRspCbk request.lcid request.srcTcid resultReleaseTimeout

theorem timeoutHandled_outcome (request : CachedRequest)
    (named : request.code = .disconnectReq →
      device.endsRelease event = device.channelOf request.lcid request.srcTcid)
    :
    device.Outcome event (device.timeoutHandled request) := by
  unfold timeoutHandled
  split
  · apply device.establishRspCbk_outcome event
    intro success
    exact absurd success (by decide)
  · next code => exact device.releaseRspCbk_outcome event _ _ _ (named code)

theorem recv_settled (lcid : Nat) (message : ChanSignal) (fate : RecvFate) :
    Settled (device.handle lcid message fate)
      (device.step (.recv lcid message fate)) := by
  constructor <;> simp [step, recvSignalingData]

/-- A step moves the channels as its event says, and then only takes requests
out of the cache. -/
theorem step_outcome (formed : device.Formed) (event : DeviceEvent) :
    ∃ core, (device.begun event).Outcome event core ∧
      Settled core (device.step event) := by
  cases event with
  | linkUp lcid allocated => exact ⟨_, .linkUp rfl, Settled.refl _⟩
  | linkDown lcid allocated => exact ⟨_, .linkDown rfl, Settled.refl _⟩
  | establish req nodeAllocated fate =>
    exact ⟨_, device.establishReq_outcome formed _ req nodeAllocated fate,
      Settled.refl _⟩
  | release lcid tcid fate =>
    exact ⟨_, device.releaseReq_outcome lcid tcid fate, Settled.refl _⟩
  | recv lcid message fate =>
    exact ⟨_, device.handle_outcome formed lcid message fate,
      device.recv_settled lcid message fate⟩
  | expire id =>
    cases found : lookup CachedRequest.id id device.cached with
    | none =>
      refine ⟨device, ?_, ?_⟩
      · simp only [begun, found]
        exact .unmoved (.refl device)
      · simp only [step, signalingTimeout, found]
        exact .refl device
    | some request =>
      simp only [begun, found]
      refine ⟨_, timeoutHandled_outcome _ (.expire id) request ?_, ?_⟩
      · intro code
        simp only [endsRelease, note, found, Option.bind_some, code, if_true]
      · simp only [step, signalingTimeout, found]
        exact ⟨rfl, rfl, rfl, rfl, rfl⟩

end Outcomes

section Steps

variable {device : Device} {event : DeviceEvent} {channel : DynChannel}

theorem step_establishes {dstTcid : Nat}
    (establishes : device.establishes event = some (channel, dstTcid)) :
    Settled (device.activeEstablishedRspHandler channel dstTcid)
      (device.step event) := by
  cases event with
  | recv lcid message fate =>
    cases message with
    | connectRsp id srcTcid remoteTcid result =>
      have settled := device.recv_settled lcid
        (.connectRsp id srcTcid remoteTcid result) fate
      simp only [Device.establishes] at establishes
      split at establishes
      · next accepted =>
          obtain ⟨found, located, chosen⟩ :=
            Option.bind_eq_some_iff.mp establishes
          simp only [Bool.and_eq_true, beq_iff_eq] at accepted
          obtain ⟨⟨dynamic, remote⟩, success⟩ := accepted
          split at chosen
          · next activating =>
              cases chosen
              simpa [handle, establishRspCbk, dynamic, remote, located,
                activating, success] using settled
          · cases chosen
      · cases establishes
    | _ => cases establishes
  | _ => cases establishes

theorem step_releasedByPeer
    (releases : device.releasedByPeer event = some channel) :
    ∃ core, Unmoved (device.disconnected channel
      (isUnicast channel.remoteTcid)) core ∧
      Settled core (device.step event) := by
  cases event with
  | recv lcid message fate =>
    cases message with
    | disconnectReq id srcTcid dstTcid =>
      refine ⟨_, ?_, device.recv_settled lcid
        (.disconnectReq id srcTcid dstTcid) fate⟩
      simp only [releasedByPeer] at releases
      split at releases
      · next dynamic =>
          have keys : channel.remoteKey = (lcid, srcTcid) :=
            lookup_key releases
          have remote : channel.remoteTcid = srcTcid :=
            (Prod.mk.inj keys).2
          simp only [handle, releaseReqCbk, dynamic, if_true, releases, remote]
          exact passiveReleasedReqHandler_unmoved channel id _ fate
      · cases releases
    | _ => cases releases
  | _ => cases releases

end Steps

/-- What `CM_DynTransChannelNotifyAllDisconnected` reports of a channel. -/
def disconnectReport (channel : DynChannel) : DeviceLog :=
  if channel.state = .activating then .establishRsp channel rspFail
  else .statusIndication channel false indicationDisconnected

section LinkDown

variable {device : Device}

theorem notifyDisconnected_live {channel : DynChannel} (live : channel.Live) :
    device.notifyDisconnected channel =
      (device.note (disconnectReport channel)).freeChannel channel := by
  unfold notifyDisconnected disconnectReport
  rcases live with ⟨state, _⟩ | state | state <;> simp [state]

theorem foldl_notifyDisconnected {listed : List DynChannel}
    (live : ∀ channel ∈ listed, channel.Live)
    (distinct : (device.channels.map DynChannel.serial).Nodup) :
    listed.foldl notifyDisconnected device =
      { device with
        channels := device.channels.filter fun channel =>
          channel.serial ∉ listed.map DynChannel.serial
        log := device.log ++ listed.map disconnectReport } := by
  induction listed generalizing device with
  | nil => simp
  | cons channel listed induction =>
    have others := fun other member =>
      live other (mem_cons_of_mem channel member)
    rw [foldl_cons, notifyDisconnected_live (live channel (by simp)),
      induction others]
    · simp [freeChannel, note, remove_eq_filter distinct, filter_filter,
        Bool.and_comm]
    · exact distinct.sublist (remove_sublist.map _)

theorem releaseAllNode_eq (formed : device.Formed) (lcid : Nat) :
    device.releaseAllNode lcid true =
      { device with
        channels := device.channels.filter fun channel => channel.lcid ≠ lcid
        log := device.log ++ (device.channels.filter fun channel =>
            channel.lcid = lcid).map disconnectReport } := by
  unfold releaseAllNode
  rw [if_pos rfl, foldl_notifyDisconnected
    (fun channel member => formed.live channel (mem_filter.mp member).1)
    formed.distinct]
  congr 1
  apply filter_congr
  intro channel member
  simp only [mem_map, mem_filter, decide_eq_true_eq, not_exists,
    not_and, decide_eq_decide]
  constructor
  · intro apart same
    exact apart channel ⟨member, same⟩ rfl
  · rintro apart other ⟨listed, same⟩ serial
    have equal := inj_on_of_nodup_map formed.distinct listed member serial
    exact apart (equal ▸ same)

theorem linkDown_eq (formed : device.Formed) (lcid : Nat) (allocated : Bool) :
    device.linkDown lcid allocated =
      { device with
        links := device.links.filter (· ≠ lcid)
        channels :=
          if allocated then
            device.channels.filter fun channel => channel.lcid ≠ lcid
          else device.channels
        pools := remove TcidPool.lcid lcid device.pools
        cached := device.cached.filter fun request => request.lcid ≠ lcid
        outstanding :=
          device.outstanding.filter fun request => request.lcid ≠ lcid
        log := device.log ++
          if allocated then
            (device.channels.filter fun channel =>
              channel.lcid = lcid).map disconnectReport
          else [] } := by
  cases allocated with
  | false => simp [linkDown, releaseAllNode, signalingCacheClearByLcid]
  | true => simp [linkDown, releaseAllNode_eq formed, signalingCacheClearByLcid]

end LinkDown

theorem formed_init (identifier : UInt8) : (init identifier).Formed where
  distinct := nodup_nil
  below := nofun
  live := nofun

section Formed

variable {device after : Device} {event : DeviceEvent} (formed : device.Formed)
include formed

theorem Formed.unmoved (unmoved : Unmoved device after) : after.Formed :=
  formed.congr unmoved.serial unmoved.channels

theorem Formed.settled (settled : Settled device after) : after.Formed :=
  formed.congr settled.serial.ge settled.channels

theorem Formed.begun : (device.begun event).Formed := by
  apply formed.congr
  · unfold Device.begun
    split
    · split <;> exact le_rfl
    · exact le_rfl
  · unfold Device.begun
    split
    · split <;> rfl
    · rfl

theorem Formed.endChannel (row : ChanEvent) (channel : DynChannel)
    (report : DeviceLog) : (device.endChannel row channel report).Formed := by
  apply formed.sublist
  · simp [Device.endChannel, freeChannel, note]
  · rw [endChannel_channels]
    exact remove_sublist

section

variable (channel : DynChannel)

theorem Formed.setState {state : ChannelState}
    (kept : state = .activated ∨ state = .releasing) :
    (device.setState channel state).Formed := by
  apply formed.change channel fun node => { node with state }
  · exact fun _ => rfl
  · exact fun _ => .inr kept
  · rfl
  · rfl

theorem Formed.releasing :
    (device.releasing channel).Formed := by
  have noted :
      (device.note (.moved .activeReleasingReq channel.state)).Formed :=
    formed.congr le_rfl rfl
  exact noted.setState channel (.inr rfl)

theorem Formed.established (dstTcid : Nat) :
    (device.activeEstablishedRspHandler channel dstTcid).Formed := by
  apply formed.change channel fun node =>
    { node with remoteTcid := dstTcid, state := .activated }
  · exact fun _ => rfl
  · exact fun _ => .inr (.inl rfl)
  · rfl
  · rfl

end

theorem Formed.outcome (outcome : device.Outcome event after) :
    after.Formed := by
  cases outcome with
  | unmoved unmoved => exact formed.unmoved unmoved
  | @requested req tcid _ free unmoved armed =>
    have live : (device.requestedChannel req tcid).Live := .inl ⟨rfl, rfl⟩
    exact ((formed.opened rfl live).unmoved unmoved).congr le_rfl rfl
  | established establishes => exact formed.established _ _
  | releasing starts unmoved armed =>
    exact ((formed.releasing _).unmoved unmoved).congr le_rfl rfl
  | unreleased starts unmoved =>
    exact ((formed.releasing _).unmoved unmoved).setState _ (.inl rfl)
  | @accepted lcid tcid remoteTcid params _ dynamic new free unmoved =>
    have live : (device.newChannel lcid tcid remoteTcid .activated
      params).Live := .inr (.inl rfl)
    exact ((formed.opened rfl live).unmoved unmoved).congr le_rfl rfl
  | disconnected releases unmoved =>
    refine Formed.unmoved ?_ unmoved
    apply formed.sublist
    · simp [Device.disconnected, freeChannel, note]
    · rw [disconnected_channels]
      exact remove_sublist
  | linkUp up => exact formed.congr le_rfl rfl
  | linkDown down =>
    rw [linkDown_eq formed]
    refine formed.sublist rfl ?_
    split
    · exact filter_sublist
    · exact List.Sublist.refl _
  | _ => exact formed.endChannel _ _ _

theorem Formed.step (event : DeviceEvent) : (device.step event).Formed := by
  obtain ⟨core, outcome, settled⟩ := device.step_outcome formed event
  exact (formed.begun.outcome outcome).settled settled

end Formed

def Extended (device after : Device) : Prop :=
  ∃ added, after.log = device.log ++ added ∧
    ∀ request channel, .timedOut request channel ∉ added

section Extended

variable {device after : Device} {event : DeviceEvent}

theorem Extended.of_log (log : after.log = device.log) :
    Extended device after :=
  ⟨[], by rw [log, append_nil], fun _ _ => not_mem_nil⟩

theorem Extended.trans {middle : Device} (first : Extended device middle)
    (second : Extended middle after) : Extended device after := by
  obtain ⟨added, log, untimed⟩ := first
  obtain ⟨more, logged, untimedMore⟩ := second
  refine ⟨added ++ more, by rw [logged, log, append_assoc], ?_⟩
  intro request channel member
  rcases mem_append.mp member with member | member
  · exact untimed request channel member
  · exact untimedMore request channel member

theorem Extended.note (extended : Extended device after) {entry : DeviceLog}
    (untimed : ∀ request channel, entry ≠ .timedOut request channel) :
    Extended device (after.note entry) := by
  refine extended.trans ⟨[entry], rfl, ?_⟩
  intro request channel member
  exact untimed request channel (mem_singleton.mp member).symm

theorem Unmoved.extended (unmoved : Unmoved device after) :
    Extended device after := by
  obtain ⟨messages, log⟩ := unmoved.log
  refine ⟨_, log, ?_⟩
  intro request channel member
  obtain ⟨_, _, sent⟩ := mem_map.mp member
  cases sent

theorem releasing_extended (channel : DynChannel) :
    Extended device (device.releasing channel) :=
  ⟨[.moved .activeReleasingReq channel.state], rfl, by simp⟩

theorem Outcome.extended (formed : device.Formed)
    (outcome : device.Outcome event after) : Extended device after := by
  cases outcome with
  | unmoved unmoved => exact unmoved.extended
  | requested free unmoved armed =>
    exact ((Extended.of_log rfl).trans unmoved.extended).note (by simp)
  | @established channel dstTcid establishes =>
    exact ⟨[.moved .activeEstablishedRsp channel.state, .establishRsp
        { channel with remoteTcid := dstTcid, state := .activated }
        rspSuccess], by simp [activeEstablishedRspHandler, Device.note,
          setTcid, ChanEvent.nextState], by simp⟩
  | @refused channel result member activating =>
    exact ⟨_, endChannel_log channel _ _, by simp⟩
  | releasing starts unmoved armed =>
    exact ((releasing_extended _).trans unmoved.extended).note (by simp)
  | unreleased starts unmoved =>
    exact ((releasing_extended _).trans unmoved.extended).trans
      (Extended.of_log rfl)
  | @released channel row result ends rows =>
    exact ⟨_, endChannel_log channel _ _, by simp⟩
  | accepted dynamic new free unmoved =>
    exact ((Extended.of_log rfl).trans unmoved.extended).note (by simp)
  | @disconnected channel _ releases unmoved =>
    have started : Extended device
        (device.disconnected channel (isUnicast channel.remoteTcid)) :=
      ⟨_, disconnected_log channel _, by simp⟩
    exact started.trans unmoved.extended
  | linkUp up => exact Extended.of_log rfl
  | linkDown down =>
    rw [linkDown_eq formed]
    refine ⟨_, rfl, ?_⟩
    intro request channel member
    split at member
    · obtain ⟨other, _, report⟩ := mem_map.mp member
      unfold disconnectReport at report
      split at report <;> cases report
    · cases member

end Extended

end Device

end NearLink.Cm
