import NearLink.Cm.ChannelCount
import NearLink.Cm.SignalingCache
import NearLink.Cm.TcidAccount

/-!
# Requests are completed

A request that was accepted is answered once, or a timer that will answer it is
running.  For this, a response that takes a request out of the cache has to be
the response to that request, since nothing else ends the wait of its channel;
and releases have to follow the rows of the table.
-/

namespace NearLink.Cm

open Keyed Transition List Nat

def ChanSignal.Answers (request : CachedRequest) (lcid : Nat) :
    ChanSignal → Prop
  | .connectRsp _ srcTcid dstTcid result =>
    request.lcid = lcid ∧ request.srcTcid = srcTcid ∧
      (result = resultSuccess → isDynamic dstTcid = true)
  | .disconnectRsp _ srcTcid _ _ =>
    request.lcid = lcid ∧ request.srcTcid = srcTcid
  | _ => False

namespace Device

structure Placed (device : Device) : Prop where
  locals : (device.channels.map DynChannel.localKey).Nodup
  marked : ∀ channel ∈ device.channels,
    channel.localTcid ∈ device.usedOf channel.lcid
  unicast : ∀ channel ∈ device.channels, isUnicast channel.localTcid = true

section Placed

variable {device after : Device} {event : DeviceEvent} {channel : DynChannel}
  {unicast : Bool}

section

variable (placed : device.Placed)
include placed

theorem Placed.congr (channels : after.channels = device.channels)
    (pools : after.pools = device.pools) : after.Placed := by
  constructor <;> rw [channels]
  · exact placed.locals
  · simp only [usedOf, poolOf, pools]
    exact placed.marked
  · exact placed.unicast

theorem Placed.unmoved (unmoved : Unmoved device after) : after.Placed :=
  placed.congr unmoved.channels unmoved.pools

theorem Placed.opened
    (free : device.freeTcid channel.lcid unicast = some channel.localTcid) :
    (device.opened channel).Placed := by
  obtain ⟨_, inRange, pool, located, unused⟩ := freeTcid_some free
  have marks : MarksChanged (channel.localTcid :: ·) channel.lcid device
    (device.opened channel) := opened_marks
  constructor
  · apply nodup_append_singleton placed.locals
    intro member
    obtain ⟨other, listed, keys⟩ := mem_map.mp member
    obtain ⟨lcids, tcids⟩ := Prod.mk.inj keys
    have used := placed.marked other listed
    rw [lcids, tcids] at used
    unfold usedOf at used
    rw [located] at used
    exact unused used
  · intro other member
    rcases mem_append.mp member with earlier | last
    · have used := placed.marked other earlier
      by_cases same : other.lcid = channel.lcid
      · rw [same] at used ⊢
        rw [marks.usedOf_self located]
        exact .tail _ used
      · rw [marks.usedOf_ne same]
        exact used
    · rw [mem_singleton.mp last, marks.usedOf_self located]
      exact .head _
  · exact forall_mem_append.mpr ⟨placed.unicast,
      forall_mem_singleton.mpr inRange⟩

end

theorem dynTcidRelease_used (device : Device) {lcid tcid other marked : Nat}
    (used : marked ∈ device.usedOf other)
    (differs : (other, marked) ≠ (lcid, tcid)) :
    marked ∈ (device.dynTcidRelease lcid tcid unicast).usedOf other := by
  by_cases returned : unicast = true ∧ isUnicast tcid = true
  · have marks : MarksChanged (·.erase tcid) lcid device
        (device.dynTcidRelease lcid tcid unicast) :=
      dynTcidRelease_pools returned.1 returned.2
    by_cases same : other = lcid
    · rw [same] at used differs ⊢
      obtain ⟨pool, located⟩ := poolOf_of_used used
      rw [marks.usedOf_self located]
      refine (mem_erase_of_ne ?_).mpr used
      rintro rfl
      exact differs rfl
    · rw [marks.usedOf_ne same]
      exact used
  · unfold dynTcidRelease
    rw [if_neg (by simpa using returned)]
    exact used

section

variable (placed : device.Placed)
include placed

section

variable (formed : device.Formed) (member : channel ∈ device.channels)
include formed member

theorem Placed.freed
    (channels : after.channels =
      remove DynChannel.serial channel.serial device.channels)
    (used : ∀ lcid tcid, tcid ∈ device.usedOf lcid →
      (lcid, tcid) ≠ channel.localKey → tcid ∈ after.usedOf lcid) :
    after.Placed := by
  constructor <;> rw [channels]
  · exact placed.locals.sublist (remove_sublist.map _)
  · intro other remains
    obtain ⟨listed, differs⟩ := (formed.mem_remove member).mp remains
    apply used _ _ (placed.marked other listed)
    intro same
    exact differs (inj_on_of_nodup_map placed.locals listed member same)
  · intro other remains
    exact placed.unicast other (remove_sublist.subset remains)

theorem Placed.endChannel (row : ChanEvent) (report : DeviceLog) :
    (device.endChannel row channel report).Placed := by
  apply placed.freed formed member (endChannel_channels channel row report)
  intro lcid tcid used differs
  exact dynTcidRelease_used
    (((device.note (.moved row channel.state)).note report).freeChannel
      channel) used differs

theorem Placed.disconnected (unicast : Bool) :
    (device.disconnected channel unicast).Placed := by
  apply placed.freed formed member (disconnected_channels channel unicast)
  intro lcid tcid used differs
  exact dynTcidRelease_used
    ((device.note (.moved .passiveReleasedReq channel.state)).note
      (.statusIndication channel false indicationDisconnected)) used differs

end

theorem Placed.changed {change : DynChannel → DynChannel}
    (keeps : ∀ node, (change node).localKey = node.localKey)
    (channels : after.channels =
      modify DynChannel.serial channel.serial change device.channels)
    (pools : after.pools = device.pools) : after.Placed := by
  constructor
  · rw [channels, map_modify keeps]
    exact placed.locals
  · rw [channels]
    simp only [usedOf, poolOf, pools]
    apply forall_modify placed.marked
    intro node located
    obtain ⟨lcids, tcids⟩ := Prod.mk.inj (keeps node)
    rw [lcids, tcids]
    exact placed.marked node (lookup_mem located)
  · rw [channels]
    apply forall_modify placed.unicast
    intro node located
    rw [(Prod.mk.inj (keeps node)).2]
    exact placed.unicast node (lookup_mem located)

theorem Placed.setState (channel : DynChannel) (state : ChannelState) :
    (device.setState channel state).Placed := by
  have keeps (node : DynChannel) :
      DynChannel.localKey { node with state } = node.localKey := rfl
  exact placed.changed keeps rfl rfl

theorem Placed.releasing (channel : DynChannel) :
    (device.releasing channel).Placed := by
  have noted :
      (device.note (.moved .activeReleasingReq channel.state)).Placed :=
    placed.congr rfl rfl
  exact noted.setState channel .releasing

theorem Placed.linkUp (lcid : Nat) (allocated : Bool) :
    (device.linkUp lcid allocated).Placed := by
  refine ⟨placed.locals, ?_, placed.unicast⟩
  intro channel member
  rw [linkUp_usedOf]
  exact placed.marked channel member

theorem Placed.linkDown (formed : device.Formed) {lcid : Nat} {allocated : Bool}
    (sweeps : device.SweepsLink (.linkDown lcid allocated)) :
    (device.linkDown lcid allocated).Placed := by
  have channels := linkDown_swept formed sweeps
  constructor <;> rw [channels]
  · exact placed.locals.sublist (filter_sublist.map _)
  · intro channel member
    obtain ⟨listed, kept⟩ := mem_filter.mp member
    have differs : channel.lcid ≠ lcid := by simpa using kept
    have pools : (device.linkDown lcid allocated).poolOf channel.lcid =
        device.poolOf channel.lcid := by
      rw [linkDown_eq formed]
      exact lookup_remove_ne differs
    unfold usedOf
    rw [pools]
    exact placed.marked channel listed
  · intro channel member
    exact placed.unicast channel (mem_filter.mp member).1

theorem Placed.outcome (formed : device.Formed)
    (sweeps : device.SweepsLink event) (outcome : device.Outcome event after) :
    after.Placed := by
  cases outcome with
  | unmoved unmoved => exact placed.unmoved unmoved
  | @requested req tcid _ free unmoved armed =>
    have opened :
        (device.opened (device.requestedChannel req tcid)).Placed :=
      placed.opened free
    exact (opened.unmoved unmoved).congr rfl rfl
  | @established channel dstTcid establishes =>
    have keeps (node : DynChannel) :
        DynChannel.localKey
          { node with remoteTcid := dstTcid, state := .activated } =
            node.localKey := rfl
    exact placed.changed keeps rfl rfl
  | refused member activating => exact placed.endChannel formed member _ _
  | releasing starts unmoved armed =>
    exact ((placed.releasing _).unmoved unmoved).congr rfl rfl
  | unreleased starts unmoved =>
    exact ((placed.releasing _).unmoved unmoved).setState _ _
  | released ends rows =>
    exact placed.endChannel formed (endsRelease_mem ends) _ _
  | @accepted lcid tcid remoteTcid params _ dynamic new free unmoved =>
    have opened : (device.opened (device.newChannel lcid tcid remoteTcid
      .activated params)).Placed := placed.opened free
    exact (opened.unmoved unmoved).congr rfl rfl
  | disconnected releases unmoved =>
    have member := (releasedByPeer_spec releases).1
    exact (placed.disconnected formed member _).unmoved unmoved
  | linkUp up => exact placed.linkUp _ _
  | linkDown down =>
    rw [down] at sweeps
    exact placed.linkDown formed sweeps

end

theorem begun_pools : (device.begun event).pools = device.pools := by
  unfold begun
  split
  · split <;> rfl
  · rfl

theorem Placed.step (placed : device.Placed) (formed : device.Formed)
    (sweeps : device.SweepsLink event) : (device.step event).Placed := by
  have begun : (device.begun event).Placed :=
    placed.congr begun_channels begun_pools
  have swept : (device.begun event).SweepsLink event := by
    cases event with
    | linkDown lcid allocated => exact sweeps
    | _ => trivial
  obtain ⟨core, outcome, settled⟩ := device.step_outcome formed event
  exact (begun.outcome formed.begun swept outcome).congr settled.channels
    settled.pools

end Placed

def waitsFor : ChannelState → Option RequestCode
  | .activating => some .connectReq
  | .releasing => some .disconnectReq
  | _ => none

theorem activating_of_waitsFor {state : ChannelState} {code : RequestCode}
    (waiting : waitsFor state = some code) (answered : code.value + 1 = 0x11) :
    state = .activating := by
  cases code with
  | connectReq =>
    cases state with
    | activating => rfl
    | _ => cases waiting
  | disconnectReq => exact absurd answered (by decide)

def Waits (device : Device) : Prop :=
  ∀ channel ∈ device.channels, ∀ code, waitsFor channel.state = some code →
    device.Armed code channel.lcid channel.localTcid

section Waits

variable {device after : Device} {event : DeviceEvent} {channel : DynChannel}
  {code : RequestCode} {lcid tcid : Nat}

theorem Armed.mono (armed : device.Armed code lcid tcid)
    (cached : device.cached ⊆ after.cached) : after.Armed code lcid tcid := by
  obtain ⟨request, member, named⟩ := armed
  exact ⟨request, cached member, named⟩

section

variable (waits : device.Waits)
include waits

theorem Waits.unmoved (unmoved : Unmoved device after) : after.Waits := by
  intro channel member code waiting
  rw [unmoved.channels] at member
  exact (waits channel member code waiting).mono unmoved.cached

theorem Waits.of_mem (cached : device.cached ⊆ after.cached)
    (listed : ∀ other ∈ after.channels, other ∈ device.channels ∨
      ∀ code, waitsFor other.state = some code →
        after.Armed code other.lcid other.localTcid) : after.Waits := by
  intro other member code waiting
  rcases listed other member with earlier | armed
  · exact (waits other earlier code waiting).mono cached
  · exact armed code waiting

theorem Waits.note (entry : DeviceLog) : (device.note entry).Waits := waits

theorem Waits.opened (unmoved : Unmoved (device.opened channel) after)
    (armed : ∀ code, waitsFor channel.state = some code →
      after.Armed code channel.lcid channel.localTcid) : after.Waits := by
  apply waits.of_mem unmoved.cached
  rw [unmoved.channels]
  exact forall_mem_append.mpr ⟨fun _ earlier => .inl earlier,
    forall_mem_singleton.mpr (.inr armed)⟩

theorem Waits.endChannel (row : ChanEvent) (report : DeviceLog) :
    (device.endChannel row channel report).Waits := by
  apply waits.of_mem
  · rw [(endChannel_requests row channel report).cached]
    exact List.Subset.refl _
  · intro other member
    rw [endChannel_channels] at member
    exact .inl (remove_sublist.subset member)

variable (formed : device.Formed)
include formed

section

variable (member : channel ∈ device.channels)
include member

theorem Waits.releasing {sent : Device}
    (unmoved : Unmoved (device.releasing channel) sent)
    (armed : sent.Armed .disconnectReq channel.lcid channel.localTcid) :
    sent.Waits := by
  apply waits.of_mem unmoved.cached
  intro other listed
  rw [unmoved.channels] at listed
  rcases (formed.mem_modify member).mp listed with ⟨earlier, _⟩ | rfl
  · exact .inl earlier
  · refine .inr ?_
    rintro code ⟨⟩
    exact armed

theorem Waits.unreleased {failed : Device}
    (unmoved : Unmoved (device.releasing channel) failed) :
    (failed.setState channel .activated).Waits := by
  refine waits.of_mem unmoved.cached ?_
  intro other listed
  rw [unreleased_channels unmoved] at listed
  rcases (formed.mem_modify member).mp listed with ⟨earlier, _⟩ | rfl
  · exact .inl earlier
  · exact .inr nofun

theorem Waits.established (dstTcid : Nat) :
    (device.activeEstablishedRspHandler channel dstTcid).Waits := by
  refine waits.of_mem (List.Subset.refl _) ?_
  intro other listed
  rcases (formed.mem_modify member).mp listed with ⟨earlier, _⟩ | rfl
  · exact .inl earlier
  · exact .inr nofun

end

theorem Waits.linkDown {lcid : Nat} {allocated : Bool}
    (sweeps : device.SweepsLink (.linkDown lcid allocated)) :
    (device.linkDown lcid allocated).Waits := by
  intro channel member code waiting
  rw [linkDown_swept formed sweeps] at member
  obtain ⟨listed, kept⟩ := mem_filter.mp member
  obtain ⟨request, cached, named, lcids, tcids⟩ :=
    waits channel listed code waiting
  refine ⟨request, ?_, named, lcids, tcids⟩
  rw [linkDown_eq formed]
  exact mem_filter.mpr ⟨cached, by rw [lcids]; exact kept⟩

theorem Waits.outcome (sweeps : device.SweepsLink event)
    (outcome : device.Outcome event after) : after.Waits := by
  cases outcome with
  | unmoved unmoved => exact waits.unmoved unmoved
  | requested free unmoved armed =>
    refine (waits.opened unmoved ?_).note _
    rintro code ⟨⟩
    exact armed
  | established establishes =>
    exact waits.established formed (establishes_spec establishes).1 _
  | releasing starts unmoved armed =>
    exact (waits.releasing formed (startsRelease_mem starts) unmoved
      armed).note _
  | unreleased starts unmoved =>
    exact waits.unreleased formed (startsRelease_mem starts) unmoved
  | accepted dynamic new free unmoved =>
    exact (waits.opened unmoved nofun).note _
  | disconnected releases unmoved =>
    refine Waits.unmoved (waits.of_mem ?_ ?_) unmoved
    · simp [Device.disconnected, freeChannel, Device.note]
    · intro other member
      rw [disconnected_channels] at member
      exact .inl (remove_sublist.subset member)
  | linkUp up => exact waits
  | linkDown down =>
    rw [down] at sweeps
    exact waits.linkDown formed sweeps
  | _ => exact waits.endChannel _ _

end

theorem isDynamic_of_isUnicast (unicast : isUnicast tcid = true) :
    isDynamic tcid = true := by
  obtain ⟨atLeast, atMost⟩ := Bool.and_eq_true_iff.mp unicast
  have lower : 0x80 ≤ tcid := of_decide_eq_true atLeast
  have upper : tcid ≤ 0xDF := of_decide_eq_true atMost
  have dynamic : 0x20 ≤ tcid ∧ tcid ≤ 0xFF := by omega
  simpa [isDynamic] using dynamic

variable {result : UInt8} {srcTcid : Nat} {request : CachedRequest}

section

variable (placed : device.Placed)
include placed

section

variable (member : channel ∈ device.channels)
include member

theorem Placed.found :
    device.findByLocalTcid channel.lcid channel.localTcid = some channel :=
  lookup_of_mem placed.locals member

theorem Placed.channelOf :
    device.channelOf channel.lcid channel.localTcid = some channel := by
  have dynamic := isDynamic_of_isUnicast (placed.unicast channel member)
  rw [Device.channelOf, if_pos dynamic]
  exact placed.found member

theorem establishRspCbk_answers (activating : channel.state = .activating)
    {dstTcid : Nat}
    (remote : result = resultSuccess → isDynamic dstTcid = true) :
    device.establishRspCbk channel.lcid channel.localTcid dstTcid result =
      if result = resultSuccess then
        device.activeEstablishedRspHandler channel dstTcid
      else device.activeEstablishingFailRspHandler channel result := by
  have dynamic := isDynamic_of_isUnicast (placed.unicast channel member)
  unfold establishRspCbk
  rw [placed.found member]
  by_cases success : result = resultSuccess
  · simp [success, dynamic, remote success, activating]
  · simp [success, dynamic, activating]

end

section

variable (formed : device.Formed) (member : channel ∈ device.channels)
include formed member

theorem not_mem_establishRspCbk (activating : channel.state = .activating)
    {dstTcid : Nat} (remote : result = resultSuccess → isDynamic dstTcid = true)
    :
    channel ∉ (device.establishRspCbk channel.lcid channel.localTcid dstTcid
      result).channels := by
  rw [establishRspCbk_answers placed member activating remote]
  split
  · intro kept
    rcases (formed.mem_modify member).mp kept with ⟨_, differs⟩ | same
    · exact differs rfl
    · rw [same] at activating
      cases activating
  · intro kept
    rw [activeEstablishingFailRspHandler, endChannel_channels,
      formed.mem_remove member] at kept
    exact kept.2 rfl

theorem not_mem_releaseRspCbk (result : UInt8) :
    channel ∉ (device.releaseRspCbk channel.lcid channel.localTcid
      result).channels := by
  obtain ⟨row, outcome, _, ended⟩ :=
    releaseRspCbk_of_channel (placed.channelOf member) result
  intro kept
  rw [ended, endChannel_channels, formed.mem_remove member] at kept
  exact kept.2 rfl

end

end

theorem mem_of_establishRspCbk (formed : device.Formed) {dstTcid : Nat}
    (member : channel ∈
      (device.establishRspCbk lcid srcTcid dstTcid result).channels)
    (waiting : waitsFor channel.state = some code) :
    channel ∈ device.channels := by
  rcases device.establishRspCbk_cases lcid srcTcid dstTcid result with
    same | ⟨found, _, located, _, ⟨_, _, outcome⟩ | outcome⟩
  · rwa [same] at member
  · rw [outcome] at member
    rcases (formed.mem_modify (lookup_mem located)).mp member with
      ⟨earlier, _⟩ | rfl
    · exact earlier
    · cases waiting
  · rw [outcome, activeEstablishingFailRspHandler,
      endChannel_channels] at member
    exact remove_sublist.subset member

theorem mem_of_releaseRspCbk
    (member : channel ∈ (device.releaseRspCbk lcid srcTcid result).channels) :
    channel ∈ device.channels := by
  cases found : device.channelOf lcid srcTcid with
  | none => rwa [releaseRspCbk_of_none found] at member
  | some ended =>
    obtain ⟨_, _, _, outcome⟩ := releaseRspCbk_of_channel found result
    rw [outcome, endChannel_channels] at member
    exact remove_sublist.subset member

theorem mem_of_timeoutHandled (formed : device.Formed)
    (member : channel ∈ (device.timeoutHandled request).channels)
    (waiting : waitsFor channel.state = some code) :
    channel ∈ device.channels := by
  unfold timeoutHandled at member
  split at member
  · exact mem_of_establishRspCbk formed member waiting
  · exact mem_of_releaseRspCbk member

theorem not_mem_timeoutHandled (placed : device.Placed) (formed : device.Formed)
    (member : channel ∈ device.channels) (lcids : request.lcid = channel.lcid)
    (tcids : request.srcTcid = channel.localTcid)
    (waiting : waitsFor channel.state = some request.code) :
    channel ∉ (device.timeoutHandled request).channels := by
  unfold timeoutHandled
  rw [lcids, tcids]
  split
  · next code =>
      have activating : channel.state = .activating :=
        activating_of_waitsFor waiting (by rw [code]; rfl)
      apply not_mem_establishRspCbk placed formed member activating
      exact nofun
  · exact not_mem_releaseRspCbk placed formed member _

end Waits

/-- A message that takes the request of a waiting channel out of the cache is
the response to that request, and is no success without a tcid of the peer. -/
def AnswersRequest (device : Device) : DeviceEvent → Prop
  | .recv lcid message _ =>
    ∀ request, lookup CachedRequest.id message.identifier device.cached =
        some request →
      request.code.value + 1 = message.code →
      ∀ channel ∈ device.channels,
        channel.localKey = (request.lcid, request.srcTcid) →
        waitsFor channel.state = some request.code →
        message.Answers request lcid
  | _ => True

/-- Releases follow the rows of the table, a response that ends the wait for a
request is the response to it, and the channels of a link that goes down are
freed. -/
structure Orderly (device : Device) (event : DeviceEvent) : Prop where
  follows : device.FollowsRow event
  answers : device.AnswersRequest event
  sweeps : device.SweepsLink event

section Decidable

variable (device : Device) (event : DeviceEvent)

instance : Decidable (device.FollowsRow event) :=
  inferInstanceAs (Decidable
    ((∀ channel ∈ device.startsRelease event, channel.state = .activated) ∧
      ∀ channel ∈ device.endsRelease event, channel.state = .releasing))

instance (request : CachedRequest) (lcid : Nat) (message : ChanSignal) :
    Decidable (message.Answers request lcid) :=
  match message with
  | .connectReq _ _ _ _ _ => inferInstanceAs (Decidable False)
  | .connectRsp _ srcTcid dstTcid result =>
    inferInstanceAs (Decidable
      (request.lcid = lcid ∧ request.srcTcid = srcTcid ∧
        (result = resultSuccess → isDynamic dstTcid = true)))
  | .disconnectReq _ _ _ => inferInstanceAs (Decidable False)
  | .disconnectRsp _ srcTcid _ _ =>
    inferInstanceAs (Decidable
      (request.lcid = lcid ∧ request.srcTcid = srcTcid))

instance : Decidable (device.AnswersRequest event) :=
  match event with
  | .recv lcid message _ =>
    inferInstanceAs (Decidable (∀ request ∈
          lookup CachedRequest.id message.identifier device.cached,
        request.code.value + 1 = message.code →
        ∀ channel ∈ device.channels,
          channel.localKey = (request.lcid, request.srcTcid) →
          waitsFor channel.state = some request.code →
          message.Answers request lcid))
  | .linkUp _ _ => inferInstanceAs (Decidable True)
  | .linkDown _ _ => inferInstanceAs (Decidable True)
  | .establish _ _ _ => inferInstanceAs (Decidable True)
  | .release _ _ _ => inferInstanceAs (Decidable True)
  | .expire _ => inferInstanceAs (Decidable True)

instance : Decidable (device.SweepsLink event) :=
  match event with
  | .linkDown lcid allocated =>
    inferInstanceAs (Decidable (allocated = true ∨
      ∀ channel ∈ device.channels, channel.lcid ≠ lcid))
  | .linkUp _ _ => inferInstanceAs (Decidable True)
  | .recv _ _ _ => inferInstanceAs (Decidable True)
  | .establish _ _ _ => inferInstanceAs (Decidable True)
  | .release _ _ _ => inferInstanceAs (Decidable True)
  | .expire _ => inferInstanceAs (Decidable True)

instance : Decidable (device.Orderly event) :=
  decidable_of_iff (device.FollowsRow event ∧ device.AnswersRequest event ∧
      device.SweepsLink event)
    ⟨fun ⟨follows, answers, sweeps⟩ => ⟨follows, answers, sweeps⟩,
      fun orderly => ⟨orderly.follows, orderly.answers, orderly.sweeps⟩⟩

end Decidable

section Orderly

variable {device : Device} {event : DeviceEvent}

section

variable (waits : device.Waits) (formed : device.Formed)
  (distinct : device.Distinct) (placed : device.Placed)
include waits formed distinct placed

theorem waits_recv {lcid : Nat} {message : ChanSignal} {fate : RecvFate}
    (answers : device.AnswersRequest (.recv lcid message fate)) :
    (device.step (.recv lcid message fate)).Waits := by
  have sweeps : device.SweepsLink (.recv lcid message fate) := trivial
  have handled := waits.outcome formed sweeps
    (device.handle_outcome formed lcid message fate)
  have requests := distinct.requests (device.handle_requests lcid message fate)
  intro channel member code waiting
  rw [(device.recv_settled lcid message fate).channels] at member
  obtain ⟨request, cached, rfl, lcids, tcids⟩ :=
    handled channel member code waiting
  refine ⟨request, ?_, rfl, lcids, tcids⟩
  rw [mem_recv_cached lcid message fate requests]
  refine ⟨cached, ?_⟩
  rintro ⟨id, answered⟩
  have same := device.handle_of_answer lcid fate answered
  rw [same.cached] at cached
  have located := lookup_of_mem distinct.ids cached
  rw [id] at located
  have keys : channel.localKey = (request.lcid, request.srcTcid) := by
    rw [lcids, tcids]
    rfl
  cases message with
  | connectReq id srcTcid slqi aid config =>
    exact absurd answered (RequestCode.value_succ_ne request.code).1
  | connectRsp id srcTcid dstTcid result =>
    have earlier : channel ∈ device.channels :=
      mem_of_establishRspCbk formed member waiting
    obtain ⟨link, tcid, remote⟩ :=
      answers request located answered channel earlier keys waiting
    have activating := activating_of_waitsFor waiting answered
    rw [← link, ← tcid, lcids, tcids] at member
    exact not_mem_establishRspCbk placed formed earlier activating remote member
  | disconnectReq id srcTcid dstTcid =>
    exact absurd answered (RequestCode.value_succ_ne request.code).2
  | disconnectRsp id srcTcid dstTcid result =>
    have earlier : channel ∈ device.channels := mem_of_releaseRspCbk member
    obtain ⟨link, tcid⟩ :=
      answers request located answered channel earlier keys waiting
    rw [← link, ← tcid, lcids, tcids] at member
    exact not_mem_releaseRspCbk placed formed earlier result member

theorem waits_expire (id : UInt8) :
    (device.step (.expire id)).Waits := by
  cases located : lookup CachedRequest.id id device.cached with
  | none =>
    simp only [step, signalingTimeout, located]
    exact waits
  | some expired =>
    have placedBegun : (device.begun (.expire id)).Placed :=
      placed.congr begun_channels begun_pools
    have same : SameRequests device
        ((device.begun (.expire id)).timeoutHandled expired) :=
      timeoutHandled_requests expired
    intro channel member code waiting
    rw [step_expire located] at member ⊢
    have earlier := mem_of_timeoutHandled formed.begun member waiting
    have listed := earlier
    rw [begun_channels] at listed
    obtain ⟨request, cached, rfl, lcids, tcids⟩ :=
      waits channel listed code waiting
    refine ⟨request, ?_, rfl, lcids, tcids⟩
    rw [same.cached, Keyed.mem_remove distinct.ids]
    refine ⟨cached, ?_⟩
    rintro rfl
    have own := lookup_of_mem distinct.ids cached
    rw [located] at own
    cases own
    exact not_mem_timeoutHandled placedBegun formed.begun earlier lcids tcids
      waiting member

theorem Waits.step (orderly : device.Orderly event)
    : (device.step event).Waits := by
  cases event with
  | linkUp lcid allocated => exact waits
  | linkDown lcid allocated => exact waits.linkDown formed orderly.sweeps
  | establish req nodeAllocated fate =>
    exact waits.outcome formed orderly.sweeps
      (device.establishReq_outcome formed _ req nodeAllocated fate)
  | release lcid tcid fate =>
    exact waits.outcome formed orderly.sweeps
      (device.releaseReq_outcome lcid tcid fate)
  | recv lcid message fate =>
    exact waits_recv waits formed distinct placed orderly.answers
  | expire id => exact waits_expire waits formed distinct placed id

end

structure Tracked (device : Device) : Prop where
  formed : device.Formed
  distinct : device.Distinct
  placed : device.Placed
  waits : device.Waits
  counted : device.Counted

theorem Tracked.step (tracked : device.Tracked)
    (orderly : device.Orderly event) : (device.step event).Tracked where
  formed := tracked.formed.step event
  distinct := tracked.distinct.step tracked.formed event
  placed := tracked.placed.step tracked.formed orderly.sweeps
  waits := tracked.waits.step tracked.formed tracked.distinct tracked.placed
    orderly
  counted := tracked.counted.step tracked.formed orderly.follows

theorem tracked_init (identifier : UInt8) : (init identifier).Tracked where
  formed := formed_init identifier
  distinct := ⟨nodup_nil, nodup_nil, nofun⟩
  placed := ⟨nodup_nil, nofun, nofun⟩
  waits := nofun
  counted := by
    refine ⟨nofun, ?_, fun _ _ _ => rfl⟩
    intro identity _
    exact ⟨⟨rfl, zero_le 1⟩, .inl ⟨rfl, rfl, zero_le 1⟩⟩

end Orderly

def Due (identity : ChannelIdentity) (report : Report) (device : Device) :
    Prop :=
  ∃ request ∈ device.cached,
    (device.step (.expire request.id)).tally identity report = 1

/-- Accepted requests are answered once, or their timer is running, and only
accepted requests are answered.  A release can also be answered by the
indication that the channel is disconnected. -/
structure Completed (device : Device) : Prop where
  establishOnce : ∀ identity, device.tally identity .establishAnswered ≤
      device.tally identity .establishAccepted ∧
    device.tally identity .establishAccepted ≤ 1
  establishDone : ∀ identity, device.tally identity .establishAccepted = 1 →
      device.tally identity .establishAnswered = 1 ∨
        device.Due identity .establishAnswered
  releaseOnce : ∀ identity, device.tally identity .releaseAnswered ≤
      device.tally identity .releaseAccepted ∧
    device.tally identity .releaseAccepted ≤ 1
  releaseDone : ∀ identity, device.tally identity .releaseAccepted = 1 →
      device.tally identity .releaseAnswered +
          device.tally identity .disconnected = 1 ∨
        device.tally identity .releaseAnswered +
            device.tally identity .disconnected = 0 ∧
          device.Due identity .releaseAnswered

section Completed

variable {device : Device} {channel : DynChannel}

theorem Counted.fits (counted : device.Counted) (identity : ChannelIdentity) :
    Fits (device.tally identity) none ∨
      ∃ channel ∈ device.channels, channel.identity = identity ∧
        Fits (device.tally identity) (some channel.state) := by
  by_cases listed : ∃ channel ∈ device.channels, channel.identity = identity
  · obtain ⟨channel, member, rfl⟩ := listed
    exact Or.inr ⟨channel, member, rfl, counted.listed channel member⟩
  · apply Or.inl
    apply counted.gone
    intro channel member same
    exact listed ⟨channel, member, same⟩

variable (tracked : device.Tracked)
include tracked

section

variable (member : channel ∈ device.channels)
include member

theorem Tracked.due {code : RequestCode} {report : Report}
    (waiting : waitsFor channel.state = some code)
    (unanswered : device.tally channel.identity report = 0)
    (ends : ∀ begun : Device, begun.Placed → channel ∈ begun.channels →
      ∀ request : CachedRequest, request.code = code →
        request.lcid = channel.lcid → request.srcTcid = channel.localTcid →
        ∃ row entry, begun.timeoutHandled request =
            begun.endChannel row channel entry ∧
          entry.report = some (report, channel.identity)) :
    device.Due channel.identity report := by
  obtain ⟨request, cached, coded, lcids, tcids⟩ :=
    tracked.waits channel member code waiting
  have located := lookup_of_mem tracked.distinct.ids cached
  have placed : (device.begun (.expire request.id)).Placed :=
    tracked.placed.congr begun_channels begun_pools
  have listed : channel ∈ (device.begun (.expire request.id)).channels := by
    rw [begun_channels]
    exact member
  obtain ⟨row, entry, handled, reports⟩ :=
    ends _ placed listed request coded lcids tcids
  have log : (device.step (.expire request.id)).log =
      (device.begun (.expire request.id)).log ++
        [DeviceLog.moved row channel.state, entry] := by
    rw [step_expire located]
    rw [handled]
    exact endChannel_log channel row entry
  have reported : [DeviceLog.moved row channel.state,
      entry].filterMap DeviceLog.report = [(report, channel.identity)] := by
    simp only [filterMap_cons, reports]
    rfl
  refine ⟨request, cached, ?_⟩
  rw [tally_entry log reported, tally_begun, NearLink.Cm.counted, unanswered]
  simp

theorem Tracked.due_establish (activating : channel.state = .activating) :
    device.Due channel.identity .establishAnswered := by
  have fits := tracked.counted.listed channel member
  rw [activating] at fits
  apply tracked.due member (congrArg waitsFor activating) fits.2.1
  intro begun placed listed request code lcids tcids
  refine ⟨.activeEstablishingFailRsp, .establishRsp channel rspTimeout, ?_, rfl⟩
  unfold timeoutHandled
  rw [code, lcids, tcids]
  exact establishRspCbk_answers placed listed activating nofun

theorem Tracked.due_release (releasing : channel.state = .releasing) :
    device.Due channel.identity .releaseAnswered := by
  have fits := tracked.counted.listed channel member
  rw [releasing] at fits
  apply tracked.due member (congrArg waitsFor releasing) fits.2.2.1
  intro begun placed listed request code lcids tcids
  obtain ⟨row, outcome, _, ended⟩ :=
    releaseRspCbk_of_channel (placed.channelOf listed) resultReleaseTimeout
  refine ⟨row, .releaseRsp channel outcome, ?_, rfl⟩
  unfold timeoutHandled
  rw [code, lcids, tcids]
  exact ended

end

theorem Tracked.completed : device.Completed where
  establishOnce identity := by
    rcases tracked.counted.fits identity with
      ⟨established, _⟩ | ⟨channel, member, rfl, fits⟩
    · exact ⟨established.answered.le, established.once⟩
    · rcases tracked.formed.live channel member with
        ⟨state, _⟩ | state | state <;> rw [state] at fits
      · rw [fits.1, fits.2.1]
        exact ⟨zero_le 1, le_rfl⟩
      · exact ⟨fits.1.answered.le, fits.1.once⟩
      · exact ⟨fits.1.answered.le, fits.1.once⟩
  establishDone identity accepted := by
    rcases tracked.counted.fits identity with
      ⟨established, _⟩ | ⟨channel, member, rfl, fits⟩
    · exact .inl (established.answered.trans accepted)
    · rcases tracked.formed.live channel member with
        ⟨state, _⟩ | state | state
      · exact .inr (tracked.due_establish member state)
      · rw [state] at fits
        exact .inl (fits.1.answered.trans accepted)
      · rw [state] at fits
        exact .inl (fits.1.answered.trans accepted)
  releaseOnce identity := by
    rcases tracked.counted.fits identity with
      ⟨_, none | done⟩ | ⟨channel, member, rfl, fits⟩
    · omega
    · omega
    · rcases tracked.formed.live channel member with
        ⟨state, _⟩ | state | state <;> rw [state] at fits
      · rw [fits.2.2.accepted, fits.2.2.answered]
        exact ⟨le_rfl, zero_le 1⟩
      · rw [fits.2.accepted, fits.2.answered]
        exact ⟨le_rfl, zero_le 1⟩
      · rw [fits.2.1, fits.2.2.1]
        exact ⟨zero_le 1, le_rfl⟩
  releaseDone identity accepted := by
    rcases tracked.counted.fits identity with
      ⟨_, none | done⟩ | ⟨channel, member, rfl, fits⟩
    · omega
    · exact .inl done.2
    · rcases tracked.formed.live channel member with
        ⟨state, _⟩ | state | state
      · rw [state] at fits
        have absent := fits.2.2.accepted
        omega
      · rw [state] at fits
        have absent := fits.2.accepted
        omega
      · have due := tracked.due_release member state
        rw [state] at fits
        exact .inr ⟨by rw [fits.2.2.1, fits.2.2.2], due⟩

end Completed

/-- In every run of orderly steps the accepted requests are completed. -/
theorem completed_of_orderly (identifier : UInt8) (events : List DeviceEvent)
    (orderly : Meets step Orderly (init identifier) events) :
    Always step Completed (init identifier) events := by
  have sound (device : Device) (tracked : device.Tracked) :
      device.Completed := tracked.completed
  have preserved (device : Device) (event : DeviceEvent)
      (tracked : device.Tracked) (orderly : device.Orderly event) :
      (device.step event).Tracked := tracked.step orderly
  exact always_of_meets sound preserved (tracked_init identifier) orderly

def openedAndReleased : List DeviceEvent :=
  [.linkUp 1 true,
    .establish ⟨1, 0, ⟨0, 0, 0, 0, 0, ⟨0, 64, 1, 2⟩⟩⟩ true ⟨true, true, true⟩,
    .recv 1 (.connectRsp 1 0x80 0x90 0) ⟨true, true, true, ⟨true, true, true⟩⟩,
    .release 1 0x80 ⟨true, true, true⟩,
    .recv 1 (.disconnectRsp 2 0x80 0x90 0)
      ⟨true, true, true, ⟨true, true, true⟩⟩,
    .linkDown 1 true]

theorem completed_openedAndReleased :
    Always step Completed (init 0) openedAndReleased :=
  completed_of_orderly 0 openedAndReleased
    ⟨by decide, by decide, by decide, by decide, by decide, by decide, trivial⟩

/-- A channel is released before the response to its request arrives. -/
def answeredLate : List DeviceEvent :=
  [.linkUp 1 true,
    .establish ⟨1, 0, ⟨0, 0, 0, 0, 0, ⟨0, 64, 1, 2⟩⟩⟩ true ⟨true, true, true⟩,
    .release 1 0x80 ⟨true, true, true⟩,
    .recv 1 (.connectRsp 1 0x80 0x90 0) ⟨true, true, true, ⟨true, true, true⟩⟩,
    .recv 1 (.disconnectRsp 2 0x80 0x90 0)
      ⟨true, true, true, ⟨true, true, true⟩⟩]

/-- The request for the channel was accepted and is never answered. -/
theorem completed_fails : ¬ Always step Completed (init 0) answeredLate := by
  intro always
  have done := always.at_end.establishDone
    ⟨0, 1, 0x80, ⟨0, 0, 0, invalidAid, 0, ⟨0, 64, 1, 2⟩⟩⟩ (by decide)
  rcases done with answered | ⟨request, cached, _⟩
  · revert answered
    decide
  · cases cached

end Device

end NearLink.Cm
