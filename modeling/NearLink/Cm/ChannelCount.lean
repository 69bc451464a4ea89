import NearLink.Cm.ChannelRows

/-!
# What is reported of a channel

The requests of the upper layer that are accepted and the callbacks that
complete them are counted for each channel.  Each state of a channel has its
counts: a channel that waits for its response has one request and no answer,
and so on.
-/

namespace NearLink.Cm

open Keyed Transition List

structure ChannelIdentity where
  serial : Nat
  lcid : Nat
  localTcid : Nat
  params : ChannelParams
  deriving DecidableEq

def DynChannel.identity (channel : DynChannel) : ChannelIdentity :=
  ⟨channel.serial, channel.lcid, channel.localTcid, channel.params⟩

inductive Report where
  | establishAccepted
  | establishAnswered
  | releaseAccepted
  | releaseAnswered
  | disconnected
  deriving DecidableEq

def DeviceLog.report : DeviceLog → Option (Report × ChannelIdentity)
  | .establishAccepted channel => some (.establishAccepted, channel.identity)
  | .establishRsp channel _ => some (.establishAnswered, channel.identity)
  | .releaseAccepted channel => some (.releaseAccepted, channel.identity)
  | .releaseRsp channel _ => some (.releaseAnswered, channel.identity)
  | .statusIndication channel false _ => some (.disconnected, channel.identity)
  | _ => none

structure Unreleased (count : Report → Nat) : Prop where
  accepted : count .releaseAccepted = 0
  answered : count .releaseAnswered = 0
  disconnected : count .disconnected = 0

structure Established (count : Report → Nat) : Prop where
  answered : count .establishAnswered = count .establishAccepted
  once : count .establishAccepted ≤ 1

def Fits (count : Report → Nat) : Option ChannelState → Prop
  | some .activating =>
    count .establishAccepted = 1 ∧ count .establishAnswered = 0 ∧
      Unreleased count
  | some .activated => Established count ∧ Unreleased count
  | some .releasing =>
    Established count ∧ count .releaseAccepted = 1 ∧
      count .releaseAnswered = 0 ∧ count .disconnected = 0
  | none =>
    Established count ∧
      (count .releaseAccepted = 0 ∧ count .releaseAnswered = 0 ∧
          count .disconnected ≤ 1 ∨
        count .releaseAccepted = 1 ∧
          count .releaseAnswered + count .disconnected = 1)
  | some .init => False
  | some .released => False

@[grind =] def counted (report : Report) (count : Report → Nat) : Report → Nat :=
  fun other => count other + if other = report then 1 else 0

section Fits

variable {count : Report → Nat}

theorem fits_request (unknown : ∀ report, count report = 0) :
    Fits (counted .establishAccepted count) (some .activating) := by
  refine ⟨?_, ?_, ?_, ?_, ?_⟩ <;> simp [counted, unknown]

theorem fits_accept (unknown : ∀ report, count report = 0) :
    Fits count (some .activated) := by
  refine ⟨⟨?_, ?_⟩, ?_, ?_, ?_⟩ <;> simp [unknown]

theorem fits_establish (fits : Fits count (some .activating)) :
    Fits (counted .establishAnswered count) (some .activated) := by
  obtain ⟨accepted, answered, unreleased⟩ := fits
  refine ⟨⟨?_, ?_⟩, ?_, ?_, ?_⟩
  · simp [counted, accepted, answered]
  · simp [counted, accepted]
  · exact unreleased.accepted
  · exact unreleased.answered
  · exact unreleased.disconnected

theorem fits_refuse (fits : Fits count (some .activating)) :
    Fits (counted .establishAnswered count) none := by
  obtain ⟨established, unreleased⟩ := fits_establish fits
  refine ⟨established, .inl ⟨unreleased.accepted, unreleased.answered, ?_⟩⟩
  rw [unreleased.disconnected]
  exact Nat.zero_le 1

theorem fits_release (fits : Fits count (some .activated)) :
    Fits (counted .releaseAccepted count) (some .releasing) := by
  obtain ⟨established, unreleased⟩ := fits
  refine ⟨⟨?_, ?_⟩, ?_, ?_, ?_⟩
  · exact established.answered
  · exact established.once
  · simp [counted, unreleased.accepted]
  · exact unreleased.answered
  · exact unreleased.disconnected

theorem fits_released (fits : Fits count (some .releasing)) :
    Fits (counted .releaseAnswered count) none := by
  obtain ⟨established, accepted, answered, disconnected⟩ := fits
  refine ⟨⟨established.answered, established.once⟩, .inr ⟨accepted, ?_⟩⟩
  simp [counted, answered, disconnected]

theorem fits_disconnect {state : ChannelState} (fits : Fits count (some state))
    (kept : state = .activated ∨ state = .releasing) :
    Fits (counted .disconnected count) none := by
  rcases kept with rfl | rfl
  · obtain ⟨established, unreleased⟩ := fits
    refine ⟨⟨established.answered, established.once⟩,
      .inl ⟨unreleased.accepted, unreleased.answered, ?_⟩⟩
    simp [counted, unreleased.disconnected]
  · obtain ⟨established, accepted, answered, disconnected⟩ := fits
    refine ⟨⟨established.answered, established.once⟩, .inr ⟨accepted, ?_⟩⟩
    simp [counted, answered, disconnected]

end Fits

namespace Device

def tally (device : Device) (identity : ChannelIdentity) (report : Report) :
    Nat :=
  (device.log.filterMap DeviceLog.report).count (report, identity)

structure Counted (device : Device) : Prop where
  listed : ∀ channel ∈ device.channels,
    Fits (device.tally channel.identity) (some channel.state)
  gone : ∀ identity, (∀ channel ∈ device.channels,
    channel.identity ≠ identity) → Fits (device.tally identity) none
  fresh : ∀ identity report, device.serial ≤ identity.serial →
    device.tally identity report = 0

section Tally

variable {device after : Device} {identity : ChannelIdentity}
  {added : List DeviceLog} {report : Report}

theorem tally_congr (log : after.log = device.log) :
    after.tally = device.tally := by
  funext identity report
  unfold tally
  rw [log]

theorem tally_append (log : after.log = device.log ++ added) (report : Report) :
    after.tally identity report = device.tally identity report +
      (added.filterMap DeviceLog.report).count (report, identity) := by
  unfold tally
  rw [log, filterMap_append, count_append]

theorem tally_silent (log : after.log = device.log ++ added)
    (silent : ∀ entry ∈ added, entry.report = none) :
    after.tally = device.tally := by
  funext identity report
  rw [tally_append log, filterMap_eq_nil_iff.mpr silent]
  rfl

theorem tally_unmoved (unmoved : Unmoved device after) :
    after.tally = device.tally := by
  obtain ⟨messages, log⟩ := unmoved.log
  apply tally_silent log
  refine forall_mem_map.mpr fun _ _ => ?_
  rfl

section

variable (log : after.log = device.log ++ added)
  (reported : added.filterMap DeviceLog.report = [(report, identity)])
include log reported

theorem tally_entry :
    after.tally identity = counted report (device.tally identity) := by
  funext other
  rw [tally_append log, reported, count_singleton]
  unfold counted
  by_cases same : other = report
  · simp [same]
  · simp [same, Ne.symm same]

theorem tally_other {other : ChannelIdentity} (differs : other ≠ identity)
    : after.tally other = device.tally other := by
  funext any
  rw [tally_append log, reported, count_singleton]
  simp [Ne.symm differs]

end

end Tally

section Counted

variable {device after failed : Device} {event : DeviceEvent}
  {channel : DynChannel}

theorem Counted.congr (counted : device.Counted)
    (channels : after.channels = device.channels)
    (serial : device.serial ≤ after.serial)
    (tally : after.tally = device.tally) : after.Counted where
  listed := by
    rw [channels, tally]
    exact counted.listed
  gone := by
    rw [channels, tally]
    exact counted.gone
  fresh identity report below := by
    rw [tally]
    exact counted.fresh identity report (serial.trans below)

theorem Counted.unmoved (counted : device.Counted)
    (unmoved : Unmoved device after) : after.Counted :=
  counted.congr unmoved.channels unmoved.serial (tally_unmoved unmoved)

theorem Formed.identity_ne (formed : device.Formed) {other : DynChannel}
    (listed : other ∈ device.channels) (member : channel ∈ device.channels)
    (differs : other ≠ channel) : other.identity ≠ channel.identity := by
  intro same
  have serial : other.serial = channel.serial :=
    congrArg ChannelIdentity.serial same
  exact differs ((formed.eq_of_serial listed member).mp serial)

section

variable (counted : device.Counted)
include counted

theorem Counted.later (passed : channel.serial < after.serial)
    (serial : device.serial ≤ after.serial)
    (others : ∀ identity, identity ≠ channel.identity →
      after.tally identity = device.tally identity)
    (identity : ChannelIdentity) (report : Report)
    (below : after.serial ≤ identity.serial) :
    after.tally identity report = 0 := by
  have apart : identity ≠ channel.identity := by
    rintro rfl
    exact absurd (passed.trans_le below) (lt_irrefl _)
  rw [others identity apart]
  exact counted.fresh identity report (serial.trans below)

variable (formed : device.Formed) {sent : Device}
include formed

theorem Counted.change {change : DynChannel → DynChannel}
    (member : channel ∈ device.channels)
    (keeps : (change channel).identity = channel.identity)
    (channels : after.channels =
      modify DynChannel.serial channel.serial change device.channels)
    (serial : device.serial ≤ after.serial)
    (own : Fits (after.tally channel.identity) (some (change channel).state))
    (others : ∀ identity, identity ≠ channel.identity →
      after.tally identity = device.tally identity) : after.Counted where
  listed other listed := by
    rw [channels, formed.mem_modify member] at listed
    rcases listed with ⟨listed, differs⟩ | rfl
    · rw [others _ (formed.identity_ne listed member differs)]
      exact counted.listed other listed
    · rw [keeps]
      exact own
  gone identity absent := by
    have apart : channel.identity ≠ identity := by
      rw [← keeps]
      apply absent
      rw [channels, formed.mem_modify member]
      exact .inr rfl
    rw [others identity apart.symm]
    apply counted.gone
    intro node listed
    by_cases same : node = channel
    · rw [same]
      exact apart
    · apply absent
      rw [channels, formed.mem_modify member]
      exact .inl ⟨listed, same⟩
  fresh :=
    counted.later ((formed.below channel member).trans_le serial) serial others

theorem Counted.free (member : channel ∈ device.channels)
    (channels : after.channels =
      remove DynChannel.serial channel.serial device.channels)
    (serial : device.serial ≤ after.serial)
    (own : Fits (after.tally channel.identity) none)
    (others : ∀ identity, identity ≠ channel.identity →
      after.tally identity = device.tally identity) : after.Counted where
  listed other listed := by
    rw [channels, formed.mem_remove member] at listed
    rw [others _ (formed.identity_ne listed.1 member listed.2)]
    exact counted.listed other listed.1
  gone identity absent := by
    by_cases same : identity = channel.identity
    · rw [same]
      exact own
    · rw [others identity same]
      apply counted.gone
      intro node listed
      by_cases freed : node = channel
      · rw [freed]
        exact Ne.symm same
      · apply absent
        rw [channels, formed.mem_remove member]
        exact ⟨listed, freed⟩
  fresh :=
    counted.later ((formed.below channel member).trans_le serial) serial others

section

variable (numbered : channel.serial = device.serial)
include numbered

theorem Counted.add (channels : after.channels = device.channels ++ [channel])
    (serial : device.serial < after.serial)
    (own : Fits (after.tally channel.identity) (some channel.state))
    (others : ∀ identity, identity ≠ channel.identity →
      after.tally identity = device.tally identity) : after.Counted where
  listed := by
    rw [channels]
    refine forall_mem_append.mpr ⟨fun other earlier => ?_,
      forall_mem_singleton.mpr own⟩
    have below := formed.below other earlier
    have apart : other.identity ≠ channel.identity := by
      intro same
      have serials : other.serial = channel.serial :=
        congrArg ChannelIdentity.serial same
      omega
    rw [others _ apart]
    exact counted.listed other earlier
  gone identity absent := by
    rw [channels] at absent
    have apart : identity ≠ channel.identity :=
      (absent channel (by simp)).symm
    rw [others identity apart]
    apply counted.gone
    intro node listed
    exact absent node (mem_append_left _ listed)
  fresh := counted.later (numbered ▸ serial) serial.le others

theorem Counted.requested (state : channel.state = .activating)
    (unmoved : Unmoved (device.opened channel) sent) :
    (sent.note (.establishAccepted channel)).Counted := by
  have opened : (device.opened channel).tally = device.tally :=
    tally_congr rfl
  have tally : sent.tally = device.tally :=
    (tally_unmoved unmoved).trans opened
  have log : (sent.note (.establishAccepted channel)).log =
      sent.log ++ [DeviceLog.establishAccepted channel] := rfl
  have channels : sent.channels = device.channels ++ [channel] :=
    unmoved.channels
  refine counted.add formed numbered channels ?_ ?_ ?_
  · exact (Nat.lt_succ_self _).trans_le unmoved.serial
  · rw [tally_entry log rfl, tally, state]
    apply fits_request
    intro report
    exact counted.fresh _ report numbered.ge
  · intro identity differs
    rw [tally_other log rfl differs, tally]

theorem Counted.accepted {result : UInt8} (state : channel.state = .activated)
    (unmoved : Unmoved (device.opened channel) sent) :
    (sent.note (.statusIndication channel true result)).Counted := by
  have opened : (device.opened channel).tally = device.tally :=
    tally_congr rfl
  have tally : sent.tally = device.tally :=
    (tally_unmoved unmoved).trans opened
  have silent :
      (sent.note (.statusIndication channel true result)).tally =
        sent.tally := by
    apply tally_silent rfl
    intro entry member
    rw [mem_singleton.mp member]
    rfl
  have channels : sent.channels = device.channels ++ [channel] :=
    unmoved.channels
  refine counted.add formed numbered channels ?_ ?_ ?_
  · exact (Nat.lt_succ_self _).trans_le unmoved.serial
  · rw [silent, tally, state]
    apply fits_accept
    intro report
    exact counted.fresh _ report numbered.ge
  · intro identity _
    rw [silent, tally]

end

variable (member : channel ∈ device.channels)
include member

theorem Counted.established (activating : channel.state = .activating)
    (dstTcid : Nat) :
    (device.activeEstablishedRspHandler channel dstTcid).Counted := by
  have log : (device.activeEstablishedRspHandler channel dstTcid).log =
      device.log ++ [DeviceLog.moved .activeEstablishedRsp channel.state,
        .establishRsp
          { channel with remoteTcid := dstTcid, state := .activated }
          rspSuccess] := by
    simp [activeEstablishedRspHandler, note, setTcid, ChanEvent.nextState]
  have reported : [DeviceLog.moved .activeEstablishedRsp channel.state,
      .establishRsp { channel with remoteTcid := dstTcid, state := .activated }
        rspSuccess].filterMap DeviceLog.report =
      [(.establishAnswered, channel.identity)] := rfl
  have fits := counted.listed channel member
  rw [activating] at fits
  refine counted.change formed member rfl rfl le_rfl ?_ ?_
  · rw [tally_entry log reported]
    exact fits_establish fits
  · intro identity differs
    exact tally_other log reported differs

theorem Counted.endChannel {row : ChanEvent} {entry : DeviceLog}
    {report : Report}
    (reported : entry.report = some (report, channel.identity))
    (fits : Fits (NearLink.Cm.counted report (device.tally channel.identity))
      none) : (device.endChannel row channel entry).Counted := by
  have log := device.endChannel_log channel row entry
  have added : [DeviceLog.moved row channel.state, entry].filterMap
      DeviceLog.report = [(report, channel.identity)] := by
    have moved : (DeviceLog.moved row channel.state).report = none := rfl
    rw [filterMap_cons_none moved, filterMap_cons_some reported]
    rfl
  apply counted.free formed member (endChannel_channels channel row entry)
  · simp [Device.endChannel, freeChannel, note]
  · rw [tally_entry log added]
    exact fits
  · intro identity differs
    exact tally_other log added differs

theorem Counted.disconnected
    (kept : channel.state = .activated ∨ channel.state = .releasing)
    (unicast : Bool) : (device.disconnected channel unicast).Counted := by
  have log := device.disconnected_log channel unicast
  have reported : [DeviceLog.moved .passiveReleasedReq channel.state,
      .statusIndication channel false indicationDisconnected].filterMap
        DeviceLog.report = [(.disconnected, channel.identity)] := rfl
  apply counted.free formed member (disconnected_channels channel unicast)
  · simp [Device.disconnected, freeChannel, note]
  · rw [tally_entry log reported]
    exact fits_disconnect (counted.listed channel member) kept
  · intro identity differs
    exact tally_other log reported differs

end

theorem tally_releasing (channel : DynChannel) :
    (device.releasing channel).tally = device.tally := by
  have log : (device.releasing channel).log =
    device.log ++ [DeviceLog.moved .activeReleasingReq channel.state] := rfl
  apply tally_silent log
  intro entry member
  rw [mem_singleton.mp member]
  rfl

theorem Counted.releasing (counted : device.Counted) (formed : device.Formed)
    {sent : Device} (member : channel ∈ device.channels)
    (activated : channel.state = .activated)
    (unmoved : Unmoved (device.releasing channel) sent) :
    (sent.note (.releaseAccepted channel)).Counted := by
  have tally : sent.tally = device.tally :=
    (tally_unmoved unmoved).trans (tally_releasing channel)
  have log : (sent.note (.releaseAccepted channel)).log =
      sent.log ++ [DeviceLog.releaseAccepted channel] := rfl
  have channels : sent.channels = modify DynChannel.serial channel.serial
      (fun node => { node with state := .releasing }) device.channels :=
    unmoved.channels
  have fits := counted.listed channel member
  rw [activated] at fits
  refine counted.change formed member ?_ channels unmoved.serial ?_ ?_
  · rfl
  · rw [tally_entry log rfl, tally]
    exact fits_release fits
  · intro identity differs
    rw [tally_other log rfl differs, tally]

theorem unreleased_channels
    (unmoved : Unmoved (device.releasing channel) failed) :
    (failed.setState channel .activated).channels =
      modify DynChannel.serial channel.serial
        ((fun node => { node with state := .activated }) ∘
          fun node => { node with state := .releasing }) device.channels := by
  have keeps (node : DynChannel) :
      DynChannel.serial { node with state := .releasing } = node.serial := rfl
  rw [← modify_modify keeps]
  exact congrArg _ unmoved.channels

theorem Counted.unreleased (counted : device.Counted) (formed : device.Formed)
    (member : channel ∈ device.channels)
    (activated : channel.state = .activated)
    (unmoved : Unmoved (device.releasing channel) failed) :
    (failed.setState channel .activated).Counted := by
  have tally : (failed.setState channel .activated).tally = device.tally :=
    (tally_unmoved unmoved).trans (tally_releasing channel)
  have channels := unreleased_channels unmoved
  have fits := counted.listed channel member
  rw [activated] at fits
  refine counted.change formed member ?_ channels unmoved.serial ?_ ?_
  · rfl
  · rw [tally]
    exact fits
  · intro identity _
    rw [tally]

def downReport (channel : DynChannel) : Report :=
  if channel.state = .activating then .establishAnswered else .disconnected

theorem report_disconnectReport (channel : DynChannel) :
    (disconnectReport channel).report =
      some (downReport channel, channel.identity) := by
  unfold disconnectReport downReport
  split <;> rfl

theorem filterMap_disconnectReport (listed : List DynChannel) :
    (listed.map disconnectReport).filterMap DeviceLog.report =
      listed.map fun channel => (downReport channel, channel.identity) := by
  induction listed with
  | nil => rfl
  | cons channel listed induction =>
    rw [map_cons, filterMap_cons_some (report_disconnectReport channel),
      induction, map_cons]

section Listed

variable {listed : List DynChannel}

theorem count_absent {identity : ChannelIdentity} (report : Report)
    (absent : ∀ channel ∈ listed, channel.identity ≠ identity) :
    (listed.map fun channel => (downReport channel, channel.identity)).count
      (report, identity) = 0 := by
  apply count_eq_zero_of_not_mem
  intro member
  obtain ⟨node, node_mem, pair⟩ := mem_map.mp member
  exact absent node node_mem (Prod.mk.inj pair).2

theorem count_listed (distinct : (listed.map DynChannel.identity).Nodup)
    (member : channel ∈ listed) (report : Report) :
    (listed.map fun node => (downReport node, node.identity)).count
      (report, channel.identity) =
        if report = downReport channel then 1 else 0 := by
  split
  case isTrue same =>
    rw [same]
    apply count_eq_one_of_mem
    · apply List.Nodup.of_map Prod.snd
      rwa [map_map]
    · exact mem_map_of_mem member
  case isFalse same =>
    apply count_eq_zero_of_not_mem
    intro listedPair
    obtain ⟨node, node_mem, pair⟩ := mem_map.mp listedPair
    obtain ⟨reports, identities⟩ := Prod.mk.inj pair
    have equal := inj_on_of_nodup_map distinct node_mem member identities
    exact same (equal ▸ reports.symm)

end Listed

theorem Formed.identities (formed : device.Formed) (keep : DynChannel → Bool) :
    ((device.channels.filter keep).map DynChannel.identity).Nodup := by
  apply List.Nodup.of_map ChannelIdentity.serial
  rw [map_map]
  exact formed.distinct.sublist (filter_sublist.map _)

theorem fits_down (formed : device.Formed) (counted : device.Counted)
    (member : channel ∈ device.channels) :
    Fits (NearLink.Cm.counted (downReport channel)
      (device.tally channel.identity)) none := by
  have fits := counted.listed channel member
  unfold downReport
  split
  · next activating =>
      rw [activating] at fits
      exact fits_refuse fits
  · next other =>
      rcases formed.live channel member with ⟨activating, _⟩ | kept
      · exact absurd activating other
      · exact fits_disconnect fits kept

theorem Counted.linkDown (counted : device.Counted) (formed : device.Formed)
    (lcid : Nat) (allocated : Bool) :
    (device.linkDown lcid allocated).Counted := by
  cases allocated with
  | false => exact counted.congr rfl le_rfl (tally_congr rfl)
  | true =>
    have log : (device.linkDown lcid true).log = device.log ++
        (device.channels.filter fun channel =>
          channel.lcid = lcid).map disconnectReport := by
      rw [linkDown_eq formed]
      rfl
    have channels : (device.linkDown lcid true).channels =
        device.channels.filter fun channel => channel.lcid ≠ lcid := by
      rw [linkDown_eq formed]
      rfl
    have serial : (device.linkDown lcid true).serial = device.serial := by
      rw [linkDown_eq formed]
    have down (channel : DynChannel) (member : channel ∈ device.channels)
        (same : channel.lcid = lcid) :
        (device.linkDown lcid true).tally channel.identity =
          NearLink.Cm.counted (downReport channel)
            (device.tally channel.identity) := by
      funext report
      rw [tally_append log, filterMap_disconnectReport]
      exact congrArg _ (count_listed (formed.identities _)
        (mem_filter.mpr ⟨member, by simpa using same⟩) report)
    have kept (identity : ChannelIdentity)
        (absent : ∀ channel ∈ device.channels, channel.lcid = lcid →
          channel.identity ≠ identity) :
        (device.linkDown lcid true).tally identity = device.tally identity := by
      funext report
      rw [tally_append log, filterMap_disconnectReport, count_absent report]
      · rfl
      · intro channel member
        obtain ⟨listed, same⟩ := mem_filter.mp member
        exact absent channel listed (by simpa using same)
    constructor
    · intro other listed
      rw [channels] at listed
      obtain ⟨member, apart⟩ := mem_filter.mp listed
      rw [kept other.identity]
      · exact counted.listed other member
      · intro node _ same equal
        have lcids : node.lcid = other.lcid :=
          congrArg ChannelIdentity.lcid equal
        simp [← lcids, same] at apart
    · intro identity absent
      by_cases ended : ∃ channel ∈ device.channels, channel.lcid = lcid ∧
          channel.identity = identity
      · obtain ⟨channel, member, same, rfl⟩ := ended
        rw [down channel member same]
        exact fits_down formed counted member
      · rw [kept identity fun channel member same equal =>
          ended ⟨channel, member, same, equal⟩]
        apply counted.gone
        intro node listed equal
        by_cases same : node.lcid = lcid
        · exact ended ⟨node, listed, same, equal⟩
        · apply absent node _ equal
          rw [channels]
          exact mem_filter.mpr ⟨listed, by simpa using same⟩
    · intro identity report below
      rw [serial] at below
      rw [kept identity]
      · exact counted.fresh identity report below
      · rintro node listed _ rfl
        exact absurd ((formed.below node listed).trans_le below) (lt_irrefl _)

theorem Counted.outcome (counted : device.Counted) (formed : device.Formed)
    (follows : device.FollowsRow event) (outcome : device.Outcome event after) : after.Counted := by
  cases outcome with
  | unmoved unmoved => exact counted.unmoved unmoved
  | requested free unmoved armed =>
    exact counted.requested formed rfl rfl unmoved
  | established establishes =>
    obtain ⟨member, activating, _⟩ := establishes_spec establishes
    exact counted.established formed member activating _
  | refused member activating =>
    have fits := counted.listed _ member
    rw [activating] at fits
    exact counted.endChannel formed member rfl (fits_refuse fits)
  | releasing starts unmoved armed =>
    exact counted.releasing formed (startsRelease_mem starts)
      (follows.1 _ starts) unmoved
  | unreleased starts unmoved =>
    exact counted.unreleased formed (startsRelease_mem starts)
      (follows.1 _ starts) unmoved
  | released ends rows =>
    have member := endsRelease_mem ends
    have fits := counted.listed _ member
    rw [follows.2 _ ends] at fits
    exact counted.endChannel formed member rfl (fits_released fits)
  | accepted dynamic new free unmoved =>
    exact counted.accepted formed rfl rfl unmoved
  | disconnected releases unmoved =>
    obtain ⟨member, dynamic⟩ := releasedByPeer_spec releases
    have kept := formed.established_of_remote member dynamic
    exact (counted.disconnected formed member kept _).unmoved unmoved
  | linkUp up => exact counted.congr rfl le_rfl (tally_congr rfl)
  | linkDown down => exact counted.linkDown formed _ _

theorem tally_begun : (device.begun event).tally = device.tally := by
  unfold begun
  split
  · split
    · rfl
    · apply tally_silent rfl
      intro entry member
      rw [mem_singleton.mp member]
      rfl
  · rfl

theorem begun_channels : (device.begun event).channels = device.channels := by
  unfold begun
  split
  · split <;> rfl
  · rfl

theorem begun_serial : (device.begun event).serial = device.serial := by
  unfold begun
  split
  · split <;> rfl
  · rfl

theorem Counted.step (counted : device.Counted) (formed : device.Formed)
    (follows : device.FollowsRow event) : (device.step event).Counted := by
  have begun : (device.begun event).Counted :=
    counted.congr begun_channels begun_serial.ge tally_begun
  obtain ⟨core, outcome, settled⟩ := device.step_outcome formed event
  have moved := begun.outcome formed.begun (followsRow_begun follows) outcome
  exact moved.congr settled.channels settled.serial.ge (tally_congr settled.log)

end Counted

end Device

end NearLink.Cm
