import NearLink.Cm.DeviceOutcome

/-!
# The tcids in use

The tcids marked in the pool of a link are those of its channels.  A peer can
break this in two ways: it names a tcid of its own twice, or it releases a
channel by a tcid that is not a unicast one, which keeps the local tcid from
being returned.
-/

namespace NearLink.Cm

open Keyed Transition
open List hiding lookup

namespace Device

def usedOf (lcid : Nat) (device : Device) : List Nat :=
  ((device.poolOf lcid).map TcidPool.used).getD []

/-- The tcids in use are those of the channels, no two channels of a link share
a tcid of either end, and a link that is down has neither pool nor
channels. -/
structure Accounted (device : Device) : Prop where
  used : ∀ lcid tcid, tcid ∈ device.usedOf lcid ↔
    ∃ channel ∈ device.channels, channel.localKey = (lcid, tcid)
  locals : (device.channels.map DynChannel.localKey).Nodup
  remotes : ∀ channel ∈ device.channels, ∀ other ∈ device.channels,
    channel.remoteKey = other.remoteKey →
      channel.remoteTcid ≠ invalidTcid → channel = other
  down : ∀ lcid, lcid ∉ device.links → device.poolOf lcid = none ∧
    ∀ channel ∈ device.channels, channel.lcid ≠ lcid

structure Pooled (device : Device) : Prop where
  pools : (device.pools.map TcidPool.lcid).Nodup
  marked : ∀ pool ∈ device.pools, pool.used.Nodup
  unicast : ∀ channel ∈ device.channels, isUnicast channel.localTcid = true

def SweepsLink (device : Device) : DeviceEvent → Prop
  | .linkDown lcid allocated =>
    allocated = true ∨ ∀ channel ∈ device.channels, channel.lcid ≠ lcid
  | _ => True

/-- The peer names a new tcid of its own when it accepts a channel, releases
one by a unicast tcid, and the channels of a link that goes down are freed. -/
structure KeepsTcids (device : Device) (event : DeviceEvent) : Prop where
  establishes : ∀ channel dstTcid,
    device.establishes event = some (channel, dstTcid) →
      ∀ other ∈ device.channels, other.remoteKey ≠ (channel.lcid, dstTcid)
  releases : ∀ channel, device.releasedByPeer event = some channel →
    isUnicast channel.remoteTcid = true
  sweeps : device.SweepsLink event

section Accounted

variable {device after : Device} {event : DeviceEvent} {channel : DynChannel}
  {lcid : Nat} {pool : TcidPool} {allocated : Bool}

theorem Accounted.congr (accounted : device.Accounted)
    (links : after.links = device.links)
    (channels : after.channels = device.channels)
    (pools : after.pools = device.pools) : after.Accounted := by
  constructor
  · simp only [usedOf, poolOf, pools, channels]
    exact accounted.used
  · rw [channels]
    exact accounted.locals
  · rw [channels]
    exact accounted.remotes
  · simp only [poolOf, pools, channels, links]
    exact accounted.down

theorem Pooled.congr (pooled : device.Pooled)
    (channels : after.channels = device.channels)
    (pools : after.pools = device.pools) : after.Pooled := by
  constructor
  · rw [pools]
    exact pooled.pools
  · rw [pools]
    exact pooled.marked
  · rw [channels]
    exact pooled.unicast

def MarksChanged (change : List Nat → List Nat) (lcid : Nat)
    (device after : Device) : Prop :=
  after.pools = modify TcidPool.lcid lcid
    (fun pool => { pool with used := change pool.used }) device.pools

section Marks

variable {change : List Nat → List Nat} {lcid other : Nat}

theorem keeps_lcid (pool : TcidPool) :
    TcidPool.lcid { pool with used := change pool.used } = pool.lcid := rfl

variable (changed : MarksChanged change lcid device after)
include changed

theorem MarksChanged.poolOf_self :
    after.poolOf lcid = (device.poolOf lcid).map fun pool =>
      { pool with used := change pool.used } := by
  unfold poolOf
  rw [changed]
  exact lookup_modify_self keeps_lcid

theorem MarksChanged.poolOf_ne (differs : other ≠ lcid) :
    after.poolOf other = device.poolOf other := by
  unfold poolOf
  rw [changed]
  exact lookup_modify_ne keeps_lcid differs

theorem MarksChanged.usedOf_self {pool : TcidPool}
    (located : device.poolOf lcid = some pool) :
    after.usedOf lcid = change (device.usedOf lcid) := by
  simp [usedOf, changed.poolOf_self, located]

theorem MarksChanged.usedOf_ne (differs : other ≠ lcid) :
    after.usedOf other = device.usedOf other := by
  simp [usedOf, changed.poolOf_ne differs]

theorem MarksChanged.poolOf_eq_none :
    after.poolOf other = none ↔ device.poolOf other = none := by
  by_cases same : other = lcid
  · rw [same, changed.poolOf_self, Option.map_eq_none_iff]
  · rw [changed.poolOf_ne same]

theorem MarksChanged.pools (unique : (device.pools.map TcidPool.lcid).Nodup) :
    (after.pools.map TcidPool.lcid).Nodup := by
  rw [changed, map_modify keeps_lcid]
  exact unique

end Marks

theorem Pooled.nodup_usedOf (pooled : device.Pooled) (lcid : Nat) :
    (device.usedOf lcid).Nodup := by
  unfold usedOf
  cases located : device.poolOf lcid with
  | none => exact nodup_nil
  | some pool => exact pooled.marked pool (lookup_mem located)

theorem poolOf_of_used {tcid : Nat} (used : tcid ∈ device.usedOf lcid) :
    ∃ pool, device.poolOf lcid = some pool := by
  unfold usedOf at used
  cases located : device.poolOf lcid with
  | none =>
    rw [located] at used
    cases used
  | some pool => exact ⟨pool, rfl⟩

theorem opened_marks : MarksChanged (channel.localTcid :: ·) channel.lcid
    device (device.opened channel) := rfl

theorem Accounted.opened (accounted : device.Accounted)
    (located : device.poolOf channel.lcid = some pool)
    (unused : channel.localTcid ∉ pool.used)
    (remote : channel.remoteTcid = invalidTcid ∨
      ∀ other ∈ device.channels, other.remoteKey ≠ channel.remoteKey) :
    (device.opened channel).Accounted where
  used lcid tcid := by
    have listed : (∃ other ∈ (device.opened channel).channels,
        other.localKey = (lcid, tcid)) ↔
        channel.localKey = (lcid, tcid) ∨ tcid ∈ device.usedOf lcid := by
      rw [accounted.used]
      simp [Device.opened, addChannel, dynTcidAllocate, or_comm,
        or_and_right, exists_or]
    rw [listed]
    by_cases same : lcid = channel.lcid
    · rw [same, opened_marks.usedOf_self located, mem_cons]
      simp [DynChannel.localKey, eq_comm]
    · rw [opened_marks.usedOf_ne same]
      simp [DynChannel.localKey, Ne.symm same]
  locals := by
    apply nodup_append_singleton accounted.locals
    intro member
    obtain ⟨other, listed, keys⟩ := mem_map.mp member
    have used := (accounted.used channel.lcid channel.localTcid).mpr
      ⟨other, listed, keys⟩
    unfold usedOf at used
    rw [located] at used
    exact unused used
  remotes first firstMember second secondMember keys valid := by
    rcases mem_append.mp firstMember with earlier | last
    · rcases mem_append.mp secondMember with also | last
      · exact accounted.remotes first earlier second also keys valid
      · rw [mem_singleton.mp last] at keys
        rcases remote with absent | new
        · have remotes : first.remoteTcid = channel.remoteTcid :=
            (Prod.mk.inj keys).2
          exact absurd (remotes.trans absent) valid
        · exact absurd keys (new first earlier)
    · rw [mem_singleton.mp last] at keys valid ⊢
      rcases mem_append.mp secondMember with also | last
      · rcases remote with absent | new
        · exact absurd absent valid
        · exact absurd keys.symm (new second also)
      · exact (mem_singleton.mp last).symm
  down lcid absent := by
    obtain ⟨gone, apart⟩ := accounted.down lcid absent
    refine ⟨opened_marks.poolOf_eq_none.mpr gone, ?_⟩
    refine forall_mem_append.mpr ⟨apart, forall_mem_singleton.mpr ?_⟩
    rintro rfl
    rw [located] at gone
    cases gone

theorem Pooled.opened (pooled : device.Pooled)
    (located : device.poolOf channel.lcid = some pool)
    (unused : channel.localTcid ∉ pool.used)
    (unicast : isUnicast channel.localTcid = true) :
    (device.opened channel).Pooled where
  pools := opened_marks.pools pooled.pools
  marked := by
    apply forall_modify pooled.marked
    intro found same
    rw [show lookup TcidPool.lcid channel.lcid device.pools = some pool from
      located] at same
    cases same
    exact nodup_cons.mpr ⟨unused, pooled.marked pool (lookup_mem located)⟩
  unicast := forall_mem_append.mpr ⟨pooled.unicast,
    forall_mem_singleton.mpr unicast⟩

structure Freed (channel : DynChannel) (device after : Device) : Prop where
  links : after.links = device.links
  channels : after.channels =
    remove DynChannel.serial channel.serial device.channels
  marks : MarksChanged (·.erase channel.localTcid) channel.lcid device after

theorem Accounted.freed (accounted : device.Accounted) (formed : device.Formed)
    (pooled : device.Pooled) (member : channel ∈ device.channels)
    (freed : Freed channel device after) : after.Accounted where
  used lcid tcid := by
    have listed : (∃ other ∈ after.channels, other.localKey = (lcid, tcid)) ↔
        (lcid, tcid) ≠ channel.localKey ∧ tcid ∈ device.usedOf lcid := by
      rw [accounted.used]
      constructor
      · rintro ⟨other, remains, keys⟩
        rw [freed.channels, formed.mem_remove member] at remains
        obtain ⟨listed, differs⟩ := remains
        refine ⟨?_, other, listed, keys⟩
        intro same
        exact differs (inj_on_of_nodup_map accounted.locals listed member
          (keys.trans same))
      · rintro ⟨differs, other, listed, keys⟩
        rw [freed.channels]
        refine ⟨other, (formed.mem_remove member).mpr ⟨listed, ?_⟩, keys⟩
        rintro rfl
        exact differs keys.symm
    rw [listed]
    by_cases same : lcid = channel.lcid
    · have used := (accounted.used channel.lcid channel.localTcid).mpr
        ⟨channel, member, rfl⟩
      obtain ⟨pool, located⟩ := poolOf_of_used used
      rw [same, freed.marks.usedOf_self located,
        (pooled.nodup_usedOf _).mem_erase_iff]
      simp [DynChannel.localKey]
    · rw [freed.marks.usedOf_ne same]
      simp [DynChannel.localKey, same]
  locals := by
    rw [freed.channels]
    exact accounted.locals.sublist (remove_sublist.map _)
  remotes first firstMember second secondMember := by
    rw [freed.channels] at firstMember secondMember
    exact accounted.remotes first (remove_sublist.subset firstMember) second
      (remove_sublist.subset secondMember)
  down lcid absent := by
    rw [freed.links] at absent
    obtain ⟨gone, apart⟩ := accounted.down lcid absent
    refine ⟨freed.marks.poolOf_eq_none.mpr gone, ?_⟩
    rw [freed.channels]
    intro other remains
    exact apart other (remove_sublist.subset remains)

section

variable (pooled : device.Pooled)
include pooled

theorem Pooled.freed (freed : Freed channel device after) : after.Pooled where
  pools := freed.marks.pools pooled.pools
  marked := by
    rw [freed.marks]
    apply forall_modify pooled.marked
    intro pool located
    exact (pooled.marked pool (lookup_mem located)).erase _
  unicast := by
    rw [freed.channels]
    intro other remains
    exact pooled.unicast other (remove_sublist.subset remains)

theorem endChannel_freed (member : channel ∈ device.channels) (row : ChanEvent)
    (report : DeviceLog) :
    Freed channel device (device.endChannel row channel report) where
  links := by simp [endChannel, freeChannel, note]
  channels := endChannel_channels channel row report
  marks := by
    have unicast := pooled.unicast channel member
    exact dynTcidRelease_pools unicast unicast

theorem disconnected_freed (member : channel ∈ device.channels)
    (unicast : isUnicast channel.remoteTcid = true) :
    Freed channel device
      (device.disconnected channel (isUnicast channel.remoteTcid)) where
  links := by simp [disconnected, freeChannel, note]
  channels := disconnected_channels channel _
  marks := dynTcidRelease_pools unicast (pooled.unicast channel member)

end

structure Changed (channel : DynChannel) (change : DynChannel → DynChannel)
    (device after : Device) : Prop where
  links : after.links = device.links
  channels : after.channels =
    modify DynChannel.serial channel.serial change device.channels
  pools : after.pools = device.pools
  keeps : ∀ node, (change node).localKey = node.localKey

theorem Accounted.changed {change : DynChannel → DynChannel}
    (accounted : device.Accounted) (formed : device.Formed)
    (changed : Changed channel change device after)
    (member : channel ∈ device.channels)
    (remote : (change channel).remoteKey = channel.remoteKey ∨
      ∀ other ∈ device.channels, other.remoteKey ≠ (change channel).remoteKey) :
    after.Accounted := by
  have keys : after.channels.map DynChannel.localKey =
      device.channels.map DynChannel.localKey := by
    rw [changed.channels, map_modify changed.keeps]
  -- the changed channel against one of the others
  have apart (other : DynChannel) (listed : other ∈ device.channels)
      (differs : other ≠ channel)
      (shared : other.remoteKey = (change channel).remoteKey) :
      other.remoteTcid = invalidTcid := by
    rcases remote with same | new
    · by_contra valid
      exact differs (accounted.remotes other listed channel member
        (shared.trans same) valid)
    · exact absurd shared (new other listed)
  constructor
  · intro lcid tcid
    have listed (channels : List DynChannel) :
        (∃ node ∈ channels, node.localKey = (lcid, tcid)) ↔
          (lcid, tcid) ∈ channels.map DynChannel.localKey := by
      rw [mem_map]
    simp only [usedOf, poolOf, changed.pools]
    rw [listed, keys, ← listed]
    exact accounted.used lcid tcid
  · rw [keys]
    exact accounted.locals
  · intro first firstMember second secondMember shared valid
    rw [changed.channels, formed.mem_modify member] at firstMember
    rw [changed.channels, formed.mem_modify member] at secondMember
    rcases firstMember with ⟨firstListed, firstDiffers⟩ | rfl
    · rcases secondMember with ⟨secondListed, _⟩ | rfl
      · exact accounted.remotes first firstListed second secondListed shared
          valid
      · exact absurd (apart first firstListed firstDiffers shared) valid
    · rcases secondMember with ⟨secondListed, secondDiffers⟩ | rfl
      · have absent := apart second secondListed secondDiffers shared.symm
        have remotes : (change channel).remoteTcid = second.remoteTcid :=
          (Prod.mk.inj shared).2
        exact absurd (remotes.trans absent) valid
      · rfl
  · intro lcid absent
    rw [changed.links] at absent
    obtain ⟨gone, others⟩ := accounted.down lcid absent
    simp only [poolOf, changed.pools]
    refine ⟨gone, ?_⟩
    rw [changed.channels]
    apply forall_modify others
    intro node located
    have lcids : (change node).lcid = node.lcid :=
      (Prod.mk.inj (changed.keeps node)).1
    rw [lcids]
    exact others node (lookup_mem located)

theorem Pooled.changed {change : DynChannel → DynChannel}
    (pooled : device.Pooled) (changed : Changed channel change device after) :
    after.Pooled where
  pools := by
    rw [changed.pools]
    exact pooled.pools
  marked := by
    rw [changed.pools]
    exact pooled.marked
  unicast := by
    rw [changed.channels]
    apply forall_modify pooled.unicast
    intro node located
    have keys : (change node).localTcid = node.localTcid :=
      (Prod.mk.inj (changed.keeps node)).2
    rw [keys]
    exact pooled.unicast node (lookup_mem located)

section

variable (lcid : Nat) (allocated : Bool) (other : Nat)

theorem linkUp_poolOf :
    (device.linkUp lcid allocated).poolOf other = device.poolOf other ∨
      other = lcid ∧ device.poolOf other = none ∧
        (device.linkUp lcid allocated).poolOf other = some ⟨lcid, []⟩ := by
  have named : TcidPool.lcid ⟨lcid, []⟩ = lcid := rfl
  unfold Device.linkUp poolOf
  split
  · by_cases same : other = lcid
    · rw [same, lookup_ensure_self named]
      cases located : lookup TcidPool.lcid lcid device.pools with
      | none => exact .inr ⟨rfl, rfl, rfl⟩
      | some pool => exact .inl rfl
    · exact .inl (lookup_ensure_ne rfl same)
  · exact .inl rfl

theorem linkUp_usedOf :
    (device.linkUp lcid allocated).usedOf other = device.usedOf other := by
  unfold usedOf
  rcases device.linkUp_poolOf lcid allocated other with
    same | ⟨_, absent, fresh⟩
  · rw [same]
  · rw [absent, fresh]
    rfl

end

theorem Accounted.linkUp (accounted : device.Accounted) (lcid : Nat)
    (allocated : Bool) : (device.linkUp lcid allocated).Accounted := by
  constructor
  · intro other tcid
    rw [linkUp_usedOf]
    exact accounted.used other tcid
  · exact accounted.locals
  · exact accounted.remotes
  · intro other absent
    change other ∉ lcid :: device.links at absent
    rw [mem_cons, not_or] at absent
    obtain ⟨gone, apart⟩ := accounted.down other absent.2
    refine ⟨?_, apart⟩
    rcases device.linkUp_poolOf lcid allocated other with
      same | ⟨same, _, _⟩
    · rw [same]
      exact gone
    · exact absurd same absent.1

theorem Pooled.linkUp (pooled : device.Pooled) (lcid : Nat) (allocated : Bool) :
    (device.linkUp lcid allocated).Pooled := by
  constructor
  · unfold Device.linkUp
    split
    · exact nodup_ensure rfl pooled.pools
    · exact pooled.pools
  · unfold Device.linkUp
    split
    · exact forall_ensure pooled.marked nodup_nil
    · exact pooled.marked
  · exact pooled.unicast

theorem linkDown_swept (formed : device.Formed)
    (sweeps : device.SweepsLink (.linkDown lcid allocated)) :
    (device.linkDown lcid allocated).channels =
      device.channels.filter fun channel => channel.lcid ≠ lcid := by
  rw [linkDown_eq formed]
  split
  · rfl
  · next unallocated =>
      rcases sweeps with allocated | apart
      · exact absurd allocated unallocated
      · exact (filter_eq_self.mpr (by simpa using apart)).symm

theorem Accounted.linkDown (accounted : device.Accounted)
    (formed : device.Formed) (pooled : device.Pooled)
    (sweeps : device.SweepsLink (.linkDown lcid allocated)) :
    (device.linkDown lcid allocated).Accounted := by
  have channels := linkDown_swept formed sweeps
  have poolsSelf :
      (device.linkDown lcid allocated).poolOf lcid = none := by
    rw [linkDown_eq formed]
    exact lookup_remove_self pooled.pools
  have poolsOther {other : Nat} (differs : other ≠ lcid) :
      (device.linkDown lcid allocated).poolOf other = device.poolOf other := by
    rw [linkDown_eq formed]
    exact lookup_remove_ne differs
  constructor
  · intro other tcid
    rw [channels]
    by_cases same : other = lcid
    · rw [same]
      constructor
      · intro used
        obtain ⟨pool, located⟩ := poolOf_of_used used
        rw [poolsSelf] at located
        cases located
      · rintro ⟨channel, member, keys⟩
        have kept := (mem_filter.mp member).2
        have lcids : channel.lcid = lcid := (Prod.mk.inj keys).1
        simp [lcids] at kept
    · have used := accounted.used other tcid
      unfold usedOf at used ⊢
      rw [poolsOther same, used]
      constructor
      · rintro ⟨channel, member, keys⟩
        have lcids : channel.lcid = other := (Prod.mk.inj keys).1
        exact ⟨channel, mem_filter.mpr ⟨member, by simp [lcids, same]⟩,
          keys⟩
      · rintro ⟨channel, member, keys⟩
        exact ⟨channel, (mem_filter.mp member).1, keys⟩
  · rw [channels]
    exact accounted.locals.sublist (filter_sublist.map _)
  · rw [channels]
    intro first firstMember second secondMember
    exact accounted.remotes first (mem_filter.mp firstMember).1 second
      (mem_filter.mp secondMember).1
  · intro other absent
    rw [channels]
    by_cases same : other = lcid
    · rw [same]
      refine ⟨poolsSelf, ?_⟩
      intro channel member
      simpa using (mem_filter.mp member).2
    · have unlinked : other ∉ device.links := by
        intro linked
        apply absent
        rw [linkDown_eq formed]
        exact mem_filter.mpr ⟨linked, by simpa using same⟩
      obtain ⟨gone, apart⟩ := accounted.down other unlinked
      rw [poolsOther same]
      refine ⟨gone, ?_⟩
      intro channel member
      exact apart channel (mem_filter.mp member).1

theorem Pooled.linkDown (pooled : device.Pooled) (formed : device.Formed)
    (lcid : Nat) (allocated : Bool) :
    (device.linkDown lcid allocated).Pooled := by
  rw [linkDown_eq formed]
  constructor
  · exact pooled.pools.sublist (remove_sublist.map _)
  · intro pool member
    exact pooled.marked pool (remove_sublist.subset member)
  · intro channel member
    split at member
    · exact pooled.unicast channel (mem_filter.mp member).1
    · exact pooled.unicast channel member

structure Balanced (device : Device) : Prop where
  formed : device.Formed
  pooled : device.Pooled
  accounted : device.Accounted

section

variable (balanced : device.Balanced)
include balanced

theorem Balanced.unmoved (unmoved : Unmoved device after) : after.Balanced where
  formed := balanced.formed.unmoved unmoved
  pooled := balanced.pooled.congr unmoved.channels unmoved.pools
  accounted :=
    balanced.accounted.congr unmoved.links unmoved.channels unmoved.pools

theorem Balanced.note (entry : DeviceLog) : (device.note entry).Balanced where
  formed := balanced.formed.congr le_rfl rfl
  pooled := balanced.pooled.congr rfl rfl
  accounted := balanced.accounted.congr rfl rfl rfl

theorem Balanced.opened {unicast : Bool}
    (free : device.freeTcid channel.lcid unicast = some channel.localTcid)
    (serial : channel.serial = device.serial) (live : channel.Live)
    (remote : channel.remoteTcid = invalidTcid ∨
      ∀ other ∈ device.channels, other.remoteKey ≠ channel.remoteKey) :
    (device.opened channel).Balanced := by
  obtain ⟨_, inRange, pool, located, unused⟩ := freeTcid_some free
  exact ⟨balanced.formed.opened serial live,
    balanced.pooled.opened located unused inRange,
    balanced.accounted.opened located unused remote⟩

theorem Balanced.endChannel (member : channel ∈ device.channels)
    (row : ChanEvent) (report : DeviceLog) :
    (device.endChannel row channel report).Balanced := by
  have freed := endChannel_freed balanced.pooled member row report
  exact ⟨balanced.formed.endChannel row channel report,
    balanced.pooled.freed freed,
    balanced.accounted.freed balanced.formed balanced.pooled member freed⟩

theorem Balanced.setState {state : ChannelState}
    (kept : state = .activated ∨ state = .releasing) :
    (device.setState channel state).Balanced := by
  have formed := balanced.formed.setState channel kept
  cases located : lookup DynChannel.serial channel.serial device.channels with
  | none =>
    have same : (device.setState channel state).channels =
      device.channels := modify_absent located
    exact ⟨formed, balanced.pooled.congr same rfl,
      balanced.accounted.congr rfl same rfl⟩
  | some found =>
    have serial : found.serial = channel.serial := lookup_key located
    have changed : Changed found (fun node => { node with state }) device
        (device.setState channel state) :=
      ⟨rfl, by rw [serial]; rfl, rfl, fun _ => rfl⟩
    exact ⟨formed, balanced.pooled.changed changed,
      balanced.accounted.changed balanced.formed changed
        (lookup_mem located) (.inl rfl)⟩

theorem Balanced.releasing (channel : DynChannel) :
    (device.releasing channel).Balanced :=
  (balanced.note _).setState (.inr rfl)

theorem Balanced.established {dstTcid : Nat}
    (member : channel ∈ device.channels)
    (new : ∀ other ∈ device.channels, other.remoteKey ≠ (channel.lcid,
      dstTcid)) :
    (device.activeEstablishedRspHandler channel dstTcid).Balanced := by
  have changed : Changed channel
      (fun node => { node with remoteTcid := dstTcid, state := .activated })
      device (device.activeEstablishedRspHandler channel dstTcid) :=
    ⟨rfl, rfl, rfl, fun _ => rfl⟩
  exact ⟨balanced.formed.established channel dstTcid,
    balanced.pooled.changed changed,
    balanced.accounted.changed balanced.formed changed member (.inr new)⟩

theorem Balanced.outcome (keeps : device.KeepsTcids event)
    (outcome : device.Outcome event after) : after.Balanced := by
  cases outcome with
  | unmoved unmoved => exact balanced.unmoved unmoved
  | @requested req tcid _ free unmoved armed =>
    have opened :
        (device.opened (device.requestedChannel req tcid)).Balanced :=
      balanced.opened free rfl (.inl ⟨rfl, rfl⟩) (.inl rfl)
    exact (opened.unmoved unmoved).note _
  | established establishes =>
    obtain ⟨member, _, _⟩ := establishes_spec establishes
    exact balanced.established member (keeps.establishes _ _ establishes)
  | refused member activating => exact balanced.endChannel member _ _
  | releasing starts unmoved armed =>
    exact ((balanced.releasing _).unmoved unmoved).note _
  | unreleased starts unmoved =>
    exact ((balanced.releasing _).unmoved unmoved).setState (.inl rfl)
  | released ends rows => exact balanced.endChannel (endsRelease_mem ends) _ _
  | @accepted lcid tcid remoteTcid params _ dynamic new free unmoved =>
    have others : ∀ other ∈ device.channels,
        other.remoteKey ≠ (lcid, remoteTcid) := by
      intro other member keys
      exact lookup_eq_none.mp new (keys ▸ mem_map_of_mem member)
    have opened : (device.opened (device.newChannel lcid tcid remoteTcid
        .activated params)).Balanced :=
      balanced.opened free rfl (.inr (.inl rfl)) (.inr others)
    exact (opened.unmoved unmoved).note _
  | @disconnected channel _ releases unmoved =>
    obtain ⟨member, _⟩ := releasedByPeer_spec releases
    have freed := disconnected_freed balanced.pooled member
      (keeps.releases _ releases)
    have formed : (device.disconnected channel
        (isUnicast channel.remoteTcid)).Formed := by
      refine balanced.formed.sublist ?_ (freed.channels ▸ remove_sublist)
      simp [disconnected, freeChannel, Device.note]
    have kept : (device.disconnected channel
        (isUnicast channel.remoteTcid)).Balanced :=
      ⟨formed, balanced.pooled.freed freed,
        balanced.accounted.freed balanced.formed balanced.pooled member freed⟩
    exact kept.unmoved unmoved
  | linkUp up =>
    exact ⟨balanced.formed.congr le_rfl rfl, balanced.pooled.linkUp _ _,
      balanced.accounted.linkUp _ _⟩
  | linkDown down =>
    have sweeps := keeps.sweeps
    rw [down] at sweeps
    exact ⟨balanced.formed.outcome (.linkDown down),
      balanced.pooled.linkDown balanced.formed _ _,
      balanced.accounted.linkDown balanced.formed balanced.pooled sweeps⟩

theorem Balanced.begun : (device.begun event).Balanced := by
  unfold Device.begun
  split
  · split
    · exact balanced
    · exact balanced.note _
  · exact balanced

end

theorem keepsTcids_begun (keeps : device.KeepsTcids event) :
    (device.begun event).KeepsTcids event := by
  unfold Device.begun
  split
  · split
    · exact keeps
    · exact { keeps with }
  · exact keeps

theorem Balanced.step (balanced : device.Balanced)
    (keeps : device.KeepsTcids event) : (device.step event).Balanced := by
  obtain ⟨core, outcome, settled⟩ :=
    device.step_outcome balanced.formed event
  have moved := balanced.begun.outcome (keepsTcids_begun keeps) outcome
  exact ⟨moved.formed.settled settled,
    moved.pooled.congr settled.channels settled.pools,
    moved.accounted.congr settled.links settled.channels settled.pools⟩

theorem establishes_of_accounted (formed : device.Formed)
    (accounted : (device.step event).Accounted) {dstTcid : Nat}
    (establishes : device.establishes event = some (channel, dstTcid))
    (other : DynChannel) (listed : other ∈ device.channels) :
    other.remoteKey ≠ (channel.lcid, dstTcid) := by
  intro shared
  obtain ⟨member, activating, dynamic⟩ := establishes_spec establishes
  have settled := step_establishes establishes
  have changed : Changed channel
      (fun node => { node with remoteTcid := dstTcid, state := .activated })
      device (device.activeEstablishedRspHandler channel dstTcid) :=
    ⟨rfl, rfl, rfl, fun _ => rfl⟩
  have remote : other.remoteTcid = dstTcid := (Prod.mk.inj shared).2
  have valid : other.remoteTcid ≠ invalidTcid := by
    rw [remote]
    rintro rfl
    cases dynamic
  -- the channel itself does not know a tcid of the peer yet
  have differs : other ≠ channel := by
    rintro rfl
    rcases formed.live other listed with ⟨_, absent⟩ | activated | releasing
    · exact valid absent
    · rw [activating] at activated
      cases activated
    · rw [activating] at releasing
      cases releasing
  have kept : other ∈ (device.step event).channels := by
    rw [settled.channels, changed.channels, formed.mem_modify member]
    exact .inl ⟨listed, differs⟩
  have moved : { channel with remoteTcid := dstTcid, state := .activated } ∈
      (device.step event).channels := by
    rw [settled.channels, changed.channels, formed.mem_modify member]
    exact .inr rfl
  have same := accounted.remotes other kept _ moved shared valid
  have serial : other.serial = channel.serial := by rw [same]
  exact differs ((formed.eq_of_serial listed member).mp serial)

section

variable (balanced : device.Balanced)
  (accounted : (device.step event).Accounted)
include balanced accounted

theorem releases_of_accounted
    (releases : device.releasedByPeer event = some channel) :
    isUnicast channel.remoteTcid = true := by
  by_contra other
  obtain ⟨member, _⟩ := releasedByPeer_spec releases
  obtain ⟨core, unmoved, settled⟩ := step_releasedByPeer releases
  have pools : (device.step event).pools = device.pools := by
    rw [settled.pools, unmoved.pools]
    simp [disconnected, freeChannel, dynTcidRelease, other, note]
  have channels : (device.step event).channels =
      remove DynChannel.serial channel.serial device.channels := by
    rw [settled.channels, unmoved.channels, disconnected_channels]
  have used : channel.localTcid ∈ (device.step event).usedOf channel.lcid := by
    simp only [usedOf, poolOf, pools]
    exact (balanced.accounted.used channel.lcid channel.localTcid).mpr
      ⟨channel, member, rfl⟩
  obtain ⟨holder, remains, keys⟩ := (accounted.used _ _).mp used
  rw [channels, mem_remove balanced.formed.distinct] at remains
  have same := inj_on_of_nodup_map balanced.accounted.locals remains.1
    member keys
  exact remains.2 (congrArg DynChannel.serial same)

theorem keepsTcids_of_accounted :
    device.KeepsTcids event where
  establishes _ _ := establishes_of_accounted balanced.formed accounted
  releases _ := releases_of_accounted balanced accounted
  sweeps := by
    cases event with
    | linkDown lcid allocated =>
      cases allocated with
      | true => exact .inl rfl
      | false =>
        refine .inr ?_
        have gone := (accounted.down lcid (by
          simp [step, linkDown_eq balanced.formed])).2
        simpa [step, linkDown_eq balanced.formed] using gone
    | _ => trivial

end

end Accounted

theorem balanced_init (identifier : UInt8) : (init identifier).Balanced where
  formed := formed_init identifier
  pooled := by
    constructor <;> simp [init]
  accounted := by
    constructor <;> simp [init, usedOf, poolOf, lookup]

/-- In a run the tcids stay accounted for exactly when the peers name a tcid of
their own once while it is in use, release channels by unicast tcids, and the
channels of every link that goes down are freed. -/
theorem tcidsAccounted_iff (identifier : UInt8) (events : List DeviceEvent) :
    Always step Accounted (init identifier) events ↔
      Meets step KeepsTcids (init identifier) events := by
  have sound (device : Device) (balanced : device.Balanced) :
      device.Accounted := balanced.accounted
  have preserved (device : Device) (event : DeviceEvent)
      (balanced : device.Balanced) (keeps : device.KeepsTcids event) :
      (device.step event).Balanced := balanced.step keeps
  have necessary (device : Device) (event : DeviceEvent)
      (balanced : device.Balanced)
      (accounted : (device.step event).Accounted) :
      device.KeepsTcids event := keepsTcids_of_accounted balanced accounted
  exact always_iff_meets sound preserved necessary (balanced_init identifier)

/-- The peer accepts two channels under the same tcid. -/
def acceptedTwice : List DeviceEvent :=
  [.linkUp 1 true,
    .establish ⟨1, 0, ⟨0, 0, 0, 0, 0, ⟨0, 64, 1, 2⟩⟩⟩ true ⟨true, true, true⟩,
    .establish ⟨1, 0, ⟨0, 0, 0, 0, 0, ⟨0, 64, 3, 4⟩⟩⟩ true ⟨true, true, true⟩,
    .recv 1 (.connectRsp 1 0x80 0x90 0) ⟨true, true, true, ⟨true, true, true⟩⟩,
    .recv 1 (.connectRsp 2 0x81 0x90 0) ⟨true, true, true, ⟨true, true, true⟩⟩]

/-- The two channels share the tcid of the peer. -/
theorem tcidsAccounted_fails :
    ¬ Always step Accounted (init 0) acceptedTwice := by
  intro always
  have remotes := always.at_end.remotes
  revert remotes
  decide

end Device

end NearLink.Cm
