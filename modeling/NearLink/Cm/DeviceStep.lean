import NearLink.Cm.Device

/-!
# What the steps of a device touch

Each operation changes only a part of a device.
-/

namespace NearLink.Cm

open Keyed Transition Nat
open List hiding lookup modify_eq_self

/-- A channel waits for its response, and has no tcid of the peer yet, or it
was established. -/
def DynChannel.Live (channel : DynChannel) : Prop :=
  channel.state = .activating ∧ channel.remoteTcid = invalidTcid ∨
    channel.state = .activated ∨ channel.state = .releasing

namespace Device

section Signaling

variable (id code : UInt8) (device : Device)

@[simp] theorem signalingCacheRemove_kept :
    (device.signalingCacheRemove id code).channels = device.channels ∧
      (device.signalingCacheRemove id code).pools = device.pools ∧
      (device.signalingCacheRemove id code).links = device.links ∧
      (device.signalingCacheRemove id code).serial = device.serial ∧
      (device.signalingCacheRemove id code).outstanding = device.outstanding ∧
      (device.signalingCacheRemove id code).log = device.log := by
  unfold signalingCacheRemove
  split
  · simp
  · split <;> simp

theorem signalingCacheRemove_sublist :
    (device.signalingCacheRemove id code).cached.Sublist device.cached := by
  unfold signalingCacheRemove
  split
  · exact List.Sublist.refl _
  · split
    · exact remove_sublist
    · exact List.Sublist.refl _

end Signaling

/-- The request code is never one more than itself, so a request that cannot
be sent stays in the cache. -/
theorem signalingCacheRemove_own (request : CachedRequest) (device : Device)
    (found : lookup CachedRequest.id request.id device.cached = some request) :
    device.signalingCacheRemove request.id request.code.value = device := by
  unfold signalingCacheRemove
  rw [found]
  dsimp only
  rw [if_neg]
  cases request.code <;> decide

def requestOf (code : RequestCode) (channel lcid srcTcid dstTcid : Nat)
    (device : Device) : CachedRequest :=
  ⟨device.serial, channel, lcid, device.identifier, code, srcTcid, dstTcid⟩

def caches (fate : RequestFate) (device : Device) : Bool :=
  fate.prepared && fate.cached &&
    (lookup CachedRequest.id device.identifier device.cached).isNone

theorem sendRequest_cases (code : RequestCode)
    (channel lcid srcTcid dstTcid : Nat) (message : UInt8 → ChanSignal)
    (fate : RequestFate) (device : Device) :
    (device.caches fate = false ∧ ∃ identifier,
      device.sendRequest code channel lcid srcTcid dstTcid message fate =
        ({ device with identifier }, false)) ∨
    (device.caches fate = true ∧ fate.sent = false ∧
      device.sendRequest code channel lcid srcTcid dstTcid message fate =
        ({ device with
            identifier := device.identifier + 1
            serial := device.serial + 1
            cached := device.requestOf code channel lcid srcTcid dstTcid ::
              device.cached }, false)) ∨
    (device.caches fate = true ∧ fate.sent = true ∧
      device.sendRequest code channel lcid srcTcid dstTcid message fate =
        ({ device with
            identifier := device.identifier + 1
            serial := device.serial + 1
            cached := device.requestOf code channel lcid srcTcid dstTcid ::
              device.cached
            outstanding :=
              device.requestOf code channel lcid srcTcid dstTcid ::
                device.outstanding
            log := device.log ++
              [.sent lcid (message device.identifier)] }, true)) := by
  unfold sendRequest caches
  split
  · next prepared =>
      rw [prepared, Bool.true_and]
      dsimp only
      split
      · next inserted =>
          refine .inr ?_
          split
          · next sent => exact .inr ⟨inserted, sent, rfl⟩
          · next unsent =>
              have kept := signalingCacheRemove_own
                (device.requestOf code channel lcid srcTcid dstTcid)
                { device with
                  identifier := device.identifier + 1
                  serial := device.serial + 1
                  cached :=
                    device.requestOf code channel lcid srcTcid dstTcid ::
                      device.cached }
                (by simp [lookup, requestOf])
              exact .inl ⟨inserted, by simpa using unsent,
                congrArg (·, false) kept⟩
      · next absent =>
          exact .inl ⟨Bool.not_eq_true _ ▸ absent, _, rfl⟩
  · next absent =>
      exact .inl ⟨by simp [absent], device.identifier, rfl⟩

/-- Nothing happens to the channels and their tcids, though messages may be
sent and requests cached. -/
structure Unmoved (device after : Device) : Prop where
  links : after.links = device.links
  channels : after.channels = device.channels
  pools : after.pools = device.pools
  serial : device.serial ≤ after.serial
  cached : device.cached ⊆ after.cached
  log : ∃ messages : List (Nat × ChanSignal),
    after.log = device.log ++ messages.map fun sent => .sent sent.1 sent.2

theorem Unmoved.refl (device : Device) : Unmoved device device :=
  ⟨rfl, rfl, rfl, le_rfl, List.Subset.refl _, [], by simp⟩

theorem sendRequest_unmoved (code : RequestCode)
    (channel lcid srcTcid dstTcid : Nat) (message : UInt8 → ChanSignal)
    (fate : RequestFate) (device : Device) :
    Unmoved device (device.sendRequest code channel lcid srcTcid dstTcid message
        fate).1 := by
  rcases sendRequest_cases code channel lcid srcTcid dstTcid message fate
    device with
      ⟨_, _, outcome⟩ | ⟨_, _, outcome⟩ | ⟨_, _, outcome⟩
  all_goals rw [outcome]
  · exact ⟨rfl, rfl, rfl, le_rfl, List.Subset.refl _, [], by simp⟩
  · exact ⟨rfl, rfl, rfl, le_succ _, subset_cons_self _ _, [], by simp⟩
  · exact ⟨rfl, rfl, rfl, le_succ _, subset_cons_self _ _,
      [(lcid, message device.identifier)], rfl⟩

variable {message : UInt8 → ChanSignal} {fate : RequestFate} {device : Device}
  {srcTcid dstTcid lcid : Nat}

theorem unmoved_of_sendRequest {code : RequestCode} {channel : Nat}
    {after : Device} {sent : Bool}
    (outcome : device.sendRequest code channel lcid srcTcid dstTcid message
      fate = (after, sent)) : Unmoved device after := by
  have unmoved := sendRequest_unmoved code channel lcid srcTcid dstTcid
    message fate device
  rwa [outcome] at unmoved

theorem sendRequest_cached {code : RequestCode} {channel : Nat} {sent : Device}
    (outcome : device.sendRequest code channel lcid srcTcid dstTcid message
      fate = (sent, true)) :
    device.requestOf code channel lcid srcTcid dstTcid ∈ sent.cached := by
  rcases sendRequest_cases code channel lcid srcTcid dstTcid message fate
    device with
      ⟨_, _, other⟩ | ⟨_, _, other⟩ | ⟨_, _, other⟩
  all_goals rw [outcome] at other
  · cases other
  · cases other
  · cases other
    exact .head _

theorem sendRsp_unmoved (lcid : Nat) (message : ChanSignal) (sent : Bool)
    (device : Device) : Unmoved device (device.sendRsp lcid message sent) := by
  unfold sendRsp
  split
  · exact ⟨rfl, rfl, rfl, le_rfl, List.Subset.refl _, [(lcid, message)], rfl⟩
  · exact .refl device

section Tcids

variable {lcid tcid : Nat} {unicast : Bool} {device : Device}

@[simp] theorem dynTcidRelease_kept :
    (device.dynTcidRelease lcid tcid unicast).channels = device.channels ∧
      (device.dynTcidRelease lcid tcid unicast).links = device.links ∧
      (device.dynTcidRelease lcid tcid unicast).cached = device.cached ∧
      (device.dynTcidRelease lcid tcid unicast).outstanding =
        device.outstanding ∧
      (device.dynTcidRelease lcid tcid unicast).serial = device.serial ∧
      (device.dynTcidRelease lcid tcid unicast).identifier = device.identifier ∧
      (device.dynTcidRelease lcid tcid unicast).log = device.log := by
  unfold dynTcidRelease
  split <;> simp

theorem freeTcid_some (found : device.freeTcid lcid unicast = some tcid) :
    unicast = true ∧ isUnicast tcid = true ∧
      ∃ pool, device.poolOf lcid = some pool ∧ tcid ∉ pool.used := by
  unfold freeTcid at found
  split at found
  · next requested =>
      obtain ⟨pool, located, free⟩ := Option.bind_eq_some_iff.mp found
      have listed := mem_of_find?_eq_some free
      have unused := find?_some free
      rw [mem_range'_1] at listed
      simp only [tcidUcBegin, tcidUcEnd] at listed
      refine ⟨requested, ?_, pool, located, by simpa using unused⟩
      have lower : 0x80 ≤ tcid := by omega
      have upper : tcid ≤ 0xDF := by omega
      simp [isUnicast, tcidUcBegin, tcidUcEnd, lower, upper]
  · cases found

theorem modify_pools (pools : List TcidPool) :
    modify TcidPool.lcid lcid
      (fun pool => { pool with used := pool.used.erase tcid })
      (modify TcidPool.lcid lcid
        (fun pool => { pool with used := tcid :: pool.used }) pools) =
      pools := by
  have keeps (pool : TcidPool) :
      TcidPool.lcid { pool with used := tcid :: pool.used } =
        TcidPool.lcid pool := rfl
  rw [modify_modify keeps]
  apply modify_eq_self
  intro pool _
  simp

section

variable (requested : unicast = true) (isUnicastTcid : isUnicast tcid = true)
include requested isUnicastTcid

theorem dynTcidRelease_pools :
    (device.dynTcidRelease lcid tcid unicast).pools = modify TcidPool.lcid lcid
        (fun pool => { pool with used := pool.used.erase tcid })
        device.pools := by
  unfold dynTcidRelease
  rw [if_pos (by simp [requested, isUnicastTcid])]

theorem dynTcidRelease_allocated :
    (device.dynTcidAllocate lcid tcid).dynTcidRelease lcid tcid unicast =
      device := by
  unfold dynTcidRelease
  rw [if_pos (by simp [requested, isUnicastTcid])]
  exact congrArg (fun pools => { device with pools })
    (modify_pools device.pools)

end

end Tcids

structure Formed (device : Device) : Prop where
  distinct : (device.channels.map DynChannel.serial).Nodup
  below : ∀ channel ∈ device.channels, channel.serial < device.serial
  live : ∀ channel ∈ device.channels, channel.Live

def opened (channel : DynChannel) (device : Device) : Device :=
  (device.dynTcidAllocate channel.lcid channel.localTcid).addChannel channel

section Handlers

variable {device : Device}

theorem Unmoved.rollBack {failed : Device} {channel : DynChannel}
    {unicast : Bool} (formed : device.Formed)
    (unmoved : Unmoved (device.opened channel) failed)
    (serial : channel.serial = device.serial) (requested : unicast = true)
    (isUnicastTcid : isUnicast channel.localTcid = true) :
    Unmoved device ((failed.freeChannel channel).dynTcidRelease channel.lcid
      channel.localTcid unicast) := by
  have absent : lookup DynChannel.serial channel.serial device.channels =
      none := by
    apply lookup_eq_none.mpr
    intro member
    obtain ⟨other, listed, same⟩ := mem_map.mp member
    have below := formed.below other listed
    omega
  obtain ⟨messages, logged⟩ := unmoved.log
  refine ⟨?_, ?_, ?_, ?_, ?_, messages, ?_⟩
  · rw [dynTcidRelease_kept.2.1]
    exact unmoved.links
  · rw [dynTcidRelease_kept.1]
    change remove DynChannel.serial channel.serial failed.channels = _
    rw [unmoved.channels]
    change remove DynChannel.serial channel.serial
      (device.channels ++ [channel]) = _
    rw [remove_append_absent absent]
    simp [remove]
  · rw [dynTcidRelease_pools requested isUnicastTcid]
    change modify _ _ _ failed.pools = _
    rw [unmoved.pools]
    exact modify_pools device.pools
  · rw [dynTcidRelease_kept.2.2.2.2.1]
    exact (le_succ _).trans unmoved.serial
  · rw [dynTcidRelease_kept.2.2.1]
    exact unmoved.cached
  · rw [dynTcidRelease_kept.2.2.2.2.2.2]
    exact logged

def requestedChannel (req : EstablishReq) (tcid : Nat) (device : Device) :
    DynChannel :=
  device.newChannel req.lcid tcid invalidTcid .activating
    { req.params with aid := invalidAid }

def Armed (code : RequestCode) (lcid tcid : Nat) (device : Device) : Prop :=
  ∃ request ∈ device.cached,
    request.code = code ∧ request.lcid = lcid ∧ request.srcTcid = tcid

theorem establishReq_cases (formed : device.Formed) (req : EstablishReq)
    (nodeAllocated : Bool) (fate : RequestFate) :
    Unmoved device (device.establishReq req nodeAllocated fate) ∨
    ∃ tcid sent, device.freeTcid req.lcid true = some tcid ∧
      Unmoved (device.opened (device.requestedChannel req tcid)) sent ∧
      sent.Armed .connectReq req.lcid tcid ∧
      device.establishReq req nodeAllocated fate =
        sent.note (.establishAccepted (device.requestedChannel req tcid)) := by
  unfold establishReq
  split
  · unfold activeEstablishingReqHandler
    dsimp only
    split
    · exact .inl (.refl device)
    · next tcid found =>
        obtain ⟨unicast, isUnicastTcid, _⟩ := freeTcid_some found
        rw [unicast] at found ⊢
        split
        · split
          · next sent outcome =>
              exact .inr ⟨tcid, sent, found, unmoved_of_sendRequest outcome,
                ⟨_, sendRequest_cached outcome, rfl, rfl, rfl⟩, rfl⟩
          · next failed outcome =>
              have unmoved : Unmoved
                  (device.opened (device.requestedChannel req tcid)) failed :=
                unmoved_of_sendRequest outcome
              exact .inl (unmoved.rollBack formed rfl rfl isUnicastTcid)
        · rw [dynTcidRelease_allocated rfl isUnicastTcid]
          exact .inl (.refl device)
  · exact .inl (.refl device)

theorem passiveEstablishedReqHandler_cases (formed : device.Formed)
    (lcid : Nat) (reqId : UInt8) (remoteTcid : Nat) (params : ChannelParams)
    (fate : RecvFate) :
    Unmoved device (device.passiveEstablishedReqHandler lcid reqId remoteTcid
      params fate) ∨
    ∃ tcid sent, device.freeTcid lcid (isUnicast remoteTcid) = some tcid ∧
      Unmoved (device.opened (device.newChannel lcid tcid remoteTcid .activated
        params)) sent ∧
      device.passiveEstablishedReqHandler lcid reqId remoteTcid params fate =
        sent.note (.statusIndication (device.newChannel lcid tcid remoteTcid
          .activated params) true indicationNormal) := by
  unfold passiveEstablishedReqHandler
  split
  · exact .inl (sendRsp_unmoved _ _ _ device)
  · split
    · exact .inl (sendRsp_unmoved _ _ _ device)
    · split
      · exact .inl (.refl device)
      · next tcid found =>
          obtain ⟨unicast, isUnicastTcid, _⟩ := freeTcid_some found
          split_ifs
          · exact .inr ⟨tcid, _, found, sendRsp_unmoved _ _ _ _, rfl⟩
          · have unmoved := Unmoved.refl (device.opened
              (device.newChannel lcid tcid remoteTcid .activated params))
            exact .inl (unmoved.rollBack formed rfl unicast isUnicastTcid)
          · rw [dynTcidRelease_allocated unicast isUnicastTcid]
            exact .inl (.refl device)

def releasing (channel : DynChannel) (device : Device) : Device :=
  (device.note (.moved .activeReleasingReq channel.state)).setState channel
    .releasing

theorem activeReleasingHandler_cases (channel : DynChannel)
    (fate : RequestFate) :
    (∃ sent, Unmoved (device.releasing channel) sent ∧
      sent.Armed .disconnectReq channel.lcid channel.localTcid ∧
      device.activeReleasingHandler channel fate =
        sent.note (.releaseAccepted channel)) ∨
    ∃ failed, Unmoved (device.releasing channel) failed ∧
      device.activeReleasingHandler channel fate =
        failed.setState channel .activated := by
  unfold activeReleasingHandler
  dsimp only
  split
  · next sent outcome =>
      exact .inl ⟨sent, unmoved_of_sendRequest outcome,
        ⟨_, sendRequest_cached outcome, rfl, rfl, rfl⟩, rfl⟩
  · next failed outcome =>
      exact .inr ⟨failed, unmoved_of_sendRequest outcome, rfl⟩

def disconnected (channel : DynChannel) (unicast : Bool) (device : Device) :
    Device :=
  (((device.note (.moved .passiveReleasedReq channel.state)).note
    (.statusIndication channel false indicationDisconnected)).dynTcidRelease
      channel.lcid channel.localTcid unicast).freeChannel channel

theorem passiveReleasedReqHandler_unmoved (channel : DynChannel)
    (reqId : UInt8) (unicast : Bool) (fate : RecvFate) :
    Unmoved (device.disconnected channel unicast)
      (device.passiveReleasedReqHandler channel reqId unicast fate) := by
  unfold passiveReleasedReqHandler
  split
  · exact sendRsp_unmoved _ _ _ _
  · exact sendRequest_unmoved _ _ _ _ _ _ _ _

section Freed

variable (channel : DynChannel)

section

variable (row : ChanEvent) (report : DeviceLog)

theorem endChannel_log :
    (device.endChannel row channel report).log =
      device.log ++ [.moved row channel.state, report] := by
  simp [endChannel, freeChannel, note]

theorem endChannel_channels :
    (device.endChannel row channel report).channels =
      remove DynChannel.serial channel.serial device.channels := by
  simp [endChannel, freeChannel, note]

end

theorem disconnected_log (unicast : Bool) :
    (device.disconnected channel unicast).log =
      device.log ++ [.moved .passiveReleasedReq channel.state,
        .statusIndication channel false indicationDisconnected] := by
  simp [disconnected, freeChannel, note]

theorem disconnected_channels (unicast : Bool) :
    (device.disconnected channel unicast).channels =
      remove DynChannel.serial channel.serial device.channels := by
  simp [disconnected, freeChannel, note]

end Freed

theorem establishRspCbk_cases (lcid srcTcid dstTcid : Nat) (result : UInt8) :
    device.establishRspCbk lcid srcTcid dstTcid result = device ∨
    ∃ channel, isDynamic srcTcid = true ∧
      device.findByLocalTcid lcid srcTcid = some channel ∧
      channel.state = .activating ∧
      (result = resultSuccess ∧ isDynamic dstTcid = true ∧
        device.establishRspCbk lcid srcTcid dstTcid result =
          device.activeEstablishedRspHandler channel dstTcid ∨
      device.establishRspCbk lcid srcTcid dstTcid result =
        device.activeEstablishingFailRspHandler channel result) := by
  unfold establishRspCbk
  split
  · next accepted =>
      split
      · exact .inl rfl
      · next channel found =>
          split
          · next activating =>
              refine .inr ⟨channel, (Bool.and_eq_true_iff.mp accepted).1,
                found, activating, ?_⟩
              split
              · next success =>
                  refine .inl ⟨success, ?_, rfl⟩
                  simpa [success] using (Bool.and_eq_true_iff.mp accepted).2
              · exact .inr rfl
          · exact .inl rfl
  · exact .inl rfl

section

variable (lcid : Nat) (id : UInt8) (srcTcid : Nat)

theorem releaseReqCbk_cases (fate : RecvFate) :
    device.releaseReqCbk lcid id srcTcid fate = device ∨
    isDynamic srcTcid = true ∧ ∃ channel,
      device.findByRemoteTcid lcid srcTcid = some channel ∧
      device.releaseReqCbk lcid id srcTcid fate =
        device.passiveReleasedReqHandler channel id (isUnicast srcTcid)
          fate := by
  unfold releaseReqCbk
  split
  · next dynamic =>
      split
      · exact .inl rfl
      · next channel found => exact .inr ⟨dynamic, channel, found, rfl⟩
  · exact .inl rfl

theorem establishReqCbk_cases (slqi : UInt8) (aid : UInt16)
    (config : ChannelConfig) (fate : RecvFate) :
    device.establishReqCbk lcid id srcTcid slqi aid config fate = device ∨
    isDynamic srcTcid = true ∧ device.findByRemoteTcid lcid srcTcid = none ∧
      ∃ params, device.establishReqCbk lcid id srcTcid slqi aid config fate =
          device.passiveEstablishedReqHandler lcid id srcTcid params fate := by
  unfold establishReqCbk
  split
  · next taken =>
      simp only [Bool.and_eq_true, Option.isNone_iff_eq_none] at taken
      exact .inr ⟨taken.1.2, taken.2, _, rfl⟩
  · exact .inl rfl

end

end Handlers

section Formed

variable {device after : Device} {channel : DynChannel} (formed : device.Formed)
  {other : DynChannel}
include formed

theorem Formed.congr (serial : device.serial ≤ after.serial)
    (channels : after.channels = device.channels) : after.Formed := by
  constructor <;> rw [channels]
  · exact formed.distinct
  · intro channel member
    exact (formed.below channel member).trans_le serial
  · exact formed.live

theorem Formed.opened (serial : channel.serial = device.serial)
    (live : channel.Live) : (device.opened channel).Formed where
  distinct := by
    apply nodup_append_singleton formed.distinct
    intro member
    obtain ⟨other, listed, same⟩ := mem_map.mp member
    have below := formed.below other listed
    omega
  below := by
    intro other member
    change other.serial < device.serial + 1
    rcases mem_append.mp member with member | member
    · exact (formed.below other member).trans (lt_succ_self _)
    · rw [mem_singleton.mp member, serial]
      exact lt_succ_self _
  live := by
    exact forall_mem_append.mpr ⟨formed.live, forall_mem_singleton.mpr live⟩

theorem Formed.change (channel : DynChannel) (change : DynChannel → DynChannel)
    (keeps : ∀ channel, (change channel).serial = channel.serial)
    (live : ∀ channel, (change channel).Live)
    (serial : after.serial = device.serial) (channels : after.channels =
      modify DynChannel.serial channel.serial change device.channels) :
    after.Formed where
  distinct := by
    rw [channels, map_modify keeps]
    exact formed.distinct
  below := by
    rw [channels, serial]
    apply forall_modify formed.below
    intro other found
    rw [keeps]
    exact formed.below other (lookup_mem found)
  live := by
    rw [channels]
    exact forall_modify formed.live fun other _ => live other

theorem Formed.sublist (serial : after.serial = device.serial)
    (channels : after.channels.Sublist device.channels) : after.Formed where
  distinct := formed.distinct.sublist (channels.map _)
  below other member :=
    serial ▸ formed.below other (channels.subset member)
  live other member := formed.live other (channels.subset member)

theorem Formed.eq_of_serial (listed : other ∈ device.channels)
    (member : channel ∈ device.channels) :
    other.serial = channel.serial ↔ other = channel := by
  constructor
  · intro serial
    exact inj_on_of_nodup_map formed.distinct listed member serial
  · rintro rfl
    rfl

theorem Formed.mem_remove (member : channel ∈ device.channels) :
    other ∈ remove DynChannel.serial channel.serial device.channels ↔
      other ∈ device.channels ∧ other ≠ channel := by
  rw [Keyed.mem_remove formed.distinct]
  apply and_congr_right
  intro listed
  exact not_congr (formed.eq_of_serial listed member)

theorem Formed.mem_modify {change : DynChannel → DynChannel}
    (member : channel ∈ device.channels) :
    other ∈ modify DynChannel.serial channel.serial change device.channels ↔
      other ∈ device.channels ∧ other ≠ channel ∨ other = change channel := by
  rw [Keyed.mem_modify formed.distinct]
  apply or_congr
  · apply and_congr_right
    intro listed
    exact not_congr (formed.eq_of_serial listed member)
  · constructor
    · rintro ⟨node, listed, serial, rfl⟩
      rw [(formed.eq_of_serial listed member).mp serial]
    · rintro rfl
      exact ⟨channel, member, rfl, rfl⟩

end Formed

end Device

end NearLink.Cm
