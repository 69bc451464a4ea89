import NearLink.Cm.DeviceOutcome

/-!
# The cache of signalling requests

An entry should be in the cache exactly while its request waits for a response.
It is there for longer when the request could not be sent, since the entry is
then to be removed under the code of the request; it is there for less when a
response on another link has its identifier; and its timer can find the tcid
with another channel.
-/

namespace NearLink.Cm

open Keyed Transition List

theorem RequestCode.value_succ_ne (code : RequestCode) :
    code.value + 1 ≠ 0x10 ∧ code.value + 1 ≠ 0x12 := by
  cases code <;> decide

namespace Device

@[grind =] def leavesRequest (device : Device) : DeviceEvent → Bool
  | .establish req nodeAllocated fate =>
    req.valid && (device.freeTcid req.lcid true).isSome && nodeAllocated &&
      device.caches fate && !fate.sent
  | .release lcid tcid fate =>
    (device.channelOf lcid tcid).isSome && device.caches fate && !fate.sent
  | .recv lcid message fate =>
    (device.releasedByPeer (.recv lcid message fate)).isSome &&
      !fate.sent && device.caches fate.request && !fate.request.sent
  | _ => false

structure SameRequests (device after : Device) : Prop where
  serial : device.serial ≤ after.serial
  cached : after.cached = device.cached
  outstanding : after.outstanding = device.outstanding

inductive Requests (device : Device) : Bool → Device → Prop where
  | same {after : Device} (same : SameRequests device after) :
      Requests device false after
  | left {after : Device} (request : CachedRequest)
      (new : lookup CachedRequest.id request.id device.cached = none)
      (numbered : device.serial ≤ request.serial)
      (serial : request.serial < after.serial)
      (cached : after.cached = request :: device.cached)
      (outstanding : after.outstanding = device.outstanding) :
      Requests device true after
  | sent {after : Device} (request : CachedRequest)
      (new : lookup CachedRequest.id request.id device.cached = none)
      (numbered : device.serial ≤ request.serial)
      (serial : request.serial < after.serial)
      (cached : after.cached = request :: device.cached)
      (outstanding : after.outstanding = request :: device.outstanding) :
      Requests device false after

section Requests

variable {device after core : Device} {leaves : Bool}

theorem SameRequests.refl (device : Device) : SameRequests device device :=
  ⟨le_rfl, rfl, rfl⟩

theorem Requests.refl (device : Device) : Requests device false device :=
  .same (SameRequests.refl device)

theorem Requests.congr (requests : Requests device leaves core)
    (kept : SameRequests core after) : Requests device leaves after := by
  cases requests with
  | same same =>
    exact .same ⟨same.serial.trans kept.serial,
      kept.cached.trans same.cached, kept.outstanding.trans same.outstanding⟩
  | left request new numbered below cached outstanding =>
    exact .left request new numbered (below.trans_le kept.serial)
      (kept.cached.trans cached) (kept.outstanding.trans outstanding)
  | sent request new numbered below cached outstanding =>
    exact .sent request new numbered (below.trans_le kept.serial)
      (kept.cached.trans cached) (kept.outstanding.trans outstanding)

theorem Requests.since (requests : Requests core leaves after)
    (kept : SameRequests device core) : Requests device leaves after := by
  cases requests with
  | same same =>
    exact .same ⟨kept.serial.trans same.serial,
      same.cached.trans kept.cached, same.outstanding.trans kept.outstanding⟩
  | left request new numbered below cached outstanding =>
    rw [kept.cached] at new cached
    exact .left request new (kept.serial.trans numbered) below cached
      (outstanding.trans kept.outstanding)
  | sent request new numbered below cached outstanding =>
    rw [kept.cached] at new cached
    rw [kept.outstanding] at outstanding
    exact .sent request new (kept.serial.trans numbered) below cached
      outstanding

theorem caches_new {fate : RequestFate} (caches : device.caches fate = true) :
    lookup CachedRequest.id device.identifier device.cached = none := by
  simpa using (Bool.and_eq_true_iff.mp caches).2

theorem sendRequest_requests (code : RequestCode)
    (channel lcid srcTcid dstTcid : Nat) (message : UInt8 → ChanSignal)
    (fate : RequestFate) (device : Device) :
    Requests device (device.caches fate && !fate.sent)
      (device.sendRequest code channel lcid srcTcid dstTcid message
        fate).1 := by
  rcases sendRequest_cases code channel lcid srcTcid dstTcid message fate
    device with ⟨caches, _, outcome⟩ | ⟨caches, sent, outcome⟩ |
      ⟨caches, sent, outcome⟩
  · rw [outcome, caches, Bool.false_and]
    exact .same ⟨le_rfl, rfl, rfl⟩
  · rw [outcome, caches, sent]
    exact .left (device.requestOf code channel lcid srcTcid dstTcid)
      (caches_new caches) le_rfl (Nat.lt_succ_self _) rfl rfl
  · rw [outcome, caches, sent]
    exact .sent (device.requestOf code channel lcid srcTcid dstTcid)
      (caches_new caches) le_rfl (Nat.lt_succ_self _) rfl rfl

theorem establishReq_requests (req : EstablishReq) (nodeAllocated : Bool)
    (fate : RequestFate) :
    Requests device (device.leavesRequest (.establish req nodeAllocated fate))
      (device.establishReq req nodeAllocated fate) := by
  simp only [leavesRequest, establishReq]
  cases valid : req.valid with
  | false => exact Requests.refl device
  | true =>
    have unicast : (req.expectedTransportMode == 0) = true := by
      simp only [EstablishReq.valid, Bool.and_eq_true] at valid
      exact valid.1.1
    simp only [activeEstablishingReqHandler, unicast]
    cases free : device.freeTcid req.lcid true with
    | none => exact Requests.refl device
    | some tcid =>
      obtain ⟨_, isUnicastTcid, _⟩ := freeTcid_some free
      cases nodeAllocated with
      | false =>
        simp only [Bool.false_eq_true, if_false,
          dynTcidRelease_allocated rfl isUnicastTcid]
        exact Requests.refl device
      | true =>
        simp only [if_true]
        have requests := sendRequest_requests .connectReq device.serial
          req.lcid tcid 0 (fun id => .connectReq id tcid req.params.slqi
            invalidAid req.params.config) fate
          (device.opened (device.requestedChannel req tcid))
        have started : Requests device (device.caches fate && !fate.sent)
            _ := requests.since ⟨Nat.le_succ _, rfl, rfl⟩
        split
        · next sent outcome =>
            have located := congrArg Prod.fst outcome
            exact (located ▸ started).congr ⟨le_rfl, rfl, rfl⟩
        · next failed outcome =>
            have located := congrArg Prod.fst outcome
            apply (located ▸ started).congr
            constructor <;> simp [freeChannel]

theorem releaseReq_requests (lcid tcid : Nat) (fate : RequestFate) :
    Requests device (device.leavesRequest (.release lcid tcid fate))
      (device.releaseReq lcid tcid fate) := by
  simp only [leavesRequest]
  cases found : device.channelOf lcid tcid with
  | none =>
    rw [releaseReq_of_none found]
    exact Requests.refl device
  | some channel =>
    rw [releaseReq_of_channel found]
    simp only [Option.isSome_some, Bool.true_and, activeReleasingHandler]
    have requests := sendRequest_requests .disconnectReq channel.serial
      channel.lcid channel.localTcid channel.remoteTcid
      (fun id => .disconnectReq id channel.localTcid channel.remoteTcid)
      fate (device.releasing channel)
    have started : Requests device (device.caches fate && !fate.sent) _ :=
      requests.since ⟨le_rfl, rfl, rfl⟩
    split
    · next sent outcome =>
        have located := congrArg Prod.fst outcome
        exact (located ▸ started).congr ⟨le_rfl, rfl, rfl⟩
    · next failed outcome =>
        have located := congrArg Prod.fst outcome
        exact (located ▸ started).congr ⟨le_rfl, rfl, rfl⟩

variable (lcid : Nat)

theorem sendRsp_requests (message : ChanSignal) (sent : Bool) (device : Device)
    :
    SameRequests device (device.sendRsp lcid message sent) := by
  unfold sendRsp
  split
  · exact ⟨le_rfl, rfl, rfl⟩
  · exact SameRequests.refl device

theorem establishReqCbk_requests (id : UInt8) (srcTcid : Nat) (slqi : UInt8)
    (aid : UInt16) (config : ChannelConfig) (fate : RecvFate) :
    SameRequests device
      (device.establishReqCbk lcid id srcTcid slqi aid config fate) := by
  rcases device.establishReqCbk_cases lcid id srcTcid slqi aid config
    fate with same | ⟨_, _, params, outcome⟩
  · rw [same]
    exact SameRequests.refl device
  · rw [outcome]
    unfold passiveEstablishedReqHandler
    split
    · exact sendRsp_requests _ _ _ device
    · split
      · exact sendRsp_requests _ _ _ device
      · split
        · exact SameRequests.refl device
        · split_ifs
          · exact ⟨Nat.le_succ _, rfl, rfl⟩
          · constructor <;> simp [freeChannel, addChannel, dynTcidAllocate]
          · constructor <;> simp [dynTcidAllocate]

theorem endChannel_requests (row : ChanEvent) (channel : DynChannel)
    (report : DeviceLog) :
    SameRequests device (device.endChannel row channel report) := by
  constructor <;> simp [endChannel, freeChannel, note]

theorem establishRspCbk_requests (lcid srcTcid dstTcid : Nat) (result : UInt8) :
    SameRequests device
      (device.establishRspCbk lcid srcTcid dstTcid result) := by
  rcases device.establishRspCbk_cases lcid srcTcid dstTcid result with
    same | ⟨channel, _, _, _, ⟨_, _, outcome⟩ | outcome⟩
  · rw [same]
    exact SameRequests.refl device
  · rw [outcome]
    exact ⟨le_rfl, rfl, rfl⟩
  · rw [outcome]
    exact endChannel_requests _ _ _

theorem releaseRspCbk_requests (lcid srcTcid : Nat) (result : UInt8) :
    SameRequests device (device.releaseRspCbk lcid srcTcid result) := by
  cases found : device.channelOf lcid srcTcid with
  | none =>
    rw [releaseRspCbk_of_none found]
    exact SameRequests.refl device
  | some channel =>
    obtain ⟨_, _, _, ended⟩ := releaseRspCbk_of_channel found result
    rw [ended]
    exact endChannel_requests _ _ _

theorem releaseReqCbk_requests (id : UInt8) (srcTcid dstTcid : Nat)
    (fate : RecvFate) :
    Requests device (device.leavesRequest
        (.recv lcid (.disconnectReq id srcTcid dstTcid) fate))
      (device.releaseReqCbk lcid id srcTcid fate) := by
  simp only [leavesRequest, releasedByPeer, releaseReqCbk]
  split
  · split
    · next absent =>
        rw [absent]
        exact Requests.refl device
    · next channel found =>
        rw [found]
        simp only [passiveReleasedReqHandler]
        cases sent : fate.sent with
        | true =>
          refine .same ?_
          constructor <;> simp [sendRsp, freeChannel, note]
        | false =>
          have requests := sendRequest_requests .disconnectReq
            channel.serial channel.lcid channel.localTcid
            channel.remoteTcid
            (fun id =>
              .disconnectReq id channel.localTcid channel.remoteTcid)
            fate.request
            (device.disconnected channel (isUnicast srcTcid))
          have same : (device.disconnected channel
              (isUnicast srcTcid)).caches fate.request =
              device.caches fate.request := by
            simp [caches, disconnected, freeChannel, note]
          rw [same] at requests
          apply requests.since
          constructor <;> simp [disconnected, freeChannel, note]
  · exact Requests.refl device

theorem handle_requests (message : ChanSignal) (fate : RecvFate) :
    Requests device (device.leavesRequest (.recv lcid message fate))
      (device.handle lcid message fate) := by
  cases message with
  | connectReq id srcTcid slqi aid config =>
    exact .same (establishReqCbk_requests lcid id srcTcid slqi aid config fate)
  | connectRsp id srcTcid dstTcid result =>
    exact .same (establishRspCbk_requests lcid srcTcid dstTcid result)
  | disconnectReq id srcTcid dstTcid =>
    exact releaseReqCbk_requests lcid id srcTcid dstTcid fate
  | disconnectRsp id srcTcid dstTcid result =>
    exact .same (releaseRspCbk_requests lcid srcTcid result)

end Requests

structure Faithful (device : Device) : Prop where
  waiting : ∀ request, request ∈ device.cached ↔ request ∈ device.outstanding
  timely : ∀ request channel, .timedOut request channel ∈ device.log →
    channel = none ∨ channel = some request.channel

structure Distinct (device : Device) : Prop where
  ids : (device.cached.map CachedRequest.id).Nodup
  serials : (device.cached.map CachedRequest.serial).Nodup
  below : ∀ request ∈ device.cached, request.serial < device.serial

def AnswersOwnLink (device : Device) : DeviceEvent → Prop
  | .recv lcid message _ =>
    ∀ request, lookup CachedRequest.id message.identifier device.cached =
        some request →
      request.code.value + 1 = message.code → request.lcid = lcid
  | _ => True

def ExpiresOwnChannel (device : Device) : DeviceEvent → Prop
  | .expire id =>
    ∀ request, lookup CachedRequest.id id device.cached = some request →
      ∀ channel, device.findByLocalTcid request.lcid request.srcTcid =
          some channel →
        channel.serial = request.channel
  | _ => True

/-- No request is cached without being sent, no response has the identifier of
a request on another link, and no timer runs after its tcid has gone to another
channel. -/
structure KeepsCache (device : Device) (event : DeviceEvent) : Prop where
  sends : device.leavesRequest event = false
  answers : device.AnswersOwnLink event
  expires : device.ExpiresOwnChannel event

section Cache

variable {device after : Device} {event : DeviceEvent} {leaves : Bool}
  {message : ChanSignal} {lcid : Nat} {request : CachedRequest} {id : UInt8}

theorem Distinct.requests (distinct : device.Distinct)
    (requests : Requests device leaves after) : after.Distinct := by
  have add (request : CachedRequest)
      (new : lookup CachedRequest.id request.id device.cached = none)
      (numbered : device.serial ≤ request.serial)
      (serial : request.serial < after.serial)
      (cached : after.cached = request :: device.cached) :
      after.Distinct := by
    constructor
    · rw [cached, map_cons, nodup_cons]
      exact ⟨lookup_eq_none.mp new, distinct.ids⟩
    · rw [cached, map_cons, nodup_cons]
      refine ⟨?_, distinct.serials⟩
      intro member
      obtain ⟨other, listed, same⟩ := mem_map.mp member
      have below := distinct.below other listed
      omega
    · rw [cached]
      refine forall_mem_cons.mpr ⟨serial, fun other member => ?_⟩
      have below := distinct.below other member
      omega
  cases requests with
  | same same =>
    constructor <;> rw [same.cached]
    · exact distinct.ids
    · exact distinct.serials
    · intro request member
      exact (distinct.below request member).trans_le same.serial
  | left request new numbered serial cached outstanding
  | sent request new numbered serial cached outstanding =>
    exact add request new numbered serial cached

theorem Distinct.sublist (distinct : device.Distinct)
    (serial : after.serial = device.serial)
    (cached : after.cached.Sublist device.cached) : after.Distinct where
  ids := distinct.ids.sublist (cached.map _)
  serials := distinct.serials.sublist (cached.map _)
  below request member :=
    serial ▸ distinct.below request (cached.subset member)

section

variable
  (waiting : ∀ request, request ∈ device.cached ↔ request ∈ device.outstanding)
include waiting

theorem waiting_of_requests (requests : Requests device false after)
    (request : CachedRequest) :
    request ∈ after.cached ↔ request ∈ after.outstanding := by
  cases requests with
  | same same =>
    rw [same.cached, same.outstanding]
    exact waiting request
  | sent other new numbered serial cached outstanding =>
    rw [cached, outstanding, mem_cons, mem_cons, waiting request]

theorem not_waiting_of_left (requests : Requests device true after) :
    ∃ request, request ∈ after.cached ∧ request ∉ after.outstanding ∧
      lookup CachedRequest.id request.id device.cached = none := by
  cases requests with
  | left request new numbered serial cached outstanding =>
    refine ⟨request, cached ▸ mem_cons_self, ?_, new⟩
    rw [outstanding, ← waiting request]
    intro member
    exact lookup_eq_none.mp new (mem_map_of_mem member)

end

theorem mem_signalingCacheRemove (distinct : device.Distinct)
    (id code : UInt8) (request : CachedRequest) :
    request ∈ (device.signalingCacheRemove id code).cached ↔
      request ∈ device.cached ∧
        ¬ (request.id = id ∧ request.code.value + 1 = code) := by
  unfold signalingCacheRemove
  cases located : lookup CachedRequest.id id device.cached with
  | none =>
    have absent := lookup_eq_none.mp located
    constructor
    · intro member
      refine ⟨member, ?_⟩
      rintro ⟨rfl, _⟩
      exact absent (mem_map_of_mem member)
    · exact And.left
  | some found =>
    have known (member : request ∈ device.cached) (same : request.id = id) :
        request = found := by
      have other := lookup_of_mem distinct.ids member
      rw [same, located] at other
      exact (Option.some.inj other).symm
    dsimp only
    split
    · next matched =>
        rw [mem_remove distinct.ids]
        constructor
        · rintro ⟨member, differs⟩
          exact ⟨member, fun same => differs same.1⟩
        · rintro ⟨member, differs⟩
          refine ⟨member, ?_⟩
          intro same
          rw [known member same] at differs
          exact differs ⟨lookup_key located, matched⟩
    · next unmatched =>
        constructor
        · intro member
          refine ⟨member, ?_⟩
          rintro ⟨same, code⟩
          rw [known member same] at code
          exact unmatched code
        · exact And.left

section

variable (lcid : Nat) (message : ChanSignal) (fate : RecvFate)

theorem mem_recv_cached (distinct : (device.handle lcid message fate).Distinct)
    (request : CachedRequest) :
    request ∈ (device.step (.recv lcid message fate)).cached ↔
      request ∈ (device.handle lcid message fate).cached ∧
        ¬ (request.id = message.identifier ∧
          request.code.value + 1 = message.code) := by
  have kept : { device.handle lcid message fate with
      outstanding := (device.handle lcid message fate).outstanding.filter
        fun other => !other.answeredBy lcid message }.Distinct :=
    distinct.sublist rfl (List.Sublist.refl _)
  exact mem_signalingCacheRemove kept _ _ request

theorem mem_recv_outstanding (request : CachedRequest) :
    request ∈ (device.step (.recv lcid message fate)).outstanding ↔
      request ∈ (device.handle lcid message fate).outstanding ∧
        ¬ (request.lcid = lcid ∧ request.id = message.identifier ∧
          request.code.value + 1 = message.code) := by
  simp only [step, recvSignalingData, signalingCacheRemove_kept,
    mem_filter, CachedRequest.answeredBy, Bool.not_eq_true',
    Bool.and_eq_false_iff, beq_eq_false_iff_ne, not_and, ne_eq]
  constructor
  · rintro ⟨member, differs⟩
    refine ⟨member, ?_⟩
    intro sameLcid sameId sameCode
    rcases differs with (lcid | id) | code
    · exact lcid sameLcid
    · exact id sameId
    · exact code sameCode
  · rintro ⟨member, differs⟩
    refine ⟨member, ?_⟩
    by_cases sameLcid : request.lcid = lcid
    · by_cases sameId : request.id = message.identifier
      · exact .inr (differs sameLcid sameId)
      · exact .inl (.inr sameId)
    · exact .inl (.inl sameLcid)

end

theorem handle_of_answer (lcid : Nat) (fate : RecvFate) {code : RequestCode}
    (answer : code.value + 1 = message.code) :
    SameRequests device (device.handle lcid message fate) := by
  cases message with
  | connectReq id srcTcid slqi aid config =>
    exact absurd answer (RequestCode.value_succ_ne code).1
  | connectRsp id srcTcid dstTcid result =>
    exact establishRspCbk_requests lcid srcTcid dstTcid result
  | disconnectReq id srcTcid dstTcid =>
    exact absurd answer (RequestCode.value_succ_ne code).2
  | disconnectRsp id srcTcid dstTcid result =>
    exact releaseRspCbk_requests lcid srcTcid result

theorem waiting_recv (distinct : device.Distinct) (waiting : ∀ request,
      request ∈ device.cached ↔ request ∈ device.outstanding) {fate : RecvFate}
    (sends : device.leavesRequest (.recv lcid message fate) = false)
    (answers : device.AnswersOwnLink (.recv lcid message fate))
    (request : CachedRequest) :
    request ∈ (device.step (.recv lcid message fate)).cached ↔
      request ∈ (device.step (.recv lcid message fate)).outstanding := by
  have requests := device.handle_requests lcid message fate
  have handled := distinct.requests requests
  rw [sends] at requests
  rw [mem_recv_cached lcid message fate handled, mem_recv_outstanding,
    waiting_of_requests waiting requests]
  apply and_congr_right
  intro member
  rw [not_iff_not]
  constructor
  · rintro ⟨id, code⟩
    refine ⟨?_, id, code⟩
    have same := device.handle_of_answer lcid fate code
    rw [same.outstanding, ← waiting] at member
    have located := lookup_of_mem distinct.ids member
    rw [id] at located
    exact answers request located code
  · exact And.right

theorem begun_requests : SameRequests device (device.begun event) := by
  unfold begun
  split
  · split <;> exact ⟨le_rfl, rfl, rfl⟩
  · exact SameRequests.refl device

theorem timeoutHandled_requests (request : CachedRequest) :
    SameRequests device ((device.begun event).timeoutHandled request) := by
  have noted : SameRequests device (device.begun event) := begun_requests
  have handled : SameRequests (device.begun event)
      ((device.begun event).timeoutHandled request) := by
    unfold timeoutHandled
    split
    · exact establishRspCbk_requests _ _ _ _
    · exact releaseRspCbk_requests _ _ _
  exact ⟨noted.serial.trans handled.serial, handled.cached.trans noted.cached,
    handled.outstanding.trans noted.outstanding⟩

theorem step_expire
    (located : lookup CachedRequest.id id device.cached = some request) :
    device.step (.expire id) =
      { (device.begun (.expire id)).timeoutHandled request with
        cached := remove CachedRequest.id id
          ((device.begun (.expire id)).timeoutHandled request).cached
        outstanding :=
          ((device.begun (.expire id)).timeoutHandled
            request).outstanding.filter fun other =>
              other.serial ≠ request.serial } := by
  simp only [step, signalingTimeout, located, begun]
  rfl

section

variable (distinct : device.Distinct)
include distinct

theorem waiting_expire
    (waiting : ∀ request, request ∈ device.cached ↔
      request ∈ device.outstanding) (id : UInt8) (request : CachedRequest) :
    request ∈ (device.step (.expire id)).cached ↔
      request ∈ (device.step (.expire id)).outstanding := by
  cases located : lookup CachedRequest.id id device.cached with
  | none =>
    simp only [step, signalingTimeout, located]
    exact waiting request
  | some expired =>
    have same : SameRequests device
        ((device.begun (.expire id)).timeoutHandled expired) :=
      timeoutHandled_requests expired
    rw [step_expire located]
    rw [same.cached, same.outstanding, mem_remove distinct.ids,
      mem_filter, waiting request, decide_eq_true_eq]
    apply and_congr_right
    intro member
    have listed := (waiting request).mpr member
    have found := lookup_mem located
    have key : expired.id = id := lookup_key located
    rw [← key]
    -- one request has both the identifier and the serial number
    constructor
    · intro differs serial
      have equal := inj_on_of_nodup_map distinct.serials listed found serial
      exact differs (equal ▸ rfl)
    · intro differs sameId
      have equal := inj_on_of_nodup_map distinct.ids listed found sameId
      exact differs (equal ▸ rfl)

theorem Distinct.step (formed : device.Formed) (event : DeviceEvent)
    : (device.step event).Distinct := by
  cases event with
  | linkUp lcid allocated => exact distinct.sublist rfl (List.Sublist.refl _)
  | linkDown lcid allocated =>
    simp only [Device.step, linkDown_eq formed]
    exact distinct.sublist rfl filter_sublist
  | establish req nodeAllocated fate =>
    exact distinct.requests (establishReq_requests req nodeAllocated fate)
  | release lcid tcid fate =>
    exact distinct.requests (releaseReq_requests lcid tcid fate)
  | recv lcid message fate =>
    have handled := distinct.requests (device.handle_requests lcid message fate)
    apply handled.sublist
    · simp [Device.step, recvSignalingData]
    · exact signalingCacheRemove_sublist _ _ _
  | expire id =>
    cases located : lookup CachedRequest.id id device.cached with
    | none =>
      simp only [Device.step, signalingTimeout, located]
      exact distinct
    | some request =>
      have same : SameRequests device
          ((device.begun (.expire id)).timeoutHandled request) :=
        timeoutHandled_requests request
      rw [step_expire located]
      have kept := distinct.requests (Requests.same same)
      exact kept.sublist rfl remove_sublist

theorem waiting_step (formed : device.Formed)
    (waiting : ∀ request, request ∈ device.cached ↔
      request ∈ device.outstanding) (keeps : device.KeepsCache event)
    (request : CachedRequest) :
    request ∈ (device.step event).cached ↔
      request ∈ (device.step event).outstanding := by
  cases event with
  | linkUp lcid allocated => exact waiting request
  | linkDown lcid allocated =>
    simp only [step, linkDown_eq formed, mem_filter, waiting request]
  | establish req nodeAllocated fate =>
    have requests := device.establishReq_requests req nodeAllocated fate
    rw [keeps.sends] at requests
    exact waiting_of_requests waiting requests request
  | release lcid tcid fate =>
    have requests := device.releaseReq_requests lcid tcid fate
    rw [keeps.sends] at requests
    exact waiting_of_requests waiting requests request
  | recv lcid message fate =>
    exact waiting_recv distinct waiting keeps.sends keeps.answers request
  | expire id => exact waiting_expire distinct waiting id request

end

theorem timedOut_step (formed : device.Formed) {channel : Option Nat}
    (member : .timedOut request channel ∈ (device.step event).log) :
    .timedOut request channel ∈ (device.begun event).log := by
  obtain ⟨core, outcome, settled⟩ := device.step_outcome formed event
  obtain ⟨added, log, untimed⟩ := outcome.extended formed.begun
  rw [settled.log, log] at member
  rcases mem_append.mp member with member | member
  · exact member
  · exact absurd member (untimed request channel)

theorem timely_step (formed : device.Formed)
    (faithful : device.Faithful) (expires : device.ExpiresOwnChannel event)
    (request : CachedRequest) (channel : Option Nat)
    (member : .timedOut request channel ∈ (device.step event).log) :
    channel = none ∨ channel = some request.channel := by
  have noted := timedOut_step formed member
  cases event with
  | expire id =>
    unfold begun at noted
    dsimp only at noted
    split at noted
    · exact faithful.timely request channel noted
    · next expired located =>
        rcases mem_append.mp noted with noted | noted
        · exact faithful.timely request channel noted
        · obtain ⟨rfl, rfl⟩ : request = expired ∧ channel = _ := by
            simpa using noted
          cases found : device.findByLocalTcid request.lcid request.srcTcid with
          | none => exact .inl rfl
          | some holder =>
            exact .inr (congrArg some (expires request located holder found))
  | _ => exact faithful.timely request channel noted

theorem Faithful.step (faithful : device.Faithful)
    (distinct : device.Distinct) (formed : device.Formed)
    (keeps : device.KeepsCache event) : (device.step event).Faithful where
  waiting := waiting_step distinct formed faithful.waiting keeps
  timely := timely_step formed faithful keeps.expires

theorem sends_recv (distinct : device.Distinct) (faithful : device.Faithful)
    {fate : RecvFate}
    (after : (device.step (.recv lcid message fate)).Faithful) :
    device.leavesRequest (.recv lcid message fate) = false := by
  cases leaves : device.leavesRequest (.recv lcid message fate) with
  | false => rfl
  | true =>
    exfalso
    have requests := device.handle_requests lcid message fate
    have handled := distinct.requests requests
    rw [leaves] at requests
    obtain ⟨request, cached, absent, new⟩ :=
      not_waiting_of_left faithful.waiting requests
    have kept : request ∈ (device.step (.recv lcid message fate)).cached := by
      rw [mem_recv_cached lcid message fate handled]
      refine ⟨cached, ?_⟩
      rintro ⟨_, code⟩
      -- an answer makes no request
      have same := device.handle_of_answer lcid fate code
      rw [same.cached] at cached
      exact lookup_eq_none.mp new (mem_map_of_mem cached)
    have waits := (after.waiting request).mp kept
    rw [mem_recv_outstanding] at waits
    exact absent waits.1

theorem answers_recv (distinct : device.Distinct) (faithful : device.Faithful)
    {fate : RecvFate}
    (after : (device.step (.recv lcid message fate)).Faithful) :
    device.AnswersOwnLink (.recv lcid message fate) := by
  intro request located code
  by_contra elsewhere
  have same := device.handle_of_answer lcid fate code
  have handled := distinct.requests (device.handle_requests lcid message fate)
  have waits : request ∈
      (device.step (.recv lcid message fate)).outstanding := by
    rw [mem_recv_outstanding]
    refine ⟨?_, fun answered => elsewhere answered.1⟩
    rw [same.outstanding, ← faithful.waiting]
    exact lookup_mem located
  have kept := (after.waiting request).mpr waits
  rw [mem_recv_cached lcid message fate handled] at kept
  exact kept.2 ⟨lookup_key located, code⟩

theorem expires_of_timely (formed : device.Formed) (timely : ∀ request channel,
      .timedOut request channel ∈ (device.step (.expire id)).log →
        channel = none ∨ channel = some request.channel) :
    device.ExpiresOwnChannel (.expire id) := by
  intro request located channel found
  obtain ⟨core, outcome, settled⟩ := device.step_outcome formed (.expire id)
  obtain ⟨added, log, _⟩ := outcome.extended formed.begun
  have noted : .timedOut request (some channel.serial) ∈
      (device.step (.expire id)).log := by
    rw [settled.log, log]
    simp [begun, located, note, found]
  rcases timely request _ noted with absent | own
  · cases absent
  · exact Option.some.inj own

theorem keepsCache_of_faithful (distinct : device.Distinct)
    (formed : device.Formed) (faithful : device.Faithful)
    (after : (device.step event).Faithful) : device.KeepsCache event := by
  have unsent {made : Device}
      (requests : Requests device (device.leavesRequest event) made)
      (kept : made.Faithful) : device.leavesRequest event = false := by
    cases leaves : device.leavesRequest event with
    | false => rfl
    | true =>
      rw [leaves] at requests
      obtain ⟨request, cached, absent, _⟩ :=
        not_waiting_of_left faithful.waiting requests
      exact absurd ((kept.waiting request).mp cached) absent
  cases event with
  | establish req nodeAllocated fate =>
    exact ⟨unsent (establishReq_requests req nodeAllocated fate) after,
      trivial, trivial⟩
  | release lcid tcid fate =>
    exact ⟨unsent (releaseReq_requests lcid tcid fate) after, trivial, trivial⟩
  | recv lcid message fate =>
    exact ⟨sends_recv distinct faithful after,
      answers_recv distinct faithful after, trivial⟩
  | expire id => exact ⟨rfl, trivial, expires_of_timely formed after.timely⟩
  | _ => exact ⟨rfl, trivial, trivial⟩

end Cache

/-- In a run the cache holds the requests that wait, and timers only find the
channels of their requests, exactly when every request that is cached is sent,
no response has the identifier of a request on another link, and no timer runs
once its tcid has gone to another channel. -/
theorem faithful_iff (identifier : UInt8) (events : List DeviceEvent) :
    Always step Faithful (init identifier) events ↔
      Meets step KeepsCache (init identifier) events := by
  have sound (device : Device)
      (kept : device.Formed ∧ device.Distinct ∧ device.Faithful) :
      device.Faithful := kept.2.2
  have preserved (device : Device) (event : DeviceEvent)
      (kept : device.Formed ∧ device.Distinct ∧ device.Faithful)
      (keeps : device.KeepsCache event) :
      (device.step event).Formed ∧ (device.step event).Distinct ∧
        (device.step event).Faithful :=
    ⟨kept.1.step event, kept.2.1.step kept.1 event,
      kept.2.2.step kept.2.1 kept.1 keeps⟩
  have necessary (device : Device) (event : DeviceEvent)
      (kept : device.Formed ∧ device.Distinct ∧ device.Faithful)
      (after : (device.step event).Faithful) : device.KeepsCache event :=
    keepsCache_of_faithful kept.2.1 kept.1 kept.2.2 after
  refine always_iff_meets sound preserved necessary
    ⟨formed_init identifier, ?_, ?_⟩
  · constructor <;> simp [init]
  · constructor <;> simp [init]

def unsentRequest : List DeviceEvent :=
  [.linkUp 1 true, .establish ⟨1, 0, ⟨0, 0, 0, 0, 0, ⟨0, 64, 1, 2⟩⟩⟩ true
      ⟨true, true, false⟩]

/-- The request stays in the cache. -/
theorem faithful_fails : ¬ Always step Faithful (init 0) unsentRequest := by
  intro always
  have waits := always.at_end.waiting ⟨1, 0, 1, 1, .connectReq, 0x80, 0⟩
  revert waits
  decide

end Device

end NearLink.Cm
