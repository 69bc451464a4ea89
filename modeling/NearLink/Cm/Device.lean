import NearLink.Cm.TransChannel

/-!
# The dynamic channels of a device

All logic links of one device share the list of dynamic channels, the cache of
signalling requests and the identifier of the next request.  The peers may send
anything, and every call into a lower layer may fail: what happens to it is
part of the event.  The callbacks do not call back into the module.

A channel and a request carry a serial number in place of their address, so
that two of them can be told apart when a tcid or an identifier is used again.
-/

namespace NearLink.Cm

open Keyed Transition

/-- `CM_DynTransChanEventType_E` -/
inductive ChanEvent where
  | activeEstablishingReq
  | activeEstablishedRsp
  | activeEstablishingFailRsp
  | activeReleasingReq
  | activeReleasedRsp
  | activeReleasingFailRsp
  | passiveReleasedReq
  | passiveEstablishedReq
  deriving DecidableEq

namespace ChanEvent

/-- The first column of `g_dynTransChanEvents`. -/
def currentState : ChanEvent → ChannelState
  | activeEstablishingReq => .init
  | activeEstablishedRsp => .activating
  | activeEstablishingFailRsp => .activating
  | activeReleasingReq => .activated
  | activeReleasedRsp => .releasing
  | activeReleasingFailRsp => .releasing
  | passiveReleasedReq => .activated
  | passiveEstablishedReq => .init

/-- The third column of `g_dynTransChanEvents`. -/
def nextState : ChanEvent → ChannelState
  | activeEstablishingReq => .activating
  | activeEstablishedRsp => .activated
  | activeEstablishingFailRsp => .released
  | activeReleasingReq => .releasing
  | activeReleasedRsp => .released
  | activeReleasingFailRsp => .released
  | passiveReleasedReq => .released
  | passiveEstablishedReq => .activated

end ChanEvent

/-- `SleTransLcidParam_S` -/
structure ChannelParams where
  version : UInt8
  localIndex : UInt16
  slqi : UInt8
  aid : UInt16
  frameType : UInt8
  config : ChannelConfig
  deriving DecidableEq

/-- `CM_DynTransChannelEstablishParamReq_S`, with the lcid of the address. -/
structure EstablishReq where
  lcid : Nat
  expectedTransportMode : UInt8
  params : ChannelParams

/-- The check of the parameters in `CM_DynTransChannelEstablishReq`. -/
def EstablishReq.valid (req : EstablishReq) : Bool :=
  req.expectedTransportMode == 0 && req.params.config.transMode < 4 &&
    req.params.slqi < 2

/-- `SleTransLcid_S` of a dynamic channel. -/
structure DynChannel where
  serial : Nat
  lcid : Nat
  localTcid : Nat
  remoteTcid : Nat
  state : ChannelState
  params : ChannelParams
  deriving DecidableEq

/-- What `CM_FindTransChannelByLocalTcid` compares. -/
def DynChannel.localKey (channel : DynChannel) : Nat × Nat :=
  (channel.lcid, channel.localTcid)

/-- What `CM_FindTransChannelByRemoteTcid` compares. -/
def DynChannel.remoteKey (channel : DynChannel) : Nat × Nat :=
  (channel.lcid, channel.remoteTcid)

/-- `CM_DynTcidPool_S`, with the tcids marked in `unicastTcidUsed`. -/
structure TcidPool where
  lcid : Nat
  used : List Nat

/-- The tcid that `CM_DynAllocateUnicastTcid` finds. -/
def TcidPool.freeTcid (pool : TcidPool) : Option Nat :=
  (List.range' tcidUcBegin (tcidUcEnd - tcidUcBegin + 1)).find? fun tcid =>
    ! pool.used.contains tcid

def RequestCode.value : RequestCode → UInt8
  | .connectReq => 0x10
  | .disconnectReq => 0x12

/-- `CM_CachedSignaling_S` with its `CM_SignalingTransChanTimoutArgs_S`, and
the channel that the request was made for. -/
structure CachedRequest where
  serial : Nat
  channel : Nat
  lcid : Nat
  id : UInt8
  code : RequestCode
  srcTcid : Nat
  dstTcid : Nat
  deriving DecidableEq

inductive ChanSignal where
  | connectReq (id : UInt8) (srcTcid : Nat) (slqi : UInt8) (aid : UInt16)
      (config : ChannelConfig)
  | connectRsp (id : UInt8) (srcTcid dstTcid : Nat) (result : UInt8)
  | disconnectReq (id : UInt8) (srcTcid dstTcid : Nat)
  | disconnectRsp (id : UInt8) (srcTcid dstTcid : Nat) (result : UInt8)
  deriving DecidableEq

namespace ChanSignal

def identifier : ChanSignal → UInt8
  | connectReq id _ _ _ _ => id
  | connectRsp id _ _ _ => id
  | disconnectReq id _ _ => id
  | disconnectRsp id _ _ _ => id

def code : ChanSignal → UInt8
  | connectReq _ _ _ _ _ => 0x10
  | connectRsp _ _ _ _ => 0x11
  | disconnectReq _ _ _ => 0x12
  | disconnectRsp _ _ _ _ => 0x13

end ChanSignal

def CachedRequest.answeredBy (request : CachedRequest)
    (lcid : Nat) (message : ChanSignal) : Bool :=
  request.lcid == lcid && request.id == message.identifier &&
    request.code.value + 1 == message.code

/-- `CM_RESULT_ESTABLISH_SUCCESS` and `CM_RESULT_RELEASE_SUCCESS` -/
def resultSuccess : UInt8 := 0

def resultInsufficientResource : UInt8 := 1

def resultUnsupportedMtuSize : UInt8 := 2

def resultEstablishTimeout : UInt8 := 5

def resultReleaseTimeout : UInt8 := 1

/-- `CM_DYN_TRANS_CHAN_ESTABLISH_SUCCESS` and
`CM_DYN_TRANS_CHAN_RELEASE_SUCCESS` -/
def rspSuccess : UInt8 := 0

/-- `CM_DYN_TRANS_CHAN_ESTABLISH_FAIL` and `CM_DYN_TRANS_CHAN_RELEASE_FAIL` -/
def rspFail : UInt8 := 1

/-- `CM_DYN_TRANS_CHAN_ESTABLISH_TIMEOUT` and
`CM_DYN_TRANS_CHAN_RELEASE_TIMEOUT` -/
def rspTimeout : UInt8 := 60

/-- `CM_DYN_TRANS_CHAN_STATUS_INDICATION_NORMAL` -/
def indicationNormal : UInt8 := 0

/-- `CM_DYN_TRANS_CHAN_STATUS_INDICATION_DICONNECTED` -/
def indicationDisconnected : UInt8 := 2

def invalidAid : UInt16 := 3999

inductive DeviceLog where
  | sent (lcid : Nat) (message : ChanSignal)
  /-- `establishRspCbk`, all of whose fields are those of the channel. -/
  | establishRsp (channel : DynChannel) (result : UInt8)
  /-- `releaseRspCbk` -/
  | releaseRsp (channel : DynChannel) (result : UInt8)
  /-- `statusIndicationCbk` -/
  | statusIndication (channel : DynChannel) (added : Bool) (result : UInt8)
  | moved (event : ChanEvent) (before : ChannelState)
  /-- `CM_DynTransChannelEstablishReq` returns `CM_SUCCESS`. -/
  | establishAccepted (channel : DynChannel)
  /-- `CM_DynTransChannelReleaseReq` returns `CM_SUCCESS`. -/
  | releaseAccepted (channel : DynChannel)
  | timedOut (request : CachedRequest) (channel : Option Nat)
  deriving DecidableEq

structure Device where
  links : List Nat
  /-- `g_dynTransListHead` -/
  channels : List DynChannel
  /-- `g_cmDynTransPoolListHead` -/
  pools : List TcidPool
  /-- `g_cachedSignalings` -/
  cached : List CachedRequest
  identifier : UInt8
  serial : Nat
  /-- The requests that were sent and have seen neither a response on their
  link, nor their timeout, nor the end of their link, for the record. -/
  outstanding : List CachedRequest
  log : List DeviceLog

structure RequestFate where
  prepared : Bool
  cached : Bool
  sent : Bool

structure RecvFate where
  /-- The answer of `establishedCheckCbk`. -/
  checked : Bool
  nodeAllocated : Bool
  sent : Bool
  request : RequestFate

inductive DeviceEvent where
  | linkUp (lcid : Nat) (allocated : Bool)
  | linkDown (lcid : Nat) (allocated : Bool)
  | establish (req : EstablishReq) (nodeAllocated : Bool) (fate : RequestFate)
  | release (lcid tcid : Nat) (fate : RequestFate)
  | recv (lcid : Nat) (message : ChanSignal) (fate : RecvFate)
  | expire (id : UInt8)

namespace Device

def init (identifier : UInt8) : Device :=
  ⟨[], [], [], [], identifier, 0, [], []⟩

def note (entry : DeviceLog) (device : Device) : Device :=
  { device with log := device.log ++ [entry] }

/-- `CM_DynTransGetTcidPool` -/
def poolOf (lcid : Nat) (device : Device) : Option TcidPool :=
  lookup TcidPool.lcid lcid device.pools

/-- The tcid that `CM_DynTcidAllocate` hands out. -/
def freeTcid (lcid : Nat) (unicast : Bool) (device : Device) : Option Nat :=
  if unicast then (device.poolOf lcid).bind TcidPool.freeTcid else none

/-- `CM_DynTcidAllocate` of a free tcid. -/
def dynTcidAllocate (lcid tcid : Nat) (device : Device) : Device :=
  { device with
    pools := modify TcidPool.lcid lcid
      (fun pool => { pool with used := tcid :: pool.used }) device.pools }

def dynTcidRelease (lcid tcid : Nat) (unicast : Bool) (device : Device) :
    Device :=
  if unicast && isUnicast tcid then
    { device with
      pools := modify TcidPool.lcid lcid
        (fun pool => { pool with used := pool.used.erase tcid }) device.pools }
  else device

/-- `CM_FindTransChannelByLocalTcid` of a dynamic tcid. -/
def findByLocalTcid (lcid tcid : Nat) (device : Device) :
    Option DynChannel :=
  lookup DynChannel.localKey (lcid, tcid) device.channels

/-- `CM_FindTransChannelByRemoteTcid` of a dynamic tcid. -/
def findByRemoteTcid (lcid tcid : Nat) (device : Device) :
    Option DynChannel :=
  lookup DynChannel.remoteKey (lcid, tcid) device.channels

/-- The node that `CM_ActivateDynamicTransChannel` makes. -/
def newChannel (lcid localTcid remoteTcid : Nat) (state : ChannelState)
    (params : ChannelParams) (device : Device) : DynChannel :=
  ⟨device.serial, lcid, localTcid, remoteTcid, state, params⟩

/-- `CM_ActivateDynamicTransChannel` -/
def addChannel (channel : DynChannel) (device : Device) : Device :=
  { device with
    channels := device.channels ++ [channel]
    serial := device.serial + 1 }

/-- `CM_ReleaseDynamicTransChannelByLocalTcid` and
`CM_ReleaseDynamicTransChannelByRemoteTcid` -/
def freeChannel (channel : DynChannel) (device : Device) : Device :=
  { device with
    channels := remove DynChannel.serial channel.serial device.channels }

/-- `node->state = state` -/
def setState (channel : DynChannel) (state : ChannelState) (device : Device) : Device :=
  { device with
    channels := modify DynChannel.serial channel.serial
      (fun node => { node with state }) device.channels }

/-- `CM_DynamicTransChannelSetTcidAndChangeCbk` -/
def setTcid (channel : DynChannel) (remoteTcid : Nat) (state : ChannelState)
    (device : Device) : Device :=
  { device with
    channels := modify DynChannel.serial channel.serial
      (fun node => { node with remoteTcid, state }) device.channels }

@[grind =] def signalingCacheRemove (id code : UInt8) (device : Device) : Device :=
  match lookup CachedRequest.id id device.cached with
  | none => device
  | some request =>
    if request.code.value + 1 = code then
      { device with
        cached := remove CachedRequest.id id device.cached }
    else device

def signalingCacheClearByLcid (lcid : Nat) (device : Device) : Device :=
  { device with
    cached := device.cached.filter fun request => request.lcid ≠ lcid
    outstanding :=
      device.outstanding.filter fun request => request.lcid ≠ lcid }

/-- `CM_SignalingTransChanEstablishReqSend` and
`CM_SignalingTransChanReleaseReqSend`.  A request that cannot be sent is to be
taken out of the cache again, under its own code. -/
def sendRequest (code : RequestCode) (channel lcid srcTcid dstTcid : Nat)
    (message : UInt8 → ChanSignal) (fate : RequestFate) (device : Device) :
    Device × Bool :=
  if fate.prepared then
    let id := device.identifier
    let counted := { device with identifier := id + 1 }
    if fate.cached && (lookup CachedRequest.id id device.cached).isNone then
      let request : CachedRequest :=
        ⟨device.serial, channel, lcid, id, code, srcTcid, dstTcid⟩
      let inserted :=
        { counted with
          cached := request :: device.cached
          serial := device.serial + 1 }
      if fate.sent then
        ({ inserted with
            outstanding := request :: device.outstanding }.note
          (.sent lcid (message id)), true)
      else (inserted.signalingCacheRemove id code.value, false)
    else (counted, false)
  else (device, false)

/-- `CM_SignalingTransChanReleaseReqSend` -/
def sendReleaseReq (channel lcid srcTcid dstTcid : Nat) (fate : RequestFate)
    (device : Device) : Device × Bool :=
  device.sendRequest .disconnectReq channel lcid srcTcid dstTcid
    (fun id => .disconnectReq id srcTcid dstTcid) fate

/-- `CM_SignalingTransChanEstablishRspSend` and
`CM_SignalingTransChanReleaseRspSend` -/
def sendRsp (lcid : Nat) (message : ChanSignal) (sent : Bool)
    (device : Device) : Device :=
  if sent then device.note (.sent lcid message) else device

def activeEstablishingReqHandler (req : EstablishReq) (nodeAllocated : Bool)
    (fate : RequestFate) (device : Device) : Device :=
  let unicast := req.expectedTransportMode == 0
  match device.freeTcid req.lcid unicast with
  | none => device
  | some tcid =>
    let allocated := device.dynTcidAllocate req.lcid tcid
    if nodeAllocated then
      let params := { req.params with aid := invalidAid }
      let channel := allocated.newChannel req.lcid tcid invalidTcid
        ChanEvent.activeEstablishingReq.nextState params
      match (allocated.addChannel channel).sendRequest .connectReq
        channel.serial req.lcid tcid 0
        (fun id => .connectReq id tcid params.slqi params.aid params.config)
        fate with
      | (sent, true) => sent.note (.establishAccepted channel)
      | (failed, false) =>
        (failed.freeChannel channel).dynTcidRelease req.lcid tcid unicast
    else allocated.dynTcidRelease req.lcid tcid unicast

/-- `CM_DynTransChanActiveEstablishedRspHandler` for the channel it finds. -/
def activeEstablishedRspHandler (channel : DynChannel) (remoteTcid : Nat)
    (device : Device) : Device :=
  let state := ChanEvent.activeEstablishedRsp.nextState
  ((device.note (.moved .activeEstablishedRsp channel.state)).setTcid channel
    remoteTcid state).note
      (.establishRsp { channel with remoteTcid, state } rspSuccess)

/-- A channel is reported, freed and its tcid returned: the handlers of
`ACTIVE_ESTABLISHING_FAIL_RSP`, `ACTIVE_RELEASED_RSP` and
`ACTIVE_RELEASING_FAIL_RSP` for the channel they find by its tcid. -/
def endChannel (event : ChanEvent) (channel : DynChannel) (report : DeviceLog)
    (device : Device) : Device :=
  (((device.note (.moved event channel.state)).note report).freeChannel
    channel).dynTcidRelease channel.lcid channel.localTcid
      (isUnicast channel.localTcid)

def activeEstablishingFailRspHandler (channel : DynChannel) (result : UInt8)
    (device : Device) : Device :=
  device.endChannel .activeEstablishingFailRsp channel (.establishRsp channel
      (if result = resultEstablishTimeout then rspTimeout else rspFail))

def activeReleasedRspHandler (channel : DynChannel) (device : Device) :
    Device :=
  device.endChannel .activeReleasedRsp channel (.releaseRsp channel rspSuccess)

def activeReleasingFailRspHandler (channel : DynChannel) (result : UInt8)
    (device : Device) : Device :=
  device.endChannel .activeReleasingFailRsp channel (.releaseRsp channel
      (if result = resultReleaseTimeout then rspTimeout else rspFail))

/-- `CM_DynTransChanActiveReleasingHandler` for the channel it finds.  The
state it goes back to is that of the row. -/
def activeReleasingHandler (channel : DynChannel) (fate : RequestFate)
    (device : Device) : Device :=
  let moved :=
    (device.note (.moved .activeReleasingReq channel.state)).setState channel
      ChanEvent.activeReleasingReq.nextState
  match moved.sendReleaseReq channel.serial channel.lcid channel.localTcid
    channel.remoteTcid fate with
  | (sent, true) => sent.note (.releaseAccepted channel)
  | (failed, false) =>
    failed.setState channel ChanEvent.activeReleasingReq.currentState

/-- `CM_DynTransChanPassiveReleasedReqHandler` for the channel it finds. -/
def passiveReleasedReqHandler (channel : DynChannel) (reqId : UInt8)
    (unicast : Bool) (fate : RecvFate) (device : Device) : Device :=
  let freed :=
    (((device.note (.moved .passiveReleasedReq channel.state)).note
      (.statusIndication channel false indicationDisconnected)).dynTcidRelease
        channel.lcid channel.localTcid unicast).freeChannel channel
  if fate.sent then
    freed.sendRsp channel.lcid
      (.disconnectRsp reqId channel.remoteTcid channel.localTcid
        resultSuccess) true
  else
    -- `CM_DynTransChanExpectionReleaseHandler`
    (freed.sendReleaseReq channel.serial channel.lcid channel.localTcid
      channel.remoteTcid fate.request).1

def sendEstablishedErrResp (lcid : Nat) (reqId : UInt8) (remoteTcid : Nat)
    (result : UInt8) (sent : Bool) (device : Device) : Device :=
  device.sendRsp lcid (.connectRsp reqId remoteTcid invalidTcid result) sent

def passiveEstablishedReqHandler (lcid : Nat) (reqId : UInt8)
    (remoteTcid : Nat) (params : ChannelParams) (fate : RecvFate)
    (device : Device) : Device :=
  if params.config.mtu < capMinMtu then
    device.sendEstablishedErrResp lcid reqId remoteTcid
      resultUnsupportedMtuSize fate.sent
  else if !fate.checked then
    device.sendEstablishedErrResp lcid reqId remoteTcid
      resultInsufficientResource fate.sent
  else
    match device.freeTcid lcid (isUnicast remoteTcid) with
    | none => device
    | some tcid =>
      let allocated := device.dynTcidAllocate lcid tcid
      if fate.nodeAllocated then
        let channel := allocated.newChannel lcid tcid remoteTcid
          ChanEvent.passiveEstablishedReq.nextState params
        let added := allocated.addChannel channel
        if fate.sent then
          (added.sendRsp lcid
            (.connectRsp reqId remoteTcid tcid resultSuccess) true).note
              (.statusIndication channel true indicationNormal)
        else
          (added.freeChannel channel).dynTcidRelease lcid tcid
            (isUnicast remoteTcid)
      else allocated.dynTcidRelease lcid tcid (isUnicast remoteTcid)

/-- `CM_DynTransChannelEstablishReq` -/
def establishReq (req : EstablishReq) (nodeAllocated : Bool)
    (fate : RequestFate) (device : Device) : Device :=
  if req.valid then device.activeEstablishingReqHandler req nodeAllocated fate
  else device

/-- `CM_DynTransChannelReleaseReq` -/
def releaseReq (lcid tcid : Nat) (fate : RequestFate) (device : Device) :
    Device :=
  if isDynamic tcid then
    match device.findByLocalTcid lcid tcid with
    | none => device
    | some channel => device.activeReleasingHandler channel fate
  else device

/-- `CM_DynTransChannelEstablishReqCbk` for a request that was parsed. -/
def establishReqCbk (lcid : Nat) (id : UInt8) (srcTcid : Nat) (slqi : UInt8)
    (aid : UInt16) (config : ChannelConfig) (fate : RecvFate)
    (device : Device) : Device :=
  if config.parsed && isDynamic srcTcid &&
      (device.findByRemoteTcid lcid srcTcid).isNone then
    -- the ports of the peer are the other way round
    device.passiveEstablishedReqHandler lcid id srcTcid
      { version := 0
        localIndex := 0
        slqi
        aid
        frameType := 0
        config := { config with
          srcPort := config.dstPort
          dstPort := config.srcPort } } fate
  else device

/-- `CM_DynTransChannelEstablishRspCbk` -/
def establishRspCbk (lcid srcTcid dstTcid : Nat) (result : UInt8)
    (device : Device) : Device :=
  if isDynamic srcTcid && (result != resultSuccess || isDynamic dstTcid) then
    match device.findByLocalTcid lcid srcTcid with
    | none => device
    | some channel =>
      if channel.state = .activating then
        if result = resultSuccess then
          device.activeEstablishedRspHandler channel dstTcid
        else device.activeEstablishingFailRspHandler channel result
      else device
  else device

/-- `CM_DynTransChannelReleaseReqCbk` -/
def releaseReqCbk (lcid : Nat) (id : UInt8) (srcTcid : Nat) (fate : RecvFate)
    (device : Device) : Device :=
  if isDynamic srcTcid then
    match device.findByRemoteTcid lcid srcTcid with
    | none => device
    | some channel =>
      device.passiveReleasedReqHandler channel id (isUnicast srcTcid) fate
  else device

/-- `CM_DynTransChannelReleaseRspCbk` -/
def releaseRspCbk (lcid srcTcid : Nat) (result : UInt8) (device : Device) :
    Device :=
  if isDynamic srcTcid then
    match device.findByLocalTcid lcid srcTcid with
    | none => device
    | some channel =>
      if result = resultSuccess then device.activeReleasedRspHandler channel
      else device.activeReleasingFailRspHandler channel result
  else device

/-- The handler of a message in `g_signalings`. -/
def handle (lcid : Nat) (message : ChanSignal) (fate : RecvFate)
    (device : Device) : Device :=
  match message with
  | .connectReq id srcTcid slqi aid config =>
    device.establishReqCbk lcid id srcTcid slqi aid config fate
  | .connectRsp _ srcTcid dstTcid result =>
    device.establishRspCbk lcid srcTcid dstTcid result
  | .disconnectReq id srcTcid _ => device.releaseReqCbk lcid id srcTcid fate
  | .disconnectRsp _ srcTcid _ result =>
    device.releaseRspCbk lcid srcTcid result

def recvSignalingData (lcid : Nat) (message : ChanSignal) (fate : RecvFate)
    (device : Device) : Device :=
  let handled := device.handle lcid message fate
  { handled with
    outstanding := handled.outstanding.filter fun request =>
      !request.answeredBy lcid message }.signalingCacheRemove
    message.identifier message.code

/-- `CM_SignalingTimeoutCbkInner` -/
def signalingTimeout (id : UInt8) (device : Device) : Device :=
  match lookup CachedRequest.id id device.cached with
  | none => device
  | some request =>
    let noted := device.note (.timedOut request
      ((device.findByLocalTcid request.lcid request.srcTcid).map
        DynChannel.serial))
    let handled :=
      match request.code with
      | .connectReq =>
        noted.establishRspCbk request.lcid request.srcTcid
          request.dstTcid resultEstablishTimeout
      | .disconnectReq =>
        noted.releaseRspCbk request.lcid request.srcTcid resultReleaseTimeout
    { handled with
      cached := remove CachedRequest.id id handled.cached
      outstanding := handled.outstanding.filter fun other =>
        other.serial ≠ request.serial }

/-- The body of the loop of `CM_DynTransChannelNotifyAllDisconnected`. -/
def notifyDisconnected (device : Device) (channel : DynChannel) : Device :=
  match channel.state with
  | .released => device
  | .activating =>
    (device.note (.establishRsp channel rspFail)).freeChannel channel
  | .init => (device.note (.establishRsp channel rspFail)).freeChannel channel
  | .activated =>
    (device.note (.statusIndication channel false
      indicationDisconnected)).freeChannel channel
  | .releasing =>
    (device.note (.statusIndication channel false
      indicationDisconnected)).freeChannel channel

/-- `CM_DynTransChannReleaseAllNode` -/
def releaseAllNode (lcid : Nat) (allocated : Bool) (device : Device) :
    Device :=
  if allocated then
    (device.channels.filter fun channel => channel.lcid = lcid).foldl
      notifyDisconnected device
  else device

/-- `CM_DynTransLogicLinkCbk` and `CM_SignalingLogicLinkCbk` when a link goes
down. -/
def linkDown (lcid : Nat) (allocated : Bool) (device : Device) : Device :=
  let released := device.releaseAllNode lcid allocated
  { released with
    links := released.links.filter (· ≠ lcid)
    pools := remove TcidPool.lcid lcid released.pools
  }.signalingCacheClearByLcid lcid

/-- `CM_SignalingLogicLinkCbk`, which asks for the capabilities of the peer,
and `CM_DynTransLogicLinkCbk` when a link comes up. -/
def linkUp (lcid : Nat) (allocated : Bool) (device : Device) : Device :=
  { device with
    links := lcid :: device.links
    identifier := device.identifier + 1
    pools :=
      if allocated then ensure TcidPool.lcid lcid ⟨lcid, []⟩ device.pools
      else device.pools }

def step (device : Device) : DeviceEvent → Device
  | .linkUp lcid allocated => device.linkUp lcid allocated
  | .linkDown lcid allocated => device.linkDown lcid allocated
  | .establish req nodeAllocated fate =>
    device.establishReq req nodeAllocated fate
  | .release lcid tcid fate => device.releaseReq lcid tcid fate
  | .recv lcid message fate => device.recvSignalingData lcid message fate
  | .expire id => device.signalingTimeout id

end Device

end NearLink.Cm
