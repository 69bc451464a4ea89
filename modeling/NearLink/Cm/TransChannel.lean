import NearLink.Keyed
import NearLink.Transition

/-!
# Dynamic transmission channels

The two ends of one logic link.  Each of them keeps its dynamic channels, the
tcids it has handed out and the requests that wait for a response; the
signalling channel delivers in order and loses nothing, so that a message is in
the inbox of the other end from the moment it is sent.
-/

namespace NearLink.Cm

open Keyed Transition

def invalidTcid : Nat := 0x00

/-- `CM_TCID_UC_BEGIN` and `CM_TCID_UC_END` -/
def tcidUcBegin : Nat := 0x80

def tcidUcEnd : Nat := 0xDF

def isDynamic (tcid : Nat) : Bool := 0x20 ≤ tcid && tcid ≤ 0xFF

/-- `CM_DynTransChanGetTransportMode` is `CM_ACCESS_TRANS_MODE_UNICAST`. -/
def isUnicast (tcid : Nat) : Bool := tcidUcBegin ≤ tcid && tcid ≤ tcidUcEnd

def capMinMtu : UInt16 := 32

inductive ChannelState where
  | init
  | activating
  | activated
  | releasing
  | released
  deriving DecidableEq

/-- `SleTransLcid_S` of a dynamic channel, with both entries of
`lastTransid`. -/
structure TransChannel where
  localTcid : Nat
  remoteTcid : Nat
  state : ChannelState
  deriving DecidableEq

/-- What the other end reads of `CM_SignalingTransChanEstablishReq_S`. -/
structure ChannelConfig where
  transMode : UInt8
  mtu : UInt16
  srcPort : UInt16
  dstPort : UInt16
  deriving DecidableEq

/-- `CM_DynTransChannelEstablishParamReq_S` -/
structure EstablishParam where
  expectedTransportMode : UInt8
  slqi : UInt8
  config : ChannelConfig

/-- `CM_TransChanEstablishRspResult_E` -/
inductive EstablishResult where
  | success
  | insufficientResource
  | unsupportedMtuSize
  | unsupportedMpsSize
  | unexpectedSrcTcid
  | timeout
  deriving DecidableEq

/-- `CM_TransChanReleaseRspResult_E` -/
inductive ReleaseResult where
  | success
  | timeout

inductive Signaling where
  | connectReq (id : UInt8) (srcTcid : Nat) (config : ChannelConfig)
  | connectRsp (id : UInt8) (srcTcid dstTcid : Nat) (result : EstablishResult)
  | disconnectReq (id : UInt8) (srcTcid dstTcid : Nat)
  | disconnectRsp (id : UInt8) (srcTcid dstTcid : Nat) (result : ReleaseResult)

/-- `TC_CONNECT_REQ` and `TC_DISCONNECT_REQ` -/
inductive RequestCode where
  | connectReq
  | disconnectReq
  deriving DecidableEq

/-- `CM_CachedSignaling_S` with its `CM_SignalingTransChanTimoutArgs_S` -/
structure CachedSignaling where
  id : UInt8
  code : RequestCode
  srcTcid : Nat
  dstTcid : Nat

structure End where
  /-- The channels of `g_dynTransListHead`. -/
  channels : List TransChannel
  /-- The tcids marked in `unicastTcidUsed`. -/
  tcidUsed : List Nat
  cachedSignalings : List CachedSignaling
  identifier : UInt8
  inbox : List Signaling

/-- The check of the parameters in `CM_DynTransChannelEstablishReq`. -/
def EstablishParam.valid (param : EstablishParam) : Bool :=
  param.expectedTransportMode == 0 && param.config.transMode < 4 &&
    param.slqi < 2

/-- `CM_SignalingTransModeConfigParse` takes the basic, the stream and the
reliable mode. -/
def ChannelConfig.parsed (config : ChannelConfig) : Bool :=
  config.transMode < 4 && config.transMode != 1

namespace End

def init (identifier : UInt8) : End := ⟨[], [], [], identifier, []⟩

/-- The tcid that `CM_DynAllocateUnicastTcid` finds. -/
def freeTcid (own : End) : Option Nat :=
  (List.range' tcidUcBegin (tcidUcEnd - tcidUcBegin + 1)).find? fun tcid =>
    ! own.tcidUsed.contains tcid

def dynTcidRelease (tcid : Nat) (unicast : Bool) (own : End) : End :=
  if unicast && isUnicast tcid then
    { own with tcidUsed := own.tcidUsed.erase tcid }
  else own

/-- `CM_ActivateDynamicTransChannel` for an allocated tcid. -/
def activateDynamicTransChannel (channel : TransChannel) (own : End) : End :=
  { own with
    tcidUsed := channel.localTcid :: own.tcidUsed
    channels := own.channels ++ [channel] }

/-- `CM_ReleaseDynamicTransChannelByLocalTcid` and the release of the tcid. -/
def releaseDynamicTransChannel (tcid : Nat) (own : End) : End :=
  dynTcidRelease tcid (isUnicast tcid)
    { own with channels := remove TransChannel.localTcid tcid own.channels }

/-- `CM_GetIdentifier` and `CM_SignalingCacheInsert`, which fails while the
identifier is cached. -/
def cacheRequest (code : RequestCode) (srcTcid dstTcid : Nat) (own : End) :
    End × Option UInt8 :=
  let id := own.identifier
  let advanced := { own with identifier := id + 1 }
  match lookup CachedSignaling.id id own.cachedSignalings with
  | some _ => (advanced, none)
  | none =>
    ({ advanced with
        cachedSignalings :=
          ⟨id, code, srcTcid, dstTcid⟩ :: own.cachedSignalings },
      some id)

/-- `CM_SignalingCacheRemove` for the response to a request. -/
def signalingCacheRemove (id : UInt8) (code : RequestCode) (own : End) : End :=
  match lookup CachedSignaling.id id own.cachedSignalings with
  | some cached =>
    if cached.code = code then
      { own with
        cachedSignalings :=
          remove CachedSignaling.id id own.cachedSignalings }
    else own
  | none => own

/-- `CM_SendBuffToDtap`, seen from the end that is to receive. -/
def post (message : Signaling) (peer : End) : End :=
  { peer with inbox := peer.inbox ++ [message] }

/-- `CM_DynTransChannelEstablishReq` -/
def establishReq (param : EstablishParam) (own peer : End) : End × End :=
  if param.valid then
    match own.freeTcid with
    | none => (own, peer)
    | some tcid =>
      let opened :=
        own.activateDynamicTransChannel ⟨tcid, invalidTcid, .activating⟩
      match opened.cacheRequest .connectReq tcid 0 with
      | (sent, some id) => (sent, peer.post (.connectReq id tcid param.config))
      | (failed, none) => (failed.releaseDynamicTransChannel tcid, peer)
  else (own, peer)

def setState (tcid : Nat) (state : ChannelState) (own : End) : End :=
  { own with
    channels :=
      modify TransChannel.localTcid tcid
        (fun channel => { channel with state }) own.channels }

/-- `CM_DynTransChannelReleaseReq`.  The state of the channel is not looked at,
and a request that cannot be sent leaves it activated. -/
def releaseReq (tcid : Nat) (own peer : End) : End × End :=
  if isDynamic tcid then
    match lookup TransChannel.localTcid tcid own.channels with
    | none => (own, peer)
    | some channel =>
      let marked := own.setState tcid .releasing
      match marked.cacheRequest .disconnectReq tcid channel.remoteTcid with
      | (sent, some id) =>
        (sent, peer.post (.disconnectReq id tcid channel.remoteTcid))
      | (failed, none) => (failed.setState tcid .activated, peer)
  else (own, peer)

/-- `CM_DynTransChannelEstablishRspCbk` -/
def establishRspCbk (srcTcid dstTcid : Nat) (result : EstablishResult)
    (own : End) : End :=
  if isDynamic srcTcid && (result != .success || isDynamic dstTcid) then
    match lookup TransChannel.localTcid srcTcid own.channels with
    | some channel =>
      if channel.state = .activating then
        if result = .success then
          { own with
            channels :=
              modify TransChannel.localTcid srcTcid (fun channel =>
                  { channel with remoteTcid := dstTcid, state := .activated })
                own.channels }
        else own.releaseDynamicTransChannel srcTcid
      else own
    | none => own
  else own

/-- `CM_DynTransChannelReleaseRspCbk`: success, failure and a timeout release
the channel in whatever state it is. -/
def releaseRspCbk (srcTcid : Nat) (own : End) : End :=
  if isDynamic srcTcid then
    match lookup TransChannel.localTcid srcTcid own.channels with
    | some _ => own.releaseDynamicTransChannel srcTcid
    | none => own
  else own

/-- `CM_DynTransChannelEstablishReqCbk` gets as far as the handler. -/
def admits (srcTcid : Nat) (config : ChannelConfig) (own : End) : Bool :=
  config.parsed && isDynamic srcTcid &&
    (lookup TransChannel.remoteTcid srcTcid own.channels).isNone

/-- The result of the checks in `CM_DynTransChanPassiveEstablishedReqHandler`,
with the answer of `establishedCheckCbk` for the two ports. -/
def establishedCheck (check : UInt16 → UInt16 → Bool) (config : ChannelConfig) :
    EstablishResult :=
  if config.mtu < capMinMtu then .unsupportedMtuSize
  else if check config.dstPort config.srcPort then .success
  else .insufficientResource

def tcidFor (srcTcid : Nat) (own : End) : Option Nat :=
  if isUnicast srcTcid then own.freeTcid else none

/-- `CM_SignalingTransChanEstablishReqProc` -/
def establishReqCbk (check : UInt16 → UInt16 → Bool) (id : UInt8)
    (srcTcid : Nat) (config : ChannelConfig) (own peer : End) : End × End :=
  if own.admits srcTcid config then
    match establishedCheck check config with
    | .success =>
      match own.tcidFor srcTcid with
      | none => (own, peer)
      | some tcid =>
        (own.activateDynamicTransChannel ⟨tcid, srcTcid, .activated⟩,
          peer.post (.connectRsp id srcTcid tcid .success))
    | refusal => (own, peer.post (.connectRsp id srcTcid invalidTcid refusal))
  else (own, peer)

/-- `CM_DynTransChannelReleaseReqCbk`, which looks for the tcid of the sender
only. -/
def releaseReqCbk (id : UInt8) (srcTcid : Nat) (own peer : End) : End × End :=
  if isDynamic srcTcid then
    match lookup TransChannel.remoteTcid srcTcid own.channels with
    | none => (own, peer)
    | some channel =>
      (dynTcidRelease channel.localTcid (isUnicast srcTcid)
          { own with
            channels := remove TransChannel.remoteTcid srcTcid own.channels },
        peer.post
          (.disconnectRsp id channel.remoteTcid channel.localTcid .success))
  else (own, peer)

/-- `CM_RecvSignalingData` of the next message. -/
def recvSignalingData (check : UInt16 → UInt16 → Bool) (own peer : End) :
    End × End :=
  match own.inbox with
  | [] => (own, peer)
  | message :: inbox =>
    let taken := { own with inbox }
    match message with
    | .connectReq id srcTcid config =>
      taken.establishReqCbk check id srcTcid config peer
    | .connectRsp id srcTcid dstTcid result =>
      ((taken.establishRspCbk srcTcid dstTcid result).signalingCacheRemove
        id .connectReq, peer)
    | .disconnectReq id srcTcid _ => taken.releaseReqCbk id srcTcid peer
    | .disconnectRsp id srcTcid _ _ =>
      ((taken.releaseRspCbk srcTcid).signalingCacheRemove id
        .disconnectReq, peer)

/-- `CM_SignalingTimeoutCbkInner` -/
def signalingTimeout (id : UInt8) (own : End) : End :=
  match lookup CachedSignaling.id id own.cachedSignalings with
  | none => own
  | some cached =>
    let handled :=
      match cached.code with
      | .connectReq =>
        own.establishRspCbk cached.srcTcid cached.dstTcid .timeout
      | .disconnectReq => own.releaseRspCbk cached.srcTcid
    { handled with
      cachedSignalings :=
        remove CachedSignaling.id id handled.cachedSignalings }

def Activated (own : End) (localTcid remoteTcid : Nat) : Prop :=
  ⟨localTcid, remoteTcid, .activated⟩ ∈ own.channels

end End

inductive Side where
  | left
  | right

inductive EndEvent where
  | establish (param : EstablishParam)
  | release (tcid : Nat)
  | deliver (check : UInt16 → UInt16 → Bool)
  | expire (id : UInt8)

def End.act (own peer : End) : EndEvent → End × End
  | .establish param => own.establishReq param peer
  | .release tcid => own.releaseReq tcid peer
  | .deliver check => own.recvSignalingData check peer
  | .expire id => (own.signalingTimeout id, peer)

structure LogicLink where
  left : End
  right : End

namespace LogicLink

def step (link : LogicLink) : Side × EndEvent → LogicLink
  | (.left, event) =>
    let acted := link.left.act link.right event
    ⟨acted.1, acted.2⟩
  | (.right, event) =>
    let acted := link.right.act link.left event
    ⟨acted.2, acted.1⟩

def init (left right : UInt8) : LogicLink := ⟨.init left, .init right⟩

def Quiet (link : LogicLink) : Prop :=
  link.left.inbox = [] ∧ link.right.inbox = [] ∧
    link.left.cachedSignalings = [] ∧ link.right.cachedSignalings = []

def Agreed (link : LogicLink) : Prop :=
  link.Quiet → ∀ leftTcid rightTcid, link.left.Activated leftTcid rightTcid ↔
      link.right.Activated rightTcid leftTcid

end LogicLink

end NearLink.Cm
