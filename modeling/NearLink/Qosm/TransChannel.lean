import NearLink.Cm.TcidAccount

/-!
# The channels that the QoS manager knows

The QoS manager passes requests for dynamic channels on to the connection
manager, counts the channels of each link, and lists those that were
established, so that it can choose the connection parameters of the link.  It
learns what becomes of its requests from three callbacks of the connection
manager.

The system is a device together with the tables of the QoS manager.  The
callbacks run while the device handles an event, in the order in which the
device logs them, and do not change the device.
-/

namespace NearLink.Qosm

open Keyed Transition Cm

def channelMaxSize : UInt32 := 20

/-- `QOSM_TRANS_CHANNEL_SLQI_LOW` -/
def slqiLow : UInt8 := 0

/-- `QOSM_TRANS_CHANNEL_SLQI_MAX` -/
def slqiMax : UInt8 := 2

def radioFrameType4 : UInt8 := 3

def capMtu : UInt16 := 4096

def maxPayloadLen : UInt16 := 32768

def transModeBasic : UInt8 := 0

def transModeStream : UInt8 := 2

def transModeReliable : UInt8 := 3

def reliableModeMask : UInt16 := 1

def streamModeMask : UInt16 := 2

inductive ChannelStatus where
  | established
  | establishFail
  | released
  | releaseFail

/-- `QOSM_TransChannelParams_S` that passed `QOSM_TransChannelParamsCheck`, for
the link of its address. -/
structure TransChannelParams where
  lcid : Nat
  srcPort : UInt16
  dstPort : UInt16
  slqi : UInt8
  mode : UInt8
  frameType : UInt8

/-- What is read of `CM_CapInfo_S`. -/
structure CapInfo where
  supportTransMode : UInt16
  mtu : UInt16

structure TransChannelRspParams where
  transMode : UInt8
  tcid : Nat
  lcid : Nat
  srcPort : UInt16
  dstPort : UInt16
  mtu : UInt16
  slqi : UInt8
  status : ChannelStatus
  frameType : UInt8

structure TransChannel where
  tcid : Nat
  srcPort : UInt16
  dstPort : UInt16
  slqi : UInt8
  deriving DecidableEq

structure LogicLink where
  lcid : Nat
  slqi : UInt8
  list : List TransChannel
  deriving DecidableEq

structure ChannelNumNode where
  lcid : Nat
  channelNum : UInt16

structure ChannelNum where
  nodes : List ChannelNumNode := []
  channelTotalNum : UInt32 := 0

inductive QosmLog where
  /-- `statusCbk` -/
  | status (rsp : TransChannelRspParams)
  /-- `statusCbk` for a request to destroy a channel that failed. -/
  | releaseFailed (lcid tcid : Nat)
  /-- `CM_ConnectUpdateParamReq` with the parameters of the slqi. -/
  | updateReq (lcid : Nat) (slqi : UInt8)

/-- `g_transChannelMap` and `g_transChannelNum` -/
structure Tables where
  links : List LogicLink := []
  number : ChannelNum := {}
  log : List QosmLog := []

/-- Which allocations of the QoS manager succeed during an event, and whether
the connection manager takes its new parameters. -/
structure Fate where
  numNode : Bool := true
  linkNode : Bool := true
  channelNode : Bool := true
  updated : Bool := true

namespace ChannelNum

variable (number : ChannelNum)

/-- `QOSM_IsChannelExceedMaxSize` -/
def exceedsMaxSize : Bool := channelMaxSize ≤ number.channelTotalNum

/-- `QOSM_IsChannelEmpty` -/
def isEmpty : Bool := number.channelTotalNum == 0

/-- `QOSM_IncreaseChannelSize` -/
def increase (lcid : Nat) (allocated : Bool) : ChannelNum :=
  match lookup ChannelNumNode.lcid lcid number.nodes with
  | some _ =>
    { nodes := modify ChannelNumNode.lcid lcid
        (fun node => { node with channelNum := node.channelNum + 1 })
        number.nodes
      channelTotalNum := number.channelTotalNum + 1 }
  | none =>
    if allocated then
      { nodes := number.nodes ++ [⟨lcid, 1⟩]
        channelTotalNum := number.channelTotalNum + 1 }
    else number

/-- `QOSM_DecreaseChannelSize` -/
def decrease (lcid : Nat) : ChannelNum :=
  match lookup ChannelNumNode.lcid lcid number.nodes with
  | none => number
  | some node =>
    let counted : ChannelNum :=
      if 0 < node.channelNum then
        { nodes := modify ChannelNumNode.lcid lcid
            (fun node => { node with channelNum := node.channelNum - 1 })
            number.nodes
          channelTotalNum := number.channelTotalNum - 1 }
      else number
    if (if 0 < node.channelNum then node.channelNum - 1
        else node.channelNum) = 0 then
      { counted with
        nodes := remove ChannelNumNode.lcid lcid counted.nodes }
    else counted

/-- `QOSM_ClearChannelSize` -/
def clear (lcid : Nat) : ChannelNum :=
  match lookup ChannelNumNode.lcid lcid number.nodes with
  | none => number
  | some node =>
    { nodes := remove ChannelNumNode.lcid lcid number.nodes
      channelTotalNum :=
        if node.channelNum.toUInt32 < number.channelTotalNum then
          number.channelTotalNum - node.channelNum.toUInt32
        else 0 }

end ChannelNum

/-- The loop of `QOSM_TransChannelUpdateConnParams`. -/
def maxSlqi (list : List TransChannel) : UInt8 :=
  list.foldl (fun slqi channel =>
    if channel.slqi = slqiMax then slqi
    else if slqi < channel.slqi then channel.slqi
    else slqi) slqiLow

/-- `QOSM_TransChannelMtuNegotiate` -/
def mtuNegotiate (localMtu peerMtu : UInt16) : UInt16 :=
  if peerMtu < capMinMtu then localMtu
  else if peerMtu < localMtu then peerMtu
  else localMtu

/-- `QOSM_TransChannelModeConfigSet`, as far as the other end reads it. -/
def modeConfigSet (params : TransChannelParams) (cap : Option CapInfo) :
    Option ChannelConfig :=
  match cap with
  | none => none
  | some cap =>
    if cap.mtu ≠ 0 && cap.mtu < capMinMtu then none
    else
      let config : ChannelConfig :=
        { transMode := params.mode
          mtu := maxPayloadLen
          srcPort := params.srcPort
          dstPort := params.dstPort }
      if params.mode = transModeReliable then
        if cap.supportTransMode &&& reliableModeMask ≠ 0 then
          some { config with mtu := mtuNegotiate capMtu cap.mtu }
        else some { config with transMode := transModeBasic }
      else if params.mode = transModeStream then
        if cap.supportTransMode &&& streamModeMask = 0 then
          some { config with transMode := transModeBasic }
        else some config
      else some config

namespace Tables

variable (tables : Tables)

def note (entry : QosmLog) : Tables :=
  { tables with log := tables.log ++ [entry] }

def logicLinkFind (lcid : Nat) : Option LogicLink :=
  lookup LogicLink.lcid lcid tables.links

def logicLinkAdd (lcid : Nat) (allocated : Bool) : Tables :=
  match tables.logicLinkFind lcid with
  | some _ => tables
  | none =>
    if allocated then
      { tables with links := tables.links ++ [⟨lcid, slqiLow, []⟩] }
    else tables

def logicLinkDel (lcid : Nat) : Tables :=
  { tables with
    links := remove LogicLink.lcid lcid tables.links
    number := tables.number.clear lcid }

def changeLink (lcid : Nat) (change : LogicLink → LogicLink) : Tables :=
  { tables with links := modify LogicLink.lcid lcid change tables.links }

/-- `QOSM_TransChannelUpdateConnParamsInner` -/
def updateConnParamsInner (lcid : Nat) (slqi : UInt8) (updated : Bool) :
    Tables × Bool :=
  if slqi < slqiMax then (tables.note (.updateReq lcid slqi), updated)
  else (tables, false)

/-- `QOSM_TransChannelUpdateConnParams` -/
def updateConnParams (lcid : Nat) (updated : Bool) : Tables :=
  match tables.logicLinkFind lcid with
  | none => tables
  | some link =>
    let slqi := maxSlqi link.list
    if link.slqi = slqi then tables
    else match tables.updateConnParamsInner lcid slqi updated with
      | (refused, false) => refused
      | (accepted, true) =>
        accepted.changeLink lcid fun link => { link with slqi }

def transChannelAdd (lcid : Nat) (rsp : TransChannelRspParams)
    (allocated : Bool) : Tables × Bool :=
  match tables.logicLinkFind lcid with
  | none => (tables, false)
  | some _ =>
    if allocated then
      (tables.changeLink lcid fun link =>
        { link with
          list := ⟨rsp.tcid, rsp.srcPort, rsp.dstPort, rsp.slqi⟩ ::
            link.list }, true)
    else (tables, false)

def transChannelDel (lcid : Nat) (rsp : TransChannelRspParams) :
    Tables × Bool :=
  match tables.logicLinkFind lcid with
  | none => (tables, false)
  | some _ =>
    (tables.changeLink lcid fun link =>
      { link with
        list := remove TransChannel.tcid rsp.tcid link.list }, true)

def reportedMtu (mtu : UInt16) : UInt16 :=
  if capMinMtu < mtu then mtu - capMinMtu else 0

/-- `QOSM_TransChannelEstablishRspCbk`; the connection manager always gives
one slqi. -/
def establishRspCbk (fate : Fate) (channel : DynChannel) (result : UInt8) :
    Tables :=
  let rsp : TransChannelRspParams :=
    { transMode := channel.params.config.transMode
      tcid := channel.localTcid
      lcid := channel.lcid
      srcPort := channel.params.config.srcPort
      dstPort := channel.params.config.dstPort
      mtu := reportedMtu channel.params.config.mtu
      slqi := channel.params.slqi
      status := if result = rspSuccess then .established else .establishFail
      frameType := channel.params.frameType }
  let listed :=
    if result = rspSuccess then
      match tables.transChannelAdd channel.lcid rsp fate.channelNode with
      | (added, true) =>
        if rsp.frameType ≠ radioFrameType4 then
          added.updateConnParams channel.lcid fate.updated
        else added
      | (failed, false) => failed
    else tables
  listed.note (.status rsp)

/-- `QOSM_TransChannelReleaseRspCbk` -/
def releaseRspCbk (fate : Fate) (channel : DynChannel) (result : UInt8) :
    Tables :=
  let released := result = rspSuccess ∨ result = rspTimeout
  let rsp : TransChannelRspParams :=
    { transMode := 0
      tcid := channel.localTcid
      lcid := channel.lcid
      srcPort := channel.params.config.srcPort
      dstPort := channel.params.config.dstPort
      mtu := 0
      slqi := 0
      status := if released then .released else .releaseFail
      frameType := channel.params.frameType }
  let listed :=
    if released then
      match tables.transChannelDel channel.lcid rsp with
      | (deleted, true) =>
        if rsp.frameType ≠ radioFrameType4 then
          deleted.updateConnParams channel.lcid fate.updated
        else deleted
      | (failed, false) => failed
    else tables
  listed.note (.status rsp)

/-- `QOSM_TransChannStatusIndicationCbk`; the frame type of its report is never
set. -/
def statusIndicationCbk (fate : Fate) (channel : DynChannel) (result : UInt8) : Tables :=
  let rsp (status : ChannelStatus) : TransChannelRspParams :=
    { transMode := channel.params.config.transMode
      tcid := channel.localTcid
      lcid := channel.lcid
      srcPort := channel.params.config.srcPort
      dstPort := channel.params.config.dstPort
      mtu := reportedMtu channel.params.config.mtu
      slqi := channel.params.slqi
      status
      frameType := 0 }
  if result = indicationNormal then
    let added :=
      (tables.transChannelAdd channel.lcid (rsp .established)
        fate.channelNode).1
    { added with
      number := added.number.increase channel.lcid fate.numNode }.note
        (.status (rsp .established))
  else if result = indicationDisconnected then
    let deleted := (tables.transChannelDel channel.lcid (rsp .released)).1
    { deleted with number := deleted.number.decrease channel.lcid }.note
      (.status (rsp .released))
  else tables

def answered (fate : Fate) (tables : Tables) : DeviceLog → Tables
  | .establishAccepted channel =>
    { tables with
      number := tables.number.increase channel.lcid fate.numNode }
  | .releaseAccepted channel =>
    { tables with number := tables.number.decrease channel.lcid }
  | .establishRsp channel result => tables.establishRspCbk fate channel result
  | .releaseRsp channel result => tables.releaseRspCbk fate channel result
  | .statusIndication channel _ result =>
    tables.statusIndicationCbk fate channel result
  | _ => tables

end Tables

structure System where
  device : Device
  tables : Tables

/-- What happens to the system, with what becomes of the calls that the
connection manager makes. -/
inductive Input where
  /-- `QOSM_TransChannelCreateCbk`, with the answer of
  `CM_GetLogicLinkCapInfo`. -/
  | create (params : TransChannelParams) (cap : Option CapInfo)
      (nodeAllocated : Bool) (fate : RequestFate)
  /-- `QOSM_TransChannelDestroyCbk` -/
  | destroy (lcid tcid : Nat) (fate : RequestFate)
  | linkUp (lcid : Nat) (allocated : Bool)
  | linkDown (lcid : Nat) (allocated : Bool)
  | recv (lcid : Nat) (message : ChanSignal) (fate : RecvFate)
  | expire (id : UInt8)

structure Event where
  input : Input
  fate : Fate := {}

namespace System

def answers (device : Device) (event : DeviceEvent) : List DeviceLog :=
  (device.step event).log.drop device.log.length

/-- The request that `QOSM_TransChannelCreateCbk` makes. -/
def establishReq (params : TransChannelParams) (config : ChannelConfig) :
    EstablishReq :=
  { lcid := params.lcid
    expectedTransportMode := 0
    params :=
      { version := 0
        localIndex := 0
        slqi := params.slqi
        aid := 0
        frameType := params.frameType
        config } }

/-- What comes to the connection manager.  The requests for a link that is
down, of too many channels or with an unknown configuration do not. -/
def forwarded (system : System) : Input → Option DeviceEvent
  | .create params cap nodeAllocated fate =>
    if system.tables.number.exceedsMaxSize then none
    else if params.lcid ∈ system.device.links then
      (modeConfigSet params cap).map fun config =>
        .establish (establishReq params config) nodeAllocated fate
    else none
  | .destroy lcid tcid fate =>
    if system.tables.number.isEmpty then none
    else if lcid ∈ system.device.links then some (.release lcid tcid fate)
    else none
  | .linkUp lcid allocated => some (.linkUp lcid allocated)
  | .linkDown lcid allocated => some (.linkDown lcid allocated)
  | .recv lcid message fate => some (.recv lcid message fate)
  | .expire id => some (.expire id)

/-- The report that a request came to nothing.  Where no channel is counted, the
source reads the parameters of the request to destroy before it sets them. -/
def refusal : Input → List QosmLog
  | .create params _ _ _ =>
    [.status
      { transMode := 0
        tcid := 0
        lcid := 0
        srcPort := params.srcPort
        dstPort := params.dstPort
        mtu := 0
        slqi := params.slqi
        status := .establishFail
        frameType := 0 }]
  | .destroy lcid tcid _ => [.releaseFailed lcid tcid]
  | _ => []

def unaccepted (answers : List DeviceLog) : Bool :=
  answers.all fun
    | .establishAccepted _ => false
    | .releaseAccepted _ => false
    | _ => true

/-- The listener of the QoS manager runs before that of the dynamic channels
when a link goes down, and after it when a link comes up. -/
def beforeDevice (tables : Tables) : DeviceEvent → Tables
  | .linkDown lcid _ => tables.logicLinkDel lcid
  | _ => tables

def afterDevice (tables : Tables) (fate : Fate) : DeviceEvent → Tables
  | .linkUp lcid _ => tables.logicLinkAdd lcid fate.linkNode
  | _ => tables

def handled (system : System) (fate : Fate) (event : DeviceEvent) : Tables :=
  afterDevice ((answers system.device event).foldl (Tables.answered fate)
      (beforeDevice system.tables event)) fate event

def report (entries : List QosmLog) (tables : Tables) : Tables :=
  { tables with log := tables.log ++ entries }

def step (system : System) (event : Event) : System :=
  match system.forwarded event.input with
  | none => { system with tables := report (refusal event.input) system.tables }
  | some deviceEvent =>
    let tables := system.handled event.fate deviceEvent
    { device := system.device.step deviceEvent
      tables :=
        if unaccepted (answers system.device deviceEvent) then
          report (refusal event.input) tables
        else tables }

def init (identifier : UInt8) : System :=
  { device := Device.init identifier, tables := {} }

end System

end NearLink.Qosm
