import NearLink.Keyed
import NearLink.Transition
import Mathlib.Data.BitVec

/-!
# Concurrent connections

Modules ask for direct connections, which end with a timer, and background
connections, which do not.  All devices asked for are kept in one table, and
the allow list of the controller is programmed from it.  The model starts
after `CM_ConcurrentConnInit`.

Every task runs alone on the schedule thread.  What the allocator, the timer
service and the layers below answer during a task is part of its event.  The
reports and commands of the state are those of the last task.
-/

namespace NearLink.Cm

open Keyed Transition

/-- `SLE_Addr_S`, the six bytes of the address as one number. -/
structure SleAddr where
  type : UInt8
  addr : BitVec 48
  deriving DecidableEq

namespace SleAddr

/-- The address that `CM_IsEmptyAddr` looks for. -/
def empty : SleAddr := ⟨0, 0⟩

def checkAndFixAddrType (addr : SleAddr) : SleAddr :=
  if addr.type ≠ 0 ∧ addr.type ≠ 4 then { addr with type := 0 } else addr

end SleAddr

inductive LinkState where
  | connected
  | connecting
  | disconnected
  | disconnecting
  deriving DecidableEq

/-- What is read of a `SleLogicLink_S`. -/
structure LinkInfo where
  status : LinkState
  lcid : UInt16

/-- `CM_DoingBgConnNode_S` -/
structure BgConn where
  moduleId : UInt8
  isBypass : Bool

/-- An entry of `doingDirectConnMap`: the module and its
`CM_DoingDirectConnAlarm_S`, with the address of its
`CM_DirectConnTimoutArgs_S`. -/
structure DirectConn where
  moduleId : UInt8
  addr : SleAddr
  timerId : Nat
  frameType : UInt8
  deriving DecidableEq

/-- An entry of `g_cmConnectingDevMap`: the address and its
`CM_AppConnectingDev_S`.  The serial number stands for the pointer to it. -/
structure ConnectingDev where
  serial : Nat
  addr : SleAddr
  moduleId : UInt8
  doingBgConnSet : List BgConn
  doingDirectConnMap : Option (List DirectConn)
  sizeDoingDirect : Nat

/-- A running timer with the `CM_DirectConnTimoutArgs_S` of its alarm. -/
structure ConnTimer where
  id : Nat
  moduleId : UInt8
  addr : SleAddr

/-- `CM_LogicLinkState_S` as passed to the callback of one module. -/
structure LinkReport where
  moduleId : UInt8
  lcid : UInt16
  addr : SleAddr
  result : LinkState
  discReason : UInt8

inductive ConnCommand where
  | connectCancel
  | clearAcceptFilterList
  | addDeviceToAcceptFilterList (addr : SleAddr) (isBypass : Bool)
  | connectSetParam (scanInterval scanWindow : UInt16) (bitFrameType : UInt8)
  | connectEstablish
  | connectRelease (addr : SleAddr) (discReason : UInt8)
  | startLinkCollab (initiateType : UInt8) (directConnAddr : Option SleAddr)
  | notifyLinkCollabResult

/-- The state of `cm_concurrent_conn.c` and the timers it has running. -/
structure ConnTable where
  devices : List ConnectingDev
  sizeConnectingDev : Nat
  timers : List ConnTimer
  nextSerial : Nat
  reports : List LinkReport
  commands : List ConnCommand

/-- `CM_BgConnAddrParam_S` -/
structure BgConnAddr where
  addr : SleAddr
  isBypass : Bool
  deriving DecidableEq

/-- What the allocator, the timer service and the layers below answer during
one task.  Allocations and additions in a loop are told apart by its index. -/
structure Lower where
  /-- `SleLogicLinkGetByAddr` -/
  link : SleAddr → Option LinkInfo
  taskMem : Bool
  nodeMem : Nat → Bool
  bgMem : Nat → Bool
  directMapMem : Bool
  keyMem : Bool
  argsMem : Bool
  alarmMem : Bool
  cellMem : Bool
  /-- The descriptor of the timer, unless `SDF_TimerAdd` fails. -/
  timer : Option Nat
  /-- `CM_ConnectCancelReq` -/
  cancel : Bool
  /-- `CM_IsNeedLinkCollabReq` -/
  needCollab : Bool
  /-- `CM_StartLinkCollabReq` -/
  collab : Bool
  /-- `CM_AddDeviceToAcceptFilterList` -/
  filter : Nat → Bool
  /-- `CM_ConnectEstablishReq` -/
  establish : Bool
  /-- `CM_ConnectReleaseReq` -/
  release : Bool

def Lower.connected (lower : Lower) (addr : SleAddr) : Bool :=
  (lower.link addr).any fun link => link.status == .connected

def moduleAdpt : UInt8 := 0x0
def moduleSsap : UInt8 := 0x4
def moduleBnl : UInt8 := 0x8

def invalidLcid : UInt16 := 0xFFFF

def dliSuccess : UInt8 := 0x00
def dliUnknownConnectionIdentifier : UInt8 := 0x02
def dliMemoryCapacityExceeded : UInt8 := 0x06
def dliConnectionTimeout : UInt8 := 0x07
def dliInvalidParameters : UInt8 := 0x0F

def maxConnectingDevNum : Nat := 1024

def bgConnMaxAddrSize : Nat := 16

namespace ConnectingDev

def direct (dev : ConnectingDev) : List DirectConn :=
  dev.doingDirectConnMap.getD []

/-- `SDF_MapFind` in the map of direct connections. -/
def directFind (dev : ConnectingDev) (moduleId : UInt8) :
    Option DirectConn :=
  lookup DirectConn.moduleId moduleId dev.direct

def doingConnBgFind (dev : ConnectingDev) (moduleId : UInt8) :
    Option BgConn :=
  lookup BgConn.moduleId moduleId dev.doingBgConnSet

def isDirectDoing (dev : ConnectingDev) : Bool :=
  dev.doingDirectConnMap.isSome && dev.sizeDoingDirect != 0

def destroyDoingDirectConnMap (dev : ConnectingDev) : ConnectingDev :=
  if dev.sizeDoingDirect = 0 then { dev with doingDirectConnMap := none }
  else dev

/-- What `CM_EraseDoingDirectConnMap` does to the node. -/
def eraseDirect (dev : ConnectingDev) (moduleId : UInt8) : ConnectingDev :=
  match dev.directFind moduleId with
  | some _ =>
    { dev with
      doingDirectConnMap :=
        some (remove DirectConn.moduleId moduleId dev.direct)
      sizeDoingDirect := dev.sizeDoingDirect - 1 }.destroyDoingDirectConnMap
  | none => dev.destroyDoingDirectConnMap

/-- The map of direct connections as `CM_DirectConnectDoingConnList` creates
it where there is none. -/
def createDoingDirectConnMap (dev : ConnectingDev) : ConnectingDev :=
  match dev.doingDirectConnMap with
  | some _ => dev
  | none => { dev with doingDirectConnMap := some [], sizeDoingDirect := 0 }

def isBypass (dev : ConnectingDev) : Bool :=
  ! dev.isDirectDoing && ! dev.doingBgConnSet.isEmpty &&
    dev.doingBgConnSet.all BgConn.isBypass

def calcAddrBitFrameType (dev : ConnectingDev) : UInt8 :=
  let background : UInt8 := if dev.doingBgConnSet.isEmpty then 0 else 0x01
  if dev.isDirectDoing then
    dev.direct.foldl (fun bits conn =>
      if conn.frameType = 0 then bits ||| 0x01
      else if conn.frameType = 3 then bits ||| 0x02
      else bits) background
  else background

end ConnectingDev

namespace ConnTable

/-- The state after `CM_ConcurrentConnInit`. -/
def init : ConnTable := ⟨[], 0, [], 0, [], []⟩

def connectingDevFind (table : ConnTable) (addr : SleAddr) :
    Option ConnectingDev :=
  lookup ConnectingDev.addr addr table.devices

def devAt (table : ConnTable) (serial : Nat) : Option ConnectingDev :=
  lookup ConnectingDev.serial serial table.devices

def put (table : ConnTable) (dev : ConnectingDev) : ConnTable :=
  { table with
    devices :=
      modify ConnectingDev.serial dev.serial (fun _ => dev) table.devices }

/-- `CP_TimerDel`: the handles of running timers are distinct. -/
def timerDel (table : ConnTable) (handle : Nat) : ConnTable :=
  { table with
    timers := table.timers.filter fun timer => timer.id != handle }

/-- `CP_TimerAdd`: the descriptor is positive, and `SDF_EvcListenEvent`
refuses one that is listened to already. -/
def timerAdd (table : ConnTable) (handle : Option Nat) (moduleId : UInt8)
    (addr : SleAddr) : Option (Nat × ConnTable) :=
  match handle with
  | none => none
  | some id =>
    if id = 0 ∨ id ∈ table.timers.map ConnTimer.id then none
    else some (id, { table with
      timers := table.timers ++ [⟨id, moduleId, addr⟩] })

/-- `SDF_MapErase` of the table with `CM_AppModuleConnectingMapDtor`, which
deletes the timers of the node, and the count of the nodes. -/
def eraseConnectingDev (table : ConnTable) (addr : SleAddr) : ConnTable :=
  match table.connectingDevFind addr with
  | some dev =>
    { table with
      devices := remove ConnectingDev.addr addr table.devices
      sizeConnectingDev := table.sizeConnectingDev - 1
      timers := table.timers.filter fun timer =>
        ! (dev.direct.map DirectConn.timerId).contains timer.id }
  | none => table

/-- `CM_EraseDoingDirectConnMap`, with the destructor of the entry. -/
def eraseDoingDirectConnMap (table : ConnTable) (dev : ConnectingDev)
    (moduleId : UInt8) : ConnTable :=
  let erased := table.put (dev.eraseDirect moduleId)
  match dev.directFind moduleId with
  | some conn => erased.timerDel conn.timerId
  | none => erased

def tryDestroyConnectingDevEmptyNode (table : ConnTable)
    (dev : ConnectingDev) (addr : SleAddr) : ConnTable :=
  if dev.doingBgConnSet.isEmpty ∧ dev.sizeDoingDirect = 0 then
    table.eraseConnectingDev addr
  else table

/-- `CM_CreateAppModuleConnectingDev`, with the node it returns. -/
def createAppModuleConnectingDev (table : ConnTable) (mem : Bool)
    (addr : SleAddr) : Option (ConnTable × ConnectingDev) :=
  match table.connectingDevFind addr with
  | some dev => some (table, dev)
  | none =>
    if mem then
      let dev : ConnectingDev := ⟨table.nextSerial, addr, 0, [], none, 0⟩
      some ({ table with
        devices := dev :: table.devices
        sizeConnectingDev := table.sizeConnectingDev + 1
        nextSerial := table.nextSerial + 1 }, dev)
    else none

def destroyConnectingDevMap (table : ConnTable) (addrs : List SleAddr) :
    ConnTable :=
  addrs.foldl eraseConnectingDev table

def report (table : ConnTable) (sent : LinkReport) : ConnTable :=
  { table with reports := table.reports ++ [sent] }

def command (table : ConnTable) (sent : ConnCommand) : ConnTable :=
  { table with commands := table.commands ++ [sent] }

/-- `CM_NotifyDirectConnectFailed` for an invalid lcid. -/
def notifyDirectConnectFailed (table : ConnTable) (moduleId : UInt8)
    (addr : SleAddr) (discReason : UInt8) : ConnTable :=
  table.report ⟨moduleId, invalidLcid, addr, .disconnected, discReason⟩

def notifyConnecting (table : ConnTable) (moduleId : UInt8) (addr : SleAddr) : ConnTable :=
  table.report ⟨moduleId, invalidLcid, addr, .connecting, 0⟩

def notifyDisconnecting (table : ConnTable) (moduleId : UInt8)
    (lcid : UInt16) (addr : SleAddr) : ConnTable :=
  table.report ⟨moduleId, lcid, addr, .disconnecting, 0⟩

def notifyConnFailed (table : ConnTable) : ConnTable :=
  table.devices.foldl (fun current dev =>
    if dev.isDirectDoing then
      current.notifyDirectConnectFailed dev.moduleId dev.addr
        dliMemoryCapacityExceeded
    else current) table

/-- The loop of `CM_SetConnectParamAndResetAllowList`.  The address handed to
`CM_AddDeviceToAcceptFilterList` is the key of the map itself, so that a type
which is not supported is replaced in the table. -/
def resetAllowList (filter : Nat → Bool) :
    Nat → List ConnectingDev → List ConnectingDev × List ConnCommand × Bool
  | _, [] => ([], [], true)
  | index, dev :: devs =>
    let fixed := { dev with addr := dev.addr.checkAndFixAddrType }
    let added :=
      ConnCommand.addDeviceToAcceptFilterList fixed.addr dev.isBypass
    if filter index then
      let rest := resetAllowList filter (index + 1) devs
      (fixed :: rest.1, added :: rest.2.1, rest.2.2)
    else (fixed :: devs, [added], false)

def connectSetAllowListParam (table : ConnTable) (isDirectDoing : Bool)
    (bitFrameType : UInt8) : ConnTable :=
  if isDirectDoing then
    table.command (.connectSetParam 0x1E0 0xF0 bitFrameType)
  else table.command (.connectSetParam 0x960 0x190 bitFrameType)

def setConnectParamAndResetAllowList (table : ConnTable) (lower : Lower) :
    ConnTable × Bool :=
  if table.devices.isEmpty then (table, true)
  else
    let reset := resetAllowList lower.filter 0 table.devices
    let programmed := { table with
      devices := reset.1
      commands := table.commands ++ .clearAcceptFilterList :: reset.2.1 }
    if reset.2.2 then
      (programmed.connectSetAllowListParam
        (table.devices.any ConnectingDev.isDirectDoing)
        (table.devices.foldl (fun bits dev =>
          bits ||| dev.calcAddrBitFrameType) 0), true)
    else (programmed, false)

def startAllowListConnReqInner (table : ConnTable) (lower : Lower) :
    ConnTable × Bool :=
  (table.command .connectEstablish, lower.establish)

def getInitiateConnDevStatus (table : ConnTable) : UInt8 :=
  table.devices.foldl (fun type dev =>
    (if dev.isDirectDoing then type ||| 0x01 else type) |||
      (if dev.doingBgConnSet.isEmpty then 0 else 0x10)) 0

def startAllowListConnReq (table : ConnTable) (lower : Lower)
    (directConnAddr : Option SleAddr) : ConnTable × Bool :=
  if ! table.devices.isEmpty && lower.needCollab then
    (table.command (.startLinkCollab table.getInitiateConnDevStatus
      directConnAddr), lower.collab)
  else
    let programmed := table.setConnectParamAndResetAllowList lower
    if programmed.2 then
      if programmed.1.sizeConnectingDev = 0 then (programmed.1, true)
      else programmed.1.startAllowListConnReqInner lower
    else (programmed.1, false)

/-- `CM_ConcurrentConnNotifyLinkCollabResult` -/
def notifyLinkCollabResult (table : ConnTable) (lower : Lower) : ConnTable :=
  if lower.needCollab && table.devices.isEmpty then
    table.command .notifyLinkCollabResult
  else table

def collabStartConnReq (table : ConnTable) (lower : Lower) : ConnTable :=
  if table.devices.isEmpty then table.notifyLinkCollabResult lower
  else
    let programmed := table.setConnectParamAndResetAllowList lower
    if programmed.2 then (programmed.1.startAllowListConnReqInner lower).1
    else programmed.1

def currentConnCancelReq (table : ConnTable) : ConnTable :=
  table.command .connectCancel

/-- What follows the cancel in `CM_StartRmvAllowListConnReq` and
`CM_DirectConnTimeoutCbkInner`. -/
def startRemaining (table : ConnTable) (lower : Lower) : ConnTable × Bool :=
  if table.devices.isEmpty then (table.notifyLinkCollabResult lower, true)
  else table.startAllowListConnReq lower none

def startRmvAllowListConnReq (table : ConnTable) (lower : Lower) :
    ConnTable × Bool :=
  let cancelled := table.currentConnCancelReq
  if lower.cancel then cancelled.startRemaining lower else (cancelled, false)

def restartAllowListConnReq (table : ConnTable) (lower : Lower)
    (isNeedDoCancelBeforeConnect : Bool) : ConnTable × Bool :=
  if isNeedDoCancelBeforeConnect then
    let cancelled := table.currentConnCancelReq
    if lower.cancel then cancelled.startAllowListConnReq lower none
    else (cancelled, false)
  else table.startAllowListConnReq lower none

/-- `CM_DirectDoingConnRestartTimer` for the entry of a module.  The entry
keeps the old handle where no timer can be added. -/
def restartTimer (table : ConnTable) (lower : Lower) (dev : ConnectingDev)
    (conn : DirectConn) : ConnTable × Bool :=
  let deleted := table.timerDel conn.timerId
  match deleted.timerAdd lower.timer conn.moduleId conn.addr with
  | none => (deleted, false)
  | some (id, added) =>
    (added.put { dev with
      doingDirectConnMap := some (modify DirectConn.moduleId conn.moduleId
        (fun old => { old with timerId := id }) dev.direct) }, true)

/-- `CM_DoingConnDirectAfterInsertFailProc`: the node is reached through the
pointer, and taken out of the table by the address. -/
def doingConnDirectAfterInsertFailProc (table : ConnTable) (serial : Nat)
    (moduleId : UInt8) (addr : SleAddr) : ConnTable :=
  match table.devAt serial with
  | none => table
  | some dev =>
    (table.eraseDoingDirectConnMap dev moduleId)
      |>.tryDestroyConnectingDevEmptyNode (dev.eraseDirect moduleId) addr

/-- `CM_DoingConnDirectInsert`.  The table is not empty, as it holds the
node, so the running connection is always cancelled. -/
def doingConnDirectInsert (table : ConnTable) (lower : Lower)
    (dev : ConnectingDev) (moduleId : UInt8) (addr : SleAddr)
    (frameType : UInt8) : ConnTable × Bool :=
  if ! (lower.keyMem && lower.argsMem && lower.alarmMem) then (table, false)
  else
    match table.timerAdd lower.timer moduleId addr with
    | none => (table, false)
    | some (id, added) =>
      let cancelled := added.currentConnCancelReq
      if ! (lower.cancel && lower.cellMem) then
        -- `CM_DoingConnDirectInsertFailProc`
        (cancelled.timerDel id, false)
      else
        let inserted := cancelled.put { dev with
          doingDirectConnMap := some (⟨moduleId, addr, id, frameType⟩ ::
            dev.direct)
          sizeDoingDirect := dev.sizeDoingDirect + 1 }
        let started := inserted.startAllowListConnReq lower (some addr)
        if started.2 then (started.1, true)
        else
          (started.1.doingConnDirectAfterInsertFailProc dev.serial moduleId
            addr, false)

/-- The part of `CM_DirectConnectDoingConnList` after the map of direct
connections is there. -/
def directConnectDoing (table : ConnTable) (lower : Lower)
    (dev : ConnectingDev) (moduleId : UInt8) (addr : SleAddr)
    (frameType : UInt8) : ConnTable × Bool :=
  match if dev.sizeDoingDirect ≠ 0 then dev.directFind moduleId else none with
  | some conn =>
    let restarted := table.restartTimer lower dev conn
    if restarted.2 then (restarted.1.notifyConnecting moduleId addr, true)
    else restarted
  | none =>
    let notified :=
      if dev.doingBgConnSet.isEmpty then table
      else table.notifyConnecting moduleId addr
    notified.doingConnDirectInsert lower dev moduleId addr frameType

def directConnectDoingConnList (table : ConnTable) (lower : Lower)
    (moduleId : UInt8) (addr : SleAddr) (frameType : UInt8) :
    ConnTable × Bool :=
  match table.createAppModuleConnectingDev (lower.nodeMem 0) addr with
  | none => (table, false)
  | some (created, found) =>
    let dev := { found with moduleId := moduleId }
    if dev.doingDirectConnMap.isNone && ! lower.directMapMem then
      (created.put dev, false)
    else
      let mapped := dev.createDoingDirectConnMap
      (created.put mapped).directConnectDoing lower mapped moduleId addr
        frameType

def directConnectAddInner (table : ConnTable) (lower : Lower)
    (moduleId : UInt8) (addr : SleAddr) (frameType : UInt8) : ConnTable :=
  if maxConnectingDevNum < table.sizeConnectingDev then table
  else if lower.connected addr then table
  else
    let done := table.directConnectDoingConnList lower moduleId addr frameType
    if done.2 then done.1
    else
      (done.1.notifyDirectConnectFailed moduleId addr
        dliMemoryCapacityExceeded).destroyConnectingDevMap [addr]

/-- The removal of the entry in `CM_DirectConnTimeoutCbkInner`. -/
def directConnExpire (table : ConnTable) (moduleId : UInt8) (addr : SleAddr) : ConnTable :=
  match table.connectingDevFind addr with
  | none => table
  | some dev =>
    (table.eraseDoingDirectConnMap dev moduleId)
      |>.tryDestroyConnectingDevEmptyNode (dev.eraseDirect moduleId) addr

def directConnTimeoutCbkInner (table : ConnTable) (lower : Lower)
    (moduleId : UInt8) (addr : SleAddr) : ConnTable :=
  let expired := (table.directConnExpire moduleId addr).currentConnCancelReq
  if lower.cancel then
    let started := expired.startRemaining lower
    if started.2 then
      started.1.notifyDirectConnectFailed moduleId addr dliConnectionTimeout
    else started.1
  else expired

/-- `TimerProc` for the handle of an event. -/
def timerProc (table : ConnTable) (lower : Lower) (handle : Nat) :
    ConnTable :=
  match lookup ConnTimer.id handle table.timers with
  | none => table
  | some timer =>
    (table.directConnTimeoutCbkInner lower timer.moduleId timer.addr)
      |>.timerDel handle

def doingConnDirectRemove (table : ConnTable) (lower : Lower)
    (moduleId : UInt8) (addr : SleAddr) : ConnTable :=
  match table.connectingDevFind addr with
  | none =>
    table.notifyDirectConnectFailed moduleId addr dliUnknownConnectionIdentifier
  | some dev =>
    let direct := dev.direct.foldl (fun current conn =>
      current.notifyDirectConnectFailed conn.moduleId addr dliSuccess) table
    let notified := dev.doingBgConnSet.foldl (fun current conn =>
      current.notifyDirectConnectFailed conn.moduleId addr dliSuccess) direct
    ((notified.eraseConnectingDev addr).startRmvAllowListConnReq lower).1

def directConnectRmvInner (table : ConnTable) (lower : Lower)
    (moduleId : UInt8) (addr : SleAddr) (discReason : UInt8) : ConnTable :=
  match lower.link addr with
  | none => table.doingConnDirectRemove lower moduleId addr
  | some link =>
    match link.status with
    | .connected =>
      let released := table.command (.connectRelease addr discReason)
      if lower.release then released
      else
        released.notifyDirectConnectFailed moduleId addr dliInvalidParameters
    | .disconnecting => table.notifyDisconnecting moduleId link.lcid addr
    | _ => table.doingConnDirectRemove lower moduleId addr

/-- The rest of the loop of `CM_BgConnectAddDoingConnBgList` for an address
that the module has no background connection to, so that the search of
`CM_DoingConnBgInsert` finds nothing. -/
def bgConnectInsert (table : ConnTable) (lower : Lower) (moduleId : UInt8)
    (index : Nat) (bgAddr : BgConnAddr) : ConnTable × Nat × Bool :=
  if lower.connected bgAddr.addr then (table, 0, true)
  else
    match table.createAppModuleConnectingDev (lower.nodeMem index)
      bgAddr.addr with
    | none => (table, 0, false)
    | some (created, dev) =>
      if lower.bgMem index then
        (created.put { dev with
          moduleId := moduleId
          doingBgConnSet := dev.doingBgConnSet ++
            [⟨moduleId, bgAddr.isBypass⟩] }, 1, true)
      else (created.put { dev with moduleId := moduleId }, 0, false)

/-- One address in the loop of `CM_BgConnectAddDoingConnBgList`, with the
change of `changeCount` and the result. -/
def bgConnectAddOne (table : ConnTable) (lower : Lower) (moduleId : UInt8)
    (index : Nat) (bgAddr : BgConnAddr) : ConnTable × Nat × Bool :=
  if bgAddr.addr = SleAddr.empty then (table, 0, true)
  else
    match table.connectingDevFind bgAddr.addr with
    | none => table.bgConnectInsert lower moduleId index bgAddr
    | some dev =>
      match dev.doingConnBgFind moduleId with
      | some _ =>
        ((table.put { dev with
          doingBgConnSet := modify BgConn.moduleId moduleId
            (fun old => { old with isBypass := bgAddr.isBypass })
            dev.doingBgConnSet }).notifyConnecting moduleId bgAddr.addr,
          1, true)
      | none =>
        (table.notifyConnecting moduleId bgAddr.addr).bgConnectInsert
          lower moduleId index bgAddr

/-- `CM_BgConnectAddDoingConnBgList`, with the final `changeCount`. -/
def bgConnectAddDoingConnBgList (lower : Lower) (moduleId : UInt8) :
    Nat → List BgConnAddr → ConnTable → ConnTable × Nat × Bool
  | _, [], table => (table, 0, true)
  | index, bgAddr :: bgAddrs, table =>
    let one := table.bgConnectAddOne lower moduleId index bgAddr
    if one.2.2 then
      let rest := bgConnectAddDoingConnBgList lower moduleId (index + 1)
        bgAddrs one.1
      (rest.1, one.2.1 + rest.2.1, rest.2.2)
    else one

/-- What `CM_BgConnectAddInner` does before it destroys nodes on failure. -/
def bgConnectAddAll (table : ConnTable) (lower : Lower) (moduleId : UInt8)
    (bgAddrs : List BgConnAddr) : ConnTable × Bool :=
  let listed := bgConnectAddDoingConnBgList lower moduleId 0 bgAddrs table
  if ! listed.2.2 then (listed.1, false)
  else if listed.2.1 = 0 then (listed.1, true)
  else listed.1.restartAllowListConnReq lower (! table.devices.isEmpty)

def bgConnectAddInner (table : ConnTable) (lower : Lower) (moduleId : UInt8)
    (bgAddrs : List BgConnAddr) : ConnTable :=
  if maxConnectingDevNum < table.sizeConnectingDev then table
  else if ! lower.taskMem then table
  else
    let done := table.bgConnectAddAll lower moduleId bgAddrs
    if done.2 then done.1
    else done.1.destroyConnectingDevMap (bgAddrs.map BgConnAddr.addr)

/-- `CM_DoingConnBgRemove` and the search of `CM_DoingConnBgClear`. -/
def doingConnBgRemove (table : ConnTable) (moduleId : UInt8)
    (dev : ConnectingDev) : ConnTable :=
  let removed := { dev with
    doingBgConnSet :=
      remove BgConn.moduleId moduleId dev.doingBgConnSet }
  (table.put removed).tryDestroyConnectingDevEmptyNode removed dev.addr

def bgConnectRmvInner (table : ConnTable) (lower : Lower) (moduleId : UInt8)
    (addr : SleAddr) : ConnTable :=
  if ! lower.taskMem then table
  else
    match table.connectingDevFind addr with
    | none => table
    | some dev =>
      match dev.doingConnBgFind moduleId with
      | none => table
      | some _ =>
        ((table.doingConnBgRemove moduleId dev).startRmvAllowListConnReq
          lower).1

/-- `CM_DoingConnBgClear`: the loop keeps a pointer to the next node. -/
def doingConnBgClear (table : ConnTable) (moduleId : UInt8) : ConnTable :=
  (table.devices.map ConnectingDev.serial).foldl (fun current serial =>
    match current.devAt serial with
    | none => current
    | some dev => current.doingConnBgRemove moduleId dev) table

def bgConnectClearInner (table : ConnTable) (lower : Lower) (moduleId : UInt8) : ConnTable :=
  ((table.doingConnBgClear moduleId).startRmvAllowListConnReq lower).1

def concurrentConnDoingComplete (table : ConnTable) (lower : Lower)
    (addr : SleAddr) (connectResult : LinkState) : ConnTable :=
  let erased :=
    if connectResult = .connected then table.eraseConnectingDev addr
    else table
  if erased.devices.isEmpty then erased
  else (erased.startAllowListConnReq lower none).1

end ConnTable

inductive ConnEvent where
  | directConnectAdd (moduleId : UInt8) (addr : SleAddr) (frameType : UInt8)
  | directConnectRemove (moduleId : UInt8) (addr : SleAddr) (discReason : UInt8)
  | backgroundConnectAdd (moduleId : UInt8) (bgAddrs : List BgConnAddr)
  | backgroundConnectRemove (moduleId : UInt8) (addr : SleAddr)
  | backgroundConnectClear (moduleId : UInt8)
  | timer (handle : Nat)
  | doingComplete (addr : SleAddr) (connectResult : LinkState)
  | collabStart
  | collabFailed
  deriving DecidableEq

/-- The checks of the API functions before a task is posted. -/
def ConnEvent.accepted : ConnEvent → Bool
  | directConnectAdd moduleId addr frameType =>
    [moduleAdpt, moduleSsap, moduleBnl].contains moduleId &&
      [0, 3].contains frameType && addr != SleAddr.empty
  | directConnectRemove moduleId _ discReason =>
    [moduleAdpt, moduleSsap, moduleBnl].contains moduleId &&
      [0x0D, 0x10, 0x21].contains discReason
  | backgroundConnectAdd moduleId bgAddrs =>
    moduleId == moduleAdpt && 0 < bgAddrs.length &&
      bgAddrs.length ≤ bgConnMaxAddrSize
  | backgroundConnectRemove moduleId addr =>
    moduleId == moduleAdpt && addr != SleAddr.empty
  | backgroundConnectClear moduleId => moduleId == moduleAdpt
  | timer _ => true
  | doingComplete _ _ => true
  | collabStart => true
  | collabFailed => true

namespace ConnTable

def handle (table : ConnTable) (lower : Lower) : ConnEvent → ConnTable
  | .directConnectAdd moduleId addr frameType =>
    table.directConnectAddInner lower moduleId addr frameType
  | .directConnectRemove moduleId addr discReason =>
    table.directConnectRmvInner lower moduleId addr discReason
  | .backgroundConnectAdd moduleId bgAddrs =>
    table.bgConnectAddInner lower moduleId bgAddrs
  | .backgroundConnectRemove moduleId addr =>
    table.bgConnectRmvInner lower moduleId addr
  | .backgroundConnectClear moduleId => table.bgConnectClearInner lower moduleId
  | .timer handle => table.timerProc lower handle
  | .doingComplete addr connectResult =>
    table.concurrentConnDoingComplete lower addr connectResult
  | .collabStart => table.collabStartConnReq lower
  | .collabFailed => table.notifyConnFailed

def begin (table : ConnTable) : ConnTable :=
  { table with reports := [], commands := [] }

def step (table : ConnTable) (event : ConnEvent × Lower) : ConnTable :=
  if event.1.accepted then table.begin.handle event.2 event.1
  else table.begin

end ConnTable

end NearLink.Cm
