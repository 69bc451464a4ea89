import NearLink.Cm.ConcurrentConn

/-!
# The table of logic links

`sle_logic_link_mgr.c` keeps one node for each peer.  Requests of the user,
the answers of the controller and the steps that follow a connection change the
nodes; a lookup by address, by handle or by status returns the first match.

The connections that the controller has reported and not yet closed, and the
disconnect commands that it has taken, are kept beside the table.  They are
written by the step function and read by no function of the code.  The reports
and commands of the state are those of the last task.  A call of
`CM_ConcurrentConnDoingComplete` that asks for the next connection is an
event of its own.
-/

namespace NearLink.Cm

open Keyed Transition

def dliCommandDisallowed : UInt8 := 0x0B

/-- `CM_CONN_COMPLETE_SCAN` and `CM_CONN_COMPLETE_ADV` -/
def connCompleteScan : UInt8 := 0

def connCompleteAdv : UInt8 := 1

def gNode : UInt8 := 0

/-- `CM_DISC_REASON` -/
def discReasonCommandTimeout : UInt8 := 0x0D

def discReasonRemoteUserTerminated : UInt8 := 0x10

def discReasonCancelPair : UInt8 := 0x21

/-- `g_TransFixedChannels` with `CM_TCID_SLE_CMTC`, `CM_TCID_SLE_SMTC` and
`CM_TCID_SLE_CUTC` -/
def transFixedChannels : List UInt8 := [0x02, 0x0A, 0x1F]

structure SleLogicLink where
  rmtAddr : SleAddr
  lcid : UInt16
  status : LinkState
  role : UInt8
  connCompleteType : UInt8
  advHandle : UInt8

/-- `SleTransLcid_S` of a fixed channel. -/
structure FixedChannel where
  lcid : UInt16
  tcid : UInt8

structure LogicLinkState where
  lcid : UInt16
  role : UInt8
  addr : SleAddr
  result : LinkState
  discReason : UInt8
  connCompleteType : UInt8
  advHandle : UInt8

inductive DliCommand where
  | createConnection (addr : SleAddr)
  | cancelCreateConnection
  | disconnect (connHandle : UInt16) (reason : UInt8)
  | readRemoteVersion (connHandle : UInt16)

/-- What is read of `DLI_ConnectionCompleteEvt`. -/
structure ConnectionComplete where
  status : UInt8
  connHandle : UInt16
  role : UInt8
  peerAddress : SleAddr
  connCompleteType : UInt8
  advHandle : UInt8

/-- The nodes of `g_deviceLinkListHead` and of `g_fixedTransListHead`. -/
structure LinkTable where
  links : List SleLogicLink
  fixed : List FixedChannel
  live : List UInt16
  releasing : List UInt16
  reports : List LogicLinkState
  commands : List DliCommand

structure DliAnswer where
  nodeMem : Bool
  channelMem : UInt8 → Bool
  /-- The cell of the fixed channel in the vector of
  `CM_ReleaseFixedTransChannel`. -/
  vectorMem : UInt8 → Bool
  createConnection : Bool
  disconnect : Bool
  readRemoteVersion : Bool

inductive LinkTask where
  /-- `CM_ConnectEstablishReq` under the initiator filter policy of the
  moment. -/
  | establish (filterPolicy : UInt8) (addr : SleAddr)
  /-- `CM_ConnectCancelReq` -/
  | cancel
  /-- `CM_ConnectReleaseReq` -/
  | release (addr : SleAddr) (discReason : UInt8)
  /-- `SleAccessConnectCbk` with the status of the command. -/
  | connectCbk (status : UInt8) (evt : ConnectionComplete)
  /-- `SleAccessDisconnectCbk`, when the controller has closed the connection
  and when its command has failed. -/
  | disconnectCbk (closed : Bool) (connHandle : UInt16) (reason : UInt8)
  /-- `CM_SleConnectExpectionProc` and the other callbacks that give up a
  connection. -/
  | exception (lcid : UInt16)

namespace LinkTable

/-- The table after `SleLogicLinkInit` and `CM_TransChannelMgrInit`. -/
def init : LinkTable := ⟨[], [], [], [], [], []⟩

def getByAddr (table : LinkTable) (addr : SleAddr) : Option SleLogicLink :=
  lookup SleLogicLink.rmtAddr addr table.links

def getByLcid (table : LinkTable) (lcid : UInt16) : Option SleLogicLink :=
  lookup SleLogicLink.lcid lcid table.links

def getByStatus (table : LinkTable) (status : LinkState) :
    Option SleLogicLink :=
  lookup SleLogicLink.status status table.links

def start (table : LinkTable) : LinkTable :=
  { table with reports := [], commands := [] }

/-- `CM_NotifyLogicLinkCbks` -/
def notify (table : LinkTable) (report : LogicLinkState) : LinkTable :=
  { table with reports := table.reports ++ [report] }

def command (table : LinkTable) (issued : DliCommand) : LinkTable :=
  { table with commands := table.commands ++ [issued] }

/-- The node that `SleLogicLinkAdd` allocates. -/
def newNode (addr : SleAddr) : SleLogicLink where
  rmtAddr := addr
  lcid := invalidLcid
  status := .connected
  role := 0
  connCompleteType := 0
  advHandle := 0

/-- `CM_NotifyConnectionReqCanceled` and `CM_NotifyReleasingReqCanceled` -/
def notifyReqCanceled (table : LinkTable) (addr : SleAddr)
    (discReason : UInt8) : LinkTable :=
  table.notify ⟨invalidLcid, gNode, addr, .disconnected, discReason, 0, 0⟩

def notifyConnectionExisted (table : LinkTable) (link : SleLogicLink) :
    LinkTable :=
  table.notify ⟨link.lcid, link.role, link.rmtAddr, link.status, dliSuccess,
    link.connCompleteType, link.advHandle⟩

/-- The address that `CM_ConnectEstablishReq` asks for. -/
def establishAddr (filterPolicy : UInt8) (addr : SleAddr) : SleAddr :=
  if filterPolicy ≠ 0 then .empty else addr.checkAndFixAddrType

/-- `CM_ConnectEstablishReq` with `CM_EstablishLinkInit`.  A node whose
command is not taken leaves the list again. -/
def connectEstablishReq (table : LinkTable) (answer : DliAnswer)
    (filterPolicy : UInt8) (given : SleAddr) : LinkTable :=
  let addr := establishAddr filterPolicy given
  match table.getByAddr addr with
  | some link => table.notifyConnectionExisted link
  | none =>
    match table.getByStatus .connecting with
    | some _ => table.notifyReqCanceled addr dliCommandDisallowed
    | none =>
      if answer.nodeMem then
        let asked := table.command (.createConnection addr)
        if answer.createConnection then
          { asked with links := table.links ++ [{ newNode addr with
              status := .connecting
              connCompleteType := connCompleteScan }] }
        else asked.notifyReqCanceled addr dliInvalidParameters
      else table.notifyReqCanceled addr dliMemoryCapacityExceeded

/-- `CM_ConnectCancelReq`.  What the command answers is not looked at. -/
def connectCancelReq (table : LinkTable) : LinkTable :=
  match table.getByStatus .connecting with
  | none => table
  | some _ =>
    { table with
      links := remove SleLogicLink.status .connecting table.links }.command
        .cancelCreateConnection

/-- `SleAccessLinkReleaseReq` and whether it succeeds. -/
def accessLinkReleaseReq (table : LinkTable) (answer : DliAnswer)
    (lcid : UInt16) (discReason : UInt8) : LinkTable × Bool :=
  if lcid = invalidLcid then (table, false)
  else
    let asked := table.command (.disconnect lcid discReason)
    if answer.disconnect then
      ({ asked with releasing := lcid :: table.releasing }, true)
    else (asked, false)

/-- A reason that `CM_ConnectReleaseReq` takes. -/
def discReasonValid (discReason : UInt8) : Bool :=
  discReason == discReasonRemoteUserTerminated ||
    discReason == discReasonCancelPair ||
    discReason == discReasonCommandTimeout

def setStatus (table : LinkTable) (addr : SleAddr) (status : LinkState) :
    LinkTable :=
  { table with
    links := modify SleLogicLink.rmtAddr addr
      (fun link => { link with status := status }) table.links }

def connectReleaseReq (table : LinkTable) (answer : DliAnswer)
    (given : SleAddr) (discReason : UInt8) : LinkTable :=
  if discReasonValid discReason then
    let addr := given.checkAndFixAddrType
    match table.getByAddr addr with
    | none => table.notifyReqCanceled addr dliInvalidParameters
    | some link =>
      if link.status ≠ .connected then
        table.notifyReqCanceled addr dliCommandDisallowed
      else
        let asked := (table.setStatus addr .disconnecting)
          |>.accessLinkReleaseReq answer link.lcid discReason
        if asked.2 then asked.1
        else
          (asked.1.setStatus addr .connected).notifyReqCanceled addr
            dliInvalidParameters
  else table

def releaseFixedTransChannel (table : LinkTable) (answer : DliAnswer)
    (lcid : UInt16) : LinkTable :=
  { table with
    fixed := table.fixed.filter fun channel =>
      ! (channel.lcid == lcid && answer.vectorMem channel.tcid) }

/-- `CM_AllocTransChannel` once it has its node. -/
def addFixed (table : LinkTable) (lcid : UInt16) (tcid : UInt8) : LinkTable :=
  { table with fixed := table.fixed ++ [⟨lcid, tcid⟩] }

/-- The loop of `CM_ActivateFixedTransChannel`. -/
@[grind =] def allocFixed (table : LinkTable) (answer : DliAnswer) (lcid : UInt16) :
    List UInt8 → LinkTable × Bool
  | [] => (table, true)
  | tcid :: tcids =>
    if (table.getByLcid lcid).isSome && answer.channelMem tcid then
      (table.addFixed lcid tcid).allocFixed answer lcid tcids
    else (table.releaseFixedTransChannel answer lcid, false)

def activateFixedTransChannel (table : LinkTable) (answer : DliAnswer)
    (lcid : UInt16) : LinkTable × Bool :=
  if table.fixed.any fun channel => channel.lcid == lcid then (table, false)
  else table.allocFixed answer lcid transFixedChannels

/-- `CM_ConnectionProcInterruptReq` for the first node with the address.  The
result of the release is not looked at. -/
def connectionProcInterruptReq (table : LinkTable) (answer : DliAnswer)
    (link : SleLogicLink) : LinkTable :=
  ((table.setStatus link.rmtAddr .disconnecting).accessLinkReleaseReq answer
    link.lcid 0).1

def setRole (table : LinkTable) (addr : SleAddr) (role : UInt8) : LinkTable :=
  { table with
    links := modify SleLogicLink.rmtAddr addr
      (fun link => { link with role := role }) table.links }

/-- `CM_SleConnectExpectionProc` -/
def connectExceptionProc (table : LinkTable) (answer : DliAnswer)
    (lcid : UInt16) : LinkTable :=
  if lcid = invalidLcid then table
  else
    match table.getByLcid lcid with
    | none => table
    | some link =>
      ({ table with
          links := modify SleLogicLink.lcid lcid
            (fun link => { link with status := .disconnecting })
            table.links }.accessLinkReleaseReq answer link.lcid 0).1

/-- The end of `CM_SleCreateConnectionProc`: the node of an active connection
that is under way goes when a passive one has come first. -/
def dropConnecting (table : LinkTable) (connCompleteType : UInt8) :
    LinkTable :=
  if connCompleteType = connCompleteAdv then
    { table with
      links := remove SleLogicLink.status .connecting table.links }
  else table

/-- `CM_SleCreateConnectionProc` with the address, the handle and the role of
`CM_ConnectParamRsp_S`. -/
def createConnectionProc (table : LinkTable) (answer : DliAnswer)
    (addr : SleAddr) (evt : ConnectionComplete) : LinkTable :=
  match table.getByAddr addr with
  | none => table
  | some link =>
    if link.status = .connected then
      let asked := table.command (.readRemoteVersion evt.connHandle)
      if answer.readRemoteVersion then
        let opened := (asked.setRole addr evt.role)
          |>.activateFixedTransChannel answer evt.connHandle
        if opened.2 then opened.1.dropConnecting link.connCompleteType
        else opened.1.connectionProcInterruptReq answer link
      else asked.connectionProcInterruptReq answer link
    else
      let removed := { table with
        links := remove SleLogicLink.rmtAddr addr table.links }
      let told := if addr = .empty then removed else
        removed.notify ⟨evt.connHandle, evt.role, addr, .disconnected,
          evt.status, evt.connCompleteType, evt.advHandle⟩
      told.dropConnecting link.connCompleteType

/-- `SleAccessConnectCbkSetLinkStatusAndInfo` -/
def setLinkStatusAndInfo (evt : ConnectionComplete) (link : SleLogicLink) :
    SleLogicLink :=
  if evt.status = dliSuccess then
    { link with
      status := .connected
      lcid := evt.connHandle
      role := evt.role
      connCompleteType := evt.connCompleteType
      advHandle := evt.advHandle }
  else { link with status := .disconnected }

def passiveComplete (table : LinkTable) (answer : DliAnswer)
    (evt : ConnectionComplete) : LinkTable :=
  match table.getByAddr evt.peerAddress with
  | some _ => table
  | none =>
    if answer.nodeMem then
      { table with
        links := table.links ++
          [setLinkStatusAndInfo evt (newNode evt.peerAddress)]
      }.createConnectionProc answer evt.peerAddress evt
    else table

/-- An active connection: `SleLogicLinkSetAddrWhenActiveConnDone` names the
node that is connecting after the peer, or releases the connection. -/
def activeComplete (table : LinkTable) (answer : DliAnswer)
    (evt : ConnectionComplete) : LinkTable :=
  if (table.getByAddr evt.peerAddress).any fun link =>
      link.status = .connected then table
  else
    match table.getByStatus .connecting with
    | none =>
      (table.accessLinkReleaseReq answer evt.connHandle
        discReasonRemoteUserTerminated).1
    | some _ =>
      { table with
        links := modify SleLogicLink.status .connecting
          (fun link => setLinkStatusAndInfo evt
            { link with rmtAddr := evt.peerAddress }) table.links
      }.createConnectionProc answer evt.peerAddress evt

def activeFailed (table : LinkTable) (answer : DliAnswer)
    (evt : ConnectionComplete) : LinkTable :=
  match table.getByStatus .connecting with
  | none => table
  | some link =>
    { table with
      links := modify SleLogicLink.status .connecting
        (setLinkStatusAndInfo evt) table.links
    }.createConnectionProc answer link.rmtAddr evt

/-- `SleAccessConnectCbk` with `SleAccessConnectCbkProc`.  A command that has
failed is not followed up, so that the branches of the latter for such a
command are never taken. -/
def accessConnectCbk (table : LinkTable) (answer : DliAnswer)
    (status : UInt8) (evt : ConnectionComplete) : LinkTable :=
  if status ≠ dliSuccess then table
  else if evt.connCompleteType = connCompleteAdv then
    if evt.status = dliSuccess then table.passiveComplete answer evt
    else table
  else if evt.connCompleteType = connCompleteScan then
    if evt.status = dliSuccess then table.activeComplete answer evt
    else table.activeFailed answer evt
  else table

/-- `SleAccessDisconnectCbk` with `CM_SleDisconnectProc` -/
def accessDisconnectCbk (table : LinkTable) (answer : DliAnswer)
    (connHandle : UInt16) (reason : UInt8) : LinkTable :=
  if connHandle = invalidLcid then table
  else
    match table.getByLcid connHandle with
    | none => table
    | some link =>
      let released :=
        if link.status = .connected ∨ link.status = .disconnecting then
          table.releaseFixedTransChannel answer connHandle
        else table
      let removed :=
        if link.status ≠ .disconnected then
          { released with
            links := remove SleLogicLink.lcid connHandle released.links }
        else released
      removed.notify ⟨connHandle, link.role, link.rmtAddr, .disconnected,
        reason, 0, 0⟩

def made (table : LinkTable) (connHandle : UInt16) : LinkTable :=
  { table with live := connHandle :: table.live }

def established (table : LinkTable) (status : UInt8)
    (evt : ConnectionComplete) : LinkTable :=
  if status = dliSuccess ∧ evt.status = dliSuccess then
    table.made evt.connHandle
  else table

def ended (table : LinkTable) (closed : Bool) (connHandle : UInt16) :
    LinkTable :=
  if closed then
    { table with
      live := table.live.filter (· ≠ connHandle)
      releasing := table.releasing.filter (· ≠ connHandle) }
  else { table with releasing := table.releasing.erase connHandle }

def step (table : LinkTable) (event : LinkTask × DliAnswer) : LinkTable :=
  match event.1 with
  | .establish filterPolicy addr =>
    table.start.connectEstablishReq event.2 filterPolicy addr
  | .cancel => table.start.connectCancelReq
  | .release addr discReason =>
    table.start.connectReleaseReq event.2 addr discReason
  | .connectCbk status evt =>
    (table.start.established status evt).accessConnectCbk event.2 status evt
  | .disconnectCbk closed connHandle reason =>
    (table.start.ended closed connHandle).accessDisconnectCbk event.2
      connHandle reason
  | .exception lcid => table.start.connectExceptionProc event.2 lcid

end LinkTable

end NearLink.Cm
