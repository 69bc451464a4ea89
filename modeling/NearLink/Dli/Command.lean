import NearLink.Dli.Split
import NearLink.Transition

/-!
# Commands to the controller

`dli_cmd.c`, `dli_event.c` and the command side of `dli_layer.c`.  A command is
posted to the thread of the device layer, which keeps it on a list until an
event or a timeout takes it off, and the outcome is posted to the thread of the
control plane, which looks for a handler in the list of inner callbacks.  Both
threads run their tasks in the order of posting.  Posting and allocation
succeed, and the layer stays enabled.

Commands are numbered in the order of their acceptance.  The parameters of a
command and the context of its caller are only passed through and left out.
-/

namespace NearLink.Dli

open Sdf Transition

def cmdStatusEvt : Nat := 0x0001

def cmdCompleteEvt : Nat := 0x0002

def cmdErrorEvt : Nat := 0x00EE

def invalidEvt : Nat := 0xFFFF

def setEventMask : Nat := 0x0401

def testEnd : Nat := 0xFFFF

def success : Nat := 0x00

def unknownCommand : Nat := 0x01

def commandTimeout : Nat := 0x0D

def defaultCmdNum : Nat := 1

/-- `DLI_DATA_MAX_CNT`, as the bound of the command list. -/
def cmdMaxCnt : Nat := 10000

/-- `sizeof(DLI_CommandComplete)` -/
def commandCompleteSize : Nat := 3

/-- `sizeof(DLI_CommandStatus)` -/
def commandStatusSize : Nat := 4

/-- `sizeof(DLI_CommandErrorStru)` -/
def commandErrorSize : Nat := 7

def dataOffset : Nat := 4

/-- `DLI_CmdStru` with its `DLI_ManagerContext`. -/
structure Command where
  object : Nat
  cmd : Nat
  event : Nat
  cbk : Option Nat
  deriving DecidableEq

/-- The command waits for a command complete event, and its context has an
inner callback table. -/
def Command.Complete (command : Command) : Prop :=
  command.event = cmdCompleteEvt

instance decidableComplete (command : Command) : Decidable command.Complete :=
  inferInstanceAs (Decidable (_ = _))

/-- `DLI_CmdTxNode`.  The timer of a node runs from when the command is
sent. -/
structure CmdTxNode where
  info : Command
  isSent : Bool
  isRecvStatusEvt : Bool
  deriving DecidableEq

inductive InnerFunc where
  | executeCommandCbk
  | commandErrorCbk
  | commandStatusCbk
  | moduleCbk
  deriving DecidableEq

/-- `DLI_InnerCbkLineStru` -/
structure InnerCbkLine where
  opcode : Nat
  func : InnerFunc
  deriving DecidableEq

/-- The table `DLI_CreateManagerContext` registers for an opcode. -/
def dynamicTable (opcode : Nat) : List InnerCbkLine :=
  [⟨opcode, .executeCommandCbk⟩]

inductive DliTask where
  | cmdSendInner (node : CmdTxNode)
  | eventPacketReceived (bytes : Bytes)
  | cmdWorkCallback

inductive CpTask where
  | innerEventCbkReg (command : Command)
  | innerEventCbkUnReg (opcode : Nat)
  | eventTask (event : Nat) (node : Option CmdTxNode) (data : Bytes)
  | timeoutCallback (node : CmdTxNode)

/-- A call of a callback of type `DLI_ExecuteCmdCbk` with the context of a
command. -/
structure Call where
  cbk : Nat
  context : Option Nat
  status : Nat
  cmdOpcode : Nat
  eventParameter : Bytes

structure CmdLayer where
  /-- `g_info.cmdTx` -/
  cmdTx : List CmdTxNode
  cmdNum : Nat
  /-- `g_eventCbkListHead` -/
  eventCbkList : List (List InnerCbkLine)
  dliTasks : List DliTask
  cpTasks : List CpTask
  nextObject : Nat
  accepted : List Command
  calls : List Call
  freed : List Nat

def evtRegOpcodeMappingTable : List (Nat × Nat) :=
  [(0x1401, 10), (0x1402, 11), (0x1403, 12), (0x1807, 15), (0x1002, 8),
    (0x2801, 78), (0x2802, 78), (0x2803, 79), (0x2805, 79), (0x2804, 77),
    (0x2806, 88), (0x2807, 83), (0x2808, 83), (0x2809, 84), (0x280B, 84),
    (0x280A, 77), (0x280C, 89), (0x280D, 92), (0x280E, 93)]

/-- `DLI_GetopcodeByCmd` without an external mapping; `none` is
`DLI_CBK_MAX`. -/
def getopcodeByCmd (cmd : Nat) : Option Nat :=
  (evtRegOpcodeMappingTable.find? (·.1 = cmd)).map (·.2)

/-- The bytes of a `DLI_CommandErrorStru`. -/
def commandErrorBytes (status cmd event : Nat) : Bytes :=
  encode2Byte status ++ encode2Byte cmd ++ encode2Byte event ++ [0]

/-- The function of the first line for an opcode, over all tables in order of
their registration. -/
def findFunc (eventCbkList : List (List InnerCbkLine)) (opcode : Nat) :
    Option InnerFunc :=
  (eventCbkList.flatten.find? (·.opcode = opcode)).map (·.func)

namespace CmdLayer

section Callbacks

-- The callbacks the modules registered (`g_cbkList`).
variable (cbkList : Nat → Option Nat)

def runRegCbk (state : CmdLayer) (regOpcode : Nat) (context : Option Command)
    (arg : Bytes) (evtOpcode status : Nat) : CmdLayer :=
  match cbkList regOpcode with
  | none => state
  | some cbk =>
    { state with calls := state.calls ++
        [⟨cbk, context.map (·.object), status, evtOpcode, arg⟩] }

def commandErrorCbk (state : CmdLayer) (context : Option Command)
    (arg : Bytes) (evtOpcode : Nat) : CmdLayer :=
  if arg.length < commandErrorSize then state
  else
    match getopcodeByCmd (decode2Byte arg 2) with
    | none => state
    | some regOpcode =>
      state.runRegCbk cbkList regOpcode context
        (arg.take commandErrorSize) evtOpcode (decode2Byte arg 0)

/-- `DLI_ExecuteCommandCbk` with `DLI_ExecuteCommandCbkDo` -/
def executeCommandCbk (state : CmdLayer) (context : Option Command)
    (arg : Bytes) (evtOpcode : Nat) : CmdLayer :=
  match context with
  | none => state
  | some command =>
    -- With exactly three bytes the source reads one byte behind the data.
    let status := if arg.length ≥ commandCompleteSize then
      (arg.getD 3 0).toNat else success
    let unregistered :=
      if command.Complete then
        { state with cpTasks :=
            state.cpTasks ++ [.innerEventCbkUnReg command.cmd] }
      else state
    match command.cbk with
    | none => unregistered
    | some cbk =>
      let eventParameter :=
        if status = success ∧ arg.length > dataOffset then
          arg.drop dataOffset else []
      { unregistered with calls := state.calls ++
          [⟨cbk, some command.object, status, evtOpcode,
            eventParameter⟩] }

/-- `DLI_RunCmdCbk` for the error event.  The common table has the error
handler for it; the status handler is never registered for it. -/
def runErrorCbk (state : CmdLayer) (context : Option Command) (arg : Bytes) :
    CmdLayer :=
  match findFunc state.eventCbkList cmdErrorEvt with
  | some .executeCommandCbk => state.executeCommandCbk context arg cmdErrorEvt
  | some .commandErrorCbk =>
    state.commandErrorCbk cbkList context arg cmdErrorEvt
  | some .commandStatusCbk | some .moduleCbk | none => state

def commandStatusCbk (state : CmdLayer) (context : Option Command)
    (arg : Bytes) (evtOpcode : Nat) : CmdLayer :=
  if arg.length < commandStatusSize then state
  else
    let counted := { state with cmdNum := (arg.getD 2 0).toNat }
    let status := (arg.getD 3 0).toNat
    if status ≠ success then
      counted.runErrorCbk cbkList context
        (commandErrorBytes status (decode2Byte arg 0) evtOpcode)
    else counted

def runCmdCbk (state : CmdLayer) (context : Option Command) (arg : Bytes)
    (evtOpcode : Nat) : CmdLayer :=
  match findFunc state.eventCbkList evtOpcode with
  | some .executeCommandCbk => state.executeCommandCbk context arg evtOpcode
  | some .commandErrorCbk => state.commandErrorCbk cbkList context arg evtOpcode
  | some .commandStatusCbk =>
    state.commandStatusCbk cbkList context arg evtOpcode
  | some .moduleCbk | none => state

def postNextTask (state : CmdLayer) : CmdLayer :=
  { state with dliTasks := state.dliTasks ++ [.cmdWorkCallback] }

/-- The opcode a handler is looked up by (`DLI_GetEvtOpcode`). -/
def getEvtOpcode (event : Nat) (data : Bytes) : Nat :=
  let opcode := if data.length ≥ 2 then decode2Byte data 0 else 0
  if event = cmdCompleteEvt ∨ event = invalidEvt then opcode else event

def recvEventHandler (state : CmdLayer) (event : Nat)
    (context : Option Command) (data : Bytes) : CmdLayer :=
  if (event = cmdCompleteEvt ∧ context = none) ∨ data.length = 0 then state
  else
    let counted :=
      if event = cmdCompleteEvt ∧ data.length ≥ commandCompleteSize then
        { state with cmdNum := (data.getD 2 0).toNat }
      else state
    (counted.runCmdCbk cbkList context data
      (getEvtOpcode event data)).postNextTask

def cmdNodeDestroy (state : CmdLayer) (node : CmdTxNode) : CmdLayer :=
  { state with freed := state.freed ++ [node.info.object] }

def timeoutCallback (state : CmdLayer) (node : CmdTxNode) : CmdLayer :=
  let counted :=
    if node.info.Complete ∨ ¬ node.isRecvStatusEvt then
      { state with cmdNum := defaultCmdNum }
    else state
  counted.recvEventHandler cbkList cmdErrorEvt (some node.info)
    (commandErrorBytes commandTimeout node.info.cmd node.info.event)

def runCpTask (state : CmdLayer) : CpTask → CmdLayer
  | .innerEventCbkReg command =>
    { state with eventCbkList :=
        state.eventCbkList ++ [dynamicTable command.cmd] }
  | .innerEventCbkUnReg opcode =>
    { state with eventCbkList :=
        state.eventCbkList.erase (dynamicTable opcode) }
  | .eventTask event none data => state.recvEventHandler cbkList event none data
  | .eventTask event (some node) data =>
    (state.recvEventHandler cbkList event (some node.info)
      data).cmdNodeDestroy node
  | .timeoutCallback node =>
    (state.timeoutCallback cbkList node).cmdNodeDestroy node

end Callbacks

/-- The loop of `DLI_CmdListSend`; the driver takes `accepts` commands before
it refuses one. -/
def sendLoop : Nat → Nat → List CmdTxNode → Nat × List CmdTxNode
  | _, cmdNum, [] => (cmdNum, [])
  | accepts, cmdNum, node :: nodes =>
    if cmdNum = 0 then (cmdNum, node :: nodes)
    else if node.isSent then
      let rest := sendLoop accepts cmdNum nodes
      (rest.1, node :: rest.2)
    else
      match accepts with
      | 0 => (cmdNum, node :: nodes)
      | accepts + 1 =>
        let rest := sendLoop accepts (cmdNum - 1) nodes
        (rest.1, { node with isSent := true } :: rest.2)

def cmdListSend (state : CmdLayer) (accepts : Nat) : CmdLayer :=
  let sent := sendLoop accepts state.cmdNum state.cmdTx
  { state with cmdNum := sent.1, cmdTx := sent.2 }

/-- `DLI_CmdSendInner` with `DLI_CmdAddToList` -/
def cmdSendInner (state : CmdLayer) (accepts : Nat) (node : CmdTxNode) :
    CmdLayer :=
  if state.cmdTx.length ≤ cmdMaxCnt then
    { state with cmdTx := state.cmdTx ++ [node] }.cmdListSend accepts
  else
    let tried := state.cmdListSend accepts
    if tried.cmdTx.length ≤ cmdMaxCnt then
      { tried with cmdTx := tried.cmdTx ++ [node] }
    else tried.cmdNodeDestroy node

def cmdNodeFind (cmdTx : List CmdTxNode) (event opcode : Nat) :
    Option CmdTxNode :=
  cmdTx.find? fun node =>
    (opcode = 0 ∨ node.info.cmd = opcode) ∧ node.info.event = event

def cmdNodeFindByOpcode (cmdTx : List CmdTxNode) (opcode : Nat) :
    Option CmdTxNode :=
  cmdTx.find? fun node => opcode = 0 ∨ node.info.cmd = opcode

def cmdNodeFindNotRecvStatus (cmdTx : List CmdTxNode) (opcode : Nat) :
    Option CmdTxNode :=
  cmdTx.find? fun node =>
    (opcode = 0 ∨ node.info.cmd = opcode) ∧ ¬ node.isRecvStatusEvt

/-- The node `DLI_CmdNodeRemove` takes off the list, if it has been sent. -/
def nodeToRemove (cmdTx : List CmdTxNode) (event opcode status : Nat) :
    Option CmdTxNode :=
  let found :=
    if status = success then
      if event = cmdStatusEvt then none
      else if event = cmdCompleteEvt then cmdNodeFind cmdTx event opcode
      else (cmdNodeFind cmdTx event opcode).filter (·.isRecvStatusEvt)
    else if event = cmdStatusEvt then cmdNodeFindNotRecvStatus cmdTx opcode
    else cmdNodeFindByOpcode cmdTx opcode
  found.filter (·.isSent)

def markStatus (cmdTx : List CmdTxNode) (opcode : Nat) : List CmdTxNode :=
  match cmdNodeFindNotRecvStatus cmdTx opcode with
  | none => cmdTx
  | some found => cmdTx.map fun node =>
    if node = found then { node with isRecvStatusEvt := true } else node

/-- `DLI_CmdNodeRemove`: the list afterwards and the node taken off. -/
def cmdNodeRemove (cmdTx : List CmdTxNode) (event opcode status : Nat) :
    List CmdTxNode × Option CmdTxNode :=
  if status = success ∧ event = cmdStatusEvt then
    (markStatus cmdTx opcode, none)
  else
    match nodeToRemove cmdTx event opcode status with
    | none => (cmdTx, none)
    | some node => (cmdTx.erase node, some node)

def eventGetStatus (event : Nat) (data : Bytes) : Nat :=
  if event = cmdStatusEvt then
    if data.length ≥ commandStatusSize then (data.getD 3 0).toNat
    else unknownCommand
  else if event = cmdCompleteEvt then
    if data.length ≥ commandCompleteSize + 1 then (data.getD 3 0).toNat
    else unknownCommand
  else success

def eventOpcode (event : Nat) (data : Bytes) : Nat :=
  if (event = cmdStatusEvt ∨ event = cmdCompleteEvt) ∧ data.length ≥ 2 then
    decode2Byte data 0
  else 0

def eventPacketReceived (state : CmdLayer) (bytes : Bytes) : CmdLayer :=
  let event := decode2Byte bytes 0
  let data := bytes.drop 4
  let removed := cmdNodeRemove state.cmdTx event (eventOpcode event data)
    (eventGetStatus event data)
  { state with
    cmdTx := removed.1
    cpTasks := state.cpTasks ++ [.eventTask event removed.2 data] }

def runDliTask (state : CmdLayer) (accepts : Nat) : DliTask → CmdLayer
  | .cmdSendInner node => state.cmdSendInner accepts node
  | .eventPacketReceived bytes => state.eventPacketReceived bytes
  | .cmdWorkCallback => state.cmdListSend accepts

def cmdTimerCallback (state : CmdLayer) (node : CmdTxNode) : CmdLayer :=
  { state with
    cmdTx := state.cmdTx.erase node
    cpTasks := state.cpTasks ++ [CpTask.timeoutCallback node] }.postNextTask

def executeCommand (state : CmdLayer) (cmd event : Nat) (cbk : Option Nat) :
    CmdLayer :=
  if cmd > testEnd ∨ cmd < setEventMask ∨
      (event = cmdCompleteEvt ∧ cbk = none) then state
  else
    let command : Command := ⟨state.nextObject, cmd, event, cbk⟩
    { state with
      cpTasks := state.cpTasks ++
        if command.Complete then [.innerEventCbkReg command] else []
      dliTasks := state.dliTasks ++ [.cmdSendInner ⟨command, false, false⟩]
      nextObject := state.nextObject + 1
      accepted := state.accepted ++ [command] }

end CmdLayer

/-- What happens next: a call of `DLI_ExecuteCommand`, an event packet of the
controller (`DLI_PacketReceived`), a step of one of the two threads, or the end
of a timer. -/
inductive CmdEvent where
  | execute (cmd event : Nat) (cbk : Option Nat)
  | packet (bytes : Bytes)
  | dliThread (accepts : Nat)
  | cpThread
  | timeout (object : Nat)

namespace CmdLayer

def timedNode (state : CmdLayer) (object : Nat) : Option CmdTxNode :=
  state.cmdTx.find? fun node => node.isSent ∧ node.info.object = object

def step (cbkList : Nat → Option Nat) (state : CmdLayer) :
    CmdEvent → CmdLayer
  | .execute cmd event cbk => state.executeCommand cmd event cbk
  | .packet bytes =>
    if 4 ≤ bytes.length ∧ bytes.length < 2 ^ 16 then
      { state with dliTasks := state.dliTasks ++
          [.eventPacketReceived bytes] }
    else state
  | .dliThread accepts =>
    match state.dliTasks with
    | [] => state
    | task :: tasks => { state with dliTasks := tasks }.runDliTask accepts task
  | .cpThread =>
    match state.cpTasks with
    | [] => state
    | task :: tasks => { state with cpTasks := tasks }.runCpTask cbkList task
  | .timeout object =>
    match state.timedNode object with
    | none => state
    | some node => state.cmdTimerCallback node

/-- `g_commInnerCbkList` as far as it matters here; the handlers of completed
packets and of vendor events are like those of the modules. -/
def commInnerCbkList : List InnerCbkLine :=
  [⟨cmdErrorEvt, .commandErrorCbk⟩, ⟨cmdStatusEvt, .commandStatusCbk⟩,
    ⟨0x0009, .moduleCbk⟩, ⟨0xFC07, .moduleCbk⟩]

def enabled (modules : List (List Nat)) : CmdLayer :=
  { cmdTx := []
    cmdNum := defaultCmdNum
    eventCbkList := commInnerCbkList ::
      modules.map fun table => table.map fun opcode => ⟨opcode, .moduleCbk⟩
    dliTasks := []
    cpTasks := []
    nextObject := 0
    accepted := []
    calls := []
    freed := [] }

end CmdLayer

end NearLink.Dli
