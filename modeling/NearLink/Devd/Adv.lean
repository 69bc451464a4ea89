import NearLink.Sdf.Buff
import NearLink.Transition

/-!
# Advertising sets

A node of the table is one advertising set.  Its requests are served by
commands to the controller, whose completions come back through callbacks that
look at the status of the node.  The callback of a node is never null.
-/

namespace NearLink.Devd

open Sdf

/-- `DEVD_CBK_EVENT_*` -/
inductive AdvEvent where
  | setAdvData
  | setScanRspData
  | enableAdv
  | disableAdv
  | removeAdv
  | terminatedAdv
  deriving DecidableEq

/-- `DEVD_SLE_STATUS_*` of a node. -/
inductive AdvNodeStatus where
  | idle
  | setAdvParams
  | setAdvData
  | setScanRspData
  | disableAdv
  | enableAdv
  | removeAdv
  deriving DecidableEq

/-- `DevdAdvParam_S`: the mode, and the fields that only the command reads. -/
structure AdvParam where
  advMode : UInt8
  settings : Bytes
  deriving DecidableEq

/-- `NLSTK_DevdAdvData_S` as `DevdCopyAdvData` makes it. -/
structure AdvData where
  advData : Bytes
  scanRspData : Bytes
  sized : 0 < advData.length ∧ advData.length ≤ 0x07FF ∧
    scanRspData.length < 0x10000
  deriving DecidableEq

/-- `ADV_MODE_NONCONN_SCANABLE` and above. -/
def AdvParam.scanable (param : AdvParam) : Bool := 2 ≤ param.advMode

/-- `ADV_OPERATION_FRAGMENT_*` -/
inductive Fragment where
  | complete
  | first
  | intermediate
  | last
  | invalid
  deriving DecidableEq

inductive AdvCommand where
  | setAdvParam (param : AdvParam)
  | setAdvData (operation : Fragment) (data : Bytes)
  | setScanRspData (operation : Fragment) (data : Bytes)
  | enableAdv (enable : Bool)
  | removeAdv
  deriving DecidableEq

inductive AdvRequest where
  | setAdvParam (param : AdvParam) (data : AdvData)
  | setAdvData (data : AdvData)
  | enableAdv (enable : Bool)
  | removeAdv
  deriving DecidableEq

/-- What happens at a node.  `accepted` is a request that has passed its busy
check, `answered` the completion of a command, `reported` a call of the
callback of the node. -/
inductive AdvNote where
  | created
  | accepted (request : AdvRequest)
  | answered (command : AdvCommand) (ok : Bool)
  | reported (event : AdvEvent) (result : UInt8)
  | removed

structure AdvNode where
  status : AdvNodeStatus := .idle
  advStatus : UInt8 := 0
  isUpdateData : Bool := false
  param : Option AdvParam := none
  tempParam : Option AdvParam := none
  data : Option AdvData := none
  tempData : Option AdvData := none
  dataOffset : Nat := 0
  sendLen : Nat := 0

structure AdvEnv where
  /-- The memory of `DevdSaveAdvParamToTbl`. -/
  paramAlloc : Bool := true
  /-- The memory of `DevdSaveAdvDataToTbl`. -/
  dataAlloc : Bool := true
  commandAlloc : Bool := true
  dli : Bool := true
  freedCbk : Bool := true

structure AdvSet where
  node : Option AdvNode := none
  outstanding : List AdvCommand := []
  log : List AdvNote := []

namespace AdvSet

def note (set : AdvSet) (entry : AdvNote) : AdvSet :=
  { set with log := set.log ++ [entry] }

def put (set : AdvSet) (node : AdvNode) : AdvSet :=
  { set with node := some node }

def report (set : AdvSet) (event : AdvEvent) (result : UInt8) : AdvSet :=
  set.note (.reported event result)

def removeAdvNode (set : AdvSet) : AdvSet :=
  { set.note .removed with node := none }

def send (env : AdvEnv) (set : AdvSet) (command : AdvCommand) : AdvSet :=
  if env.dli then { set with outstanding := set.outstanding ++ [command] }
  else set

end AdvSet

namespace AdvNode

/-- `GetAdvDataOperation`: the length to send, of at most `maxLen`, and the
place of the fragment. -/
def getAdvDataOperation (maxLen totalLen offset : Nat) : Nat × Fragment :=
  if totalLen ≤ offset then (0, .invalid)
  else
    let sendLen := min (totalLen - offset) maxLen
    (sendLen,
      if offset = 0 then
        if sendLen = totalLen then .complete else .first
      else if sendLen + offset = totalLen then .last
      else .intermediate)

/-- `BuildDliAdvParam` and `BuildDliScanRspParam`, without the operation: the
bytes that are sent next. -/
def fragment (node : AdvNode) (payload : Bytes) (sendLen : Nat) : Bytes :=
  (payload.drop node.dataOffset).take sendLen

end AdvNode

namespace AdvSet

/-- A fragment of the payload is sent and the offset moves on, unless there is
nothing to send, no memory, or a fragment that is longer than the length field
of the command, a byte, can tell: the copy into the command then fails. -/
def sendFragment (env : AdvEnv) (maxLen : Nat) (set : AdvSet) (node : AdvNode)
    (payload : Bytes) (command : Fragment → Bytes → AdvCommand) : AdvSet :=
  let operation := AdvNode.getAdvDataOperation maxLen payload.length
    node.dataOffset
  let sized := { node with sendLen := operation.1 }
  if operation.1 = 0 ∨ env.commandAlloc = false ∨ 0xFF < operation.1 then
    set.put sized
  else
    (set.send env (command operation.2 (node.fragment payload operation.1))).put
        { sized with dataOffset := node.dataOffset + operation.1 }

def sendAdvDataToDli (env : AdvEnv) (maxLen : Nat) (set : AdvSet)
    (node : AdvNode) : AdvSet :=
  match node.param with
  | none => set.put node
  | some param =>
    match node.tempData with
    | none => set.put { node with status := .idle }
    | some data =>
      if node.status = .setAdvData then
        set.sendFragment env maxLen node data.advData .setAdvData
      else if node.status = .setScanRspData ∧ param.scanable then
        set.sendFragment env maxLen node data.scanRspData .setScanRspData
      else set.put { node with status := .idle }

/-- `DevdSaveAdvDataToTbl`: the node, and whether the data was saved. -/
def saveAdvData (env : AdvEnv) (node : AdvNode) (data : AdvData) :
    AdvNode × Bool :=
  if data.scanRspData.length ≤ 0x07FF ∧ env.dataAlloc then
    ({ node with tempData := some data }, true)
  else ({ node with tempData := none }, false)

def setAdvParam (env : AdvEnv) (set : AdvSet) (param : AdvParam)
    (data : AdvData) : AdvSet :=
  match set.node with
  | none => set
  | some node =>
    if node.advStatus = 1 then set
    else if node.status ≠ .idle then set
    else
      let accepted := set.note (.accepted (.setAdvParam param data))
      if env.paramAlloc then
        let saved := saveAdvData env { node with tempParam := some param }
          data
        if saved.2 then
          (accepted.put { saved.1 with status := .setAdvParams }).send env
            (.setAdvParam param)
        else accepted.put saved.1
      else accepted.put { node with tempParam := none }

def setAdvData (env : AdvEnv) (maxLen : Nat) (set : AdvSet) (data : AdvData) : AdvSet :=
  match set.node with
  | none => set
  | some node =>
    if node.status ≠ .idle then set
    else
      let accepted := set.note (.accepted (.setAdvData data))
      let saved := saveAdvData env node data
      if saved.2 then
        accepted.sendAdvDataToDli env maxLen { saved.1 with
          status := .setAdvData
          isUpdateData := true
          dataOffset := 0
          sendLen := 0 }
      else accepted.put saved.1

/-- The command of `DevdEnableAdv`, once the checks are passed. -/
def sendEnable (env : AdvEnv) (set : AdvSet) (node : AdvNode) (enable : Bool) : AdvSet :=
  if env.dli then
    (set.put { node with
      status := if enable then .enableAdv else .disableAdv }).send env
        (.enableAdv enable)
  else set.put { node with status := .idle }

/-- The checks of `DevdEnableAdv`. -/
def mayEnable (node : AdvNode) (enable : Bool) : Bool :=
  node.advStatus ≠ (if enable then 1 else 0) && node.status = .idle

/-- `DevdEnableAdv` as a request. -/
def enableAdv (env : AdvEnv) (set : AdvSet) (enable : Bool) : AdvSet :=
  match set.node with
  | none => set
  | some node =>
    if mayEnable node enable then
      (set.note (.accepted (.enableAdv enable))).sendEnable env node enable
    else set

def removeAdv (env : AdvEnv) (set : AdvSet) : AdvSet :=
  match set.node with
  | none => set
  | some node =>
    if node.advStatus = 1 then set
    else
      ((set.note (.accepted .removeAdv)).put
        { node with status := .removeAdv }).send env .removeAdv

/-- `DevdCreateAdvNode` for the handle. -/
def create (set : AdvSet) : AdvSet :=
  match set.node with
  | none => (set.note .created).put {}
  | some _ => set

def setAdvParamCbk (env : AdvEnv) (maxLen : Nat) (set : AdvSet)
    (status : UInt16) : AdvSet :=
  match set.node with
  | none => set
  | some node =>
    if status ≠ 0 then
      if 0xFF < status then set
      else
        let failed := set.report .enableAdv status.toUInt8
        match node.param with
        | none => failed.removeAdvNode
        | some _ =>
          failed.put { node with
            tempParam := none
            tempData := none
            status := .idle }
    else
      set.sendAdvDataToDli env maxLen { node with
        param := node.tempParam
        tempParam := none
        status := .setAdvData
        dataOffset := 0
        sendLen := 0 }

/-- `UpdateAdvDataStatus`: the node, and the event to report when all the data
of the status is sent. -/
def updateAdvDataStatus (node : AdvNode) (data : AdvData) :
    AdvNode × Option AdvEvent :=
  let payload :=
    if node.status = .setAdvData then data.advData else data.scanRspData
  if node.dataOffset < payload.length then (node, none)
  else
    let restarted := { node with dataOffset := 0, sendLen := 0 }
    if node.status = .setAdvData then
      if data.scanRspData ≠ [] ∧ node.param.any AdvParam.scanable then
        ({ restarted with status := .setScanRspData }, some .setAdvData)
      else ({ restarted with status := .idle }, some .setAdvData)
    else ({ restarted with status := .idle }, some .setScanRspData)

def updateAdvDataHandle (env : AdvEnv) (maxLen : Nat) (set : AdvSet)
    (event : Option AdvEvent) (status : UInt16) (node : AdvNode) : AdvSet :=
  let told :=
    match event with
    | none => set
    | some event => set.report event status.toUInt8
  if status ≠ 0 then
    match node.data with
    | none => told.removeAdvNode
    | some _ => told.put { node with tempData := none, status := .idle }
  else if node.status = .idle then
    told.put { node with data := node.tempData, tempData := none }
  else told.sendAdvDataToDli env maxLen node

/-- `DevdSetAdvDataHandle`.  After the node is freed its callback is read
again. -/
def setAdvDataHandle (env : AdvEnv) (maxLen : Nat) (set : AdvSet)
    (status : UInt16) (node : AdvNode) : AdvSet :=
  if status ≠ 0 then
    match node.data with
    | none =>
      if env.freedCbk then
        set.removeAdvNode.report .enableAdv status.toUInt8
      else set.removeAdvNode
    | some _ =>
      (set.put { node with tempData := none, status := .idle }).report
        .enableAdv status.toUInt8
  else if node.status = .idle then
    let done := { node with data := node.tempData, tempData := none }
    if mayEnable done true then set.sendEnable env done true
    else set.put done
  else set.sendAdvDataToDli env maxLen node

def setAdvDataCbk (env : AdvEnv) (maxLen : Nat) (set : AdvSet)
    (status : UInt16) : AdvSet :=
  match set.node with
  | none => set
  | some node =>
    match node.tempData with
    | none => set
    | some data =>
      if 0xFF < status then set
      else
        let updated := updateAdvDataStatus node data
        if node.isUpdateData then
          set.updateAdvDataHandle env maxLen updated.2 status updated.1
        else set.setAdvDataHandle env maxLen status updated.1

def enableAdvCbk (set : AdvSet) (status : UInt16) : AdvSet :=
  match set.node with
  | none => set
  | some node =>
    if 0xFF < status then set
    else
      (set.put { node with
        status := .idle
        -- the number of the event, where `ADV_ENABLED` is 1
        advStatus :=
          if status = 0 then (if node.status = .enableAdv then 3 else 4)
          else node.advStatus }).report
            (if node.status = .enableAdv then .enableAdv else .disableAdv)
              status.toUInt8

def removeAdvCbk (set : AdvSet) (status : UInt16) : AdvSet :=
  match set.node with
  | none => set
  | some _ =>
    if 0xFF < status then set
    else if status = 0 then
      (set.report .removeAdv status.toUInt8).removeAdvNode
    else set.report .removeAdv status.toUInt8

def advTerminatedCbk (set : AdvSet) (status : UInt8) : AdvSet :=
  match set.node with
  | none => set
  | some node =>
    let told := set.report .terminatedAdv status
    if status = 0 then
      told.put { node with advStatus := 0, status := .idle }
    else told

def complete (env : AdvEnv) (maxLen : Nat) (set : AdvSet) (status : UInt16) : AdvSet :=
  match set.outstanding with
  | [] => set
  | command :: commands =>
    let answered := { set with outstanding := commands }.note
      (.answered command (status = 0))
    match command with
    | .setAdvParam _ => answered.setAdvParamCbk env maxLen status
    | .setAdvData .. | .setScanRspData .. =>
      answered.setAdvDataCbk env maxLen status
    | .enableAdv _ => answered.enableAdvCbk status
    | .removeAdv => answered.removeAdvCbk status

inductive Event where
  | create
  | setAdvParam (param : AdvParam) (data : AdvData)
  | setAdvData (data : AdvData)
  | enableAdv (enable : Bool)
  | removeAdv
  | complete (status : UInt16)
  | terminated (status : UInt8)

/-- `maxLen` is the longest fragment, `CfgdbGetMaxAdvDataLen`. -/
def step (maxLen : Nat) (set : AdvSet) (event : AdvEnv × Event) : AdvSet :=
  match event.2 with
  | .create => set.create
  | .setAdvParam param data => set.setAdvParam event.1 param data
  | .setAdvData data => set.setAdvData event.1 maxLen data
  | .enableAdv enable => set.enableAdv event.1 enable
  | .removeAdv => set.removeAdv event.1
  | .complete status => set.complete event.1 maxLen status
  | .terminated status => set.advTerminatedCbk status

end AdvSet

end NearLink.Devd
