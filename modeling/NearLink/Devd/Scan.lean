import Mathlib.Data.List.Basic
import NearLink.Transition

/-!
# Scanning for devices

Scanners ask for scan windows on two frame types.  A state machine with four
states merges what they ask for and starts and stops the scan of the
controller.  No collaboration extension is registered, so its hooks are null;
the filters of the scanners are left out, since the machine never reads them.
-/

namespace NearLink.Devd

structure Timespec where
  sec : Int
  nsec : Int
  deriving DecidableEq

/-- A window and an interval that are set together: those of
`ResetScanSetting`, or two that the controller takes. -/
def Slots (window interval : UInt16) : Prop :=
  if window = 0 then interval = 0xFFFF else 4 ≤ window ∧ 4 ≤ interval

instance (window interval : UInt16) : Decidable (Slots window interval) :=
  inferInstanceAs (Decidable (ite _ _ _))

/-- `NLSTK_DevdScanSettingInner_S` -/
structure ScanSetting where
  window : UInt16
  interval : UInt16
  expireTime : Timespec
  hasDuration : Bool
  slots : Slots window interval

def resetScanSetting : ScanSetting :=
  { window := 0
    interval := 0xFFFF
    expireTime := ⟨0, 0⟩
    hasDuration := false
    slots := rfl }

def scanSettingsEqual (left right : ScanSetting) : Bool :=
  left.window = right.window && left.interval = right.interval

inductive ScanMode where
  | lowPower
  | balanced
  | lowLatency
  | p2Of60And3000
  | p10Of60And600
  | p25Of60And240
  | p100Of1000And1000
  | p50Of100And200
  | p50Of240And480
  | p50Of480And960
  | p100Of240And240
  | fullScan
  | monitor
  | p10Of30And300
  | invalid
  deriving DecidableEq

def scanModeSlots (batch : Bool) : ScanMode → Option (UInt16 × UInt16)
  | .lowPower => some (if batch then (500, 45000) else (900, 9000))
  | .balanced => some (if batch then (1000, 45000) else (1024, 4096))
  | .lowLatency => some (if batch then (1500, 45000) else (4096, 4096))
  | .p2Of60And3000 => some (60, 3000)
  | .p10Of60And600 => some (60, 600)
  | .p25Of60And240 => some (60, 240)
  | .p100Of1000And1000 => some (1000, 1000)
  | .p50Of100And200 => some (100, 200)
  | .p50Of240And480 => some (240, 480)
  | .p50Of480And960 => some (480, 960)
  | .p100Of240And240 => some (240, 240)
  | .fullScan => some (if batch then (1248, 45000) else (2048, 4096))
  | .p10Of30And300 => some (30, 300)
  | .monitor | .invalid => none

theorem slots_scanMode {batch : Bool} {mode : ScanMode}
    {pair : UInt16 × UInt16} (found : scanModeSlots batch mode = some pair) :
    Slots pair.1 pair.2 := by
  cases mode <;> cases batch <;> cases found <;> decide

def setScanMode (setting : ScanSetting) (mode : ScanMode) (batch : Bool) :
    ScanSetting :=
  match found : scanModeSlots batch mode with
  | none => setting
  | some pair =>
    { setting with
      window := pair.1
      interval := pair.2
      slots := slots_scanMode found }

structure Scanner where
  scannerId : Nat
  moduleId : Nat
  scanSetting : ScanSetting
  frame4ScanSetting : ScanSetting

/-- The setting with the larger share of the time, and of two equal shares
the one with the smaller interval. -/
def betterSetting (target other : ScanSetting) : ScanSetting :=
  let left := target.window.toNat * other.interval.toNat
  let right := target.interval.toNat * other.window.toNat
  if left < right ∨ left = right ∧ other.interval < target.interval then other
  else target

/-- `FetchFrame1TargetScanSettings` and `FetchFrame4TargetScanSettings` -/
def fetchTarget (field : Scanner → ScanSetting) :
    List Scanner → Option ScanSetting
  | [] => none
  | scanner :: scanners =>
    some ((scanners.map field).foldl betterSetting (field scanner))

def normalize : Option ScanSetting → ScanSetting
  | none => resetScanSetting
  | some target => if target.window = 0 then resetScanSetting else target

/-- `ResetScanSetting` of both frame types. -/
def Scanner.reset (scanner : Scanner) : Scanner :=
  { scanner with
    scanSetting := resetScanSetting
    frame4ScanSetting := resetScanSetting }

def timespecDiff (first second : Timespec) : Nat :=
  ((second.sec - first.sec) * 1000 +
    Int.tdiv (second.nsec - first.nsec) 1000000 + 1).toNat

def Timespec.before (first second : Timespec) : Bool :=
  first.sec < second.sec ||
    first.sec = second.sec && first.nsec < second.nsec

def ScanSetting.clear (now : Timespec) (setting : ScanSetting) :
    ScanSetting :=
  if setting.hasDuration && setting.expireTime.before now then
    resetScanSetting
  else setting

def Scanner.clear (now : Timespec) (scanner : Scanner) : Scanner :=
  { scanner with
    scanSetting := scanner.scanSetting.clear now
    frame4ScanSetting := scanner.frame4ScanSetting.clear now }

def earlier (found : Option Timespec) (setting : ScanSetting) :
    Option Timespec :=
  if setting.hasDuration then
    match found with
    | none => some setting.expireTime
    | some time =>
      if setting.expireTime.before time then some setting.expireTime
      else some time
  else found

def firstExpiry (scanners : List Scanner) : Option Timespec :=
  scanners.foldl (fun found scanner =>
    earlier (earlier found scanner.scanSetting) scanner.frame4ScanSetting) none

inductive ScanState where
  | stopped
  | starting
  | started
  | stopping
  deriving DecidableEq

inductive Message where
  | potentialUpdate
  | startOk
  | startErr
  | stopOk
  | stopErr
  | internalTimeout
  deriving DecidableEq

structure FrameParams where
  active : Bool
  scanInterval : UInt16
  scanWindow : UInt16
  deriving DecidableEq

structure ScanParams where
  frameType : UInt8
  params : List FrameParams
  deriving DecidableEq

inductive Command where
  | start (params : ScanParams)
  | stop
  deriving DecidableEq

inductive ScanResult where
  | success
  | fail
  | timeout

/-- `onStartOrStopEvent` of a module -/
structure Notice where
  moduleId : Nat
  result : ScanResult
  isStartScan : Bool

structure ScanModule where
  used : Bool
  /-- `onStartOrStopEvent` is not null. -/
  listens : Bool

/-- What the layers below answer to the n-th try to start or stop. -/
structure Layer where
  timerAdd : Nat → Bool
  /-- The memory of `BuildScanParams`. -/
  alloc : Nat → Bool
  accept : Nat → Bool

/-- The machine with its manager.  `outstanding` are the accepted commands
without an answer; `tries` counts the entries of `STARTING` and `STOPPING`,
each of which tries a command, and `lastStart` is the last accepted start. -/
structure Stm where
  state : ScanState := .stopped
  scanners : List Scanner := []
  scanModule : List ScanModule := List.replicate 5 ⟨false, false⟩
  currentScanSetting : ScanSetting := resetScanSetting
  inflightScanSetting : ScanSetting := resetScanSetting
  currentFrame4ScanSetting : ScanSetting := resetScanSetting
  inflightFrame4ScanSetting : ScanSetting := resetScanSetting
  internalTimer : Bool := false
  durationTimer : Bool := false
  notices : List Notice := []
  outstanding : List Command := []
  tries : Nat := 0
  lastStart : Option ScanParams := none

namespace Stm

def frame1Target (stm : Stm) : Option ScanSetting :=
  fetchTarget Scanner.scanSetting stm.scanners

def frame4Target (stm : Stm) : Option ScanSetting :=
  fetchTarget Scanner.frame4ScanSetting stm.scanners

/-- `onStartOrStopEvent` of every module that is used and listens. -/
def notify (stm : Stm) (result : ScanResult) (isStartScan : Bool) : Stm :=
  { stm with
    notices := stm.notices ++ (stm.scanModule.zipIdx.filterMap fun entry =>
      if entry.1.used && entry.1.listens then
        some ⟨entry.2, result, isStartScan⟩
      else none) }

def startScanTimer (layer : Layer) (stm : Stm) : Stm :=
  if stm.internalTimer then stm
  else { stm with internalTimer := layer.timerAdd stm.tries }

def frameParams (active : Bool) (setting : ScanSetting) : List FrameParams :=
  if setting.window ≠ 0 then [⟨active, setting.interval, setting.window⟩]
  else []

/-- The parameters that `BuildScanParams` makes of two settings. -/
def scanParams (frame1 frame4 : ScanSetting) : ScanParams :=
  { frameType :=
      if frame1.window ≠ 0 ∧ frame4.window ≠ 0 then 3
      else if frame1.window ≠ 0 then 1
      else if frame4.window ≠ 0 then 2
      else 0
    params := frameParams true frame1 ++ frameParams false frame4 }

/-- The checks of `NLSTK_DevdSleStartScan`. -/
def checkScanParams (params : ScanParams) : Bool :=
  params.frameType ≤ 3 && params.params.all fun frame =>
      4 ≤ frame.scanInterval && 4 ≤ frame.scanWindow

/-- `StoppedEntry` after the exit of the state before. -/
def enterStopped (stm : Stm) : Stm :=
  { stm with
    state := .stopped
    currentScanSetting := resetScanSetting
    inflightScanSetting := resetScanSetting
    currentFrame4ScanSetting := resetScanSetting
    inflightFrame4ScanSetting := resetScanSetting }

/-- `StartingExit` and `StoppingExit` -/
def stopScanTimer (stm : Stm) : Stm :=
  { stm with internalTimer := false }

/-- `StartingEntry` -/
def enterStarting (layer : Layer) (stm : Stm) : Stm :=
  let entered := ({ stm with state := .starting }).startScanTimer layer
  let params := scanParams stm.inflightScanSetting
    stm.inflightFrame4ScanSetting
  let tried := { entered with tries := entered.tries + 1 }
  if !layer.alloc stm.tries then
    ((tried.notify .fail true).stopScanTimer).enterStopped
  else if stm.inflightScanSetting.window = 0 ∧
      stm.inflightFrame4ScanSetting.window = 0 then
    tried
  else if checkScanParams params && layer.accept stm.tries then
    { tried with
      outstanding := tried.outstanding ++ [.start params]
      lastStart := some params }
  else ((tried.notify .fail true).stopScanTimer).enterStopped

/-- `StoppingEntry` -/
def enterStopping (layer : Layer) (stm : Stm) : Stm :=
  let entered := ({ stm with state := .stopping }).startScanTimer layer
  let tried := { entered with tries := entered.tries + 1 }
  if layer.accept stm.tries then
    { tried with outstanding := tried.outstanding ++ [.stop] }
  else { tried.stopScanTimer with state := .started }

/-- `StoppedDispatch` of `DEVD_POTIENTIAL_UPDATE` -/
def updateStopped (layer : Layer) (stm : Stm) : Stm :=
  let frame1 := normalize stm.frame1Target
  let frame4 := normalize stm.frame4Target
  if frame1.window = 0 ∧ frame4.window = 0 then stm
  else
    ({ stm with
      inflightScanSetting :=
        if scanSettingsEqual frame1 stm.currentScanSetting then
          stm.inflightScanSetting
        else frame1
      inflightFrame4ScanSetting :=
        if scanSettingsEqual frame4 stm.currentFrame4ScanSetting then
          stm.inflightFrame4ScanSetting
        else frame4 }).enterStarting layer

/-- `StartedDispatch` of `DEVD_POTIENTIAL_UPDATE` -/
def updateStarted (layer : Layer) (stm : Stm) : Stm :=
  match stm.frame1Target, stm.frame4Target with
  | some frame1, some frame4 =>
    let same1 := scanSettingsEqual frame1 stm.currentScanSetting
    let same4 := scanSettingsEqual frame4 stm.currentFrame4ScanSetting
    if same1 && same4 then stm
    else
      ({ stm with
        inflightScanSetting :=
          if same1 then stm.inflightScanSetting else resetScanSetting
        inflightFrame4ScanSetting :=
          if same4 then stm.inflightFrame4ScanSetting
          else resetScanSetting }).enterStopping layer
  | _, _ => stm.enterStopping layer

/-- `ProcessMessage` of `DEVD_POTIENTIAL_UPDATE` -/
def update (layer : Layer) (stm : Stm) : Stm :=
  match stm.state with
  | .stopped => stm.updateStopped layer
  | .started => stm.updateStarted layer
  | .starting | .stopping => stm

def startingDispatch (layer : Layer) (stm : Stm) : Message → Stm
  | .startOk =>
    let credited := ({ stm with
      currentScanSetting := stm.inflightScanSetting
      currentFrame4ScanSetting := stm.inflightFrame4ScanSetting }).notify
        .success true
    ({ credited.stopScanTimer with state := .started }).update layer
  | .startErr => ((stm.notify .fail true).stopScanTimer).enterStopped
  | .internalTimeout => ((stm.notify .timeout true).stopScanTimer).enterStopped
  | .potentialUpdate | .stopOk | .stopErr => stm

def stoppingDispatch (layer : Layer) (stm : Stm) : Message → Stm
  | .stopOk =>
    (((stm.notify .success false).stopScanTimer).enterStopped).update layer
  | .stopErr =>
    { (stm.notify .fail false).stopScanTimer with state := .started }
  | .internalTimeout =>
    (((stm.notify .timeout false).stopScanTimer).enterStopped).update layer
  | .potentialUpdate | .startOk | .startErr => stm

def processMessage (layer : Layer) (stm : Stm) (message : Message) : Stm :=
  match stm.state with
  | .stopped =>
    if message = .potentialUpdate then stm.updateStopped layer else stm
  | .starting => stm.startingDispatch layer message
  | .started =>
    if message = .potentialUpdate then stm.updateStarted layer else stm
  | .stopping => stm.stoppingDispatch layer message

theorem processMessage_update (layer : Layer) (stm : Stm) :
    stm.processMessage layer .potentialUpdate = stm.update layer := by
  unfold processMessage update
  cases stm.state with
  | _ => rfl

/-- `ClearExpiredParam`; `none` is a clock that cannot be read. -/
def clearExpiredParam (layer : Layer) (stm : Stm) :
    Option Timespec → Stm
  | none => stm
  | some now =>
    ({ stm with scanners := stm.scanners.map (Scanner.clear now) }).update layer

/-- `StopDurationTimer`, except in the timer itself. -/
def unarm (timeout : Bool) (stm : Stm) : Stm :=
  if timeout then stm else { stm with durationTimer := false }

/-- `StartDurationTimer`; `added` is what `ScheduleTimerAdd` answers. -/
def startDurationTimer (added : Bool) (stm : Stm) : Stm :=
  if added then { stm with durationTimer := true } else stm

/-- `UpdateExpireTimer` and `DurationTimeout`, which call each other while
the clock says that a duration is already over.  The clock is read at most as
often as it has readings. -/
def updateExpireTimer (layer : Layer) (added timeout : Bool) :
    List (Option Timespec) → Stm → Stm
  | some now :: readings, stm =>
    match firstExpiry stm.scanners with
    | none => stm.unarm timeout
    | some expiry =>
      if timespecDiff now expiry = 0 then
        match readings with
        | [] => stm.unarm timeout
        | reading :: later =>
          updateExpireTimer layer added true later
            ((stm.unarm timeout).clearExpiredParam layer reading)
      else (stm.unarm timeout).startDurationTimer added
  | _, stm => stm.unarm timeout

def durationTimeout (layer : Layer) (added : Bool) (stm : Stm) :
    List (Option Timespec) → Stm
  | [] => stm
  | reading :: readings =>
    updateExpireTimer layer added true readings
      (stm.clearExpiredParam layer reading)

def changeScanner (stm : Stm) (scannerId : Nat) (change : Scanner → Scanner) : Stm :=
  match stm.scanners.findIdx? (·.scannerId = scannerId) with
  | none => stm
  | some index => { stm with scanners := stm.scanners.modify index change }

def hasScanner (stm : Stm) (scannerId : Nat) : Bool :=
  stm.scanners.any (·.scannerId = scannerId)

def createScanModule (stm : Stm) (listens : Bool) : Stm :=
  match stm.scanModule.findIdx? (!·.used) with
  | none => stm
  | some index =>
    { stm with scanModule := stm.scanModule.set index ⟨true, listens⟩ }

def removeScanModule (stm : Stm) (moduleId : Nat) : Stm :=
  if moduleId < 5 then
    { stm with
      scanModule := stm.scanModule.set moduleId ⟨false, false⟩
      scanners := stm.scanners.filter (·.moduleId ≠ moduleId) }
  else stm

/-- `DevdCreateScanner`; `alloc` is the memory of the scanner. -/
def createScanner (stm : Stm) (moduleId : Nat) (alloc : Bool) : Stm :=
  if (stm.scanModule[moduleId]?).any (·.used) then
    match (List.range' 1 1024).find? (!stm.hasScanner ·) with
    | none => stm
    | some scannerId =>
      if alloc then
        { stm with
          scanners := stm.scanners ++
            [⟨scannerId, moduleId, resetScanSetting, resetScanSetting⟩] }
      else stm
  else stm

def destroyScanner (stm : Stm) (scannerId : Nat) : Stm :=
  { stm with scanners := stm.scanners.eraseP (·.scannerId = scannerId) }

/-- `NLSTK_DevdScanSetting_S` -/
structure Request where
  reportDelayMillis : Int
  duration : Int
  scanMode : ScanMode
  frameType : UInt8
  deriving DecidableEq

/-- `SetScanMode` and, for a duration, `SetScanDuration` at a reading of the
clock. -/
def Request.apply (request : Request) (reading : Option Timespec)
    (setting : ScanSetting) : ScanSetting :=
  let chosen := setScanMode setting request.scanMode
    (0 < request.reportDelayMillis)
  if 0 < request.duration then
    match reading with
    | none => { chosen with hasDuration := true }
    | some now =>
      { chosen with
        hasDuration := true
        expireTime := ⟨now.sec + request.duration, now.nsec⟩ }
  else chosen

/-- `UpdateExpireTimer` after a duration is set, unless the clock cannot be
read, when the call fails. -/
def setDuration (layer : Layer) (added : Bool) (request : Request)
    (readings : List (Option Timespec)) (stm : Stm) : Stm × Bool :=
  if 0 < request.duration then
    match readings with
    | some _ :: rest => (updateExpireTimer layer added false rest stm, true)
    | none :: _ | [] => (stm, false)
  else (stm, true)

/-- `DevdAddScanParam`; `cloned` is whether the filters are cloned. -/
def addScanParam (layer : Layer) (stm : Stm) (scannerId : Nat)
    (request : Request) (cloned added : Bool)
    (readings : List (Option Timespec)) : Stm × Bool :=
  let reading := readings.head?.join
  if scannerId = 0 then (stm, false)
  else if !stm.hasScanner scannerId then (stm, false)
  else if !cloned then (stm, false)
  else if request.scanMode = .monitor then
    (stm.changeScanner scannerId Scanner.reset, true)
  else if request.frameType = 1 then
    setDuration layer added request readings
      (stm.changeScanner scannerId fun scanner =>
        { scanner with
          scanSetting := request.apply reading scanner.scanSetting })
  else if request.frameType = 2 then
    setDuration layer added request readings
      (stm.changeScanner scannerId fun scanner =>
        { scanner with
          frame4ScanSetting :=
            request.apply reading scanner.frame4ScanSetting })
  else (stm, false)

def removeScanParam (layer : Layer) (stm : Stm) (scannerId : Nat)
    (added : Bool) (readings : List (Option Timespec)) : Stm × Bool :=
  if scannerId = 0 then (stm, false)
  else if !stm.hasScanner scannerId then (stm, false)
  else
    (updateExpireTimer layer added false readings
      (stm.changeScanner scannerId Scanner.reset), true)

def removeAllScanParam (layer : Layer) (stm : Stm) (added : Bool)
    (readings : List (Option Timespec)) : Stm :=
  updateExpireTimer layer added false readings
    { stm with scanners := stm.scanners.map Scanner.reset }

end Stm

/-- A call of the interface, the end of a duration, the answer of the
controller to the oldest command, or the busy timeout. -/
inductive Event where
  | regScanModule (listens : Bool)
  | deregScanModule (moduleId : Nat)
  | allocScannerId (moduleId : Nat) (alloc : Bool)
  | removeScannerId (scannerId : Nat)
  | startScan (scannerId : Nat) (request : Stm.Request) (cloned added : Bool)
      (readings : List (Option Timespec))
  | stopScan (scannerId : Nat) (added : Bool)
      (readings : List (Option Timespec))
  | stopAllScan (added : Bool) (readings : List (Option Timespec))
  | durationTimeout (added : Bool) (readings : List (Option Timespec))
  | answer (ok : Bool)
  | busyTimeout
  deriving DecidableEq

structure System where
  stm : Stm := {}
  scanning : Bool := false

def Command.reply (ok : Bool) : Command → Message
  | .start _ => if ok then .startOk else .startErr
  | .stop => if ok then .stopOk else .stopErr

/-- The controller scans after an accepted start and not after an accepted
stop. -/
def Command.effect (ok scanning : Bool) : Command → Bool
  | .start _ => scanning || ok
  | .stop => scanning && !ok

namespace Stm

/-- `DEVD_POTIENTIAL_UPDATE` follows a call that succeeds. -/
def updateIf (layer : Layer) (result : Stm × Bool) : Stm :=
  if result.2 then result.1.update layer else result.1

def stopAllScan (layer : Layer) (added : Bool)
    (readings : List (Option Timespec)) (stm : Stm) : Stm :=
  let removed := stm.removeAllScanParam layer added readings
  (if removed.state = .stopped then removed.notify .success false
    else removed).update layer

end Stm

namespace System

def step (layer : Layer) (system : System) : Event → System
  | .regScanModule listens =>
    { system with stm := system.stm.createScanModule listens }
  | .deregScanModule moduleId =>
    { system with
      stm := (system.stm.removeScanModule moduleId).update layer }
  | .allocScannerId moduleId alloc =>
    { system with stm := system.stm.createScanner moduleId alloc }
  | .removeScannerId scannerId =>
    { system with
      stm := (system.stm.destroyScanner scannerId).update layer }
  | .startScan scannerId request cloned added readings =>
    { system with
      stm := Stm.updateIf layer (system.stm.addScanParam layer scannerId
        request cloned added readings) }
  | .stopScan scannerId added readings =>
    { system with
      stm := Stm.updateIf layer (system.stm.removeScanParam layer scannerId
        added readings) }
  | .stopAllScan added readings =>
    { system with stm := system.stm.stopAllScan layer added readings }
  | .durationTimeout added readings =>
    { system with stm := system.stm.durationTimeout layer added readings }
  | .answer ok =>
    match system.stm.outstanding with
    | [] => system
    | command :: commands =>
      { stm := ({ system.stm with outstanding := commands }).processMessage
          layer (command.reply ok)
        scanning := command.effect ok system.scanning }
  | .busyTimeout =>
    if system.stm.internalTimer then
      { system with
        stm := system.stm.processMessage layer .internalTimeout }
    else system

end System

end NearLink.Devd
