import NearLink.Sm.Pairing

/-!
# The course of a pairing

What a link does next depends on a few of its fields: the state, the packet it
waits for, the two timers, the method.  `Control` keeps these, the values the
peer has sent, and the record of what the link has done.

Every handler does one of a few scripts of acts on them, whatever keys and
codes it computes.  The scripts of each handler are listed here, and the model
of the code is proved to follow them.  What holds of all runs is then a matter
of the acts.
-/

namespace NearLink.Sm

open Sdf Cm Opcode

structure Control where
  state : State
  dispatcher : Option Dispatcher
  role : UInt8
  lcid : UInt16
  authMethod : UInt8
  expectOpCode : UInt16
  timerHandle : Bool
  uapiTimerHandle : Bool
  timerExpired : Bool
  uapiTimerExpired : Bool
  recvFlag : Bool
  ra : Bytes
  rb : Bytes
  gConfirm : Bytes
  tConfirm : Bytes
  removed : Bool
  log : List Note

def SLink.control (slink : SLink) : Control :=
  { state := slink.state
    dispatcher := slink.dispatcher
    role := slink.role
    lcid := slink.lcid
    authMethod := slink.negoParams.authMethod
    expectOpCode := slink.expectOpCode
    timerHandle := slink.timerHandle
    uapiTimerHandle := slink.uapiTimerHandle
    timerExpired := slink.timerExpired
    uapiTimerExpired := slink.uapiTimerExpired
    recvFlag := slink.tNode.recvFlag
    ra := slink.gNode.randomR
    rb := slink.tNode.randomR
    gConfirm := slink.gNode.confirm
    tConfirm := slink.tNode.confirm
    removed := slink.removed
    log := slink.log }

inductive Field where
  | ra
  | rb
  | gConfirm
  | tConfirm
  deriving DecidableEq

inductive Act where
  | store (field : Field) (value : Bytes)
  /-- Sets `tNode.recvFlag`. -/
  | flag (value : Bool)
  | method (authMethod : UInt8)
  /-- `SM_INTERNAL_ERROR` -/
  | fail
  /-- `SM_EXTERNAL_ERROR` -/
  | external
  /-- `SM_TIMEOUT` -/
  | expire
  /-- The handle of an expired timer stays in use. -/
  | lapse (timer : Timer)
  /-- `SmSendMessage`, with a handler that returns when it fails. -/
  | send (opcode : UInt16)
  /-- `SmSendMessage`, with a handler that goes on when it fails. -/
  | attempt (opcode : UInt16)
  /-- `SmSendMessage` and the wait for the answer, with a handler that goes
  on when it fails. -/
  | exchange (opcode answer : UInt16)
  | wait (opcode : UInt16)
  | prompt
  | ask
  /-- `SM_NEGO_SUCCESS`, with what the authentication starts with behind it. -/
  | authenticate
  /-- `SM_AUTH_SUCCESS` -/
  | succeed
  | report (status : PairStatus)
  /-- The entry of `REMV`. -/
  | leave
  | bind (lcid : UInt16) (role : UInt8)
  | lose
  /-- The entry of `NEGO`. -/
  | negotiate
  /-- The entry of `MISS`. -/
  | miss
  /-- The entry of `ENCP`. -/
  | encp
  /-- The entry of `FULL`. -/
  | full
  | note (entry : Note)
  | delTimer
  | delUapiTimer
  deriving DecidableEq

abbrev Script := List Act

namespace Control

def note (control : Control) (entry : Note) : Control :=
  { control with log := control.log ++ [entry] }

def enterRemv (env : Env) (control : Control) : Control :=
  { control.note (.entered .remv) with
    state := .remv
    lcid := invalidLcid
    timerHandle := control.timerHandle && !env.directConnectRemove
    uapiTimerHandle := control.uapiTimerHandle && !env.directConnectRemove
    removed := control.removed || env.directConnectRemove }

def internalError (env : Env) (control : Control) : Control :=
  let posted := control.note .posted
  match control.state with
  | .init => posted.enterRemv env
  | .nego | .auth => (posted.note (.reported .error)).enterRemv env
  | .encp | .miss | .full | .remv => posted

/-- `SM_EXTERNAL_ERROR` and `SM_TIMEOUT`, which differ in `ENCP` only, where
they change nothing here. -/
def externalError (env : Env) (control : Control) : Control :=
  let posted := control.note .posted
  match control.state with
  | .nego | .auth => (posted.note (.reported .error)).enterRemv env
  | .init | .encp | .miss | .full | .remv => posted

def waitExpectOpCode (env : Env) (control : Control) (opcode : UInt16) :
    Control :=
  if control.timerHandle then control
  else
    { control.note (.waits opcode) with
      expectOpCode := opcode
      timerHandle := env.recvTimerAdd
      timerExpired := false }

def waitUapiInput (env : Env) (control : Control) : Control :=
  if control.uapiTimerHandle then control
  else
    { control.note .asks with
      uapiTimerHandle := env.uapiTimerAdd
      uapiTimerExpired := false }

def running (control : Control) : Timer → Bool
  | .receive => control.timerHandle && !control.timerExpired
  | .user => control.uapiTimerHandle && !control.uapiTimerExpired

def enterEncp (env : Env) (control : Control) : Control :=
  let entered := { control.note (.entered .encp) with state := .encp }
  if control.role = gNodeRole then
    if control.lcid = invalidLcid then entered
    else if env.enableEncryption then entered
    else entered.note .posted
  else entered

def authSuccess (env : Env) (control : Control) : Control :=
  let posted := control.note .posted
  match control.state with
  | .auth => (posted.note (.reported .ok)).enterEncp env
  | .init | .nego | .encp | .miss | .full | .remv => posted

def enterNego (control : Control) : Control :=
  { control.note (.negotiates control.role) with
    state := .nego
    dispatcher := some .nego
    expectOpCode :=
      if control.role = gNodeRole then pairingStart
      else pairingRequest }

def negoSuccess (control : Control) : Control :=
  let posted := control.note .posted
  let chosen := SLink.getAuthPkgDispatcher control.authMethod
  match control.state with
  | .nego =>
    { posted.note (.authenticates chosen) with
      state := .auth
      dispatcher := chosen }
  | .init | .auth | .encp | .miss | .full | .remv => posted

def store (control : Control) (value : Bytes) : Field → Control
  | .ra => { control with ra := value }
  | .rb => { control with rb := value }
  | .gConfirm => { control with gConfirm := value }
  | .tConfirm => { control with tConfirm := value }

def sent (control : Control) (opcode : UInt16) : Control :=
  control.note (.sent opcode)

@[grind =] def exec (env : Env) (control : Control) : Act → Control
  | .store field value => control.store value field
  | .flag value => { control with recvFlag := value }
  | .method authMethod => { control with authMethod := authMethod }
  | .fail => control.internalError env
  | .external | .expire => control.externalError env
  | .lapse timer =>
    { control with
      timerExpired := timer = .receive || control.timerExpired
      uapiTimerExpired := timer = .user || control.uapiTimerExpired }
  | .send opcode | .attempt opcode =>
    if env.setControllerData opcode then control.sent opcode
    else control.internalError env
  | .exchange opcode answer =>
    if env.setControllerData opcode then
      (control.sent opcode).waitExpectOpCode env answer
    else control.internalError env
  | .wait opcode => control.waitExpectOpCode env opcode
  | .prompt => control.note .prompted
  | .ask => control.waitUapiInput env
  | .authenticate => control.negoSuccess
  | .succeed => control.authSuccess env
  | .report status => control.note (.reported status)
  | .leave => control.enterRemv env
  | .bind lcid role => { control with lcid := lcid, role := role }
  | .lose => { control with lcid := invalidLcid }
  | .negotiate => control.enterNego
  | .miss => { control.note (.entered .miss) with state := .miss }
  | .encp => control.enterEncp env
  | .full => { control.note (.entered .full) with state := .full }
  | .note entry => control.note entry
  | .delTimer => { control with timerHandle := false }
  | .delUapiTimer => { control with uapiTimerHandle := false }

@[grind =] def goesOn (env : Env) (control : Control) : Act → Bool
  | .authenticate => control.state = .nego
  | .send opcode => env.setControllerData opcode
  | _ => true

@[grind =] def run (env : Env) : Script → Control → Control
  | [], control => control
  | act :: rest, control =>
    if control.goesOn env act then run env rest (control.exec env act)
    else control.exec env act

variable {control : Control} {env : Env}

theorem run_of {property : Control → Prop} {script : Script}
    (keeps : ∀ act ∈ script, ∀ control, property control →
      property (control.exec env act)) (initial : property control) :
    property (run env script control) := by
  induction script generalizing control with
  | nil => exact initial
  | cons act rest hypothesis =>
    have kept := keeps act (List.mem_cons_self ..) control initial
    unfold run
    split
    · apply hypothesis _ kept
      intro other found
      exact keeps other (.tail _ found)
    · exact kept

theorem run_append {first rest : Script}
    (on : ∀ act ∈ first, ∀ control : Control, control.goesOn env act) :
    run env (first ++ rest) control = run env rest (run env first control) := by
  induction first generalizing control with
  | nil => rfl
  | cons act acts hypothesis =>
    rw [List.cons_append, run, run,
      if_pos (on act (List.mem_cons_self ..) control),
      if_pos (on act (List.mem_cons_self ..) control)]
    apply hypothesis
    intro other found
    exact on other (.tail _ found)

end Control

namespace Scripts

structure Values where
  confirm : Bytes
  method : UInt8

def finishG (env : Env) : List Script :=
  [[.fail],
    if env.cmacGenerate .ownCode then
      [.attempt gNodeDhKey, .wait tNodeDhKey]
    else [.fail, .wait tNodeDhKey]]

def checkG (size : Nat) : List Script :=
  if size ≠ 16 then [[]]
  else [[.fail], [.send tNodeDhKey, .succeed]]

def checkT (size : Nat) : List Script :=
  if size ≠ 16 then [[]] else [[.fail], [.succeed]]

/-- A verification code of the G node where the user takes part. -/
def keepG (control : Control) (pkg : Bytes) : List Script :=
  if control.uapiTimerHandle then [[.flag true]]
  else (checkG pkg.length).map (Act.flag false :: ·)

def saveG (pkg : Bytes) : Script :=
  [.store .gConfirm (slice pkg 0 16), .store .ra (slice pkg 16 16)]

def saveT (pkg : Bytes) : Script :=
  [.store .tConfirm (slice pkg 0 16), .store .rb (slice pkg 16 16)]

def numCmp (control : Control) (opcode : UInt16) (pkg : Bytes) :
    List Script :=
  if opcode = tNodeCfmWithRb then
    if pkg.length < 32 then [[]]
    else
      [saveT pkg ++ [.send randNumRa, .fail],
        saveT pkg ++ [.send randNumRa, .prompt, .ask]]
  else if opcode = randNumRa then
    if pkg.length < 16 then [[]]
    else
      [[.store .ra (slice pkg 0 16), .fail],
        [.store .ra (slice pkg 0 16), .prompt, .ask, .wait gNodeDhKey]]
  else if opcode = gNodeDhKey then keepG control pkg
  else if opcode = tNodeDhKey then checkT pkg.length
  else [[]]

def noEntry (control : Control) (opcode : UInt16) (pkg : Bytes) :
    List Script :=
  if opcode = tNodeCfm then
    [[.send randNumRa, .wait randNumRb]]
  else if opcode = randNumRa then
    if pkg.length < 16 then [[]]
    else
      [[.store .ra (slice pkg 0 16),
        .exchange randNumRb gNodeDhKey, .prompt, .ask]]
  else if opcode = randNumRb then
    if pkg.length < 16 then [[]]
    else [[.store .rb (slice pkg 0 16), .prompt, .ask]]
  else if opcode = gNodeDhKey then keepG control pkg
  else if opcode = tNodeDhKey then checkT pkg.length
  else [[]]

def answerG : List Script :=
  [[.flag false, .fail], [.flag false, .send tNodeCfmWithRb, .fail],
    [.flag false, .send tNodeCfmWithRb, .wait gNodeDhKey]]

def pass (env : Env) (control : Control) (opcode : UInt16) (pkg : Bytes) :
    List Script :=
  if opcode = gNodeCfmWithRa then
    if pkg.length < 32 then [[]]
    else if control.uapiTimerHandle then [saveG pkg ++ [.flag true]]
    else answerG.map (saveG pkg ++ ·)
  else if opcode = tNodeCfmWithRb then
    if pkg.length < 32 then [[]]
    else [.fail] :: (finishG env).map (saveT pkg ++ ·)
  else if opcode = gNodeDhKey then checkG pkg.length
  else if opcode = tNodeDhKey then checkT pkg.length
  else [[]]

def oob (env : Env) (opcode : UInt16) (pkg : Bytes) : List Script :=
  if opcode = gNodeCfmWithRa then
    if pkg.length < 32 then [[]]
    else
      [[.fail], saveG pkg ++ [.fail], saveG pkg ++
          [.send tNodeCfmWithRb, .wait gNodeDhKey]]
  else if opcode = tNodeCfmWithRb then
    if pkg.length < 32 then [[]]
    else [.fail] :: (finishG env).map (saveT pkg ++ ·)
  else if opcode = gNodeDhKey then checkG pkg.length
  else if opcode = tNodeDhKey then checkT pkg.length
  else [[]]

def psk (env : Env) (values : Values) (opcode : UInt16) (pkg : Bytes) :
    List Script :=
  if opcode = randNumRa then
    if pkg.length < 16 then [[]]
    else
      [[.store .ra (slice pkg 0 16), .fail],
        [.store .ra (slice pkg 0 16), .store .tConfirm values.confirm,
          .send randNumRb, .wait gNodeCfm]]
  else if opcode = randNumRb then
    if pkg.length < 16 then [[]]
    else
      [[.store .rb (slice pkg 0 16), .fail],
        [.store .rb (slice pkg 0 16), .store .gConfirm values.confirm,
          .send gNodeCfm, .wait tNodeCfm]]
  else if opcode = gNodeCfm then
    if pkg.length < 16 then [[]]
    else
      [[.fail], [.store .gConfirm (slice pkg 0 16), .fail],
        [.store .gConfirm (slice pkg 0 16), .send tNodeCfm, .wait gNodeDhKey]]
  else if opcode = tNodeCfm then
    if pkg.length < 16 then [[]]
    else
      [.fail] :: (finishG env).map (Act.store .tConfirm (slice pkg 0 16) :: ·)
  else if opcode = gNodeDhKey then checkG pkg.length
  else if opcode = tNodeDhKey then checkT pkg.length
  else [[]]

def setGPassCode (env : Env) (values : Values) : List Script :=
  match env.randNum with
  | none => [[.fail]]
  | some random =>
    [[.store .ra random, .fail],
      [.store .ra random, .store .gConfirm values.confirm,
        .attempt gNodeCfmWithRa, .wait tNodeCfmWithRb]]

/-- The pass code or the password of the T node, once its confirm value is
computed. -/
def answerKept (control : Control) : List Script :=
  if control.recvFlag then answerG else [[]]

def setTPassCode (env : Env) (values : Values) (control : Control) :
    List Script :=
  match env.randNum with
  | none => [[.fail]]
  | some random =>
    [.store .rb random, .fail] ::
      (answerKept control).map
        ([Act.store .rb random, .store .tConfirm values.confirm] ++ ·)

def setPassWord (values : Values) (control : Control) : List Script :=
  (if control.role = gNodeRole then
      [[.fail], [.store .gConfirm values.confirm, .send gNodeCfmWithRa,
          .wait tNodeCfmWithRb]]
    else
      [.fail] ::
        (answerKept control).map (Act.store .tConfirm values.confirm :: ·)).map
            (Act.delUapiTimer :: ·)

def startConfirmed (values : Values) (random : Bytes) (control : Control)
    (awaited first : UInt16) : List Script :=
  if control.role = gNodeRole then [[.store .ra random, .wait awaited]]
  else
    [[.store .rb random, .fail],
      [.store .rb random, .store .tConfirm values.confirm, .send first,
        .wait randNumRa]]

def startPassCode (env : Env) (values : Values) (control : Control) :
    List Script :=
  if control.role = gNodeRole then
    [.fail] :: [.prompt, .ask] ::
      (setGPassCode env values).map (Act.prompt :: ·)
  else
    [.fail] :: [.prompt, .ask, .wait gNodeCfmWithRa] ::
      match env.randNum with
      | none => [[.prompt, .fail]]
      | some random =>
        [[.prompt, .store .rb random, .fail],
          [.prompt, .store .rb random, .store .tConfirm values.confirm,
            .wait gNodeCfmWithRa]]

def startDrawn (values : Values) (control : Control) :
    Dispatcher → Bytes → List Script
  | .numCmp, random =>
    startConfirmed values random control tNodeCfmWithRb tNodeCfmWithRb
  | .noEntry, random => startConfirmed values random control tNodeCfm tNodeCfm
  | .passWord, random =>
    if control.role = gNodeRole then [[.store .ra random, .ask]]
    else [[.store .rb random, .ask, .wait gNodeCfmWithRa]]
  | .oob, random =>
    if control.role = gNodeRole then
      [[.store .ra random, .fail],
        [.store .ra random, .store .gConfirm values.confirm,
          .send gNodeCfmWithRa, .wait tNodeCfmWithRb]]
    else
      [[.store .rb random, .fail],
        [.store .rb random, .store .tConfirm values.confirm,
          .wait gNodeCfmWithRa]]
  | .psk, random =>
    if control.role = gNodeRole then
      [[.store .ra random, .send randNumRa, .wait randNumRb]]
    else [[.store .rb random, .wait randNumRa]]
  | .passCode, _ | .nego, _ => [[]]

def start (env : Env) (values : Values) (control : Control) :
    Option Dispatcher → List Script
  | none => [[]]
  | some .nego => [[]]
  | some .passCode => startPassCode env values control
  | some method =>
    match env.randNum with
    | none => [[.fail]]
    | some random => startDrawn values control method random

theorem start_drawn {env : Env} {values : Values} {control : Control}
    {method : Dispatcher} (auth : method ≠ .nego) (other : method ≠ .passCode) :
    start env values control (some method) = env.randNum.elim [[.fail]]
      (startDrawn values control method) := by
  cases method with
  | nego => exact absurd rfl auth
  | passCode => exact absurd rfl other
  | _ =>
    simp only [start]
    cases env.randNum with
    | none | some => rfl

def authenticate (env : Env) (values : Values) (control : Control) :
    List Script :=
  (start env values control (SLink.getAuthPkgDispatcher control.authMethod)).map
      (Act.authenticate :: ·)

def nego (env : Env) (values : Values) (control : Control)
    (opcode : UInt16) (pkg : Bytes) : List Script :=
  if opcode = pairingStart then
    if pkg.length < 1 then [[]]
    else [[.send pairingRequest, .wait pairingResponse]]
  else if opcode = pairingRequest then
    if pkg.length < 10 then [[]]
    else
      [[.fail], [.method values.method, .fail],
        [.method values.method, .send pairingResponse, .wait pairingConfirm]]
  else if opcode = pairingResponse then
    if pkg.length < 10 then [[]]
    else
      [[.fail], [.method values.method, .fail],
        [.method values.method, .send pairingConfirm, .wait pairingInitInfo]]
  else if opcode = pairingConfirm then
    if pkg.length < 70 then [[]]
    else
      [.fail] :: (authenticate env values control).map
        ((if env.pubPriKey.isSome then Act.attempt pairingInitInfo
          else .fail) :: ·)
  else if opcode = pairingInitInfo then
    if pkg.length < 64 then [[]] else authenticate env values control
  else [[]]

def dispatch (env : Env) (values : Values) (control : Control)
    (opcode : UInt16) (pkg : Bytes) : Dispatcher → List Script
  | .nego => nego env values control opcode pkg
  | .numCmp => numCmp control opcode pkg
  | .noEntry => noEntry control opcode pkg
  | .passCode | .passWord => pass env control opcode pkg
  | .oob => oob env opcode pkg
  | .psk => psk env values opcode pkg

/-! ### Packets and calls -/

def passiveStart (env : Env) (control : Control) : Script :=
  if control.state = .init then
    match env.logicLink with
    | none => [.leave]
    | some (lcid, role) => [.bind lcid role, .negotiate]
  else []

/-- `MISS` has just been entered. -/
def missed (control : Control) : Control :=
  { (control.note (.entered .miss)).note .posted with state := .miss }

/-- `SM_MISS_HANDLE` right after the entry of `MISS`. -/
def missStart (env : Env) : Script :=
  [.miss, .note .posted] ++
    match env.logicLink with
    | none => []
    | some (lcid, role) =>
      [.bind lcid role, .negotiate] ++
        if role = gNodeRole then
          [.exchange pairingRequest pairingResponse]
        else []

def restart (env : Env) (values : Values) (control : Control) (pkg : Bytes) : List Script :=
  match (if env.logicLink.isSome then some .nego else control.dispatcher) with
  | none => [missStart env]
  | some method =>
    (dispatch env values control pairingRequest pkg method).map
      (missStart env ++ [Act.note (.handed pairingRequest)] ++ ·)

/-- `SmPkgDispatcher` after `SM_PASSIVE_START`. -/
def received (env : Env) (values : Values) (control : Control)
    (opcode : UInt16) (pkg : Bytes) : List Script :=
  if 0 < pkg.length ∧ opcode = control.expectOpCode then
    if control.lcid = invalidLcid then [[.fail]]
    else
      match control.dispatcher with
      | none => [[.delTimer]]
      | some method =>
        (dispatch env values control opcode pkg method).map
          ([Act.delTimer, .note (.handed opcode)] ++ ·)
  else if opcode = pairFail then
    if pkg.length = 0 then [[]] else [[.external]]
  else if opcode = pairingRequest then
    restart env values control pkg
  else if opcode = pairingStart then [[]]
  else [[.external]]

/-- `SmStartPairing` -/
def activeStart (env : Env) (control : Control) : List Script :=
  match control.state, env.logicLink with
  | .init, none => [[.leave]]
  | .init, some (lcid, role) =>
    [[.bind lcid role, .negotiate] ++
      if role = gNodeRole then
        [.send pairingRequest, .wait pairingResponse]
      else [.send pairingStart, .wait pairingRequest]]
  | .encp, some (lcid, role) => [[.bind lcid role], [.bind lcid role, .fail]]
  | _, _ => [[]]

theorem activeStart_cases {env : Env} {control : Control} {script : Script}
    (listed : script ∈ activeStart env control) :
    script = [] ∨ control.state = .init ∧ script = [.leave] ∨
      (∃ lcid role, control.state = .init ∧
        script = [.bind lcid role, .negotiate] ++
          if role = gNodeRole then
            [.send pairingRequest, .wait pairingResponse]
          else [.send pairingStart, .wait pairingRequest]) ∨
      ∃ lcid role, control.state = .encp ∧
        script ∈ [[.bind lcid role], [.bind lcid role, .fail]] := by
  unfold activeStart at listed
  split at listed
  case h_1 now _ => exact .inr (.inl ⟨now, List.mem_singleton.mp listed⟩)
  case h_2 lcid role now _ =>
    exact .inr (.inr (.inl ⟨lcid, role, now, List.mem_singleton.mp listed⟩))
  case h_3 lcid role now _ => exact .inr (.inr (.inr ⟨lcid, role, now, listed⟩))
  case h_4 => exact .inl (List.mem_singleton.mp listed)

/-- `SmRemovePairing` -/
def removePair (control : Control) : Script :=
  match control.state with
  | .nego | .auth => [.report .activeCancel, .send pairFail, .leave]
  | .init | .encp | .miss | .full => [.leave]
  | .remv => []

def confirmed (env : Env) (control : Control) (size : Nat) : List Script :=
  if control.role = gNodeRole then finishG env
  else
    [.fail] ::
      if control.recvFlag then (checkG size).map (Act.flag false :: ·)
      else [[]]

/-- `SmSetConfirm`, with the size of the code that the number comparison
keeps. -/
def setConfirm (env : Env) (control : Control) (size : Nat) : List Script :=
  (if control.authMethod = AuthMethod.numberCompare then
      confirmed env control size
    else if control.authMethod = AuthMethod.noEntry then
      confirmed env control 16
    else [[.fail]]).map ([Act.note .confirmed, .delUapiTimer] ++ ·)

def setPassCode (env : Env) (values : Values) (control : Control) :
    List Script :=
  (if control.role = gNodeRole then setGPassCode env values
    else setTPassCode env values control).map (Act.delUapiTimer :: ·)

def recoverKey (control : Control) : Script :=
  if control.state = .init then [.encp] else []

/-- `SM_EncryptChangeCbk` -/
def encryptChange (env : Env) (control : Control) (status : UInt16)
    (evtStatus : UInt8) : Script :=
  if status ≠ 0 then
    if status = 5 then
      if control.state = .encp ∧ evtStatus = 5 then missStart env else []
    else [.external]
  else if evtStatus = 0 ∧ control.state = .encp then [.full]
  else []

def encryptParamReq (env : Env) (control : Control) : Script :=
  match control.state, env.logicLink with
  | .init, none => [.report .keyMissing]
  | .init, some (lcid, role) =>
    [.report .keyMissing, .bind lcid role] ++
      if env.paramReqNegativeReply then [] else [.leave]
  | .nego, _ =>
    .report .keyMissing ::
      if env.paramReqNegativeReply then [] else [.leave]
  | .encp, some (lcid, role) =>
    .bind lcid role ::
      if role ≠ tNodeRole then
        if env.paramReqNegativeReply then [] else [.fail]
      else if env.paramReqReply then [] else [.fail]
  | _, _ => []

/-- `SM_LogicLinkListener` -/
def disconnected (control : Control) : Script :=
  .lose ::
    match control.state with
    | .nego | .auth => [.report .linkDisconnected, .leave]
    | .miss | .full => [.encp]
    | .init | .encp | .remv => []

end Scripts

end NearLink.Sm
