import NearLink.Sm.SLink

/-!
# Authentication methods

The six ways to authenticate the public keys: number comparison, no entry,
pass code, password, out of band data and a pre-shared key.  Each has a start
function, handlers for the packets of the peer, and where the user takes part
the functions that continue with the user's answer.
-/

namespace NearLink.Sm

open Sdf Cm Opcode

namespace SLink

def setRa (slink : SLink) (random : Bytes) : SLink :=
  { slink with gNode := { slink.gNode with randomR := random } }

def setRb (slink : SLink) (random : Bytes) : SLink :=
  { slink with tNode := { slink.tNode with randomR := random } }

def setGConfirm (slink : SLink) (confirm : Bytes) : SLink :=
  { slink with gNode := { slink.gNode with confirm := confirm } }

def setTConfirm (slink : SLink) (confirm : Bytes) : SLink :=
  { slink with tNode := { slink.tNode with confirm := confirm } }

/-- Sets `tNode.recvFlag`. -/
def setRecvFlag (slink : SLink) (flag : Bool) : SLink :=
  { slink with tNode := { slink.tNode with recvFlag := flag } }

/-- The shared secret and the link key, with an internal error where one of
them cannot be computed. -/
def genKeys (crypto : Crypto) (env : Env) (slink : SLink)
    (localPubKey remotePubKey : Bytes) : SLink × Bool :=
  let secret := slink.genDhKey crypto env localPubKey remotePubKey
  if secret.2 then
    let keyed := secret.1.genLinkKey crypto env
    if keyed.2 then keyed else (keyed.1.internalError env, false)
  else (secret.1.internalError env, false)

def genGKeys (crypto : Crypto) (env : Env) (slink : SLink) : SLink × Bool :=
  slink.genKeys crypto env slink.gNode.pubKey slink.tNode.pubKey

def genTKeys (crypto : Crypto) (env : Env) (slink : SLink) : SLink × Bool :=
  slink.genKeys crypto env slink.tNode.pubKey slink.gNode.pubKey

/-- How every method ends on the G node: compute the keys, send the
verification code and wait for the one of the T node. -/
def finishGNode (crypto : Crypto) (env : Env) (slink : SLink) : SLink :=
  let keyed := slink.genGKeys crypto env
  if keyed.2 then
    (keyed.1.sendGNodeDhKey crypto env).waitExpectOpCode env tNodeDhKey
  else keyed.1

def sendAndWait (env : Env) (slink : SLink) (opcode : UInt16) (pkg : Bytes)
    (answer : UInt16) : SLink :=
  let sent := slink.sendMessage env opcode pkg
  if sent.2 then sent.1.waitExpectOpCode env answer else sent.1

def gNodeCfmWithRa (slink : SLink) : Bytes :=
  slink.gNode.confirm ++ slink.gNode.randomR

def tNodeCfmWithRb (slink : SLink) : Bytes :=
  slink.tNode.confirm ++ slink.tNode.randomR

/-- Stores the confirm value and the random number in a packet of the G
node. -/
def saveGNodeCfmWithRa (slink : SLink) (pkg : Bytes) : SLink :=
  (slink.setGConfirm (slice pkg 0 16)).setRa (slice pkg 16 16)

/-- Stores the confirm value and the random number in a packet of the T
node. -/
def saveTNodeCfmWithRb (slink : SLink) (pkg : Bytes) : SLink :=
  (slink.setTConfirm (slice pkg 0 16)).setRb (slice pkg 16 16)

/-- The start of the number comparison and of the no-entry method: the G node
waits, the T node sends its confirm value. -/
def startConfirmed (crypto : Crypto) (env : Env) (slink : SLink)
    (awaited : UInt16) (send : SLink → SLink) : SLink :=
  match env.randNum with
  | none => slink.internalError env
  | some random =>
    if slink.role = gNodeRole then
      (slink.setRa random).waitExpectOpCode env awaited
    else
      match (slink.setRb random).genConfirmNum crypto env .confirm
          random with
      | none => (slink.setRb random).internalError env
      | some confirm => send ((slink.setRb random).setTConfirm confirm)

def numCmpSendTNodeCfmWithRb (env : Env) (slink : SLink) : SLink :=
  slink.sendAndWait env Opcode.tNodeCfmWithRb slink.tNodeCfmWithRb randNumRa

def numCmpAuthStart (crypto : Crypto) (env : Env) (slink : SLink) : SLink :=
  slink.startConfirmed crypto env Opcode.tNodeCfmWithRb
    (numCmpSendTNodeCfmWithRb env)

def lowSixDigits (output : Bytes) : Nat :=
  (output.reverse.foldl (fun (sum : Nat × Nat) byte =>
    let low := (sum.1 + byte.toNat % 16 * sum.2 % 1000000) % 1000000
    let base := sum.2 * 16 % 1000000
    let high := (low + byte.toNat / 16 * base % 1000000) % 1000000
    (high, base * 16 % 1000000)) (0, 1)).1

def genSixCompareCode (crypto : Crypto) (env : Env) (slink : SLink) :
    Option Nat :=
  if env.cmacGenerate .sixDigits then
    some (lowSixDigits (crypto.derivedKey slink.negoParams.codeAlgoCap.deriv
      (slink.gNode.pubKey.take 16)
      (slice slink.gNode.pubKey 16 16 ++ slink.tNode.pubKey ++
        slink.gNode.randomR ++ slink.tNode.randomR)))
  else none

def numCmpSendRandNumRa (crypto : Crypto) (env : Env) (slink : SLink) :
    SLink :=
  let sent := slink.sendMessage env randNumRa slink.gNode.randomR
  if sent.2 then
    match sent.1.genConfirmNum crypto env .check sent.1.tNode.randomR with
    | none => sent.1.internalError env
    | some confirm =>
      if sent.1.tNode.confirm ≠ confirm then sent.1.internalError env
      else
        match sent.1.genSixCompareCode crypto env with
        | none => sent.1.internalError env
        | some code =>
          (sent.1.requestCbk sent.1.negoParams.authMethod
            (some code)).waitUapiInput env
  else sent.1

def numCmpRecvTNodeCfmWithRb (crypto : Crypto) (env : Env) (slink : SLink)
    (pkg : Bytes) : SLink :=
  if pkg.length < 32 then slink
  else (slink.saveTNodeCfmWithRb pkg).numCmpSendRandNumRa crypto env

def numCmpRecvRandNumRa (crypto : Crypto) (env : Env) (slink : SLink)
    (pkg : Bytes) : SLink :=
  if pkg.length < 16 then slink
  else
    let saved := slink.setRa (slice pkg 0 16)
    match saved.genSixCompareCode crypto env with
    | none => saved.internalError env
    | some code =>
      ((saved.requestCbk saved.negoParams.authMethod
        (some code)).waitUapiInput env).waitExpectOpCode env gNodeDhKey

/-- `SM_AUTH_G_NODE_DHKEY` in `SmNumCmpAuthPkgDispatcher`: a code that
arrives before the user's answer is kept. -/
def numCmpRecvGNodeDhKey (crypto : Crypto) (env : Env) (slink : SLink)
    (pkg : Bytes) : SLink :=
  if slink.uapiTimerHandle then
    let flagged := slink.setRecvFlag true
    if pkg.length < 16 then flagged
    else
      { flagged with
        shared := { flagged.shared with
          numCmpTNodeRecvDHKey := slice pkg 0 16
          numCmpTNodeRecvDHKeySize := pkg.length } }
  else (slink.setRecvFlag false).recvGNodeDhKey crypto env pkg pkg.length

def numCmpAuthPkgDispatcher (crypto : Crypto) (env : Env) (opcode : UInt16)
    (slink : SLink) (pkg : Bytes) : SLink :=
  if opcode = Opcode.tNodeCfmWithRb then
    slink.numCmpRecvTNodeCfmWithRb crypto env pkg
  else if opcode = randNumRa then
    slink.numCmpRecvRandNumRa crypto env pkg
  else if opcode = gNodeDhKey then
    slink.numCmpRecvGNodeDhKey crypto env pkg
  else if opcode = tNodeDhKey then
    slink.recvTNodeDhKey crypto env pkg
  else slink

def numCmpHandleTNode (crypto : Crypto) (env : Env) (slink : SLink) :
    SLink :=
  let keyed := slink.genTKeys crypto env
  if keyed.2 then
    if keyed.1.tNode.recvFlag then
      (keyed.1.setRecvFlag false).recvGNodeDhKey crypto env
        keyed.1.shared.numCmpTNodeRecvDHKey
        keyed.1.shared.numCmpTNodeRecvDHKeySize
    else keyed.1
  else keyed.1

def numCmpContinueNumComparison (crypto : Crypto) (env : Env) (slink : SLink) : SLink :=
  if slink.role = gNodeRole then slink.finishGNode crypto env
  else slink.numCmpHandleTNode crypto env

def noEntrySendTNodeCfm (env : Env) (slink : SLink) : SLink :=
  slink.sendAndWait env tNodeCfm slink.tNode.confirm randNumRa

def noEntryAuthStart (crypto : Crypto) (env : Env) (slink : SLink) : SLink :=
  slink.startConfirmed crypto env tNodeCfm (noEntrySendTNodeCfm env)

/-- `NoEntryRecvTNodeCfm`, with the `NoEntrySendRandNumRa` that is all it
does: the confirm value is not looked at. -/
def noEntryRecvTNodeCfm (env : Env) (slink : SLink) : SLink :=
  slink.sendAndWait env randNumRa slink.gNode.randomR randNumRb

def noEntrySendRandNumRb (env : Env) (slink : SLink) : SLink :=
  slink.sendAndWait env randNumRb slink.tNode.randomR gNodeDhKey

def noEntryRecvRandNumRa (env : Env) (slink : SLink) (pkg : Bytes) : SLink :=
  if pkg.length < 16 then slink
  else
    let sent := (slink.setRa (slice pkg 0 16)).noEntrySendRandNumRb env
    (sent.requestCbk sent.negoParams.authMethod none).waitUapiInput env

def noEntryRecvRandNumRb (env : Env) (slink : SLink) (pkg : Bytes) : SLink :=
  if pkg.length < 16 then slink
  else
    let saved := slink.setRb (slice pkg 0 16)
    (saved.requestCbk saved.negoParams.authMethod none).waitUapiInput env

/-- `SM_AUTH_G_NODE_DHKEY` in `SmNoEntryAuthPkgDispatcher` -/
def noEntryRecvGNodeDhKey (crypto : Crypto) (env : Env) (slink : SLink)
    (pkg : Bytes) : SLink :=
  if slink.uapiTimerHandle then
    let flagged := slink.setRecvFlag true
    if pkg.length ≠ 16 then flagged
    else
      { flagged with
        shared := { flagged.shared with
          noEntryTNodeRecvDHKey := slice pkg 0 16 } }
  else (slink.setRecvFlag false).recvGNodeDhKey crypto env pkg pkg.length

def noEntryAuthPkgDispatcher (crypto : Crypto) (env : Env) (opcode : UInt16)
    (slink : SLink) (pkg : Bytes) : SLink :=
  if opcode = tNodeCfm then slink.noEntryRecvTNodeCfm env
  else if opcode = randNumRa then slink.noEntryRecvRandNumRa env pkg
  else if opcode = randNumRb then slink.noEntryRecvRandNumRb env pkg
  else if opcode = gNodeDhKey then
    slink.noEntryRecvGNodeDhKey crypto env pkg
  else if opcode = tNodeDhKey then
    slink.recvTNodeDhKey crypto env pkg
  else slink

def clearNoEntryCode (slink : SLink) : SLink :=
  { slink with
    shared := { slink.shared with
      noEntryTNodeRecvDHKey := List.replicate 16 0 } }

def noEntryContinueNoentry (crypto : Crypto) (env : Env) (slink : SLink) :
    SLink :=
  if slink.role = gNodeRole then slink.finishGNode crypto env
  else
    let keyed := slink.genTKeys crypto env
    if keyed.2 then
      if keyed.1.tNode.recvFlag then
        ((keyed.1.setRecvFlag false).recvGNodeDhKey crypto env
          keyed.1.shared.noEntryTNodeRecvDHKey 16).clearNoEntryCode
      else keyed.1
    else keyed.1

/-- `GenPassCodeConfirmNum` and `GenPassWordConfirmNum` -/
def genMixedConfirmNum (crypto : Crypto) (env : Env) (slink : SLink)
    (use : MacUse) (key mixed : Bytes) : Option Bytes :=
  if env.cmacGenerate use then
    some (crypto.derivedKey slink.negoParams.codeAlgoCap.deriv key
      (slink.gNode.pubKey ++ slink.tNode.pubKey ++ mixed))
  else none

/-- `CheckPassCodeConfirm` and `CheckPassWordConfirm` -/
def checkMixedConfirm (crypto : Crypto) (env : Env) (slink : SLink)
    (confirmRecv random mixed : Bytes) : Bool :=
  slink.genMixedConfirmNum crypto env .check random mixed = some confirmRecv

/-- `PassCodeSendTNodeCfmWithRb` and `PassWordSendTNodeCfmWithRb` -/
def passSendTNodeCfmWithRb (crypto : Crypto) (env : Env) (slink : SLink) :
    SLink :=
  let sent := slink.sendMessage env Opcode.tNodeCfmWithRb
    slink.tNodeCfmWithRb
  if sent.2 then
    let keyed := sent.1.genTKeys crypto env
    if keyed.2 then keyed.1.waitExpectOpCode env gNodeDhKey
    else keyed.1
  else sent.1

/-- `PassCodeRecvTNodeCfmWithRb` and `PassWordRecvTNodeCfmWithRb`, with the
mixed code of the G node. -/
def passRecvTNodeCfmWithRb (crypto : Crypto) (env : Env) (slink : SLink)
    (mixed pkg : Bytes) : SLink :=
  if pkg.length < 32 then slink
  else if slink.checkMixedConfirm crypto env (slice pkg 0 16)
      (slice pkg 16 16) mixed then
    (slink.saveTNodeCfmWithRb pkg).finishGNode crypto env
  else slink.internalError env

/-- The end of `PassCodeRecvGNodeCfmWithRa` and `PassWordRecvGNodeCfmWithRa`
and of the functions that take the user's answer on the T node: the flag goes
back, the stored confirm value is checked and answered. -/
def passAnswerGNodeCfm (crypto : Crypto) (env : Env) (slink : SLink)
    (mixed : Bytes) : SLink :=
  let cleared := slink.setRecvFlag false
  if cleared.checkMixedConfirm crypto env cleared.gNode.confirm
      cleared.gNode.randomR mixed then
    cleared.passSendTNodeCfmWithRb crypto env
  else cleared.internalError env

/-- `PassCodeRecvGNodeCfmWithRa` and `PassWordRecvGNodeCfmWithRa` -/
def passRecvGNodeCfmWithRa (crypto : Crypto) (env : Env) (slink : SLink)
    (mixed pkg : Bytes) : SLink :=
  if pkg.length < 32 then slink
  else
    let saved := slink.saveGNodeCfmWithRa pkg
    if saved.uapiTimerHandle then saved.setRecvFlag true
    else saved.passAnswerGNodeCfm crypto env mixed

/-- The packets of the pass code and the password method, with the mixed
codes of both nodes. -/
def passAuthPkgDispatcher (crypto : Crypto) (env : Env) (opcode : UInt16)
    (slink : SLink) (gMixed tMixed pkg : Bytes) : SLink :=
  if opcode = Opcode.gNodeCfmWithRa then
    slink.passRecvGNodeCfmWithRa crypto env tMixed pkg
  else if opcode = Opcode.tNodeCfmWithRb then
    slink.passRecvTNodeCfmWithRb crypto env gMixed pkg
  else if opcode = gNodeDhKey then
    slink.recvGNodeDhKey crypto env pkg pkg.length
  else if opcode = tNodeDhKey then
    slink.recvTNodeDhKey crypto env pkg
  else slink

def passCodeAuthPkgDispatcher (crypto : Crypto) (env : Env)
    (opcode : UInt16) (slink : SLink) (pkg : Bytes) : SLink :=
  slink.passAuthPkgDispatcher crypto env opcode slink.gNode.mixCode
    slink.tNode.mixCode pkg

def passWordAuthPkgDispatcher (crypto : Crypto) (env : Env)
    (opcode : UInt16) (slink : SLink) (pkg : Bytes) : SLink :=
  slink.passAuthPkgDispatcher crypto env opcode slink.gNode.mixWord
    slink.tNode.mixWord pkg

def generateSixDigits (env : Env) : Option Nat :=
  env.randDigits.map fun (high, middle, low) =>
    (high.toNat * 2 ^ 12 + middle.toNat * 2 ^ 4 + low.toNat / 2 ^ 4) % 900000
      + 100000

/-- `GenMixPassCode`, which leaves the old code where it fails. -/
def genMixPassCode (crypto : Crypto) (env : Env) (slink : SLink)
    (passCode : UInt32) (mixed : Bytes) : Bytes :=
  if env.cmacGenerate .mix then
    crypto.derivedKey slink.negoParams.codeAlgoCap.deriv
      (slink.gNode.pubKey.take 16)
      (passCodeBytes passCode ++ env.stackBytes)
  else mixed

/-- `GenMixPassWord`, which leaves the old code where it fails. -/
def genMixPassWord (crypto : Crypto) (env : Env) (slink : SLink)
    (passWord mixed : Bytes) : Bytes :=
  if env.cmacGenerate .mix then
    crypto.derivedKey slink.negoParams.codeAlgoCap.deriv
      (slink.gNode.pubKey.take 16) passWord
  else mixed

def setGMixCode (slink : SLink) (mixed : Bytes) : SLink :=
  { slink with gNode := { slink.gNode with mixCode := mixed } }

def setTMixCode (slink : SLink) (mixed : Bytes) : SLink :=
  { slink with tNode := { slink.tNode with mixCode := mixed } }

def setGPassCode (slink : SLink) (passCode : UInt32) : SLink :=
  { slink with gNode := { slink.gNode with passCode := passCode } }

def setTPassCode (slink : SLink) (passCode : UInt32) : SLink :=
  { slink with tNode := { slink.tNode with passCode := passCode } }

/-- The random number, the mixed code and the confirm value of the G node,
which `PassCodeStartPatternInputT` and `SmPassCodeSetGPassCode` compute. -/
def passCodePrepareG (crypto : Crypto) (env : Env) (slink : SLink) :
    SLink × Bool :=
  match env.randNum with
  | none => (slink.internalError env, false)
  | some random =>
    let drawn := slink.setRa random
    let mixed := drawn.setGMixCode (drawn.genMixPassCode crypto env
      drawn.gNode.passCode drawn.gNode.mixCode)
    match mixed.genMixedConfirmNum crypto env .confirm random
        mixed.gNode.mixCode with
    | none => (mixed.internalError env, false)
    | some confirm => (mixed.setGConfirm confirm, true)

/-- The random number, the mixed code and the confirm value of the T node,
which `PassCodeStartPatternInputG` and `SmPassCodeSetTPassCode` compute. -/
def passCodePrepareT (crypto : Crypto) (env : Env) (slink : SLink) :
    SLink × Bool :=
  match env.randNum with
  | none => (slink.internalError env, false)
  | some random =>
    let drawn := slink.setRb random
    let mixed := drawn.setTMixCode (drawn.genMixPassCode crypto env
      drawn.tNode.passCode drawn.tNode.mixCode)
    match mixed.genMixedConfirmNum crypto env .confirm random
        mixed.tNode.mixCode with
    | none => (mixed.internalError env, false)
    | some confirm => (mixed.setTConfirm confirm, true)

/-- `SmPassCodeSetGPassCode`.  The wait is armed even when the packet cannot
be sent. -/
def passCodeSetGPassCode (crypto : Crypto) (env : Env) (slink : SLink) :
    SLink :=
  let prepared := slink.passCodePrepareG crypto env
  if prepared.2 then
    (prepared.1.sendMessage env Opcode.gNodeCfmWithRa
      prepared.1.gNodeCfmWithRa).1.waitExpectOpCode env Opcode.tNodeCfmWithRb
  else prepared.1

def passCodeSetTPassCode (crypto : Crypto) (env : Env) (slink : SLink) :
    SLink :=
  let prepared := slink.passCodePrepareT crypto env
  if prepared.2 then
    if prepared.1.tNode.recvFlag then
      prepared.1.passAnswerGNodeCfm crypto env prepared.1.tNode.mixCode
    else prepared.1
  else prepared.1

/-- `PassCodeStartPatternInputG`: the T node displays, the G node enters. -/
def passCodeStartPatternInputG (crypto : Crypto) (env : Env) (slink : SLink) : SLink :=
  if slink.role = gNodeRole then
    (slink.requestCbk slink.negoParams.authMethod none).waitUapiInput env
  else
    match generateSixDigits env with
    | none => (slink.setTPassCode 0).internalError env
    | some code =>
      let shown := (slink.setTPassCode (UInt32.ofNat code)).requestCbk
        slink.negoParams.authMethod (some code)
      let prepared := shown.passCodePrepareT crypto env
      if prepared.2 then
        prepared.1.waitExpectOpCode env Opcode.gNodeCfmWithRa
      else prepared.1

/-- `PassCodeStartPatternInputT`: the G node displays, the T node enters. -/
def passCodeStartPatternInputT (crypto : Crypto) (env : Env) (slink : SLink) : SLink :=
  if slink.role = gNodeRole then
    match generateSixDigits env with
    | none => (slink.setGPassCode 0).internalError env
    | some code =>
      ((slink.setGPassCode (UInt32.ofNat code)).requestCbk
        slink.negoParams.authMethod (some code)).passCodeSetGPassCode crypto env
  else
    ((slink.requestCbk slink.negoParams.authMethod none).waitUapiInput
      env).waitExpectOpCode env Opcode.gNodeCfmWithRa

/-- `SmPassCodeAuthStart`, with the cases of `CheckPassCodePattern`. -/
def passCodeAuthStart (crypto : Crypto) (env : Env) (slink : SLink) :
    SLink :=
  if slink.gNode.ioAbility = 2 ∨ slink.tNode.ioAbility = 0 then
    slink.passCodeStartPatternInputG crypto env
  else if slink.gNode.ioAbility = 0 ∨ slink.tNode.ioAbility = 2 then
    slink.passCodeStartPatternInputT crypto env
  else slink.internalError env

def passWordAuthStart (env : Env) (slink : SLink) : SLink :=
  match env.randNum with
  | none => slink.internalError env
  | some random =>
    if slink.role = gNodeRole then (slink.setRa random).waitUapiInput env
    else
      ((slink.setRb random).waitUapiInput env).waitExpectOpCode env
        Opcode.gNodeCfmWithRa

def setGMixWord (slink : SLink) (mixed : Bytes) : SLink :=
  { slink with gNode := { slink.gNode with mixWord := mixed } }

def setTMixWord (slink : SLink) (mixed : Bytes) : SLink :=
  { slink with tNode := { slink.tNode with mixWord := mixed } }

def passWordSetGPassWord (crypto : Crypto) (env : Env) (slink : SLink)
    (passWord : Bytes) : SLink :=
  let mixed := slink.setGMixWord (slink.genMixPassWord crypto env passWord
    slink.gNode.mixWord)
  match mixed.genMixedConfirmNum crypto env .confirm mixed.gNode.randomR
      mixed.gNode.mixWord with
  | none => mixed.internalError env
  | some confirm =>
    let ready := mixed.setGConfirm confirm
    ready.sendAndWait env Opcode.gNodeCfmWithRa ready.gNodeCfmWithRa
      Opcode.tNodeCfmWithRb

def passWordSetTPassWord (crypto : Crypto) (env : Env) (slink : SLink)
    (passWord : Bytes) : SLink :=
  let mixed := slink.setTMixWord (slink.genMixPassWord crypto env passWord
    slink.tNode.mixWord)
  match mixed.genMixedConfirmNum crypto env .confirm mixed.tNode.randomR
      mixed.tNode.mixWord with
  | none => mixed.internalError env
  | some confirm =>
    let ready := mixed.setTConfirm confirm
    if ready.tNode.recvFlag then
      ready.passAnswerGNodeCfm crypto env ready.tNode.mixWord
    else ready

def checkOobConfirm (crypto : Crypto) (env : Env) (slink : SLink)
    (confirmRecv random : Bytes) : Bool :=
  slink.genConfirmNum crypto env .check random = some confirmRecv

/-- `SmOobAuthStart`, with `OobSendGNodeCfmWithRa`. -/
def oobAuthStart (crypto : Crypto) (env : Env) (slink : SLink) : SLink :=
  match env.randNum with
  | none => slink.internalError env
  | some random =>
    if slink.role = gNodeRole then
      match (slink.setRa random).genConfirmNum crypto env .confirm
          random with
      | none => (slink.setRa random).internalError env
      | some confirm =>
        let ready := (slink.setRa random).setGConfirm confirm
        ready.sendAndWait env Opcode.gNodeCfmWithRa ready.gNodeCfmWithRa
          Opcode.tNodeCfmWithRb
    else
      match (slink.setRb random).genConfirmNum crypto env .confirm
          random with
      | none => (slink.setRb random).internalError env
      | some confirm =>
        ((slink.setRb random).setTConfirm confirm).waitExpectOpCode env
          Opcode.gNodeCfmWithRa

/-- `OobRecvGNodeCfmWithRa`, with `OobSendTNodeCfmWithRb`. -/
def oobRecvGNodeCfmWithRa (crypto : Crypto) (env : Env) (slink : SLink)
    (pkg : Bytes) : SLink :=
  if pkg.length < 32 then slink
  else if slink.checkOobConfirm crypto env (slice pkg 0 16)
      (slice pkg 16 16) then
    let keyed := (slink.saveGNodeCfmWithRa pkg).genTKeys crypto env
    if keyed.2 then
      keyed.1.sendAndWait env Opcode.tNodeCfmWithRb keyed.1.tNodeCfmWithRb
        gNodeDhKey
    else keyed.1
  else slink.internalError env

def oobRecvTNodeCfmWithRb (crypto : Crypto) (env : Env) (slink : SLink)
    (pkg : Bytes) : SLink :=
  if pkg.length < 32 then slink
  else if slink.checkOobConfirm crypto env (slice pkg 0 16)
      (slice pkg 16 16) then
    (slink.saveTNodeCfmWithRb pkg).finishGNode crypto env
  else slink.internalError env

def oobAuthPkgDispatcher (crypto : Crypto) (env : Env) (opcode : UInt16)
    (slink : SLink) (pkg : Bytes) : SLink :=
  if opcode = Opcode.gNodeCfmWithRa then
    slink.oobRecvGNodeCfmWithRa crypto env pkg
  else if opcode = Opcode.tNodeCfmWithRb then
    slink.oobRecvTNodeCfmWithRb crypto env pkg
  else if opcode = gNodeDhKey then
    slink.recvGNodeDhKey crypto env pkg pkg.length
  else if opcode = tNodeDhKey then
    slink.recvTNodeDhKey crypto env pkg
  else slink

def genPskConfirmNum (crypto : Crypto) (env : Env) (slink : SLink)
    (use : MacUse) (random : Bytes) : Option Bytes :=
  if env.cmacGenerate use then
    some (crypto.derivedKey slink.negoParams.codeAlgoCap.deriv
      (slink.psk.take 16)
      (slink.gNode.pubKey ++ slink.tNode.pubKey ++ random))
  else none

def checkPskConfirm (crypto : Crypto) (env : Env) (slink : SLink)
    (confirmRecv random : Bytes) : Bool :=
  slink.genPskConfirmNum crypto env .check random = some confirmRecv

/-- `SmPskAuthStart`, with `PskSendRandNumRa`. -/
def pskAuthStart (env : Env) (slink : SLink) : SLink :=
  match env.randNum with
  | none => slink.internalError env
  | some random =>
    if slink.role = gNodeRole then
      (slink.setRa random).sendAndWait env randNumRa random randNumRb
    else (slink.setRb random).waitExpectOpCode env randNumRa

/-- `PskRecvRandNumRa`, with `PskSendRandNumRb`. -/
def pskRecvRandNumRa (crypto : Crypto) (env : Env) (slink : SLink)
    (pkg : Bytes) : SLink :=
  if pkg.length < 16 then slink
  else
    let saved := slink.setRa (slice pkg 0 16)
    match saved.genPskConfirmNum crypto env .confirm
        saved.tNode.randomR with
    | none => saved.internalError env
    | some confirm =>
      (saved.setTConfirm confirm).sendAndWait env randNumRb
        saved.tNode.randomR gNodeCfm

/-- `PskRecvRandNumRb`, with `PskSendGNodeCfm`. -/
def pskRecvRandNumRb (crypto : Crypto) (env : Env) (slink : SLink)
    (pkg : Bytes) : SLink :=
  if pkg.length < 16 then slink
  else
    let saved := slink.setRb (slice pkg 0 16)
    match saved.genPskConfirmNum crypto env .confirm
        saved.gNode.randomR with
    | none => saved.internalError env
    | some confirm =>
      (saved.setGConfirm confirm).sendAndWait env gNodeCfm confirm tNodeCfm

/-- `PskRecvGNodeCfm`, with `PskSendTNodeCfm`. -/
def pskRecvGNodeCfm (crypto : Crypto) (env : Env) (slink : SLink)
    (pkg : Bytes) : SLink :=
  if pkg.length < 16 then slink
  else if slink.checkPskConfirm crypto env (slice pkg 0 16)
      slink.gNode.randomR then
    let keyed := (slink.setGConfirm (slice pkg 0 16)).genTKeys crypto env
    if keyed.2 then
      keyed.1.sendAndWait env tNodeCfm keyed.1.tNode.confirm gNodeDhKey
    else keyed.1
  else slink.internalError env

def pskRecvTNodeCfm (crypto : Crypto) (env : Env) (slink : SLink)
    (pkg : Bytes) : SLink :=
  if pkg.length < 16 then slink
  else if slink.checkPskConfirm crypto env (slice pkg 0 16)
      slink.tNode.randomR then
    (slink.setTConfirm (slice pkg 0 16)).finishGNode crypto env
  else slink.internalError env

def pskAuthPkgDispatcher (crypto : Crypto) (env : Env) (opcode : UInt16)
    (slink : SLink) (pkg : Bytes) : SLink :=
  if opcode = randNumRa then slink.pskRecvRandNumRa crypto env pkg
  else if opcode = randNumRb then
    slink.pskRecvRandNumRb crypto env pkg
  else if opcode = gNodeCfm then slink.pskRecvGNodeCfm crypto env pkg
  else if opcode = tNodeCfm then slink.pskRecvTNodeCfm crypto env pkg
  else if opcode = gNodeDhKey then
    slink.recvGNodeDhKey crypto env pkg pkg.length
  else if opcode = tNodeDhKey then
    slink.recvTNodeDhKey crypto env pkg
  else slink

def getAuthPkgDispatcher (authMethod : UInt8) : Option Dispatcher :=
  if authMethod = AuthMethod.numberCompare then some .numCmp
  else if authMethod = AuthMethod.noEntry then some .noEntry
  else if authMethod = AuthMethod.passcode then some .passCode
  else if authMethod = AuthMethod.passwordEntry then some .passWord
  else if authMethod = AuthMethod.outOfBand then some .oob
  else if authMethod = AuthMethod.psk then some .psk
  else none

/-- The functions of `SmGetAuthStartFunc`, by the dispatcher of their
method. -/
def authStart (crypto : Crypto) (env : Env) (slink : SLink) :
    Dispatcher → SLink
  | .numCmp => slink.numCmpAuthStart crypto env
  | .noEntry => slink.noEntryAuthStart crypto env
  | .passCode => slink.passCodeAuthStart crypto env
  | .passWord => slink.passWordAuthStart env
  | .oob => slink.oobAuthStart crypto env
  | .psk => slink.pskAuthStart env
  | .nego => slink

/-- `AuthEntry` -/
def enterAuth (crypto : Crypto) (env : Env) (slink : SLink) : SLink :=
  let chosen := getAuthPkgDispatcher slink.negoParams.authMethod
  let entered :=
    { slink.note (.authenticates chosen) with
      state := .auth
      dispatcher := chosen }
  match chosen with
  | none => entered
  | some method => entered.authStart crypto env method

/-- `SM_NEGO_SUCCESS` in each state. -/
def negoSuccess (crypto : Crypto) (env : Env) (slink : SLink) : SLink :=
  let posted := slink.note .posted
  match slink.state with
  | .nego => posted.enterAuth crypto env
  | .init | .auth | .encp | .miss | .full | .remv => posted

end SLink

end NearLink.Sm
