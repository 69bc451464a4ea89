import NearLink.Sm.Authenticate

/-!
# Negotiation

The two ends agree on an authentication method, a key length and four
algorithms, and exchange their public keys.  The G node asks, the T node
answers; a T node that wants to pair first asks the G node to begin.
-/

namespace NearLink.Sm

open Sdf Cm Opcode

/-- The bit fields of `NLSTK_SmAuthReq_S` in their byte. -/
def AuthReq.toByte (authReq : AuthReq) : UInt8 :=
  let mitmDefend : UInt8 := (authReq.mitmDefend &&& 1) <<< 2
  let kpressNotif : UInt8 := (authReq.kpressNotif &&& 1) <<< 3
  let reserved : UInt8 := authReq.reserved <<< 4
  (authReq.secAttribute &&& 3) ||| mitmDefend ||| kpressNotif ||| reserved

def AuthReq.ofByte (byte : UInt8) : AuthReq :=
  ⟨byte &&& 3, (byte >>> 2) &&& 1, (byte >>> 3) &&& 1, byte >>> 4⟩

structure PairReqRspMsg where
  ioAbility : UInt8
  oobDataFlag : UInt8
  authReq : AuthReq
  secKeyMaxLen : UInt8
  secInfoDis : UInt8
  codeAlgoCap : AlgoCap
  pskFlag : UInt8

namespace PairReqRspMsg

def toBytes (msg : PairReqRspMsg) : Bytes :=
  [msg.ioAbility, msg.oobDataFlag, msg.authReq.toByte, msg.secKeyMaxLen,
    msg.secInfoDis, msg.codeAlgoCap.enc, msg.codeAlgoCap.intg,
    msg.codeAlgoCap.deriv, msg.codeAlgoCap.nego, msg.pskFlag]

def ofBytes (pkg : Bytes) : PairReqRspMsg :=
  { ioAbility := pkg.getD 0 0
    oobDataFlag := pkg.getD 1 0
    authReq := AuthReq.ofByte (pkg.getD 2 0)
    secKeyMaxLen := pkg.getD 3 0
    secInfoDis := pkg.getD 4 0
    codeAlgoCap :=
      ⟨pkg.getD 5 0, pkg.getD 6 0, pkg.getD 7 0, pkg.getD 8 0⟩
    pskFlag := pkg.getD 9 0 }

end PairReqRspMsg

def setPairingReqRspMsg (localParams : LocalParams) : PairReqRspMsg :=
  { ioAbility := localParams.ioAbility
    oobDataFlag := localParams.oobDataFlag
    authReq := { localParams.authReq with reserved := 0 }
    secKeyMaxLen := localParams.secKeyMaxLen
    secInfoDis := localParams.distIrkFlag ||| (localParams.distAddrFlag <<< 1)
    codeAlgoCap := localParams.codeAlgoCap
    pskFlag := localParams.pskFlag }

/-- `PairingParamCheck` succeeds. -/
def pairingParamCheck (msg : PairReqRspMsg) : Bool :=
  !(msg.ioAbility ≥ 5 || msg.pskFlag ≥ 2 || msg.oobDataFlag > 1 ||
    msg.secKeyMaxLen < 7 || msg.secInfoDis > 3)

/-- The table of `GetAuthMethod`, by the abilities of the T node and then of
the G node.  Its last row and column are left out of the initialiser. -/
def authMethodTable : List (List UInt8) :=
  [[1, 1, 2, 1, 2, 0], [1, 0, 2, 1, 0, 0], [2, 2, 3, 1, 3, 0],
    [1, 1, 1, 1, 1, 0],
    [2, 0, 3, 1, 0, 0],
    [0, 0, 0, 0, 0, 0]]

def getAuthMethod (gNodeIo tNodeIo : UInt8) : UInt8 :=
  if gNodeIo ≥ 6 ∨ tNodeIo ≥ 6 then AuthMethod.noEntry
  else (authMethodTable.getD tNodeIo.toNat []).getD gNodeIo.toNat 0

def highestAlgo (mask : UInt8) : Option UInt8 :=
  ([3, 2, 1, 0].find? fun (bit : UInt8) => mask &&& (1 <<< bit) ≠ 0).map (· + 1)

namespace AlgoCap

/-- The loops of `NegoEncAlgo` on the masks of both ends. -/
def choose (remote ours : AlgoCap) : AlgoCap :=
  let enc := remote.enc &&& ours.enc
  let intg := remote.intg &&& ours.intg
  let deriv := remote.deriv &&& ours.deriv
  let nego := remote.nego &&& ours.nego
  let agreed := (highestAlgo nego).getD nego
  match highestAlgo (enc &&& intg &&& deriv) with
  | none => ⟨enc, intg, deriv, agreed⟩
  | some algo => ⟨algo, algo, algo, agreed⟩

end AlgoCap

namespace SLink

/-- `NegoEncAlgo`.  A peer without a key agreement algorithm is an old device
with ECDH P-256; when the link cannot be marked so, nothing is chosen. -/
def negoEncAlgo (env : Env) (slink : SLink) (msg : PairReqRspMsg) : SLink :=
  if msg.codeAlgoCap.nego = 0 ∧ !env.setLogicLinkDeviceType then slink
  else
    let remote :=
      if msg.codeAlgoCap.nego = 0 then { msg.codeAlgoCap with nego := 2 }
      else msg.codeAlgoCap
    { slink with negoParams := { slink.negoParams with
        codeAlgoCap := remote.choose env.localParams.codeAlgoCap } }

/-- The authentication method of `PairingNego`. -/
def negoAuthMethod (env : Env) (slink : SLink) (msg : PairReqRspMsg)
    (gMitmDefend tMitmDefend : UInt8) : UInt8 :=
  if slink.gNode.pskFlag &&& slink.tNode.pskFlag = 1 then AuthMethod.psk
  else if msg.oobDataFlag &&& env.localParams.oobDataFlag = 1 then
    AuthMethod.outOfBand
  else if gMitmDefend = 0 ∧ tMitmDefend = 0 then AuthMethod.noEntry
  else getAuthMethod slink.gNode.ioAbility slink.tNode.ioAbility

def setAuthMethod (slink : SLink) (authMethod : UInt8) : SLink :=
  { slink with negoParams :=
      { slink.negoParams with authMethod := authMethod } }

/-- The attributes, the key length and the distribution flags of
`PairingNego`. -/
def setNegoParams (env : Env) (slink : SLink) (msg : PairReqRspMsg) :
    SLink :=
  { slink with negoParams := { slink.negoParams with
      secAttribute :=
        msg.authReq.secAttribute &&& env.localParams.authReq.secAttribute
      kpressNotif :=
        msg.authReq.kpressNotif &&& env.localParams.authReq.kpressNotif
      secKeyMaxLen :=
        if msg.secKeyMaxLen < env.localParams.secKeyMaxLen then
          msg.secKeyMaxLen
        else env.localParams.secKeyMaxLen
      distIrkFlag := (msg.secInfoDis &&& 1) &&& env.localParams.distIrkFlag
      distAddrFlag :=
        ((msg.secInfoDis >>> 1) &&& 1) &&& env.localParams.distAddrFlag } }

def pairingNego (env : Env) (slink : SLink) (msg : PairReqRspMsg)
    (gMitmDefend tMitmDefend : UInt8) : SLink × Bool :=
  if pairingParamCheck msg then
    let authMethod := slink.negoAuthMethod env msg gMitmDefend tMitmDefend
    let chosen := slink.setAuthMethod authMethod
    if (env.localParams.authMethodMask >>> authMethod) &&& 1 = 0 then
      (chosen, false)
    else ((chosen.setNegoParams env msg).negoEncAlgo env msg, true)
  else (slink, false)

/-- Stores the abilities and the pre-shared key flags of both nodes. -/
def setAbilities (slink : SLink) (gIo gPsk tIo tPsk : UInt8) : SLink :=
  { slink with
    gNode := { slink.gNode with ioAbility := gIo, pskFlag := gPsk }
    tNode := { slink.tNode with ioAbility := tIo, pskFlag := tPsk } }

def sendPairingStart (env : Env) (slink : SLink) : SLink :=
  slink.sendAndWait env pairingStart
    [env.localParams.authReq.toByte] pairingRequest

def sendPairingReq (env : Env) (slink : SLink) : SLink :=
  slink.sendAndWait env pairingRequest
    (setPairingReqRspMsg env.localParams).toBytes pairingResponse

def sendPairingRsp (env : Env) (slink : SLink) : SLink :=
  slink.sendAndWait env pairingResponse
    (setPairingReqRspMsg env.localParams).toBytes pairingConfirm

def negoStart (env : Env) (slink : SLink) : SLink :=
  if slink.role = gNodeRole then slink.sendPairingReq env
  else slink.sendPairingStart env

def recvPairingStart (env : Env) (slink : SLink) (pkg : Bytes) : SLink :=
  if pkg.length < 1 then slink else slink.sendPairingReq env

/-- The packet of `SendPairingCfm`. -/
def pairCfmMsg (slink : SLink) (pubKey : Bytes) : Bytes :=
  [slink.negoParams.secKeyMaxLen, slink.negoParams.authMethod,
    slink.negoParams.codeAlgoCap.enc, slink.negoParams.codeAlgoCap.intg,
    slink.negoParams.codeAlgoCap.deriv, slink.negoParams.codeAlgoCap.nego] ++
    pubKey

def setGKeyPair (slink : SLink) (priKey pubKey : Bytes) : SLink :=
  { slink with
    priKey := priKey
    gNode := { slink.gNode with pubKey := pubKey } }

def setTKeyPair (slink : SLink) (priKey pubKey : Bytes) : SLink :=
  { slink with
    priKey := priKey
    tNode := { slink.tNode with pubKey := pubKey } }

def sendPairingCfm (env : Env) (slink : SLink) : SLink :=
  match env.pubPriKey with
  | none => slink.internalError env
  | some (priKey, pubKey) =>
    (slink.setGKeyPair priKey pubKey).sendAndWait env
      pairingConfirm (slink.pairCfmMsg pubKey)
      pairingInitInfo

def recvPairingReq (env : Env) (slink : SLink) (pkg : Bytes) : SLink :=
  if pkg.length < 10 then slink
  else
    let msg := PairReqRspMsg.ofBytes pkg
    let stored := slink.setAbilities msg.ioAbility msg.pskFlag
      env.localParams.ioAbility env.localParams.pskFlag
    let agreed := stored.pairingNego env msg msg.authReq.mitmDefend
      env.localParams.authReq.mitmDefend
    if agreed.2 then
      (agreed.1.emit (.pairingStart agreed.1.lcid
        agreed.1.negoParams.secAttribute)).sendPairingRsp env
    else agreed.1.internalError env

def recvPairingRsp (env : Env) (slink : SLink) (pkg : Bytes) : SLink :=
  if pkg.length < 10 then slink
  else
    let msg := PairReqRspMsg.ofBytes pkg
    let stored := slink.setAbilities env.localParams.ioAbility
      env.localParams.pskFlag msg.ioAbility msg.pskFlag
    let agreed := stored.pairingNego env msg
      env.localParams.authReq.mitmDefend msg.authReq.mitmDefend
    if agreed.2 then
      (agreed.1.emit (.pairingStart agreed.1.lcid
        agreed.1.negoParams.secAttribute)).sendPairingCfm env
    else agreed.1.internalError env

def sendPairingInitInfo (env : Env) (slink : SLink) : SLink :=
  match env.pubPriKey with
  | none => slink.internalError env
  | some (priKey, pubKey) =>
    ((slink.setTKeyPair priKey pubKey).sendMessage env pairingInitInfo pubKey).1

/-- Stores the algorithms and the public key of a pairing confirm packet. -/
def savePairingCfm (slink : SLink) (pkg : Bytes) : SLink :=
  { slink with
    negoParams := { slink.negoParams with
      codeAlgoCap :=
        ⟨pkg.getD 2 0, pkg.getD 3 0, pkg.getD 4 0, pkg.getD 5 0⟩ }
    gNode := { slink.gNode with pubKey := slice pkg 6 64 } }

/-- `RecvPairingCfm`.  The negotiation goes on even when the answer cannot be
sent. -/
def recvPairingCfm (crypto : Crypto) (env : Env) (slink : SLink) (pkg : Bytes) : SLink :=
  if pkg.length < 70 then slink
  else if slink.negoParams.secKeyMaxLen ≠ pkg.getD 0 0 then
    slink.internalError env
  else if slink.negoParams.authMethod ≠ pkg.getD 1 0 then
    slink.internalError env
  else
    ((slink.savePairingCfm pkg).sendPairingInitInfo env).negoSuccess crypto env

def savePairingInitInfo (slink : SLink) (pkg : Bytes) : SLink :=
  { slink with tNode := { slink.tNode with pubKey := slice pkg 0 64 } }

def recvPairingInitInfo (crypto : Crypto) (env : Env) (slink : SLink)
    (pkg : Bytes) : SLink :=
  if pkg.length < 64 then slink
  else (slink.savePairingInitInfo pkg).negoSuccess crypto env

def negoPkgDispatcher (crypto : Crypto) (env : Env) (opcode : UInt16)
    (slink : SLink) (pkg : Bytes) : SLink :=
  if opcode = pairingStart then slink.recvPairingStart env pkg
  else if opcode = pairingRequest then slink.recvPairingReq env pkg
  else if opcode = pairingResponse then slink.recvPairingRsp env pkg
  else if opcode = pairingConfirm then
    slink.recvPairingCfm crypto env pkg
  else if opcode = pairingInitInfo then
    slink.recvPairingInitInfo crypto env pkg
  else slink

def dispatch (crypto : Crypto) (env : Env) (opcode : UInt16) (slink : SLink)
    (pkg : Bytes) : Dispatcher → SLink
  | .nego => slink.negoPkgDispatcher crypto env opcode pkg
  | .numCmp => slink.numCmpAuthPkgDispatcher crypto env opcode pkg
  | .noEntry => slink.noEntryAuthPkgDispatcher crypto env opcode pkg
  | .passCode => slink.passCodeAuthPkgDispatcher crypto env opcode pkg
  | .passWord => slink.passWordAuthPkgDispatcher crypto env opcode pkg
  | .oob => slink.oobAuthPkgDispatcher crypto env opcode pkg
  | .psk => slink.pskAuthPkgDispatcher crypto env opcode pkg

end SLink

end NearLink.Sm
