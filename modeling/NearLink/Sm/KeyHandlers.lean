import NearLink.Sm.KeyInvariant

/-!
# The link key under each handler

Every handler of a packet and every function that continues with the user's
answer keeps the invariant of the link key, under the conditions in which the
dispatcher calls it.
-/

namespace NearLink.Sm

open Sdf Cm Opcode Bool

namespace SLink

section Codes

variable {crypto : Crypto} {env : Env} {slink : SLink} {pkg : Bytes}
  {size : Nat}

theorem view_encpEnable (keyed : slink.Keyed) :
    (slink.encpEnable env).view = slink.view := by
  unfold encpEnable
  split_ifs
  · rfl
  · rfl
  · exact view_internalError keyed

theorem view_enterEncp :
    (slink.enterEncp env).view = { slink with state := .encp }.view := by
  unfold enterEncp
  split
  · exact view_encpEnable (.inl rfl)
  · rfl

theorem codeChecked_eq (slink : SLink) :
    ∃ origin, slink.codeChecked = { slink with origin := origin } := by
  unfold codeChecked
  cases slink.origin with
  | generated checked => exact ⟨.generated true, rfl⟩
  | _ => exact ⟨slink.origin, rfl⟩

theorem state_codeChecked : slink.codeChecked.state = slink.state := by
  obtain ⟨origin, equal⟩ := codeChecked_eq slink
  rw [equal]

theorem Loose.codeChecked (loose : slink.Loose) :
    slink.codeChecked.Loose := by
  obtain ⟨origin, equal⟩ := codeChecked_eq slink
  rw [equal]
  exact loose

theorem AwaitsCode.codeChecked (waits : slink.AwaitsCode) :
    slink.codeChecked.AwaitsCode := by
  obtain ⟨origin, equal⟩ := codeChecked_eq slink
  rw [equal]
  exact waits

theorem Keyed.codeChecked (keyed : slink.Keyed) :
    slink.codeChecked.Keyed := by
  obtain ⟨origin, equal⟩ := codeChecked_eq slink
  rw [equal]
  exact keyed

theorem Fresh.codeChecked (fresh : slink.Fresh crypto) :
    slink.codeChecked.Vouched crypto := by
  obtain ⟨⟨checked, generated⟩, computed⟩ := fresh
  unfold SLink.codeChecked
  rw [generated]
  exact .inr ⟨rfl, computed⟩

theorem Vouched.codeChecked (vouched : slink.Vouched crypto) :
    slink.codeChecked.view = slink.view := by
  unfold SLink.codeChecked
  rcases vouched with recovered | ⟨generated, _⟩
  · rw [recovered]
  · simp only [view, generated]

theorem authSuccess_idle (idle : slink.state ≠ .auth) :
    slink.authSuccess env = slink.note .posted := by
  unfold authSuccess
  cases state : slink.state with
  | auth => exact absurd state idle
  | _ => rfl

theorem Keyed.idle (keyed : slink.Keyed) : slink.state ≠ .auth := by
  rcases keyed with now | now | now
  all_goals simp [now]

section

variable (loose : slink.Loose)
  (vouched : slink.state = .auth → slink.Vouched crypto)
  (waits : slink.state = .auth → slink.AwaitsCode)
include loose vouched waits

theorem invariant_authSuccess :
    (slink.authSuccess env).Invariant crypto := by
  by_cases now : slink.state = .auth
  · have fits : slink.dispatcher ≠ some .nego := by
      have fits := loose
      unfold Loose at fits
      rw [now] at fits
      exact fits
    have done : { slink.authCbk .ok with state := .encp }.Invariant
        crypto := by
      apply Invariant.of_keyed
      · exact .inl rfl
      · exact vouched now
      · exact ⟨fits, .inr (waits now)⟩
    simp only [authSuccess, now]
    exact done.of_view view_enterEncp
  · rw [authSuccess_idle now]
    exact Open.invariant ⟨loose, fun auth => absurd auth now⟩

theorem invariant_sendTNodeDhKey :
    (slink.sendTNodeDhKey crypto env).Invariant crypto := by
  unfold sendTNodeDhKey
  cases slink.genDhKeyCfmCode crypto env .ownCode slink.tNode.randomR
      slink.rmtAddr slink.localAddr with
  | none => exact Open.invariant (Open.internalError loose)
  | some code =>
    simp only [sendMessage]
    by_cases sent : env.setControllerData tNodeDhKey
    · simp only [sent, if_true]
      apply invariant_authSuccess
      · exact loose
      · exact vouched
      · exact waits
    · simp only [sent, false_eq_true, if_false]
      exact Open.invariant (Open.internalError loose)

end

section

variable (settled : slink.Settled crypto)
  (waits : slink.state = .auth → slink.AwaitsCode)
include settled waits

theorem Settled.recvGNodeDhKey :
    (slink.recvGNodeDhKey crypto env pkg size).Invariant crypto := by
  rw [recvGNodeDhKey_eq]
  split_ifs
  · exact settled.invariant
  · apply invariant_sendTNodeDhKey settled.1.codeChecked
    · intro now
      exact (settled.2 (state_codeChecked ▸ now)).codeChecked
    · intro now
      exact (waits (state_codeChecked ▸ now)).codeChecked
  · exact Open.invariant (Open.internalError settled.1)

theorem Settled.recvTNodeDhKey :
    (slink.recvTNodeDhKey crypto env pkg).Invariant crypto := by
  rw [recvTNodeDhKey_eq]
  split_ifs
  · exact settled.invariant
  · apply invariant_authSuccess settled.1.codeChecked
    · intro now
      exact (settled.2 (state_codeChecked ▸ now)).codeChecked
    · intro now
      exact (waits (state_codeChecked ▸ now)).codeChecked
  · exact Open.invariant (Open.internalError settled.1)

end

section

variable (keyed : slink.Keyed)
include keyed

theorem view_sendTNodeDhKey :
    (slink.sendTNodeDhKey crypto env).view = slink.view := by
  unfold sendTNodeDhKey
  cases slink.genDhKeyCfmCode crypto env .ownCode slink.tNode.randomR
      slink.rmtAddr slink.localAddr with
  | none => exact view_internalError keyed
  | some code =>
    simp only [sendMessage]
    by_cases sent : env.setControllerData tNodeDhKey
    · have emitted : (slink.handOver tNodeDhKey code).Keyed :=
        keyed
      simp only [sent, if_true]
      rw [authSuccess_idle emitted.idle]
      rfl
    · simp only [sent, false_eq_true, if_false]
      exact view_internalError keyed

theorem view_recvGNodeDhKey (vouched : slink.Vouched crypto) :
    (slink.recvGNodeDhKey crypto env pkg size).view = slink.view := by
  rw [recvGNodeDhKey_eq]
  split_ifs
  · rfl
  · rw [view_sendTNodeDhKey keyed.codeChecked]
    exact vouched.codeChecked
  · exact view_internalError keyed

theorem view_recvTNodeDhKey (vouched : slink.Vouched crypto) :
    (slink.recvTNodeDhKey crypto env pkg).view = slink.view := by
  rw [recvTNodeDhKey_eq]
  split_ifs
  · rfl
  · rw [authSuccess_idle keyed.codeChecked.idle]
    exact vouched.codeChecked
  · exact view_internalError keyed

end

end Codes

section User

variable {crypto : Crypto} {env : Env} {slink : SLink} {opcode : UInt16}
  {code : Option Nat} {type : UInt8}

theorem AwaitsUser.waitUapiInput (deferring : slink.Deferring)
    (timer : slink.uapiTimerHandle = true ∨ env.uapiTimerAdd = true) :
    (slink.waitUapiInput env).AwaitsUser := by
  unfold SLink.waitUapiInput
  split
  case isTrue running => exact ⟨deferring, running⟩
  case isFalse stopped =>
    rcases timer with running | added
    · exact absurd running stopped
    · exact ⟨deferring, added⟩

theorem invariant_of_awaitsUser (loose : slink.Loose)
    (awaits : slink.state = .auth → slink.AwaitsUser)
    (other : slink.state = .auth → slink.expectOpCode ≠ tNodeDhKey) :
    slink.Invariant crypto := by
  apply Invariant.of_loose loose
  · intro now code
    exact absurd code (other now)
  · intro now _
    exact .inr (awaits now)

theorem Deferring.waitExpectOpCode (deferring : slink.Deferring) :
    (slink.waitExpectOpCode env opcode).Deferring := by
  unfold Deferring
  rw [dispatcher_waitExpectOpCode]
  exact deferring

theorem AwaitsUser.waitExpectOpCode (awaits : slink.AwaitsUser) :
    (slink.waitExpectOpCode env opcode).AwaitsUser :=
  ⟨awaits.1.waitExpectOpCode, uapiTimerHandle_waitExpectOpCode.trans awaits.2⟩

theorem Open.expectOpCode_waitGNodeDhKey (opened : slink.Open)
    (now : slink.state = .auth) :
    (slink.waitExpectOpCode env gNodeDhKey).expectOpCode ≠
      tNodeDhKey := by
  intro code
  rcases expectOpCode_waitExpectOpCode env slink gNodeDhKey with
    same | armed
  · exact opened.2 now (.inr (same.symm.trans code))
  · exact absurd (armed.symm.trans code) (by decide)

section

variable (opened : slink.Open)
  (deferring : slink.state = .auth → slink.Deferring)
  (timer : slink.state = .auth →
    slink.uapiTimerHandle = true ∨ env.uapiTimerAdd = true)
include opened deferring timer

theorem Open.askThenWait :
    (((slink.requestCbk type code).waitUapiInput env).waitExpectOpCode env
      gNodeDhKey).Invariant crypto := by
  have asked : ((slink.requestCbk type code).waitUapiInput env).Open :=
    Open.waitUapiInput opened
  apply invariant_of_awaitsUser
  · exact asked.1.waitExpectOpCode
  · intro now
    rw [state_waitExpectOpCode, state_waitUapiInput] at now
    apply AwaitsUser.waitExpectOpCode
    exact AwaitsUser.waitUapiInput (deferring now) (timer now)
  · intro now
    rw [state_waitExpectOpCode] at now
    exact asked.expectOpCode_waitGNodeDhKey now

theorem Open.waitThenAsk :
    (((slink.waitExpectOpCode env gNodeDhKey).requestCbk type
      code).waitUapiInput env).Invariant crypto := by
  have armed : ((slink.waitExpectOpCode env gNodeDhKey).requestCbk
      type code).Loose := opened.1.waitExpectOpCode
  apply invariant_of_awaitsUser
  · exact armed.waitUapiInput
  · intro now
    rw [state_waitUapiInput] at now
    have before : slink.state = .auth :=
      state_waitExpectOpCode.symm.trans now
    apply AwaitsUser.waitUapiInput
    · exact (deferring before).waitExpectOpCode
    · exact (timer before).imp_left fun running =>
        uapiTimerHandle_waitExpectOpCode.trans running
  · intro now
    rw [state_waitUapiInput] at now
    rw [expectOpCode_waitUapiInput]
    exact opened.expectOpCode_waitGNodeDhKey
      (state_waitExpectOpCode.symm.trans now)

end

end User

section Confirmed

variable {crypto : Crypto} {env : Env} {slink : SLink} {pkg : Bytes}

section

variable (opened : slink.Open)
include opened

theorem Open.requestCbk (type : UInt8) (code : Option Nat) :
    (slink.requestCbk type code).Open := opened

theorem Open.startConfirmed {awaited : UInt16} {send : SLink → SLink}
    (other : awaited ≠ gNodeDhKey ∧ awaited ≠ tNodeDhKey)
    (sends : ∀ ready : SLink, ready.Open → (send ready).Open) :
    (slink.startConfirmed crypto env awaited send).Open := by
  unfold SLink.startConfirmed
  cases env.randNum with
  | none => exact .internalError opened.1
  | some random =>
    dsimp only
    split
    · exact .waitExpectOpCode opened other
    · cases (slink.setRb random).genConfirmNum crypto env .confirm random with
      | none => exact .internalError opened.1
      | some confirm => exact sends _ opened

theorem Open.numCmpAuthStart : (slink.numCmpAuthStart crypto env).Open := by
  apply opened.startConfirmed
  · decide
  · intro ready open'
    exact open'.sendAndWait (by decide)

theorem Open.noEntryAuthStart : (slink.noEntryAuthStart crypto env).Open := by
  apply opened.startConfirmed
  · decide
  · intro ready open'
    exact open'.sendAndWait (by decide)

theorem Open.numCmpSendRandNumRa :
    (slink.numCmpSendRandNumRa crypto env).Open := by
  have handed : (slink.handOver randNumRa slink.gNode.randomR).Open := opened
  unfold SLink.numCmpSendRandNumRa SLink.sendMessage
  by_cases sent : env.setControllerData randNumRa
  · simp only [sent, if_true]
    cases (slink.handOver randNumRa
        slink.gNode.randomR).genConfirmNum crypto env .check
        (slink.handOver randNumRa slink.gNode.randomR).tNode.randomR with
    | none => exact .internalError opened.1
    | some confirm =>
      dsimp only
      split
      · exact .internalError opened.1
      · cases (slink.handOver randNumRa
            slink.gNode.randomR).genSixCompareCode crypto env with
        | none => exact .internalError opened.1
        | some code =>
          exact (handed.requestCbk _ _).waitUapiInput
  · simp only [sent, false_eq_true, if_false]
    exact .internalError opened.1

theorem Open.numCmpRecvTNodeCfmWithRb :
    (slink.numCmpRecvTNodeCfmWithRb crypto env pkg).Open := by
  unfold SLink.numCmpRecvTNodeCfmWithRb
  split
  · exact opened
  · exact .numCmpSendRandNumRa opened

theorem Open.numCmpRecvRandNumRa
    (deferring : slink.state = .auth → slink.Deferring)
    (timer : slink.state = .auth → 16 ≤ pkg.length →
      slink.uapiTimerHandle = true ∨ env.uapiTimerAdd = true) :
    (slink.numCmpRecvRandNumRa crypto env pkg).Invariant crypto := by
  unfold SLink.numCmpRecvRandNumRa
  split
  case isTrue short => exact opened.invariant
  case isFalse long =>
    dsimp only
    cases (slink.setRa (slice pkg 0 16)).genSixCompareCode crypto env with
    | none => exact Open.invariant (Open.internalError opened.1)
    | some code =>
      exact Open.askThenWait opened deferring
        fun now => timer now (Nat.le_of_not_lt long)

theorem Open.noEntryRecvTNodeCfm : (slink.noEntryRecvTNodeCfm env).Open := by
  apply opened.sendAndWait
  decide

theorem Open.noEntryRecvRandNumRa
    (deferring : slink.state = .auth → slink.Deferring)
    (timer : slink.state = .auth → 16 ≤ pkg.length →
      slink.uapiTimerHandle = true ∨ env.uapiTimerAdd = true) :
    (slink.noEntryRecvRandNumRa env pkg).Invariant crypto := by
  unfold SLink.noEntryRecvRandNumRa
  split
  case isTrue short => exact opened.invariant
  case isFalse long =>
    apply sendAndWait_of fun sent => ((sent.requestCbk
      sent.negoParams.authMethod none).waitUapiInput env).Invariant crypto
    · exact Open.waitThenAsk opened deferring
        fun now => timer now (Nat.le_of_not_lt long)
    · apply Open.invariant
      apply Open.waitUapiInput
      exact .internalError opened.1

theorem Open.noEntryRecvRandNumRb :
    (slink.noEntryRecvRandNumRb env pkg).Open := by
  unfold SLink.noEntryRecvRandNumRb
  split
  · exact opened
  · exact .waitUapiInput opened

end

section

variable (loose : slink.Loose)
  (waits : slink.state = .auth → slink.tNode.recvFlag = true → slink.AwaitsCode)
include loose waits

theorem Loose.numCmpHandleTNode :
    (slink.numCmpHandleTNode crypto env).Invariant crypto := by
  apply genKeys_of (Invariant crypto) (fun keyed => if keyed.tNode.recvFlag then
      (keyed.setRecvFlag false).recvGNodeDhKey crypto env
        keyed.shared.numCmpTNodeRecvDHKey
        keyed.shared.numCmpTNodeRecvDHKeySize
      else keyed) loose
  · intro secret
    split
    case isTrue flagged =>
      apply Settled.recvGNodeDhKey
      · exact settled_withKeys loose
      · intro now
        exact waits now flagged
    case isFalse _ => exact Settled.invariant (settled_withKeys loose)
  · intro result now
    exact Open.invariant (open_of_remv now)

theorem Loose.noEntryContinueTNode (tNode : slink.role ≠ gNodeRole) :
    (slink.noEntryContinueNoentry crypto env).Invariant crypto := by
  unfold SLink.noEntryContinueNoentry genTKeys
  rw [if_neg tNode]
  apply genKeys_of (Invariant crypto) (fun keyed => if keyed.tNode.recvFlag then
      ((keyed.setRecvFlag false).recvGNodeDhKey crypto env
        keyed.shared.noEntryTNodeRecvDHKey 16).clearNoEntryCode
      else keyed) loose
  · intro secret
    split
    case isTrue flagged =>
      have checked : (((slink.withKeys crypto secret).setRecvFlag
          false).recvGNodeDhKey crypto env
          slink.shared.noEntryTNodeRecvDHKey 16).Invariant crypto := by
        apply Settled.recvGNodeDhKey
        · exact settled_withKeys loose
        · intro now
          exact waits now flagged
      exact checked.of_view rfl
    case isFalse _ => exact Settled.invariant (settled_withKeys loose)
  · intro result now
    exact Open.invariant (open_of_remv now)

end

end Confirmed

section Pass

variable {crypto : Crypto} {env : Env} {slink : SLink} {pkg mixed : Bytes}

theorem Loose.passSendTNodeCfmWithRb (loose : slink.Loose) :
    (slink.passSendTNodeCfmWithRb crypto env).Settled crypto := by
  unfold SLink.passSendTNodeCfmWithRb SLink.sendMessage genTKeys
  by_cases sent : env.setControllerData Opcode.tNodeCfmWithRb
  · simp only [sent, if_true]
    apply genKeys_of (Settled crypto)
      (fun keyed => keyed.waitExpectOpCode env gNodeDhKey)
    · exact loose
    · intro secret
      apply Settled.waitExpectOpCode
      exact settled_withKeys loose
    · intro result now
      exact settled_of_remv now
  · simp only [sent, false_eq_true, if_false]
    exact .internalError loose

theorem Loose.passAnswerGNodeCfm (loose : slink.Loose) :
    (slink.passAnswerGNodeCfm crypto env mixed).Settled crypto := by
  unfold SLink.passAnswerGNodeCfm
  dsimp only
  split
  · exact Loose.passSendTNodeCfmWithRb loose
  · exact .internalError loose

variable (opened : slink.Open) {passWord : Bytes}
include opened

theorem Open.passRecvGNodeCfmWithRa :
    (slink.passRecvGNodeCfmWithRa crypto env mixed pkg).Invariant
      crypto := by
  unfold SLink.passRecvGNodeCfmWithRa
  split
  · exact opened.invariant
  · dsimp only
    split
    · exact Open.invariant opened
    · exact Settled.invariant (Loose.passAnswerGNodeCfm opened.1)

theorem Open.passRecvTNodeCfmWithRb :
    (slink.passRecvTNodeCfmWithRb crypto env mixed pkg).Invariant
      crypto := by
  unfold SLink.passRecvTNodeCfmWithRb
  split_ifs
  · exact opened.invariant
  · exact Settled.invariant (Loose.finishGNode opened.1)
  · exact Open.invariant (Open.internalError opened.1)

theorem Open.passCodePrepareG : (slink.passCodePrepareG crypto env).1.Open := by
  unfold SLink.passCodePrepareG
  cases env.randNum with
  | none => exact .internalError opened.1
  | some random =>
    dsimp only
    split
    · exact .internalError opened.1
    · exact opened

theorem Open.passCodePrepareT : (slink.passCodePrepareT crypto env).1.Open := by
  unfold SLink.passCodePrepareT
  cases env.randNum with
  | none => exact .internalError opened.1
  | some random =>
    dsimp only
    split
    · exact .internalError opened.1
    · exact opened

theorem Open.passCodeSetGPassCode :
    (slink.passCodeSetGPassCode crypto env).Open := by
  unfold SLink.passCodeSetGPassCode
  dsimp only
  split
  · apply Open.waitExpectOpCode
    · exact Open.sendMessage opened.passCodePrepareG
    · decide
  · exact opened.passCodePrepareG

theorem Open.passCodeSetTPassCode :
    (slink.passCodeSetTPassCode crypto env).Invariant crypto := by
  unfold SLink.passCodeSetTPassCode
  dsimp only
  split_ifs
  any_goals exact opened.passCodePrepareT.invariant
  apply Settled.invariant
  exact Loose.passAnswerGNodeCfm opened.passCodePrepareT.1

theorem Open.passCodeStartPatternInputG :
    (slink.passCodeStartPatternInputG crypto env).Open := by
  unfold SLink.passCodeStartPatternInputG
  split
  · exact .waitUapiInput opened
  · cases generateSixDigits env with
    | none => exact .internalError opened.1
    | some code =>
      have shown : ((slink.setTPassCode (UInt32.ofNat code)).requestCbk
          slink.negoParams.authMethod (some code)).Open := opened
      dsimp only
      split
      · exact .waitExpectOpCode shown.passCodePrepareT (by decide)
      · exact shown.passCodePrepareT

theorem Open.passCodeStartPatternInputT :
    (slink.passCodeStartPatternInputT crypto env).Open := by
  unfold SLink.passCodeStartPatternInputT
  split
  · cases generateSixDigits env with
    | none => exact .internalError opened.1
    | some code => exact .passCodeSetGPassCode opened
  · apply Open.waitExpectOpCode
    · exact Open.waitUapiInput opened
    · decide

theorem Open.passCodeAuthStart : (slink.passCodeAuthStart crypto env).Open := by
  unfold SLink.passCodeAuthStart
  split_ifs
  · exact opened.passCodeStartPatternInputG
  · exact opened.passCodeStartPatternInputT
  · exact .internalError opened.1

theorem Open.passWordAuthStart : (slink.passWordAuthStart env).Open := by
  unfold SLink.passWordAuthStart
  cases env.randNum with
  | none => exact .internalError opened.1
  | some random =>
    dsimp only
    split
    · exact .waitUapiInput opened
    · apply Open.waitExpectOpCode
      · exact Open.waitUapiInput opened
      · decide

theorem Open.passWordSetGPassWord :
    (slink.passWordSetGPassWord crypto env passWord).Open := by
  unfold SLink.passWordSetGPassWord
  dsimp only
  split
  · exact .internalError opened.1
  · exact .sendAndWait opened (by decide)

theorem Open.passWordSetTPassWord :
    (slink.passWordSetTPassWord crypto env passWord).Invariant crypto := by
  unfold SLink.passWordSetTPassWord
  dsimp only
  split
  · exact Open.invariant (Open.internalError opened.1)
  · split
    · exact Settled.invariant (Loose.passAnswerGNodeCfm opened.1)
    · exact Open.invariant opened

end Pass

section Preset

variable {crypto : Crypto} {env : Env} {slink : SLink} {pkg : Bytes}

theorem Open.oobAuthStart (opened : slink.Open) :
    (slink.oobAuthStart crypto env).Open := by
  unfold SLink.oobAuthStart
  cases env.randNum with
  | none => exact .internalError opened.1
  | some random =>
    dsimp only
    split
    · split
      · exact .internalError opened.1
      · exact .sendAndWait opened (by decide)
    · split
      · exact .internalError opened.1
      · exact .waitExpectOpCode opened (by decide)

theorem Loose.genTKeysAndSend {opcode : UInt16} (loose : slink.Loose)
    (msg : SLink → Bytes) :
    (if (slink.genTKeys crypto env).2 then
      (slink.genTKeys crypto env).1.sendAndWait env opcode
        (msg (slink.genTKeys crypto env).1) gNodeDhKey
      else (slink.genTKeys crypto env).1).Settled crypto := by
  apply genKeys_of (Settled crypto)
    (fun keyed => keyed.sendAndWait env opcode (msg keyed) gNodeDhKey) loose
  · intro secret
    apply Settled.sendAndWait
    exact settled_withKeys loose
  · intro result now
    exact settled_of_remv now

variable (opened : slink.Open)
include opened

theorem Open.oobRecvGNodeCfmWithRa :
    (slink.oobRecvGNodeCfmWithRa crypto env pkg).Invariant crypto := by
  unfold SLink.oobRecvGNodeCfmWithRa
  split_ifs
  · exact opened.invariant
  · apply Settled.invariant
    have saved : (slink.saveGNodeCfmWithRa pkg).Loose := opened.1
    exact saved.genTKeysAndSend tNodeCfmWithRb
  · exact Open.invariant (Open.internalError opened.1)

theorem Open.oobRecvTNodeCfmWithRb :
    (slink.oobRecvTNodeCfmWithRb crypto env pkg).Invariant crypto := by
  unfold SLink.oobRecvTNodeCfmWithRb
  split_ifs
  · exact opened.invariant
  · exact Settled.invariant (Loose.finishGNode opened.1)
  · exact Open.invariant (Open.internalError opened.1)

theorem Open.pskAuthStart : (slink.pskAuthStart env).Open := by
  unfold SLink.pskAuthStart
  cases env.randNum with
  | none => exact .internalError opened.1
  | some random =>
    dsimp only
    split
    · exact .sendAndWait opened (by decide)
    · exact .waitExpectOpCode opened (by decide)

theorem Open.pskRecvRandNumRa :
    (slink.pskRecvRandNumRa crypto env pkg).Open := by
  unfold SLink.pskRecvRandNumRa
  split
  · exact opened
  · dsimp only
    split
    · exact .internalError opened.1
    · exact .sendAndWait opened (by decide)

theorem Open.pskRecvRandNumRb :
    (slink.pskRecvRandNumRb crypto env pkg).Open := by
  unfold SLink.pskRecvRandNumRb
  split
  · exact opened
  · dsimp only
    split
    · exact .internalError opened.1
    · exact .sendAndWait opened (by decide)

theorem Open.pskRecvGNodeCfm :
    (slink.pskRecvGNodeCfm crypto env pkg).Invariant crypto := by
  unfold SLink.pskRecvGNodeCfm
  split_ifs
  · exact opened.invariant
  · apply Settled.invariant
    have saved : (slink.setGConfirm (slice pkg 0 16)).Loose := opened.1
    exact saved.genTKeysAndSend fun keyed => keyed.tNode.confirm
  · exact Open.invariant (Open.internalError opened.1)

theorem Open.pskRecvTNodeCfm :
    (slink.pskRecvTNodeCfm crypto env pkg).Invariant crypto := by
  unfold SLink.pskRecvTNodeCfm
  split_ifs
  · exact opened.invariant
  · exact Settled.invariant (Loose.finishGNode opened.1)
  · exact Open.invariant (Open.internalError opened.1)

end Preset

end SLink

end NearLink.Sm
