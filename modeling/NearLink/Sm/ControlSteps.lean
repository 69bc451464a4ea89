import NearLink.Sm.Control

/-!
# Handlers follow their scripts

The model of the code, seen through `Control`, does one of the scripts that
are listed for each handler.
-/

namespace NearLink.Sm

open Sdf Cm Scripts Opcode List

namespace SLink

section Primitives

variable {crypto : Crypto} {env : Env} {slink : SLink}

theorem control_state : slink.control.state = slink.state := rfl

theorem control_role : slink.control.role = slink.role := rfl

@[simp] theorem control_emit (output : Output) :
    (slink.emit output).control = slink.control := rfl

@[simp] theorem control_requestCbk (type : UInt8) (code : Option Nat) :
    (slink.requestCbk type code).control = slink.control.note .prompted :=
  rfl

@[simp] theorem control_enterRemv :
    (slink.enterRemv env).control = slink.control.enterRemv env := by
  unfold SLink.enterRemv Control.enterRemv
  cases env.directConnectRemove with
  | true => simp [control, emit, note, Control.note]
  | false => simp [control, note, Control.note]

@[simp] theorem control_internalError :
    (slink.internalError env).control = slink.control.internalError env := by
  unfold SLink.internalError Control.internalError
  rw [control_state]
  cases slink.state with
  | encp | miss | full | remv => rfl
  | _ => exact control_enterRemv

@[simp] theorem control_externalError :
    (slink.externalError env).control = slink.control.externalError env := by
  unfold SLink.externalError Control.externalError
  rw [control_state]
  cases slink.state with
  | nego | auth => exact control_enterRemv
  | _ => rfl

@[simp] theorem control_timeout :
    (slink.timeout env).control = slink.control.externalError env := by
  unfold SLink.timeout Control.externalError
  rw [control_state]
  cases slink.state with
  | nego | auth => exact control_enterRemv
  | _ => rfl

@[simp] theorem control_waitExpectOpCode (opcode : UInt16) :
    (slink.waitExpectOpCode env opcode).control =
      slink.control.waitExpectOpCode env opcode := by
  have same : slink.control.timerHandle = slink.timerHandle := rfl
  unfold SLink.waitExpectOpCode Control.waitExpectOpCode
  rw [same]
  split <;> rfl

@[simp] theorem control_waitUapiInput :
    (slink.waitUapiInput env).control = slink.control.waitUapiInput env := by
  have same : slink.control.uapiTimerHandle = slink.uapiTimerHandle := rfl
  unfold SLink.waitUapiInput Control.waitUapiInput
  rw [same]
  split <;> rfl

@[simp] theorem control_setGConfirm (confirm : Bytes) :
    (slink.setGConfirm confirm).control =
      slink.control.store confirm .gConfirm := rfl

@[simp] theorem control_setTConfirm (confirm : Bytes) :
    (slink.setTConfirm confirm).control =
      slink.control.store confirm .tConfirm := rfl

@[simp] theorem control_setRecvFlag (flag : Bool) :
    (slink.setRecvFlag flag).control =
      { slink.control with recvFlag := flag } := rfl

theorem sendMessage_cases (env : Env) (slink : SLink) (opcode : UInt16)
    (pkg : Bytes) :
    (env.setControllerData opcode = true ∧
      slink.sendMessage env opcode pkg = (slink.handOver opcode pkg, true)) ∨
      (env.setControllerData opcode = false ∧ slink.sendMessage env opcode pkg =
          (slink.internalError env, false)) := by
  unfold sendMessage
  cases env.setControllerData opcode with
  | true => exact .inl ⟨rfl, rfl⟩
  | false => exact .inr ⟨rfl, rfl⟩

@[simp] theorem control_sendMessage (opcode : UInt16) (pkg : Bytes) :
    (slink.sendMessage env opcode pkg).1.control =
      slink.control.exec env (.attempt opcode) := by
  rcases sendMessage_cases env slink opcode pkg with
    ⟨taken, sent⟩ | ⟨refused, failed⟩
  · rw [sent, Control.exec, taken]
    rfl
  · rw [failed, Control.exec, refused]
    exact control_internalError

section

variable (opcode answer : UInt16) (pkg : Bytes)

@[simp] theorem control_sendAndWait :
    (slink.sendAndWait env opcode pkg answer).control =
      Control.run env [.send opcode, .wait answer] slink.control := by
  unfold sendAndWait
  simp only [Control.run, Control.goesOn, Control.exec]
  rcases sendMessage_cases env slink opcode pkg with
    ⟨taken, sent⟩ | ⟨refused, failed⟩
  · rw [sent, taken]
    exact control_waitExpectOpCode answer
  · rw [failed, refused]
    exact control_internalError

theorem control_exchange :
    (slink.sendAndWait env opcode pkg answer).control =
      slink.control.exec env (.exchange opcode answer) := by
  rw [control_sendAndWait]
  simp only [Control.run, Control.goesOn, Control.exec]
  cases env.setControllerData opcode with
  | true => rfl
  | false => rfl

end

theorem genKeys_outcome (crypto : Crypto) (env : Env) (slink : SLink)
    (localPubKey remotePubKey : Bytes) :
    (∃ keyed, slink.genKeys crypto env localPubKey remotePubKey =
        (keyed, true) ∧ keyed.control = slink.control ∧
          keyed.shared = slink.shared) ∨
      (∃ keyed, slink.genKeys crypto env localPubKey remotePubKey =
        (keyed, false) ∧ keyed.control = slink.control.internalError env) := by
  unfold genKeys genDhKey genLinkKey
  cases env.genDhKey with
  | false => exact .inr ⟨_, rfl, control_internalError⟩
  | true =>
    cases env.cmacGenerate .linkKey with
    | true => exact .inl ⟨_, rfl, rfl, rfl⟩
    | false => exact .inr ⟨_, rfl, control_internalError⟩

@[simp] theorem control_codeChecked :
    slink.codeChecked.control = slink.control := by
  unfold codeChecked
  cases slink.origin with
  | _ => rfl

theorem control_encpEnable (now : slink.state = .encp) :
    (slink.encpEnable env).control =
      if slink.lcid = invalidLcid then slink.control
      else if env.enableEncryption then slink.control
      else slink.control.note .posted := by
  have same : slink.control.state = .encp := now
  unfold encpEnable
  split_ifs
  · rfl
  · rfl
  · rw [control_internalError]
    simp only [Control.internalError, same]

@[simp] theorem control_enterEncp :
    (slink.enterEncp env).control = slink.control.enterEncp env := by
  unfold SLink.enterEncp Control.enterEncp
  rw [control_role]
  by_cases gNode : slink.role = gNodeRole
  · rw [if_pos gNode, if_pos gNode]
    exact control_encpEnable rfl
  · rw [if_neg gNode, if_neg gNode]
    rfl

@[simp] theorem control_authSuccess :
    (slink.authSuccess env).control = slink.control.authSuccess env := by
  unfold SLink.authSuccess Control.authSuccess
  rw [control_state]
  cases slink.state with
  | auth => exact control_enterEncp
  | _ => rfl

end Primitives

def Follows (env : Env) (scripts : List Script) (slink result : SLink) :
    Prop :=
  ∃ script ∈ scripts, result.control = Control.run env script slink.control

section Follows

variable {crypto : Crypto} {env : Env} {slink result : SLink} {pkg : Bytes}
  {script : Script} {rest : List Script}

theorem Follows.head
    (done : result.control = Control.run env script slink.control) :
    slink.Follows env (script :: rest) result :=
  ⟨script, mem_cons_self .., done⟩

theorem Follows.tail (follows : slink.Follows env rest result) :
    slink.Follows env (script :: rest) result := by
  obtain ⟨other, found, done⟩ := follows
  exact ⟨other, .tail _ found, done⟩

theorem Follows.fail :
    slink.Follows env ([.fail] :: rest) (slink.internalError env) :=
  Follows.head control_internalError

theorem Follows.idle :
    slink.Follows env ([] :: rest) slink :=
  Follows.head rfl

variable {scripts : List Script} {stored : SLink} {control : Control}
  {opcode : UInt16} {random : Bytes} {method : Dispatcher} {values : Values}

theorem Follows.after {act : Act}
    (done : stored.control = slink.control.exec env act)
    (on : slink.control.goesOn env act = true)
    (follows : stored.Follows env scripts result) :
    slink.Follows env (scripts.map (act :: ·)) result := by
  obtain ⟨script, found, same⟩ := follows
  refine ⟨act :: script, mem_map_of_mem found, ?_⟩
  unfold Control.run
  rw [if_pos on, ← done]
  exact same

theorem control_sendGNodeDhKey :
    (slink.sendGNodeDhKey crypto env).control =
      if env.cmacGenerate .ownCode then
        slink.control.exec env (.attempt gNodeDhKey)
      else slink.control.internalError env := by
  unfold sendGNodeDhKey genDhKeyCfmCode
  cases env.cmacGenerate .ownCode with
  | true => exact control_sendMessage _ _
  | false => exact control_internalError

theorem follows_finishGNode :
    slink.Follows env (finishG env) (slink.finishGNode crypto env) := by
  unfold finishGNode genGKeys
  rcases genKeys_outcome crypto env slink slink.gNode.pubKey
      slink.tNode.pubKey with ⟨keyed, made, same, _⟩ | ⟨keyed, failed, same⟩
  · rw [made]
    refine .tail (.head ?_)
    rw [if_pos rfl, control_waitExpectOpCode, control_sendGNodeDhKey, same]
    cases env.cmacGenerate .ownCode with
    | true | false => rfl
  · rw [failed]
    exact .head same

theorem follows_sendTNodeDhKey :
    slink.Follows env [[.fail], [.send tNodeDhKey, .succeed]]
      (slink.sendTNodeDhKey crypto env) := by
  unfold sendTNodeDhKey
  cases slink.genDhKeyCfmCode crypto env .ownCode slink.tNode.randomR
      slink.rmtAddr slink.localAddr with
  | none => exact .fail
  | some code =>
    refine .tail (.head ?_)
    simp only [Control.run, Control.goesOn, Control.exec]
    rcases sendMessage_cases env slink tNodeDhKey code with
      ⟨taken, sent⟩ | ⟨refused, failed⟩
    · rw [sent, taken]
      exact control_authSuccess
    · rw [failed, refused]
      exact control_internalError

theorem Follows.of_control {other : SLink}
    (follows : other.Follows env scripts result)
    (same : other.control = slink.control) :
    slink.Follows env scripts result := by
  obtain ⟨script, found, done⟩ := follows
  exact ⟨script, found, by rw [done, same]⟩

theorem follows_recvGNodeDhKey (size : Nat) :
    slink.Follows env (checkG size)
      (slink.recvGNodeDhKey crypto env pkg size) := by
  rw [recvGNodeDhKey_eq]
  unfold checkG
  split_ifs
  · exact .idle
  · exact follows_sendTNodeDhKey.of_control control_codeChecked
  · exact .fail

theorem follows_recvTNodeDhKey :
    slink.Follows env (checkT pkg.length)
      (slink.recvTNodeDhKey crypto env pkg) := by
  rw [recvTNodeDhKey_eq]
  unfold checkT
  split_ifs
  · exact .idle
  · refine .tail (.head ?_)
    rw [control_authSuccess, control_codeChecked]
    rfl
  · exact .fail

/-! ### Number comparison and no entry -/

theorem run_send_taken {rest : Script}
    (taken : env.setControllerData opcode = true) :
    control.run env (.send opcode :: rest) =
      Control.run env rest (control.sent opcode) := by
  rw [Control.run, Control.goesOn, if_pos taken, Control.exec, if_pos taken]

theorem run_send_refused {rest : Script}
    (refused : env.setControllerData opcode = false) :
    control.run env (.send opcode :: rest) = control.internalError env := by
  rw [Control.run, Control.goesOn, Control.exec, refused]
  rfl

theorem follows_numCmpSendRandNumRa :
    slink.Follows env [[.send randNumRa, .fail],
        [.send randNumRa, .prompt, .ask]]
      (slink.numCmpSendRandNumRa crypto env) := by
  unfold numCmpSendRandNumRa
  rcases sendMessage_cases env slink randNumRa slink.gNode.randomR
    with ⟨taken, sent⟩ | ⟨refused, failed⟩
  · rw [sent]
    have fails : slink.Follows env [[.send randNumRa, .fail],
          [.send randNumRa, .prompt, .ask]]
        ((slink.handOver randNumRa slink.gNode.randomR).internalError env) := by
      apply Follows.head
      rw [run_send_taken taken]
      exact control_internalError
    rw [if_pos rfl]
    cases genConfirmNum crypto env
        (slink.handOver randNumRa slink.gNode.randomR) .check
        (slink.handOver randNumRa slink.gNode.randomR).tNode.randomR with
    | none => exact fails
    | some confirm =>
      dsimp only
      split
      · exact fails
      · cases genSixCompareCode crypto env
            (slink.handOver randNumRa slink.gNode.randomR) with
        | none => exact fails
        | some code =>
          refine .tail (.head ?_)
          rw [run_send_taken taken]
          exact control_waitUapiInput
  · rw [failed]
    apply Follows.head
    rw [run_send_refused refused]
    exact control_internalError

theorem follows_numCmpRecvRandNumRa (long : ¬ pkg.length < 16) :
    slink.Follows env [[.store .ra (slice pkg 0 16), .fail],
        [.store .ra (slice pkg 0 16), .prompt, .ask, .wait gNodeDhKey]]
      (slink.numCmpRecvRandNumRa crypto env pkg) := by
  unfold numCmpRecvRandNumRa
  rw [if_neg long]
  dsimp only
  cases (slink.setRa (slice pkg 0 16)).genSixCompareCode crypto env with
  | none => exact .head control_internalError
  | some code =>
    refine .tail (.head ?_)
    rw [control_waitExpectOpCode, control_waitUapiInput]
    rfl

theorem follows_keepG (keep : SLink → SLink)
    (kept : ∀ flagged, (keep flagged).control = flagged.control) :
    slink.Follows env (keepG slink.control pkg)
      (if slink.uapiTimerHandle then keep (slink.setRecvFlag true)
      else (slink.setRecvFlag false).recvGNodeDhKey crypto env pkg
        pkg.length) := by
  have same : slink.control.uapiTimerHandle = slink.uapiTimerHandle := rfl
  unfold keepG
  rw [same]
  split
  · exact .head (kept _)
  · exact (follows_recvGNodeDhKey pkg.length).after rfl rfl

theorem follows_numCmp (opcode : UInt16) :
    slink.Follows env (Scripts.numCmp slink.control opcode pkg)
      (slink.numCmpAuthPkgDispatcher crypto env opcode pkg) := by
  unfold numCmpAuthPkgDispatcher Scripts.numCmp
  split
  · unfold numCmpRecvTNodeCfmWithRb
    split
    · exact .idle
    · exact (follows_numCmpSendRandNumRa.after rfl rfl).after rfl rfl
  · split
    · split
      case isTrue short =>
        unfold numCmpRecvRandNumRa
        rw [if_pos short]
        exact .idle
      case isFalse long => exact follows_numCmpRecvRandNumRa long
    · split_ifs
      · apply follows_keepG fun flagged =>
          if pkg.length < 16 then flagged
          else
            { flagged with
              shared := { flagged.shared with
                numCmpTNodeRecvDHKey := slice pkg 0 16
                numCmpTNodeRecvDHKeySize := pkg.length } }
        intro flagged
        split <;> rfl
      · exact follows_recvTNodeDhKey
      · exact .idle

theorem follows_noEntryRecvRandNumRa (long : ¬ pkg.length < 16) :
    slink.Follows env [[.store .ra (slice pkg 0 16),
        .exchange randNumRb gNodeDhKey, .prompt, .ask]]
      (slink.noEntryRecvRandNumRa env pkg) := by
  unfold noEntryRecvRandNumRa noEntrySendRandNumRb
  rw [if_neg long]
  apply Follows.head
  rw [control_waitUapiInput, control_requestCbk, control_exchange]
  rfl

theorem follows_noEntry (opcode : UInt16) :
    slink.Follows env (Scripts.noEntry slink.control opcode pkg)
      (slink.noEntryAuthPkgDispatcher crypto env opcode pkg) := by
  unfold noEntryAuthPkgDispatcher Scripts.noEntry
  split
  · exact .head (control_sendAndWait _ _ _)
  · split
    · split
      case isTrue short =>
        unfold noEntryRecvRandNumRa
        rw [if_pos short]
        exact .idle
      case isFalse long => exact follows_noEntryRecvRandNumRa long
    · split
      · unfold noEntryRecvRandNumRb
        split
        · exact .idle
        · exact .head control_waitUapiInput
      · split_ifs
        · apply follows_keepG fun flagged =>
            if pkg.length ≠ 16 then flagged
            else
              { flagged with
                shared := { flagged.shared with
                  noEntryTNodeRecvDHKey := slice pkg 0 16 } }
          intro flagged
          split <;> rfl
        · exact follows_recvTNodeDhKey
        · exact .idle

/-! ### Pass code, password and out of band data -/

theorem follows_passSendTNodeCfmWithRb :
    slink.Follows env [[.send Opcode.tNodeCfmWithRb, .fail],
        [.send Opcode.tNodeCfmWithRb, .wait gNodeDhKey]]
      (slink.passSendTNodeCfmWithRb crypto env) := by
  unfold passSendTNodeCfmWithRb genTKeys
  rcases sendMessage_cases env slink Opcode.tNodeCfmWithRb
      slink.tNodeCfmWithRb with ⟨taken, sent⟩ | ⟨refused, failed⟩
  · rw [sent]
    rw [if_pos rfl]
    rcases genKeys_outcome crypto env
        (slink.handOver Opcode.tNodeCfmWithRb slink.tNodeCfmWithRb)
        (slink.handOver Opcode.tNodeCfmWithRb slink.tNodeCfmWithRb).tNode.pubKey
        (slink.handOver Opcode.tNodeCfmWithRb
          slink.tNodeCfmWithRb).gNode.pubKey with
      ⟨keyed, made, same, _⟩ | ⟨keyed, failed, same⟩
    · rw [made]
      refine .tail (.head ?_)
      rw [run_send_taken taken, if_pos rfl, control_waitExpectOpCode, same]
      rfl
    · rw [failed]
      apply Follows.head
      rw [run_send_taken taken]
      exact same
  · rw [failed]
    apply Follows.head
    rw [run_send_refused refused]
    exact control_internalError

theorem follows_passAnswerGNodeCfm (mixed : Bytes) :
    slink.Follows env answerG (slink.passAnswerGNodeCfm crypto env mixed) := by
  unfold passAnswerGNodeCfm answerG
  dsimp only
  split
  · apply Follows.tail
    have follows : (slink.setRecvFlag false).Follows env
        [[.send Opcode.tNodeCfmWithRb, .fail],
          [.send Opcode.tNodeCfmWithRb, .wait gNodeDhKey]]
        ((slink.setRecvFlag false).passSendTNodeCfmWithRb crypto env) :=
      follows_passSendTNodeCfmWithRb
    exact follows.after rfl rfl
  · exact .head control_internalError

theorem Follows.afterTwo {first second : Act}
    (done : stored.control = (slink.control.exec env first).exec env second)
    (on : ∀ control : Control, control.goesOn env first = true ∧
      control.goesOn env second = true)
    (follows : stored.Follows env scripts result) :
    slink.Follows env (scripts.map ([first, second] ++ ·)) result := by
  obtain ⟨script, found, same⟩ := follows
  refine ⟨[first, second] ++ script, mem_map_of_mem found, ?_⟩
  rw [same, done]
  simp only [cons_append, nil_append, Control.run,
    (on slink.control).1, (on _).2, if_true]

theorem follows_passRecvGNodeCfmWithRa (mixed : Bytes)
    (long : ¬ pkg.length < 32) :
    slink.Follows env (if slink.control.uapiTimerHandle then
        [saveG pkg ++ [.flag true]]
      else answerG.map (saveG pkg ++ ·))
      (slink.passRecvGNodeCfmWithRa crypto env mixed pkg) := by
  have same : slink.control.uapiTimerHandle =
    (slink.saveGNodeCfmWithRa pkg).uapiTimerHandle := rfl
  unfold passRecvGNodeCfmWithRa
  rw [if_neg long, same]
  dsimp only
  split
  · exact .head rfl
  · exact (follows_passAnswerGNodeCfm mixed).afterTwo rfl fun _ => ⟨rfl, rfl⟩

theorem follows_pass (opcode : UInt16) (gMixed tMixed : Bytes) :
    slink.Follows env (Scripts.pass env slink.control opcode pkg)
      (slink.passAuthPkgDispatcher crypto env opcode gMixed tMixed pkg) := by
  unfold passAuthPkgDispatcher Scripts.pass
  split
  · split
    case isTrue short =>
      unfold passRecvGNodeCfmWithRa
      rw [if_pos short]
      exact .idle
    case isFalse long => exact follows_passRecvGNodeCfmWithRa tMixed long
  · split
    · unfold passRecvTNodeCfmWithRb
      split_ifs
      · exact .idle
      · exact .tail (follows_finishGNode.afterTwo rfl fun _ => ⟨rfl, rfl⟩)
      · exact .fail
    · split_ifs
      · exact follows_recvGNodeDhKey pkg.length
      · exact follows_recvTNodeDhKey
      · exact .idle

theorem follows_oobRecvGNodeCfmWithRa (long : ¬ pkg.length < 32) :
    slink.Follows env [[.fail], saveG pkg ++ [.fail], saveG pkg ++
          [.send Opcode.tNodeCfmWithRb, .wait gNodeDhKey]]
      (slink.oobRecvGNodeCfmWithRa crypto env pkg) := by
  unfold oobRecvGNodeCfmWithRa genTKeys
  rw [if_neg long]
  split
  · rcases genKeys_outcome crypto env (slink.saveGNodeCfmWithRa pkg)
        (slink.saveGNodeCfmWithRa pkg).tNode.pubKey
        (slink.saveGNodeCfmWithRa pkg).gNode.pubKey with
      ⟨keyed, made, same, _⟩ | ⟨keyed, failed, same⟩
    · rw [made]
      refine .tail (.tail (.head ?_))
      rw [if_pos rfl, control_sendAndWait, same]
      rfl
    · rw [failed]
      exact .tail (.head same)
  · exact .fail

theorem follows_oob (opcode : UInt16) :
    slink.Follows env (Scripts.oob env opcode pkg)
      (slink.oobAuthPkgDispatcher crypto env opcode pkg) := by
  unfold oobAuthPkgDispatcher Scripts.oob
  split
  · split
    case isTrue short =>
      unfold oobRecvGNodeCfmWithRa
      rw [if_pos short]
      exact .idle
    case isFalse long => exact follows_oobRecvGNodeCfmWithRa long
  · split
    · unfold oobRecvTNodeCfmWithRb
      split_ifs
      · exact .idle
      · exact .tail (follows_finishGNode.afterTwo rfl fun _ => ⟨rfl, rfl⟩)
      · exact .fail
    · split_ifs
      · exact follows_recvGNodeDhKey pkg.length
      · exact follows_recvTNodeDhKey
      · exact .idle

/-! ### Pre-shared key -/

section

variable (long : ¬ pkg.length < 16)
include long

theorem follows_pskRecvRandNumRa :
    ∃ confirm, slink.Follows env [[.store .ra (slice pkg 0 16), .fail],
        [.store .ra (slice pkg 0 16), .store .tConfirm confirm,
          .send randNumRb, .wait gNodeCfm]]
      (slink.pskRecvRandNumRa crypto env pkg) := by
  unfold pskRecvRandNumRa
  rw [if_neg long]
  dsimp only
  cases (slink.setRa (slice pkg 0 16)).genPskConfirmNum crypto env .confirm
      (slink.setRa (slice pkg 0 16)).tNode.randomR with
  | none => exact ⟨[], Follows.head control_internalError⟩
  | some confirm =>
    refine ⟨confirm, Follows.tail (.head ?_)⟩
    exact control_sendAndWait _ _ _

theorem follows_pskRecvRandNumRb :
    ∃ confirm, slink.Follows env [[.store .rb (slice pkg 0 16), .fail],
        [.store .rb (slice pkg 0 16), .store .gConfirm confirm,
          .send gNodeCfm, .wait tNodeCfm]]
      (slink.pskRecvRandNumRb crypto env pkg) := by
  unfold pskRecvRandNumRb
  rw [if_neg long]
  dsimp only
  cases (slink.setRb (slice pkg 0 16)).genPskConfirmNum crypto env .confirm
      (slink.setRb (slice pkg 0 16)).gNode.randomR with
  | none => exact ⟨[], Follows.head control_internalError⟩
  | some confirm =>
    refine ⟨confirm, Follows.tail (.head ?_)⟩
    exact control_sendAndWait _ _ _

theorem follows_pskRecvGNodeCfm :
    slink.Follows env [[.fail], [.store .gConfirm (slice pkg 0 16), .fail],
        [.store .gConfirm (slice pkg 0 16), .send tNodeCfm, .wait gNodeDhKey]]
      (slink.pskRecvGNodeCfm crypto env pkg) := by
  unfold pskRecvGNodeCfm genTKeys
  rw [if_neg long]
  split
  · rcases genKeys_outcome crypto env (slink.setGConfirm (slice pkg 0 16))
        (slink.setGConfirm (slice pkg 0 16)).tNode.pubKey
        (slink.setGConfirm (slice pkg 0 16)).gNode.pubKey with
      ⟨keyed, made, same, _⟩ | ⟨keyed, failed, same⟩
    · rw [made]
      refine .tail (.tail (.head ?_))
      rw [if_pos rfl, control_sendAndWait, same]
      rfl
    · rw [failed]
      exact .tail (.head same)
  · exact .fail

end

theorem follows_psk (opcode : UInt16) (method : UInt8) :
    ∃ confirm, slink.Follows env (Scripts.psk env ⟨confirm, method⟩ opcode pkg)
      (slink.pskAuthPkgDispatcher crypto env opcode pkg) := by
  unfold pskAuthPkgDispatcher Scripts.psk
  by_cases randRa : opcode = randNumRa
  · simp only [if_pos randRa]
    by_cases short : pkg.length < 16
    · unfold pskRecvRandNumRa
      simp only [if_pos short]
      exact ⟨[], Follows.idle⟩
    · simp only [if_neg short]
      exact follows_pskRecvRandNumRa short
  simp only [if_neg randRa]
  by_cases randRb : opcode = randNumRb
  · simp only [if_pos randRb]
    by_cases short : pkg.length < 16
    · unfold pskRecvRandNumRb
      simp only [if_pos short]
      exact ⟨[], Follows.idle⟩
    · simp only [if_neg short]
      exact follows_pskRecvRandNumRb short
  simp only [if_neg randRb]
  refine ⟨[], ?_⟩
  split
  · split
    case isTrue short =>
      unfold pskRecvGNodeCfm
      rw [if_pos short]
      exact .idle
    case isFalse long => exact follows_pskRecvGNodeCfm long
  · split
    · unfold pskRecvTNodeCfm
      split_ifs
      · exact .idle
      · exact .tail (follows_finishGNode.after rfl rfl)
      · exact .fail
    · split_ifs
      · exact follows_recvGNodeDhKey pkg.length
      · exact follows_recvTNodeDhKey
      · exact .idle

/-! ### Codes of the user -/

section

variable (crypto : Crypto) (env : Env) (slink : SLink)
  (drawn : env.randNum = some random)
include drawn

theorem passCodePrepareG_outcome :
    (∃ failed, slink.passCodePrepareG crypto env = (failed, false) ∧
        failed.control = (slink.control.store random .ra).internalError env) ∨
      ∃ confirm prepared, slink.passCodePrepareG crypto env = (prepared, true) ∧
          prepared.control =
            (slink.control.store random .ra).store confirm .gConfirm := by
  unfold passCodePrepareG genMixedConfirmNum
  rw [drawn]
  cases env.cmacGenerate .confirm with
  | true => exact .inr ⟨_, _, rfl, rfl⟩
  | false => exact .inl ⟨_, rfl, control_internalError⟩

theorem passCodePrepareT_outcome :
    (∃ failed, slink.passCodePrepareT crypto env = (failed, false) ∧
        failed.control = (slink.control.store random .rb).internalError env) ∨
      ∃ confirm prepared, slink.passCodePrepareT crypto env = (prepared, true) ∧
          prepared.control =
            (slink.control.store random .rb).store confirm .tConfirm := by
  unfold passCodePrepareT genMixedConfirmNum
  rw [drawn]
  cases env.cmacGenerate .confirm with
  | true => exact .inr ⟨_, _, rfl, rfl⟩
  | false => exact .inl ⟨_, rfl, control_internalError⟩

end

theorem passCodePrepareG_undrawn (undrawn : env.randNum = none) :
    slink.passCodePrepareG crypto env = (slink.internalError env, false) := by
  unfold passCodePrepareG
  rw [undrawn]

theorem passCodePrepareT_undrawn (undrawn : env.randNum = none) :
    slink.passCodePrepareT crypto env = (slink.internalError env, false) := by
  unfold passCodePrepareT
  rw [undrawn]

theorem follows_passCodeSetGPassCode (crypto : Crypto) (env : Env)
    (slink : SLink) (method : UInt8) :
    ∃ confirm, slink.Follows env (Scripts.setGPassCode env ⟨confirm, method⟩)
      (slink.passCodeSetGPassCode crypto env) := by
  unfold passCodeSetGPassCode Scripts.setGPassCode
  cases drawn : env.randNum with
  | none =>
    rw [passCodePrepareG_undrawn drawn]
    exact ⟨[], Follows.fail⟩
  | some random =>
    rcases passCodePrepareG_outcome crypto env slink drawn with
      ⟨failed, made, same⟩ | ⟨confirm, prepared, made, same⟩
    all_goals rw [made]
    · exact ⟨[], Follows.head same⟩
    · refine ⟨confirm, Follows.tail (.head ?_)⟩
      rw [if_pos rfl, control_waitExpectOpCode, control_sendMessage, same]
      rfl

theorem follows_answerKept (mixed : Bytes)
    (same : slink.control.recvFlag = control.recvFlag) :
    slink.Follows env (answerKept control) (if slink.tNode.recvFlag then
        slink.passAnswerGNodeCfm crypto env mixed
      else slink) := by
  have flag : slink.tNode.recvFlag = control.recvFlag := same
  unfold answerKept
  rw [flag]
  split
  · exact follows_passAnswerGNodeCfm mixed
  · exact .idle

theorem follows_passCodeSetTPassCode (crypto : Crypto) (env : Env)
    (slink : SLink) (method : UInt8) :
    ∃ confirm, slink.Follows env
      (Scripts.setTPassCode env ⟨confirm, method⟩ slink.control)
      (slink.passCodeSetTPassCode crypto env) := by
  unfold passCodeSetTPassCode Scripts.setTPassCode
  cases drawn : env.randNum with
  | none =>
    rw [passCodePrepareT_undrawn drawn]
    exact ⟨[], Follows.fail⟩
  | some random =>
    rcases passCodePrepareT_outcome crypto env slink drawn with
      ⟨failed, made, same⟩ | ⟨confirm, prepared, made, same⟩
    all_goals rw [made]
    · exact ⟨[], Follows.head same⟩
    · refine ⟨confirm, Follows.tail ?_⟩
      apply Follows.afterTwo same fun _ => ⟨rfl, rfl⟩
      apply follows_answerKept
      rw [same]
      rfl

theorem follows_setPassCode (method : UInt8) (passCode : UInt32) :
    ∃ confirm, slink.Follows env
      (Scripts.setPassCode env ⟨confirm, method⟩ slink.control)
      (slink.setPassCode crypto env passCode) := by
  have role : slink.control.role = slink.waitDelUapiTimer.role := rfl
  unfold setPassCode Scripts.setPassCode
  rw [role]
  by_cases gNode : slink.waitDelUapiTimer.role = gNodeRole
  · obtain ⟨confirm, follows⟩ := follows_passCodeSetGPassCode crypto env
      (slink.waitDelUapiTimer.setGPassCode passCode) method
    simp only [if_pos gNode]
    exact ⟨confirm, follows.after rfl rfl⟩
  · obtain ⟨confirm, follows⟩ := follows_passCodeSetTPassCode crypto env
      (slink.waitDelUapiTimer.setTPassCode passCode) method
    simp only [if_neg gNode]
    exact ⟨confirm, follows.after rfl rfl⟩

section

variable (crypto : Crypto) (env : Env) (slink : SLink) (passWord : Bytes)

theorem follows_passWordSetGPassWord :
    ∃ confirm, slink.Follows env [[.fail],
        [.store .gConfirm confirm, .send Opcode.gNodeCfmWithRa,
          .wait Opcode.tNodeCfmWithRb]]
      (slink.passWordSetGPassWord crypto env passWord) := by
  unfold passWordSetGPassWord
  generalize made : slink.setGMixWord (slink.genMixPassWord crypto env
    passWord slink.gNode.mixWord) = mixed
  have same : mixed.control = slink.control := by
    rw [← made]
    rfl
  dsimp only
  cases mixed.genMixedConfirmNum crypto env .confirm mixed.gNode.randomR
      mixed.gNode.mixWord with
  | none => exact ⟨[], Follows.fail.of_control same⟩
  | some confirm =>
    refine ⟨confirm, Follows.tail (.head ?_)⟩
    rw [control_sendAndWait, control_setGConfirm, same]
    rfl

theorem follows_passWordSetTPassWord :
    ∃ confirm, slink.Follows env ([.fail] :: (answerKept slink.control).map
        (Act.store .tConfirm confirm :: ·))
      (slink.passWordSetTPassWord crypto env passWord) := by
  unfold passWordSetTPassWord
  generalize made : slink.setTMixWord (slink.genMixPassWord crypto env
    passWord slink.tNode.mixWord) = mixed
  have same : mixed.control = slink.control := by
    rw [← made]
    rfl
  dsimp only
  cases mixed.genMixedConfirmNum crypto env .confirm mixed.tNode.randomR
      mixed.tNode.mixWord with
  | none => exact ⟨[], Follows.fail.of_control same⟩
  | some confirm =>
    have stored : (mixed.setTConfirm confirm).control =
        slink.control.store confirm .tConfirm := by
      rw [control_setTConfirm, same]
    refine ⟨confirm, Follows.tail ?_⟩
    apply Follows.after stored rfl
    apply follows_answerKept
    rw [stored]
    rfl

end

theorem follows_setPassWord (method : UInt8) (passWord : Bytes) :
    ∃ confirm, slink.Follows env
      (Scripts.setPassWord ⟨confirm, method⟩ slink.control)
      (slink.setPassWord crypto env passWord) := by
  have role : slink.control.role = slink.waitDelUapiTimer.role := rfl
  unfold setPassWord Scripts.setPassWord
  rw [role]
  by_cases gNode : slink.waitDelUapiTimer.role = gNodeRole
  · obtain ⟨confirm, follows⟩ := follows_passWordSetGPassWord crypto env
      slink.waitDelUapiTimer passWord
    simp only [if_pos gNode]
    exact ⟨confirm, follows.after rfl rfl⟩
  · obtain ⟨confirm, follows⟩ := follows_passWordSetTPassWord crypto env
      slink.waitDelUapiTimer passWord
    simp only [if_neg gNode]
    exact ⟨confirm, follows.after rfl rfl⟩

theorem follows_confirmed (keep : SLink → SLink) (code : SLink → Bytes)
    (size : SLink → Nat) {known : Nat}
    (kept : ∀ slink, (keep slink).control = slink.control)
    (sized : ∀ keyed, keyed.shared = slink.shared → size keyed = known)
    (tNode : slink.role ≠ gNodeRole) :
    let keyed := slink.genTKeys crypto env
    slink.Follows env (confirmed env slink.control known) (if keyed.2 then
        if keyed.1.tNode.recvFlag then
          keep ((keyed.1.setRecvFlag false).recvGNodeDhKey crypto env
            (code keyed.1) (size keyed.1))
        else keyed.1
      else keyed.1) := by
  have role : slink.control.role ≠ gNodeRole := tNode
  unfold confirmed genTKeys
  rw [if_neg role]
  rcases genKeys_outcome crypto env slink slink.tNode.pubKey
      slink.gNode.pubKey with
    ⟨keyed, made, same, shared⟩ | ⟨keyed, failed, same⟩
  · rw [made]
    have flag : keyed.tNode.recvFlag = slink.control.recvFlag :=
      congrArg Control.recvFlag same
    apply Follows.tail
    rw [if_pos rfl, flag, sized keyed shared]
    split
    · obtain ⟨script, found, done⟩ : (keyed.setRecvFlag false).Follows env
          (checkG known) ((keyed.setRecvFlag false).recvGNodeDhKey
            crypto env (code keyed) known) := follows_recvGNodeDhKey known
      refine ⟨.flag false :: script, mem_map_of_mem found, ?_⟩
      rw [kept, done, control_setRecvFlag, same]
      rfl
    · exact .head same
  · rw [failed]
    exact .head same

theorem follows_numCmpContinueNumComparison :
    slink.Follows env (confirmed env slink.control
        slink.shared.numCmpTNodeRecvDHKeySize)
      (slink.numCmpContinueNumComparison crypto env) := by
  unfold numCmpContinueNumComparison
  split
  case isTrue gNode =>
    have role : slink.control.role = gNodeRole := gNode
    unfold confirmed
    rw [if_pos role]
    exact follows_finishGNode
  case isFalse tNode =>
    apply follows_confirmed id (fun keyed => keyed.shared.numCmpTNodeRecvDHKey)
      (fun keyed => keyed.shared.numCmpTNodeRecvDHKeySize)
      (fun _ => rfl) _ tNode
    intro keyed shared
    rw [shared]

theorem follows_noEntryContinueNoentry :
    slink.Follows env (confirmed env slink.control 16)
      (slink.noEntryContinueNoentry crypto env) := by
  unfold noEntryContinueNoentry
  split
  case isTrue gNode =>
    have role : slink.control.role = gNodeRole := gNode
    unfold confirmed
    rw [if_pos role]
    exact follows_finishGNode
  case isFalse tNode =>
    exact follows_confirmed clearNoEntryCode
      (fun keyed => keyed.shared.noEntryTNodeRecvDHKey) (fun _ => 16)
      (fun _ => rfl) (fun _ _ => rfl) tNode

theorem follows_setConfirm :
    slink.Follows env (Scripts.setConfirm env slink.control
        slink.shared.numCmpTNodeRecvDHKeySize)
      (slink.setConfirm crypto env) := by
  have answers : (slink.note .confirmed).waitDelUapiTimer.Follows env
      (if slink.control.authMethod = AuthMethod.numberCompare then
        confirmed env slink.control slink.shared.numCmpTNodeRecvDHKeySize
      else if slink.control.authMethod = AuthMethod.noEntry then
        confirmed env slink.control 16
      else [[.fail]]) (slink.setConfirm crypto env) := by
    have method : slink.control.authMethod =
      (slink.note .confirmed).waitDelUapiTimer.negoParams.authMethod := rfl
    unfold setConfirm
    rw [method]
    dsimp only
    split_ifs
    · have follows : (slink.note .confirmed).waitDelUapiTimer.Follows env _
          ((slink.note .confirmed).waitDelUapiTimer.numCmpContinueNumComparison
            crypto env) := follows_numCmpContinueNumComparison
      exact follows
    · have follows : (slink.note .confirmed).waitDelUapiTimer.Follows env _
          ((slink.note .confirmed).waitDelUapiTimer.noEntryContinueNoentry
            crypto env) := follows_noEntryContinueNoentry
      exact follows
    · exact .fail
  exact answers.afterTwo rfl fun _ => ⟨rfl, rfl⟩

/-! ### Start of the authentication -/

theorem follows_startConfirmed (random : Bytes) (method : UInt8)
    {awaited first : UInt16} {send : SLink → SLink}
    (drawn : env.randNum = some random) (sends : ∀ ready, (send ready).control =
      Control.run env [.send first, .wait randNumRa] ready.control) :
    ∃ confirm, slink.Follows env
      (Scripts.startConfirmed ⟨confirm, method⟩ random slink.control awaited
        first)
      (slink.startConfirmed crypto env awaited send) := by
  unfold startConfirmed Scripts.startConfirmed
  rw [drawn, control_role]
  by_cases gNode : slink.role = gNodeRole
  · simp only [if_pos gNode]
    exact ⟨[], Follows.head (control_waitExpectOpCode awaited)⟩
  · simp only [if_neg gNode]
    cases (slink.setRb random).genConfirmNum crypto env .confirm random with
    | none => exact ⟨[], Follows.head control_internalError⟩
    | some confirm => exact ⟨confirm, Follows.tail (.head (sends _))⟩

theorem follows_passCodeStartPatternInputG (method : UInt8) :
    ∃ confirm, slink.Follows env
      (startPassCode env ⟨confirm, method⟩ slink.control)
      (slink.passCodeStartPatternInputG crypto env) := by
  unfold passCodeStartPatternInputG startPassCode
  rw [control_role]
  by_cases gNode : slink.role = gNodeRole
  · simp only [if_pos gNode]
    exact ⟨[], Follows.tail (.head control_waitUapiInput)⟩
  · simp only [if_neg gNode]
    cases generateSixDigits env with
    | none => exact ⟨[], Follows.head control_internalError⟩
    | some code =>
      generalize shows : (slink.setTPassCode (UInt32.ofNat
        code)).requestCbk slink.negoParams.authMethod (some code) = shown
      have same : shown.control = slink.control.note .prompted := by
        rw [← shows]
        rfl
      dsimp only
      rw [shows]
      cases drawn : env.randNum with
      | none =>
        rw [passCodePrepareT_undrawn drawn]
        refine ⟨[], Follows.tail (.tail (.head ?_))⟩
        rw [if_neg Bool.false_ne_true, control_internalError, same]
        rfl
      | some random =>
        rcases passCodePrepareT_outcome crypto env shown drawn with
          ⟨failed, made, failure⟩ | ⟨confirm, prepared, made, ready⟩
        all_goals rw [made]
        · refine ⟨[], Follows.tail (.tail (.head ?_))⟩
          rw [if_neg Bool.false_ne_true, failure, same]
          rfl
        · refine ⟨confirm, Follows.tail (.tail (.tail (.head ?_)))⟩
          rw [if_pos rfl, control_waitExpectOpCode, ready, same]
          rfl

theorem follows_passCodeStartPatternInputT (method : UInt8) :
    ∃ confirm, slink.Follows env
      (startPassCode env ⟨confirm, method⟩ slink.control)
      (slink.passCodeStartPatternInputT crypto env) := by
  unfold passCodeStartPatternInputT startPassCode
  rw [control_role]
  by_cases gNode : slink.role = gNodeRole
  · simp only [if_pos gNode]
    cases generateSixDigits env with
    | none => exact ⟨[], Follows.head control_internalError⟩
    | some code =>
      obtain ⟨confirm, follows⟩ := follows_passCodeSetGPassCode crypto env
        ((slink.setGPassCode (UInt32.ofNat code)).requestCbk
          slink.negoParams.authMethod (some code)) method
      exact ⟨confirm, Follows.tail (.tail (follows.after rfl rfl))⟩
  · simp only [if_neg gNode]
    refine ⟨[], Follows.tail (.head ?_)⟩
    rw [control_waitExpectOpCode, control_waitUapiInput]
    rfl

theorem follows_passCodeAuthStart (method : UInt8) :
    ∃ confirm, slink.Follows env
      (startPassCode env ⟨confirm, method⟩ slink.control)
      (slink.passCodeAuthStart crypto env) := by
  unfold passCodeAuthStart
  split_ifs
  · exact follows_passCodeStartPatternInputG method
  · exact follows_passCodeStartPatternInputT method
  · refine ⟨[], ?_⟩
    unfold startPassCode
    split <;> exact .fail

theorem follows_oobAuthStart (random : Bytes) (method : UInt8)
    (drawn : env.randNum = some random) :
    ∃ confirm, slink.Follows env
      (startDrawn ⟨confirm, method⟩ slink.control .oob random)
      (slink.oobAuthStart crypto env) := by
  unfold oobAuthStart startDrawn
  rw [drawn, control_role]
  by_cases gNode : slink.role = gNodeRole
  · simp only [if_pos gNode]
    cases (slink.setRa random).genConfirmNum crypto env .confirm random with
    | none => exact ⟨[], Follows.head control_internalError⟩
    | some confirm =>
      exact ⟨confirm, Follows.tail (.head (control_sendAndWait _ _ _))⟩
  · simp only [if_neg gNode]
    cases (slink.setRb random).genConfirmNum crypto env .confirm random with
    | none => exact ⟨[], Follows.head control_internalError⟩
    | some confirm =>
      exact ⟨confirm, Follows.tail (.head (control_waitExpectOpCode _))⟩

section

variable (values : Values) (random : Bytes) (drawn : env.randNum = some random)
include drawn

theorem follows_passWordAuthStart :
    slink.Follows env (startDrawn values slink.control .passWord random)
      (slink.passWordAuthStart env) := by
  unfold passWordAuthStart startDrawn
  rw [drawn, control_role]
  dsimp only
  split
  · exact Follows.head control_waitUapiInput
  · apply Follows.head
    rw [control_waitExpectOpCode, control_waitUapiInput]
    rfl

theorem follows_pskAuthStart :
    slink.Follows env (startDrawn values slink.control .psk random)
      (slink.pskAuthStart env) := by
  unfold pskAuthStart startDrawn
  rw [drawn, control_role]
  dsimp only
  split
  · exact .head (control_sendAndWait _ _ _)
  · exact .head (control_waitExpectOpCode _)

end

theorem authStart_undrawn (undrawn : env.randNum = none)
    (draws : method ≠ .nego) (other : method ≠ .passCode) :
    slink.authStart crypto env method = slink.internalError env := by
  cases method with
  | nego => exact absurd rfl draws
  | passCode => exact absurd rfl other
  | numCmp => simp [authStart, numCmpAuthStart, startConfirmed, undrawn]
  | noEntry => simp [authStart, noEntryAuthStart, startConfirmed, undrawn]
  | passWord => simp [authStart, passWordAuthStart, undrawn]
  | oob => simp [authStart, oobAuthStart, undrawn]
  | psk => simp [authStart, pskAuthStart, undrawn]

theorem follows_authStart_drawn (random : Bytes) (chosen : UInt8)
    (drawn : env.randNum = some random) (draws : method ≠ .nego)
    (other : method ≠ .passCode) : ∃ confirm, slink.Follows env
      (startDrawn ⟨confirm, chosen⟩ slink.control method random)
      (slink.authStart crypto env method) := by
  cases method with
  | nego => exact absurd rfl draws
  | passCode => exact absurd rfl other
  | passWord => exact ⟨[], follows_passWordAuthStart _ random drawn⟩
  | oob => exact follows_oobAuthStart random chosen drawn
  | psk => exact ⟨[], follows_pskAuthStart _ random drawn⟩
  | _ =>
    apply follows_startConfirmed random chosen drawn
    intro ready
    exact control_sendAndWait _ _ _

theorem follows_authStart (crypto : Crypto) (env : Env) (slink : SLink)
    (chosen : UInt8) (method : Dispatcher) :
    ∃ confirm, slink.Follows env
      (Scripts.start env ⟨confirm, chosen⟩ slink.control (some method))
      (slink.authStart crypto env method) := by
  by_cases nego : method = .nego
  · rw [nego]
    exact ⟨[], Follows.idle⟩
  · by_cases passCode : method = .passCode
    · rw [passCode]
      exact follows_passCodeAuthStart chosen
    · simp only [start_drawn nego passCode]
      cases drawn : env.randNum with
      | none =>
        rw [authStart_undrawn drawn nego passCode]
        exact ⟨[], Follows.fail⟩
      | some random =>
        exact follows_authStart_drawn random chosen drawn nego passCode

theorem mem_start {other : Control} {chosen : Option Dispatcher}
    (same : control.role = other.role)
    (listed : script ∈ Scripts.start env values control chosen) :
    script ∈ Scripts.start env values other chosen := by
  suffices equal : Scripts.start env values control chosen =
      Scripts.start env values other chosen from equal ▸ listed
  cases chosen with
  | none => rfl
  | some method =>
    cases method with
    | nego => rfl
    | passCode => simp only [Scripts.start, startPassCode, same]
    | numCmp | noEntry =>
      simp only [Scripts.start, startDrawn, Scripts.startConfirmed, same]
    | _ => simp only [Scripts.start, startDrawn, same]

section

variable (crypto : Crypto) (env : Env) (slink : SLink) (chosen : UInt8)

theorem follows_enterAuth :
    ∃ confirm, ∃ script ∈ Scripts.start env ⟨confirm, chosen⟩ slink.control
        (getAuthPkgDispatcher slink.control.authMethod),
      (slink.enterAuth crypto env).control = Control.run env script
        { slink.control.note (.authenticates
            (getAuthPkgDispatcher slink.control.authMethod)) with
          state := .auth
          dispatcher :=
            getAuthPkgDispatcher slink.control.authMethod } := by
  have method : slink.negoParams.authMethod = slink.control.authMethod := rfl
  unfold enterAuth
  rw [method]
  generalize getAuthPkgDispatcher slink.control.authMethod = looked
  cases looked with
  | none => exact ⟨[], [], mem_singleton.mpr rfl, rfl⟩
  | some found =>
    obtain ⟨confirm, script, listed, done⟩ := follows_authStart crypto env
      { slink.note (.authenticates (some found)) with
        state := .auth
        dispatcher := some found } chosen found
    exact ⟨confirm, script, mem_start rfl listed, done⟩

theorem follows_negoSuccess :
    ∃ confirm, slink.Follows env
      (authenticate env ⟨confirm, chosen⟩ slink.control)
      (slink.negoSuccess crypto env) := by
  obtain ⟨confirm, script, listed, done⟩ :=
    follows_enterAuth crypto env (slink.note .posted) chosen
  have found : script ∈ Scripts.start env ⟨confirm, chosen⟩ slink.control
      (getAuthPkgDispatcher slink.control.authMethod) :=
    mem_start rfl listed
  refine ⟨confirm, .authenticate :: script, mem_map_of_mem found, ?_⟩
  have same : slink.control.state = slink.state := rfl
  unfold Control.run negoSuccess
  simp only [Control.goesOn, Control.exec, Control.negoSuccess, same]
  cases slink.state with
  | nego => exact done
  | _ => rfl

end

/-! ### Negotiation -/

theorem authMethodTable_le :
    ∀ row ∈ authMethodTable, ∀ method ∈ row, method ≤ 5 := by
  have checked : authMethodTable.all fun row =>
      row.all fun method => method ≤ 5 := by decide
  intro row listed method found
  have within := all_eq_true.mp checked row listed
  exact of_decide_eq_true (all_eq_true.mp within method found)

theorem getAuthMethod_le (gNodeIo tNodeIo : UInt8) :
    getAuthMethod gNodeIo tNodeIo ≤ 5 := by
  unfold getAuthMethod
  split
  · decide
  · generalize gNodeIo.toNat = column
    generalize tNodeIo.toNat = row
    rw [getD_eq_getElem?_getD, getD_eq_getElem?_getD]
    cases picked : authMethodTable[row]? with
    | none => simp
    | some entries =>
      cases chosen : entries[column]? with
      | none => simp [chosen]
      | some method =>
        have listed := authMethodTable_le entries
          (mem_of_getElem? picked) method
          (mem_of_getElem? chosen)
        simpa [chosen] using listed

theorem negoAuthMethod_le (msg : PairReqRspMsg)
    (gMitmDefend tMitmDefend : UInt8) :
    slink.negoAuthMethod env msg gMitmDefend tMitmDefend ≤ 5 := by
  unfold negoAuthMethod
  split_ifs
  any_goals decide
  exact getAuthMethod_le _ _

theorem pairingNego_outcome (env : Env) (slink : SLink)
    (msg : PairReqRspMsg) (gMitmDefend tMitmDefend : UInt8) :
    ∃ method ≤ 5, (∃ agreed, slink.pairingNego env msg gMitmDefend tMitmDefend =
          (agreed, true) ∧
        agreed.control = { slink.control with authMethod := method }) ∨
      (∃ refused, slink.pairingNego env msg gMitmDefend tMitmDefend =
          (refused, false) ∧
        refused.control = { slink.control with authMethod := method }) ∨
      (∃ refused, slink.pairingNego env msg gMitmDefend tMitmDefend =
          (refused, false) ∧ refused.control = slink.control) := by
  refine ⟨slink.negoAuthMethod env msg gMitmDefend tMitmDefend,
    negoAuthMethod_le msg gMitmDefend tMitmDefend, ?_⟩
  unfold pairingNego
  split
  · dsimp only
    split
    · exact .inr (.inl ⟨_, rfl, rfl⟩)
    · refine .inl ⟨_, rfl, ?_⟩
      unfold negoEncAlgo
      split <;> rfl
  · exact .inr (.inr ⟨_, rfl, rfl⟩)

theorem follows_pairingNego {stored : SLink} {msg : PairReqRspMsg}
    {gMitmDefend tMitmDefend : UInt8} {sent : Script} (reply : SLink → SLink)
    (same : stored.control = slink.control)
    (replies : ∀ {agreed : SLink} {method : UInt8},
      agreed.control = { slink.control with authMethod := method } →
      slink.Follows env [[.method method, .fail], .method method :: sent]
        (reply agreed)) :
    let nego := stored.pairingNego env msg gMitmDefend tMitmDefend
    ∃ method ≤ 5, slink.Follows env
      [[.fail], [.method method, .fail], .method method :: sent]
      (if nego.2 then reply nego.1 else nego.1.internalError env) := by
  obtain ⟨method, valid, ⟨agreed, made, agrees⟩ | ⟨refused, made, agrees⟩ |
      ⟨refused, made, agrees⟩⟩ :=
    pairingNego_outcome env stored msg gMitmDefend tMitmDefend
  · rw [made]
    exact ⟨method, valid, .tail (replies (same ▸ agrees))⟩
  · refine ⟨method, valid, Follows.tail (.head ?_)⟩
    rw [made, if_neg Bool.false_ne_true, control_internalError, agrees, same]
    rfl
  · refine ⟨method, valid, Follows.head ?_⟩
    rw [made, if_neg Bool.false_ne_true, control_internalError, agrees, same]
    rfl

theorem follows_recvPairingReq (long : ¬ pkg.length < 10) :
    ∃ method ≤ 5, slink.Follows env [[.fail], [.method method, .fail],
        [.method method, .send pairingResponse, .wait pairingConfirm]]
      (slink.recvPairingReq env pkg) := by
  unfold recvPairingReq
  rw [if_neg long]
  refine follows_pairingNego (fun agreed => (agreed.emit (.pairingStart
    agreed.lcid agreed.negoParams.secAttribute)).sendPairingRsp env) rfl
    fun agrees => Follows.tail (.head ?_)
  refine (control_sendAndWait _ _ _).trans ?_
  rw [control_emit, agrees]
  rfl

theorem follows_recvPairingRsp (long : ¬ pkg.length < 10) :
    ∃ method ≤ 5, slink.Follows env [[.fail], [.method method, .fail],
        [.method method, .send pairingConfirm, .wait pairingInitInfo]]
      (slink.recvPairingRsp env pkg) := by
  unfold recvPairingRsp
  rw [if_neg long]
  refine follows_pairingNego (fun agreed => (agreed.emit (.pairingStart
    agreed.lcid agreed.negoParams.secAttribute)).sendPairingCfm env) rfl
    fun {agreed method} agrees => ?_
  unfold sendPairingCfm
  cases env.pubPriKey with
  | none =>
    apply Follows.head
    rw [control_internalError, control_emit, agrees]
    rfl
  | some keys =>
    refine Follows.tail (.head ?_)
    refine (control_sendAndWait _ _ _).trans ?_
    have stored : (setGKeyPair (agreed.emit (.pairingStart agreed.lcid
        agreed.negoParams.secAttribute)) keys.1 keys.2).control =
      agreed.control := rfl
    rw [stored, agrees]
    rfl

theorem control_sendPairingInitInfo :
    (slink.sendPairingInitInfo env).control = slink.control.exec env
      (if env.pubPriKey.isSome then .attempt pairingInitInfo
      else .fail) := by
  unfold sendPairingInitInfo
  cases env.pubPriKey with
  | none => exact control_internalError
  | some keys => exact control_sendMessage _ _

theorem kept_internalError (control : Control) :
    (control.internalError env).role = control.role ∧
      (control.internalError env).authMethod = control.authMethod ∧
      (control.internalError env).dispatcher = control.dispatcher := by
  unfold Control.internalError
  cases control.state <;> exact ⟨rfl, rfl, rfl⟩

theorem dispatcher_exchange {answer : UInt16} (control : Control) :
    (control.exec env (.exchange opcode answer)).dispatcher =
      control.dispatcher := by
  simp only [Control.exec]
  split
  · unfold Control.waitExpectOpCode
    split <;> rfl
  · exact (kept_internalError control).2.2

theorem mem_authenticate {other : Control}
    (same : control.role = other.role ∧ control.authMethod = other.authMethod)
    (listed : script ∈ authenticate env values control) :
    script ∈ authenticate env values other := by
  obtain ⟨rest, found, equal⟩ := mem_map.mp listed
  rw [same.2] at found
  exact mem_map.mpr ⟨rest, mem_start same.1 found, equal⟩

theorem follows_recvPairingCfm (method : UInt8) (long : ¬ pkg.length < 70) :
    ∃ confirm, slink.Follows env ([.fail] ::
        (authenticate env ⟨confirm, method⟩ slink.control).map
          ((if env.pubPriKey.isSome then
            Act.attempt pairingInitInfo else .fail) :: ·))
      (slink.recvPairingCfm crypto env pkg) := by
  unfold recvPairingCfm
  rw [if_neg long]
  by_cases length : slink.negoParams.secKeyMaxLen ≠ pkg.getD 0 0
  · rw [if_pos length]
    exact ⟨[], Follows.fail⟩
  · rw [if_neg length]
    by_cases other : slink.negoParams.authMethod ≠ pkg.getD 1 0
    · rw [if_pos other]
      exact ⟨[], Follows.fail⟩
    · rw [if_neg other]
      generalize answers : (slink.savePairingCfm pkg).sendPairingInitInfo
        env = answered
      have same : answered.control = slink.control.exec env
          (if env.pubPriKey.isSome then .attempt pairingInitInfo
          else .fail) := by
        rw [← answers]
        exact control_sendPairingInitInfo
      obtain ⟨confirm, script, listed, done⟩ :=
        follows_negoSuccess crypto env answered method
      refine ⟨confirm, Follows.tail ?_⟩
      refine .after same ?_ ⟨script, ?_, done⟩
      · split <;> rfl
      · rw [same] at listed
        have failed := @kept_internalError env slink.control
        apply mem_authenticate _ listed
        split
        · simp only [Control.exec]
          split
          · exact ⟨rfl, rfl⟩
          · exact ⟨failed.1, failed.2.1⟩
        · exact ⟨failed.1, failed.2.1⟩

theorem follows_nego (opcode : UInt16) :
    ∃ values : Values, values.method ≤ 5 ∧
      slink.Follows env (Scripts.nego env values slink.control opcode pkg)
        (slink.negoPkgDispatcher crypto env opcode pkg) := by
  have idle : ∃ values : Values, values.method ≤ 5 ∧
      slink.Follows env [[]] slink := ⟨⟨[], 0⟩, by decide, .idle⟩
  unfold negoPkgDispatcher Scripts.nego
  by_cases start : opcode = pairingStart
  · simp only [if_pos start]
    refine ⟨⟨[], 0⟩, by decide, ?_⟩
    unfold recvPairingStart
    split
    · exact .idle
    · exact .head (control_sendAndWait _ _ _)
  simp only [if_neg start]
  by_cases request : opcode = pairingRequest
  · simp only [if_pos request]
    by_cases short : pkg.length < 10
    · unfold recvPairingReq
      simp only [if_pos short]
      exact idle
    · obtain ⟨method, valid, follows⟩ := follows_recvPairingReq short
      simp only [if_neg short]
      exact ⟨⟨[], method⟩, valid, follows⟩
  simp only [if_neg request]
  by_cases response : opcode = pairingResponse
  · simp only [if_pos response]
    by_cases short : pkg.length < 10
    · unfold recvPairingRsp
      simp only [if_pos short]
      exact idle
    · obtain ⟨method, valid, follows⟩ := follows_recvPairingRsp short
      simp only [if_neg short]
      exact ⟨⟨[], method⟩, valid, follows⟩
  simp only [if_neg response]
  by_cases confirms : opcode = pairingConfirm
  · simp only [if_pos confirms]
    by_cases short : pkg.length < 70
    · unfold recvPairingCfm
      simp only [if_pos short]
      exact idle
    · obtain ⟨confirm, follows⟩ := follows_recvPairingCfm 0 short
      simp only [if_neg short]
      exact ⟨⟨confirm, 0⟩, (by decide : (0 : UInt8) ≤ 5), follows⟩
  simp only [if_neg confirms]
  by_cases info : opcode = pairingInitInfo
  · simp only [if_pos info]
    unfold recvPairingInitInfo
    by_cases short : pkg.length < 64
    · simp only [if_pos short]
      exact idle
    · obtain ⟨confirm, follows⟩ := follows_negoSuccess crypto env
        (slink.savePairingInitInfo pkg) 0
      simp only [if_neg short]
      exact ⟨⟨confirm, 0⟩, (by decide : (0 : UInt8) ≤ 5), follows⟩
  · simp only [if_neg info]
    exact idle

theorem follows_dispatch (crypto : Crypto) (env : Env) (slink : SLink)
    (opcode : UInt16) (pkg : Bytes) (method : Dispatcher) :
    ∃ values : Values, values.method ≤ 5 ∧ slink.Follows env
        (Scripts.dispatch env values slink.control opcode pkg method)
        (slink.dispatch crypto env opcode pkg method) := by
  cases method with
  | nego => exact follows_nego opcode
  | numCmp => exact ⟨⟨[], 0⟩, by decide, follows_numCmp opcode⟩
  | noEntry => exact ⟨⟨[], 0⟩, by decide, follows_noEntry opcode⟩
  | oob => exact ⟨⟨[], 0⟩, by decide, follows_oob opcode⟩
  | psk =>
    obtain ⟨confirm, follows⟩ := follows_psk opcode 0
    exact ⟨⟨confirm, 0⟩, (by decide : (0 : UInt8) ≤ 5), follows⟩
  | _ => exact ⟨⟨[], 0⟩, by decide, follows_pass opcode _ _⟩

/-! ### Events -/

theorem control_bindLogicLink {lcid : UInt16} {role : UInt8}
    (found : env.logicLink = some (lcid, role)) :
    slink.bindLogicLink env =
      ({ slink with lcid := lcid, role := role }, true) := by
  unfold bindLogicLink
  rw [found]

theorem bindLogicLink_missing (missing : env.logicLink = none) :
    slink.bindLogicLink env = (slink, false) := by
  unfold bindLogicLink
  rw [missing]

theorem control_passiveStart :
    (slink.passiveStart env).control = Control.run env
      (Scripts.passiveStart env slink.control) slink.control := by
  unfold passiveStart Scripts.passiveStart
  rw [control_state]
  cases slink.state with
  | init =>
    cases found : env.logicLink with
    | none =>
      rw [bindLogicLink_missing found]
      exact control_enterRemv
    | some link =>
      rw [control_bindLogicLink found]
      rfl
  | _ => rfl

theorem control_missStart :
    (slink.enterMiss.missHandle env).control =
      Control.run env (Scripts.missStart env) slink.control := by
  unfold missHandle Scripts.missStart
  dsimp only
  cases found : env.logicLink with
  | none =>
    rw [bindLogicLink_missing found]
    rfl
  | some link =>
    obtain ⟨lcid, role⟩ := link
    rw [control_bindLogicLink found, if_pos rfl]
    dsimp only
    by_cases gNode : role = gNodeRole
    · rw [if_pos gNode, if_pos gNode]
      unfold negoStart
      rw [if_pos (by exact gNode)]
      exact control_exchange _ _ _
    · rw [if_neg gNode, if_neg gNode]
      rfl

theorem dispatcher_missStart :
    (slink.enterMiss.missHandle env).dispatcher =
      if env.logicLink.isSome then some .nego else slink.dispatcher := by
  have same : (slink.enterMiss.missHandle env).dispatcher =
      (Control.run env (Scripts.missStart env) slink.control).dispatcher :=
    congrArg Control.dispatcher control_missStart
  rw [same]
  unfold Scripts.missStart
  cases env.logicLink with
  | none => rfl
  | some link =>
    dsimp only
    split
    · exact dispatcher_exchange _
    · rfl

theorem follows_encpEnable (env : Env) (slink : SLink) :
    slink.Follows env [[], [.fail]] (slink.encpEnable env) := by
  unfold encpEnable
  split_ifs
  · exact .idle
  · exact .head rfl
  · exact .tail Follows.fail

theorem follows_activeStart :
    slink.Follows env (Scripts.activeStart env slink.control)
      (slink.activeStart env) := by
  unfold activeStart Scripts.activeStart
  rw [control_state]
  cases now : slink.state with
  | init =>
    cases found : env.logicLink with
    | none =>
      rw [bindLogicLink_missing found]
      exact .head control_enterRemv
    | some link =>
      obtain ⟨lcid, role⟩ := link
      rw [control_bindLogicLink found, if_pos rfl]
      unfold negoStart
      apply Follows.head
      by_cases gNode : role = gNodeRole
      · rw [if_pos gNode, if_pos (by exact gNode)]
        exact control_sendAndWait _ _ _
      · rw [if_neg gNode, if_neg (by exact gNode)]
        exact control_sendAndWait _ _ _
  | encp =>
    cases found : env.logicLink with
    | none =>
      rw [bindLogicLink_missing found]
      exact .idle
    | some link =>
      obtain ⟨lcid, role⟩ := link
      rw [control_bindLogicLink found, if_pos rfl]
      have follows := follows_encpEnable env
        { slink with lcid := lcid, role := role }
      exact follows.after rfl rfl
  | _ => exact .idle

theorem control_removePair :
    (slink.removePair env).control = Control.run env
      (Scripts.removePair slink.control) slink.control := by
  have cancels : ∀ cancelled : SLink,
      (if (cancelled.sendMessage env Opcode.pairFail [0x0C]).2 then
        (cancelled.sendMessage env Opcode.pairFail [0x0C]).1.enterRemv env
      else (cancelled.sendMessage env Opcode.pairFail [0x0C]).1).control =
        Control.run env [.send Opcode.pairFail, .leave]
          cancelled.control := by
    intro cancelled
    rcases sendMessage_cases env cancelled Opcode.pairFail [0x0C] with
      ⟨taken, sent⟩ | ⟨refused, failed⟩
    · rw [sent, run_send_taken taken]
      exact control_enterRemv
    · rw [failed, run_send_refused refused]
      exact control_internalError
  unfold removePair Scripts.removePair
  rw [control_state]
  cases slink.state with
  | nego | auth => exact cancels _
  | remv => rfl
  | _ => exact control_enterRemv

theorem control_recoverKey (key : RecoverKeyParam) :
    (slink.recoverKey env key).control = Control.run env
      (Scripts.recoverKey slink.control) slink.control := by
  have same : slink.control.state = (slink.installKey key).state := rfl
  unfold recoverKey recoverStart Scripts.recoverKey
  rw [same]
  cases (slink.installKey key).state with
  | init => exact control_enterEncp
  | _ => rfl

theorem control_encryptChange (status : UInt16) (evtStatus : UInt8) :
    (slink.encryptChange env status evtStatus).control = Control.run env
      (Scripts.encryptChange env slink.control status evtStatus)
      slink.control := by
  unfold encryptChange Scripts.encryptChange
  rw [control_state]
  split
  · split
    · unfold encpFail
      cases slink.state with
      | encp =>
        by_cases missing : evtStatus = 5
        · simp only [missing, and_self, if_true]
          exact control_missStart
        · simp only [missing, and_false, if_false]
          rfl
      | _ => rfl
    · exact control_externalError
  · unfold encpSuccess
    split
    case isTrue changed =>
      cases slink.state with
      | encp =>
        rw [if_pos ⟨changed, rfl⟩]
        rfl
      | _ => simp [Control.run]
    case isFalse changed =>
      rw [if_neg (fun both => changed both.1)]
      rfl

theorem control_lchannelDisconn (env : Env) (slink : SLink) :
    (slink.lchannelDisconn env).control = Control.run env
      (match slink.state with
      | .nego | .auth => [.report .linkDisconnected, .leave]
      | .miss | .full => [.encp]
      | .init | .encp | .remv => []) slink.control := by
  unfold lchannelDisconn
  cases slink.state with
  | miss | full => exact control_enterEncp
  | init | encp | remv => rfl
  | _ => exact control_enterRemv

theorem control_disconnected :
    (slink.disconnected env).control = Control.run env
      (Scripts.disconnected slink.control) slink.control :=
  control_lchannelDisconn env { slink with lcid := invalidLcid }

theorem control_replyKeyMissing :
    (slink.replyKeyMissing env).control = Control.run env
      (if env.paramReqNegativeReply then [] else [.leave])
      slink.control := by
  unfold replyKeyMissing
  split
  · rfl
  · exact control_enterRemv

theorem control_encpParamReqReplyProcess :
    (slink.encpParamReqReplyProcess env).control = Control.run env
      (if slink.role ≠ tNodeRole then
        if env.paramReqNegativeReply then [] else [.fail]
      else if env.paramReqReply then [] else [.fail]) slink.control := by
  unfold encpParamReqReplyProcess
  split
  all_goals
    split
    · rfl
    · exact control_internalError

theorem control_encpParamReqReply :
    (slink.encpParamReqReply env).control = Control.run env
      (Scripts.encryptParamReq env slink.control) slink.control := by
  unfold encpParamReqReply Scripts.encryptParamReq
  rw [control_state]
  cases slink.state with
  | init =>
    cases found : env.logicLink with
    | none =>
      rw [bindLogicLink_missing found]
      rfl
    | some link =>
      rw [control_bindLogicLink found, if_pos rfl]
      exact control_replyKeyMissing
  | nego => exact control_replyKeyMissing
  | encp =>
    cases found : env.logicLink with
    | none =>
      dsimp only
      rw [bindLogicLink_missing found]
      rfl
    | some link =>
      dsimp only
      rw [control_bindLogicLink found, if_pos rfl]
      exact control_encpParamReqReplyProcess
  | _ => rfl

theorem follows_callDispatcher (crypto : Crypto) (env : Env) (slink : SLink)
    (opcode : UInt16) (pkg : Bytes) :
    ∃ values : Values, values.method ≤ 5 ∧ slink.Follows env
        (match slink.dispatcher with
        | none => [[]]
        | some method =>
          (Scripts.dispatch env values slink.control opcode pkg
            method).map (Act.note (.handed opcode) :: ·))
        (slink.callDispatcher crypto env opcode pkg) := by
  unfold callDispatcher
  cases slink.dispatcher with
  | none => exact ⟨⟨[], 0⟩, by decide, Follows.idle⟩
  | some method =>
    obtain ⟨values, valid, follows⟩ := follows_dispatch crypto env
      (slink.note (.handed opcode)) opcode pkg method
    refine ⟨values, valid, ?_⟩
    exact follows.after rfl rfl

theorem scripts_request (values : Values)
    (control other : Control) (method : Dispatcher) :
    Scripts.dispatch env values control pairingRequest pkg method =
      Scripts.dispatch env values other pairingRequest pkg
        method := by
  cases method with
  | _ => rfl

theorem missStart_goesOn (act : Act) (found : act ∈ Scripts.missStart env)
    (control : Control) : control.goesOn env act = true := by
  unfold Scripts.missStart at found
  cases linked : env.logicLink with
  | none =>
    simp [linked] at found
    rcases found with rfl | rfl <;> rfl
  | some link =>
    by_cases gNode : link.2 = gNodeRole
    · simp [linked, gNode] at found
      rcases found with rfl | rfl | rfl | rfl | rfl
      all_goals rfl
    · simp [linked, gNode] at found
      rcases found with rfl | rfl | rfl | rfl
      all_goals rfl

section

variable (crypto : Crypto) (env : Env) (slink : SLink)

theorem follows_restart (pkg : Bytes) :
    ∃ values : Values, values.method ≤ 5 ∧
      slink.Follows env (Scripts.restart env values slink.control pkg)
        ((slink.enterMiss.missHandle env).callDispatcher crypto env
          pairingRequest pkg) := by
  have chosen : slink.control.dispatcher = slink.dispatcher := rfl
  obtain ⟨values, valid, script, listed, done⟩ := follows_callDispatcher
    crypto env (slink.enterMiss.missHandle env) pairingRequest pkg
  refine ⟨values, valid, ?_⟩
  rw [dispatcher_missStart] at listed
  unfold Scripts.restart
  rw [chosen]
  cases looked : (if env.logicLink.isSome then some .nego
      else slink.dispatcher) with
  | none =>
    rw [looked] at listed
    rw [mem_singleton.mp listed] at done
    apply Follows.head
    rw [done, control_missStart]
    rfl
  | some method =>
    rw [looked] at listed
    obtain ⟨rest, found, equal⟩ := mem_map.mp listed
    rw [scripts_request values _ slink.control] at found
    refine ⟨_, mem_map_of_mem found, ?_⟩
    rw [append_assoc, Control.run_append missStart_goesOn,
      ← control_missStart, done, ← equal]
    rfl

theorem follows_pkgDispatcherStarted (opcode : UInt16) (pkg : Bytes) :
    ∃ values : Values, values.method ≤ 5 ∧ slink.Follows env
        (Scripts.received env values slink.control opcode pkg)
        (slink.pkgDispatcherStarted crypto env opcode pkg) := by
  have plain : ∀ {result : SLink} {scripts : List Script},
      slink.Follows env scripts result → ∃ values : Values,
        values.method ≤ 5 ∧ slink.Follows env scripts result :=
    fun follows => ⟨⟨[], 0⟩, by decide, follows⟩
  have expect : slink.control.expectOpCode = slink.expectOpCode := rfl
  have lcid : slink.control.lcid = slink.lcid := rfl
  have chosen : slink.control.dispatcher = slink.dispatcher := rfl
  unfold pkgDispatcherStarted Scripts.received
  rw [expect, lcid, chosen]
  by_cases expected : 0 < pkg.length ∧ opcode = slink.expectOpCode
  · simp only [if_pos expected]
    by_cases invalid : slink.lcid = invalidLcid
    · simp only [if_pos invalid]
      exact plain Follows.fail
    · simp only [if_neg invalid]
      obtain ⟨values, valid, script, listed, done⟩ :=
        follows_callDispatcher crypto env slink.waitDelTimer opcode pkg
      refine ⟨values, valid, ?_⟩
      have looked : slink.waitDelTimer.dispatcher = slink.dispatcher := rfl
      rw [looked] at listed
      cases found : slink.dispatcher with
      | none =>
        rw [found] at listed
        rw [mem_singleton.mp listed] at done
        exact .head done
      | some method =>
        rw [found] at listed
        obtain ⟨rest, member, equal⟩ := mem_map.mp listed
        have same : rest ∈ Scripts.dispatch env values slink.control
          opcode pkg method := member
        refine ⟨_, mem_map_of_mem same, ?_⟩
        rw [done, ← equal]
        rfl
  · simp only [if_neg expected]
    by_cases pairFail : opcode = Opcode.pairFail
    · simp only [if_pos pairFail]
      by_cases empty : pkg.length = 0
      · simp only [if_pos empty]
        exact plain Follows.idle
      · simp only [if_neg empty]
        exact plain (.head control_externalError)
    · simp only [if_neg pairFail]
      by_cases request : opcode = pairingRequest
      · rw [request]
        exact follows_restart crypto env slink pkg
      · simp only [if_neg request]
        by_cases start : opcode = pairingStart
        · simp only [if_pos start]
          exact plain Follows.idle
        · simp only [if_neg start]
          exact plain (.head control_externalError)

end

end Follows

end SLink

end NearLink.Sm
