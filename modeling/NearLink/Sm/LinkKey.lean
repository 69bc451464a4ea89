import NearLink.Sm.KeyHandlers

/-!
# Provenance of the link key

In every run whose steps are careful, a link that is paired holds a key that
is accounted for, and no step changes the key of a link that stays paired.

The entry points of the module do not look at the state of the link, so a
step is careful when it does not overwrite what a key was computed from: the
user's answers come while a pairing runs, a key is not recovered over a
computed one, an unexpected pairing request finds the logic link, and the
timer that stands for the user's answer can be started.
-/

namespace NearLink.Sm

open Sdf Cm Transition Opcode

namespace SLink

def Early (slink : SLink) : Prop :=
  slink.Loose ∧ slink.state ≠ .auth

section Negotiation

variable {crypto : Crypto} {env : Env} {slink : SLink} {pkg : Bytes}
  {opcode : UInt16} {msg : PairReqRspMsg}

theorem Early.open (early : slink.Early) : slink.Open :=
  ⟨early.1, fun now => absurd now early.2⟩

theorem early_of_remv (now : slink.state = .remv) : slink.Early :=
  ⟨loose_of_remv now, by simp [now]⟩

theorem Early.internalError (early : slink.Early) :
    (slink.internalError env).Early :=
  early_of_remv early.1.internalError

theorem Early.sendAndWait {answer : UInt16} (early : slink.Early) :
    (slink.sendAndWait env opcode pkg answer).Early := by
  apply sendAndWait_of Early
  · constructor
    · exact .waitExpectOpCode early.1
    · rw [state_waitExpectOpCode]
      exact early.2
  · exact early.internalError

theorem Early.enterNego : slink.enterNego.Early :=
  ⟨rfl, by simp [SLink.enterNego]⟩

section

variable (early : slink.Early)
include early

theorem Early.negoStart : (slink.negoStart env).Early := by
  unfold SLink.negoStart
  split <;> exact early.sendAndWait

theorem Early.negoEncAlgo : (slink.negoEncAlgo env msg).Early := by
  unfold SLink.negoEncAlgo
  split <;> exact early

theorem Early.pairingNego {gMitm tMitm : UInt8} :
    (slink.pairingNego env msg gMitm tMitm).1.Early := by
  unfold SLink.pairingNego
  split
  · dsimp only
    split
    · exact early
    · exact .negoEncAlgo early
  · exact early

theorem Early.recvPairingStart : (slink.recvPairingStart env pkg).Early := by
  unfold SLink.recvPairingStart
  split
  · exact early
  · exact early.sendAndWait

theorem Early.recvPairingReq : (slink.recvPairingReq env pkg).Early := by
  unfold SLink.recvPairingReq
  split
  · exact early
  · have stored : ∀ gIo gPsk tIo tPsk,
        (slink.setAbilities gIo gPsk tIo tPsk).Early :=
      fun _ _ _ _ => early
    dsimp only
    split
    · exact .sendAndWait (stored _ _ _ _).pairingNego
    · exact .internalError (stored _ _ _ _).pairingNego

theorem Early.sendPairingCfm : (slink.sendPairingCfm env).Early := by
  unfold SLink.sendPairingCfm
  cases env.pubPriKey with
  | none => exact early.internalError
  | some keyPair => exact .sendAndWait early

theorem Early.recvPairingRsp : (slink.recvPairingRsp env pkg).Early := by
  unfold SLink.recvPairingRsp
  split
  · exact early
  · have stored : ∀ gIo gPsk tIo tPsk,
        (slink.setAbilities gIo gPsk tIo tPsk).Early :=
      fun _ _ _ _ => early
    dsimp only
    split
    · exact .sendPairingCfm (stored _ _ _ _).pairingNego
    · exact .internalError (stored _ _ _ _).pairingNego

end

theorem getAuthPkgDispatcher_ne_nego (authMethod : UInt8) :
    getAuthPkgDispatcher authMethod ≠ some .nego := by
  unfold getAuthPkgDispatcher
  split_ifs
  all_goals simp

theorem Open.authStart {method : Dispatcher} (opened : slink.Open) :
    (slink.authStart crypto env method).Open := by
  cases method with
  | nego => exact opened
  | numCmp => exact opened.numCmpAuthStart
  | noEntry => exact opened.noEntryAuthStart
  | passCode => exact opened.passCodeAuthStart
  | passWord => exact opened.passWordAuthStart
  | oob => exact opened.oobAuthStart
  | psk => exact opened.pskAuthStart

theorem open_enterAuth (quiet : ¬ slink.AwaitsCode) :
    (slink.enterAuth crypto env).Open := by
  have fits := getAuthPkgDispatcher_ne_nego slink.negoParams.authMethod
  unfold enterAuth
  generalize getAuthPkgDispatcher slink.negoParams.authMethod = chosen at fits ⊢
  have entered : { slink.note (.authenticates chosen) with
      state := .auth
      dispatcher := chosen }.Open := ⟨fits, fun _ => quiet⟩
  cases chosen with
  | none => exact entered
  | some method => exact entered.authStart

theorem Early.negoSuccess (early : slink.Early) (quiet : ¬ slink.AwaitsCode) :
    (slink.negoSuccess crypto env).Open := by
  unfold SLink.negoSuccess
  cases slink.state with
  | nego => exact open_enterAuth quiet
  | _ => exact early.open

theorem expectOpCode_internalError :
    (slink.internalError env).expectOpCode = slink.expectOpCode := by
  unfold SLink.internalError
  cases slink.state with
  | encp | miss | full | remv => rfl
  | _ => exact expectOpCode_enterRemv

theorem Early.sendPairingInitInfo (early : slink.Early) :
    (slink.sendPairingInitInfo env).Early := by
  unfold SLink.sendPairingInitInfo
  cases env.pubPriKey with
  | none => exact early.internalError
  | some keyPair =>
    apply sendMessage_of Early
    · exact early
    · exact .internalError early

theorem expectOpCode_sendPairingInitInfo :
    (slink.sendPairingInitInfo env).expectOpCode = slink.expectOpCode := by
  unfold SLink.sendPairingInitInfo
  cases env.pubPriKey with
  | none => exact expectOpCode_internalError
  | some keyPair =>
    apply sendMessage_of fun sent =>
      sent.expectOpCode = slink.expectOpCode
    · rfl
    · exact expectOpCode_internalError

section

variable (early : slink.Early) (quiet : ¬ slink.AwaitsCode)
include early quiet

theorem Early.recvPairingCfm :
    (slink.recvPairingCfm crypto env pkg).Open := by
  unfold SLink.recvPairingCfm
  split_ifs
  any_goals exact early.internalError.open
  · exact early.open
  · have saved : (slink.savePairingCfm pkg).Early := early
    apply Early.negoSuccess saved.sendPairingInitInfo
    unfold AwaitsCode
    rw [expectOpCode_sendPairingInitInfo]
    exact quiet

theorem Early.recvPairingInitInfo :
    (slink.recvPairingInitInfo crypto env pkg).Open := by
  unfold SLink.recvPairingInitInfo
  split
  · exact early.open
  · have saved : (slink.savePairingInitInfo pkg).Early := early
    exact saved.negoSuccess quiet

end

theorem Early.negoPkgDispatcher (early : slink.Early)
    (quiet : opcode ≠ pairingRequest → ¬ slink.AwaitsCode) :
    (slink.negoPkgDispatcher crypto env opcode pkg).Open := by
  unfold SLink.negoPkgDispatcher
  split
  · exact early.recvPairingStart.open
  · split
    · exact early.recvPairingReq.open
    next notRequest =>
      split_ifs
      · exact early.recvPairingRsp.open
      · exact early.recvPairingCfm (quiet notRequest)
      · exact early.recvPairingInitInfo (quiet notRequest)
      · exact early.open

end Negotiation

section Dispatch

variable {crypto : Crypto} {env : Env} {slink : SLink} {pkg : Bytes}

section

variable (invariant : slink.Invariant crypto)
include invariant

variable (loose : slink.Loose)
include loose

theorem Invariant.settled_of_tNodeDhKey
    (code : slink.expectOpCode = tNodeDhKey) : slink.Settled crypto :=
  ⟨loose, fun now => invariant.awaitsT now code⟩

theorem Invariant.settled_of_gNodeDhKey (code : slink.expectOpCode = gNodeDhKey)
    (answered : ¬ slink.AwaitsUser) : slink.Settled crypto :=
  ⟨loose, fun now =>
    (invariant.awaitsG now code).resolve_right answered⟩

theorem Invariant.recvTNodeDhKey (code : slink.expectOpCode = tNodeDhKey) :
    (slink.recvTNodeDhKey crypto env pkg).Invariant crypto :=
  (invariant.settled_of_tNodeDhKey loose code).recvTNodeDhKey fun _ => .inr code

theorem Invariant.recvGNodeDhKey {size : Nat}
    (code : slink.expectOpCode = gNodeDhKey) (answered : ¬ slink.AwaitsUser) :
    (slink.recvGNodeDhKey crypto env pkg size).Invariant crypto :=
  (invariant.settled_of_gNodeDhKey loose code answered).recvGNodeDhKey
    fun _ => .inl code

end

/-- What the number comparison and the no-entry method make of the code of
the G node: it is kept while the user is asked, and handled after that. -/
def Deferred (crypto : Crypto) (env : Env) (slink : SLink) (pkg : Bytes)
    (result : SLink) : Prop :=
  (slink.uapiTimerHandle = true ∧ result.view = slink.view) ∨
    (slink.uapiTimerHandle = false ∧
      result = (slink.setRecvFlag false).recvGNodeDhKey crypto env pkg
        pkg.length)

theorem deferred_numCmp :
    Deferred crypto env slink pkg
      (slink.numCmpRecvGNodeDhKey crypto env pkg) := by
  unfold Deferred SLink.numCmpRecvGNodeDhKey
  cases slink.uapiTimerHandle with
  | false => exact .inr ⟨rfl, rfl⟩
  | true =>
    refine .inl ⟨rfl, ?_⟩
    simp only [if_true]
    split <;> rfl

theorem deferred_noEntry :
    Deferred crypto env slink pkg
      (slink.noEntryRecvGNodeDhKey crypto env pkg) := by
  unfold Deferred SLink.noEntryRecvGNodeDhKey
  cases slink.uapiTimerHandle with
  | false => exact .inr ⟨rfl, rfl⟩
  | true =>
    refine .inl ⟨rfl, ?_⟩
    simp only [if_true]
    split <;> rfl

theorem Invariant.deferred {result : SLink}
    (invariant : slink.Invariant crypto) (loose : slink.Loose)
    (code : slink.expectOpCode = gNodeDhKey)
    (deferred : Deferred crypto env slink pkg result) :
    result.Invariant crypto := by
  rcases deferred with ⟨_, same⟩ | ⟨stopped, equal⟩
  · exact invariant.of_view same
  · have cleared : (slink.setRecvFlag false).Invariant crypto :=
      invariant.of_view rfl
    rw [equal]
    apply cleared.recvGNodeDhKey loose code
    intro awaits
    exact Bool.false_ne_true (stopped.symm.trans awaits.2)

theorem view_deferred {result : SLink} (keyed : slink.Keyed)
    (vouched : slink.Vouched crypto)
    (deferred : Deferred crypto env slink pkg result) :
    result.view = slink.view := by
  rcases deferred with ⟨_, same⟩ | ⟨_, equal⟩
  · exact same
  · have cleared : (slink.setRecvFlag false).Vouched crypto :=
      vouched.of_view rfl
    rw [equal]
    exact view_recvGNodeDhKey keyed cleared

variable {method : Dispatcher} {opcode : UInt16}

theorem Invariant.dispatch_code (invariant : slink.Invariant crypto)
    (loose : slink.Loose) (chosen : slink.dispatcher = some method)
    (expected : opcode = slink.expectOpCode) (code : slink.AwaitsCode) :
    (slink.dispatch crypto env opcode pkg method).Invariant crypto := by
  subst expected
  rcases code with gCode | tCode
  · have direct : ¬ slink.Deferring →
        (slink.recvGNodeDhKey crypto env pkg pkg.length).Invariant crypto :=
      fun other => invariant.recvGNodeDhKey loose gCode
        fun awaits => other awaits.1
    rw [gCode]
    cases method with
    | nego => exact invariant
    | numCmp => exact invariant.deferred loose gCode deferred_numCmp
    | noEntry => exact invariant.deferred loose gCode deferred_noEntry
    | _ => exact direct (by simp [Deferring, chosen])
  · have checked : (slink.recvTNodeDhKey crypto env pkg).Invariant crypto :=
      invariant.recvTNodeDhKey loose tCode
    rw [tCode]
    cases method with
    | nego => exact invariant
    | _ => exact checked

theorem view_dispatch_code (keyed : slink.Keyed)
    (vouched : slink.Vouched crypto)
    (code : opcode = gNodeDhKey ∨ opcode = tNodeDhKey) :
    (slink.dispatch crypto env opcode pkg method).view = slink.view := by
  rcases code with gCode | tCode
  · rw [gCode]
    cases method with
    | nego => rfl
    | numCmp => exact view_deferred keyed vouched deferred_numCmp
    | noEntry => exact view_deferred keyed vouched deferred_noEntry
    | _ => exact view_recvGNodeDhKey keyed vouched
  · rw [tCode]
    cases method with
    | nego => rfl
    | _ => exact view_recvTNodeDhKey keyed vouched

/-- The timer that a random number of the G node has to start can be
started. -/
def AsksUser (env : Env) (opcode : UInt16) (slink : SLink) (pkg : Bytes) :
    Prop :=
  slink.state = .auth → opcode = randNumRa → slink.Deferring →
    16 ≤ pkg.length → slink.uapiTimerHandle = true ∨ env.uapiTimerAdd = true

theorem Open.passAuthPkgDispatcher {gMixed tMixed : Bytes} (opened : slink.Open)
    (notG : opcode ≠ gNodeDhKey) (notT : opcode ≠ tNodeDhKey) :
    (slink.passAuthPkgDispatcher crypto env opcode gMixed tMixed
      pkg).Invariant crypto := by
  simp only [SLink.passAuthPkgDispatcher, notG, notT, if_false]
  split_ifs
  · exact opened.passRecvGNodeCfmWithRa
  · exact opened.passRecvTNodeCfmWithRb
  · exact opened.invariant

theorem Open.dispatch (opened : slink.Open)
    (early : method = .nego → slink.Early)
    (chosen : slink.dispatcher = some method) (quiet : ¬ slink.AwaitsCode)
    (expected : opcode = slink.expectOpCode)
    (asks : AsksUser env opcode slink pkg) :
    (slink.dispatch crypto env opcode pkg method).Invariant crypto := by
  have notG : opcode ≠ gNodeDhKey :=
    fun code => quiet (.inl (expected.symm.trans code))
  have notT : opcode ≠ tNodeDhKey :=
    fun code => quiet (.inr (expected.symm.trans code))
  cases method with
  | nego => exact ((early rfl).negoPkgDispatcher fun _ => quiet).invariant
  | numCmp =>
    have deferring : slink.Deferring := .inl chosen
    simp only [SLink.dispatch, numCmpAuthPkgDispatcher, notG, notT, if_false]
    split
    · exact opened.numCmpRecvTNodeCfmWithRb.invariant
    · split
      case isTrue random =>
        exact opened.numCmpRecvRandNumRa (fun _ => deferring)
          fun now => asks now random deferring
      case isFalse _ => exact opened.invariant
  | noEntry =>
    have deferring : slink.Deferring := .inr chosen
    simp only [SLink.dispatch, noEntryAuthPkgDispatcher, notG, notT, if_false]
    split
    · exact opened.noEntryRecvTNodeCfm.invariant
    · split
      case isTrue random =>
        exact opened.noEntryRecvRandNumRa (fun _ => deferring)
          fun now => asks now random deferring
      case isFalse _ =>
        split
        · exact opened.noEntryRecvRandNumRb.invariant
        · exact opened.invariant
  | oob =>
    simp only [SLink.dispatch, oobAuthPkgDispatcher, notG, notT, if_false]
    split_ifs
    · exact opened.oobRecvGNodeCfmWithRa
    · exact opened.oobRecvTNodeCfmWithRb
    · exact opened.invariant
  | psk =>
    simp only [SLink.dispatch, pskAuthPkgDispatcher, notG, notT, if_false]
    split_ifs
    · exact opened.pskRecvRandNumRa.invariant
    · exact opened.pskRecvRandNumRb.invariant
    · exact opened.pskRecvGNodeCfm
    · exact opened.pskRecvTNodeCfm
    · exact opened.invariant
  | _ => exact opened.passAuthPkgDispatcher notG notT

end Dispatch

/-- The invariant holds after an event, and the key of a link that stays
paired is the one before. -/
structure Outcome (crypto : Crypto) (slink result : SLink) : Prop where
  invariant : result.Invariant crypto
  linkKey : slink.Secured → result.Secured → result.linkKey = slink.linkKey

section Outcome

variable {crypto : Crypto} {env : Env} {slink result : SLink} {pkg : Bytes}
  {opcode : UInt16}

theorem Secured.keyed (secured : slink.Secured) : slink.Keyed :=
  secured.imp_right .inr

theorem Outcome.of_view (invariant : slink.Invariant crypto)
    (same : result.view = slink.view) : slink.Outcome crypto result :=
  ⟨invariant.of_view same, fun _ _ => linkKey_of_view same⟩

theorem Outcome.of_loose (loose : slink.Loose)
    (invariant : result.Invariant crypto) : slink.Outcome crypto result :=
  ⟨invariant, fun secured => absurd secured.keyed loose.not_keyed⟩

theorem Outcome.of_open (opened : result.Open) :
    slink.Outcome crypto result :=
  ⟨opened.invariant, fun _ secured =>
    absurd secured.keyed opened.1.not_keyed⟩

theorem Outcome.of_remv (now : result.state = .remv) :
    slink.Outcome crypto result :=
  Outcome.of_open (open_of_remv now)

section

variable (invariant : slink.Invariant crypto) (keyed : slink.Keyed)
include invariant keyed

theorem Invariant.enterMiss : slink.enterMiss.Invariant crypto := by
  apply Invariant.of_keyed
  · exact .inr (.inl rfl)
  · exact invariant.vouched keyed
  · exact invariant.idle keyed

theorem Invariant.enterEncp : slink.Outcome crypto (slink.enterEncp env) := by
  have entered : { slink with state := .encp }.Invariant crypto := by
    apply Invariant.of_keyed
    · exact .inl rfl
    · exact invariant.vouched keyed
    · exact invariant.idle keyed
  have same : (slink.enterEncp env).view =
      { slink with state := .encp }.view := view_enterEncp
  constructor
  · exact entered.of_view same
  · intro _ _
    exact congrArg View.linkKey same

end

theorem missHandle_bound (bound : env.logicLink.isSome)
    (now : slink.state = .miss) : (slink.missHandle env).Early := by
  obtain ⟨⟨lcid, role⟩, found⟩ := Option.isSome_iff_exists.mp bound
  simp only [missHandle, now, bindLogicLink, found, if_true]
  split
  · exact .negoStart Early.enterNego
  · exact .enterNego

theorem missHandle_unbound (unbound : env.logicLink = none) :
    slink.missHandle env = slink.note .posted := by
  unfold missHandle bindLogicLink
  rw [unbound]
  cases slink.state with
  | _ => rfl

theorem Outcome.missHandle (invariant : slink.Invariant crypto)
    (found : slink.Keyed ∨ env.logicLink.isSome) :
    slink.Outcome crypto (slink.enterMiss.missHandle env) := by
  by_cases bound : env.logicLink.isSome
  · exact .of_open (missHandle_bound bound rfl).open
  · have keyed := found.resolve_right bound
    rw [missHandle_unbound (by simpa using bound)]
    constructor
    · exact (invariant.enterMiss keyed).of_view rfl
    · intro _ secured
      exact absurd secured (by simp [Secured, SLink.enterMiss, note])

/-- An unexpected pairing request comes for a link that holds a key or that
finds its logic link, and the user can be asked when a random number is
answered. -/
structure CarefulPacket (env : Env) (opcode : UInt16) (slink : SLink)
    (pkg : Bytes) : Prop where
  request : opcode = pairingRequest →
    ¬ (0 < pkg.length ∧ opcode = slink.expectOpCode) →
      slink.Keyed ∨ env.logicLink.isSome
  random : opcode = slink.expectOpCode → AsksUser env opcode slink pkg

theorem Outcome.callDispatcher (invariant : slink.Invariant crypto)
    (expected : opcode = slink.expectOpCode)
    (asks : AsksUser env opcode slink pkg) :
    slink.Outcome crypto (slink.callDispatcher crypto env opcode pkg) := by
  unfold SLink.callDispatcher
  cases chosen : slink.dispatcher with
  | none => exact .of_view invariant rfl
  | some method =>
    have handed : (slink.note (.handed opcode)).Invariant crypto :=
      invariant.of_view rfl
    rcases invariant.loose_or_keyed with loose | keyed
    · apply Outcome.of_loose loose
      by_cases code : slink.AwaitsCode
      · exact handed.dispatch_code loose chosen expected code
      · have opened : (slink.note (.handed opcode)).Open :=
          ⟨loose, fun _ => code⟩
        refine opened.dispatch ?_ chosen code expected asks
        intro nego
        refine ⟨loose, fun now => invariant.auth now ?_⟩
        rw [chosen, nego]
    · have idle := invariant.idle keyed
      have code : slink.AwaitsCode :=
        idle.2.resolve_left (by simp [chosen])
      have known : (slink.note (.handed opcode)).Keyed := keyed
      apply Outcome.of_view invariant
      refine (view_dispatch_code known (handed.vouched known) ?_).trans rfl
      rw [expected]
      exact code

theorem passiveStart_started (started : slink.state ≠ .init) :
    slink.passiveStart env = slink := by
  unfold passiveStart
  cases now : slink.state with
  | init => exact absurd now started
  | _ => rfl

section

variable (invariant : slink.Invariant crypto)
include invariant

theorem Outcome.internalError :
    slink.Outcome crypto (slink.internalError env) := by
  rcases invariant.loose_or_keyed with loose | keyed
  · exact .of_remv loose.internalError
  · exact .of_view invariant (view_internalError keyed)

theorem Outcome.externalError :
    slink.Outcome crypto (slink.externalError env) := by
  unfold SLink.externalError
  cases slink.state with
  | nego | auth => exact .of_remv state_enterRemv
  | _ => exact .of_view invariant rfl

theorem Outcome.timeout : slink.Outcome crypto (slink.timeout env) := by
  unfold SLink.timeout
  cases slink.state with
  | nego | auth => exact .of_remv state_enterRemv
  | _ => exact .of_view invariant rfl

theorem Outcome.waitTimeoutCbk {timer : Timer} :
    slink.Outcome crypto (if slink.running timer then
      slink.waitTimeoutCbk env timer else slink) := by
  split
  · have outcome : slink.Outcome crypto (slink.timeout env) :=
      .timeout invariant
    cases timer with
    | _ => exact ⟨outcome.invariant.of_view rfl, outcome.linkKey⟩
  · exact .of_view invariant rfl

end

theorem dispatch_request {method : Dispatcher} (other : method ≠ .nego) :
    slink.dispatch crypto env pairingRequest pkg method = slink := by
  cases method with
  | nego => exact absurd rfl other
  | _ => rfl

theorem Outcome.missRequest (invariant : slink.Invariant crypto)
    (found : slink.Keyed ∨ env.logicLink.isSome) :
    slink.Outcome crypto ((slink.enterMiss.missHandle env).callDispatcher
      crypto env pairingRequest pkg) := by
  by_cases bound : env.logicLink.isSome
  · have early : (slink.enterMiss.missHandle env).Early :=
      missHandle_bound bound rfl
    apply Outcome.of_open
    unfold SLink.callDispatcher
    cases chosen : (slink.enterMiss.missHandle env).dispatcher with
    | none => exact early.open
    | some method =>
      by_cases nego : method = .nego
      · have handed : ((slink.enterMiss.missHandle env).note
            (.handed pairingRequest)).Early := early
        rw [nego]
        exact handed.negoPkgDispatcher fun other => absurd rfl other
      · dsimp only
        rw [dispatch_request nego]
        exact early.open
  · have keyed := found.resolve_right bound
    have same : ((slink.enterMiss.missHandle env).callDispatcher crypto env
        pairingRequest pkg).view = slink.enterMiss.view := by
      rw [missHandle_unbound (by simpa using bound)]
      unfold SLink.callDispatcher
      cases chosen : (slink.enterMiss.note .posted).dispatcher with
      | none => rfl
      | some method =>
        dsimp only
        rw [dispatch_request]
        · rfl
        · intro nego
          exact (invariant.idle keyed).1 (nego ▸ chosen)
    constructor
    · exact (invariant.enterMiss keyed).of_view same
    · intro _ secured
      unfold Secured at secured
      rw [state_of_view same] at secured
      exact absurd secured (by simp [SLink.enterMiss])

theorem Outcome.pkgDispatcherStarted (invariant : slink.Invariant crypto)
    (careful : CarefulPacket env opcode slink pkg) : slink.Outcome crypto
      (slink.pkgDispatcherStarted crypto env opcode pkg) := by
  unfold SLink.pkgDispatcherStarted
  split
  case isTrue expected =>
    split
    · exact .internalError invariant
    · have stopped : slink.waitDelTimer.Invariant crypto :=
        invariant.of_view rfl
      have outcome : slink.waitDelTimer.Outcome crypto
          (slink.waitDelTimer.callDispatcher crypto env opcode pkg) :=
        Outcome.callDispatcher stopped expected.2 (careful.random expected.2)
      exact ⟨outcome.invariant, outcome.linkKey⟩
  case isFalse unexpected =>
    split
    · split
      · exact .of_view invariant rfl
      · exact .externalError invariant
    · split
      case isTrue request =>
        have found := careful.request request unexpected
        rw [request]
        exact .missRequest invariant found
      case isFalse _ =>
        split
        · exact .of_view invariant rfl
        · exact .externalError invariant

theorem early_passiveStart (now : slink.state = .init) :
    (slink.passiveStart env).Early := by
  simp only [SLink.passiveStart, now, bindLogicLink]
  cases env.logicLink with
  | none => exact early_of_remv state_enterRemv
  | some found => exact .enterNego

theorem CarefulPacket.passiveStart
    (careful : CarefulPacket env opcode slink pkg) (now : slink.state = .init) :
    CarefulPacket env opcode (slink.passiveStart env) pkg := by
  constructor
  · intro request unexpected
    by_cases bound : env.logicLink.isSome
    · exact .inr bound
    · have unbound : env.logicLink = none := by simpa using bound
      have expect : (slink.passiveStart env).expectOpCode =
          slink.expectOpCode := by
        simp only [SLink.passiveStart, now, bindLogicLink, unbound]
        exact expectOpCode_enterRemv
      rw [expect] at unexpected
      rcases careful.request request unexpected with keyed | found
      · exact absurd keyed (by simp [Keyed, now])
      · exact absurd found bound
  · intro _ auth
    exact absurd auth (early_passiveStart now).2

theorem Outcome.pkgDispatcher (invariant : slink.Invariant crypto)
    (careful : CarefulPacket env opcode slink pkg) :
    slink.Outcome crypto (slink.pkgDispatcher crypto env opcode pkg) := by
  unfold SLink.pkgDispatcher
  by_cases now : slink.state = .init
  · have loose : slink.Loose := by
      unfold Loose
      rw [now]
      exact invariant.init now
    have started : (slink.passiveStart env).Invariant crypto :=
      (early_passiveStart now).open.invariant
    apply Outcome.of_loose loose
    dsimp only
    split
    · exact started
    · exact (Outcome.pkgDispatcherStarted started
        (careful.passiveStart now)).invariant
  · rw [passiveStart_started now]
    dsimp only
    split
    · exact .of_view invariant rfl
    · exact .pkgDispatcherStarted invariant careful

theorem view_bindLogicLink :
    (slink.bindLogicLink env).1.view = slink.view := by
  unfold bindLogicLink
  cases env.logicLink with
  | none | some => rfl

theorem Keyed.bindLogicLink (keyed : slink.Keyed) :
    (slink.bindLogicLink env).1.Keyed :=
  keyed.of_view view_bindLogicLink.symm

theorem Outcome.activeStart (invariant : slink.Invariant crypto) :
    slink.Outcome crypto (slink.activeStart env) := by
  unfold SLink.activeStart
  cases now : slink.state with
  | init =>
    dsimp only
    split
    · exact Outcome.of_open (Early.negoStart Early.enterNego).open
    · exact .of_remv state_enterRemv
  | encp =>
    have keyed : slink.Keyed := .inl now
    apply Outcome.of_view invariant
    dsimp only
    split
    · exact (view_encpEnable keyed.bindLogicLink).trans view_bindLogicLink
    · exact view_bindLogicLink
  | _ => exact .of_view invariant rfl

theorem state_cancelled (loose : slink.Loose) :
    (if (slink.sendMessage env pairFail [0x0C]).2 then
      (slink.sendMessage env pairFail [0x0C]).1.enterRemv env
      else (slink.sendMessage env pairFail [0x0C]).1).state =
        .remv := by
  unfold SLink.sendMessage
  by_cases sent : env.setControllerData pairFail
  · simp only [sent, if_true]
    exact state_enterRemv
  · simp only [sent, Bool.false_eq_true, if_false]
    exact loose.internalError

theorem Outcome.removePair (invariant : slink.Invariant crypto) :
    slink.Outcome crypto (slink.removePair env) := by
  unfold SLink.removePair
  cases now : slink.state with
  | init | encp | miss | full => exact .of_remv state_enterRemv
  | remv => exact .of_view invariant rfl
  | _ =>
    have loose : (slink.authCbk .activeCancel).Loose :=
      invariant.loose_or_keyed.resolve_right (by simp [Keyed, now])
    exact .of_remv (state_cancelled loose)

def CarefulConfirm (slink : SLink) : Prop :=
  slink.negoParams.authMethod = AuthMethod.numberCompare ∨
      slink.negoParams.authMethod = AuthMethod.noEntry →
    ¬ slink.Keyed ∧ (slink.state = .auth → slink.role ≠ gNodeRole →
        slink.tNode.recvFlag = true → slink.expectOpCode = gNodeDhKey)

section

variable (loose : slink.Loose)
  (kept : slink.state = .auth → slink.role ≠ gNodeRole →
    slink.tNode.recvFlag = true → slink.expectOpCode = gNodeDhKey)
include loose kept

theorem Loose.continueNumComparison :
    (slink.numCmpContinueNumComparison crypto env).Invariant crypto := by
  unfold numCmpContinueNumComparison
  split
  case isTrue _ => exact loose.finishGNode.invariant
  case isFalse tNode =>
    apply loose.numCmpHandleTNode
    intro now flagged
    exact .inl (kept now tNode flagged)

theorem Loose.continueNoentry :
    (slink.noEntryContinueNoentry crypto env).Invariant crypto := by
  by_cases gNode : slink.role = gNodeRole
  · unfold noEntryContinueNoentry
    rw [if_pos gNode]
    exact loose.finishGNode.invariant
  · apply loose.noEntryContinueTNode
    · intro now flagged
      exact .inl (kept now gNode flagged)
    · exact gNode

end

theorem Outcome.setConfirm (invariant : slink.Invariant crypto)
    (careful : slink.CarefulConfirm) :
    slink.Outcome crypto (slink.setConfirm crypto env) := by
  unfold SLink.setConfirm
  dsimp only
  split
  case isTrue numberCompare =>
    have pairs := careful (.inl numberCompare)
    have loose := invariant.loose_or_keyed.resolve_right pairs.1
    apply Outcome.of_loose loose
    exact Loose.continueNumComparison loose pairs.2
  case isFalse _ =>
    split
    case isTrue noEntry =>
      have pairs := careful (.inr noEntry)
      have loose := invariant.loose_or_keyed.resolve_right pairs.1
      apply Outcome.of_loose loose
      exact Loose.continueNoentry loose pairs.2
    case isFalse _ =>
      rcases invariant.loose_or_keyed with loose | keyed
      · have answered :
            (slink.note .confirmed).waitDelUapiTimer.Loose := loose
        exact .of_remv answered.internalError
      · have answered :
            (slink.note .confirmed).waitDelUapiTimer.Invariant
              crypto := by
          apply Invariant.of_keyed
          · exact keyed
          · exact invariant.vouched keyed
          · exact invariant.idle keyed
        have known :
            (slink.note .confirmed).waitDelUapiTimer.Keyed := keyed
        have same : ((slink.note
            .confirmed).waitDelUapiTimer.internalError env).view =
              (slink.note .confirmed).waitDelUapiTimer.view :=
          view_internalError known
        exact ⟨answered.of_view same, fun _ _ => congrArg View.linkKey same⟩

/-- The user enters a code before the key is computed. -/
def CarefulEntry (slink : SLink) : Prop :=
  ¬ slink.Keyed ∧ (slink.state = .auth → ¬ slink.AwaitsCode)

theorem CarefulEntry.open (careful : slink.CarefulEntry)
    (invariant : slink.Invariant crypto) : slink.Open :=
  ⟨invariant.loose_or_keyed.resolve_right careful.1, careful.2⟩

section

variable (invariant : slink.Invariant crypto) (careful : slink.CarefulEntry)
include invariant careful

theorem Outcome.setPassCode {passCode : UInt32} :
    slink.Outcome crypto (slink.setPassCode crypto env passCode) := by
  have opened := careful.open invariant
  unfold SLink.setPassCode
  apply Outcome.of_loose opened.1
  dsimp only
  split
  · apply Open.invariant
    exact .passCodeSetGPassCode opened
  · exact Open.passCodeSetTPassCode opened

theorem Outcome.setPassWord {passWord : Bytes} :
    slink.Outcome crypto (slink.setPassWord crypto env passWord) := by
  have opened := careful.open invariant
  have answers : slink.waitDelUapiTimer.Open := opened
  unfold SLink.setPassWord
  apply Outcome.of_loose opened.1
  dsimp only
  split
  · apply Open.invariant
    exact answers.passWordSetGPassWord
  · exact answers.passWordSetTPassWord

end

structure CarefulRecover (slink : SLink) (key : RecoverKeyParam) : Prop where
  same : slink.Secured → key.linkKey = slink.linkKey
  awaitsT : slink.state = .auth → slink.expectOpCode ≠ tNodeDhKey
  awaitsG : slink.state = .auth →
    slink.expectOpCode = gNodeDhKey → slink.AwaitsUser

variable {key : RecoverKeyParam}

section

variable (invariant : slink.Invariant crypto)
include invariant

theorem Invariant.installKey (keyed : slink.Keyed) :
    (slink.installKey key).Invariant crypto := by
  have idle : slink.pairing = false := by
    unfold pairing
    rcases keyed with now | now | now
    all_goals simp [now]
  apply Invariant.of_keyed
  · exact keyed
  · refine .inl ?_
    simp only [SLink.installKey, idle]
  · exact invariant.idle keyed

theorem Outcome.recoverInit (now : slink.state = .init) :
    slink.Outcome crypto ((slink.installKey key).enterEncp env) := by
  have installed : { slink.installKey key with state := .encp }.Invariant
      crypto := by
    apply Invariant.of_keyed
    · exact .inl rfl
    · refine .inl ?_
      simp [SLink.installKey, pairing, now]
    · have none : slink.dispatcher = none := invariant.init now
      exact ⟨by simp [SLink.installKey, none], .inl none⟩
  constructor
  · exact installed.of_view view_enterEncp
  · intro secured
    exact absurd secured (by simp [Secured, now])

theorem Outcome.recoverKey (careful : slink.CarefulRecover key) :
    slink.Outcome crypto (slink.recoverKey env key) := by
  have kept : slink.Keyed →
      slink.Outcome crypto (slink.installKey key) := fun keyed =>
    ⟨invariant.installKey keyed, fun secured _ => careful.same secured⟩
  unfold SLink.recoverKey recoverStart
  cases now : (slink.installKey key).state with
  | init => exact .recoverInit invariant now
  | nego =>
    have nego : slink.state = .nego := now
    have loose : slink.Loose := invariant.loose_or_keyed.resolve_right
      (by simp [Keyed, nego])
    exact Outcome.of_open (Early.open ⟨loose, by simp [now]⟩)
  | auth =>
    have auth : slink.state = .auth := now
    have loose : slink.Loose := invariant.loose_or_keyed.resolve_right
      (by simp [Keyed, auth])
    apply Outcome.of_loose loose
    apply Invariant.of_loose
    · exact loose
    · intro _ code
      exact absurd code (careful.awaitsT auth)
    · intro _ code
      exact .inr (careful.awaitsG auth code)
  | encp => exact kept (.inl now)
  | miss => exact kept (.inr (.inl now))
  | full => exact kept (.inr (.inr now))
  | remv => exact .of_remv now

theorem Outcome.encpFail {status : UInt8} :
    slink.Outcome crypto (slink.encpFail env status) := by
  unfold SLink.encpFail
  cases now : slink.state with
  | encp =>
    dsimp only
    split
    · exact .missHandle invariant (.inl (.inl now))
    · exact .of_view invariant rfl
  | _ => exact .of_view invariant rfl

theorem Outcome.encpSuccess : slink.Outcome crypto slink.encpSuccess := by
  unfold SLink.encpSuccess
  cases now : slink.state with
  | encp =>
    have keyed : slink.Keyed := .inl now
    constructor
    · apply Invariant.of_keyed
      · exact .inr (.inr rfl)
      · exact invariant.vouched keyed
      · exact invariant.idle keyed
    · intro _ _
      rfl
  | _ => exact .of_view invariant rfl

theorem Outcome.encryptChange {status : UInt16} {evtStatus : UInt8} :
    slink.Outcome crypto (slink.encryptChange env status evtStatus) := by
  unfold SLink.encryptChange
  split_ifs
  · exact .encpFail invariant
  · exact .externalError invariant
  · exact .encpSuccess invariant
  · exact .of_view invariant rfl

theorem Outcome.replyKeyMissing (same : result.view = slink.view) :
    slink.Outcome crypto (result.replyKeyMissing env) := by
  unfold SLink.replyKeyMissing
  split
  · exact .of_view invariant same
  · exact .of_remv state_enterRemv

end

theorem view_encpParamReqReplyProcess (keyed : slink.Keyed) :
    (slink.encpParamReqReplyProcess env).view = slink.view := by
  unfold encpParamReqReplyProcess
  split
  all_goals
    split
    · rfl
    · exact view_internalError keyed

variable (invariant : slink.Invariant crypto)
include invariant

theorem Outcome.encpParamReqReply :
    slink.Outcome crypto (slink.encpParamReqReply env) := by
  unfold SLink.encpParamReqReply
  cases now : slink.state with
  | init =>
    have same : ((slink.authCbk .keyMissing).bindLogicLink env).1.view =
      slink.view := view_bindLogicLink
    dsimp only
    split
    · exact .replyKeyMissing invariant same
    · exact .of_view invariant same
  | nego => exact .replyKeyMissing invariant rfl
  | encp =>
    have keyed : slink.Keyed := .inl now
    apply Outcome.of_view invariant
    dsimp only
    split
    · exact (view_encpParamReqReplyProcess keyed.bindLogicLink).trans
        view_bindLogicLink
    · exact view_bindLogicLink
  | _ => exact .of_view invariant rfl

theorem Outcome.lchannelDisconn :
    slink.Outcome crypto (slink.lchannelDisconn env) := by
  unfold SLink.lchannelDisconn
  cases now : slink.state with
  | nego | auth => exact .of_remv state_enterRemv
  | miss => exact invariant.enterEncp (.inr (.inl now))
  | full => exact invariant.enterEncp (.inr (.inr now))
  | _ => exact .of_view invariant rfl

theorem Outcome.disconnected :
    slink.Outcome crypto (slink.disconnected env) := by
  have lost : { slink with lcid := invalidLcid }.Invariant crypto :=
    invariant.of_view rfl
  have outcome : { slink with lcid := invalidLcid }.Outcome crypto
      (slink.disconnected env) := .lchannelDisconn lost
  exact ⟨outcome.invariant, outcome.linkKey⟩

end Outcome

end SLink

namespace Session

def Careful (config : Config) (session : Session) : Env × Event → Prop
  | (env, .packet opcode pkg) => ∀ slink,
      session.findOrCreate config env = some slink →
        slink.CarefulPacket env opcode pkg
  | (_, .setConfirm) => ∀ slink, session.find = some slink →
      slink.CarefulConfirm
  | (_, .setPassCode _) | (_, .setPassWord _) => ∀ slink,
      session.find = some slink → slink.CarefulEntry
  | (env, .recoverKey key) => ∀ slink,
      session.findOrCreate config env = some slink → slink.CarefulRecover key
  | (_, .startPairing) | (_, .removePairing) | (_, .setLocalPsk _)
  | (_, .recvTimeout) | (_, .uapiTimeout) | (_, .encryptChange _ _)
  | (_, .encryptParamReq) | (_, .sendControllerDataFail)
  | (_, .disconnected) | (_, .otherPairing _) => True

def KeyVouched (config : Config) (session : Session) : Prop :=
  ∀ slink, session.slink = some slink → slink.Secured →
    slink.Vouched config.crypto

def KeepsKey (config : Config) (session : Session) (event : Env × Event) :
    Prop :=
  ∀ before after, session.slink = some before →
    (session.step config event).slink = some after →
      before.Secured → after.Secured → after.linkKey = before.linkKey

def Sound (config : Config) (session : Session) : Prop :=
  ∀ slink, session.slink = some slink → slink.Invariant config.crypto

section Runs

variable {config : Config} {session : Session} {env : Env} {slink : SLink}

theorem Sound.find (sound : session.Sound config)
    (found : session.find = some slink) : slink.Invariant config.crypto := by
  obtain ⟨stored, held, equal⟩ := Option.map_eq_some_iff.mp found
  rw [← equal]
  exact (sound stored held).of_view rfl

theorem Sound.findOrCreate (sound : session.Sound config)
    (found : session.findOrCreate config env = some slink) :
    slink.Invariant config.crypto := by
  unfold Session.findOrCreate at found
  cases held : session.find with
  | some stored =>
    rw [held] at found
    cases found
    exact sound.find held
  | none =>
    rw [held] at found
    dsimp only at found
    split at found <;> cases found
    · apply SLink.Open.invariant
      exact ⟨rfl, by simp [begin, SLink.note]⟩

/-- The invariant after a step, and the key where the link stays paired. -/
def Kept (config : Config) (session result : Session) : Prop :=
  result.Sound config ∧ ∀ before after, session.slink = some before →
    result.slink = some after → before.Secured → after.Secured →
      after.linkKey = before.linkKey

theorem Kept.refl {result : Session} (sound : session.Sound config)
    (same : result.slink = session.slink) :
    session.Kept config result := by
  constructor
  · intro slink held
    exact sound slink (same.symm.trans held)
  · intro before after held later _ _
    have equal : some after = some before :=
      later.symm.trans (same.trans held)
    cases equal
    rfl

theorem Kept.handle {found : Option SLink} {handler : SLink → SLink}
    {missing : Session → Session} (sound : session.Sound config)
    (stored : ∀ before, session.slink = some before →
      found = some (session.begin before))
    (outcome : ∀ slink, found = some slink →
      slink.Outcome config.crypto (handler slink))
    (silent : (missing session).slink = session.slink) :
    session.Kept config (session.handle found handler missing) := by
  cases chosen : found with
  | none => exact .refl sound silent
  | some slink =>
    have kept := outcome slink chosen
    constructor
    · intro result held
      unfold Session.handle finish at held
      dsimp only at held
      split at held <;> cases held
      · exact kept.invariant
    · intro before after held later secured stays
      have equal : some slink = some (session.begin before) :=
        chosen.symm.trans (stored before held)
      cases equal
      unfold Session.handle finish at later
      dsimp only at later
      split at later <;> cases later
      · exact kept.linkKey secured stays

section

variable (before : SLink) (held : session.slink = some before)
include held

theorem find_stored :
    session.find = some (session.begin before) := by
  unfold Session.find
  rw [held]
  rfl

theorem findOrCreate_stored :
    session.findOrCreate config env = some (session.begin before) := by
  unfold Session.findOrCreate
  rw [find_stored before held]

end

theorem Sound.step (sound : session.Sound config) (event : Env × Event)
    (careful : session.Careful config event) :
    session.Kept config (session.step config event) := by
  obtain ⟨env, event⟩ := event
  cases event with
  | packet opcode pkg =>
    apply Kept.handle sound findOrCreate_stored
    · intro slink found
      exact SLink.Outcome.pkgDispatcher (sound.findOrCreate found)
        (careful slink found)
    · rfl
  | startPairing =>
    apply Kept.handle sound findOrCreate_stored
    · intro slink found
      exact SLink.Outcome.activeStart (sound.findOrCreate found)
    · rfl
  | removePairing =>
    apply Kept.handle sound find_stored
    · intro slink found
      exact SLink.Outcome.removePair (sound.find found)
    · rfl
  | setConfirm =>
    apply Kept.handle sound find_stored
    · intro slink found
      exact SLink.Outcome.setConfirm (sound.find found) (careful slink found)
    · rfl
  | setPassCode passCode =>
    apply Kept.handle sound find_stored
    · intro slink found
      exact SLink.Outcome.setPassCode (sound.find found) (careful slink found)
    · rfl
  | setPassWord passWord =>
    apply Kept.handle sound find_stored
    · intro slink found
      exact SLink.Outcome.setPassWord (sound.find found) (careful slink found)
    · rfl
  | setLocalPsk psk =>
    apply Kept.handle sound findOrCreate_stored
    · intro slink found
      exact SLink.Outcome.of_view (sound.findOrCreate found) rfl
    · rfl
  | recoverKey key =>
    apply Kept.handle sound findOrCreate_stored
    · intro slink found
      exact SLink.Outcome.recoverKey (sound.findOrCreate found)
        (careful slink found)
    · rfl
  | encryptChange status evtStatus =>
    apply Kept.handle sound find_stored
    · intro slink found
      exact SLink.Outcome.encryptChange (sound.find found)
    · rfl
  | encryptParamReq =>
    apply Kept.handle sound findOrCreate_stored
    · intro slink found
      exact SLink.Outcome.encpParamReqReply (sound.findOrCreate found)
    · rfl
  | sendControllerDataFail =>
    apply Kept.handle sound find_stored
    · intro slink found
      exact SLink.Outcome.internalError (sound.find found)
    · rfl
  | disconnected =>
    apply Kept.handle sound find_stored
    · intro slink found
      exact SLink.Outcome.disconnected (sound.find found)
    · rfl
  | otherPairing shared => exact .refl sound rfl
  | _ =>
    apply Kept.handle sound find_stored
    · intro slink found
      exact SLink.Outcome.waitTimeoutCbk (sound.find found)
    · rfl

theorem Sound.keyVouched (sound : session.Sound config) :
    session.KeyVouched config := by
  intro slink held secured
  exact (sound slink held).vouched secured.keyed

end Runs

/-- In every run of careful steps a paired link holds a key that is accounted
for, and its key changes only when it stops being paired. -/
theorem linkKey_of_careful (config : Config) (events : List (Env × Event))
    (careful : Meets (step config) (Careful config) {} events) :
    Always (step config) (KeyVouched config) {} events ∧
      Meets (step config) (KeepsKey config) {} events := by
  have initial : Sound config {} := by
    intro slink held
    cases held
  have preserved : ∀ session event, Sound config session →
      Careful config session event → Sound config (step config session event) :=
    fun _ event sound met => (sound.step event met).1
  constructor
  · apply always_of_meets (fun _ sound => sound.keyVouched) preserved initial
    exact careful
  · apply Meets.imp preserved _ initial careful
    intro session event sound met
    exact (sound.step event met).2

section Examples

def plainParams : LocalParams :=
  { ioAbility := 3
    authMethodMask := 0xFF
    oobDataFlag := 0
    secKeyMaxLen := 16
    distIrkFlag := 0
    distAddrFlag := 0
    codeAlgoCap := ⟨2, 2, 2, 2⟩
    pskFlag := 0
    authReq := ⟨1, 0, 0, 0⟩ }

def plainEnv : Env :=
  { logicLink := some (1, 1)
    localParams := plainParams
    randNum := some (List.replicate 16 3)
    pubPriKey := some (List.replicate 32 4, List.replicate 64 5) }

def plainConfig : Config :=
  { crypto :=
      { secKey := fun _ _ _ _ => List.replicate 32 6
        derivedKey := fun _ _ _ => List.replicate 16 7 }
    localAddr := ⟨0, 1⟩
    rmtAddr := ⟨0, 2⟩ }

def plainPairing : List (Env × Event) :=
  [(plainEnv, .packet pairingRequest (setPairingReqRspMsg plainParams).toBytes),
    (plainEnv, .packet pairingConfirm
      ([16, 1, 2, 2, 2, 2] ++ List.replicate 64 8)),
    (plainEnv, .packet randNumRa (List.replicate 16 9)),
    (plainEnv, .setConfirm),
    (plainEnv, .packet gNodeDhKey (List.replicate 16 7)),
    (plainEnv, .encryptChange 0 0)]

theorem linkKey_plainPairing :
    (run (step plainConfig) {} plainPairing).slink.map (·.state) = some .full ∧
      Always (step plainConfig) (KeyVouched plainConfig) {} plainPairing ∧
      Meets (step plainConfig) (KeepsKey plainConfig) {} plainPairing := by
  have packet : ∀ (session : Session) (opcode : UInt16) (pkg : Bytes),
      Careful plainConfig session (plainEnv, .packet opcode pkg) := by
    intro session opcode pkg slink _
    constructor
    · intro _ _
      exact .inr rfl
    · intro _ _ _ _ _
      exact .inr rfl
  refine ⟨by decide, linkKey_of_careful plainConfig plainPairing ?_⟩
  refine ⟨packet _ _ _, packet _ _ _, packet _ _ _, ?_, packet _ _ _,
    trivial, trivial⟩
  intro slink found
  have asked : ∀ stored ∈ (run (step plainConfig) {}
      (plainPairing.take 3)).find, stored.state = .auth ∧
        stored.expectOpCode = gNodeDhKey := by
    decide
  have now := asked slink found
  intro _
  exact ⟨by simp [SLink.Keyed, now.1], fun _ _ _ => now.2⟩

/-- The answer of the user reaches a G node whose key was recovered. -/
def confirmedAfterRecover : List (Env × Event) :=
  [(plainEnv, .recoverKey ⟨0, List.replicate 16 1, 2, 2, 0⟩),
    (plainEnv, .setConfirm)]

theorem linkKey_confirmedAfterRecover :
    ¬ ∀ (config : Config) (events : List (Env × Event)),
      Always (step config) (KeyVouched config) {} events ∧
        Meets (step config) (KeepsKey config) {} events := by
  intro claim
  have kept := (claim plainConfig confirmedAfterRecover).2.2.1
  have changed : ∃ before after,
      (run (step plainConfig) {} (confirmedAfterRecover.take 1)).slink =
          some before ∧
        (run (step plainConfig) {} confirmedAfterRecover).slink = some after ∧
          before.Secured ∧ after.Secured ∧ after.linkKey ≠ before.linkKey := by
    refine ⟨_, _, rfl, rfl, .inl rfl, .inl rfl, ?_⟩
    decide
  obtain ⟨before, after, held, later, secured, stays, differs⟩ := changed
  exact differs (kept before after held later secured stays)

end Examples

end Session

end NearLink.Sm
