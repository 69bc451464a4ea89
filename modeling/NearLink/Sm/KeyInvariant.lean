import NearLink.Sm.Pairing

/-!
# The link key during the handlers

A link that is paired holds a key that is accounted for: installed by
`SmRecoverKey`, or computed from the secret, the random numbers and the
addresses it still holds, with the verification code of the peer found equal.
While a pairing runs nothing is known of the key until the link waits for a
verification code.

Handlers run with less than the invariant.  `Loose` is what survives every
step of a pairing, `Open` adds that no verification code is awaited, and
`Settled` that the key is the computed one.  Each of the last two gives the
invariant back.
-/

namespace NearLink.Sm

open Sdf Cm Opcode

namespace SLink

/-- The link key is the one of the secret, the random numbers and the
addresses that the link holds now, in either order of the addresses. -/
def Computed (crypto : Crypto) (slink : SLink) : Prop :=
  ∃ role, slink.linkKey = slink.linkKeyOf crypto role

def Fresh (crypto : Crypto) (slink : SLink) : Prop :=
  (∃ checked, slink.origin = .generated checked) ∧ slink.Computed crypto

/-- The key was installed while no pairing ran, or it was computed from what
the link holds now in a pairing whose verification code was found equal. -/
def Vouched (crypto : Crypto) (slink : SLink) : Prop :=
  slink.origin = .recovered false ∨
    (slink.origin = .generated true ∧ slink.Computed crypto)

def Secured (slink : SLink) : Prop :=
  slink.state = .encp ∨ slink.state = .full

def Keyed (slink : SLink) : Prop :=
  slink.state = .encp ∨ slink.state = .miss ∨ slink.state = .full

def AwaitsCode (slink : SLink) : Prop :=
  slink.expectOpCode = gNodeDhKey ∨ slink.expectOpCode = tNodeDhKey

/-- The method keeps a verification code until the user has answered. -/
def Deferring (slink : SLink) : Prop :=
  slink.dispatcher = some .numCmp ∨ slink.dispatcher = some .noEntry

def AwaitsUser (slink : SLink) : Prop :=
  slink.Deferring ∧ slink.uapiTimerHandle = true

instance (slink : SLink) : Decidable slink.Secured :=
  inferInstanceAs (Decidable (_ ∨ _))

instance (slink : SLink) : Decidable slink.Keyed :=
  inferInstanceAs (Decidable (_ ∨ _ ∨ _))

instance (slink : SLink) : Decidable slink.AwaitsCode :=
  inferInstanceAs (Decidable (_ ∨ _))

instance (slink : SLink) : Decidable slink.Deferring :=
  inferInstanceAs (Decidable (_ ∨ _))

instance (slink : SLink) : Decidable slink.AwaitsUser :=
  inferInstanceAs (Decidable (_ ∧ _))

structure Invariant (crypto : Crypto) (slink : SLink) : Prop where
  init : slink.state = .init → slink.dispatcher = none
  nego : slink.state = .nego → slink.dispatcher = some .nego
  auth : slink.state = .auth → slink.dispatcher ≠ some .nego
  awaitsT : slink.state = .auth → slink.expectOpCode = tNodeDhKey →
    slink.Fresh crypto
  awaitsG : slink.state = .auth → slink.expectOpCode = gNodeDhKey →
    slink.Fresh crypto ∨ slink.AwaitsUser
  vouched : slink.Keyed → slink.Vouched crypto
  /-- After the pairing only verification codes reach a handler. -/
  idle : slink.Keyed → slink.dispatcher ≠ some .nego ∧
    (slink.dispatcher = none ∨ slink.AwaitsCode)

structure View where
  state : State
  dispatcher : Option Dispatcher
  expectOpCode : UInt16
  uapiTimerHandle : Bool
  origin : KeyOrigin
  linkKey : Bytes
  dhKey : Bytes
  ra : Bytes
  rb : Bytes
  deriv : UInt8
  localAddr : SleAddr
  rmtAddr : SleAddr

def view (slink : SLink) : View :=
  { state := slink.state
    dispatcher := slink.dispatcher
    expectOpCode := slink.expectOpCode
    uapiTimerHandle := slink.uapiTimerHandle
    origin := slink.origin
    linkKey := slink.linkKey
    dhKey := slink.dhKey
    ra := slink.gNode.randomR
    rb := slink.tNode.randomR
    deriv := slink.negoParams.codeAlgoCap.deriv
    localAddr := slink.localAddr
    rmtAddr := slink.rmtAddr }

section View

variable {crypto : Crypto} {slink result : SLink}

section

variable (same : result.view = slink.view)
include same

theorem state_of_view : result.state = slink.state :=
  congrArg View.state same

theorem dispatcher_of_view : result.dispatcher = slink.dispatcher :=
  congrArg View.dispatcher same

theorem expectOpCode_of_view : result.expectOpCode = slink.expectOpCode :=
  congrArg View.expectOpCode same

theorem linkKey_of_view : result.linkKey = slink.linkKey :=
  congrArg View.linkKey same

theorem origin_of_view : result.origin = slink.origin :=
  congrArg View.origin same

theorem linkKeyOf_of_view (role : UInt8) :
    result.linkKeyOf crypto role = slink.linkKeyOf crypto role := by
  have dhKey : result.dhKey = slink.dhKey := congrArg View.dhKey same
  have ra : result.gNode.randomR = slink.gNode.randomR :=
    congrArg View.ra same
  have rb : result.tNode.randomR = slink.tNode.randomR :=
    congrArg View.rb same
  have deriv : result.negoParams.codeAlgoCap.deriv =
      slink.negoParams.codeAlgoCap.deriv := congrArg View.deriv same
  have localAddr : result.localAddr = slink.localAddr :=
    congrArg View.localAddr same
  have rmtAddr : result.rmtAddr = slink.rmtAddr :=
    congrArg View.rmtAddr same
  simp only [linkKeyOf, gAddr, tAddr, dhKey, ra, rb, deriv, localAddr, rmtAddr]

end

theorem Computed.of_view (computed : slink.Computed crypto)
    (same : result.view = slink.view) : result.Computed crypto := by
  obtain ⟨role, equal⟩ := computed
  refine ⟨role, ?_⟩
  rw [linkKey_of_view same, linkKeyOf_of_view same, equal]

theorem Fresh.of_view (fresh : slink.Fresh crypto)
    (same : result.view = slink.view) : result.Fresh crypto := by
  obtain ⟨⟨checked, generated⟩, computed⟩ := fresh
  constructor
  · exact ⟨checked, (origin_of_view same).trans generated⟩
  · exact computed.of_view same

theorem Vouched.of_view (vouched : slink.Vouched crypto)
    (same : result.view = slink.view) : result.Vouched crypto := by
  unfold Vouched
  rw [origin_of_view same]
  rcases vouched with recovered | ⟨generated, computed⟩
  · exact .inl recovered
  · exact .inr ⟨generated, computed.of_view same⟩

theorem Keyed.of_view (keyed : result.Keyed) (same : result.view = slink.view) : slink.Keyed := by
  unfold Keyed at keyed ⊢
  rw [state_of_view same] at keyed
  exact keyed

theorem AwaitsUser.of_view (awaits : slink.AwaitsUser)
    (same : result.view = slink.view) : result.AwaitsUser := by
  have handle : result.uapiTimerHandle = slink.uapiTimerHandle :=
    congrArg View.uapiTimerHandle same
  unfold AwaitsUser Deferring at awaits ⊢
  rw [dispatcher_of_view same, handle]
  exact awaits

theorem Invariant.of_view (invariant : slink.Invariant crypto)
    (same : result.view = slink.view) : result.Invariant crypto := by
  have state := state_of_view same
  have dispatcher := dispatcher_of_view same
  have expect := expectOpCode_of_view same
  constructor
  · intro now
    rw [dispatcher]
    exact invariant.init (state ▸ now)
  · intro now
    rw [dispatcher]
    exact invariant.nego (state ▸ now)
  · intro now
    rw [dispatcher]
    exact invariant.auth (state ▸ now)
  · intro now waits
    exact (invariant.awaitsT (state ▸ now) (expect ▸ waits)).of_view same
  · intro now waits
    rcases invariant.awaitsG (state ▸ now) (expect ▸ waits) with
      fresh | awaits
    · exact .inl (fresh.of_view same)
    · exact .inr (awaits.of_view same)
  · intro keyed
    exact (invariant.vouched (keyed.of_view same)).of_view same
  · intro keyed
    unfold AwaitsCode
    rw [dispatcher, expect]
    exact invariant.idle (keyed.of_view same)

end View

def LooseAt : State → Option Dispatcher → Prop
  | .init, dispatcher => dispatcher = none
  | .nego, dispatcher => dispatcher = some .nego
  | .auth, dispatcher => dispatcher ≠ some .nego
  | .remv, _ => True
  | .encp, _ | .miss, _ | .full, _ => False

def Loose (slink : SLink) : Prop :=
  LooseAt slink.state slink.dispatcher

def Open (slink : SLink) : Prop :=
  slink.Loose ∧ (slink.state = .auth → ¬ slink.AwaitsCode)

def Settled (crypto : Crypto) (slink : SLink) : Prop :=
  slink.Loose ∧ (slink.state = .auth → slink.Fresh crypto)

section Conditions

variable {crypto : Crypto} {slink : SLink}

theorem Loose.not_keyed (loose : slink.Loose) : ¬ slink.Keyed := by
  intro keyed
  unfold Loose at loose
  rcases keyed with now | now | now
  all_goals
    rw [now] at loose
    exact loose

theorem Invariant.of_loose (loose : slink.Loose)
    (awaitsT : slink.state = .auth →
      slink.expectOpCode = tNodeDhKey → slink.Fresh crypto)
    (awaitsG : slink.state = .auth → slink.expectOpCode = gNodeDhKey →
        slink.Fresh crypto ∨ slink.AwaitsUser) :
    slink.Invariant crypto := by
  have fits := loose
  unfold Loose at fits
  constructor
  any_goals
    intro now
    rw [now] at fits
    exact fits
  · exact awaitsT
  · exact awaitsG
  · intro keyed
    exact absurd keyed loose.not_keyed
  · intro keyed
    exact absurd keyed loose.not_keyed

theorem Open.invariant (opened : slink.Open) : slink.Invariant crypto := by
  apply Invariant.of_loose opened.1
  · intro now waits
    exact absurd (.inr waits) (opened.2 now)
  · intro now waits
    exact absurd (.inl waits) (opened.2 now)

theorem Settled.invariant (settled : slink.Settled crypto) :
    slink.Invariant crypto := by
  apply Invariant.of_loose settled.1
  · intro now _
    exact settled.2 now
  · intro now _
    exact .inl (settled.2 now)

theorem Invariant.of_keyed (keyed : slink.Keyed)
    (vouched : slink.Vouched crypto) (idle : slink.dispatcher ≠ some .nego ∧
      (slink.dispatcher = none ∨ slink.AwaitsCode)) :
    slink.Invariant crypto := by
  have quiet : slink.state ≠ .init ∧ slink.state ≠ .nego ∧
      slink.state ≠ .auth := by
    rcases keyed with now | now | now
    all_goals simp [now]
  constructor
  · intro now
    exact absurd now quiet.1
  · intro now
    exact absurd now quiet.2.1
  · intro now
    exact absurd now quiet.2.2
  · intro now
    exact absurd now quiet.2.2
  · intro now
    exact absurd now quiet.2.2
  · intro _
    exact vouched
  · intro _
    exact idle

theorem Invariant.loose_or_keyed (invariant : slink.Invariant crypto) :
    slink.Loose ∨ slink.Keyed := by
  unfold Loose Keyed
  cases now : slink.state with
  | init => exact .inl (invariant.init now)
  | nego => exact .inl (invariant.nego now)
  | auth => exact .inl (invariant.auth now)
  | encp => exact .inr (.inl rfl)
  | miss => exact .inr (.inr (.inl rfl))
  | full => exact .inr (.inr (.inr rfl))
  | remv => exact .inl trivial

variable (now : slink.state = .remv)
include now

theorem loose_of_remv : slink.Loose := by
  unfold Loose
  rw [now]
  trivial

theorem open_of_remv : slink.Open :=
  ⟨loose_of_remv now, fun auth => by simp [now] at auth⟩

theorem settled_of_remv : slink.Settled crypto :=
  ⟨loose_of_remv now, fun auth => by simp [now] at auth⟩

end Conditions

section Primitives

variable {crypto : Crypto} {env : Env} {slink : SLink}

theorem state_enterRemv : (slink.enterRemv env).state = .remv := by
  unfold enterRemv
  split <;> rfl

theorem expectOpCode_enterRemv :
    (slink.enterRemv env).expectOpCode = slink.expectOpCode := by
  unfold enterRemv
  split <;> rfl

theorem Loose.internalError (loose : slink.Loose) :
    (slink.internalError env).state = .remv := by
  unfold Loose at loose
  cases now : slink.state with
  | encp | miss | full => exact absurd loose (by simp [now, LooseAt])
  | remv =>
    simp only [SLink.internalError, now]
    exact now
  | _ =>
    simp only [SLink.internalError, now]
    exact state_enterRemv

theorem Open.internalError (loose : slink.Loose) :
    (slink.internalError env).Open :=
  open_of_remv loose.internalError

theorem Settled.internalError (loose : slink.Loose) :
    (slink.internalError env).Settled crypto :=
  settled_of_remv loose.internalError

theorem view_internalError (keyed : slink.Keyed) :
    (slink.internalError env).view = slink.view := by
  unfold SLink.internalError
  rcases keyed with now | now | now
  all_goals
    simp only [now]
    rfl

variable {pkg : Bytes} {opcode answer : UInt16}

theorem sendMessage_of (property : SLink → Prop)
    (sent : property (slink.handOver opcode pkg))
    (failed : property (slink.internalError env)) :
    property (slink.sendMessage env opcode pkg).1 := by
  unfold sendMessage
  split
  · exact sent
  · exact failed

theorem sendAndWait_of (property : SLink → Prop)
    (sent : property ((slink.handOver opcode pkg).waitExpectOpCode env answer))
    (failed : property (slink.internalError env)) :
    property (slink.sendAndWait env opcode pkg answer) := by
  unfold sendAndWait sendMessage
  split
  · exact sent
  · exact failed

@[simp] theorem state_waitExpectOpCode :
    (slink.waitExpectOpCode env opcode).state = slink.state := by
  unfold SLink.waitExpectOpCode
  split <;> rfl

@[simp] theorem dispatcher_waitExpectOpCode :
    (slink.waitExpectOpCode env opcode).dispatcher = slink.dispatcher := by
  unfold SLink.waitExpectOpCode
  split <;> rfl

@[simp] theorem uapiTimerHandle_waitExpectOpCode :
    (slink.waitExpectOpCode env opcode).uapiTimerHandle =
      slink.uapiTimerHandle := by
  unfold SLink.waitExpectOpCode
  split <;> rfl

theorem expectOpCode_waitExpectOpCode (env : Env) (slink : SLink)
    (opcode : UInt16) :
    (slink.waitExpectOpCode env opcode).expectOpCode = slink.expectOpCode ∨
      (slink.waitExpectOpCode env opcode).expectOpCode = opcode := by
  unfold SLink.waitExpectOpCode
  split
  · exact .inl rfl
  · exact .inr rfl

@[simp] theorem state_waitUapiInput :
    (slink.waitUapiInput env).state = slink.state := by
  unfold SLink.waitUapiInput
  split <;> rfl

@[simp] theorem expectOpCode_waitUapiInput :
    (slink.waitUapiInput env).expectOpCode = slink.expectOpCode := by
  unfold SLink.waitUapiInput
  split <;> rfl

theorem Loose.waitExpectOpCode (loose : slink.Loose) :
    (slink.waitExpectOpCode env opcode).Loose := by
  unfold SLink.waitExpectOpCode
  split <;> exact loose

theorem Loose.waitUapiInput (loose : slink.Loose) :
    (slink.waitUapiInput env).Loose := by
  unfold SLink.waitUapiInput
  split <;> exact loose

theorem Open.waitExpectOpCode (opened : slink.Open)
    (other : opcode ≠ gNodeDhKey ∧ opcode ≠ tNodeDhKey) :
    (slink.waitExpectOpCode env opcode).Open := by
  unfold SLink.waitExpectOpCode
  split
  · exact opened
  · refine ⟨opened.1, fun _ => ?_⟩
    rintro (code | code)
    · exact other.1 code
    · exact other.2 code

theorem Settled.waitExpectOpCode (settled : slink.Settled crypto) :
    (slink.waitExpectOpCode env opcode).Settled crypto := by
  unfold SLink.waitExpectOpCode
  split <;> exact settled

theorem Open.waitUapiInput (opened : slink.Open) :
    (slink.waitUapiInput env).Open := by
  unfold SLink.waitUapiInput
  split <;> exact opened

theorem Open.sendMessage (opened : slink.Open) :
    (slink.sendMessage env opcode pkg).1.Open := by
  apply sendMessage_of Open
  · exact opened
  · exact .internalError opened.1

theorem Settled.sendMessage (settled : slink.Settled crypto) :
    (slink.sendMessage env opcode pkg).1.Settled crypto := by
  apply sendMessage_of (Settled crypto)
  · exact settled
  · exact .internalError settled.1

theorem Open.sendAndWait (opened : slink.Open)
    (other : answer ≠ gNodeDhKey ∧ answer ≠ tNodeDhKey) :
    (slink.sendAndWait env opcode pkg answer).Open := by
  apply sendAndWait_of Open
  · exact .waitExpectOpCode opened other
  · exact .internalError opened.1

theorem Settled.sendAndWait (settled : slink.Settled crypto) :
    (slink.sendAndWait env opcode pkg answer).Settled crypto := by
  apply sendAndWait_of (Settled crypto)
  · exact .waitExpectOpCode settled
  · exact .internalError settled.1

end Primitives

section Keys

variable {crypto : Crypto} {env : Env} {slink : SLink}

def withKeys (crypto : Crypto) (slink : SLink) (secret : Bytes) : SLink :=
  { slink with
    dhKey := secret
    linkKey := { slink with dhKey := secret }.linkKeyOf crypto slink.role
    origin := .generated false }

theorem settled_withKeys {secret : Bytes} (loose : slink.Loose) :
    (slink.withKeys crypto secret).Settled crypto := by
  refine ⟨loose, fun _ => ?_⟩
  exact ⟨⟨false, rfl⟩, slink.role, rfl⟩

theorem genKeys_cases (crypto : Crypto) (env : Env) (slink : SLink)
    (localPubKey remotePubKey : Bytes) :
    (∃ secret, slink.genKeys crypto env localPubKey remotePubKey =
      (slink.withKeys crypto secret, true)) ∨
    (∃ secret, slink.genKeys crypto env localPubKey remotePubKey =
      ({ slink with dhKey := secret }.internalError env, false)) := by
  let secret := crypto.secKey slink.negoParams.codeAlgoCap.nego slink.priKey
    localPubKey remotePubKey
  unfold genKeys genDhKey genLinkKey
  by_cases secretDone : env.genDhKey
  · by_cases keyDone : env.cmacGenerate .linkKey
    · refine .inl ⟨secret, ?_⟩
      simp only [secretDone, keyDone, if_true]
      rfl
    · refine .inr ⟨secret, ?_⟩
      simp only [secretDone, keyDone, if_true, Bool.false_eq_true, if_false]
      rfl
  · refine .inr ⟨slink.dhKey, ?_⟩
    simp only [secretDone, Bool.false_eq_true, if_false]

theorem genKeys_of (property : SLink → Prop) (next : SLink → SLink)
    {localPubKey remotePubKey : Bytes} (loose : slink.Loose)
    (done : ∀ secret, property (next (slink.withKeys crypto secret)))
    (removed : ∀ result : SLink, result.state = .remv → property result) :
    property (if (slink.genKeys crypto env localPubKey remotePubKey).2 then
      next (slink.genKeys crypto env localPubKey remotePubKey).1
      else (slink.genKeys crypto env localPubKey remotePubKey).1) := by
  rcases genKeys_cases crypto env slink localPubKey remotePubKey with
    ⟨secret, equal⟩ | ⟨secret, equal⟩
  · rw [equal]
    exact done secret
  · have looseNow : { slink with dhKey := secret }.Loose := loose
    rw [equal]
    exact removed _ looseNow.internalError

theorem Settled.sendGNodeDhKey (settled : slink.Settled crypto) :
    (slink.sendGNodeDhKey crypto env).Settled crypto := by
  unfold SLink.sendGNodeDhKey
  cases slink.genDhKeyCfmCode crypto env .ownCode slink.gNode.randomR
      slink.localAddr slink.rmtAddr with
  | none => exact .internalError settled.1
  | some code => exact settled.sendMessage

theorem Loose.finishGNode (loose : slink.Loose) :
    (slink.finishGNode crypto env).Settled crypto := by
  apply genKeys_of (Settled crypto)
    (fun keyed => (keyed.sendGNodeDhKey crypto env).waitExpectOpCode env
      tNodeDhKey) loose
  · intro secret
    apply Settled.waitExpectOpCode
    apply Settled.sendGNodeDhKey
    exact settled_withKeys loose
  · intro result now
    exact settled_of_remv now

end Keys

end SLink

end NearLink.Sm
