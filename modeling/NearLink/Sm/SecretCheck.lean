import NearLink.Sm.Transcript

/-!
# What confirm values bind
-/

namespace NearLink.Sm

open Sdf Cm

/-- One end of a secret check: its link, the environments in which the mixed
code and the confirm value are computed, what the user has entered, and the
mixed code that is there before. -/
structure SecretEnd where
  slink : SLink
  mixing : Env
  env : Env
  passCode : UInt32 := 0
  passWord : Bytes := []
  leftover : Bytes := List.replicate 16 0

inductive SecretMethod where
  | passCode
  | passWord
  | psk

namespace SecretEnd

variable {crypto : Crypto} {method : SecretMethod} {random : Bytes}
  {sender receiver : SecretEnd}

/-- What of the secret enters the confirm value. -/
def secretPart (crypto : Crypto) (method : SecretMethod) (holder : SecretEnd) :
    Bytes :=
  match method with
  | .passCode =>
    holder.slink.genMixPassCode crypto holder.mixing holder.passCode
      holder.leftover
  | .passWord =>
    holder.slink.genMixPassWord crypto holder.mixing holder.passWord
      holder.leftover
  | .psk => holder.slink.psk.take 16

def confirmNum (crypto : Crypto) (method : SecretMethod) (random : Bytes)
    (use : MacUse) (holder : SecretEnd) : Option Bytes :=
  match method with
  | .passCode | .passWord =>
    holder.slink.genMixedConfirmNum crypto holder.env use random
      (holder.secretPart crypto method)
  | .psk => holder.slink.genPskConfirmNum crypto holder.env use random

def check (crypto : Crypto) (method : SecretMethod) (random confirm : Bytes)
    (holder : SecretEnd) : Bool :=
  match method with
  | .passCode | .passWord =>
    holder.slink.checkMixedConfirm crypto holder.env confirm random
      (holder.secretPart crypto method)
  | .psk => holder.slink.checkPskConfirm crypto holder.env confirm random

structure SameKeys (sender receiver : SecretEnd) : Prop where
  deriv : sender.slink.negoParams.codeAlgoCap.deriv =
    receiver.slink.negoParams.codeAlgoCap.deriv
  gPubKey : sender.slink.gNode.pubKey = receiver.slink.gNode.pubKey
  tPubKey : sender.slink.tNode.pubKey = receiver.slink.tNode.pubKey

def SameSecret (method : SecretMethod) (sender receiver : SecretEnd) : Prop :=
  match method with
  | .passCode => sender.passCode = receiver.passCode
  | .passWord => sender.passWord = receiver.passWord
  | .psk => sender.slink.psk = receiver.slink.psk

/-- The mixed code has been computed, where the method has one. -/
def Mixes (method : SecretMethod) (holder : SecretEnd) : Prop :=
  match method with
  | .passCode | .passWord => holder.mixing.cmacGenerate .mix = true
  | .psk => True

/-- The confirm value of the sender is accepted if and only if the receiver
can check it, both hold the same, and nothing has failed on the way. -/
def Exact (crypto : Crypto) (method : SecretMethod) (random : Bytes)
    (sender receiver : SecretEnd) : Prop :=
  ∀ confirm, sender.confirmNum crypto method random .confirm = some confirm →
    (receiver.check crypto method random confirm = true ↔
      receiver.env.cmacGenerate .check = true ∧ SameKeys sender receiver ∧
        SameSecret method sender receiver ∧ sender.Mixes method ∧
        receiver.Mixes method)

/-- The mixed code of an input. -/
def mixedOf (crypto : Crypto) (holder : SecretEnd) (input : Bytes) : Bytes :=
  crypto.derivedKey holder.slink.negoParams.codeAlgoCap.deriv
    (holder.slink.gNode.pubKey.take 16) input

/-- Where a mixed code is missing, what was there before does not happen to
be what the other end uses. -/
def Distinct (crypto : Crypto) (input : SecretEnd → Bytes)
    (sender receiver : SecretEnd) : Prop :=
  (sender.mixing.cmacGenerate .mix = true →
    receiver.mixing.cmacGenerate .mix = false →
      sender.mixedOf crypto (input sender) ≠ receiver.leftover) ∧
  (sender.mixing.cmacGenerate .mix = false →
    receiver.mixing.cmacGenerate .mix = true →
      sender.leftover ≠ receiver.mixedOf crypto (input receiver)) ∧
  (sender.mixing.cmacGenerate .mix = false →
    receiver.mixing.cmacGenerate .mix = false →
      sender.leftover ≠ receiver.leftover)

/-- What `GenMixPassCode` mixes. -/
def codeInput (holder : SecretEnd) : Bytes :=
  SLink.passCodeBytes holder.passCode ++ holder.mixing.stackBytes

/-- Both ends of a pass code find the same bytes on the stack, and a
pre-shared key has its difference in the half that is used. -/
def Sound (crypto : Crypto) (method : SecretMethod)
    (sender receiver : SecretEnd) : Prop :=
  match method with
  | .passCode =>
    (sender.mixing.cmacGenerate .mix = true →
      receiver.mixing.cmacGenerate .mix = true →
      sender.passCode = receiver.passCode →
        sender.mixing.stackBytes = receiver.mixing.stackBytes) ∧
    Distinct crypto codeInput sender receiver
  | .passWord => Distinct crypto SecretEnd.passWord sender receiver
  | .psk =>
    sender.slink.psk.take 16 = receiver.slink.psk.take 16 →
      sender.slink.psk = receiver.slink.psk

theorem check_iff_confirmNum {confirm : Bytes} :
    receiver.check crypto method random confirm = true ↔
      receiver.confirmNum crypto method random .check = some confirm := by
  cases method <;> exact decide_eq_true_iff

theorem confirmNum_some {holder : SecretEnd} {use : MacUse} {confirm : Bytes} :
    holder.confirmNum crypto method random use = some confirm ↔
      holder.env.cmacGenerate use = true ∧
        crypto.derivedKey holder.slink.negoParams.codeAlgoCap.deriv
          (match method with
          | .psk => holder.secretPart crypto method
          | _ => random)
          (holder.slink.gNode.pubKey ++ holder.slink.tNode.pubKey ++
            match method with
            | .psk => random
            | _ => holder.secretPart crypto method) = confirm := by
  cases method <;>
    simp [confirmNum, secretPart, SLink.genMixedConfirmNum,
      SLink.genPskConfirmNum]

/-- A confirm value is accepted if and only if it has been made from the same
keys and the same part of the secret. -/
theorem check_iff (symbolic : crypto.Symbolic) (sizedS : sender.slink.Sized)
    (sizedR : receiver.slink.Sized) {confirm : Bytes}
    (sent : sender.confirmNum crypto method random .confirm = some confirm) :
    receiver.check crypto method random confirm = true ↔
      receiver.env.cmacGenerate .check = true ∧ SameKeys sender receiver ∧
        sender.secretPart crypto method =
          receiver.secretPart crypto method := by
  obtain ⟨_, rfl⟩ := confirmNum_some.mp sent
  refine check_iff_confirmNum.trans
    (confirmNum_some.trans (and_congr_right fun _ => ⟨?_, ?_⟩))
  · intro same
    obtain ⟨algo, keys, messages⟩ := symbolic same.symm
    obtain ⟨pubKeys, rest⟩ := List.append_inj messages (by
      simp [sizedS.gPubKey, sizedS.tPubKey, sizedR.gPubKey, sizedR.tPubKey])
    obtain ⟨gPubKey, tPubKey⟩ := List.append_inj pubKeys
      (sizedS.gPubKey.trans sizedR.gPubKey.symm)
    refine ⟨⟨algo, gPubKey, tPubKey⟩, ?_⟩
    cases method
    case psk => exact keys
    all_goals exact rest
  · rintro ⟨keys, part⟩
    rw [keys.deriv, keys.gPubKey, keys.tPubKey, part]

theorem distinct_iff (input part : SecretEnd → Bytes) (secret : Prop)
    (symbolic : crypto.Symbolic) (keys : SameKeys sender receiver)
    (computed : ∀ holder, part holder =
      if holder.mixing.cmacGenerate .mix then
        holder.mixedOf crypto (input holder)
      else holder.leftover) :
    ((part sender = part receiver ↔
        secret ∧ sender.mixing.cmacGenerate .mix = true ∧
          receiver.mixing.cmacGenerate .mix = true) ↔
      (sender.mixing.cmacGenerate .mix = true →
        receiver.mixing.cmacGenerate .mix = true →
          (input sender = input receiver ↔ secret)) ∧
      Distinct crypto input sender receiver) := by
  have same : sender.mixedOf crypto (input sender) =
      receiver.mixedOf crypto (input receiver) ↔
        input sender = input receiver := by
    unfold mixedOf
    rw [keys.deriv, keys.gPubKey]
    exact ⟨fun equal => (symbolic equal).2.2, congrArg _⟩
  rw [computed, computed]
  unfold Distinct
  cases sender.mixing.cmacGenerate .mix <;>
    cases receiver.mixing.cmacGenerate .mix <;> simp [same]

theorem codeInput_iff (length : sender.mixing.stackBytes.length =
      receiver.mixing.stackBytes.length) :
    (sender.codeInput = receiver.codeInput ↔
        sender.passCode = receiver.passCode) ↔
      (sender.passCode = receiver.passCode →
        sender.mixing.stackBytes = receiver.mixing.stackBytes) := by
  have split : sender.codeInput = receiver.codeInput ↔
      sender.passCode = receiver.passCode ∧
        sender.mixing.stackBytes = receiver.mixing.stackBytes := by
    constructor
    · intro same
      obtain ⟨code, stack⟩ := List.append_inj' same length
      exact ⟨passCodeBytes_injective code, stack⟩
    · rintro ⟨code, stack⟩
      unfold codeInput
      rw [code, stack]
  rw [split]
  tauto

theorem secretPart_iff (symbolic : crypto.Symbolic)
    (keys : SameKeys sender receiver)
    (length : sender.mixing.stackBytes.length =
      receiver.mixing.stackBytes.length) :
    (sender.secretPart crypto method = receiver.secretPart crypto method ↔
        SameSecret method sender receiver ∧ sender.Mixes method ∧
          receiver.Mixes method) ↔
      Sound crypto method sender receiver := by
  cases method with
  | passCode =>
    refine (distinct_iff codeInput (secretPart crypto .passCode) _ symbolic
      keys fun _ => rfl).trans (and_congr_left fun _ => ?_)
    exact imp_congr_right fun _ => imp_congr_right fun _ =>
      codeInput_iff length
  | passWord =>
    refine (distinct_iff SecretEnd.passWord (secretPart crypto .passWord) _
      symbolic keys fun _ => rfl).trans ?_
    exact and_iff_right fun _ _ => Iff.rfl
  | psk =>
    simp only [secretPart, SameSecret, Mixes, Sound, and_true]
    exact ⟨Iff.mp, fun sound => ⟨sound, congrArg _⟩⟩

/-- A secret check is exact if and only if its ends are sound, once the
confirm value can be computed on both and their keys are the same. -/
theorem exact_iff_sound (crypto : Crypto) (method : SecretMethod)
    (random : Bytes) (sender receiver : SecretEnd)
    (symbolic : crypto.Symbolic) (sizedS : sender.slink.Sized)
    (sizedR : receiver.slink.Sized) (length : sender.mixing.stackBytes.length =
      receiver.mixing.stackBytes.length) :
    Exact crypto method random sender receiver ↔
      (sender.env.cmacGenerate .confirm = true →
        receiver.env.cmacGenerate .check = true →
        SameKeys sender receiver → Sound crypto method sender receiver) := by
  constructor
  · intro exactly sends checks keys
    have now := exactly _ (confirmNum_some.mpr ⟨sends, rfl⟩)
    rw [check_iff symbolic sizedS sizedR (confirmNum_some.mpr ⟨sends, rfl⟩)]
      at now
    refine (secretPart_iff symbolic keys length).mp ?_
    simpa only [checks, keys, true_and] using now
  · intro sound confirm sent
    refine (check_iff symbolic sizedS sizedR sent).trans
      (and_congr_right fun checks => and_congr_right fun keys => ?_)
    exact (secretPart_iff symbolic keys length).mpr
      (sound (confirmNum_some.mp sent).1 checks keys)

end SecretEnd

section Examples

open Session

def codeEnd (stack : UInt8) : SecretEnd :=
  { slink := gEnd
    mixing := { plainEnv with stackBytes := List.replicate 12 stack }
    env := plainEnv
    passCode := 123456 }

namespace SecretEnd

/-- Two ends with the same pass code, and other bytes on the stack. -/
theorem not_exact_codeEnd :
    ¬ Exact tagging .passCode [] (codeEnd 0) (codeEnd 1) := by
  intro exactly
  have sent : (codeEnd 0).confirmNum tagging .passCode [] .confirm = some _ :=
    confirmNum_some.mpr ⟨rfl, rfl⟩
  have accepted := (exactly _ sent).mpr ⟨rfl, ⟨rfl, rfl, rfl⟩, rfl, rfl, rfl⟩
  have part := (check_iff tagging_symbolic sized_gEnd sized_gEnd sent).mp
    accepted
  exact absurd part.2.2 (by decide)

theorem exact_codeEnd : Exact tagging .passCode [] (codeEnd 0) (codeEnd 0) :=
  (exact_iff_sound tagging .passCode [] (codeEnd 0) (codeEnd 0)
    tagging_symbolic sized_gEnd sized_gEnd rfl).mpr fun _ _ _ =>
      ⟨fun _ _ _ => rfl, fun _ failed => absurd failed (by decide),
        fun failed => absurd failed (by decide),
        fun failed => absurd failed (by decide)⟩

end SecretEnd

end Examples

end NearLink.Sm
