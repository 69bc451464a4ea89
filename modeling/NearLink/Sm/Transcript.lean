import NearLink.Sm.LinkKey
import Mathlib.Data.Nat.Bitwise

/-!
# What verification codes bind

The message authentication code is taken as a symbolic function here: equal
codes have equal algorithms, keys and messages.
-/

namespace NearLink.Sm

open Sdf Cm List

def Crypto.Symbolic (crypto : Crypto) : Prop :=
  ∀ {algo key message algo' key' message'}, crypto.derivedKey algo key message =
      crypto.derivedKey algo' key' message' →
    algo = algo' ∧ key = key' ∧ message = message'

/-- The sizes of the arrays of a link. -/
structure SLink.Sized (slink : SLink) : Prop where
  gPubKey : slink.gNode.pubKey.length = 64
  tPubKey : slink.tNode.pubKey.length = 64
  ra : slink.gNode.randomR.length = 16
  rb : slink.tNode.randomR.length = 16

theorem bytes_injective {count left right : Nat} (low : left < 2 ^ (8 * count))
    (high : right < 2 ^ (8 * count))
    (same : ((List.range count).map fun index =>
        UInt8.ofNat (left / 2 ^ (8 * index))) =
      (List.range count).map fun index =>
        UInt8.ofNat (right / 2 ^ (8 * index))) : left = right := by
  apply Nat.eq_of_testBit_eq
  intro bit
  by_cases inside : bit / 8 < count
  · have byte := map_inj_left.mp same _ (mem_range.mpr inside)
    have number := congrArg UInt8.toNat byte
    rw [UInt8.toNat_ofNat', UInt8.toNat_ofNat'] at number
    have bits := congrArg (Nat.testBit · (bit % 8)) number
    have small : bit % 8 < 8 := Nat.mod_lt _ (by decide)
    simp only [Nat.testBit_mod_two_pow, Nat.testBit_div_two_pow, small,
      decide_true, Bool.true_and] at bits
    rwa [Nat.mod_add_div] at bits
  · have large : 2 ^ (8 * count) ≤ 2 ^ bit :=
      Nat.pow_le_pow_right (by decide) (by omega)
    rw [Nat.testBit_lt_two_pow (low.trans_le large),
      Nat.testBit_lt_two_pow (high.trans_le large)]

theorem addrBytes_injective {addr other : SleAddr}
    (same : addrBytes addr = addrBytes other) : addr.addr = other.addr :=
  BitVec.eq_of_toNat_eq
    (@bytes_injective 6 _ _ addr.addr.isLt other.addr.isLt same)

theorem passCodeBytes_injective {passCode other : UInt32}
    (same : SLink.passCodeBytes passCode = SLink.passCodeBytes other) :
    passCode = other :=
  UInt32.toNat_inj.mp
    (@bytes_injective 4 _ _ passCode.toNat_lt other.toNat_lt same)

namespace SLink

variable {crypto : Crypto} {env : Env} {g t : SLink}

/-- The pass code that enters the salt. -/
def saltCode (slink : SLink) : UInt32 :=
  if slink.role = gNodeRole then slink.gNode.passCode
  else slink.tNode.passCode

/-- What both ends of a pairing have in common.  Of the shared secret it is
the first half. -/
structure SameTranscript (g t : SLink) : Prop where
  dhKey : g.dhKey.take 16 = t.dhKey.take 16
  ra : g.gNode.randomR = t.gNode.randomR
  rb : g.tNode.randomR = t.tNode.randomR
  gAddr : g.localAddr.addr = t.rmtAddr.addr
  tAddr : g.rmtAddr.addr = t.localAddr.addr
  gIoAbility : g.gNode.ioAbility = t.gNode.ioAbility
  tIoAbility : g.tNode.ioAbility = t.tNode.ioAbility
  gPskFlag : g.gNode.pskFlag = t.gNode.pskFlag
  tPskFlag : g.tNode.pskFlag = t.tNode.pskFlag
  authMethod : g.negoParams.authMethod = t.negoParams.authMethod
  codeAlgoCap : g.negoParams.codeAlgoCap = t.negoParams.codeAlgoCap
  passCode : g.negoParams.authMethod = AuthMethod.passcode →
    g.saltCode = t.saltCode

theorem length_addrBytes (addr : SleAddr) : (addrBytes addr).length = 6 := by
  simp [addrBytes]

theorem addrBytes_congr {addr other : SleAddr} (same : addr.addr = other.addr) :
    addrBytes addr = addrBytes other := by
  unfold addrBytes
  rw [same]

section

variable (same : SameTranscript g t)
include same

theorem SameTranscript.salt :
    g.dhKeySalt = t.dhKeySalt := by
  unfold dhKeySalt
  rw [← same.authMethod]
  split
  case isTrue passcode =>
    exact congrArg (passCodeBytes · ++ _) (same.passCode passcode)
  case isFalse _ => rfl

theorem SameTranscript.code (randomR : Bytes) :
    crypto.derivedKey g.negoParams.codeAlgoCap.deriv
        (g.inputKey crypto g.localAddr g.rmtAddr)
        (g.dhKeyCfmBuff randomR g.localAddr g.rmtAddr) =
      crypto.derivedKey t.negoParams.codeAlgoCap.deriv
        (t.inputKey crypto t.rmtAddr t.localAddr)
        (t.dhKeyCfmBuff randomR t.rmtAddr t.localAddr) := by
  unfold inputKey dhKeyCfmBuff
  rw [same.salt, same.codeAlgoCap, same.dhKey, same.ra, same.rb,
    same.gIoAbility, same.tIoAbility, same.gPskFlag, same.tPskFlag,
    same.authMethod, addrBytes_congr same.gAddr, addrBytes_congr same.tAddr]

theorem SameTranscript.linkKey (gNode : g.role = gNodeRole)
    (tNode : t.role ≠ gNodeRole) :
    g.linkKeyOf crypto g.role = t.linkKeyOf crypto t.role := by
  unfold linkKeyOf SLink.gAddr SLink.tAddr
  rw [if_pos gNode, if_pos gNode, if_neg tNode, if_neg tNode,
    same.codeAlgoCap, same.dhKey, same.ra, same.rb,
    addrBytes_congr same.gAddr, addrBytes_congr same.tAddr]

end

theorem sameTranscript (symbolic : crypto.Symbolic) (sizedG : g.Sized)
    (sizedT : t.Sized) {own peer : Bytes} (length : own.length = peer.length)
    (same : crypto.derivedKey g.negoParams.codeAlgoCap.deriv
        (g.inputKey crypto g.localAddr g.rmtAddr)
        (g.dhKeyCfmBuff own g.localAddr g.rmtAddr) =
      crypto.derivedKey t.negoParams.codeAlgoCap.deriv
        (t.inputKey crypto t.rmtAddr t.localAddr)
        (t.dhKeyCfmBuff peer t.rmtAddr t.localAddr)) :
    SameTranscript g t := by
  obtain ⟨_, keys, buffs⟩ := symbolic same
  obtain ⟨_, dhKey, randoms⟩ := symbolic keys
  obtain ⟨rest, tAddr⟩ := append_inj' randoms (by simp [length_addrBytes])
  obtain ⟨rest, gAddr⟩ := append_inj' rest (by simp [length_addrBytes])
  obtain ⟨rest, rb⟩ := append_inj' rest (sizedG.rb.trans sizedT.rb.symm)
  have ra := append_cancel_left rest
  obtain ⟨buffs, _⟩ := append_inj' buffs (by simp [length_addrBytes])
  obtain ⟨buffs, _⟩ := append_inj' buffs (by simp [length_addrBytes])
  obtain ⟨buffs, fields⟩ := append_inj' buffs rfl
  obtain ⟨_, salts⟩ := append_inj buffs length
  simp only [List.cons.injEq, and_true] at fields
  obtain ⟨gIo, tIo, method, enc, intg, deriv, nego, gPsk, tPsk⟩ := fields
  refine ⟨dhKey, ra, rb, addrBytes_injective gAddr,
    addrBytes_injective tAddr, gIo, tIo, gPsk, tPsk, method, ?_, ?_⟩
  · cases capG : g.negoParams.codeAlgoCap
    cases capT : t.negoParams.codeAlgoCap
    simp_all
  · intro passcode
    unfold dhKeySalt at salts
    rw [if_pos passcode, if_pos (method.symm.trans passcode)] at salts
    exact passCodeBytes_injective (append_cancel_right salts)

/-- The codes that both ends hand over. -/
structure Sends (crypto : Crypto) (envG envT : Env) (g t : SLink)
    (codeG codeT : Bytes) : Prop where
  gNode : g.genDhKeyCfmCode crypto envG .ownCode g.gNode.randomR
    g.localAddr g.rmtAddr = some codeG
  tNode : t.genDhKeyCfmCode crypto envT .ownCode t.tNode.randomR
    t.rmtAddr t.localAddr = some codeT

theorem genDhKeyCfmCode_some {slink : SLink} {use : MacUse}
    {randomR code : Bytes} {gAddr tAddr : SleAddr} :
    slink.genDhKeyCfmCode crypto env use randomR gAddr tAddr = some code ↔
      env.cmacGenerate use = true ∧
        crypto.derivedKey slink.negoParams.codeAlgoCap.deriv
          (slink.inputKey crypto gAddr tAddr)
          (slink.dhKeyCfmBuff randomR gAddr tAddr) = code := by
  unfold genDhKeyCfmCode
  split <;> simp_all

/-- Either end takes the code of the other if and only if it can compute its
own and both have the same transcript, and then the link keys are equal. -/
theorem accepts_iff_sameTranscript (crypto : Crypto) (envG envT : Env)
    (g t : SLink) (codeG codeT : Bytes) (symbolic : crypto.Symbolic)
    (sizedG : g.Sized) (sizedT : t.Sized) (gNode : g.role = gNodeRole)
    (tNode : t.role ≠ gNodeRole)
    (sends : Sends crypto envG envT g t codeG codeT) :
    (t.AcceptsG crypto envT codeG ↔
        envT.cmacGenerate .peerCode = true ∧ SameTranscript g t) ∧
      (g.AcceptsT crypto envG codeT ↔
        envG.cmacGenerate .peerCode = true ∧ SameTranscript g t) ∧
      (SameTranscript g t →
        g.linkKeyOf crypto g.role = t.linkKeyOf crypto t.role) := by
  obtain ⟨_, rfl⟩ := genDhKeyCfmCode_some.mp sends.gNode
  obtain ⟨_, rfl⟩ := genDhKeyCfmCode_some.mp sends.tNode
  refine ⟨?_, ?_, fun same => same.linkKey gNode tNode⟩
  · refine genDhKeyCfmCode_some.trans (and_congr_right fun _ => ⟨?_, ?_⟩)
    · intro equal
      exact sameTranscript symbolic sizedG sizedT
        (sizedG.ra.trans sizedT.ra.symm) equal.symm
    · intro same
      rw [same.code, same.ra]
  · refine genDhKeyCfmCode_some.trans (and_congr_right fun _ => ⟨?_, ?_⟩)
    · intro equal
      exact sameTranscript symbolic sizedG sizedT
        (sizedG.rb.trans sizedT.rb.symm) equal
    · intro same
      rw [same.code, same.rb]

end SLink

section Examples

open Session

/-- Spells out the key and the message. -/
def tagged : Bytes → Bytes → Bytes
  | [], message => 0 :: message
  | byte :: key, message => 1 :: byte :: tagged key message

def tagging : Crypto :=
  { secKey := fun _ _ _ _ => []
    derivedKey := fun algo key message => algo :: tagged key message }

theorem tagged_injective : ∀ {key key' message message' : Bytes},
    tagged key message = tagged key' message' → key = key' ∧ message = message'
  | [], [], _, _, same => ⟨rfl, (List.cons.inj same).2⟩
  | [], _ :: _, _, _, same | _ :: _, [], _, _, same =>
    absurd (List.cons.inj same).1 (by decide)
  | _ :: _, _ :: _, _, _, same => by
      obtain ⟨_, rest⟩ := List.cons.inj same
      obtain ⟨byte, tags⟩ := List.cons.inj rest
      obtain ⟨keys, messages⟩ := tagged_injective tags
      exact ⟨congrArg₂ _ byte keys, messages⟩

theorem tagging_symbolic : tagging.Symbolic := fun same =>
  ⟨(List.cons.inj same).1, tagged_injective (List.cons.inj same).2⟩

def gParams : DeviceParams :=
  { pubKey := List.replicate 64 0x11
    randomR := List.replicate 16 0x12
    ioAbility := 1
    passCode := 123456 }

def tParams : DeviceParams :=
  { pubKey := List.replicate 64 0x21
    randomR := List.replicate 16 0x22
    ioAbility := 2
    passCode := 123456 }

def negotiated : NegoParam :=
  { authMethod := AuthMethod.passcode
    secKeyMaxLen := 16
    codeAlgoCap := ⟨1, 2, 3, 4⟩ }

def gEnd : SLink :=
  { rmtAddr := ⟨0, 2⟩
    localAddr := ⟨0, 1⟩
    dhKey := List.replicate 16 0x31 ++ List.replicate 16 0x32
    priKey := List.replicate 32 0x13
    gNode := gParams
    tNode := tParams
    negoParams := negotiated }

/-- The other end of `gEnd`, with another second half of the secret. -/
def tEnd : SLink :=
  { rmtAddr := ⟨0, 1⟩
    localAddr := ⟨0, 2⟩
    role := tNodeRole
    dhKey := List.replicate 16 0x31 ++ List.replicate 16 0x33
    priKey := List.replicate 32 0x23
    gNode := gParams
    tNode := tParams
    negoParams := negotiated }

theorem sized_gEnd : gEnd.Sized := ⟨rfl, rfl, rfl, rfl⟩

theorem sized_tEnd : tEnd.Sized := ⟨rfl, rfl, rfl, rfl⟩

theorem sameTranscript_gEnd : SLink.SameTranscript gEnd tEnd :=
  ⟨rfl, rfl, rfl, rfl, rfl, rfl, rfl, rfl, rfl, rfl, rfl, fun _ => rfl⟩

theorem accepts_gEnd : ∃ codeG codeT,
    SLink.Sends tagging plainEnv plainEnv gEnd tEnd codeG codeT ∧
      tEnd.AcceptsG tagging plainEnv codeG ∧
      gEnd.AcceptsT tagging plainEnv codeT := by
  have sends : SLink.Sends tagging plainEnv plainEnv gEnd tEnd _ _ :=
    ⟨if_pos rfl, if_pos rfl⟩
  have bound := SLink.accepts_iff_sameTranscript tagging plainEnv plainEnv
    gEnd tEnd _ _ tagging_symbolic sized_gEnd sized_tEnd rfl (by decide) sends
  exact ⟨_, _, sends, bound.1.mpr ⟨rfl, sameTranscript_gEnd⟩,
    bound.2.1.mpr ⟨rfl, sameTranscript_gEnd⟩⟩

/-- The second half of the shared secret is not bound. -/
theorem accepts_not_dhKey :
    ¬ ∀ (crypto : Crypto) (envG envT : Env) (g t : SLink) (codeG codeT : Bytes),
      crypto.Symbolic → g.Sized → t.Sized → g.role = gNodeRole →
      t.role ≠ gNodeRole → SLink.Sends crypto envG envT g t codeG codeT →
      t.AcceptsG crypto envT codeG → g.AcceptsT crypto envG codeT →
        g.dhKey = t.dhKey := by
  intro bound
  have same := bound tagging plainEnv plainEnv gEnd tEnd _ _ tagging_symbolic
    sized_gEnd sized_tEnd rfl (by decide)
    (SLink.Sends.mk (if_pos rfl) (if_pos rfl))
    (SLink.genDhKeyCfmCode_some.mpr ⟨rfl, (sameTranscript_gEnd.code _).symm⟩)
    (SLink.genDhKeyCfmCode_some.mpr ⟨rfl, sameTranscript_gEnd.code _⟩)
  exact absurd same (by decide)

end Examples

end NearLink.Sm
