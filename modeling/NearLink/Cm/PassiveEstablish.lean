import NearLink.Cm.DeviceOutcome

/-!
# Answers to requests for a channel

`CM_DynTransChanPassiveEstablishedReqHandler` refuses a small MTU and a port
that is not served with a response.  When it finds no tcid or no memory for the
channel it goes back without one.
-/

namespace NearLink.Cm

open Keyed Transition

def DeviceLog.message : DeviceLog → Option (Nat × ChanSignal)
  | .sent lcid message => some (lcid, message)
  | _ => none

def DeviceLog.isStatusIndication : DeviceLog → Bool
  | .statusIndication _ _ _ => true
  | _ => false

namespace Device

def messages (device : Device) : List (Nat × ChanSignal) :=
  device.log.filterMap DeviceLog.message

def indications (device : Device) : List DeviceLog :=
  device.log.filter DeviceLog.isStatusIndication

/-- The request is answered once, with success exactly when there is a channel
for it, and otherwise with nothing changed. -/
def Answered (lcid : Nat) (id : UInt8) (srcTcid : Nat) (device after : Device) : Prop :=
  ∃ dstTcid result, after.messages =
      device.messages ++ [(lcid, .connectRsp id srcTcid dstTcid result)] ∧
    (result = resultSuccess ↔ ∃ channel ∈ after.channels,
      channel.remoteKey = (lcid, srcTcid) ∧ channel.state = .activated) ∧
    (result ≠ resultSuccess →
      after.channels = device.channels ∧ after.pools = device.pools ∧
        after.indications = device.indications)

/-- The response can be sent, and the request is refused or gets a tcid and a
channel. -/
def CanAnswer (lcid srcTcid : Nat) (mtu : UInt16) (fate : RecvFate)
    (device : Device) : Prop :=
  fate.sent = true ∧ (mtu < capMinMtu ∨ fate.checked = false ∨
      (device.freeTcid lcid (isUnicast srcTcid)).isSome ∧
        fate.nodeAllocated = true)

section Answered

variable {device after : Device} {lcid srcTcid : Nat} {id result : UInt8}

theorem not_answered_of_messages (messages : after.messages = device.messages) :
    ¬ Answered lcid id srcTcid device after := by
  rintro ⟨dstTcid, result, answered, _⟩
  have lengths := congrArg List.length (messages.symm.trans answered)
  simp at lengths

section

variable (refusal : result ≠ resultSuccess)
  (new : device.findByRemoteTcid lcid srcTcid = none)
include refusal new

theorem answered_refusal :
    Answered lcid id srcTcid device
      (device.sendEstablishedErrResp lcid id srcTcid result true) := by
  refine ⟨invalidTcid, result, ?_, ?_, ?_⟩
  · simp [sendEstablishedErrResp, sendRsp, messages, note, DeviceLog.message]
  · constructor
    · exact fun success => absurd success refusal
    · rintro ⟨channel, member, keys, _⟩
      exact absurd (keys ▸ List.mem_map_of_mem member) (lookup_eq_none.mp new)
  · intro _
    refine ⟨rfl, rfl, ?_⟩
    simp [sendEstablishedErrResp, sendRsp, indications, note,
      DeviceLog.isStatusIndication]

theorem sendEstablishedErrResp_iff {sent : Bool} :
    Answered lcid id srcTcid device
      (device.sendEstablishedErrResp lcid id srcTcid result sent) ↔
        sent = true := by
  cases sent with
  | true => exact iff_of_true (answered_refusal refusal new) rfl
  | false =>
    exact iff_of_false (not_answered_of_messages rfl) Bool.false_ne_true

end

theorem passiveEstablishedReqHandler_iff (params : ChannelParams)
    (fate : RecvFate) (new : device.findByRemoteTcid lcid srcTcid = none) :
    Answered lcid id srcTcid device
      (device.passiveEstablishedReqHandler lcid id srcTcid params fate) ↔
        device.CanAnswer lcid srcTcid params.config.mtu fate := by
  unfold passiveEstablishedReqHandler CanAnswer
  split
  · next small =>
      rw [sendEstablishedErrResp_iff (by decide) new]
      simp [small]
  · next large =>
      split
      · next unchecked =>
          rw [sendEstablishedErrResp_iff (by decide) new]
          simp only [Bool.not_eq_true'] at unchecked
          simp [unchecked]
      · next checked =>
          have checks : fate.checked = true := by simpa using checked
          simp only [large, checks, Bool.true_eq_false, false_or]
          cases free : device.freeTcid lcid (isUnicast srcTcid) with
          | none =>
            apply iff_of_false (not_answered_of_messages rfl)
            simp
          | some tcid =>
            cases allocated : fate.nodeAllocated with
            | false =>
              apply iff_of_false
              · apply not_answered_of_messages
                simp [messages, dynTcidAllocate]
              · simp
            | true =>
              cases sent : fate.sent with
              | false =>
                apply iff_of_false
                · apply not_answered_of_messages
                  simp [messages, freeChannel, addChannel, dynTcidAllocate]
                · simp
              | true =>
                apply iff_of_true _ (by simp)
                refine ⟨tcid, resultSuccess, ?_, ?_, ?_⟩
                · simp [messages, sendRsp, note, addChannel,
                    dynTcidAllocate, DeviceLog.message]
                · refine iff_of_true rfl ⟨_,
                    List.mem_append_right _ List.mem_cons_self, ?_⟩
                  exact ⟨rfl, rfl⟩
                · exact fun failure => absurd rfl failure

theorem Settled.answered {core : Device} (settled : Settled core after) :
    Answered lcid id srcTcid device after ↔
      Answered lcid id srcTcid device core := by
  unfold Answered messages indications
  rw [settled.channels, settled.pools, settled.log]

/-- A request for a new channel is answered exactly when the response can be
sent and the request is refused, or a tcid is found and a channel made: not
when the tcids are used up or the tcid of the peer is not a unicast one, and
not when there is no memory. -/
theorem answered_iff (device : Device) (lcid : Nat) (id : UInt8)
    (srcTcid : Nat) (slqi : UInt8) (aid : UInt16) (config : ChannelConfig)
    (fate : RecvFate) (parsed : config.parsed = true)
    (dynamic : isDynamic srcTcid = true)
    (new : device.findByRemoteTcid lcid srcTcid = none) :
    Answered lcid id srcTcid device
      (device.step (.recv lcid (.connectReq id srcTcid slqi aid config)
        fate)) ↔ device.CanAnswer lcid srcTcid config.mtu fate := by
  have settled := device.recv_settled lcid
    (.connectReq id srcTcid slqi aid config) fate
  rw [settled.answered]
  simp only [handle, establishReqCbk, parsed, dynamic, new,
    Option.isNone_none, Bool.and_self, if_true]
  exact passiveEstablishedReqHandler_iff _ fate new

end Answered

def firstLink : Device := (init 0).linkUp 1 true

theorem answered_firstLink :
    Answered 1 9 0x90 firstLink
      (firstLink.step (.recv 1 (.connectReq 9 0x90 0 3999 ⟨0, 64, 1, 2⟩)
        ⟨true, true, true, ⟨true, true, true⟩⟩)) :=
  (answered_iff firstLink 1 9 0x90 0 3999 ⟨0, 64, 1, 2⟩ _ (by decide)
    (by decide) (by decide)).mpr
      ⟨rfl, .inr (.inr ⟨by decide, rfl⟩)⟩

/-- There is no memory for the channel, and the peer gets no response. -/
theorem answered_fails :
    ¬ Answered 1 9 0x90 firstLink
      (firstLink.step (.recv 1 (.connectReq 9 0x90 0 3999 ⟨0, 64, 1, 2⟩)
        ⟨true, false, true, ⟨true, true, true⟩⟩)) := by
  apply not_answered_of_messages
  decide

end Device

end NearLink.Cm
