import NearLink.Dtap.Reliable
import NearLink.Ssap.Respond

/-!
# Replies to requests

A request is answered when it is received or, when the application has to be
asked, when it answers.
-/

namespace NearLink.Ssap

open Sdf Keyed Transition

def Event.Resolves (code : MsgCode) (wanted : UInt16) : Event → Prop
  | .userResponse param =>
    (code = .readReq ∨ code = .writeReq) ∧ param.requestId = wanted
  | .methodCallRes requestId _ => code = .callMethodReq ∧ requestId = wanted
  | _ => False

/-- `SSAP_Send` on the channel of a link: `DTAP_DataSend` refuses a PDU that
is too long, which is then dropped. -/
def transmit (response : Option Bytes) : Option Bytes :=
  response.filter fun pdu => pdu.length ≤ Dtap.Channel.maxPayloadLen

/-- The PDU that is built, if any, is not too long for `DTAP_DataSend`. -/
def Fits (response : Option Bytes) : Prop :=
  ∀ pdu ∈ response, pdu.length ≤ Dtap.Channel.maxPayloadLen

theorem transmit_eq_some {response : Option Bytes} {pdu : Bytes} :
    transmit response = some pdu ↔
      response = some pdu ∧ pdu.length ≤ Dtap.Channel.maxPayloadLen := by
  simp [transmit, Option.filter_eq_some_iff]

theorem fits_of_transmit {response : Option Bytes} {pdu : Bytes}
    (sent : transmit response = some pdu) : Fits response := by
  obtain ⟨rfl, short⟩ := transmit_eq_some.mp sent
  rintro other ⟨⟩
  exact short

namespace Server

/-- The request is answered once: when it is received, and it is not kept, or
when the application answers it after other events, which takes it, and not
one that waited before, off the pending operations. -/
def RepliedOnce (server : Server) (isOld : Nat → Bool) (link : Link)
    (code : MsgCode) (pdu : Bytes) (before : List Event) (answer : Event) :
    Prop :=
  (∃ response,
    transmit (server.serve isOld link code pdu).2 = some response ∧
    Answers code response ∧
    (server.serve isOld link code pdu).1.pending = server.pending) ∨
  ((server.serve isOld link code pdu).2 = none ∧
    ∃ operation older newer response client,
      let waiting := run next (server.serve isOld link code pdu).1 before
      (server.serve isOld link code pdu).1.pending =
        server.pending ++ [operation] ∧
      operation ∉ server.pending ∧
      waiting.pending = older ++ operation :: newer ∧
      (waiting.next answer).pending = older ++ newer ∧
      transmit (waiting.sent answer) = some response ∧ Answers code response ∧
      waiting.recipient answer = some client ∧ client.client = link.client)

/-- The request is not dropped, and its response not too long; and when the
application has to be asked, no other request waits under the id it gets, and
its client has a link when the application answers. -/
def Replyable (server : Server) (isOld : Nat → Bool) (link : Link)
    (code : MsgCode) (pdu : Bytes) (before : List Event) (answer : Event) :
    Prop :=
  ¬ server.Dropped link code pdu ∧
    Fits (server.serve isOld link code pdu).2 ∧
    (server.Defers link code pdu →
      let waiting := run next (server.serve isOld link code pdu).1 before
      server.popOperationPenddingVector server.penddingRequestId = none ∧
        (waiting.findSsapLinkByAddr link.addr).isSome ∧
        Fits (waiting.sent answer))

variable {server : Server} {link : Link} {code : MsgCode} {pdu : Bytes}

theorem serve_keeps (isOld : Nat → Bool) :
    Keeps server (server.serve isOld link code pdu) := by
  unfold serve
  split
  · exact .inl rfl
  · exact .inl rfl
  · exact dispatch_keeps

section Answer

variable {answer : Event} {wanted : UInt16}
  (resolves : answer.Resolves code wanted) {operation : BufferedOperation}
  {client : Link}

include resolves

theorem requestId_of_resolves : answer.requestId = some wanted := by
  cases answer with
  | userResponse | methodCallRes => exact congrArg some resolves.2
  | _ => exact resolves.elim

theorem recipient_of_resolves :
    server.recipient answer =
      (server.popOperationPenddingVector wanted).bind fun operation =>
        server.findSsapLinkByAddr operation.addr := by
  cases answer with
  | userResponse | methodCallRes =>
    obtain ⟨_, rfl⟩ := resolves
    rfl
  | _ => exact resolves.elim

omit resolves in
theorem responds_resume (param : SendResponseValue)
    (kind : operation.msgCode = .readReq ∨ operation.msgCode = .writeReq) :
    Responds operation.msgCode (server.resume client operation param).2 := by
  unfold resume sendUserResponseCaseRead sendUserResponseCaseWrite
  rcases kind with read | write
  · rw [read]
    dsimp only
    split
    · split
      · exact responds_reply rfl (head_sendReadReqRsp _)
      · split <;> exact responds_reply rfl (head_sendReadReqRsp _)
    · exact responds_reply rfl (head_sendReadReqRsp _)
  · rw [write]
    dsimp only
    split
    · split
      all_goals exact responds_reply rfl (head_sendWriteReqRsp _ _)
    · exact responds_reply rfl (head_sendWriteReqRsp _ _)

theorem sent_of_resolves
    (located : server.popOperationPenddingVector wanted = some operation)
    (kind : operation.msgCode = code)
    (linked : server.findSsapLinkByAddr operation.addr = some client) :
    Responds code (server.sent answer) := by
  cases answer with
  | userResponse param =>
    obtain ⟨request, rfl⟩ := resolves
    unfold sent step sendUserResponse
    dsimp only
    rw [located]
    dsimp only
    rw [linked, ← kind]
    exact responds_resume param (kind ▸ request)
  | methodCallRes requestId data =>
    obtain ⟨rfl, rfl⟩ := resolves
    unfold sent step sendMethodCallRes
    dsimp only
    rw [located]
    dsimp only
    rw [linked]
    rw [if_pos kind]
    exact responds_reply rfl rfl
  | _ => exact resolves.elim

end Answer

/-- A request that is kept is answered once exactly when its id is not taken,
its client has a link when the application answers, and the response is not
too long. -/
theorem repliedOnce_kept {isOld : Nat → Bool} {before : List Event}
    {answer : Event} (quiet : ∀ event ∈ before,
      event.requestId ≠ some server.penddingRequestId)
    (resolves : answer.Resolves code server.penddingRequestId)
    (deferred : server.Deferred link code (server.serve isOld link code pdu)) :
    server.RepliedOnce isOld link code pdu before answer ↔
      (server.popOperationPenddingVector server.penddingRequestId = none ∧
        ((run next (server.serve isOld link code pdu).1
          before).findSsapLinkByAddr link.addr).isSome ∧
        Fits ((run next (server.serve isOld link code pdu).1
          before).sent answer)) := by
  obtain ⟨operation, kind, addr, outcome⟩ := deferred
  unfold RepliedOnce
  rw [outcome]
  generalize waiting : run next (server.pushOperationPenddingVector operation)
    before = state
  obtain ⟨kept, keptEq⟩ : ∃ kept : BufferedOperation, kept =
      { operation with requestId := server.penddingRequestId } := ⟨_, rfl⟩
  have pushed : (server.pushOperationPenddingVector operation).pending =
      server.pending ++ [kept] := by
    rw [keptEq]
    rfl
  have named : kept.requestId = server.penddingRequestId := by rw [keptEq]
  have home : kept.addr = link.addr := by
    rw [keptEq]
    exact addr
  obtain ⟨first, last, waits, found⟩ := run_waits quiet named pushed
  rw [waiting] at waits
  have popped : state.popOperationPenddingVector server.penddingRequestId =
      (server.popOperationPenddingVector server.penddingRequestId).or
        (some kept) := by
    unfold popOperationPenddingVector
    rw [waits, lookup_append_list, found]
    simp [lookup, named]
  have taken : (state.next answer).pending = _ :=
    pending_answer (requestId_of_resolves resolves)
  constructor
  · rintro (⟨response, sent, _⟩ | ⟨_, other, older, newer, response, client,
      grown, fresh, split, rest, responded, _, recipient, _⟩)
    · cases sent
    rw [pushed, List.append_cancel_left_eq, List.cons_eq_cons] at grown
    obtain ⟨rfl, _⟩ := grown
    have free : server.popOperationPenddingVector server.penddingRequestId =
        none := by
      cases located :
          server.popOperationPenddingVector server.penddingRequestId with
      | none => rfl
      | some found =>
        rw [located] at popped
        obtain ⟨start, tail, whole, _, removed, _⟩ := split_of_lookup popped
        have same : found = kept := eq_of_removed (whole.symm.trans split)
          (removed.symm.trans (taken.symm.trans rest))
        exact absurd (lookup_mem located) (same ▸ fresh)
    refine ⟨free, ?_, fits_of_transmit responded⟩
    rw [recipient_of_resolves resolves, popped, free] at recipient
    dsimp only [Option.or, Option.bind] at recipient
    rw [home] at recipient
    rw [recipient]
    rfl
  · rintro ⟨free, linked, fits⟩
    rw [free, Option.none_or] at popped
    obtain ⟨client, client_eq⟩ := Option.isSome_iff_exists.mp linked
    have reaches : state.findSsapLinkByAddr kept.addr = some client := by
      rw [home]
      exact client_eq
    have kindKept : kept.msgCode = code := by
      rw [keptEq]
      exact kind
    obtain ⟨response, sent, answers⟩ :=
      sent_of_resolves resolves popped kindKept reaches
    have unseen : lookup BufferedOperation.requestId server.penddingRequestId
        first = none := found.trans free
    refine .inr ⟨rfl, kept, first, last, response, client, pushed, ?_, waits,
      ?_, transmit_eq_some.mpr ⟨sent, fits response sent⟩, answers, ?_, ?_⟩
    · intro member
      exact lookup_eq_none.mp free (List.mem_map.mpr ⟨kept, member, named⟩)
    · rw [taken, waits, remove_append_absent unseen]
      simp [remove, named]
    · rw [recipient_of_resolves resolves, popped]
      exact reaches
    · exact lookup_key client_eq

/-- A request is answered once exactly when it is not dropped, its response is
not too long, and when it is kept, no other request waits under its id and its
client stays. -/
theorem repliedOnce_iff (server : Server) (isOld : Nat → Bool) (link : Link)
    (code : MsgCode) (pdu : Bytes) (before : List Event) (answer : Event)
    (request : code.reply.isSome) (opcode : pdu.head? = some code.value)
    (quiet : ∀ event ∈ before, event.requestId ≠ some server.penddingRequestId)
    (resolves : server.Defers link code pdu →
      answer.Resolves code server.penddingRequestId) :
    server.RepliedOnce isOld link code pdu before answer ↔
      server.Replyable isOld link code pdu before answer := by
  rcases serve_cases server isOld link request opcode with
    ⟨dropped, silent, same⟩ | ⟨heard, ⟨responds, prompt⟩ | ⟨kept, defers⟩⟩
  · refine iff_of_false ?_ fun replyable => replyable.1 dropped
    rintro (⟨response, sent, _⟩ | ⟨_, operation, _, _, _, _, grown, _⟩)
    · rw [silent] at sent
      cases sent
    · rw [same] at grown
      simp at grown
  · obtain ⟨response, sent, answers⟩ := responds
    have same : (server.serve isOld link code pdu).1.pending =
        server.pending := by
      rcases serve_keeps isOld with same | ⟨silent, _⟩
      · exact same
      · rw [silent] at sent
        cases sent
    constructor
    · rintro (⟨other, left, _⟩ | ⟨silent, _⟩)
      · exact ⟨heard, fits_of_transmit left, fun defers => absurd defers prompt⟩
      · rw [silent] at sent
        cases sent
    · rintro ⟨_, fits, _⟩
      exact .inl ⟨response, transmit_eq_some.mpr ⟨sent, fits response sent⟩,
        answers, same⟩
  · refine (repliedOnce_kept quiet (resolves defers) kept).trans
      ⟨fun all => ⟨heard, ?_, fun _ => all⟩, fun replyable => replyable.2.2 defers⟩
    obtain ⟨operation, _, _, outcome⟩ := kept
    rw [outcome]
    exact nofun

def methodServer : Server :=
  { init
      { services :=
          [{ handle := 1
             endHandle := 2
             uuid := []
             serviceType := 0
             properties := []
             methods := [⟨2, [], 0⟩] }]
        unique := by decide } with
    links := [⟨⟨0, 1⟩, 1, 251, Nat.le_refl stackMtuDefault,
      stackMtuDefault_le_max⟩] }

def callingLink : Link :=
  ⟨⟨0, 1⟩, 1, 251, Nat.le_refl stackMtuDefault, stackMtuDefault_le_max⟩

/-- The application answers the call of a method after another request. -/
theorem repliedOnce_method :
    methodServer.RepliedOnce (fun _ => false) callingLink .callMethodReq
      [MsgCode.callMethodReq.value, ctrlNoFrag, 2, 0, 7]
      [.recv 1 [MsgCode.exchangeInfoReq.value, 1]] (.methodCallRes 0 [5]) := by
  refine (repliedOnce_iff methodServer (fun _ => false) callingLink
    .callMethodReq _ _ _ rfl rfl (by decide) ?_).mpr ?_
  · exact fun _ => ⟨rfl, rfl⟩
  · refine ⟨by unfold Dropped; decide, nofun, fun _ => ⟨rfl, rfl, ?_⟩⟩
    rintro response ⟨⟩
    decide

/-- A short exchange of information is not answered. -/
theorem repliedOnce_fails :
    ¬ ∀ (server : Server) (isOld : Nat → Bool) (link : Link) (code : MsgCode)
      (pdu : Bytes) (before : List Event) (answer : Event),
      code.reply.isSome → pdu.head? = some code.value →
      (∀ event ∈ before, event.requestId ≠ some server.penddingRequestId) →
      (server.Defers link code pdu →
        answer.Resolves code server.penddingRequestId) →
      server.RepliedOnce isOld link code pdu before answer := by
  intro replied
  have once := replied methodServer (fun _ => false) callingLink
    .exchangeInfoReq [MsgCode.exchangeInfoReq.value, 1] []
    (.methodCallRes 0 []) rfl rfl (by simp) False.elim
  rcases once with ⟨response, sent, _⟩ | ⟨_, operation, _, _, _, _, grown, _⟩
  · cases sent
  · cases grown

end Server

end NearLink.Ssap
