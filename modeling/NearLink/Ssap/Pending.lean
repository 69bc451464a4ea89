import NearLink.Ssap.Access

/-!
# Pending operations

A request that the application has to answer waits under its id.  An operation
is taken up by the first answer that names its id, once those that waited
before it with this id are gone.
-/

namespace NearLink.Ssap

open Sdf Keyed Transition

def Event.requestId : Event → Option UInt16
  | .userResponse param => some param.requestId
  | .methodCallRes requestId _ => some requestId
  | _ => none

namespace Server

variable {server : Server} {link : Link} {code : MsgCode} {pdu : Bytes}
  {wanted : UInt16} {event : Event}

theorem pending_updatePropertyValue (property : Property) (type : UInt8)
    (value : Bytes) (addr : Addr) :
    (server.updatePropertyValue property type value addr).1.pending =
      server.pending := by
  unfold updatePropertyValue
  split <;> rfl

theorem pending_resume (operation : BufferedOperation)
    (param : SendResponseValue) :
    (server.resume link operation param).1.pending = server.pending := by
  unfold resume sendUserResponseCaseRead sendUserResponseCaseWrite
  dsimp only
  split
  · split
    · split
      · rfl
      · split
        · exact pending_updatePropertyValue _ _ _ _
        · rfl
    · rfl
  · split
    · split
      · rfl
      · exact pending_updatePropertyValue _ _ _ _
    · rfl
  · split
    · split
      · rfl
      · exact pending_updatePropertyValue _ _ _ _
    · rfl
  · rfl

theorem pending_answer (answers : event.requestId = some wanted) :
    (server.next event).pending =
      remove BufferedOperation.requestId wanted server.pending := by
  cases event with
  | userResponse param =>
    obtain rfl := Option.some.inj answers
    unfold next step sendUserResponse popOperationPenddingVector
    dsimp only
    cases located : lookup BufferedOperation.requestId param.requestId
        server.pending with
    | none => exact (remove_absent located).symm
    | some operation =>
      dsimp only
      cases server.findSsapLinkByAddr operation.addr with
      | none => rfl
      | some link =>
        dsimp only [removePending]
        rw [pending_resume]
  | methodCallRes requestId data =>
    obtain rfl := Option.some.inj answers
    unfold next step sendMethodCallRes popOperationPenddingVector
    dsimp only
    cases located : lookup BufferedOperation.requestId requestId
        server.pending with
    | none => exact (remove_absent located).symm
    | some operation =>
      dsimp only
      cases server.findSsapLinkByAddr operation.addr <;> rfl
  | _ => cases answers

section Loops

variable {property : Property}

theorem pending_writeMultiHandleItem (result : WriteResultItem)
    (subItems : List MultiSubItem) :
    (server.writeMultiHandleItem link property result subItems).1.pending =
      server.pending := by
  induction subItems generalizing server result with
  | nil => rfl
  | cons subItem subItems induction =>
    unfold writeMultiHandleItem
    cases server.validateSubItem link .writeReq subItem property with
    | «continue» => exact induction _
    | normalExecution =>
      dsimp only
      split
      · exact pending_updatePropertyValue _ _ _ _
      split
      · exact pending_updatePropertyValue _ _ _ _
      · rw [induction, pending_updatePropertyValue]
    | _ => rfl

variable (items : List MultiItem)

theorem pending_writeMultiHandleItems :
    (server.writeMultiHandleItems link items).1.pending = server.pending := by
  induction items generalizing server with
  | nil => rfl
  | cons item items induction =>
    have round : (server.writeMultiItem link item).1.pending =
        server.pending := by
      unfold writeMultiItem
      split
      · rfl
      · split
        · rfl
        · exact pending_writeMultiHandleItem _ _
    unfold writeMultiHandleItems
    dsimp only
    cases (server.writeMultiItem link item).2 with
    | none => exact round
    | some result => rw [induction, round]

theorem pending_writeMultiHandleCmdItem (subItems : List MultiSubItem) :
    (server.writeMultiHandleCmdItem link property subItems).1.pending =
      server.pending := by
  induction subItems generalizing server with
  | nil => rfl
  | cons subItem subItems induction =>
    unfold writeMultiHandleCmdItem
    cases server.validateSubItem link .writeCmd subItem property with
    | «continue» => exact induction
    | normalExecution =>
      dsimp only
      split
      · exact pending_updatePropertyValue _ _ _ _
      · rw [induction, pending_updatePropertyValue]
    | _ => rfl

theorem pending_writeMultiHandleCmdItems :
    (server.writeMultiHandleCmdItems link items).pending =
      server.pending := by
  induction items generalizing server with
  | nil => rfl
  | cons item items induction =>
    unfold writeMultiHandleCmdItems
    cases server.table.getPropertyByHandle item.handle with
    | none => exact induction
    | some property =>
      dsimp only
      split
      · rw [induction, pending_writeMultiHandleCmdItem]
      · exact pending_writeMultiHandleCmdItem _

end Loops

def Grows (before after : Server) : Prop :=
  ∃ added, after.pending = before.pending ++ added

theorem Grows.of_eq {before after : Server}
    (same : after.pending = before.pending) : Grows before after :=
  ⟨[], by rw [same, List.append_nil]⟩

variable (operation : BufferedOperation)

theorem Grows.push :
    Grows server (server.pushOperationPenddingVector operation) :=
  ⟨_, rfl⟩

theorem writeSingleCmdHandle_grows :
    Grows server (server.writeSingleCmdHandle link pdu) := by
  unfold writeSingleCmdHandle
  dsimp only
  split
  · exact .of_eq rfl
  split
  · exact .of_eq rfl
  split
  · exact .of_eq rfl
  split
  · split
    · exact .push _
    · exact .of_eq (pending_updatePropertyValue _ _ _ _)
  · exact .of_eq rfl

theorem writeCmdHandle_grows :
    Grows server (server.writeCmdHandle link pdu) := by
  unfold writeCmdHandle
  split
  · exact .of_eq rfl
  split
  · exact .of_eq rfl
  split
  · exact .of_eq rfl
  split
  · exact writeSingleCmdHandle_grows
  · unfold writeMultiHandleCmd
    split
    · exact .of_eq rfl
    · exact .of_eq (pending_writeMultiHandleCmdItems _)

def Keeps (server : Server) (outcome : Outcome) : Prop :=
  outcome.1.pending = server.pending ∨ outcome.2 = none ∧ Grows server outcome.1

theorem Keeps.grows {outcome : Outcome} (keeps : Keeps server outcome) :
    Grows server outcome.1 :=
  keeps.elim .of_eq And.right

theorem writeSingleItem_keeps :
    Keeps server (server.writeSingleItem link operation) := by
  unfold writeSingleItem
  split
  · exact .inl rfl
  split
  · exact .inl rfl
  split
  · split
    · exact .inr ⟨rfl, .push _⟩
    · exact .inl (pending_updatePropertyValue _ _ _ _)
  · exact .inl rfl

theorem writeReqHandle_keeps :
    Keeps server (server.writeReqHandle link pdu) := by
  unfold writeReqHandle
  split
  · exact .inl rfl
  split
  · exact .inl rfl
  split
  · exact .inl rfl
  split
  · exact .inl rfl
  split
  · unfold writeSingleHandleReq
    dsimp only
    split
    · exact .inl rfl
    split
    · exact .inl rfl
    · exact writeSingleItem_keeps _
  · unfold writeMultiHandleReq
    split
    · exact .inl rfl
    · dsimp only
      split <;> exact .inl (pending_writeMultiHandleItems _)

theorem readReqHandle_keeps :
    Keeps server (server.readReqHandle link pdu) := by
  unfold readReqHandle
  split
  · exact .inl rfl
  split
  · exact .inl rfl
  split
  · exact .inl rfl
  split
  · exact .inl rfl
  split
  · unfold readSingleHandleReq
    split
    · exact .inl rfl
    split
    · exact .inl rfl
    split
    · split
      · exact .inr ⟨rfl, .push _⟩
      · exact .inl rfl
    · exact .inl rfl
  · split <;> exact .inl rfl

theorem methodHandle_keeps :
    Keeps server (server.methodHandle link code pdu) := by
  unfold methodHandle
  dsimp only
  split
  · exact .inl rfl
  split
  · exact .inl rfl
  split
  · exact .inl rfl
  split
  · split <;> exact .inl rfl
  split
  · exact .inr ⟨rfl, .push _⟩
  · exact .inl rfl

theorem dispatch_keeps : Keeps server (server.dispatch link pdu) := by
  unfold dispatch
  split
  · exact .inl rfl
  split
  any_goals exact methodHandle_keeps
  · exact .inl rfl
  · unfold exchangeInfoReqHandle
    split <;> exact .inl rfl
  · exact readReqHandle_keeps
  · exact .inl (congrArg pending (readByUuidReqHandle_fst server link pdu))
  · exact .inr ⟨rfl, writeCmdHandle_grows⟩
  · exact writeReqHandle_keeps
  · exact .inl rfl

theorem next_grows (other : event.requestId = none) :
    Grows server (server.next event) := by
  cases event with
  | recv lcid pdu =>
    unfold next step
    dsimp only
    split
    · exact .of_eq rfl
    · exact dispatch_keeps.grows
  | userResponse | methodCallRes => cases other
  | _ => exact .of_eq rfl

/-- An operation waits until the application answers its id, behind those
with the id that waited before. -/
theorem run_waits {operation : BufferedOperation} {events : List Event}
    (quiet : ∀ event ∈ events, event.requestId ≠ some wanted)
    (named : operation.requestId = wanted)
    {older newer : List BufferedOperation}
    (waits : server.pending = older ++ operation :: newer) :
    ∃ before after, (run next server events).pending =
        before ++ operation :: after ∧
      lookup BufferedOperation.requestId wanted before =
        lookup BufferedOperation.requestId wanted older := by
  induction events generalizing server older newer with
  | nil => exact ⟨older, newer, waits, rfl⟩
  | cons event events induction =>
    have later : ∀ other ∈ events, other.requestId ≠ some wanted :=
      fun other member => quiet other (.tail _ member)
    have now := quiet event (by simp)
    cases answers : event.requestId with
    | none =>
      obtain ⟨added, grown⟩ : Grows server (server.next event) :=
        next_grows answers
      rw [waits, List.append_assoc, List.cons_append] at grown
      exact induction later grown
    | some answered =>
      have differs : wanted ≠ answered := by
        rintro rfl
        exact now answers
      have taken : (server.next event).pending = _ :=
        pending_answer answers
      rw [waits] at taken
      have foreign : BufferedOperation.requestId operation ≠ answered :=
        named ▸ differs
      obtain ⟨before, after, rest, kept⟩ := remove_around foreign
      rw [rest] at taken
      obtain ⟨first, last, reached, found⟩ := induction later taken
      exact ⟨first, last, reached, found.trans (kept wanted differs)⟩

end Server

end NearLink.Ssap
