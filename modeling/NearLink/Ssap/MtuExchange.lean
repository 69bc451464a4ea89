import NearLink.Ssap.ReadMulti
import NearLink.Transition

/-!
# Agreeing on an MTU

Two stacks over links that deliver in order and lose nothing.  Each of them may
ask for an MTU whenever it waits for no answer of its own; a task that is
queued behind another one is sent by a later event.  An application may
deregister while its request is out, and the request may time out: the link is
then still there until the connection is removed.  The initial find request of
a link is taken as answered, and other tasks of the link are left out.
-/

namespace NearLink.Ssap

open Sdf Keyed Transition

/-- `SSAP_PduExchangePkt_S` with the control code of both messages. -/
def exchangePkt (msgCode : MsgCode) (mtu : Nat) : Bytes :=
  [msgCode.value, 0x23] ++ encode16 mtu ++ encode16 exchangeVersion

def clampMtu (mtu : Nat) : Nat := max stackMtuDefault (min mtu stackMtuMax)

namespace Link

/-- The link after `SSAPS_ExchangeInfoReqHandle`, and what is sent. -/
def exchangeInfoReq (link : Link) (pdu : Bytes) : Link × Option Bytes :=
  if pdu.length > stackMtuMax ∨ pdu.length < exchangeInfoPktLen then
    (link, none)
  else
    let exchanged :=
      if byteAt pdu 1 &&& 1 ≠ 0 then Server.negotiate (decode16 pdu 2) link
      else link
    (exchanged, some (exchangePkt .exchangeInfoRsp exchanged.mtu))

/-- The link after `SSAPC_ExchangeInfoRspHandle`. -/
def exchangeInfoRsp (link : Link) (pdu : Bytes) : Link :=
  if pdu.length < exchangeInfoPktLen then link
  else if byteAt pdu 1 &&& 1 ≠ 0 then
    { link with
      mtu := clampMtu (decode16 pdu 2)
      mtuLow := Nat.le_max_left _ _
      mtuHigh := Nat.max_le.mpr ⟨by decide, Nat.min_le_right _ _⟩ }
  else link

end Link

structure Peer where
  link : Link
  /-- `curTask` is a request for an MTU. -/
  awaiting : Bool
  /-- The application of `curTask` has deregistered, so the task is no longer
  valid. -/
  withdrawn : Bool
  lastRequested : Option Nat
  inbox : List Bytes

namespace Peer

/-- `SSAPC_ExchangeInfoReq`, which is started only by an idle link. -/
def exchangeInfoReq (mtu : UInt16) (own peer : Peer) : Peer × Peer :=
  if own.awaiting then (own, peer)
  else
    ({ own with
        awaiting := true
        withdrawn := false
        lastRequested := some mtu.toNat },
      { peer with
        inbox := peer.inbox ++ [exchangePkt .exchangeInfoReq mtu.toNat] })

/-- `SSAP_CleanLinkTaskByAppId` for the application of the current task. -/
def deregister (own peer : Peer) : Peer × Peer :=
  (if own.awaiting then { own with withdrawn := true } else own, peer)

/-- `SSAP_TimeoutCbk`, whose timer runs while an answer is outstanding. -/
def timeout (own peer : Peer) : Peer × Peer :=
  ({ own with awaiting := false }, peer)

/-- `SSAP_Recv` of the next PDU, with the check of `SSAP_CheckOpcode` that a
response answers the request of the current task.  A response to a task that
is no longer valid ends it without being handled. -/
def recv (own peer : Peer) : Peer × Peer :=
  match own.inbox with
  | [] => (own, peer)
  | pdu :: inbox =>
    match pdu.head?.bind MsgCode.ofByte with
    | some .exchangeInfoReq =>
      let handled := own.link.exchangeInfoReq pdu
      ({ own with link := handled.1, inbox },
        { peer with inbox := peer.inbox ++ handled.2.toList })
    | some .exchangeInfoRsp =>
      if own.awaiting then
        ({ own with
            link :=
              if own.withdrawn then own.link else own.link.exchangeInfoRsp pdu
            awaiting := false
            inbox }, peer)
      else ({ own with inbox }, peer)
    | _ => ({ own with inbox }, peer)

def Allows (peer : Peer) (mtu : Nat) : Prop :=
  ∀ requested, peer.lastRequested = some requested → mtu ≤ clampMtu requested

def Clear (peer : Peer) : Prop :=
  ∀ pdu ∈ peer.inbox, pdu.head? ≠ some MsgCode.exchangeInfoReq.value

end Peer

inductive Side where
  | left
  | right

structure Connection where
  left : Peer
  right : Peer

inductive ExchangeEvent where
  | request (side : Side) (mtu : UInt16)
  | deliver (side : Side)
  | deregister (side : Side)
  | timeout (side : Side)

namespace Connection

def act (connection : Connection) (action : Peer → Peer → Peer × Peer) :
    Side → Connection
  | .left =>
    let acted := action connection.left connection.right
    ⟨acted.1, acted.2⟩
  | .right =>
    let acted := action connection.right connection.left
    ⟨acted.2, acted.1⟩

def step (connection : Connection) : ExchangeEvent → Connection
  | .request side mtu => connection.act (Peer.exchangeInfoReq mtu) side
  | .deliver side => connection.act Peer.recv side
  | .deregister side => connection.act Peer.deregister side
  | .timeout side => connection.act Peer.timeout side

def init (left right : Link) : Connection :=
  ⟨⟨left, false, false, none, []⟩, ⟨right, false, false, none, []⟩⟩

/-- With nothing on its way the ends agree on an MTU that neither of them
asked to be smaller. -/
def Agreed (connection : Connection) : Prop :=
  connection.left.inbox = [] → connection.right.inbox = [] →
    connection.left.link.mtu = connection.right.link.mtu ∧
      connection.left.Allows connection.left.link.mtu ∧
      connection.right.Allows connection.right.link.mtu

/-- No request is sent while another one is on its way to its sender, and none
is given up before it is answered. -/
def Uncrossed (connection : Connection) : ExchangeEvent → Prop
  | .request .left _ => connection.left.awaiting = false →
      connection.left.Clear
  | .request .right _ => connection.right.awaiting = false →
      connection.right.Clear
  | .deregister .left | .timeout .left => connection.left.awaiting = false
  | .deregister .right | .timeout .right => connection.right.awaiting = false
  | .deliver _ => True

end Connection

/-- How far an exchange is that `first` started. -/
inductive Aligned (first second : Peer) : Prop where
  | quiet (firstEmpty : first.inbox = []) (secondEmpty : second.inbox = [])
      (firstIdle : first.awaiting = false)
      (secondIdle : second.awaiting = false)
      (same : first.link.mtu = second.link.mtu)
      (firstAllows : first.Allows first.link.mtu)
      (secondAllows : second.Allows first.link.mtu)
  | asked (requested : UInt16) (firstEmpty : first.inbox = [])
      (pending : second.inbox = [exchangePkt .exchangeInfoReq requested.toNat])
      (firstBusy : first.awaiting = true) (secondIdle : second.awaiting = false)
      (same : first.link.mtu = second.link.mtu)
      (last : first.lastRequested = some requested.toNat)
      (secondAllows : second.Allows first.link.mtu)
  | answered (pending : first.inbox =
        [exchangePkt .exchangeInfoRsp second.link.mtu])
      (secondEmpty : second.inbox = []) (firstBusy : first.awaiting = true)
      (secondIdle : second.awaiting = false)
      (firstAllows : first.Allows second.link.mtu)
      (secondAllows : second.Allows second.link.mtu)
  | turned (requested : UInt16) (pending : first.inbox =
        [exchangePkt .exchangeInfoRsp second.link.mtu,
          exchangePkt .exchangeInfoReq requested.toNat])
      (secondEmpty : second.inbox = []) (firstBusy : first.awaiting = true)
      (secondBusy : second.awaiting = true)
      (firstAllows : first.Allows second.link.mtu)
      (last : second.lastRequested = some requested.toNat)

def InStep (own peer : Peer) : Prop := Aligned own peer ∨ Aligned peer own

variable {peer : Peer}

theorem InStep.symm {own : Peer} (inStep : InStep own peer) :
    InStep peer own := Or.symm inStep

theorem Peer.Allows.le {mtu smaller : Nat} (allows : peer.Allows mtu)
    (le : smaller ≤ mtu) : peer.Allows smaller := by
  intro requested last
  exact le_trans le (allows requested last)

namespace Link

theorem exchangeInfoReq_pkt (link : Link) (requested : UInt16) :
    link.exchangeInfoReq (exchangePkt .exchangeInfoReq requested.toNat) =
      (Server.negotiate requested.toNat link, some (exchangePkt
        .exchangeInfoRsp (Server.negotiate requested.toNat link).mtu)) := by
  have field := decode16_encode16 requested.toNat_lt (encode16 exchangeVersion)
  have read : decode16 (exchangePkt .exchangeInfoReq requested.toNat) 2 =
      requested.toNat := field
  have flagged : byteAt (exchangePkt .exchangeInfoReq requested.toNat) 1 &&&
      1 ≠ 0 := by
    change (0x23 : UInt8) &&& 1 ≠ 0
    decide
  have formed : ¬ ((exchangePkt .exchangeInfoReq requested.toNat).length >
      stackMtuMax ∨ (exchangePkt .exchangeInfoReq requested.toNat).length <
        exchangeInfoPktLen) := by
    change ¬ (6 > stackMtuMax ∨ 6 < exchangeInfoPktLen)
    decide
  rw [exchangeInfoReq, if_neg formed, if_pos flagged, read]

theorem mtu_exchangeInfoRsp_pkt (own peer : Link) :
    (own.exchangeInfoRsp (exchangePkt .exchangeInfoRsp peer.mtu)).mtu =
      peer.mtu := by
  have low := peer.mtuLow
  have high := peer.mtuHigh
  have read : decode16 (exchangePkt .exchangeInfoRsp peer.mtu) 2 =
      peer.mtu :=
    decode16_encode16 (by simp only [stackMtuMax] at high; omega)
      (encode16 exchangeVersion)
  have flagged : byteAt (exchangePkt .exchangeInfoRsp peer.mtu) 1 &&&
      1 ≠ 0 := by
    change (0x23 : UInt8) &&& 1 ≠ 0
    decide
  have formed : ¬ (exchangePkt .exchangeInfoRsp peer.mtu).length <
      exchangeInfoPktLen := by
    change ¬ 6 < exchangeInfoPktLen
    decide
  rw [exchangeInfoRsp, if_neg formed, if_pos flagged]
  change clampMtu (decode16 (exchangePkt .exchangeInfoRsp peer.mtu) 2) = _
  simp only [clampMtu]
  omega

end Link

namespace Peer

variable {own peer : Peer} {inbox : List Bytes}

theorem recv_empty (empty : own.inbox = []) : own.recv peer = (own, peer) := by
  rw [recv, empty]

theorem recv_request {requested : UInt16} (pending : own.inbox =
      exchangePkt .exchangeInfoReq requested.toNat :: inbox) : own.recv peer =
      ({ own with link := Server.negotiate requested.toNat own.link, inbox },
        { peer with
          inbox := peer.inbox ++ [exchangePkt .exchangeInfoRsp
            (Server.negotiate requested.toNat own.link).mtu] }) := by
  have opened : (exchangePkt .exchangeInfoReq requested.toNat).head?.bind
      MsgCode.ofByte = some .exchangeInfoReq := rfl
  rw [recv, pending]
  simp only [opened, Link.exchangeInfoReq_pkt, Option.toList_some]

theorem recv_response {mtu : Nat} (kept : own.withdrawn = false)
    (busy : own.awaiting = true)
    (pending : own.inbox = exchangePkt .exchangeInfoRsp mtu :: inbox) :
    own.recv peer =
      ({ own with
          link := own.link.exchangeInfoRsp (exchangePkt .exchangeInfoRsp mtu)
          awaiting := false
          inbox }, peer) := by
  have opened : (exchangePkt .exchangeInfoRsp mtu).head?.bind
      MsgCode.ofByte = some .exchangeInfoRsp := rfl
  rw [recv, pending]
  simp [opened, busy, kept]

theorem exchangeInfoReq_busy {mtu : UInt16} (busy : own.awaiting = true) :
    own.exchangeInfoReq mtu peer = (own, peer) := by
  rw [exchangeInfoReq, if_pos busy]

theorem exchangeInfoReq_idle {mtu : UInt16} (idle : own.awaiting = false) :
    own.exchangeInfoReq mtu peer =
      ({ own with
          awaiting := true
          withdrawn := false
          lastRequested := some mtu.toNat },
        { peer with
          inbox := peer.inbox ++
            [exchangePkt .exchangeInfoReq mtu.toNat] }) := by
  rw [exchangeInfoReq, if_neg (by simp [idle])]

theorem withdrawn_recv : (own.recv peer).1.withdrawn = own.withdrawn ∧
    (own.recv peer).2.withdrawn = peer.withdrawn := by
  unfold recv
  split
  · exact ⟨rfl, rfl⟩
  · split
    · exact ⟨rfl, rfl⟩
    · split <;> exact ⟨rfl, rfl⟩
    · exact ⟨rfl, rfl⟩

theorem withdrawn_exchangeInfoReq {mtu : UInt16}
    (kept : own.withdrawn = false) :
    (own.exchangeInfoReq mtu peer).1.withdrawn = false ∧
      (own.exchangeInfoReq mtu peer).2.withdrawn = peer.withdrawn := by
  unfold exchangeInfoReq
  split
  · exact ⟨kept, rfl⟩
  · exact ⟨rfl, rfl⟩

theorem deregister_idle (idle : own.awaiting = false) :
    own.deregister peer = (own, peer) := by simp [deregister, idle]

theorem timeout_idle (idle : own.awaiting = false) :
    own.timeout peer = (own, peer) := by
  cases own
  cases idle
  rfl

theorem Allows.same {mtu other : Nat} (allows : own.Allows mtu)
    (same : mtu = other) : own.Allows other := same ▸ allows

end Peer

theorem mtu_negotiate_le_clamp (mtu : Nat) (link : Link) :
    (Server.negotiate mtu link).mtu ≤ clampMtu mtu := Nat.min_le_left _ _

theorem mtu_negotiate_le (mtu : Nat) (link : Link) :
    (Server.negotiate mtu link).mtu ≤ link.mtu := Nat.min_le_right _ _

variable {own peer : Peer}

/-- The phases of an exchange while nothing is on its way do not depend on who
started the last one. -/
theorem Aligned.of_quiet (firstEmpty : own.inbox = [])
    (secondEmpty : peer.inbox = []) (inStep : InStep own peer) :
    own.link.mtu = peer.link.mtu ∧ own.Allows own.link.mtu ∧
      peer.Allows peer.link.mtu := by
  rcases inStep with aligned | aligned
  · cases aligned with
    | quiet _ _ _ _ same firstAllows secondAllows =>
      exact ⟨same, firstAllows, secondAllows.same same⟩
    | asked _ _ pending => simp [pending] at secondEmpty
    | answered pending | turned _ pending => simp [pending] at firstEmpty
  · cases aligned with
    | quiet _ _ _ _ same firstAllows secondAllows =>
      exact ⟨same.symm, secondAllows.same same, firstAllows⟩
    | asked _ _ pending => simp [pending] at firstEmpty
    | answered pending | turned _ pending => simp [pending] at secondEmpty

theorem InStep.exchangeInfoReq {mtu : UInt16} (inStep : InStep own peer)
    (clear : own.awaiting = false → own.Clear) :
    InStep (own.exchangeInfoReq mtu peer).1
      (own.exchangeInfoReq mtu peer).2 := by
  cases busy : own.awaiting with
  | true =>
    rw [Peer.exchangeInfoReq_busy busy]
    exact inStep
  | false =>
    rw [Peer.exchangeInfoReq_idle busy]
    rcases inStep with aligned | aligned
    · cases aligned with
      | quiet firstEmpty secondEmpty _ secondIdle same _ secondAllows =>
        refine .inl (.asked mtu firstEmpty ?_ rfl secondIdle same rfl
          secondAllows)
        simp [secondEmpty]
      | asked _ _ _ firstBusy | answered _ _ firstBusy
      | turned _ _ _ firstBusy => simp [busy] at firstBusy
    · cases aligned with
      | quiet firstEmpty secondEmpty firstIdle _ same firstAllows _ =>
        refine .inl (.asked mtu secondEmpty ?_ rfl firstIdle same.symm
          rfl (firstAllows.same same))
        simp [firstEmpty]
      | asked requested _ pending =>
        exact absurd rfl (clear busy
          (exchangePkt .exchangeInfoReq requested.toNat)
          (by simp [pending]))
      | answered pending secondEmpty firstBusy _ firstAllows _ =>
        refine .inr (.turned mtu ?_ secondEmpty firstBusy rfl firstAllows rfl)
        simp [pending]
      | turned _ _ _ _ secondBusy => simp [busy] at secondBusy

theorem InStep.recv (kept : own.withdrawn = false)
    (inStep : InStep own peer) :
    InStep (own.recv peer).1 (own.recv peer).2 := by
  rcases inStep with aligned | aligned
  · cases aligned with
    | quiet firstEmpty secondEmpty firstIdle secondIdle same firstAllows
        secondAllows =>
        rw [Peer.recv_empty firstEmpty]
        exact .inl (.quiet firstEmpty secondEmpty firstIdle secondIdle same
          firstAllows secondAllows)
    | asked requested firstEmpty pending firstBusy secondIdle same last
        secondAllows =>
        rw [Peer.recv_empty firstEmpty]
        exact .inl (.asked requested firstEmpty pending firstBusy secondIdle
          same last secondAllows)
    | answered pending secondEmpty firstBusy secondIdle firstAllows
        secondAllows =>
        rw [Peer.recv_response kept firstBusy pending]
        have taken := Link.mtu_exchangeInfoRsp_pkt own.link peer.link
        exact .inl (.quiet rfl secondEmpty rfl secondIdle taken
          (firstAllows.same taken.symm) (secondAllows.same taken.symm))
    | turned requested pending secondEmpty firstBusy secondBusy firstAllows
        last =>
        rw [Peer.recv_response kept firstBusy pending]
        have taken := Link.mtu_exchangeInfoRsp_pkt own.link peer.link
        exact .inr (.asked requested secondEmpty rfl secondBusy rfl
          taken.symm last firstAllows)
  · cases aligned with
    | quiet firstEmpty secondEmpty firstIdle secondIdle same firstAllows
        secondAllows =>
        rw [Peer.recv_empty secondEmpty]
        exact .inr (.quiet firstEmpty secondEmpty firstIdle secondIdle same
          firstAllows secondAllows)
    | asked requested firstEmpty pending firstBusy secondIdle same last
        secondAllows =>
        rw [Peer.recv_request pending]
        refine .inr (.answered ?_ rfl firstBusy secondIdle ?_ ?_)
        · simp [firstEmpty]
        · intro other asked
          obtain rfl : requested.toNat = other := by
            simpa [last] using asked
          exact mtu_negotiate_le_clamp _ _
        · exact (secondAllows.same same).le (mtu_negotiate_le _ _)
    | answered pending secondEmpty firstBusy secondIdle firstAllows
        secondAllows =>
        rw [Peer.recv_empty secondEmpty]
        exact .inr (.answered pending secondEmpty firstBusy secondIdle
          firstAllows secondAllows)
    | turned requested pending secondEmpty firstBusy secondBusy firstAllows
        last =>
        rw [Peer.recv_empty secondEmpty]
        exact .inr (.turned requested pending secondEmpty firstBusy
          secondBusy firstAllows last)

namespace Connection

structure Synchronized (connection : Connection) : Prop where
  inStep : InStep connection.left connection.right
  leftKept : connection.left.withdrawn = false
  rightKept : connection.right.withdrawn = false

variable {connection : Connection}

theorem Synchronized.agreed (synchronized : connection.Synchronized) :
    connection.Agreed := by
  intro leftEmpty rightEmpty
  exact Aligned.of_quiet leftEmpty rightEmpty synchronized.inStep

theorem Synchronized.step {event : ExchangeEvent}
    (synchronized : connection.Synchronized)
    (uncrossed : connection.Uncrossed event) :
    (connection.step event).Synchronized := by
  obtain ⟨inStep, leftKept, rightKept⟩ := synchronized
  cases event with
  | request side mtu =>
    cases side with
    | left =>
      have kept := @Peer.withdrawn_exchangeInfoReq _ connection.right mtu
        leftKept
      exact ⟨inStep.exchangeInfoReq uncrossed, kept.1,
        kept.2.trans rightKept⟩
    | right =>
      have kept := @Peer.withdrawn_exchangeInfoReq _ connection.left mtu
        rightKept
      exact ⟨(inStep.symm.exchangeInfoReq uncrossed).symm,
        kept.2.trans leftKept, kept.1⟩
  | deliver side =>
    cases side with
    | left =>
      exact ⟨inStep.recv leftKept, Peer.withdrawn_recv.1.trans leftKept,
        Peer.withdrawn_recv.2.trans rightKept⟩
    | right =>
      exact ⟨(inStep.symm.recv rightKept).symm,
        Peer.withdrawn_recv.2.trans leftKept,
        Peer.withdrawn_recv.1.trans rightKept⟩
  | deregister side =>
    have still : connection.step (.deregister side) = connection := by
      cases side <;> rw [Connection.step, act, Peer.deregister_idle uncrossed]
    rw [still]
    exact ⟨inStep, leftKept, rightKept⟩
  | timeout side =>
    have still : connection.step (.timeout side) = connection := by
      cases side <;> rw [Connection.step, act, Peer.timeout_idle uncrossed]
    rw [still]
    exact ⟨inStep, leftKept, rightKept⟩

end Connection

end NearLink.Ssap
