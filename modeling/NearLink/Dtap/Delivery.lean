import NearLink.Dtap.ReceivingEnd
import NearLink.Dtap.SendingEnd
import NearLink.SelectiveRepeat

/-!
# Delivery over lossy links

A sending and a receiving channel joined by two links that lose frames but
neither reorder nor forge them.  In every interleaving of sends, arrivals,
losses and timer expiries, what the receiver hands up is a prefix of what the
sender has framed.
-/

namespace NearLink.Dtap

open Sdf Channel SelectiveRepeat Transition
open List hiding getElem?_eq_some_iff

structure Setting where
  senderConf : Conf
  receiverConf : Conf
  window : UInt8
  senderEnv : Env
  receiverEnv : Env
  senderRegistry : Registry
  receiverRegistry : Registry

/-- Both channels and the buffers in flight, the next to arrive first. -/
structure System where
  sender : Channel
  receiver : Channel
  toReceiver : List Bytes := []
  toSender : List Bytes := []

def sentSince (old new : Channel) : List Bytes :=
  new.host.out.drop old.host.out.length

namespace System

inductive Event where
  | send (pi : UInt8) (data : Bytes)
  | retransTimer
  | senderRspTimer
  | rspTimer
  | reorderTimer
  | frameArrives
  | ackArrives
  | loseFrame (index : Nat)
  | loseAck (index : Nat)

def initial (setting : Setting) : System :=
  { sender := reliableChannelCreate setting.senderConf setting.window
    receiver := reliableChannelCreate setting.receiverConf setting.window }

def moveSender (system : System) (sender : Channel) : System :=
  { system with
    sender := sender
    toReceiver := system.toReceiver ++ sentSince system.sender sender }

/-- The receiver goes to a new state; what it sends enters the link. -/
def moveReceiver (system : System) (receiver : Channel) : System :=
  { system with
    receiver := receiver
    toSender := system.toSender ++ sentSince system.receiver receiver }

def step (setting : Setting) (system : System) : Event → System
  | .send pi data =>
    system.moveSender (system.sender.dataSend setting.senderEnv pi.toNat data).2
  | .retransTimer =>
    system.moveSender (system.sender.retransTimerExpireProc setting.senderEnv)
  | .senderRspTimer =>
    system.moveSender (system.sender.rspTimerExpireProc setting.senderEnv)
  | .rspTimer =>
    system.moveReceiver (system.receiver.rspTimerExpireProc setting.receiverEnv)
  | .reorderTimer =>
    system.moveReceiver
      (system.receiver.reorderTimerExpireProc setting.receiverEnv)
  | .frameArrives =>
    match system.toReceiver with
    | [] => system
    | buff :: rest =>
      { system with toReceiver := rest }.moveReceiver
        (system.receiver.dataRecvFrame setting.receiverEnv
          setting.receiverRegistry (arrivingBuff buff))
  | .ackArrives =>
    match system.toSender with
    | [] => system
    | buff :: rest =>
      { system with toSender := rest }.moveSender
        (system.sender.dataRecvFrame setting.senderEnv
          setting.senderRegistry (arrivingBuff buff))
  | .loseFrame index =>
    { system with toReceiver := system.toReceiver.eraseIdx index }
  | .loseAck index => { system with toSender := system.toSender.eraseIdx index }

end System

theorem sentSince_of_out {old new : Channel} {sent : List Bytes}
    (out : new.host.out = old.host.out ++ sent) :
    sentSince old new = sent := by
  unfold sentSince
  rw [out, drop_left]

def AckAt (conf : Conf) (ack : Nat) (buff : Bytes) : Prop :=
  ∃ fBit sBit, buff = ackWire conf.crcInit conf.dstTcid fBit sBit (seqOf ack)

/-- The response timer of the sending end puts acknowledgements between the
data frames. -/
def StrayAck (conf : Conf) (buff : Bytes) : Prop :=
  ∃ fBit reqSeq, buff = ackWire conf.crcInit conf.dstTcid fBit false reqSeq

section Links

variable {conf : Conf} {history : List Item} {start : Nat}
  {old middle new : Channel} {buffs : List Bytes} {data acks : List Nat}

theorem Sends.enter (sends : Sends conf history start old new)
    (link : OnLink (StrayAck conf) (WiredAt conf history) buffs data) :
    ∃ items, (∀ item ∈ items, start ≤ item ∧ item < history.length) ∧
      OnLink (StrayAck conf) (WiredAt conf history)
        (buffs ++ sentSince old new) (data ++ items) := by
  obtain ⟨sent, out, wired⟩ := sends
  have inside : ∀ buff ∈ sent, ∃ position,
      (start ≤ position ∧ position < history.length) ∧
        WiredAt conf history position buff := by
    intro buff member
    obtain ⟨position, above, item, polled, found, bytes⟩ := wired buff member
    exact ⟨position, ⟨above, (getElem?_eq_some_iff.mp found).1⟩, item,
      polled, found, bytes⟩
  obtain ⟨items, ranges, _, linked⟩ := OnLink.of_forall (StrayAck conf) inside
  refine ⟨items, ranges, ?_⟩
  rw [sentSince_of_out out]
  exact link.append linked

theorem Sends.sentSince_trans {longer : List Item} {later : Nat}
    (early : Sends conf history start old middle)
    (late : Sends conf longer later middle new) :
    sentSince old new = sentSince old middle ++ sentSince middle new := by
  obtain ⟨first, firstOut, _⟩ := early
  obtain ⟨second, secondOut, _⟩ := late
  rw [sentSince_of_out firstOut, sentSince_of_out secondOut]
  apply sentSince_of_out
  rw [secondOut, firstOut, append_assoc]

theorem Replies.enter {expected : Nat} (answers : Replies conf expected old new)
    (link : OnLink (fun _ => False) (AckAt conf) buffs acks) :
    ∃ count, OnLink (fun _ => False) (AckAt conf) (buffs ++ sentSince old new)
      (acks ++ List.replicate count expected) := by
  obtain ⟨sent, out, wire⟩ := answers
  have named : ∀ buff ∈ sent, ∃ position, position = expected ∧
      AckAt conf position buff :=
    fun buff member => ⟨expected, rfl, wire buff member⟩
  obtain ⟨positions, same, length, linked⟩ :=
    OnLink.of_forall (fun _ => False) named
  refine ⟨sent.length, ?_⟩
  rw [sentSince_of_out out, ← length, ← eq_replicate_of_mem same]
  exact link.append linked

end Links

namespace System

/-- The counters of both ends, the frames queued at both ends and the frames
in flight belong to one history. -/
structure Joint (setting : Setting) (state : State) (history : List Item)
    (system : System) : Prop where
  invariant : Invariant (initial setting).sender.txWindow.size state
  sent_eq : state.sent = history.length
  sending : SendingEnd (initial setting).sender.conf
    (initial setting).sender.txWindow.size state.acked history system.sender
  receiving : ReceivingEnd (initial setting).sender.conf
    (initial setting).receiver.conf history state.expected state.highest
    system.receiver
  toReceiver : OnLink (StrayAck (initial setting).sender.conf)
    (WiredAt (initial setting).sender.conf history) system.toReceiver
    state.data
  toSender : OnLink (fun _ => False) (AckAt (initial setting).receiver.conf)
    system.toSender state.acks

variable {setting : Setting} {state : State} {history : List Item}
  {system : System}

theorem Joint.initial (setting : Setting) :
    Joint setting {} [] (System.initial setting) :=
  { invariant := .initial _
    sent_eq := rfl
    sending := .created _ _
    receiving := .created _ _ _
    toReceiver := .nil
    toSender := .nil }

section

variable (joint : Joint setting state history system) {items : List Item}
  {sender receiver : Channel} {rest : List Bytes}
include joint

theorem Joint.send (sending : SendingEnd (System.initial setting).sender.conf
      (System.initial setting).sender.txWindow.size state.acked
      (history ++ items) sender)
    (sends : Sends (System.initial setting).sender.conf (history ++ items)
      state.acked system.sender sender) : ∃ data, Joint setting
      { state with sent := state.sent + items.length
                   data := state.data ++ data }
      (history ++ items) (system.moveSender sender) := by
  have room : state.sent + items.length ≤
      state.acked + (System.initial setting).sender.txWindow.size := by
    have length := sending.length_eq
    have within := sending.shape.window.within
    rw [sending.size_eq] at within
    rw [length_append, ← joint.sent_eq] at length
    omega
  have longer := joint.toReceiver.mono fun _ _ wired =>
    WiredAt.extend wired items
  obtain ⟨data, ranges, linked⟩ := sends.enter longer
  have pending : ∀ item ∈ data,
      state.acked ≤ item ∧ item < state.sent + items.length := by
    intro item member
    have range := ranges item member
    rw [length_append, ← joint.sent_eq] at range
    exact range
  exact ⟨data,
    { invariant := (joint.invariant.extend room).emit pending
      sent_eq := by rw [length_append, joint.sent_eq]
      sending := sending
      receiving := joint.receiving.extend items
      toReceiver := linked
      toSender := joint.toSender }⟩

theorem Joint.answer
    (receiving : ReceivingEnd (System.initial setting).sender.conf
      (System.initial setting).receiver.conf history state.expected
      state.highest receiver)
    (answers : Replies (System.initial setting).receiver.conf state.expected
      system.receiver receiver) : ∃ count, Joint setting
      { state with
        acks := state.acks ++ List.replicate count state.expected }
      history (system.moveReceiver receiver) := by
  obtain ⟨count, linked⟩ := answers.enter joint.toSender
  exact ⟨count,
    { joint with
      invariant := joint.invariant.answer count
      receiving := receiving
      toSender := linked }⟩

theorem Joint.receive {data : List Nat} {expected highest : Nat}
    (linked : OnLink (StrayAck (System.initial setting).sender.conf)
      (WiredAt (System.initial setting).sender.conf history) rest data)
    (invariant : Invariant (System.initial setting).sender.txWindow.size
      { state with expected := expected, highest := highest, data := data })
    (receiving : ReceivingEnd (System.initial setting).sender.conf
      (System.initial setting).receiver.conf history expected highest
      receiver)
    (answers : Replies (System.initial setting).receiver.conf expected
      system.receiver receiver) : ∃ state, Joint setting state history
      ({ system with toReceiver := rest }.moveReceiver receiver) := by
  obtain ⟨count, answered⟩ := answers.enter joint.toSender
  exact ⟨_,
    { invariant := invariant.answer count
      sent_eq := joint.sent_eq
      sending := joint.sending
      receiving := receiving
      toReceiver := linked
      toSender := answered }⟩

theorem Joint.frameArrives
    (cooperative : Cooperative setting.receiverEnv setting.receiverRegistry) :
    ∃ state, Joint setting state history
      (system.step setting .frameArrives) := by
  unfold step
  dsimp only
  split
  · exact ⟨state, joint⟩
  next buff rest arrival =>
    have toReceiver := joint.toReceiver
    rw [arrival] at toReceiver
    generalize inFlight : state.data = data at toReceiver
    cases toReceiver with
    | @item position _ _ behind carried linked =>
      obtain ⟨item, polled, found, rfl⟩ := carried
      have near := @joint.invariant.near _ _ position (by simp [inFlight])
      have size := joint.sending.shape.window.size_le
      rw [joint.sending.size_eq] at size
      have outcome := joint.receiving.dataRecvFrame cooperative
        (fun item member => joint.sending.bounded member) found polled
        (by omega)
      cases outcome with
      | ignored kept silent =>
        have lost := joint.invariant.lose
          (inFlight ▸ sublist_cons_self position behind)
          (List.Sublist.refl state.acks)
        exact joint.receive linked lost kept silent
      | taken later raised bound after answers =>
        have received := joint.invariant.receive inFlight raised bound
        exact joint.receive linked received after answers
    | stray foreign linked =>
      obtain ⟨fBit, reqSeq, rfl⟩ := foreign
      obtain ⟨kept, silent⟩ := joint.receiving.dataRecvAck
        setting.receiverEnv setting.receiverRegistry fBit reqSeq
      exact joint.receive (inFlight ▸ linked) joint.invariant kept silent

theorem Joint.acknowledge {ack later : Nat} {behind : List Nat}
    {middle : Channel} (inFlight : state.acks = ack :: behind)
    (linked : OnLink (fun _ => False)
      (AckAt (System.initial setting).receiver.conf) rest behind)
    (acknowledged : SendingEnd.Acknowledged (System.initial setting).sender.conf
      (System.initial setting).sender.txWindow.size state.acked ack history
      items later system.sender middle sender) :
    ∃ state, Joint setting state (history ++ items)
      ({ system with toSender := rest }.moveSender sender) := by
  let size := (System.initial setting).sender.txWindow.size
  obtain ⟨resent, resentRange, resentLink⟩ :=
    acknowledged.resent.enter joint.toReceiver
  obtain ⟨flushed, flushedRange, flushedLink⟩ :=
    acknowledged.flushed.enter (resentLink.mono fun _ _ wired =>
      WiredAt.extend wired items)
  have emitted : Invariant size { state with data := state.data ++ resent } :=
    joint.invariant.emit (by rw [joint.sent_eq]; exact resentRange)
  have moved : Invariant size
      { state with
        acked := later
        data := state.data ++ resent
        acks := behind } := by
    rcases acknowledged.moved with rfl | rfl
    · exact emitted.lose (List.Sublist.refl _)
        (inFlight ▸ sublist_cons_self ack behind)
    · exact emitted.acknowledge inFlight
  have room : state.sent + items.length ≤ later + size := by
    have length := acknowledged.sending.length_eq
    have within := acknowledged.sending.shape.window.within
    rw [acknowledged.sending.size_eq] at within
    rw [length_append, ← joint.sent_eq] at length
    omega
  rw [length_append, ← joint.sent_eq] at flushedRange
  refine ⟨_,
    { invariant := (moved.extend room).emit flushedRange
      sent_eq := by rw [length_append, ← joint.sent_eq]
      sending := acknowledged.sending
      receiving := joint.receiving.extend items
      toReceiver := ?_
      toSender := linked }⟩
  change OnLink _ _ (system.toReceiver ++ sentSince system.sender sender) _
  rw [acknowledged.resent.sentSince_trans acknowledged.flushed, ← append_assoc]
  exact flushedLink

theorem Joint.ackArrives : ∃ state history, Joint setting state history
      (system.step setting .ackArrives) := by
  unfold step
  dsimp only
  split
  · exact ⟨state, history, joint⟩
  next buff rest arrival =>
    have toSender := joint.toSender
    rw [arrival] at toSender
    generalize inFlight : state.acks = acks at toSender
    cases toSender with
    | @item ack _ _ behind carried linked =>
      obtain ⟨fBit, sBit, rfl⟩ := carried
      have range := @joint.invariant.ack_range _ _ ack (by simp [inFlight])
      rw [joint.sent_eq] at range
      have parsing := parseFrame_ackWire
        (System.initial setting).receiver.conf.crcInit
        (System.initial setting).receiver.conf.dstTcid fBit sBit (seqOf ack)
      have outcome : ∃ items later middle, SendingEnd.Acknowledged
          (System.initial setting).sender.conf
          (System.initial setting).sender.txWindow.size state.acked ack
          history items later system.sender middle
          (system.sender.dataRecvFrame setting.senderEnv
            setting.senderRegistry (arrivingBuff (ackWire
              (System.initial setting).receiver.conf.crcInit
              (System.initial setting).receiver.conf.dstTcid fBit sBit
              (seqOf ack)))) := by
        unfold dataRecvFrame
        split
        · exact ⟨[], state.acked, system.sender, .of_out rfl, .inl rfl,
            (append_nil history).symm ▸ joint.sending, .of_out rfl⟩
        next frame accepted =>
          obtain ⟨rfl, _⟩ := acceptFrame_parsed parsing accepted
          exact joint.sending.acknowledge _ rfl (Nat.mod_mod ack 16384) range
      obtain ⟨items, later, middle, acknowledged⟩ := outcome
      obtain ⟨state, after⟩ :=
        joint.acknowledge inFlight linked acknowledged
      exact ⟨state, _, after⟩
    | stray foreign linked => exact foreign.elim

theorem Joint.senderRspTimer :
    Joint setting state history (system.step setting .senderRspTimer) := by
  obtain ⟨sent, out, wire⟩ := sendAckFrame_wire setting.senderEnv
    system.sender false false
  have core := @rspTimerExpireProc_core setting.senderEnv system.sender
  have strays : OnLink (StrayAck (System.initial setting).sender.conf)
      (WiredAt (System.initial setting).sender.conf history) sent [] := by
    rw [joint.sending.conf_eq] at wire
    clear out
    induction sent with
    | nil => exact .nil
    | cons buff rest induction =>
      exact .stray ⟨false, _, wire buff mem_cons_self⟩
        (induction fun other member =>
          wire other (.tail _ member))
  refine
    { joint with
      sending := joint.sending.of_sender (sender_of_core core)
        (receiver_of_core core)
      toReceiver := ?_ }
  have linked := joint.toReceiver.append strays
  rw [append_nil] at linked
  change OnLink _ _ (system.toReceiver ++ sentSince system.sender
    (system.sender.sendAckFrame setting.senderEnv false false).2) _
  rw [sentSince_of_out out]
  exact linked

theorem Joint.step
    (cooperative : Cooperative setting.receiverEnv setting.receiverRegistry)
    (event : Event) : ∃ state history, Joint setting state history
      (system.step setting event) := by
  cases event with
  | send pi data =>
    obtain ⟨items, sending, sends⟩ :=
      joint.sending.dataSend setting.senderEnv pi data
    obtain ⟨positions, after⟩ := joint.send sending sends
    exact ⟨_, _, after⟩
  | retransTimer =>
    obtain ⟨sending, sends⟩ := joint.sending.retransTimer setting.senderEnv
    rw [← append_nil history] at sending sends
    obtain ⟨positions, after⟩ := joint.send sending sends
    exact ⟨_, _, after⟩
  | senderRspTimer => exact ⟨state, history, joint.senderRspTimer⟩
  | rspTimer =>
    obtain ⟨receiving, answers⟩ :=
      joint.receiving.rspTimer setting.receiverEnv
    obtain ⟨count, after⟩ := joint.answer receiving answers
    exact ⟨_, history, after⟩
  | reorderTimer =>
    obtain ⟨receiving, answers⟩ :=
      joint.receiving.reorderTimer setting.receiverEnv
    obtain ⟨count, after⟩ := joint.answer receiving answers
    exact ⟨_, history, after⟩
  | frameArrives =>
    obtain ⟨state, after⟩ := joint.frameArrives cooperative
    exact ⟨state, history, after⟩
  | ackArrives => exact joint.ackArrives
  | loseFrame index =>
    obtain ⟨data, fewer, linked⟩ := joint.toReceiver.lose
      (eraseIdx_sublist system.toReceiver index)
    exact ⟨{ state with data := data }, history,
      { joint with
        invariant := joint.invariant.lose fewer (.refl _)
        toReceiver := linked }⟩
  | loseAck index =>
    obtain ⟨acks, fewer, linked⟩ := joint.toSender.lose
      (eraseIdx_sublist system.toSender index)
    exact ⟨{ state with acks := acks }, history,
      { joint with
        invariant := joint.invariant.lose (.refl _) fewer
        toSender := linked }⟩

theorem Joint.delivered :
    system.receiver.host.messages <+: system.sender.framed := by
  have handed := congrArg Prod.snd joint.receiving.assembled.2
  change system.receiver.host.messages = _ at handed
  rw [handed, joint.sending.framed]
  by_cases empty : system.sender.framed = []
  · rw [empty, flatMap_nil, take_nil]
    exact prefix_refl []
  · have room := joint.sending.room empty
    exact assemble_prefix (by omega) joint.sending.valid _

theorem Joint.handed {early late : List Message}
    (split : system.sender.framed = early ++ late)
    (gone : system.sender.txWindow.txList.length ≤ (late.flatMap (messageItems
      ((System.initial setting).sender.conf.mps - 9))).length) :
    early <+: system.receiver.host.messages := by
  have handed := congrArg Prod.snd joint.receiving.assembled.2
  change system.receiver.host.messages = _ at handed
  by_cases empty : system.sender.framed = []
  · rw [split, append_eq_nil_iff] at empty
    rw [empty.1]
    exact nil_prefix
  have positive := Nat.sub_pos_of_lt (joint.sending.room empty)
  have valid := joint.sending.valid
  have framed := joint.sending.framed
  have length := joint.sending.length_eq
  rw [split] at valid framed
  generalize (System.initial setting).sender.conf.mps - 9 = mps at *
  rw [flatMap_append] at framed
  rw [framed, length_append] at length
  -- the receiver is past all that has left the window
  have past : (early.flatMap (messageItems mps)).length ≤ state.expected := by
    have acked := joint.invariant.acked_le
    omega
  obtain ⟨frags, completed, _, rest⟩ := @assemble_stream mps early positive
    late (fun message member => valid message (mem_append_right _ member))
    (state.expected - (early.flatMap (messageItems mps)).length)
  have whole := @assemble_messages mps [] positive early fun message member =>
    valid message (mem_append_left _ member)
  rw [handed, framed, take_append, take_of_length_le past]
  unfold assemble
  rw [foldl_append, whole, nil_append, rest]
  exact prefix_append early completed

end

theorem joint_of_run (setting : Setting)
    (cooperative : Cooperative setting.receiverEnv setting.receiverRegistry)
    (events : List Event) : ∃ state history, Joint setting state history
      (run (System.step setting) (initial setting) events) := by
  have preserved (system : System) (event : Event)
      (joint : ∃ state history, Joint setting state history system) :
      ∃ state history, Joint setting state history
        (system.step setting event) := by
    obtain ⟨state, history, joint⟩ := joint
    exact joint.step cooperative event
  have start : ∃ state history, Joint setting state history
      (initial setting) := ⟨{}, [], Joint.initial setting⟩
  exact run_invariant_of_step preserved start events

/-- Reliable delivery: in every run, of any length, the SDUs handed to the
receive callback are a prefix of the messages whose fragments the sender has
queued. -/
theorem delivered_of_run (setting : Setting)
    (cooperative : Cooperative setting.receiverEnv setting.receiverRegistry)
    (events : List Event) :
    (run (System.step setting) (initial setting)
        events).receiver.host.messages <+:
      (run (System.step setting) (initial setting) events).sender.framed := by
  obtain ⟨state, history, joint⟩ := joint_of_run setting cooperative events
  exact joint.delivered

def plainSetting : Setting :=
  { senderConf := plainConf, receiverConf := plainConf, window := 4
    senderEnv := plainEnv, receiverEnv := plainEnv
    senderRegistry := takesAll, receiverRegistry := takesAll }

theorem plainSetting_cooperative :
    Cooperative plainSetting.receiverEnv plainSetting.receiverRegistry :=
  { allocates := fun _ => rfl
    registered := fun _ => rfl
    takes := by
      rintro pi callback ⟨⟩ calls info sdu
      exact nofun }

/-- Two messages whose first frame is lost and sent again. -/
def lossyRun : List Event :=
  [.send 1 [7], .send 1 [8], .loseFrame 0, .frameArrives, .retransTimer,
    .frameArrives]

theorem delivered_of_lossyRun :
    (run (System.step plainSetting) (initial plainSetting)
        lossyRun).receiver.host.messages = [⟨1, [7]⟩, ⟨1, [8]⟩] ∧
      (run (System.step plainSetting) (initial plainSetting)
          lossyRun).receiver.host.messages <+:
        (run (System.step plainSetting) (initial plainSetting)
          lossyRun).sender.framed :=
  ⟨by decide, delivered_of_run plainSetting plainSetting_cooperative
    lossyRun⟩

/-- Nothing is given up: in every run the messages with no fragment left in
the transmit window have all been handed up. -/
theorem handed_of_run (setting : Setting)
    (cooperative : Cooperative setting.receiverEnv setting.receiverRegistry)
    (events : List Event) (early late : List Message)
    (split : (run (System.step setting) (initial setting)
      events).sender.framed = early ++ late)
    (gone : (run (System.step setting) (initial setting)
        events).sender.txWindow.txList.length ≤
      (late.flatMap (messageItems (setting.senderConf.mps - 9))).length) :
    early <+: (run (System.step setting) (initial setting)
      events).receiver.host.messages := by
  obtain ⟨state, history, joint⟩ := joint_of_run setting cooperative events
  exact joint.handed split gone

def ackedRun : List Event := lossyRun ++ [.ackArrives, .ackArrives]

theorem handed_of_ackedRun :
    [⟨1, [7]⟩, ⟨1, [8]⟩] <+: (run (System.step plainSetting)
      (initial plainSetting) ackedRun).receiver.host.messages :=
  handed_of_run plainSetting plainSetting_cooperative ackedRun
    [⟨1, [7]⟩, ⟨1, [8]⟩] [] (by decide) (by decide)

end System

end NearLink.Dtap
