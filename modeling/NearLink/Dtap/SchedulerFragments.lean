import NearLink.Dtap.SchedulerSettle

/-!
# Packets on a link

The fragments of one packet follow each other on their link, with nothing in
between, as long as no packet is cut short.  The fragments that find no credit
are saved, and the link has no credit for other packets until they are sent.
A packet is cut short when the device layer refuses one of its fragments while
it is being split, when its last fragments cannot be saved, and when a channel
of its link is closed while they are saved.
-/

namespace NearLink.Dtap

open Sdf Dli Keyed Transition
open List hiding lookup

structure SplitPacket where
  bufferLen : Nat
  data : Bytes

namespace SplitPacket

def fragments (lcid : Nat) (packet : SplitPacket) : List Fragment :=
  packetFragments lcid packet.bufferLen packet.data

structure Proper (given : Nat → Bytes → Prop) (lcid : Nat)
    (packet : SplitPacket) : Prop where
  given : given lcid packet.data
  counted : 0 < getDataFragmentNums packet.bufferLen packet.data
  framed : Framed (packet.fragments lcid)

end SplitPacket

/-- The fragments sent on a link are those of whole packets, one packet after
the other, and the first ones of a packet whose others are saved. -/
def InPackets (given : Nat → Bytes → Prop) (lcid : Nat)
    (sent saved : List Fragment) : Prop :=
  ∃ (complete : List SplitPacket) (begun : List Fragment),
    sent = complete.flatMap (·.fragments lcid) ++ begun ∧
    (∀ packet ∈ complete, packet.Proper given lcid) ∧
    (begun = [] ∧ saved = [] ∨
      saved ≠ [] ∧ ∃ current : SplitPacket, current.Proper given lcid ∧
        current.fragments lcid = begun ++ saved)

section

variable {given : Nat → Bytes → Prop} {lcid : Nat}
  {sent saved begun taken left : List Fragment} {complete : List SplitPacket}

theorem inPackets_nil (given : Nat → Bytes → Prop) (lcid : Nat) :
    InPackets given lcid [] [] :=
  ⟨[], [], rfl, nofun, .inl ⟨rfl, rfl⟩⟩

theorem InPackets.extend {current : SplitPacket}
    (proper : ∀ packet ∈ complete, packet.Proper given lcid)
    (next : current.Proper given lcid)
    (parts : current.fragments lcid = begun ++ taken ++ left) :
    InPackets given lcid
      (complete.flatMap (·.fragments lcid) ++ begun ++ taken) left := by
  by_cases empty : left = []
  · subst empty
    refine ⟨complete ++ [current], [], ?_, ?_, .inl ⟨rfl, rfl⟩⟩
    · simp [parts]
    · exact forall_mem_append.mpr ⟨proper, forall_mem_singleton.mpr next⟩
  · exact ⟨complete, begun ++ taken, append_assoc _ _ _, proper,
      .inr ⟨empty, current, next, parts⟩⟩

theorem InPackets.resume {fragment : Fragment}
    (ordered : InPackets given lcid sent (fragment :: saved)) :
    InPackets given lcid (sent ++ [fragment]) saved := by
  obtain ⟨complete, begun, rfl, proper, rest⟩ := ordered
  rcases rest with ⟨-, none⟩ | ⟨-, current, next, parts⟩
  · cases none
  · apply InPackets.extend proper next
    rw [parts, append_assoc, singleton_append]

theorem InPackets.start {packet : SplitPacket}
    (ordered : InPackets given lcid sent []) (next : packet.Proper given lcid)
    (parts : packet.fragments lcid = taken ++ left) :
    InPackets given lcid (sent ++ taken) left := by
  obtain ⟨complete, begun, rfl, proper, rest⟩ := ordered
  rcases rest with ⟨rfl, -⟩ | ⟨some, -⟩
  · exact InPackets.extend proper next parts
  · exact absurd rfl some

theorem unfinished_of_framed {rest : List Fragment}
    (framed : Framed (begun ++ rest)) (unsent : rest ≠ []) : ∀ fragment ∈ begun,
      fragment.pdFlag = .first ∨ fragment.pdFlag = .middle := by
  intro fragment member
  have inside : fragment.pdFlag ∈
      ((begun ++ rest).map (·.pdFlag)).dropLast := by
    rw [map_append, dropLast_append_of_ne_nil (by simpa using unsent)]
    exact mem_append_left _ (mem_map_of_mem member)
  rcases framed with full | ⟨middles, tags⟩
  · rw [full] at inside
    cases inside
  · rw [tags, ← cons_append, dropLast_concat] at inside
    rcases mem_cons.mp inside with first | middle
    · exact .inl first
    · exact .inr (eq_of_mem_replicate middle)

theorem rebuild_complete
    (short : ∀ buff, given lcid buff → buff.length ≤ maxPacketLen)
    (proper : ∀ packet ∈ complete, packet.Proper given lcid)
    (unfinished : ∀ fragment ∈ begun,
      fragment.pdFlag = .first ∨ fragment.pdFlag = .middle) :
    rebuild none (complete.flatMap (·.fragments lcid) ++ begun) =
      complete.map (·.data) := by
  induction complete with
  | nil => exact rebuild_unfinished unfinished none
  | cons packet complete induction =>
    have good := proper packet (by simp)
    have own : rebuild none (packet.fragments lcid) = [packet.data] ∧
        rebuildNode none (packet.fragments lcid) = none :=
      rebuild_packetFragments lcid good.counted (short packet.data good.given)
    rw [flatMap_cons, append_assoc, rebuild_append, own.1, own.2]
    exact congrArg _ (induction fun other member =>
      proper other (.tail _ member))

end

namespace LcidNode

variable {node : LcidNode} {srcTcid : Nat} {packet : PendingPacket}
  (formed : node.Formed .fragment)
include formed

theorem Formed.single : node.channelList = [] ∨
      ∃ pktList, node.channelList = [{ srcTcid := fragmentTcid, pktList }] := by
  have named := formed.alone rfl
  have unique := formed.channels
  rcases list : node.channelList with _ | ⟨first, _ | ⟨second, others⟩⟩
  · exact .inl rfl
  · rw [list] at named
    right
    refine ⟨first.pktList, ?_⟩
    rw [← named first (by simp)]
  · rw [list] at named unique
    have same : first.srcTcid = second.srcTcid := by
      rw [named first (by simp), named second (by simp)]
    simp [same] at unique

theorem Formed.packets_popped
    (peeked : Scheduler.priorityQueuePeek node = some (srcTcid, packet)) :
    node.packets = packet :: (node.popped srcTcid).packets := by
  obtain ⟨rest, found⟩ := formed.peek peeked
  rcases formed.single with none | ⟨pktList, alone⟩
  · rw [none] at found
    cases found
  · rw [alone] at found
    have member := lookup_mem found
    simp only [mem_singleton, ChannelNode.mk.injEq] at member
    obtain ⟨rfl, rfl⟩ := member
    unfold packets LcidNode.popped Scheduler.popChannel
    rw [alone, found]
    by_cases empty : rest = []
    · simp [empty, Keyed.modify]
    · simp [empty, remove]

theorem Formed.packets_admitted (packets : List PendingPacket) :
    (node.admitted fragmentTcid packets).packets = node.packets ++ packets := by
  unfold LcidNode.packets LcidNode.admitted
  rcases formed.single with none | ⟨pktList, alone⟩
  · simp [none, ensure, lookup, Keyed.modify]
  · simp [alone, ensure, lookup, Keyed.modify]

end LcidNode

/-- The fragment of a link that a call of `DLI_DataSend` took. -/
def Trace.sent (lcid : Nat) : Trace → Option Fragment
  | .post call =>
    if call.lcid = lcid ∧ call.accepted = true then some call.fragment
    else none
  | .sub _ _ => none
  | .noPacket => none

namespace Scheduler

variable {answers : Answers} {state next : Scheduler} {priority : Priority}
  {lcid link srcTcid : Nat} {node : LcidNode} {packet : PendingPacket}
  {isSplited : Bool} {fragment : Fragment}

theorem Formed.saved_pop (formed : state.Formed)
    (found : state.getLcidNode .fragment lcid = some node)
    (peeked : priorityQueuePeek node = some (srcTcid, packet)) :
    state.pending .fragment lcid = packet ::
      (state.priorityQueuePop .fragment lcid srcTcid).pending .fragment
        lcid := by
  rw [pending_eq (state.priorityQueuePop .fragment lcid srcTcid),
    linkQueue_pop found]
  unfold pending
  rw [found]
  exact (formed.listed found).packets_popped peeked

theorem Formed.saved_enqueue (formed : state.Formed) (lcid : Nat)
    (packets : List PendingPacket) :
    (state.enqueue .fragment lcid fragmentTcid packets).pending .fragment
      lcid = state.pending .fragment lcid ++ packets := by
  rw [pending_eq (state.enqueue .fragment lcid fragmentTcid packets),
    linkQueue_enqueue]
  unfold pending
  cases found : state.getLcidNode .fragment lcid with
  | none =>
    exact (LcidNode.formed_fresh .fragment lcid).packets_admitted packets
  | some node => exact (formed.listed found).packets_admitted packets

theorem Formed.peek_kind (formed : state.Formed)
    (found : state.getLcidNode priority lcid = some node)
    (peeked : priorityQueuePeek node = some (srcTcid, packet)) :
    packet.isSplited = true ↔ priority = .fragment := by
  have listed := formed.listed found
  obtain ⟨rest, located⟩ := listed.peek peeked
  exact listed.kinds _ (lookup_mem located) packet (by simp)

def sentFragments (state : Scheduler) (lcid : Nat) : List Fragment :=
  state.trace.filterMap (Trace.sent lcid)

theorem sentFragments_note (events : List Trace) (state : Scheduler)
    (lcid : Nat) :
    (state.note events).sentFragments lcid =
      state.sentFragments lcid ++ events.filterMap (Trace.sent lcid) :=
  filterMap_append

@[simp] theorem sentFragments_pop (priority : Priority)
    (lcid srcTcid : Nat) (state : Scheduler) :
    (state.priorityQueuePop priority lcid srcTcid).sentFragments =
      state.sentFragments := by
  funext link
  unfold priorityQueuePop
  rw [sentFragments_note]
  exact append_nil _

theorem sentFragments_accepted
    (accepted : answers.dataSend isSplited state.clock = true) (lcid : Nat) :
    (state.sendData answers isSplited lcid fragment).2.sentFragments lcid =
      state.sentFragments lcid ++ [fragment] := by
  unfold sendData
  rw [sentFragments_note]
  simp [Trace.sent, accepted]

theorem sentFragments_refused
    (refusal : answers.dataSend isSplited state.clock = false) (lcid : Nat)
    (fragment : Fragment) :
    (state.sendData answers isSplited lcid fragment).2.sentFragments =
      state.sentFragments := by
  funext link
  unfold sendData
  rw [sentFragments_note]
  simp [Trace.sent, refusal]

theorem sentFragments_other (differs : link ≠ lcid) :
    (state.sendData answers isSplited lcid fragment).2.sentFragments link =
      state.sentFragments link := by
  unfold sendData
  rw [sentFragments_note]
  simp [Trace.sent, differs.symm]

theorem sendFragments_sent (answers : Answers) (lcid : Nat)
    (fragments : List Fragment) (state : Scheduler) :
    let sent := state.sendFragments answers lcid fragments
    ∃ taken, fragments = taken ++ sent.1 ∧
      sent.2.sentFragments lcid = state.sentFragments lcid ++ taken ∧
      (∀ link, link ≠ lcid →
        sent.2.sentFragments link = state.sentFragments link) ∧
      sent.2.pdFlag = state.pdFlag := by
  induction fragments generalizing state with
  | nil => exact ⟨[], rfl, (append_nil _).symm, fun _ _ => rfl, rfl⟩
  | cons fragment fragments induction =>
    unfold sendFragments
    dsimp only
    split
    · split
      next accepted =>
        obtain ⟨taken, split, own, others, flag⟩ := induction
          ((state.sendData answers false lcid fragment).2.takeCredit lcid)
        refine ⟨fragment :: taken, by rw [cons_append, ← split], ?_,
          ?_, flag⟩
        · rw [own, append_cons, ← sentFragments_accepted accepted]
          rfl
        · intro link differs
          rw [others link differs]
          exact sentFragments_other differs
      next refusal =>
        have unsent := sentFragments_refused
          (Bool.not_eq_true _ ▸ refusal) lcid fragment
        exact ⟨[], rfl, by rw [unsent, append_nil],
          fun link _ => by rw [unsent], rfl⟩
    · exact ⟨[], rfl, (append_nil _).symm, fun _ _ => rfl, rfl⟩

/-- The fragments of every link come packet by packet.  Nothing comes between
the fragments of one packet, and the peer rebuilds the packets that are
complete. -/
def Contiguous (given : Nat → Bytes → Prop) (state : Scheduler) : Prop :=
  ∀ lcid, ∃ (complete : List SplitPacket) (begun : List Fragment),
    state.sentFragments lcid = complete.flatMap (·.fragments lcid) ++ begun ∧
    (∀ packet ∈ complete, packet.Proper given lcid) ∧
    (begun = [] ∨ ∃ (current : SplitPacket) (rest : List Fragment),
      current.Proper given lcid ∧ rest ≠ [] ∧
        current.fragments lcid = begun ++ rest) ∧
    rebuild none (state.sentFragments lcid) = complete.map (·.data)

structure Ordered (given : Nat → Bytes → Prop) (state : Scheduler) :
    Prop where
  formed : state.Formed
  boundary : AtBoundary state.pdFlag
  waiting : ∀ priority lcid buff,
    .whole buff ∈ state.pending priority lcid → given lcid buff
  links : ∀ lcid, ∃ saved, state.pending .fragment lcid = saved.map .splited ∧
      InPackets given lcid (state.sentFragments lcid) saved

variable {given : Nat → Bytes → Prop}

section

variable (ordered : state.Ordered given)
include ordered

theorem Ordered.contiguous {wider : Nat → Bytes → Prop}
    (fits : ∀ lcid buff, given lcid buff →
      wider lcid buff ∧ buff.length ≤ maxPacketLen) :
    state.Contiguous wider := by
  intro lcid
  obtain ⟨saved, -, complete, begun, sent, proper, rest⟩ :=
    ordered.links lcid
  have widen {packet : SplitPacket} (proper : packet.Proper given lcid) :
      packet.Proper wider lcid :=
    ⟨(fits lcid _ proper.given).1, proper.counted, proper.framed⟩
  refine ⟨complete, begun, sent,
    fun packet member => widen (proper packet member), ?_, ?_⟩
  · rcases rest with ⟨none, -⟩ | ⟨unsent, current, next, parts⟩
    · exact .inl none
    · exact .inr ⟨current, saved, widen next, unsent, parts⟩
  · rw [sent]
    apply rebuild_complete (fun buff given => (fits lcid buff given).2) proper
    rcases rest with ⟨rfl, -⟩ | ⟨unsent, current, next, parts⟩
    · exact nofun
    · exact unfinished_of_framed (parts ▸ next.framed) unsent

theorem Ordered.congr (formed : next.Formed) (flag : next.pdFlag = state.pdFlag)
    (queued : next.pending = state.pending)
    (sent : next.sentFragments = state.sentFragments) : next.Ordered given where
  formed
  boundary := flag ▸ ordered.boundary
  waiting := queued ▸ ordered.waiting
  links := by
    rw [queued, sent]
    exact ordered.links

theorem Ordered.moved (formed : next.Formed) (boundary : AtBoundary next.pdFlag)
    (waiting : ∀ priority link buff, .whole buff ∈ next.pending priority link →
        .whole buff ∈ state.pending priority link)
    (saved : ∀ link, link ≠ lcid →
      next.pending .fragment link = state.pending .fragment link)
    (sent : ∀ link, link ≠ lcid →
      next.sentFragments link = state.sentFragments link)
    (own : ∃ saved, next.pending .fragment lcid = saved.map .splited ∧
      InPackets given lcid (next.sentFragments lcid) saved) :
    next.Ordered given where
  formed
  boundary
  waiting priority link buff member :=
    ordered.waiting priority link buff (waiting priority link buff member)
  links link := by
    by_cases same : link = lcid
    · exact same ▸ own
    · rw [saved link same, sent link same]
      exact ordered.links link

theorem Ordered.mark (priority : Priority) (lcid : Nat) :
    (state.markScheduled priority lcid).Ordered given := by
  apply ordered.congr (ordered.formed.mark priority lcid) rfl _ rfl
  funext other link
  rw [pending_eq, linkQueue_mark, ← pending_eq]

theorem Ordered.rotate (priority : Priority) :
    (state.rotateScheduled priority).Ordered given := by
  apply ordered.congr (ordered.formed.rotate priority) rfl _ rfl
  funext other link
  rw [pending_eq, ordered.formed.linkQueue_rotate, ← pending_eq]

end

theorem Formed.waiting_pop (formed : state.Formed)
    (found : state.getLcidNode priority lcid = some node)
    (peeked : priorityQueuePeek node = some (srcTcid, packet))
    (other : Priority) (link : Nat) :
    ∀ later ∈ (state.priorityQueuePop priority lcid srcTcid).pending other
      link, later ∈ state.pending other link := by
  by_cases same : other = priority ∧ link = lcid
  · obtain ⟨rfl, rfl⟩ := same
    exact formed.pending_pop found peeked
  · rw [(onlyLink_pop priority lcid srcTcid state).pending (by tauto)]
    exact fun _ member => member

section

variable (ordered : state.Ordered given)
include ordered

theorem Ordered.roundSaved (can : state.canSend lcid = true) :
    (state.scheduleRound answers .fragment lcid).2.Ordered given := by
  have formed := (kept_formed answers).scheduleRound .fragment lcid
    ordered.formed can
  have outcome := scheduleRound_outcome answers .fragment lcid state
  have notWhole {node : LcidNode} {srcTcid : Nat} {buff : Bytes}
      (found : state.getLcidNode .fragment lcid = some node)
      (peeked : priorityQueuePeek node = some (srcTcid, .whole buff)) :
      False := by
    have kind := (ordered.formed.peek_kind found peeked).mpr rfl
    cases kind
  generalize state.scheduleRound answers .fragment lcid = result
    at formed outcome ⊢
  cases outcome with
  | lost =>
    apply ordered.congr formed rfl rfl
    funext link
    rw [sentFragments_note]
    exact append_nil _
  | @resumed node srcTcid fragment found peeked accepted =>
    obtain ⟨saved, queued, sent⟩ := ordered.links lcid
    have taken := ordered.formed.saved_pop found peeked
    rw [queued] at taken
    obtain ⟨first, later, rfl, same, rest⟩ := map_eq_cons_iff.mp taken
    cases same
    have posted (link : Nat) (differs : link ≠ lcid) :
        ((state.sendData answers true lcid fragment).2.priorityQueuePop
          .fragment lcid srcTcid).sentFragments link =
            state.sentFragments link := by
      rw [sentFragments_pop]
      exact sentFragments_other differs
    apply ordered.moved formed ordered.boundary _ _ posted
    · refine ⟨later, rest.symm, ?_⟩
      change InPackets given lcid (Scheduler.sentFragments
        (priorityQueuePop .fragment lcid srcTcid _) lcid) later
      rw [sentFragments_pop, sentFragments_accepted accepted]
      exact sent.resume
    · intro priority link buff
      exact ordered.formed.waiting_pop found peeked priority link _
    · intro link differs
      exact (onlyLink_pop .fragment lcid srcTcid state).pending (.inr differs)
  | refused found peeked refusal =>
    exact ordered.congr formed rfl rfl (sentFragments_refused refusal lcid _)
  | sent found peeked | saved found peeked | dropped found peeked =>
    exact (notWhole found peeked).elim
  | _ => exact ordered

theorem Ordered.sendPacket {buff : Bytes} {fragments : List Fragment}
    {pdFlag : Option PdFlag} (later : priority ≠ .fragment)
    (found : state.getLcidNode priority lcid = some node)
    (peeked : priorityQueuePeek node = some (srcTcid, .whole buff))
    (split : splitData lcid answers.acbLen
      (getDataFragmentNums answers.acbLen buff) state.pdFlag buff =
        some (fragments, pdFlag)) (idle : state.pending .fragment lcid = []) :
    let sent := ({ state with pdFlag } : Scheduler).sendFragments answers lcid
      fragments
    let popped := sent.2.priorityQueuePop priority lcid srcTcid
    popped.Formed ∧ AtBoundary popped.pdFlag ∧
      (∀ other link, ∀ packet ∈ popped.pending other link,
        packet ∈ state.pending other link) ∧
      (∀ link, popped.pending .fragment link = state.pending .fragment link) ∧
      (∀ link, link ≠ lcid →
        popped.sentFragments link = state.sentFragments link) ∧
      InPackets given lcid (popped.sentFragments lcid) sent.1 := by
  intro sent popped
  obtain ⟨pieces, framed, boundary⟩ := splitData_spec ordered.boundary split
  obtain ⟨taken, parts, own, others, flag⟩ := sendFragments_sent answers lcid
    fragments { state with pdFlag }
  have queues : sent.2.queue = state.queue :=
    sendFragments_queue lcid fragments { state with pdFlag }
  have queued : sent.2.pending = state.pending := by
    unfold pending getLcidNode
    rw [queues]
  have located : sent.2.getLcidNode priority lcid = some node := by
    unfold getLcidNode
    rw [queues]
    exact found
  have formed : sent.2.Formed := (kept_formed answers).sendFragments fragments
    ((kept_formed answers).split pdFlag ordered.formed)
  have only := onlyLink_pop priority lcid srcTcid sent.2
  refine ⟨formed.pop located peeked, ?_, ?_, ?_, ?_, ?_⟩
  · change AtBoundary sent.2.pdFlag
    rw [flag]
    exact boundary
  · intro other link packet member
    rw [← queued]
    exact formed.waiting_pop located peeked other link packet member
  · intro link
    rw [only.pending (.inl later.symm), queued]
  · intro link differs
    rw [sentFragments_pop, others link differs]
    rfl
  · rw [sentFragments_pop, own]
    obtain ⟨saved, none, packets⟩ := ordered.links lcid
    rw [idle] at none
    rw [map_eq_nil_iff.mp none.symm] at packets
    let current : SplitPacket :=
      { bufferLen := answers.acbLen
        data := buff }
    have whole : current.fragments lcid = fragments := pieces.symm
    have proper : current.Proper given lcid :=
      { given := ordered.waiting priority lcid buff
          (ordered.formed.mem_pending_of_peek found peeked)
        counted := splitData_counted split
        framed := whole.symm ▸ framed }
    exact packets.start proper (whole.trans parts)

theorem Ordered.roundWhole (saves : ∀ time, answers.saveAlloc time = true)
    (later : priority ≠ .fragment) (can : state.canSend lcid = true)
    (idle : state.pending .fragment lcid = []) :
    (state.scheduleRound answers priority lcid).2.Ordered given := by
  have formed := (kept_formed answers).scheduleRound priority lcid
    ordered.formed can
  have outcome := scheduleRound_outcome answers priority lcid state
  have notSplited {node : LcidNode} {srcTcid : Nat} {fragment : Fragment}
      (found : state.getLcidNode priority lcid = some node)
      (peeked : priorityQueuePeek node =
        some (srcTcid, .splited fragment)) : False :=
    later ((ordered.formed.peek_kind found peeked).mp rfl)
  generalize state.scheduleRound answers priority lcid = result
    at formed outcome ⊢
  cases outcome with
  | lost =>
    apply ordered.congr formed rfl rfl
    funext link
    rw [sentFragments_note]
    exact append_nil _
  | resumed found peeked | refused found peeked =>
    exact (notSplited found peeked).elim
  | sent found peeked split all =>
    obtain ⟨-, boundary, waiting, saved, others, own⟩ :=
      ordered.sendPacket later found peeked split idle
    apply ordered.moved formed boundary (fun _ _ _ => waiting _ _ _)
      (fun link _ => saved link) others
    rw [all] at own
    exact ⟨[], (saved lcid).trans idle, own⟩
  | saved found peeked split left =>
    obtain ⟨popped, boundary, waiting, saved, others, own⟩ :=
      ordered.sendPacket later found peeked split idle
    have only := onlyLink_enqueue .fragment lcid fragmentTcid
    apply ordered.moved formed boundary _ _ others
    · refine ⟨_, ?_, own⟩
      rw [popped.saved_enqueue, saved lcid, idle, nil_append]
    · intro other link buff member
      apply waiting other link
      by_cases same : other = .fragment ∧ link = lcid
      · obtain ⟨rfl, rfl⟩ := same
        rcases pending_enqueue _ _ _ _ _ _ member with earlier | new
        · exact earlier
        · simp at new
      · rwa [(only _ _).pending (by tauto)] at member
    · intro link differs
      rw [(only _ _).pending (.inr differs), saved link]
  | @dropped _ _ _ _ _ time _ _ _ _ unsaved =>
    rw [saves time] at unsaved
    cases unsaved
  | _ => exact ordered

theorem Ordered.turnSaved (answers : Answers) :
    (state.schedulePriority answers .fragment).2.Ordered given := by
  have round (lcid : Nat) (state : Scheduler) (ordered : state.Ordered given)
      (can : state.canSend lcid = true) :
      (state.scheduleRound answers .fragment lcid).2.Ordered given :=
    ordered.roundSaved can
  have nodes := scheduleNodes_rule round
    (fun lcid _ ordered => ordered.mark .fragment lcid)
    ((state.queue .fragment).lcidList.map (·.lcid)) ordered
  exact nodes.rotate .fragment

end

def Ready (given : Nat → Bytes → Prop) (state : Scheduler) : Prop :=
  state.Ordered given ∧ state.Settled (fun _ => True) .fragment

theorem Ready.turnWhole (ready : state.Ready given) (fresh : answers.TakesFresh)
    (saves : ∀ time, answers.saveAlloc time = true)
    (later : priority ≠ .fragment) :
    (state.schedulePriority answers priority).2.Ready given := by
  have kept := kept_settled fresh (fun _ => True) .fragment
  have round (lcid : Nat) (state : Scheduler) (ready : state.Ready given)
      (can : state.canSend lcid = true) :
      (state.scheduleRound answers priority lcid).2.Ready given :=
    ⟨ready.1.roundWhole saves later can (ready.2 lcid trivial can),
      (kept.scheduleRound priority lcid ⟨ready.1.formed, ready.2⟩ can).2⟩
  have mark (lcid : Nat) (state : Scheduler) (ready : state.Ready given) :
      (state.markScheduled priority lcid).Ready given :=
    ⟨ready.1.mark priority lcid,
      (kept.mark priority lcid ⟨ready.1.formed, ready.2⟩).2⟩
  have nodes := scheduleNodes_rule round mark
    ((state.queue priority).lcidList.map (·.lcid)) ready
  exact ⟨nodes.1.rotate priority,
    (kept.rotate priority ⟨nodes.1.formed, nodes.2⟩).2⟩

theorem Ordered.schedulerRun (ordered : state.Ordered given)
    (fresh : answers.TakesFresh)
    (saves : ∀ time, answers.saveAlloc time = true) :
    (state.schedulerRun answers).Ordered given := by
  have others (state : Scheduler) (ready : state.Ready given) :
      (state.runPriorities answers [.cmd, .high, .normal]).Ordered given := by
    have turn (priority : Priority)
        (member : priority ∈ [Priority.cmd, .high, .normal])
        (state : Scheduler) (ready : state.Ready given) :
        (state.schedulePriority answers priority).2.Ready given :=
      ready.turnWhole fresh saves (by rintro rfl; simp at member)
    exact (runPriorities_rule turn ready).1
  have turn := ordered.turnSaved answers
  have settles := ordered.formed.schedulePriority_settles fresh .fragment
  unfold Scheduler.schedulerRun runPriorities
  split
  · exact ordered
  · split
    next none =>
      exact others state ⟨ordered, ordered.formed.settled_of_empty _ none⟩
    · generalize state.schedulePriority answers .fragment = result
        at turn settles ⊢
      obtain ⟨finished, reached⟩ := result
      cases finished with
      | false => exact turn
      | true => exact others reached ⟨turn, settles rfl⟩

/-- No packet is cut short by the event: the device layer takes the fragments
of a packet that is being split, those that find no credit can be saved, and no
channel of a link is closed while fragments of the link are saved.  A packet
has a length that fits the header of a fragment. -/
def KeepsPackets (state : Scheduler) (input : Input) : Prop :=
  input.answers.TakesFresh ∧ (∀ time, input.answers.saveAlloc time = true) ∧
    match input.event with
    | .dataSend _ _ buff => buff.length ≤ maxPacketLen
    | .channelDown lcid _ => state.pending .fragment lcid = []
    | _ => True

def Given (inputs : List Input) (lcid : Nat) (buff : Bytes) : Prop :=
  ∃ srcTcid answers, (⟨.dataSend lcid srcTcid buff, answers⟩ : Input) ∈ inputs

theorem Ordered.queuePacket {buff : Bytes} {queued : Scheduler}
    (ordered : state.Ordered given) (fits : given lcid buff)
    (done : state.queuePacket answers lcid srcTcid buff = .ok queued) :
    queued.Ordered given := by
  have formed := ordered.formed.admitPacket lcid srcTcid buff
  have later := channelPriority_ne_fragment srcTcid
  have only := onlyLink_enqueue (channelPriority srcTcid) lcid srcTcid
    [.whole buff] state
  have admitted : (state.enqueue (channelPriority srcTcid) lcid srcTcid
      [.whole buff]).Ordered given := by
    refine ⟨formed, ordered.boundary, ?_, ?_⟩
    · intro other link content member
      by_cases same : other = channelPriority srcTcid ∧ link = lcid
      · obtain ⟨rfl, rfl⟩ := same
        rcases pending_enqueue _ _ _ _ _ _ member with earlier | new
        · exact ordered.waiting _ link content earlier
        · cases mem_singleton.mp new
          exact fits
      · rw [only.pending (by tauto)] at member
        exact ordered.waiting other link content member
    · intro link
      rw [only.pending (.inl later.symm)]
      exact ordered.links link
  rcases queuePacket_spec done with rfl | rfl
  · exact admitted
  · exact admitted.congr formed.recalc rfl rfl rfl

theorem sentFragments_channelDownProc (priority : Priority)
    (lcid srcTcid : Nat) (state : Scheduler) :
    (state.channelDownProc priority lcid srcTcid).sentFragments =
        state.sentFragments ∧
      (state.channelDownProc priority lcid srcTcid).pdFlag =
        state.pdFlag := by
  have outcome := channelDownProc_outcome priority lcid srcTcid state
  generalize state.channelDownProc priority lcid srcTcid = result at outcome ⊢
  cases outcome with
  | closed =>
    refine ⟨?_, rfl⟩
    funext link
    rw [sentFragments_note]
    cases state.getLcidBufferNode lcid <;> exact append_nil _
  | _ => exact ⟨rfl, rfl⟩

theorem Ordered.channelDownProc
    (holds : state.Ordered given ∧ state.pending .fragment lcid = [])
    (priority : Priority) (srcTcid : Nat) :
    (state.channelDownProc priority lcid srcTcid).Ordered given ∧
      (state.channelDownProc priority lcid srcTcid).pending .fragment
        lcid = [] := by
  obtain ⟨ordered, idle⟩ := holds
  obtain ⟨sent, flag⟩ := sentFragments_channelDownProc priority lcid srcTcid
    state
  have fewer := ordered.formed.pending_channelDownProc priority lcid srcTcid
  have only := (channelDownProc_outcome priority lcid srcTcid state).onlyLink
  have stillIdle := fewer .fragment lcid
  rw [idle] at stillIdle
  have none := eq_nil_of_subset_nil stillIdle
  refine ⟨?_, none⟩
  apply ordered.moved (ordered.formed.channelDownProc priority lcid srcTcid)
    (flag ▸ ordered.boundary) (fun other link buff => fewer other link _)
    (fun link differs => only.pending (.inr differs))
    (fun link _ => congrFun sent link)
  rw [none, sent, ← idle]
  exact ordered.links lcid

theorem Ordered.sameQueues (ordered : state.Ordered given)
    (formed : next.Formed) (same : SameQueues state next) :
    next.Ordered given := by
  obtain ⟨queues, flag, trace⟩ := same
  apply ordered.congr formed flag
  · unfold pending getLcidNode
    rw [queues]
  · unfold sentFragments
    rw [trace]

theorem Ordered.step (ordered : state.Ordered given) {input : Input}
    (keeps : state.KeepsPackets input) (offered : ∀ lcid srcTcid buff,
      input.event = .dataSend lcid srcTcid buff → given lcid buff) :
    (state.step input).Ordered given := by
  have formed := ordered.formed.step input
  obtain ⟨event, answers⟩ := input
  obtain ⟨fresh, saves, cut⟩ := keeps
  cases event with
  | dataSend lcid srcTcid buff =>
    unfold Scheduler.step dataSendWithPriority
    dsimp only
    split
    · exact ordered
    next queued done =>
      exact (ordered.queuePacket (offered lcid srcTcid buff rfl)
        done).schedulerRun fresh saves
  | sendComplete connHandle numCompletedPackets =>
    unfold Scheduler.step sendCompleteCbk
    dsimp only
    split
    · exact ordered
    · have returned := ordered.sameQueues
        (ordered.formed.returnCredit answers connHandle numCompletedPackets)
        (sameQueues_returnCredit answers connHandle numCompletedPackets state)
      exact returned.schedulerRun fresh saves
  | connect connHandle =>
    exact ordered.sameQueues formed
      (sameQueues_connect answers connHandle state)
  | disconnect connHandle =>
    exact ordered.sameQueues formed
      (sameQueues_disconnect answers connHandle state)
  | setApBufferNum bufferNum => exact ordered.sameQueues formed ⟨rfl, rfl, rfl⟩
  | dataNumChange isAcb dataNum =>
    unfold Scheduler.step dataNumChangecbk at formed ⊢
    dsimp only at formed ⊢
    split
    next acb =>
      rw [if_pos acb] at formed
      exact ordered.sameQueues formed
        (sameQueues_continueAssign answers (state.setApBufferNum dataNum))
    · exact ordered
  | channelDown lcid srcTcid =>
    have proc (state : Scheduler) (priority : Priority) (srcTcid : Nat)
        (holds : state.Ordered given ∧ state.pending .fragment lcid = []) :=
      Ordered.channelDownProc holds priority srcTcid
    exact (channelDown_rule proc srcTcid ⟨ordered, cut⟩).1

theorem initial_ordered (given : Nat → Bytes → Prop) :
    initial.Ordered given where
  formed := initial_formed
  boundary := .inl rfl
  waiting := nofun
  links lcid := ⟨[], rfl, inPackets_nil given lcid⟩

/-- In a run that cuts no packet short the fragments of every link come packet
by packet, and the peer rebuilds every packet whose last fragment was taken. -/
theorem contiguous_of_keepsPackets (inputs : List Input)
    (meets : Meets Scheduler.step KeepsPackets initial inputs) :
    Always Scheduler.step (Contiguous (Given inputs)) initial inputs := by
  let fitting (lcid : Nat) (buff : Bytes) : Prop :=
    Given inputs lcid buff ∧ buff.length ≤ maxPacketLen
  have sound (state : Scheduler) (ordered : state.Ordered fitting) :
      state.Contiguous (Given inputs) :=
    ordered.contiguous fun _ _ fits => fits
  apply always_of_meets sound _ (initial_ordered fitting)
    (meets.mem fun _ member => member)
  rintro state ⟨event, answers⟩ ordered ⟨keeps, member⟩
  apply ordered.step keeps
  rintro lcid srcTcid buff rfl
  exact ⟨⟨srcTcid, answers, member⟩, keeps.2.2⟩

/-- A packet needs four fragments and gets one credit at a time; a second
packet of the link waits behind it. -/
def oneCreditEach : List Input :=
  [.connect 1, .dataSend 1 0x20 (List.replicate 35 8), .dataSend 1 0x10 [9],
    .sendComplete 1 1, .sendComplete 1 1, .sendComplete 1 1,
    .sendComplete 1 1].map fun event => ⟨event, .granted 10⟩

theorem contiguous_oneCreditEach :
    Always Scheduler.step (Contiguous (Given oneCreditEach)) initial
      oneCreditEach := by
  apply contiguous_of_keepsPackets
  refine ⟨⟨fun _ => rfl, fun _ => rfl, trivial⟩,
    ⟨fun _ => rfl, fun _ => rfl, by decide⟩,
    ⟨fun _ => rfl, fun _ => rfl, by decide⟩, ?_⟩
  exact ⟨⟨fun _ => rfl, fun _ => rfl, trivial⟩,
    ⟨fun _ => rfl, fun _ => rfl, trivial⟩,
    ⟨fun _ => rfl, fun _ => rfl, trivial⟩,
    ⟨fun _ => rfl, fun _ => rfl, trivial⟩, trivial⟩

theorem Contiguous.starts_le (contiguous : state.Contiguous given)
    (lcid : Nat) :
    ((state.sentFragments lcid).map (·.pdFlag)).countP isFirstPb ≤
      (rebuild none (state.sentFragments lcid)).length + 1 := by
  have once {fragments : List Fragment} (framed : Framed fragments) :
      (fragments.map (·.pdFlag)).countP isFirstPb = 1 := by
    rcases framed with full | ⟨middles, tags⟩
    · rw [full]
      rfl
    · rw [tags]
      simp [isFirstPb, countP_replicate]
  obtain ⟨complete, begun, sent, proper, rest, rebuilt⟩ := contiguous lcid
  have each : ((complete.flatMap (·.fragments lcid)).map
      (·.pdFlag)).countP isFirstPb = complete.length := by
    clear sent rebuilt
    induction complete with
    | nil => rfl
    | cons packet complete induction =>
      have later := induction fun other member =>
        proper other (.tail _ member)
      rw [flatMap_cons, map_append, countP_append, later,
        once (proper packet (by simp)).framed, length_cons,
        Nat.add_comm]
  have last : (begun.map (·.pdFlag)).countP isFirstPb ≤ 1 := by
    rcases rest with rfl | ⟨current, left, next, -, parts⟩
    · exact Nat.zero_le 1
    · have whole := once next.framed
      rw [parts, map_append, countP_append] at whole
      omega
  rw [rebuilt, sent, map_append, countP_append, each, length_map]
  omega

/-- The device layer refuses the second fragment of a packet; the scheduler
goes on with the next packet of the link. -/
def refusedFragment : List Input :=
  ([.connect 1, .dataSend 1 0x20 [7], .dataSend 1 0x10 (List.replicate 25 8),
    .dataSend 1 0x20 (List.replicate 25 9), .setApBufferNum 3].map
      fun event => (⟨event, .granted 10⟩ : Input)) ++
    [⟨.sendComplete 1 1, { Answers.granted 10 with
      dataSend := fun _ time => time != 5 }⟩]

theorem contiguous_fails :
    ¬ Always Scheduler.step (Contiguous (Given refusedFragment)) initial
      refusedFragment := by
  intro always
  have few := always.at_end.starts_le 1
  revert few
  decide +kernel

end Scheduler

end NearLink.Dtap
