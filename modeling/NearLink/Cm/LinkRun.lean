import NearLink.Cm.LinkInvariant

/-!
# Runs of the table of logic links

Each task keeps the invariant of the table under the condition on its event,
and so does every run.
-/

namespace NearLink.Cm

open Keyed Transition List SleLogicLink

namespace LinkTable

variable {table : LinkTable} {answer : DliAnswer} {link : SleLogicLink}
  {addr : SleAddr}

theorem addr_ne_of_getByAddr (absent : table.getByAddr addr = none)
    (member : link ∈ table.links) : addr ≠ link.rmtAddr := by
  intro same
  apply lookup_eq_none.mp absent
  rw [same]
  exact mem_map_of_mem member

theorem status_ne_of_getByStatus {status : LinkState}
    (absent : table.getByStatus status = none) (member : link ∈ table.links) :
    link.status ≠ status := by
  intro same
  apply lookup_eq_none.mp absent
  rw [← same]
  exact mem_map_of_mem member

theorem getByLcid_of_mem (member : link ∈ table.links) :
    (table.getByLcid link.lcid).isSome := by
  apply Option.isSome_iff_ne_none.mpr
  intro absent
  exact lookup_eq_none.mp absent (mem_map_of_mem member)

theorem not_connected_of_free (table : LinkTable)
    (free : ∀ other, table.getByAddr addr = some other →
      other.status ≠ .connected) : ¬ (table.getByAddr addr).any (fun other =>
      decide (other.status = .connected)) = true := by
  cases located : table.getByAddr addr with
  | none => simp
  | some other => simpa using free other located

theorem getByAddr_setRole (table : LinkTable)
    (located : table.getByAddr addr = some link) (role : UInt8) :
    (table.setRole addr role).getByAddr addr =
      some { link with role := role } := by
  rw [getByAddr] at located ⊢
  rw [setRole, lookup_modify_self (by simp), located]
  rfl

structure Ends (table : LinkTable) (lcid : UInt16) (after : LinkTable) :
    Prop where
  links : after.links = table.links
  fixed : after.fixed = table.fixed
  live : ∀ other ∈ after.live, other ∈ table.live ∧
    (other ≠ lcid ∨ other ∈ after.releasing)
  kept : ∀ other ∈ table.live, other ≠ lcid → other ∈ after.live
  releasing : ∀ other ∈ after.live, other ∈ table.releasing →
    other ∈ after.releasing

theorem ended_ends {closed : Bool} {lcid : UInt16}
    (careful : closed ∨ lcid ∉ table.live ∨ lcid ∈ table.releasing.erase lcid) :
    Ends table lcid (table.ended closed lcid) := by
  cases closed with
  | true =>
    refine ⟨rfl, rfl, ?_, ?_, ?_⟩
    · intro other member
      obtain ⟨live, differs⟩ := mem_filter.mp member
      exact ⟨live, .inl (of_decide_eq_true differs)⟩
    · intro other live differs
      exact mem_filter.mpr ⟨live, decide_eq_true differs⟩
    · intro other member released
      apply mem_filter.mpr
      exact ⟨released, (mem_filter.mp member).2⟩
  | false =>
    have stays : ∀ other ∈ table.live, other = lcid →
        other ∈ table.releasing.erase lcid := by
      intro other live same
      rw [same] at live ⊢
      exact (careful.resolve_left (by simp)).resolve_left (· live)
    refine ⟨rfl, rfl, ?_, ?_, ?_⟩
    · intro other live
      refine ⟨live, ?_⟩
      by_cases same : other = lcid
      · exact .inr (stays other live same)
      · exact .inl same
    · intro other live _
      exact live
    · intro other live released
      by_cases same : other = lcid
      · exact stays other live same
      · exact (mem_erase_of_ne same).mpr released

namespace Invariant

variable {spared : UInt16} {addr : SleAddr}

theorem establish (invariant : table.Invariant invalidLcid)
    (answer : DliAnswer) (filterPolicy : UInt8) (given : SleAddr) :
    (table.connectEstablishReq answer filterPolicy given).Invariant
      invalidLcid := by
  unfold connectEstablishReq
  generalize establishAddr filterPolicy given = addr
  dsimp only
  cases located : table.getByAddr addr with
  | some link => exact invariant.congr rfl rfl rfl rfl
  | none =>
    cases pending : table.getByStatus .connecting with
    | some link => exact invariant.congr rfl rfl rfl rfl
    | none =>
      by_cases memory : answer.nodeMem = true
      · by_cases taken : answer.createConnection = true
        all_goals simp only [memory, taken, if_true]
        · apply invariant.join (perm_append_singleton _ _)
          · intro link member
            refine ⟨addr_ne_of_getByAddr located member, ?_, ?_⟩
            · intro valid
              exact absurd rfl valid
            · intro _
              exact status_ne_of_getByStatus pending member
          · exact ⟨.inl ⟨rfl, rfl, rfl⟩, by simp⟩
          · intro link _ proper
            exact ⟨proper.state, proper.served⟩
          · intro lcid member
            exact .inl member
          · intro lcid member
            exact member
          · exact invariant.valid
        · exact invariant.congr rfl rfl rfl rfl
      · simp only [memory]
        exact invariant.congr rfl rfl rfl rfl

theorem removeConnecting (invariant : table.Invariant spared) :
    { table with links := remove status .connecting table.links
      }.Invariant spared := by
  cases located : table.getByStatus .connecting with
  | none => exact invariant.congr (remove_absent located) rfl rfl rfl
  | some link =>
    apply invariant.erase (perm_of_lookup located) (.refl _)
    · intro other _ _ proper
      exact ⟨proper.state, proper.served⟩
    · intro lcid member
      refine ⟨member, .inl ?_⟩
      have pending := invariant.pending (lookup_mem located)
        (lookup_key located)
      intro same
      apply invariant.valid
      rw [← pending.1, ← same]
      exact member
    · intro lcid _ released
      exact released

theorem cancel (invariant : table.Invariant invalidLcid) :
    table.connectCancelReq.Invariant invalidLcid := by
  unfold connectCancelReq
  cases located : table.getByStatus .connecting with
  | none => exact invariant
  | some link => exact invariant.removeConnecting.congr rfl rfl rfl rfl

theorem giveUp (invariant : table.Invariant spared)
    (located : table.getByAddr addr = some link)
    (holds : link.lcid ∈ table.live)
    (only : spared = link.lcid ∨ spared = invalidLcid)
    (released : answer.disconnect = true ∨ link.lcid ∈ table.releasing)
    (discReason : UInt8) :
    ((table.setStatus addr .disconnecting).accessLinkReleaseReq answer
      link.lcid discReason).1.Invariant invalidLcid := by
  have releasing := accessRelease_releasing
    (table.setStatus addr .disconnecting) answer link.lcid discReason
  apply invariant.abandon (perm_of_lookup located) _ holds only
  · rw [(accessRelease_kept ..).2.1]
    rfl
  · rw [(accessRelease_kept ..).2.2]
    intro channel member _
    exact member
  · rw [releasing]
    split
    · exact .head _
    next refused =>
      cases released with
      | inl taken =>
        apply absurd _ refused
        refine ⟨?_, taken⟩
        intro invalid
        exact invariant.valid (invalid ▸ holds)
      | inr already => exact already
  · intro lcid member
    rw [releasing]
    split
    · exact .tail _ member
    · exact member
  · rw [(accessRelease_kept ..).1]
    exact modify_perm_of_lookup _ located

theorem release (invariant : table.Invariant invalidLcid)
    (answer : DliAnswer) (given : SleAddr) (discReason : UInt8) :
    (table.connectReleaseReq answer given discReason).Invariant
      invalidLcid := by
  unfold connectReleaseReq
  split
  · generalize given.checkAndFixAddrType = addr
    dsimp only
    cases located : table.getByAddr addr with
    | none => exact invariant.congr rfl rfl rfl rfl
    | some link =>
      by_cases connected : link.status = .connected
      · have holds : link.lcid ∈ table.live := by
          cases (invariant.proper link (lookup_mem located)).state with
          | inl pending => simp [connected] at pending
          | inr held => exact held.2
        have handle : link.lcid ≠ invalidLcid := by
          intro invalid
          exact invariant.valid (invalid ▸ holds)
        by_cases taken : answer.disconnect = true
        · have asked := invariant.giveUp located holds (.inr rfl)
            (.inl taken) discReason
          simpa [connected, accessLinkReleaseReq, handle, taken] using asked
        · -- the node gets its status back
          have same : (modify rmtAddr addr
              (fun link => { link with status := .connected })
              (modify rmtAddr addr
                (fun link => { link with status := .disconnecting })
                table.links)) = table.links := by
            rw [modify_modify (by simp)]
            apply modify_of_lookup
            intro found again
            have equality : found = link := by
              rw [getByAddr, again] at located
              exact Option.some.inj located
            simp [equality, ← connected]
          simp only [connected, ne_eq, not_true_eq_false, if_false,
            accessLinkReleaseReq, handle, taken]
          exact invariant.congr same rfl rfl rfl
      · simp only [ne_eq, connected, not_false_eq_true, if_true]
        exact invariant.congr rfl rfl rfl rfl
  · exact invariant

variable {lcid : UInt16} {after : LinkTable}

section

variable (invariant : table.Invariant lcid) (same : table.SameBut lcid after)
include invariant same

theorem touched : after.Invariant lcid where
  apart := same.links ▸ invariant.apart
  proper := by
    intro link member
    have proper := invariant.proper link (same.links ▸ member)
    refine ⟨by rw [same.live]; exact proper.state, ?_⟩
    intro connected own
    exact same.activated own (proper.served connected own)
  known := by
    intro handle member
    rw [same.live] at member
    rw [Recorded, same.links, same.releasing]
    exact invariant.known handle member
  valid := same.live ▸ invariant.valid

theorem opened (activated : after.Activated lcid) :
    after.Invariant invalidLcid := by
  have kept := touched invariant same
  refine { kept with proper := fun link member =>
    ⟨(kept.proper link member).state, fun connected _ => ?_⟩ }
  by_cases own : link.lcid = lcid
  · rw [own]
    exact activated
  · exact (kept.proper link member).served connected own

end

theorem dropped (invariant : table.Invariant spared)
    (connCompleteType : UInt8) :
    (table.dropConnecting connCompleteType).Invariant spared := by
  unfold dropConnecting
  split
  · exact invariant.removeConnecting
  · exact invariant

theorem live_of_connected (invariant : table.Invariant spared)
    (member : link ∈ table.links) (connected : link.status = .connected) :
    link.lcid ∈ table.live := by
  cases (invariant.proper link member).state with
  | inl pending => simp [connected] at pending
  | inr held => exact held.2

theorem activate (invariant : table.Invariant lcid)
    (located : table.getByAddr addr = some link)
    (connected : link.status = .connected) (named : link.lcid = lcid)
    (settled : (table.activateFixedTransChannel answer lcid).2 = true ∨
      answer.disconnect = true) (connCompleteType discReason : UInt8) :
    (if (table.activateFixedTransChannel answer lcid).2 then
      (table.activateFixedTransChannel answer lcid).1.dropConnecting
        connCompleteType
    else
      (((table.activateFixedTransChannel answer lcid).1.setStatus addr
        .disconnecting).accessLinkReleaseReq answer lcid
          discReason).1).Invariant invalidLcid := by
  have same := activateFixed_sameBut table answer lcid
  split
  case isTrue ready =>
    exact (invariant.opened same (activated_of_activateFixed ready)).dropped
      connCompleteType
  case isFalse ready =>
    have still := invariant.touched same
    have found : (table.activateFixedTransChannel answer lcid).1.getByAddr
        addr = some link := by
      rw [getByAddr, same.links]
      exact located
    have holds := still.live_of_connected (lookup_mem found) connected
    have given := still.giveUp found holds (.inl named.symm)
      (.inl (settled.resolve_left ready)) discReason
    rw [named] at given
    exact given

theorem setRole (invariant : table.Invariant spared)
    (located : table.getByAddr addr = some link)
    (connected : link.status = .connected) (role : UInt8) :
    (table.setRole addr role).Invariant spared := by
  have now : (table.setRole addr role).links.Perm ({ link with role := role } ::
        remove rmtAddr addr table.links) :=
    modify_perm_of_lookup _ located
  apply invariant.renew (perm_of_lookup located) now rfl rfl
  · simp [connected]
  · have proper := invariant.proper link (lookup_mem located)
    exact ⟨proper.state, proper.served⟩
  · intro other _ _ proper
    exact ⟨proper.state, proper.served⟩
  · rfl
  · exact .inl connected
  · exact fun _ member => member

theorem createConnection {evt : ConnectionComplete}
    (invariant : table.Invariant evt.connHandle)
    (located : table.getByAddr evt.peerAddress = some link)
    (connected : link.status = .connected) (named : link.lcid = evt.connHandle)
    (settled : table.opens answer evt.connHandle = true ∨
      answer.disconnect = true) :
    (table.createConnectionProc answer evt.peerAddress evt).Invariant
      invalidLcid := by
  have addr : link.rmtAddr = evt.peerAddress := lookup_key located
  rw [createConnectionProc, located]
  simp only [connected, if_true, connectionProcInterruptReq, addr, named]
  have asked : (table.command (.readRemoteVersion
      evt.connHandle)).Invariant evt.connHandle :=
    invariant.congr rfl rfl rfl rfl
  split
  case isTrue _ =>
    have renamed := asked.setRole located connected evt.role
    have found := (table.command (.readRemoteVersion
      evt.connHandle)).getByAddr_setRole located evt.role
    apply renamed.activate found connected named
    apply settled.imp_left
    intro opens
    have handle := getByLcid_of_mem (lookup_mem found)
    rw [named] at handle
    exact (activateFixed_of_opens handle opens).2
  case isFalse version =>
    have holds := asked.live_of_connected (lookup_mem located) connected
    have taken : answer.disconnect = true := by
      apply settled.resolve_left
      simp [opens, version]
    have given := asked.giveUp located holds (.inl named.symm) (.inl taken) 0
    rw [named] at given
    exact given

theorem take {node : SleLogicLink} (invariant : table.Invariant invalidLcid)
    (now : after.links.Perm (node :: table.links))
    (connected : node.status = .connected) (named : node.lcid = lcid)
    (addr : ∀ link ∈ table.links, node.rmtAddr ≠ link.rmtAddr)
    (fresh : lcid ∉ table.live) (valid : lcid ≠ invalidLcid)
    (live : after.live = lcid :: table.live) (fixed : after.fixed = table.fixed)
    (releasing : after.releasing = table.releasing) : after.Invariant lcid := by
  apply invariant.join now
  · intro link member
    refine ⟨addr link member, ?_, ?_⟩
    · intro _ same
      have handle : link.lcid = lcid := same.symm.trans named
      apply fresh
      rw [← handle]
      exact invariant.held member (handle ▸ valid)
    · intro connecting
      rw [connected] at connecting
      cases connecting
  · refine ⟨.inr ⟨.inl connected, ?_⟩, ?_⟩
    · rw [live, named]
      exact .head _
    · intro _ differs
      exact absurd named differs
  · intro link member proper
    constructor
    · rw [live]
      exact proper.state.imp_right (And.imp_right (mem_cons_of_mem _))
    · intro isConnected _
      rw [Activated, fixed]
      apply proper.served isConnected
      intro invalid
      apply invariant.valid
      rw [← invalid]
      exact invariant.live_of_connected member isConnected
  · intro handle member
    rw [live] at member
    rcases mem_cons.mp member with same | old
    · exact .inr ⟨connected, named.trans same.symm⟩
    · exact .inl old
  · rw [releasing]
    exact fun _ member => member
  · rw [live]
    intro member
    rcases mem_cons.mp member with same | old
    · exact valid same.symm
    · exact invariant.valid old

theorem getByAddr_of_mem (invariant : table.Invariant spared)
    (member : link ∈ table.links) :
    table.getByAddr link.rmtAddr = some link :=
  lookup_of_mem invariant.addresses member

variable {evt : ConnectionComplete}

section

variable (invariant : table.Invariant invalidLcid) {after : LinkTable}
include invariant

theorem welcome {node : SleLogicLink}
    (now : after.links.Perm (node :: table.links))
    (connected : node.status = .connected) (named : node.lcid = evt.connHandle)
    (peer : node.rmtAddr = evt.peerAddress)
    (addr : ∀ link ∈ table.links, evt.peerAddress ≠ link.rmtAddr)
    (fresh : evt.connHandle ∉ table.live) (valid : evt.connHandle ≠ invalidLcid)
    (live : after.live = evt.connHandle :: table.live)
    (fixed : after.fixed = table.fixed)
    (releasing : after.releasing = table.releasing)
    (settled : table.opens answer evt.connHandle = true ∨
      answer.disconnect = true) :
    (after.createConnectionProc answer evt.peerAddress evt).Invariant
      invalidLcid := by
  have taken := invariant.take now connected named (peer ▸ addr) fresh valid
    live fixed releasing
  have located := taken.getByAddr_of_mem (now.mem_iff.mpr mem_cons_self)
  rw [peer] at located
  apply taken.createConnection located connected named
  rw [opens, fixed]
  exact settled

section

variable (success : evt.status = dliSuccess)
  (fresh : evt.connHandle ∉ table.live) (valid : evt.connHandle ≠ invalidLcid)
include success fresh valid

theorem passive (absent : table.getByAddr evt.peerAddress = none)
    (memory : answer.nodeMem = true)
    (settled : table.opens answer evt.connHandle = true ∨
      answer.disconnect = true) :
    ((table.made evt.connHandle).passiveComplete answer evt).Invariant
      invalidLcid := by
  have unused : (table.made evt.connHandle).getByAddr evt.peerAddress =
    none := absent
  rw [passiveComplete, unused]
  simp only [memory, if_true]
  refine invariant.welcome (perm_append_singleton _ _) ?_ ?_ ?_ ?_ fresh
    valid rfl rfl rfl settled
  any_goals simp [setLinkStatusAndInfo, success]
  · rfl
  · intro link member
    exact addr_ne_of_getByAddr absent member

theorem active (pending : table.getByStatus .connecting = some link)
    (alone : ∀ other, table.getByAddr evt.peerAddress = some other →
      other.status = .connecting)
    (settled : table.opens answer evt.connHandle = true ∨
      answer.disconnect = true) :
    ((table.made evt.connHandle).activeComplete answer evt).Invariant
      invalidLcid := by
  have found : (table.made evt.connHandle).getByStatus .connecting =
    some link := pending
  have free : ∀ other, (table.made evt.connHandle).getByAddr
      evt.peerAddress = some other → other.status ≠ .connected := by
    intro other located
    simp [alone other located]
  rw [activeComplete, if_neg (not_connected_of_free _ free), found]
  refine invariant.removeConnecting.welcome (modify_perm_of_lookup _ pending) ?_
    ?_ ?_ ?_ fresh valid rfl rfl rfl settled
  any_goals simp [setLinkStatusAndInfo, success]
  intro other member same
  have inLinks := remove_sublist.subset member
  have connecting := alone other (same ▸ invariant.getByAddr_of_mem inLinks)
  have apart := ((perm_of_lookup pending).pairwise_iff Apart.symm).mp
    invariant.apart
  exact ((pairwise_cons.mp apart).1 other member).status
    (lookup_key pending) connecting

end

theorem unasked (valid : evt.connHandle ≠ invalidLcid)
    (pending : table.getByStatus .connecting = none)
    (free : ∀ other, table.getByAddr evt.peerAddress = some other →
      other.status ≠ .connected) (taken : answer.disconnect = true) :
    ((table.made evt.connHandle).activeComplete answer evt).Invariant
      invalidLcid := by
  have absent : (table.made evt.connHandle).getByStatus .connecting =
    none := pending
  have unconnected := (table.made evt.connHandle).not_connected_of_free free
  rw [activeComplete, if_neg unconnected, absent]
  simp only [accessLinkReleaseReq, valid, taken, if_true, if_false]
  constructor
  · exact invariant.apart
  · intro link member
    have proper := invariant.proper link member
    refine ⟨?_, proper.served⟩
    exact proper.state.imp_right (And.imp_right (mem_cons_of_mem _))
  · intro lcid member
    rcases mem_cons.mp member with same | old
    · exact .inr (same ▸ mem_cons_self)
    · exact (invariant.known lcid old).imp_right (mem_cons_of_mem _)
  · intro member
    rcases mem_cons.mp member with same | old
    · exact valid same.symm
    · exact invariant.valid old

theorem failed (failure : evt.status ≠ dliSuccess) :
    (table.activeFailed answer evt).Invariant invalidLcid := by
  rw [activeFailed]
  cases pending : table.getByStatus .connecting with
  | none => exact invariant
  | some link =>
    have now := modify_perm_of_lookup (setLinkStatusAndInfo evt) pending
    have same : setLinkStatusAndInfo evt link =
        { link with status := .disconnected } := by
      simp [setLinkStatusAndInfo, failure]
    have located : lookup rmtAddr link.rmtAddr
        (modify status .connecting (setLinkStatusAndInfo evt)
          table.links) = some { link with status := .disconnected } := by
      rw [← modify_of_found _ invariant.addresses pending]
      rw [lookup_modify_of_found _
        (invariant.getByAddr_of_mem (lookup_mem pending)) (by simp [same])]
      simp [same]
    -- what is left after the removal is what was there beside the node
    have rest := (perm_of_lookup located).symm.trans (same ▸ now)
    have removed : { table with
        links := remove rmtAddr link.rmtAddr (modify status .connecting
            (setLinkStatusAndInfo evt) table.links) }.Invariant
              invalidLcid :=
      invariant.removeConnecting.reorder rest.cons_inv rfl rfl rfl
    simp only [createConnectionProc, getByAddr, located]
    apply Invariant.dropped
    split
    · exact removed
    · exact removed.congr rfl rfl rfl rfl

theorem connect {status : UInt8}
    (honest : status = dliSuccess → evt.status = dliSuccess →
      evt.connHandle ∉ table.live)
    (careful : status = dliSuccess → evt.status = dliSuccess →
      evt.connHandle ≠ invalidLcid ∧ table.Placed answer evt) :
    ((table.established status evt).accessConnectCbk answer status
      evt).Invariant invalidLcid := by
  by_cases issued : status = dliSuccess
  · by_cases success : evt.status = dliSuccess
    · have fresh := honest issued success
      obtain ⟨valid, placed⟩ := careful issued success
      simp only [established, accessConnectCbk, issued, success, and_self,
        if_true, ne_eq, not_true_eq_false, if_false]
      unfold Placed at placed
      by_cases adv : evt.connCompleteType = connCompleteAdv
      · rw [if_pos adv] at placed ⊢
        obtain ⟨absent, memory, settled⟩ := placed
        exact invariant.passive success fresh valid absent memory settled
      · rw [if_neg adv] at placed ⊢
        by_cases scan : evt.connCompleteType = connCompleteScan
        · rw [if_pos scan] at placed ⊢
          cases pending : table.getByStatus .connecting with
          | none =>
            rw [pending, if_neg (by simp)] at placed
            exact invariant.unasked valid pending placed.1 placed.2
          | some link =>
            rw [pending, if_pos (by rfl)] at placed
            exact invariant.active success fresh valid pending placed.1 placed.2
        · rw [if_neg scan] at placed
          exact placed.elim
    · simp only [established, accessConnectCbk, issued, success, and_false,
        if_false, ne_eq, not_true_eq_false]
      split_ifs
      any_goals exact invariant
      exact invariant.failed success
  · simp only [established, accessConnectCbk, issued, false_and, if_false,
      ne_eq, not_false_eq_true, if_true]
    exact invariant

theorem closed (ends : Ends table lcid after)
    (absent : ∀ link ∈ table.links, link.lcid ∈ table.live → link.lcid ≠ lcid) :
    after.Invariant invalidLcid := by
  constructor
  · rw [ends.links]
    exact invariant.apart
  · intro link member
    rw [ends.links] at member
    have proper := invariant.proper link member
    constructor
    · apply proper.state.imp_right
      rintro ⟨status, live⟩
      exact ⟨status, ends.kept _ live (absent link member live)⟩
    · rw [Activated, ends.fixed]
      exact proper.served
  · intro other member
    rw [Recorded, ends.links]
    exact (invariant.known other (ends.live other member).1).imp_right
      (ends.releasing other member)
  · intro member
    exact invariant.valid (ends.live _ member).1

theorem disconnect (ends : Ends table lcid after) (answer : DliAnswer)
    (reason : UInt8) :
    (after.accessDisconnectCbk answer lcid reason).Invariant invalidLcid := by
  unfold accessDisconnectCbk
  split
  case isTrue invalid =>
    apply invariant.closed ends
    intro link _ live same
    apply invariant.valid
    rw [← invalid, ← same]
    exact live
  case isFalse invalid =>
    cases located : after.getByLcid lcid with
    | none =>
      apply invariant.closed ends
      intro link member _ same
      apply lookup_eq_none.mp located
      rw [← same, ends.links]
      exact mem_map_of_mem member
    | some link =>
      rw [getByLcid, ends.links] at located
      have named : link.lcid = lcid := lookup_key located
      have status : link.status = .connected ∨
          link.status = .disconnecting := by
        cases (invariant.proper link (lookup_mem located)).state with
        | inl pending => exact absurd (named.symm.trans pending.2.1) invalid
        | inr held => exact held.1
      have present : link.status ≠ .disconnected := by
        intro gone
        simp [gone] at status
      have same := releaseFixed_sameBut after answer lcid
      simp only [if_pos status, if_pos present]
      apply invariant.erase (perm_of_lookup located)
      · rw [← ends.links]
        exact .refl _
      · intro other _ apart proper
        have differs : other.lcid ≠ lcid := by
          rw [← named]
          exact (apart.lcid (named ▸ invalid)).symm
        constructor
        · apply proper.state.imp_right
          rintro ⟨state, live⟩
          exact ⟨state, ends.kept _ live differs⟩
        · intro connected valid tcid member
          apply same.fixed _ _ differs
          rw [ends.fixed]
          exact proper.served connected valid tcid member
      · intro other member
        rw [named]
        exact ends.live other member
      · exact ends.releasing

theorem exception
    (careful : lcid ≠ invalidLcid → (table.getByLcid lcid).isSome →
      lcid ∈ table.releasing ∨ answer.disconnect) :
    (table.connectExceptionProc answer lcid).Invariant invalidLcid := by
  unfold connectExceptionProc
  split
  case isTrue _ => exact invariant
  case isFalse invalid =>
    cases located : table.getByLcid lcid with
    | none => exact invariant
    | some link =>
      have named : link.lcid = lcid := lookup_key located
      have holds := invariant.held (lookup_mem located) (named ▸ invalid)
      have released := (careful invalid (by rw [located]; rfl)).symm
      rw [← named] at released
      have given := invariant.giveUp
        (invariant.getByAddr_of_mem (lookup_mem located)) holds (.inr rfl)
        released 0
      have changed := modify_of_found
        (fun link => { link with status := .disconnecting })
        invariant.addresses located
      rw [← changed]
      exact given

theorem step (event : LinkTask × DliAnswer) (honest : table.Honest event)
    (careful : table.Careful event) :
    (table.step event).Invariant invalidLcid := by
  have started : table.start.Invariant invalidLcid :=
    invariant.congr rfl rfl rfl rfl
  obtain ⟨task, answer⟩ := event
  cases task with
  | establish filterPolicy addr =>
    exact started.establish answer filterPolicy addr
  | cancel => exact started.cancel
  | release addr discReason => exact started.release answer addr discReason
  | connectCbk status evt => exact started.connect honest careful
  | disconnectCbk closed connHandle reason =>
    have ends : Ends table.start connHandle
      (table.start.ended closed connHandle) := ended_ends careful
    exact started.disconnect ends answer reason
  | exception lcid => exact started.exception careful

end

theorem init : LinkTable.init.Invariant invalidLcid where
  apart := List.Pairwise.nil
  proper := by simp [LinkTable.init]
  known := by simp [LinkTable.init]
  valid := by simp [LinkTable.init]

end Invariant

/-- A controller that is honest and a run in which no completion is turned
away and no release is refused or fails keep the table consistent. -/
theorem consistent_of_careful (events : List (LinkTask × DliAnswer))
    (honest : Meets step Honest init events)
    (careful : Meets step Careful init events) :
    Always step Consistent init events := by
  apply always_of_meets _ _ Invariant.init (honest.and careful)
  · intro table invariant
    exact invariant.consistent
  · intro table event invariant meets
    exact invariant.step event meets.1 meets.2

def granted : DliAnswer :=
  ⟨true, fun _ => true, fun _ => true, true, true, true⟩

/-- A peer that is asked for by the allow list connects, and another one
connects by itself; the first is released. -/
def twoPeers : List (LinkTask × DliAnswer) :=
  [(.establish 1 ⟨0, 7⟩, granted),
    (.connectCbk 0 ⟨0, 5, 0, ⟨0, 7⟩, connCompleteScan, 0⟩, granted),
    (.establish 1 ⟨0, 8⟩, granted),
    (.connectCbk 0 ⟨0, 6, 1, ⟨0, 9⟩, connCompleteAdv, 2⟩, granted),
    (.release ⟨0, 7⟩ discReasonRemoteUserTerminated, granted),
    (.disconnectCbk true 5 discReasonRemoteUserTerminated, granted)]

theorem consistent_twoPeers :
    Meets step Honest init twoPeers ∧ Meets step Careful init twoPeers ∧
      Always step Consistent init twoPeers := by
  have honest : Meets step Honest init twoPeers := by
    refine ⟨trivial, ?_, trivial, ?_, trivial, trivial, trivial⟩
    · intro _ _
      decide
    · intro _ _
      decide
  have careful : Meets step Careful init twoPeers := by
    refine ⟨trivial, ?_, trivial, ?_, trivial, .inl rfl, trivial⟩
    all_goals
      intro _ _
      refine ⟨by decide, ?_⟩
      unfold Placed
      decide
  exact ⟨honest, careful, consistent_of_careful twoPeers honest careful⟩

/-- Both ends ask for the connection at once, and the other end comes
first: the node that is connecting has the address already, and the connection
is neither recorded nor released. -/
def bothAsk : List (LinkTask × DliAnswer) :=
  [(.establish 0 ⟨0, 7⟩, granted),
    (.connectCbk 0 ⟨0, 5, 1, ⟨0, 7⟩, connCompleteAdv, 2⟩, granted)]

theorem consistent_bothAsk :
    ¬ ∀ events : List (LinkTask × DliAnswer),
      Meets step Honest init events → Always step Consistent init events := by
  intro claim
  have honest : Meets step Honest init bothAsk := by
    refine ⟨trivial, ?_, trivial⟩
    intro _ _
    decide
  have known := (claim bothAsk honest).2.2.known 5 (by decide)
  revert known
  decide

end LinkTable

end NearLink.Cm
