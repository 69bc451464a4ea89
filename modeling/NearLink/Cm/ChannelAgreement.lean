import NearLink.Cm.ChannelInvariant

/-!
# Agreement on dynamic transmission channels

A channel is half open when one end holds it as activated and the other one
does not.  No quiet link has one as long as every tcid is free of unfinished
business when it is handed out, and no request for a channel expires while it
can still be accepted.
-/

namespace NearLink.Cm

open Keyed Transition List TransChannel

namespace End

variable {own peer : End} {tcid : Nat} {id : UInt8}

theorem freeTcid_some (found : own.freeTcid = some tcid) :
    isDynamic tcid ∧ tcid ∉ own.tcidUsed := by
  have listed := mem_of_find?_eq_some found
  have unused := find?_some found
  rw [mem_range'_1] at listed
  simp only [tcidUcBegin, tcidUcEnd] at listed
  simp only [isDynamic, Bool.and_eq_true, decide_eq_true_eq]
  simp only [Bool.not_eq_eq_eq_not, Bool.not_true, contains_eq_mem,
    decide_eq_false_iff_not] at unused
  exact ⟨by omega, unused⟩

theorem kept_dynTcidRelease (unicast : Bool) :
    let released := own.dynTcidRelease tcid unicast
    released.channels = own.channels ∧ released.inbox = own.inbox ∧
      released.cachedSignalings = own.cachedSignalings := by
  unfold dynTcidRelease
  split <;> exact ⟨rfl, rfl, rfl⟩

theorem mem_dynTcidRelease {other : Nat} (unicast : Bool)
    (used : other ∈ own.tcidUsed) (differs : other ≠ tcid) :
    other ∈ (own.dynTcidRelease tcid unicast).tcidUsed := by
  unfold dynTcidRelease
  split
  · exact (mem_erase_of_ne differs).mpr used
  · exact used

section

variable (linked : own.Linked peer)
include linked

theorem Linked.dynTcidRelease (unicast : Bool)
    (free : ∀ channel ∈ own.channels, channel.localTcid ≠ tcid) :
    (own.dynTcidRelease tcid unicast).Linked peer := by
  refine linked.keep (kept_dynTcidRelease unicast).1
    (kept_dynTcidRelease unicast).2.1 ?_ ?_
  · intro channel member
    exact mem_dynTcidRelease unicast (linked.stored.used channel member)
      (free channel member)
  · intro entry member _
    rw [(kept_dynTcidRelease _).2.2] at member
    exact .inl member

theorem Linked.releaseDynamicTransChannel
    (settled : ∀ channel ∈ own.channels, channel.localTcid = tcid →
      channel.state = .releasing ∨
      (channel.state = .activating ∧
      (∀ message ∈ peer.inbox, ¬ message.Requests tcid) ∧ ∀ message ∈ own.inbox,
      ∀ given, ¬ message.Accepts tcid given)) :
    (own.releaseDynamicTransChannel tcid).Linked peer := by
  refine (linked.remove settled).dynTcidRelease _ fun channel member => ?_
  exact ((mem_remove linked.stored.distinct).mp member).2

theorem Linked.signalingCacheRemove (code : RequestCode)
    : (own.signalingCacheRemove id code).Linked peer := by
  unfold End.signalingCacheRemove
  split
  · split
    · exact linked.keep rfl rfl linked.stored.used fun entry member _ =>
        .inl (remove_sublist.subset member)
    · exact linked
  · exact linked

end

theorem Stored.activating (stored : own.Stored) {channel : TransChannel}
    (located : lookup localTcid tcid own.channels = some channel)
    (state : channel.state = .activating) :
    channel = ⟨tcid, invalidTcid, .activating⟩ := by
  have named := lookup_key located
  obtain ⟨localTcid, remoteTcid, _⟩ := channel
  rcases stored.formed _ (lookup_mem located) with
    ⟨_, invalid⟩ | ⟨other, _⟩ | ⟨other, _⟩
  · cases named
    cases invalid
    cases state
    rfl
  · cases state.symm.trans other
  · cases state.symm.trans other

variable {inbox : List Signaling}

section

variable (linked : own.Linked peer)
include linked

theorem Linked.take (found : own.freeTcid = some tcid) :
    (∀ channel ∈ own.channels, channel.localTcid ≠ tcid) ∧ isDynamic tcid ∧
      Linked { own with tcidUsed := tcid :: own.tcidUsed } peer := by
  obtain ⟨dynamic, unused⟩ := freeTcid_some found
  refine ⟨?_, dynamic, ?_⟩
  · rintro channel member rfl
    exact unused (linked.stored.used channel member)
  · exact linked.keep rfl rfl (fun channel member =>
      .tail _ (linked.stored.used channel member))
      (fun entry member _ => .inl member)

theorem Linked.establishReq {param : EstablishParam}
    (orderly : own.Orderly peer (.establish param)) :
    (own.establishReq param peer).1.Linked (own.establishReq param peer).2 := by
  have handed := orderly.1
  unfold End.establishReq
  simp only [handsOut] at handed
  split
  next valid =>
    simp only [valid, if_true] at handed
    cases found : own.freeTcid with
    | none => exact linked
    | some tcid =>
      obtain ⟨free, dynamic, pooled⟩ := linked.take found
      simp only [cacheRequest, activateDynamicTransChannel]
      cases lookup CachedSignaling.id own.identifier own.cachedSignalings with
      | none =>
        refine Linked.keep (pooled.open (handed tcid found) dynamic
          mem_cons_self free) rfl rfl ?_ ?_
        · exact forall_mem_append.mpr ⟨
            fun channel known => .tail _ (linked.stored.used channel known),
            forall_mem_singleton.mpr (.head _)⟩
        · rintro entry member code
          rcases mem_cons.mp member with rfl | old
          · cases code
          · exact .inl old
      | some entry =>
        have absent : lookup localTcid tcid own.channels =
            none := by
          rw [lookup_eq_none, mem_map]
          rintro ⟨channel, member, same⟩
          exact free channel member same
        have restored : Keyed.remove localTcid tcid
            (own.channels ++ [⟨tcid, invalidTcid, .activating⟩]) =
            own.channels := by
          rw [remove_append_absent absent]
          simp [Keyed.remove]
        have advanced : Linked
            { own with
              tcidUsed := tcid :: own.tcidUsed
              identifier := own.identifier + 1 } peer :=
          pooled.keep rfl rfl pooled.stored.used fun entry member _ =>
            .inl member
        simp only [End.releaseDynamicTransChannel, restored]
        exact advanced.dynTcidRelease _ free
  · exact linked

theorem Linked.releaseReq (orderly : own.Orderly peer (.release tcid)) :
    (own.releaseReq tcid peer).1.Linked (own.releaseReq tcid peer).2 := by
  have unique := orderly.2
  unfold End.releaseReq
  split
  · cases located : lookup localTcid tcid own.channels with
    | none => exact linked
    | some channel =>
      obtain rfl := lookup_key located
      have held := lookup_mem located
      have marked := linked.stored.mem_setState held .releasing
      simp only [cacheRequest]
      cases cached : lookup CachedSignaling.id own.identifier
          own.cachedSignalings with
      | none =>
        have same : lookup CachedSignaling.id
            (own.setState channel.localTcid .releasing).identifier
            (own.setState channel.localTcid .releasing).cachedSignalings =
            none := cached
        simp only [same]
        refine Linked.keep (linked.releasing held) rfl rfl
          (linked.stored.releasing held).used ?_
        refine forall_mem_cons.mpr ⟨?_, fun _ old _ => .inl old⟩
        intro code
        right
        intro other known named
        rcases (marked other).mp known with ⟨_, differs⟩ | rfl
        · exact absurd named differs
        · rfl
      | some entry =>
        have activated := unique (by rw [cached]; rfl) channel held rfl
        have same : lookup CachedSignaling.id
            (own.setState channel.localTcid .releasing).identifier
            (own.setState channel.localTcid .releasing).cachedSignalings =
            some entry := cached
        simp only [same]
        have restored : modify localTcid channel.localTcid
            (fun channel => { channel with state := .activated })
            (own.setState channel.localTcid .releasing).channels =
            own.channels := by
          unfold setState
          rw [modify_modify (by intro _; rfl)]
          apply modify_of_lookup
          intro record found
          cases located.symm.trans found
          rw [← activated]
          rfl
        exact linked.keep restored rfl linked.stored.used
          fun entry member _ => .inl member
  · exact linked

theorem Linked.dispose {message : Signaling}
    (queue : own.inbox = message :: inbox)
    (closed : ∀ other given, ¬ message.Accepts other given)
    (unasked : ∀ other, ¬ message.Releases other)
    (confirmed : ∀ other, message.Confirms other → other = tcid)
    (settled : ∀ channel ∈ own.channels, channel.localTcid = tcid →
      channel.state = .releasing ∨
      (channel.state = .activating ∧
        (∀ message ∈ peer.inbox, ¬ message.Requests tcid) ∧
        ∀ message ∈ own.inbox, ∀ given, ¬ message.Accepts tcid given)) :
    (End.releaseDynamicTransChannel tcid { own with inbox }).Linked peer := by
  have kept : ∀ channel ∈ Keyed.remove localTcid tcid
      own.channels, channel.localTcid ≠ tcid := fun channel member =>
    ((mem_remove linked.stored.distinct).mp member).2
  have removed := (linked.remove settled).drop queue
    ⟨fun other given accepts => absurd accepts (closed other given),
      fun channel member => ⟨unasked _, fun confirms =>
        kept channel member (confirmed _ confirms)⟩⟩
  exact removed.dynTcidRelease _ kept

end

variable {srcTcid : Nat}

section

variable (linked : own.Linked peer) {dstTcid : Nat}
  {check : UInt16 → UInt16 → Bool}
include linked

theorem Linked.establishRspCbk {result : EstablishResult}
    (queue : own.inbox = .connectRsp id srcTcid dstTcid result :: inbox) :
    (End.establishRspCbk srcTcid dstTcid result { own with inbox }).Linked
      peer := by
  have heard : Signaling.connectRsp id srcTcid dstTcid result ∈ own.inbox := by
    simp [queue]
  have dropped : (result = .success →
      ⟨srcTcid, invalidTcid, .activating⟩ ∉ own.channels) →
      Linked { own with inbox } peer := by
    intro unused
    refine linked.drop queue ⟨?_, fun _ _ => ⟨not_false, not_false⟩⟩
    intro tcid given accepts
    cases result with
    | success =>
      obtain ⟨rfl, _⟩ := accepts
      exact unused rfl
    | _ => exact accepts.elim
  unfold End.establishRspCbk
  split
  next ranged =>
    cases located : lookup localTcid srcTcid own.channels with
    | none =>
      apply dropped
      intro _ held
      rw [lookup_eq_none] at located
      exact located (mem_map_of_mem held)
    | some channel =>
      dsimp only
      split
      next state =>
        have held := lookup_mem located
        rw [linked.stored.activating located state] at held
        split
        next success =>
          subst success
          exact linked.activate held queue
        next failure =>
          have closed : ∀ other given,
              ¬ (Signaling.connectRsp id srcTcid dstTcid result).Accepts
                other given := by
            cases result with
            | success => exact absurd rfl failure
            | _ => exact fun _ _ => not_false
          have single := linked.sound.single
          rw [queue, pairwise_cons] at single
          refine linked.dispose queue closed (fun _ => not_false)
            (fun _ => False.elim) ?_
          intro known member same
          cases linked.stored.unique member held same
          refine .inr ⟨rfl, ?_, ?_⟩
          · intro message requested requests
            exact linked.peerSound.unanswered message requested _
              requests.opens _ heard rfl
          · rw [queue]
            exact forall_mem_cons.mpr ⟨fun _ accepts => closed _ _ accepts,
              fun message later _ accepts => single.1 message later _ rfl
                accepts.replies⟩
      next other =>
        apply dropped
        intro _ held
        cases located.symm.trans (lookup_of_mem linked.stored.distinct held)
        exact other rfl
  next outside =>
    apply dropped
    rintro rfl _
    have formed := linked.sound.dynamic _ heard rfl
    simp [formed.1, formed.2] at outside

theorem Linked.releaseRspCbk {result : ReleaseResult}
    (queue : own.inbox = .disconnectRsp id srcTcid dstTcid result :: inbox) :
    (End.releaseRspCbk srcTcid { own with inbox }).Linked peer := by
  have heard : Signaling.disconnectRsp id srcTcid dstTcid result ∈
      own.inbox := by simp [queue]
  have dynamic : isDynamic srcTcid := linked.sound.dynamic _ heard
  unfold End.releaseRspCbk
  rw [if_pos dynamic]
  cases located : lookup localTcid srcTcid own.channels with
  | none =>
    refine linked.drop queue ⟨fun _ _ => False.elim,
      fun channel member => ⟨not_false, ?_⟩⟩
    intro same
    rw [lookup_eq_none] at located
    apply located
    rw [show srcTcid = channel.localTcid from same]
    exact mem_map_of_mem member
  | some channel =>
    refine linked.dispose queue (fun _ _ => not_false) (fun _ => not_false)
      (fun _ same => same.symm) ?_
    intro known member same
    exact .inl (linked.sound.confirmed _ heard known member same.symm)

theorem Linked.establishReqCbk {config : ChannelConfig}
    (queue : own.inbox = .connectReq id srcTcid config :: inbox)
    (orderly : own.Orderly peer (.deliver check)) :
    (End.establishReqCbk check id srcTcid config { own with inbox }
        peer).1.Linked
      (End.establishReqCbk check id srcTcid config { own with inbox }
        peer).2 := by
  have heard : Signaling.connectReq id srcTcid config ∈ own.inbox := by
    simp [queue]
  have opens : (Signaling.connectReq id srcTcid config).Opens srcTcid :=
    .inl rfl
  have unanswered := linked.sound.unanswered _ heard srcTcid opens
  have ordered := linked.sound.ordered
  rw [queue, pairwise_cons] at ordered
  have unopened : ∀ message ∈ inbox, ¬ message.Opens srcTcid :=
    fun message member later => (ordered.1 message member srcTcid later).1 rfl
  have source : ⟨srcTcid, invalidTcid, .activating⟩ ∈ peer.channels ∨
      ∃ message ∈ inbox, message.Releases srcTcid := by
    refine (linked.sound.requested _ heard srcTcid rfl).imp_right ?_
    rintro ⟨message, member, releases⟩
    rw [queue] at member
    rcases mem_cons.mp member with rfl | later
    · exact releases.elim
    · exact ⟨message, later, releases⟩
  have taken : Linked { own with inbox } peer :=
    linked.drop queue ⟨fun _ _ => False.elim, fun _ _ => ⟨not_false, not_false⟩⟩
  have handed := orderly.1
  simp only [handsOut, queue] at handed
  unfold End.establishReqCbk
  split
  next admitted =>
    have sameAdmitted : own.admits srcTcid config := admitted
    have checks := admitted
    simp only [admits, Bool.and_eq_true, Option.isNone_iff_eq_none] at checks
    obtain ⟨⟨_, dynamic⟩, unknown⟩ := checks
    cases checked : establishedCheck check config with
    | success =>
      simp only [sameAdmitted, checked, beq_self_eq_true, Bool.and_self,
        if_true] at handed
      cases found : tcidFor srcTcid { own with inbox } with
      | none => exact taken
      | some tcid =>
        have sameFound : own.tcidFor srcTcid = some tcid := found
        obtain ⟨quiet, silent, uncached⟩ := handed tcid sameFound
        have fresh : End.Fresh
            { own with inbox, tcidUsed := tcid :: own.tcidUsed } peer
            tcid := by
          refine ⟨quiet, fun message member => silent message ?_, uncached⟩
          rw [queue]
          exact .tail _ member
        obtain ⟨free, dynamicTcid, pooled⟩ := taken.take (by
          unfold tcidFor at sameFound
          split at sameFound
          · exact sameFound
          · cases sameFound)
        refine pooled.accept fresh dynamicTcid mem_cons_self free
          dynamic ?_ unopened unanswered source
        rintro channel member rfl
        rw [lookup_eq_none] at unknown
        exact unknown (mem_map_of_mem member)
    | _ => exact taken.refuse (by simp) unopened unanswered
  · exact taken

theorem Linked.releaseReqCbk
    (queue : own.inbox = .disconnectReq id srcTcid dstTcid :: inbox) :
    (End.releaseReqCbk id srcTcid { own with inbox } peer).1.Linked
      (End.releaseReqCbk id srcTcid { own with inbox } peer).2 := by
  have heard : Signaling.disconnectReq id srcTcid dstTcid ∈ own.inbox := by
    simp [queue]
  have dynamic : isDynamic srcTcid := linked.sound.dynamic _ heard
  unfold End.releaseReqCbk
  rw [if_pos dynamic]
  cases located : lookup remoteTcid srcTcid own.channels with
  | none =>
    refine linked.drop queue ⟨fun _ _ => False.elim,
      fun channel member => ⟨?_, not_false⟩⟩
    intro same
    rw [lookup_eq_none] at located
    apply located
    rw [show srcTcid = channel.remoteTcid from same]
    exact mem_map_of_mem member
  | some channel =>
    obtain rfl := lookup_key located
    have held := lookup_mem located
    have removed := remove_of_found linked.stored.distinct located
    have kept : ∀ other ∈ Keyed.remove localTcid channel.localTcid own.channels,
        other ∈ own.channels ∧ other.localTcid ≠ channel.localTcid :=
      fun other member => (mem_remove linked.stored.distinct).mp member
    have released : Linked
        { own with
          channels := Keyed.remove localTcid channel.localTcid
            own.channels }
        (peer.post (.disconnectRsp id channel.remoteTcid channel.localTcid
          .success)) :=
      linked.released queue rfl held rfl dynamic
    have dropped := released.drop queue ⟨fun _ _ => False.elim,
      fun other member => ⟨fun same => ?_, not_false⟩⟩
    · rw [removed] at dropped
      apply dropped.dynTcidRelease
      intro other member
      rw [← removed] at member
      exact (kept other member).2
    · obtain ⟨known, differs⟩ := kept other member
      apply differs
      rw [linked.stored.apart channel held other known same
        (isDynamic_ne dynamic)]

theorem Linked.recvSignalingData (orderly : own.Orderly peer (.deliver check)) :
    (own.recvSignalingData check peer).1.Linked
      (own.recvSignalingData check peer).2 := by
  unfold End.recvSignalingData
  cases queue : own.inbox with
  | nil => exact linked
  | cons message inbox =>
    cases message with
    | connectReq id srcTcid config => exact linked.establishReqCbk queue orderly
    | connectRsp id srcTcid dstTcid result =>
      exact (linked.establishRspCbk queue).signalingCacheRemove _
    | disconnectReq id srcTcid dstTcid => exact linked.releaseReqCbk queue
    | disconnectRsp id srcTcid dstTcid result =>
      exact (linked.releaseRspCbk queue).signalingCacheRemove _

theorem Linked.signalingTimeout (orderly : own.Orderly peer (.expire id)) :
    (own.signalingTimeout id).Linked peer := by
  have unexpected := orderly.2
  unfold End.signalingTimeout
  cases located : lookup CachedSignaling.id id own.cachedSignalings with
  | none => exact linked
  | some cached =>
    have dropped : ∀ handled : End, handled.Linked peer → End.Linked
          { handled with
            cachedSignalings :=
              Keyed.remove CachedSignaling.id id handled.cachedSignalings }
          peer :=
      fun handled kept => kept.keep rfl rfl kept.stored.used
        fun entry member _ => .inl (remove_sublist.subset member)
    cases code : cached.code with
    | connectReq =>
      have settled := unexpected cached located code
      simp only [code]
      apply dropped
      unfold End.establishRspCbk
      split
      · cases found : lookup localTcid cached.srcTcid own.channels with
        | none => exact linked
        | some channel =>
          dsimp only
          split
          next state =>
            have held := lookup_mem found
            rw [linked.stored.activating found state] at held
            apply linked.releaseDynamicTransChannel
            intro known member same
            cases linked.stored.unique member held same
            exact .inr ⟨rfl, settled held⟩
          · exact linked
      · exact linked
    | disconnectReq =>
      simp only [code]
      apply dropped
      unfold End.releaseRspCbk
      split
      · split
        · apply linked.releaseDynamicTransChannel
          intro known member same
          exact .inl (linked.sound.cached cached (lookup_mem located)
            code known member same)
        · exact linked
      · exact linked

theorem Linked.act {event : EndEvent} (orderly : own.Orderly peer event) :
    (own.act peer event).1.Linked (own.act peer event).2 := by
  cases event with
  | establish param => exact linked.establishReq orderly
  | release tcid => exact linked.releaseReq orderly
  | deliver check => exact linked.recvSignalingData orderly
  | expire id => exact linked.signalingTimeout orderly

theorem Linked.symm : peer.Linked own :=
  ⟨linked.peerStored, linked.stored, linked.peerSound, linked.sound⟩

end

theorem linked_init (left right : UInt8) : (init left).Linked (init right) := by
  have stored : ∀ identifier, (init identifier).Stored := by
    intro identifier
    constructor <;> simp [init]
  have sound : ∀ first second, (init first).Sound (init second) := by
    intro first second
    constructor <;> simp [init]
  exact ⟨stored left, stored right, sound left right, sound right left⟩

theorem Linked.activated (linked : own.Linked peer) (quiet : own.inbox = [])
    (peerQuiet : peer.inbox = []) {remoteTcid : Nat}
    (activated : own.Activated tcid remoteTcid) :
    peer.Activated remoteTcid tcid := by
  have valid : remoteTcid ≠ invalidTcid := by
    rcases linked.stored.formed _ activated with
      ⟨other, _⟩ | ⟨_, dynamic⟩ | ⟨other, _⟩
    · cases other
    · exact isDynamic_ne dynamic
    · cases other
  rcases linked.sound.backed _ activated valid with
    held | ⟨_, _, member, _⟩ | ⟨_, member, _⟩ | ⟨_, member, _⟩
  any_goals
    rw [quiet] at member
    cases member
  · exact held
  · rw [peerQuiet] at member
    cases member

end End

namespace LogicLink

def Orderly (link : LogicLink) : Side × EndEvent → Prop
  | (.left, event) => link.left.Orderly link.right event
  | (.right, event) => link.right.Orderly link.left event

theorem linked_step (link : LogicLink) (event : Side × EndEvent)
    (linked : link.left.Linked link.right) (orderly : link.Orderly event) :
    (link.step event).left.Linked (link.step event).right := by
  obtain ⟨side, event⟩ := event
  cases side with
  | left => exact linked.act orderly
  | right => exact (linked.symm.act orderly).symm

theorem agreed_of_linked (link : LogicLink)
    (linked : link.left.Linked link.right) : link.Agreed := by
  intro quiet leftTcid rightTcid
  exact ⟨linked.activated quiet.1 quiet.2.1,
    linked.symm.activated quiet.2.1 quiet.1⟩

/-- In every orderly run a quiet link has no half-open channel. -/
theorem agreed_of_orderly (left right : UInt8) (events : List (Side × EndEvent))
    (orderly : Meets step Orderly (init left right) events) :
    Always step Agreed (init left right) events :=
  always_of_meets agreed_of_linked linked_step
    (End.linked_init left right) orderly

def basicParam : EstablishParam := ⟨0, 0, ⟨0, 64, 1, 2⟩⟩

def setUpAndRelease : List (Side × EndEvent) :=
  [(.left, .establish basicParam), (.right, .deliver fun _ _ => true),
   (.left, .deliver fun _ _ => true), (.right, .release 0x80),
   (.left, .deliver fun _ _ => true), (.right, .deliver fun _ _ => true)]

theorem agreed_setUpAndRelease :
    (run step (init 0 0) (setUpAndRelease.take 3)).left.Activated 0x80 0x80 ∧
      Always step Agreed (init 0 0) setUpAndRelease := by
  refine ⟨by unfold End.Activated; decide, agreed_of_orderly 0 0 _ ?_⟩
  refine ⟨⟨?_, trivial⟩, ⟨?_, trivial⟩, ⟨?_, trivial⟩, ⟨?_, ?_⟩,
    ⟨?_, trivial⟩, ⟨?_, trivial⟩, trivial⟩
  · rintro tcid ⟨⟩
    refine ⟨?_, ?_, ?_⟩ <;> simp [init, End.init]
  · rintro tcid ⟨⟩
    refine ⟨fun message member => ?_, fun message member => ?_,
      fun cached member => ?_⟩
    any_goals exact absurd member (not_mem_nil)
    rw [mem_singleton.mp member]
    exact not_false
  · rintro tcid ⟨⟩
  · rintro tcid ⟨⟩
  · rintro ⟨⟩
  · rintro tcid ⟨⟩
  · rintro tcid ⟨⟩

/-- The request expires before it is accepted. -/
theorem halfOpen_afterExpiry :
    ¬ ∀ (left right : UInt8) (events : List (Side × EndEvent)),
      Always step Agreed (init left right) events := by
  intro agreed
  have ended := Always.at_end (agreed 0 0
    [(.left, .establish basicParam), (.left, .expire 0),
     (.right, .deliver fun _ _ => true), (.left, .deliver fun _ _ => true)])
  have halfOpen := (ended (by unfold Quiet; decide) 0x80 0x80).mpr
    (by unfold End.Activated; decide)
  revert halfOpen
  unfold End.Activated
  decide

end LogicLink

end NearLink.Cm
