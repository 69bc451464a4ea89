import NearLink.Cm.TransChannel

/-!
# The invariant of a link with transmission channels

What the entries of one end, its unfinished requests and the messages in
flight say of the entries of the other end.
-/

namespace NearLink.Cm

open Keyed Transition List TransChannel

section Preceded

variable {Message : Type*} {first second : Message → Prop}
  {queue : List Message} {message : Message}

def Preceded (first second : Message → Prop) : List Message → Prop
  | [] => True
  | message :: queue =>
    ¬ second message ∧ (first message ∨ Preceded first second queue)

theorem preceded_of_none (none : ∀ message ∈ queue, ¬ second message) :
    Preceded first second queue := by
  induction queue with
  | nil => trivial
  | cons message queue induction =>
    exact ⟨none message (by simp), .inr (induction fun later member =>
      none later (.tail _ member))⟩

theorem Preceded.concat (preceded : Preceded first second queue)
    (last : second message → ∃ earlier ∈ queue, first earlier) :
    Preceded first second (queue ++ [message]) := by
  induction queue with
  | nil =>
    refine ⟨fun isSecond => ?_, .inr trivial⟩
    obtain ⟨_, member, _⟩ := last isSecond
    cases member
  | cons head queue induction =>
    refine ⟨preceded.1, ?_⟩
    by_cases isFirst : first head
    · exact .inl isFirst
    · refine .inr (induction (preceded.2.resolve_left isFirst) ?_)
      intro isSecond
      obtain ⟨earlier, member, earlierFirst⟩ := last isSecond
      rcases mem_cons.mp member with rfl | later
      · exact absurd earlierFirst isFirst
      · exact ⟨earlier, later, earlierFirst⟩

end Preceded

namespace Signaling

@[simp, grind =] def Asks (tcid : Nat) : Signaling → Prop
  | connectReq _ srcTcid _ => srcTcid = tcid
  | disconnectReq _ srcTcid _ => srcTcid = tcid
  | _ => False

@[simp, grind =] def Answers (tcid : Nat) : Signaling → Prop
  | connectRsp _ srcTcid _ _ => srcTcid = tcid
  | disconnectRsp _ srcTcid _ _ => srcTcid = tcid
  | _ => False

@[simp, grind =] def Requests (tcid : Nat) : Signaling → Prop
  | connectReq _ srcTcid _ => srcTcid = tcid
  | _ => False

@[simp, grind =] def Replies (tcid : Nat) : Signaling → Prop
  | connectRsp _ srcTcid _ _ => srcTcid = tcid
  | _ => False

@[simp, grind =] def Accepts (tcid given : Nat) : Signaling → Prop
  | connectRsp _ srcTcid dstTcid .success => srcTcid = tcid ∧ dstTcid = given
  | _ => False

@[simp, grind =] def Releases (tcid : Nat) : Signaling → Prop
  | disconnectReq _ srcTcid _ => srcTcid = tcid
  | _ => False

@[simp, grind =] def Confirms (tcid : Nat) : Signaling → Prop
  | disconnectRsp _ srcTcid _ _ => srcTcid = tcid
  | _ => False

def Opens (tcid : Nat) (message : Signaling) : Prop :=
  message.Requests tcid ∨ ∃ other, message.Accepts other tcid

def Dynamic : Signaling → Prop
  | connectReq _ srcTcid _ => isDynamic srcTcid
  | connectRsp _ srcTcid dstTcid result =>
    result = .success → isDynamic srcTcid ∧ isDynamic dstTcid
  | disconnectReq _ srcTcid _ => isDynamic srcTcid
  | disconnectRsp _ srcTcid _ _ => isDynamic srcTcid

end Signaling

namespace End

def Fresh (own peer : End) (tcid : Nat) : Prop :=
  (∀ message ∈ peer.inbox, ¬ message.Asks tcid) ∧
    (∀ message ∈ own.inbox, ¬ message.Answers tcid) ∧
    ∀ cached ∈ own.cachedSignalings,
      cached.code = .disconnectReq → cached.srcTcid ≠ tcid

def handsOut (own : End) : EndEvent → Option Nat
  | .establish param => if param.valid then own.freeTcid else none
  | .deliver check =>
    match own.inbox with
    | .connectReq _ srcTcid config :: _ =>
      if own.admits srcTcid config &&
          establishedCheck check config == .success then
        own.tcidFor srcTcid
      else none
    | _ => none
  | _ => none

/-- A tcid is handed out only when it is free of unfinished business, only an
activated channel is released while its request finds its identifier taken,
and no request expires while it can still be accepted. -/
def Orderly (own peer : End) (event : EndEvent) : Prop :=
  (∀ tcid, own.handsOut event = some tcid → own.Fresh peer tcid) ∧
    match event with
    | .release tcid =>
      (lookup CachedSignaling.id own.identifier own.cachedSignalings).isSome →
        ∀ channel ∈ own.channels, channel.localTcid = tcid →
          channel.state = .activated
    | .expire id =>
      ∀ cached, lookup CachedSignaling.id id own.cachedSignalings =
          some cached → cached.code = .connectReq →
        ⟨cached.srcTcid, invalidTcid, .activating⟩ ∈ own.channels →
          (∀ message ∈ peer.inbox, ¬ message.Requests cached.srcTcid) ∧
            ∀ message ∈ own.inbox, ∀ given,
              ¬ message.Accepts cached.srcTcid given
    | _ => True

structure Stored (own : End) : Prop where
  distinct : (own.channels.map localTcid).Nodup
  used : ∀ channel ∈ own.channels, channel.localTcid ∈ own.tcidUsed
  dynamic : ∀ channel ∈ own.channels, isDynamic channel.localTcid
  formed : ∀ channel ∈ own.channels,
    (channel.state = .activating ∧ channel.remoteTcid = invalidTcid) ∨
      (channel.state = .activated ∧ isDynamic channel.remoteTcid) ∨
      (channel.state = .releasing ∧ (channel.remoteTcid = invalidTcid ∨
        isDynamic channel.remoteTcid))
  apart : ∀ first ∈ own.channels, ∀ second ∈ own.channels,
    first.remoteTcid = second.remoteTcid → first.remoteTcid ≠ invalidTcid →
      first = second

structure Sound (own peer : End) : Prop where
  dynamic : ∀ message ∈ own.inbox, message.Dynamic
  /-- A channel that knows its peer is held there, is about to be, or is about
  to be released. -/
  backed : ∀ channel ∈ own.channels, channel.remoteTcid ≠ invalidTcid →
    ⟨channel.remoteTcid, channel.localTcid, .activated⟩ ∈ peer.channels ∨
      (⟨channel.remoteTcid, invalidTcid, .activating⟩ ∈ peer.channels ∧
        ∃ message ∈ peer.inbox,
          message.Accepts channel.remoteTcid channel.localTcid) ∨
      (∃ message ∈ own.inbox, message.Releases channel.remoteTcid) ∨
      ∃ message ∈ own.inbox, message.Confirms channel.localTcid
  requested : ∀ message ∈ own.inbox, ∀ tcid, message.Requests tcid →
    ⟨tcid, invalidTcid, .activating⟩ ∈ peer.channels ∨
      ∃ later ∈ own.inbox, later.Releases tcid
  accepted : ∀ message ∈ own.inbox, ∀ tcid given, message.Accepts tcid given →
    ⟨tcid, invalidTcid, .activating⟩ ∈ own.channels →
      ⟨given, tcid, .activated⟩ ∈ peer.channels ∨
        ∃ later ∈ own.inbox, later.Releases given
  asked : ∀ message ∈ peer.inbox, ∀ channel ∈ own.channels,
    message.Releases channel.localTcid → channel.state = .releasing
  confirmed : ∀ message ∈ own.inbox, ∀ channel ∈ own.channels,
    message.Confirms channel.localTcid → channel.state = .releasing
  cached : ∀ cached ∈ own.cachedSignalings, cached.code = .disconnectReq →
    ∀ channel ∈ own.channels, channel.localTcid = cached.srcTcid →
      channel.state = .releasing
  /-- The tcid of the sender was free when it was given out, so that the end
  knows of no channel with it, or hears of the release first. -/
  cleared : ∀ channel ∈ own.channels,
    Preceded (Signaling.Confirms channel.localTcid)
      (Signaling.Opens channel.remoteTcid) own.inbox
  ordered : own.inbox.Pairwise fun earlier later => ∀ tcid,
    later.Opens tcid → ¬ earlier.Asks tcid ∧ ∀ other,
      earlier.Accepts other tcid →
        ⟨other, invalidTcid, .activating⟩ ∉ own.channels
  unanswered : ∀ message ∈ own.inbox, ∀ tcid, message.Opens tcid →
    ∀ response ∈ peer.inbox, ¬ response.Answers tcid
  single : own.inbox.Pairwise fun earlier later => ∀ tcid,
    earlier.Replies tcid → ¬ later.Replies tcid

structure Linked (own peer : End) : Prop where
  stored : own.Stored
  peerStored : peer.Stored
  sound : own.Sound peer
  peerSound : peer.Sound own

end End

namespace Signaling

variable {message : Signaling} {tcid given : Nat}

@[grind →] theorem Releases.asks (releases : message.Releases tcid) :
    message.Asks tcid := by
  cases message <;> simp_all

@[grind →] theorem Accepts.replies (accepts : message.Accepts tcid given) :
    message.Replies tcid := by
  cases message with
  | connectRsp id srcTcid dstTcid result => cases result <;> simp_all
  | _ => exact accepts.elim

@[grind →] theorem Replies.answers (replies : message.Replies tcid) :
    message.Answers tcid := by
  cases message <;> simp_all

@[grind →] theorem Confirms.answers (confirms : message.Confirms tcid) :
    message.Answers tcid := by
  cases message <;> simp_all

@[grind →] theorem Requests.opens (requests : message.Requests tcid) :
    message.Opens tcid :=
  .inl requests

@[grind →] theorem Accepts.opens (accepts : message.Accepts tcid given) :
    message.Opens given :=
  .inr ⟨tcid, accepts⟩

theorem Releases.not_opens {other : Nat} (releases : message.Releases tcid) :
    ¬ message.Opens other := by
  cases message with
  | disconnectReq id srcTcid dstTcid =>
    rintro (none | ⟨_, none⟩)
    · exact none
    · exact none
  | _ => exact releases.elim

end Signaling

namespace End

variable {own peer : End} {tcid given : Nat} {id : UInt8}

@[simp, grind =] theorem channels_post (message : Signaling) :
    (peer.post message).channels = peer.channels := rfl

@[simp, grind =] theorem inbox_post (message : Signaling) :
    (peer.post message).inbox = peer.inbox ++ [message] := rfl

theorem isDynamic_ne (dynamic : isDynamic tcid) : tcid ≠ invalidTcid := by
  rintro rfl
  cases dynamic

theorem Stored.unique (stored : own.Stored) {first second : TransChannel}
    (left : first ∈ own.channels) (right : second ∈ own.channels)
    (same : first.localTcid = second.localTcid) : first = second :=
  inj_on_of_nodup_map stored.distinct left right same

variable {channel : TransChannel}

theorem Stored.add (stored : own.Stored)
    (used : channel.localTcid ∈ own.tcidUsed)
    (dynamic : isDynamic channel.localTcid)
    (formed : (channel.state = .activating ∧ channel.remoteTcid = invalidTcid) ∨
      (channel.state = .activated ∧ isDynamic channel.remoteTcid))
    (free : ∀ other ∈ own.channels, other.localTcid ≠ channel.localTcid)
    (apart : channel.remoteTcid ≠ invalidTcid →
      ∀ other ∈ own.channels, other.remoteTcid ≠ channel.remoteTcid) :
    Stored { own with channels := own.channels ++ [channel] } := by
  obtain ⟨distinct, allUsed, allDynamic, allFormed, allApart⟩ := stored
  constructor
  · rw [map_append]
    refine List.Nodup.append distinct (nodup_singleton _) ?_
    simp only [map_cons, map_nil, disjoint_singleton, mem_map]
    rintro ⟨other, member, same⟩
    exact free other member same
  · grind
  · grind
  · grind
  · grind

theorem Sound.add {message : Signaling} (sound : own.Sound peer)
    (fresh : own.Fresh peer channel.localTcid)
    (opening : ∀ tcid, ¬ message.Releases tcid)
    (backed : channel.remoteTcid ≠ invalidTcid →
      (⟨channel.remoteTcid, invalidTcid, .activating⟩ ∈ peer.channels ∧
        message.Accepts channel.remoteTcid channel.localTcid) ∨
      ∃ release ∈ own.inbox, release.Releases channel.remoteTcid)
    (unopened : ∀ other ∈ own.inbox, ¬ other.Opens channel.remoteTcid)
    (unanswered : ∀ other ∈ own.inbox, ∀ tcid, other.Opens tcid →
      ¬ message.Answers tcid) :
    Sound { own with channels := own.channels ++ [channel] }
      (peer.post message) := by
  obtain ⟨quiet, silent, uncached⟩ := fresh
  constructor
  · exact sound.dynamic
  · have := sound.backed
    grind
  · exact sound.requested
  · have := sound.accepted
    grind
  · have := sound.asked
    grind
  · have := sound.confirmed
    grind
  · have := sound.cached
    grind
  · have := sound.cleared
    have := @preceded_of_none _ (Signaling.Confirms channel.localTcid) _ _
      unopened
    grind
  · refine sound.ordered.imp_of_mem ?_
    grind
  · have := sound.unanswered
    grind
  · exact sound.single

theorem Sound.receive {message : Signaling} (sound : peer.Sound own)
    (fresh : own.Fresh peer channel.localTcid)
    (dynamic : isDynamic channel.localTcid)
    (free : ∀ other ∈ own.channels, other.localTcid ≠ channel.localTcid)
    (formed : message.Dynamic)
    (opening : ∀ tcid, message.Opens tcid → tcid = channel.localTcid)
    (unconfirmed : ∀ tcid, ¬ message.Confirms tcid)
    (requested : ∀ tcid, message.Requests tcid →
      ⟨tcid, invalidTcid, .activating⟩ = channel)
    (accepted : ∀ tcid given, message.Accepts tcid given →
      ⟨given, tcid, .activated⟩ = channel)
    (single : ∀ other ∈ peer.inbox, ∀ tcid, other.Replies tcid →
      ¬ message.Replies tcid) :
    Sound (peer.post message)
      { own with channels := own.channels ++ [channel] } := by
  obtain ⟨quiet, silent, uncached⟩ := fresh
  have valid := isDynamic_ne dynamic
  constructor
  · have := sound.dynamic
    grind
  · have := sound.backed
    grind
  · have := sound.requested
    grind
  · have := sound.accepted
    grind
  · exact sound.asked
  · have := sound.confirmed
    grind
  · exact sound.cached
  · intro known member
    refine (sound.cleared known member).concat fun opens => ?_
    have remote := opening _ opens
    have backed := sound.backed known member (by rw [remote]; exact valid)
    grind
  · refine pairwise_append.mpr ⟨sound.ordered, pairwise_singleton _ _, ?_⟩
    have := sound.accepted
    grind
  · have := sound.unanswered
    grind
  · refine pairwise_append.mpr ⟨sound.single, pairwise_singleton _ _, ?_⟩
    grind

theorem Sound.opens_ne (sound : own.Sound peer) {message : Signaling}
    (member : message ∈ own.inbox) (opens : message.Opens tcid) :
    tcid ≠ invalidTcid := by
  have formed := sound.dynamic message member
  rcases opens with requests | ⟨other, accepts⟩
  · cases message with
    | connectReq id srcTcid config =>
      obtain rfl : srcTcid = tcid := requests
      exact isDynamic_ne formed
    | _ => exact requests.elim
  · cases message with
    | connectRsp id srcTcid dstTcid result =>
      cases result with
      | success =>
        obtain ⟨rfl, rfl⟩ := accepts
        exact isDynamic_ne (formed rfl).2
      | _ => exact accepts.elim
    | _ => exact accepts.elim

theorem Linked.open {config : ChannelConfig} (linked : own.Linked peer)
    (fresh : own.Fresh peer tcid) (dynamic : isDynamic tcid)
    (used : tcid ∈ own.tcidUsed)
    (free : ∀ channel ∈ own.channels, channel.localTcid ≠ tcid) :
    Linked
      { own with
        channels := own.channels ++ [⟨tcid, invalidTcid, .activating⟩] }
      (peer.post (.connectReq id tcid config)) := by
  obtain ⟨stored, peerStored, sound, peerSound⟩ := linked
  constructor
  · exact stored.add used dynamic (.inl ⟨rfl, rfl⟩) free
      (fun valid => absurd rfl valid)
  · exact { peerStored with }
  · refine sound.add fresh (fun _ => not_false) (fun valid => absurd rfl valid) ?_
      (fun _ _ _ _ => not_false)
    intro other member opens
    exact sound.opens_ne member opens rfl
  · refine peerSound.receive fresh dynamic free dynamic ?_ (fun _ => not_false) ?_
      (fun _ _ => False.elim) (fun _ _ _ _ => not_false)
    · rintro other (same | ⟨_, none⟩)
      · exact same.symm
      · exact none.elim
    · rintro other rfl
      rfl

theorem Linked.accept (linked : own.Linked peer)
    (fresh : own.Fresh peer given) (dynamic : isDynamic given)
    (used : given ∈ own.tcidUsed)
    (free : ∀ channel ∈ own.channels, channel.localTcid ≠ given)
    (remoteDynamic : isDynamic tcid)
    (unknown : ∀ channel ∈ own.channels, channel.remoteTcid ≠ tcid)
    (unopened : ∀ message ∈ own.inbox, ¬ message.Opens tcid)
    (unanswered : ∀ message ∈ peer.inbox, ¬ message.Answers tcid)
    (source : ⟨tcid, invalidTcid, .activating⟩ ∈ peer.channels ∨
      ∃ message ∈ own.inbox, message.Releases tcid) :
    Linked { own with channels := own.channels ++ [⟨given, tcid, .activated⟩] }
      (peer.post (.connectRsp id tcid given .success)) := by
  obtain ⟨stored, peerStored, sound, peerSound⟩ := linked
  constructor
  · exact stored.add used dynamic (.inr ⟨rfl, remoteDynamic⟩) free
      (fun _ => unknown)
  · exact { peerStored with }
  · refine sound.add fresh (fun _ => not_false) (fun _ => ?_) unopened ?_
    · exact source.imp_left fun held => ⟨held, rfl, rfl⟩
    · rintro message member other opens rfl
      exact unopened message member opens
  · refine peerSound.receive fresh dynamic free (fun _ => ⟨remoteDynamic,
      dynamic⟩) ?_ (fun _ => not_false) (fun _ => False.elim) ?_ ?_
    · rintro other (none | ⟨_, _, same⟩)
      · exact none.elim
      · exact same.symm
    · rintro other reply ⟨rfl, rfl⟩
      rfl
    · rintro message member other replies rfl
      exact unanswered message member replies.answers

theorem Sound.send {message : Signaling} (sound : own.Sound peer)
    (asked : ∀ channel ∈ own.channels, message.Releases channel.localTcid →
      channel.state = .releasing)
    (unanswered : ∀ other ∈ own.inbox, ∀ tcid, other.Opens tcid →
      ¬ message.Answers tcid) :
    own.Sound (peer.post message) := by
  refine { sound with backed := ?_, asked := ?_, unanswered := ?_ }
  · have := sound.backed
    grind
  · have := sound.asked
    grind
  · have := sound.unanswered
    grind

theorem Sound.queue {message : Signaling} (sound : peer.Sound own)
    (formed : message.Dynamic) (closed : ∀ tcid, ¬ message.Opens tcid)
    (confirmed : ∀ channel ∈ peer.channels,
      message.Confirms channel.localTcid → channel.state = .releasing)
    (single : ∀ other ∈ peer.inbox, ∀ tcid, other.Replies tcid →
      ¬ message.Replies tcid) :
    (peer.post message).Sound own := by
  constructor
  · have := sound.dynamic
    grind
  · have := sound.backed
    grind
  · have := sound.requested
    grind
  · have := sound.accepted
    grind
  · exact sound.asked
  · have := sound.confirmed
    grind
  · exact sound.cached
  · intro channel member
    exact (sound.cleared channel member).concat fun opens =>
      absurd opens (closed _)
  · refine pairwise_append.mpr ⟨sound.ordered, pairwise_singleton _ _, ?_⟩
    grind
  · have := sound.unanswered
    grind
  · refine pairwise_append.mpr ⟨sound.single, pairwise_singleton _ _, ?_⟩
    grind

variable {channels : List TransChannel}

theorem Sound.shrink (sound : own.Sound peer)
    (kept : ∀ channel ∈ channels, channel ∈ own.channels ∨
      (channel.state = .releasing ∧ ∃ state,
        { channel with state } ∈ own.channels)) :
    Sound { own with channels } peer := by
  constructor
  · exact sound.dynamic
  · have := sound.backed
    grind
  · exact sound.requested
  · have := sound.accepted
    grind
  · have := sound.asked
    grind
  · have := sound.confirmed
    grind
  · have := sound.cached
    grind
  · have := sound.cleared
    grind
  · refine sound.ordered.imp_of_mem ?_
    grind
  · exact sound.unanswered
  · exact sound.single

theorem Sound.lose (sound : peer.Sound own)
    (lost : ∀ channel ∈ own.channels, channel ∈ channels ∨
      channel.state = .releasing ∨
      (∃ message ∈ peer.inbox, message.Releases channel.localTcid) ∨
      (channel.state = .activated ∧
        (∃ message ∈ peer.inbox, message.Confirms channel.remoteTcid) ∧
        ⟨channel.remoteTcid, invalidTcid, .activating⟩ ∉ peer.channels) ∨
      (channel.state = .activating ∧
        (∀ message ∈ peer.inbox, ¬ message.Requests channel.localTcid) ∧
        ∀ message ∈ own.inbox, ∀ given,
          ¬ message.Accepts channel.localTcid given)) :
    peer.Sound { own with channels } := by
  refine { sound with backed := ?_, requested := ?_, accepted := ?_ }
  · intro known member valid
    rcases sound.backed known member valid with
      held | ⟨held, accepted⟩ | released
    · grind
    · grind
    · exact .inr (.inr released)
  · have := sound.requested
    grind
  · have := sound.accepted
    grind

def Ignores (own : End) (message : Signaling) : Prop :=
  (∀ tcid given, message.Accepts tcid given →
      ⟨tcid, invalidTcid, .activating⟩ ∉ own.channels) ∧
    ∀ channel ∈ own.channels, ¬ message.Releases channel.remoteTcid ∧
      ¬ message.Confirms channel.localTcid

variable {inbox : List Signaling}

theorem Linked.drop {message : Signaling} (linked : own.Linked peer)
    (queue : own.inbox = message :: inbox) (ignored : own.Ignores message) :
    Linked { own with inbox } peer := by
  obtain ⟨stored, peerStored, sound, peerSound⟩ := linked
  obtain ⟨unaccepted, foreign⟩ := ignored
  have ordered := sound.ordered
  have single := sound.single
  rw [queue, pairwise_cons] at ordered single
  constructor
  · exact { stored with }
  · exact peerStored
  · constructor
    · have := sound.dynamic
      grind
    · have := sound.backed
      grind
    · have := sound.requested
      grind
    · have := sound.accepted
      grind
    · exact sound.asked
    · have := sound.confirmed
      grind
    · exact sound.cached
    · intro channel member
      have cleared := sound.cleared channel member
      rw [queue] at cleared
      exact cleared.2.resolve_left (foreign channel member).2
    · exact ordered.2
    · have := sound.unanswered
      grind
    · exact single.2
  · refine { peerSound with backed := ?_, asked := ?_, unanswered := ?_ }
    · have := peerSound.backed
      grind
    · have := peerSound.asked
      grind
    · have := peerSound.unanswered
      grind

theorem Stored.shrink (stored : own.Stored)
    (kept : channels.Sublist own.channels) :
    Stored { own with channels } := by
  constructor
  · exact stored.distinct.sublist (kept.map _)
  · exact fun channel member => stored.used channel (kept.subset member)
  · exact fun channel member => stored.dynamic channel (kept.subset member)
  · exact fun channel member => stored.formed channel (kept.subset member)
  · exact fun first left second right =>
      stored.apart first (kept.subset left) second (kept.subset right)

section

variable (stored : own.Stored) (held : channel ∈ own.channels)
include stored held

theorem Stored.mem_setState (state : ChannelState) (other : TransChannel) :
    other ∈ (own.setState channel.localTcid state).channels ↔
      (other ∈ own.channels ∧ other.localTcid ≠ channel.localTcid) ∨
        other = { channel with state } := by
  refine (mem_modify stored.distinct).trans (or_congr_right ?_)
  constructor
  · rintro ⟨record, member, same, rfl⟩
    rw [stored.unique member held same]
  · rintro rfl
    exact ⟨channel, held, rfl, rfl⟩

theorem Stored.releasing :
    (own.setState channel.localTcid .releasing).Stored := by
  have marked := stored.mem_setState held .releasing
  constructor
  · have named : (own.setState channel.localTcid .releasing).channels.map
        localTcid = own.channels.map localTcid :=
      map_modify fun _ => rfl
    rw [named]
    exact stored.distinct
  · intro other member
    rcases (marked other).mp member with ⟨known, _⟩ | rfl
    · exact stored.used other known
    · exact stored.used channel held
  · have := stored.dynamic
    grind
  · have := stored.formed
    grind
  · have := stored.apart
    grind

end

variable (linked : own.Linked peer)
include linked

theorem Linked.releasing (held : channel ∈ own.channels) :
    Linked (own.setState channel.localTcid .releasing)
      (peer.post (.disconnectReq id channel.localTcid given)) := by
  obtain ⟨stored, peerStored, sound, peerSound⟩ := linked
  have marked := stored.mem_setState held .releasing
  constructor
  · exact stored.releasing held
  · exact { peerStored with }
  · refine .send (sound.shrink ?_) ?_ (fun _ _ _ _ => not_false)
    · intro other member
      rcases (marked other).mp member with ⟨known, _⟩ | rfl
      · exact .inl known
      · exact .inr ⟨rfl, channel.state, held⟩
    · intro other member same
      rcases (marked other).mp member with ⟨_, differs⟩ | rfl
      · exact absurd same.symm differs
      · rfl
  · refine .lose (peerSound.queue (stored.dynamic channel held) ?_
      (fun _ _ => False.elim) (fun _ _ _ _ => not_false)) ?_
    · rintro other (none | ⟨_, none⟩)
      · exact none
      · exact none
    · intro other member
      by_cases same : other.localTcid = channel.localTcid
      · exact .inr (.inr (.inl
          ⟨.disconnectReq id channel.localTcid given, by simp, same.symm⟩))
      · exact .inl ((marked other).mpr (.inl ⟨member, same⟩))

theorem Linked.refuse {refusal : EstablishResult} (refused : refusal ≠ .success)
    (unopened : ∀ message ∈ own.inbox, ¬ message.Opens tcid)
    (unanswered : ∀ message ∈ peer.inbox, ¬ message.Answers tcid) :
    own.Linked (peer.post (.connectRsp id tcid given refusal)) := by
  obtain ⟨stored, peerStored, sound, peerSound⟩ := linked
  refine ⟨stored, { peerStored with }, ?_, ?_⟩
  · refine sound.send (fun _ _ => False.elim) ?_
    rintro message member other opens rfl
    exact unopened message member opens
  · refine peerSound.queue (fun success => absurd success refused) ?_
      (fun _ _ => False.elim) ?_
    · rintro other (none | ⟨_, accepts⟩)
      · exact none
      · cases refusal with
        | success => exact refused rfl
        | _ => exact accepts
    · rintro message member other replies rfl
      exact unanswered message member replies.answers

theorem Linked.remove
    (settled : ∀ channel ∈ own.channels, channel.localTcid = tcid →
      channel.state = .releasing ∨
      (channel.state = .activating ∧
        (∀ message ∈ peer.inbox, ¬ message.Requests tcid) ∧
        ∀ message ∈ own.inbox, ∀ given, ¬ message.Accepts tcid given)) : Linked
      { own with
        channels := Keyed.remove localTcid tcid own.channels }
      peer := by
  obtain ⟨stored, peerStored, sound, peerSound⟩ := linked
  have kept : ∀ channel, channel ∈ Keyed.remove localTcid tcid own.channels ↔
      channel ∈ own.channels ∧ channel.localTcid ≠ tcid :=
    fun channel => mem_remove stored.distinct
  refine ⟨stored.shrink remove_sublist, peerStored, ?_, ?_⟩
  · exact sound.shrink fun channel member =>
      .inl ((kept channel).mp member).1
  · refine peerSound.lose fun channel member => ?_
    by_cases same : channel.localTcid = tcid
    · grind
    · exact .inl ((kept channel).mpr ⟨member, same⟩)

theorem Linked.released {message : Signaling}
    (queue : own.inbox = message :: inbox) (releases : message.Releases tcid)
    (held : channel ∈ own.channels) (remote : channel.remoteTcid = tcid)
    (dynamic : isDynamic tcid) : Linked
      { own with
        channels := Keyed.remove localTcid channel.localTcid
          own.channels }
      (peer.post (.disconnectRsp id tcid given .success)) := by
  obtain ⟨stored, peerStored, sound, peerSound⟩ := linked
  have kept : ∀ other, other ∈
      Keyed.remove localTcid channel.localTcid own.channels ↔
      other ∈ own.channels ∧ other.localTcid ≠ channel.localTcid :=
    fun other => mem_remove stored.distinct
  have heard : message ∈ own.inbox := by simp [queue]
  have leaving : ∀ known ∈ peer.channels, known.localTcid = tcid →
      known.state = .releasing := by
    rintro known member rfl
    exact peerSound.asked message heard known member releases
  have ordered := sound.ordered
  rw [queue, pairwise_cons] at ordered
  refine ⟨stored.shrink remove_sublist, { peerStored with }, ?_, ?_⟩
  · refine .send (sound.shrink fun other member =>
      .inl ((kept other).mp member).1) (fun _ _ => False.elim) ?_
    rintro other member _ opens rfl
    rw [queue] at member
    rcases mem_cons.mp member with rfl | later
    · exact releases.not_opens opens
    · exact (ordered.1 other later _ opens).1 releases.asks
  · refine .lose (peerSound.queue dynamic ?_ ?_ (fun _ _ _ _ => not_false)) ?_
    · rintro other (none | ⟨_, none⟩)
      · exact none
      · exact none
    · intro known member same
      exact leaving known member same.symm
    · intro other member
      by_cases same : other.localTcid = channel.localTcid
      · obtain rfl := stored.unique member held same
        have valid := isDynamic_ne dynamic
        rcases stored.formed other held with
          ⟨_, invalid⟩ | ⟨activated, _⟩ | ⟨releasing, _⟩
        · exact absurd (remote.symm.trans invalid) valid
        · refine .inr (.inr (.inr (.inl ⟨activated,
            ⟨.disconnectRsp id tcid given .success, by simp, remote.symm⟩, ?_⟩)))
          intro activating
          cases leaving _ activating remote
        · exact .inr (.inl releasing)
      · exact .inl ((kept other).mpr ⟨member, same⟩)

/-- The channels of an end once a response has named the tcid of the peer. -/
def opened (own : End) (tcid given : Nat) : List TransChannel :=
  modify localTcid tcid (fun channel =>
    { channel with remoteTcid := given, state := .activated }) own.channels

section

variable (held : ⟨tcid, invalidTcid, .activating⟩ ∈ own.channels)
include held

omit linked in
theorem Stored.mem_opened (stored : own.Stored) (given : Nat)
    (other : TransChannel) :
    other ∈ own.opened tcid given ↔
      (other ∈ own.channels ∧ other.localTcid ≠ tcid) ∨
        other = ⟨tcid, given, .activated⟩ := by
  refine (mem_modify stored.distinct).trans (or_congr_right ?_)
  constructor
  · rintro ⟨record, member, same, rfl⟩
    rw [same]
  · rintro rfl
    exact ⟨_, held, rfl, rfl⟩

omit linked in
theorem Stored.mem_opened_of_activated (stored : own.Stored)
    {channel : TransChannel} (member : channel ∈ own.channels)
    (activated : channel.state = .activated) :
    channel ∈ own.opened tcid given := by
  refine (stored.mem_opened held given channel).mpr (.inl ⟨member, fun same => ?_⟩)
  have equality := stored.unique member held same
  rw [equality] at activated
  cases activated

omit linked in
theorem Stored.opened (stored : own.Stored) (dynamic : isDynamic given)
    (unknown : ∀ channel ∈ own.channels, channel.remoteTcid ≠ given) : Stored
      { own with
        inbox
        channels := own.opened tcid given } := by
  have changed := stored.mem_opened held given
  constructor
  · have named : (own.opened tcid given).map localTcid =
        own.channels.map localTcid := map_modify fun _ => rfl
    rw [named]
    exact stored.distinct
  · have := stored.used
    grind
  · have := stored.dynamic
    grind
  · have := stored.formed
    grind
  · have := stored.apart
    grind

variable (queue : own.inbox = .connectRsp id tcid given .success :: inbox)
include queue

omit held in
/-- The tcid that the response names is new to the end. -/
theorem Linked.opened_unknown :
    ∀ channel ∈ own.channels, channel.remoteTcid ≠ given := by
  rintro channel member rfl
  have cleared := linked.sound.cleared channel member
  rw [queue] at cleared
  exact cleared.1 (.inr ⟨tcid, rfl, rfl⟩)

theorem Linked.opened_sound : Sound
    { own with
      inbox
      channels := own.opened tcid given }
    peer := by
  have unknown := linked.opened_unknown queue
  obtain ⟨stored, peerStored, sound, _⟩ := linked
  have changed := stored.mem_opened held given
  have heard : Signaling.connectRsp id tcid given .success ∈ own.inbox := by
    simp [queue]
  have accepted := sound.accepted _ heard tcid given ⟨rfl, rfl⟩ held
  have ordered := sound.ordered
  have single := sound.single
  rw [queue, pairwise_cons] at ordered single
  have unopened : ∀ message ∈ inbox, ¬ message.Opens given := by
    intro message member opens
    exact (ordered.1 message member given opens).2 tcid ⟨rfl, rfl⟩ held
  constructor
  · have := sound.dynamic
    grind
  · have := sound.backed
    grind
  · have := sound.requested
    grind
  · have := sound.accepted
    grind
  · have := sound.asked
    grind
  · have := sound.confirmed
    grind
  · have := sound.cached
    grind
  · intro channel member
    rcases (changed channel).mp member with ⟨known, _⟩ | rfl
    · have cleared := sound.cleared channel known
      rw [queue] at cleared
      exact cleared.2.resolve_left not_false
    · exact preceded_of_none unopened
  · refine ordered.2.imp ?_
    grind
  · have := sound.unanswered
    grind
  · exact single.2

theorem Linked.opened_peerSound : Sound peer
    { own with
      inbox
      channels := own.opened tcid given } := by
  obtain ⟨stored, _, sound, peerSound⟩ := linked
  have changed := stored.mem_opened held given
  have kept : ∀ channel ∈ own.channels, channel.state = .activated →
      channel ∈ own.opened tcid given :=
    fun _ => stored.mem_opened_of_activated held
  have heard : Signaling.connectRsp id tcid given .success ∈ own.inbox := by
    simp [queue]
  have single := sound.single
  rw [queue, pairwise_cons] at single
  refine { peerSound with
    backed := ?_, requested := ?_, accepted := ?_, asked := ?_,
    unanswered := ?_ }
  · intro known member valid
    rcases peerSound.backed known member valid with
      activated | ⟨activating, message, queued, accepts⟩ | released
    · exact .inl (kept _ activated rfl)
    · rw [queue] at queued
      rcases mem_cons.mp queued with rfl | later
      · obtain ⟨remote, named⟩ := accepts
        exact .inl ((changed _).mpr (.inr (by rw [remote, named])))
      · have differs : known.remoteTcid ≠ tcid := by
          intro same
          exact single.1 message later _ same.symm accepts.replies
        exact .inr (.inl ⟨(changed _).mpr (.inl ⟨activating, differs⟩),
          message, later, accepts⟩)
    · exact .inr (.inr released)
  · have := peerSound.requested
    have := peerSound.unanswered
    grind
  · intro message member other reply accepts activating
    rcases peerSound.accepted message member other reply accepts activating
      with activated | released
    · exact .inl (kept _ activated rfl)
    · exact .inr released
  · have := peerSound.asked
    grind
  · have := peerSound.unanswered
    grind

theorem Linked.activate : Linked
    { own with
      inbox
      channels := own.opened tcid given }
    peer := by
  have heard : Signaling.connectRsp id tcid given .success ∈ own.inbox := by
    simp [queue]
  obtain ⟨_, dynamic⟩ := linked.sound.dynamic _ heard rfl
  exact ⟨linked.stored.opened held dynamic (linked.opened_unknown queue),
    linked.peerStored, linked.opened_sound held queue,
    linked.opened_peerSound held queue⟩

end

theorem Linked.keep {after : End} (channels : after.channels = own.channels)
    (inbox : after.inbox = own.inbox)
    (used : ∀ channel ∈ own.channels, channel.localTcid ∈ after.tcidUsed)
    (cached : ∀ entry ∈ after.cachedSignalings, entry.code = .disconnectReq →
      entry ∈ own.cachedSignalings ∨
        ∀ channel ∈ own.channels, channel.localTcid = entry.srcTcid →
          channel.state = .releasing) : after.Linked peer := by
  obtain ⟨stored, peerStored, sound, peerSound⟩ := linked
  obtain ⟨afterChannels, tcidUsed, cachedSignalings, identifier,
    afterInbox⟩ := after
  obtain rfl : afterChannels = own.channels := channels
  obtain rfl : afterInbox = own.inbox := inbox
  refine ⟨{ stored with used }, peerStored, { sound with cached := ?_ },
    { peerSound with }⟩
  intro entry member code channel held same
  rcases cached entry member code with old | releasing
  · exact sound.cached entry old code channel held same
  · exact releasing channel held same

end End

end NearLink.Cm
