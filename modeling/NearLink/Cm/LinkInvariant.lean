import NearLink.Cm.LinkTable

/-!
# What the table of logic links keeps

The nodes stay apart by address, by handle and by status, so that the first
match of a lookup is the only one.  Every connection of the controller belongs
to a connected node with its fixed channels or is being released, as long as
no completion is turned away and no release is refused.
-/

namespace NearLink.Cm

open Keyed Transition List

namespace LinkTable

def Activated (table : LinkTable) (lcid : UInt16) : Prop :=
  ∀ tcid ∈ transFixedChannels, ⟨lcid, tcid⟩ ∈ table.fixed

def Recorded (table : LinkTable) (lcid : UInt16) : Prop :=
  ∃ link ∈ table.links, link.status = .connected ∧ link.lcid = lcid

instance (table : LinkTable) (lcid : UInt16) :
    Decidable (table.Recorded lcid) :=
  inferInstanceAs (Decidable (∃ link ∈ table.links,
    link.status = .connected ∧ link.lcid = lcid))

structure Consistent (table : LinkTable) : Prop where
  connecting : table.links.countP (·.status = .connecting) ≤ 1
  addresses : (table.links.map SleLogicLink.rmtAddr).Nodup
  handles :
    ((table.links.map SleLogicLink.lcid).filter (· ≠ invalidLcid)).Nodup
  served : ∀ link ∈ table.links, link.status = .connected →
    table.Activated link.lcid ∨ link.lcid ∈ table.releasing
  known : ∀ lcid ∈ table.live, table.Recorded lcid ∨ lcid ∈ table.releasing

def Honest (table : LinkTable) (event : LinkTask × DliAnswer) : Prop :=
  match event.1 with
  | .connectCbk status evt =>
    status = dliSuccess → evt.status = dliSuccess → evt.connHandle ∉ table.live
  | _ => True

/-- `CM_SleCreateConnectionProc` gets to the end for the handle. -/
def opens (table : LinkTable) (answer : DliAnswer) (lcid : UInt16) : Bool :=
  answer.readRemoteVersion &&
    ! (table.fixed.any fun channel => channel.lcid == lcid) &&
    transFixedChannels.all answer.channelMem

/-- A connection has a place in the table, and what has no place is released.

A passive connection finds its address unused and memory for a node.  An
active one finds the node that is connecting, and no other node with its
address; without such a node the release is taken, and the address is not
connected. -/
def Placed (table : LinkTable) (answer : DliAnswer) (evt : ConnectionComplete) : Prop :=
  if evt.connCompleteType = connCompleteAdv then
    table.getByAddr evt.peerAddress = none ∧ answer.nodeMem = true ∧
      (table.opens answer evt.connHandle ∨ answer.disconnect)
  else if evt.connCompleteType = connCompleteScan then
    if (table.getByStatus .connecting).isSome then
      (∀ link ∈ table.getByAddr evt.peerAddress, link.status = .connecting) ∧
      (table.opens answer evt.connHandle ∨ answer.disconnect)
    else
      (∀ link ∈ table.getByAddr evt.peerAddress,
        link.status ≠ .connected) ∧ answer.disconnect
  else False

/-- No completion is turned away and no release is refused or fails. -/
def Careful (table : LinkTable) (event : LinkTask × DliAnswer) : Prop :=
  match event.1 with
  | .connectCbk status evt =>
    status = dliSuccess → evt.status = dliSuccess →
      evt.connHandle ≠ invalidLcid ∧ table.Placed event.2 evt
  | .disconnectCbk closed connHandle _ =>
    closed ∨ connHandle ∉ table.live ∨
      connHandle ∈ table.releasing.erase connHandle
  | .exception lcid =>
    lcid ≠ invalidLcid → (table.getByLcid lcid).isSome →
      lcid ∈ table.releasing ∨ event.2.disconnect
  | _ => True

structure Apart (first second : SleLogicLink) : Prop where
  addr : first.rmtAddr ≠ second.rmtAddr
  lcid : first.lcid ≠ invalidLcid → first.lcid ≠ second.lcid
  status : first.status = .connecting → second.status ≠ .connecting

theorem Apart.symm {first second : SleLogicLink} (apart : Apart first second) :
    Apart second first := by
  constructor
  · exact apart.addr.symm
  · intro valid same
    exact apart.lcid (fun equality => valid (same.trans equality)) same.symm
  · intro second first
    exact apart.status first second

/-- A node is connecting and has no handle, or it has a live handle; its
channels are there once it is connected, unless its handle is spared. -/
structure Proper (table : LinkTable) (spared : UInt16)
    (link : SleLogicLink) : Prop where
  state :
    (link.status = .connecting ∧ link.lcid = invalidLcid ∧
      link.connCompleteType = connCompleteScan) ∨
    ((link.status = .connected ∨ link.status = .disconnecting) ∧
      link.lcid ∈ table.live)
  served : link.status = .connected → link.lcid ≠ spared →
    table.Activated link.lcid

/-- What holds after every task, for `spared` the invalid handle.  While a
connection is taken in, its handle is spared. -/
structure Invariant (spared : UInt16) (table : LinkTable) : Prop where
  apart : table.links.Pairwise Apart
  proper : ∀ link ∈ table.links, table.Proper spared link
  known : ∀ lcid ∈ table.live, table.Recorded lcid ∨ lcid ∈ table.releasing
  valid : invalidLcid ∉ table.live

namespace Invariant

variable {spared later : UInt16} {table after : LinkTable}
  {link old new : SleLogicLink} {rest : List SleLogicLink}

section

variable (invariant : table.Invariant spared)
include invariant

theorem addresses : (table.links.map SleLogicLink.rmtAddr).Nodup := by
  apply pairwise_map.mpr
  exact invariant.apart.imp fun apart => apart.addr

theorem handles :
    ((table.links.map SleLogicLink.lcid).filter (· ≠ invalidLcid)).Nodup := by
  apply pairwise_filter.mpr
  apply pairwise_map.mpr
  apply invariant.apart.imp
  intro first second apart valid _
  exact apart.lcid (of_decide_eq_true valid)

theorem connecting : table.links.countP (·.status = .connecting) ≤ 1 := by
  have apart := invariant.apart
  generalize table.links = links at apart
  induction links with
  | nil => simp
  | cons link links induction =>
    obtain ⟨first, rest⟩ := pairwise_cons.mp apart
    by_cases status : link.status = .connecting
    · have none : links.countP (·.status = .connecting) = 0 := by
        apply countP_eq_zero.mpr
        intro other member
        simpa using (first other member).status status
      simp [status, none]
    · simpa [status] using induction rest

end

theorem consistent (invariant : table.Invariant invalidLcid) :
    table.Consistent where
  connecting := invariant.connecting
  addresses := invariant.addresses
  handles := invariant.handles
  served := by
    intro link member connected
    have proper := invariant.proper link member
    refine .inl (proper.served connected ?_)
    intro invalid
    cases proper.state with
    | inl pending => simp [pending.1] at connected
    | inr held => exact invariant.valid (invalid ▸ held.2)
  known := invariant.known

section

variable {spared : UInt16} (invariant : table.Invariant spared)
include invariant

theorem held (member : link ∈ table.links) (valid : link.lcid ≠ invalidLcid)
    : link.lcid ∈ table.live := by
  cases (invariant.proper link member).state with
  | inl pending => exact absurd pending.2.1 valid
  | inr held => exact held.2

theorem pending (member : link ∈ table.links)
    (status : link.status = .connecting) :
    link.lcid = invalidLcid ∧ link.connCompleteType = connCompleteScan := by
  cases (invariant.proper link member).state with
  | inl pending => exact pending.2
  | inr held => simp [status] at held

theorem erase (before : table.links.Perm (old :: rest))
    (now : after.links.Perm rest)
    (proper : ∀ link ∈ rest, Apart old link → table.Proper spared link →
      after.Proper spared link)
    (live : ∀ lcid ∈ after.live, lcid ∈ table.live ∧
      (lcid ≠ old.lcid ∨ lcid ∈ after.releasing))
    (releasing : ∀ lcid ∈ after.live, lcid ∈ table.releasing →
      lcid ∈ after.releasing) : after.Invariant spared := by
  have apart := (before.pairwise_iff Apart.symm).mp invariant.apart
  obtain ⟨first, others⟩ := pairwise_cons.mp apart
  constructor
  · exact (now.pairwise_iff Apart.symm).mpr others
  · intro link member
    have inRest := now.mem_iff.mp member
    apply proper link inRest (first link inRest)
    exact invariant.proper link
      (before.mem_iff.mpr (mem_cons_of_mem old inRest))
  · intro lcid member
    obtain ⟨wasLive, differs⟩ := live lcid member
    rcases invariant.known lcid wasLive with recorded | released
    · obtain ⟨link, inLinks, connected, named⟩ := recorded
      rcases mem_cons.mp (before.mem_iff.mp inLinks) with same | inRest
      · rw [same] at named
        exact differs.elim (fun other => absurd named.symm other) .inr
      · exact .inl ⟨link, now.mem_iff.mpr inRest, connected, named⟩
    · exact .inr (releasing lcid member released)
  · intro member
    exact invariant.valid (live _ member).1

theorem renew (before : table.links.Perm (old :: rest))
    (now : after.links.Perm (new :: rest)) (addr : new.rmtAddr = old.rmtAddr)
    (lcid : new.lcid = old.lcid) (status : new.status ≠ .connecting)
    (proper : after.Proper later new)
    (others : ∀ link ∈ rest, Apart old link → table.Proper spared link →
      after.Proper later link) (live : after.live = table.live)
    (recorded : new.status = .connected ∨ old.lcid ∈ after.releasing)
    (releasing : ∀ lcid ∈ table.releasing, lcid ∈ after.releasing) :
    after.Invariant later := by
  have apart := (before.pairwise_iff Apart.symm).mp invariant.apart
  obtain ⟨first, rests⟩ := pairwise_cons.mp apart
  constructor
  · apply (now.pairwise_iff Apart.symm).mpr
    apply List.Pairwise.cons _ rests
    intro link inRest
    have differs := first link inRest
    exact ⟨addr ▸ differs.addr, lcid ▸ differs.lcid,
      fun connecting => absurd connecting status⟩
  · intro link member
    rcases mem_cons.mp (now.mem_iff.mp member) with same | inRest
    · rw [same]
      exact proper
    · apply others link inRest (first link inRest)
      exact invariant.proper link
        (before.mem_iff.mpr (mem_cons_of_mem old inRest))
  · intro handle member
    rw [live] at member
    rcases invariant.known handle member with found | released
    · obtain ⟨link, inLinks, connected, named⟩ := found
      rcases mem_cons.mp (before.mem_iff.mp inLinks) with same | inRest
      · rw [same] at named
        cases recorded with
        | inl stays =>
          exact .inl ⟨new, now.mem_iff.mpr mem_cons_self, stays,
            lcid.trans named⟩
        | inr released => exact .inr (named ▸ released)
      · exact .inl ⟨link,
          now.mem_iff.mpr (mem_cons_of_mem new inRest), connected, named⟩
    · exact .inr (releasing handle released)
  · rw [live]
    exact invariant.valid

theorem join (now : after.links.Perm (new :: table.links))
    (apart : ∀ link ∈ table.links, Apart new link)
    (proper : after.Proper later new)
    (others : ∀ link ∈ table.links, table.Proper spared link →
      after.Proper later link)
    (live : ∀ lcid ∈ after.live, lcid ∈ table.live ∨
      (new.status = .connected ∧ new.lcid = lcid))
    (releasing : ∀ lcid ∈ table.releasing, lcid ∈ after.releasing)
    (valid : invalidLcid ∉ after.live) : after.Invariant later := by
  constructor
  · apply (now.pairwise_iff Apart.symm).mpr
    exact List.Pairwise.cons apart invariant.apart
  · intro link member
    rcases mem_cons.mp (now.mem_iff.mp member) with same | old
    · rw [same]
      exact proper
    · exact others link old (invariant.proper link old)
  · intro lcid member
    rcases live lcid member with wasLive | named
    · rcases invariant.known lcid wasLive with recorded | released
      · obtain ⟨link, inLinks, found⟩ := recorded
        exact .inl ⟨link, now.mem_iff.mpr (mem_cons_of_mem new inLinks), found⟩
      · exact .inr (releasing lcid released)
    · exact .inl ⟨new, now.mem_iff.mpr mem_cons_self, named⟩
  · exact valid

end

end Invariant

structure SameBut (table : LinkTable) (lcid : UInt16)
    (after : LinkTable) : Prop where
  links : after.links = table.links
  live : after.live = table.live
  releasing : after.releasing = table.releasing
  fixed : ∀ channel ∈ table.fixed, channel.lcid ≠ lcid → channel ∈ after.fixed

variable {lcid : UInt16} {after : LinkTable} {answer : DliAnswer}

theorem SameBut.trans {table next : LinkTable} (first : table.SameBut lcid next)
    (second : next.SameBut lcid after) : table.SameBut lcid after where
  links := second.links.trans first.links
  live := second.live.trans first.live
  releasing := second.releasing.trans first.releasing
  fixed := fun channel member differs =>
    second.fixed channel (first.fixed channel member differs) differs

theorem SameBut.activated {table : LinkTable} {other : UInt16}
    (same : table.SameBut lcid after) (differs : other ≠ lcid)
    (activated : table.Activated other) : after.Activated other := by
  intro tcid member
  exact same.fixed _ (activated tcid member) differs

section

variable (table : LinkTable) {answer : DliAnswer} {tcids : List UInt8}
include table

section

variable (answer : DliAnswer) (lcid : UInt16)

theorem releaseFixed_sameBut :
    table.SameBut lcid (table.releaseFixedTransChannel answer lcid) where
  links := rfl
  live := rfl
  releasing := rfl
  fixed := by
    intro channel member differs
    apply mem_filter.mpr
    exact ⟨member, by simp [differs]⟩

theorem allocFixed_sameBut (tcids : List UInt8) :
    table.SameBut lcid (table.allocFixed answer lcid tcids).1 := by
  induction tcids generalizing table with
  | nil => exact ⟨rfl, rfl, rfl, fun _ member _ => member⟩
  | cons tcid tcids induction =>
    rw [allocFixed]
    by_cases granted :
        ((table.getByLcid lcid).isSome && answer.channelMem tcid) = true
    · rw [if_pos granted]
      have added : table.SameBut lcid (table.addFixed lcid tcid) :=
        ⟨rfl, rfl, rfl, fun _ member _ => mem_append_left _ member⟩
      exact added.trans (induction (table.addFixed lcid tcid))
    · rw [if_neg granted]
      exact releaseFixed_sameBut table answer lcid

end

theorem allocFixed_of_mem (named : (table.getByLcid lcid).isSome)
    (granted : tcids.all answer.channelMem = true) :
    (table.allocFixed answer lcid tcids).2 = true := by
  induction tcids generalizing table with
  | nil => rfl
  | cons tcid tcids induction =>
    rw [all_cons, Bool.and_eq_true] at granted
    rw [allocFixed, named, granted.1, if_pos (by rfl)]
    exact induction (table.addFixed lcid tcid) named granted.2

theorem allocFixed_fixed (ended : (table.allocFixed answer lcid tcids).2 =
      true) :
    (∀ channel ∈ table.fixed,
      channel ∈ (table.allocFixed answer lcid tcids).1.fixed) ∧
    ∀ tcid ∈ tcids,
      ⟨lcid, tcid⟩ ∈ (table.allocFixed answer lcid tcids).1.fixed := by
  induction tcids generalizing table with
  | nil => simp [allocFixed]
  | cons tcid tcids induction =>
    rw [allocFixed] at ended ⊢
    by_cases granted :
        ((table.getByLcid lcid).isSome && answer.channelMem tcid) = true
    · rw [if_pos granted] at ended ⊢
      obtain ⟨kept, added⟩ := induction (table.addFixed lcid tcid) ended
      constructor
      · intro channel member
        exact kept channel (mem_append_left _ member)
      · intro other member
        rcases mem_cons.mp member with same | later
        · rw [same]
          exact kept _ (mem_append_right _ (mem_singleton.mpr rfl))
        · exact added other later
    · rw [if_neg granted] at ended
      cases ended

theorem activateFixed_sameBut (answer : DliAnswer) (lcid : UInt16) :
    table.SameBut lcid (table.activateFixedTransChannel answer lcid).1 := by
  rw [activateFixedTransChannel]
  split
  · exact ⟨rfl, rfl, rfl, fun _ member _ => member⟩
  · exact allocFixed_sameBut table answer lcid transFixedChannels

end

theorem activated_of_activateFixed {table : LinkTable}
    (opened : (table.activateFixedTransChannel answer lcid).2 = true) :
    (table.activateFixedTransChannel answer lcid).1.Activated lcid := by
  rw [activateFixedTransChannel] at opened ⊢
  by_cases used : (table.fixed.any fun channel => channel.lcid == lcid) = true
  · rw [if_pos used] at opened
    cases opened
  · rw [if_neg used] at opened ⊢
    exact (allocFixed_fixed table opened).2

theorem activateFixed_of_opens {table : LinkTable}
    (named : (table.getByLcid lcid).isSome)
    (opens : table.opens answer lcid = true) : answer.readRemoteVersion = true ∧
      (table.activateFixedTransChannel answer lcid).2 = true := by
  simp only [LinkTable.opens, Bool.and_eq_true, Bool.not_eq_true'] at opens
  obtain ⟨⟨version, unused⟩, granted⟩ := opens
  constructor
  · exact version
  · rw [activateFixedTransChannel, unused]
    exact allocFixed_of_mem table named granted

section

variable (table : LinkTable)

theorem accessRelease_kept (answer : DliAnswer) (lcid : UInt16)
    (discReason : UInt8) :
    let released := (table.accessLinkReleaseReq answer lcid discReason).1
    released.links = table.links ∧ released.live = table.live ∧
      released.fixed = table.fixed := by
  unfold accessLinkReleaseReq
  split_ifs <;> exact ⟨rfl, rfl, rfl⟩

theorem accessRelease_releasing (answer : DliAnswer) (lcid : UInt16)
    (discReason : UInt8) :
    (table.accessLinkReleaseReq answer lcid discReason).1.releasing =
      if lcid ≠ invalidLcid ∧ answer.disconnect then lcid :: table.releasing
      else table.releasing := by
  unfold accessLinkReleaseReq
  split_ifs <;> simp_all [command]

end

namespace Invariant

variable {spared : UInt16} {table after : LinkTable}
  (invariant : table.Invariant spared)
include invariant

theorem reorder (links : after.links.Perm table.links)
    (fixed : after.fixed = table.fixed) (live : after.live = table.live)
    (releasing : after.releasing = table.releasing) :
    after.Invariant spared := by
  constructor
  · exact (links.pairwise_iff Apart.symm).mpr invariant.apart
  · intro link member
    have proper := invariant.proper link (links.mem_iff.mp member)
    refine ⟨by rw [live]; exact proper.state, ?_⟩
    rw [Activated, fixed]
    exact proper.served
  · intro lcid member
    rw [live] at member
    rw [releasing]
    apply (invariant.known lcid member).imp_left
    rintro ⟨link, inLinks, found⟩
    exact ⟨link, links.mem_iff.mpr inLinks, found⟩
  · rw [live]
    exact invariant.valid

theorem congr (links : after.links = table.links)
    (fixed : after.fixed = table.fixed) (live : after.live = table.live)
    (releasing : after.releasing = table.releasing) : after.Invariant spared :=
  invariant.reorder (.of_eq links) fixed live releasing

theorem abandon {old : SleLogicLink} {rest : List SleLogicLink}
    (before : table.links.Perm (old :: rest))
    (now : after.links.Perm ({ old with status := .disconnecting } :: rest))
    (holds : old.lcid ∈ table.live)
    (only : spared = old.lcid ∨ spared = invalidLcid)
    (live : after.live = table.live)
    (fixed : ∀ channel ∈ table.fixed, channel.lcid ≠ old.lcid →
      channel ∈ after.fixed) (released : old.lcid ∈ after.releasing)
    (releasing : ∀ lcid ∈ table.releasing, lcid ∈ after.releasing) :
    after.Invariant invalidLcid := by
  have valid : old.lcid ≠ invalidLcid := by
    intro invalid
    exact invariant.valid (invalid ▸ holds)
  apply invariant.renew before now rfl rfl (by simp) _ _ live
    (.inr released) releasing
  · exact ⟨.inr ⟨.inr rfl, live ▸ holds⟩, by simp⟩
  · intro link inRest apart proper
    refine ⟨by rw [live]; exact proper.state, ?_⟩
    intro connected otherValid tcid member
    have unspared : link.lcid ≠ spared := by
      intro same
      cases only with
      | inl equality => exact apart.lcid valid (same.trans equality).symm
      | inr invalid => exact otherValid (same.trans invalid)
    apply fixed _ (proper.served connected unspared tcid member)
    exact (apart.lcid valid).symm

end Invariant

end LinkTable

end NearLink.Cm
