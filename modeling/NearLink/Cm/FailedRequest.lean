import NearLink.Cm.ConcurrentInvariant

/-!
# Failed connection requests

A request that fails destroys the nodes of all addresses it names, whoever
wants them.  Nobody is disturbed exactly where no such node was in the table
before.
-/

namespace NearLink.Cm

open Keyed Transition List

namespace ConnTable

variable {table other : ConnTable} {addr : SleAddr} {lower : Lower}
  {moduleId : UInt8} {bgAddrs : List BgConnAddr}

/-- The connections that modules want are the same in both tables, with the
same timers and flags. -/
structure Undisturbed (before after : ConnTable) : Prop where
  direct : ∀ addr moduleId,
    after.directEntry addr moduleId = before.directEntry addr moduleId
  background : ∀ addr moduleId,
    after.bgEntry addr moduleId = before.bgEntry addr moduleId
  timers : ∀ timer, timer ∈ after.timers ↔ timer ∈ before.timers

/-- A connection request that is taken up and fails: where memory or a timer
is missing, the cancel fails, or the allow list, the collaboration or the
connection cannot be started. -/
def failed (table : ConnTable) (lower : Lower) : ConnEvent → Bool
  | .directConnectAdd moduleId addr frameType =>
    table.sizeConnectingDev ≤ maxConnectingDevNum && ! lower.connected addr &&
      ! (table.begin.directConnectDoingConnList lower moduleId addr frameType).2
  | .backgroundConnectAdd moduleId bgAddrs =>
    table.sizeConnectingDev ≤ maxConnectingDevNum && (! lower.taskMem ||
        ! (table.begin.bgConnectAddAll lower moduleId bgAddrs).2)
  | _ => false

/-- The request cannot even be copied, or none of its addresses has a node in
the table. -/
def Unshared (table : ConnTable) (lower : Lower) (event : ConnEvent) : Prop :=
  (lower.taskMem = false ∧
      ∃ moduleId bgAddrs, event = .backgroundConnectAdd moduleId bgAddrs) ∨
    ∀ addr ∈ event.requested, table.connectingDevFind addr = none

section

variable (formed : table.Formed) (formedOther : other.Formed)
  (same : ∀ addr, other.connectingDevFind addr = table.connectingDevFind addr)
include formed formedOther same

theorem Formed.timers_iff (timer : ConnTimer)
    : timer ∈ other.timers ↔ timer ∈ table.timers := by
  have members (dev : ConnectingDev) :
      dev ∈ other.devices ↔ dev ∈ table.devices := by
    constructor
    · intro member
      have located := formedOther.find_of_mem member
      rw [same] at located
      exact (find_mem located).1
    · intro member
      have located := formed.find_of_mem member
      rw [← same] at located
      exact (find_mem located).1
  rw [formed.running.mem_iff, formedOther.running.mem_iff]
  unfold owned
  simp only [mem_flatMap, members]

theorem undisturbed_of_find :
    Undisturbed table other := by
  refine ⟨fun addr => directEntry_congr (same addr), ?_,
    formed.timers_iff formedOther same⟩
  intro addr moduleId
  unfold bgEntry
  rw [same]

end

theorem Invariant.disturbed (invariant : table.Invariant) {dev : ConnectingDev}
    (located : table.connectingDevFind addr = some dev)
    (gone : other.connectingDevFind addr = none) :
    ¬ Undisturbed table other := by
  intro undisturbed
  have proper := invariant.formed.devs dev (find_mem located).1
  rcases find_wanted invariant.wanted located with direct | background
  · obtain ⟨conn, member⟩ := exists_mem_of_ne_nil _ direct
    have kept := undisturbed.direct addr conn.moduleId
    unfold directEntry at kept
    rw [gone, located, Option.bind_some, proper.find member] at kept
    cases kept
  · obtain ⟨conn, member⟩ := exists_mem_of_ne_nil _ background
    have kept := undisturbed.background addr conn.moduleId
    unfold bgEntry ConnectingDev.doingConnBgFind at kept
    rw [gone, located, Option.bind_some] at kept
    exact lookup_eq_none.mp kept.symm (mem_map_of_mem member)

theorem Formed.find_direct_failed (formed : table.Formed)
    (supported : addr.Supported) (named : addr ≠ SleAddr.empty)
    {frameType : UInt8}
    (failure : (table.directConnectDoingConnList lower moduleId addr
      frameType).2 = false) (wanted : SleAddr) :
    (((table.directConnectDoingConnList lower moduleId addr frameType).1
      |>.notifyDirectConnectFailed moduleId addr
        dliMemoryCapacityExceeded).destroyConnectingDevMap
          [addr]).connectingDevFind wanted =
      if wanted ∈ [addr] then none else table.connectingDevFind wanted := by
  have doing := directConnectDoingConnList_doing formed lower supported
    named moduleId frameType
  have alike := (report_alike (table.directConnectDoingConnList lower
    moduleId addr frameType).1 ⟨moduleId, invalidLcid, addr, .disconnected,
      dliMemoryCapacityExceeded⟩).erase addr
  by_cases same : wanted = addr
  · rw [if_pos (by simp [same]), same]
    exact (alike.find addr).trans (doing.cleared failure).2
  · rw [if_neg (by simp [same])]
    exact (alike.find wanted).trans
      ((find_erase_ne same).trans (doing.elsewhere wanted same))

theorem Formed.find_bg_failed (formed : table.Formed) (lower : Lower)
    (moduleId : UInt8) (supported : ∀ bgAddr ∈ bgAddrs, bgAddr.addr.Supported)
    (wanted : SleAddr) :
    ((table.bgConnectAddAll lower moduleId bgAddrs).1.destroyConnectingDevMap
      (bgAddrs.map BgConnAddr.addr)).connectingDevFind wanted =
      if wanted ∈ bgAddrs.map BgConnAddr.addr then none
      else table.connectingDevFind wanted := by
  have listing := bgConnectAddAll_listing formed lower moduleId supported
  rw [listing.kept.formed.find_destroy]
  by_cases member : wanted ∈ bgAddrs.map BgConnAddr.addr
  · rw [if_pos member, if_pos member]
  · rw [if_neg member, if_neg member]
    exact listing.elsewhere wanted member

theorem Invariant.find_failed (invariant : table.Invariant)
    {event : ConnEvent} (supported : event.Supported)
    (accepted : event.accepted = true) (fails : table.failed lower event = true)
    (copied : ¬ (lower.taskMem = false ∧
      ∃ moduleId bgAddrs, event = .backgroundConnectAdd moduleId bgAddrs))
    (addr : SleAddr) :
    (table.step (event, lower)).connectingDevFind addr =
      if addr ∈ event.requested then none
      else table.connectingDevFind addr := by
  have start : table.begin.Formed :=
    (begin_alike table).formed invariant.formed
  unfold ConnTable.step
  rw [if_pos accepted]
  cases event with
  | directConnectAdd moduleId wanted frameType =>
    simp only [failed, Bool.and_eq_true, decide_eq_true_eq,
      Bool.not_eq_true'] at fails
    obtain ⟨⟨room, notConnected⟩, failure⟩ := fails
    have within : ¬ maxConnectingDevNum < table.begin.sizeConnectingDev :=
      Nat.not_lt.mpr room
    have named : wanted ≠ SleAddr.empty := by
      simp only [ConnEvent.accepted, Bool.and_eq_true, bne_iff_ne,
        ne_eq] at accepted
      exact accepted.2
    simp only [handle, directConnectAddInner, within, if_false,
      notConnected, Bool.false_eq_true, failure]
    exact start.find_direct_failed
      (supported wanted (by simp [ConnEvent.requested])) named failure addr
  | backgroundConnectAdd moduleId bgAddrs =>
    have copy : lower.taskMem = true := by
      by_contra missing
      exact copied ⟨Bool.eq_false_iff.mpr missing, moduleId, bgAddrs, rfl⟩
    simp only [failed, copy, Bool.and_eq_true, decide_eq_true_eq,
      Bool.not_true, Bool.false_or, Bool.not_eq_true'] at fails
    obtain ⟨room, failure⟩ := fails
    have within : ¬ maxConnectingDevNum < table.begin.sizeConnectingDev :=
      Nat.not_lt.mpr room
    simp only [handle, bgConnectAddInner, within, if_false, copy,
      Bool.not_true, Bool.false_eq_true, failure]
    exact start.find_bg_failed lower moduleId (fun bgAddr member =>
      supported bgAddr.addr (mem_map_of_mem member)) addr
  | _ => cases fails

theorem uncopied_alike (missing : lower.taskMem = false) : Alike table
      (table.step (.backgroundConnectAdd moduleId bgAddrs, lower)) := by
  unfold step
  split
  · have same : table.begin.bgConnectAddInner lower moduleId bgAddrs =
        table.begin := by
      unfold bgConnectAddInner
      simp [missing]
    show Alike table (table.begin.bgConnectAddInner lower moduleId bgAddrs)
    rw [same]
    exact .refl table
  · exact .refl table

/-- After any run of supported requests, a request that fails disturbs nobody
exactly where it cannot be copied or none of its addresses has a node in the
table. -/
theorem undisturbed_iff (events : List (ConnEvent × Lower))
    (supportedBefore : ∀ event ∈ events, event.1.Supported)
    (event : ConnEvent) (lower : Lower) (supported : event.Supported)
    (accepted : event.accepted = true)
    (fails : (run step init events).failed lower event = true) :
    Undisturbed (run step init events)
        ((run step init events).step (event, lower)) ↔
      (run step init events).Unshared lower event := by
  have invariant : (run step init events).Invariant := by
    apply run_invariant (fun _ event kept => kept.step event) Invariant.init
    exact meets_of_forall supportedBefore
  generalize run step init events = table at fails invariant ⊢
  have after := invariant.step (event, lower) supported
  by_cases copied : lower.taskMem = false ∧
      ∃ moduleId bgAddrs, event = .backgroundConnectAdd moduleId bgAddrs
  · refine iff_of_true ?_ (.inl copied)
    obtain ⟨missing, moduleId, bgAddrs, rfl⟩ := copied
    exact undisturbed_of_find invariant.formed after.formed
      (uncopied_alike missing).find
  have found := invariant.find_failed supported accepted fails copied
  constructor
  · intro undisturbed
    right
    intro addr member
    cases located : table.connectingDevFind addr with
    | none => rfl
    | some dev =>
      have gone := found addr
      rw [if_pos member] at gone
      exact absurd undisturbed (invariant.disturbed located gone)
  · intro unshared
    apply undisturbed_of_find invariant.formed after.formed
    intro addr
    rw [found addr]
    split
    next member =>
      exact ((unshared.resolve_left copied) addr member).symm
    · rfl

/-- A direct request to a device that nobody wants, with a cancel that
fails. -/
theorem undisturbed_unwanted :
    Undisturbed (run step init
        [(.directConnectAdd moduleSsap ⟨0, 0x1234⟩ 0, Lower.willing 7)])
      ((run step init [(.directConnectAdd moduleSsap ⟨0, 0x1234⟩ 0,
          Lower.willing 7)]).step
        (.directConnectAdd moduleBnl ⟨0, 0x5678⟩ 0,
          { Lower.willing 8 with cancel := false })) :=
  (undisturbed_iff _ (by decide) _ _ (by decide) (by decide)
    (by decide)).mpr (.inr (by decide))

/-- A direct request to a device that another module is connecting to, with a
cancel that fails: the entry of the other module is gone. -/
theorem undisturbed_fails :
    (run step init [(.directConnectAdd moduleSsap ⟨0, 0x1234⟩ 0,
          Lower.willing 7)]).failed
        { Lower.willing 8 with cancel := false }
        (.directConnectAdd moduleBnl ⟨0, 0x1234⟩ 0) = true ∧
      ¬ Undisturbed (run step init
          [(.directConnectAdd moduleSsap ⟨0, 0x1234⟩ 0, Lower.willing 7)])
        ((run step init [(.directConnectAdd moduleSsap ⟨0, 0x1234⟩ 0,
            Lower.willing 7)]).step
          (.directConnectAdd moduleBnl ⟨0, 0x1234⟩ 0,
            { Lower.willing 8 with cancel := false })) := by
  refine ⟨by decide, ?_⟩
  intro undisturbed
  have kept := undisturbed.direct ⟨0, 0x1234⟩ moduleSsap
  revert kept
  decide

end ConnTable

end NearLink.Cm
