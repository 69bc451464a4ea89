import NearLink.Qosm.ChannelList

/-!
# The quality of a link

The recorded slqi of a link follows the channels that are listed for it.  It is
chosen anew when an answer to a request of this side was heard, unless the
channel is one of the frames of type 4; a channel that the peer asks for or
releases changes the list only.
-/

namespace NearLink.Qosm

open Keyed Transition Cm List Device Tables

section Pools

variable {device after : Device} {event : DeviceEvent}

def routed (device : Device) : List Nat := device.pools.map TcidPool.lcid

theorem routed_congr (pools : after.pools = device.pools) :
    routed after = routed device := by
  unfold routed
  rw [pools]

section

variable (device : Device)

theorem routed_dynTcidRelease (lcid tcid : Nat) (unicast : Bool) :
    routed (device.dynTcidRelease lcid tcid unicast) = routed device := by
  unfold Device.dynTcidRelease
  split
  · exact map_modify fun _ => rfl
  · rfl

theorem routed_opened (channel : DynChannel) :
    routed (device.opened channel) = routed device :=
  map_modify fun _ => rfl

theorem routed_endChannel (row : ChanEvent) (channel : DynChannel)
    (report : DeviceLog) :
    routed (device.endChannel row channel report) = routed device :=
  routed_dynTcidRelease
    (((device.note (.moved row channel.state)).note report).freeChannel
      channel) _ _ _

end

theorem routed_outcome (up : ∀ lcid allocated, event ≠ .linkUp lcid allocated)
    (down : ∀ lcid allocated, event ≠ .linkDown lcid allocated)
    (outcome : device.Outcome event after) :
    routed after = routed device := by
  cases outcome with
  | unmoved unmoved => exact routed_congr unmoved.pools
  | requested free unmoved armed =>
    exact (routed_congr unmoved.pools).trans (routed_opened _ _)
  | established establishes => rfl
  | releasing starts unmoved armed => exact routed_congr unmoved.pools
  | unreleased starts unmoved => exact routed_congr unmoved.pools
  | accepted dynamic new free unmoved =>
    exact (routed_congr unmoved.pools).trans (routed_opened _ _)
  | disconnected releases unmoved =>
    exact (routed_congr unmoved.pools).trans (routed_dynTcidRelease _ _ _ _)
  | linkUp same => exact absurd same (up _ _)
  | linkDown same => exact absurd same (down _ _)
  | _ => exact routed_endChannel _ _ _ _

theorem routed_step (formed : device.Formed)
    (up : ∀ lcid allocated, event ≠ .linkUp lcid allocated)
    (down : ∀ lcid allocated, event ≠ .linkDown lcid allocated) :
    routed (device.step event) = routed device := by
  obtain ⟨core, outcome, settled⟩ := device.step_outcome formed event
  rw [routed_congr settled.pools, routed_outcome up down outcome]
  exact routed_congr (Moved.begun_pools device event)

theorem routed_linkUp (device : Device) (lcid : Nat) (allocated : Bool)
    {other : Nat} (routes : other ∈ routed (device.linkUp lcid allocated)) :
    other ∈ routed device ∨ other = lcid := by
  obtain ⟨pool, member, rfl⟩ := mem_map.mp routes
  cases allocated with
  | false => exact .inl (mem_map_of_mem member)
  | true =>
    have either : ∀ pool ∈ device.pools,
        pool.lcid ∈ routed device ∨ pool.lcid = lcid :=
      fun pool member => .inl (mem_map_of_mem member)
    exact forall_ensure either (.inr rfl) pool member

theorem nodup_routed_linkUp (unique : (routed device).Nodup) (lcid : Nat)
    (allocated : Bool) : (routed (device.linkUp lcid allocated)).Nodup := by
  cases allocated with
  | false => exact unique
  | true => exact nodup_ensure rfl unique

theorem routed_linkDown (formed : device.Formed)
    (unique : (routed device).Nodup) (lcid : Nat) (allocated : Bool) :
    routed (device.linkDown lcid allocated) =
      (routed device).filter fun other => other ≠ lcid := by
  rw [linkDown_eq formed]
  show (remove TcidPool.lcid lcid device.pools).map TcidPool.lcid = _
  rw [remove_eq_filter unique]
  unfold routed
  rw [filter_map]
  rfl

theorem routed_of_channel (placed : device.Placed) {channel : DynChannel}
    (member : channel ∈ device.channels) : channel.lcid ∈ routed device := by
  obtain ⟨pool, located⟩ :=
    poolOf_of_used (placed.marked channel member)
  have named : pool.lcid = channel.lcid := lookup_key located
  rw [← named]
  exact mem_map_of_mem (lookup_mem located)

end Pools

namespace Tables

variable {fate : Fate}

theorem relistOn_of_none {lcid : Nat} {list : List TransChannel}
    {entry : DeviceLog} (lists : listing entry = none) :
    relistOn lcid list entry = list := by
  simp only [relistOn, lists]

theorem foldl_answered_list (node : fate.channelNode = true)
    (entries : List DeviceLog) (tables : Tables) (lcid : Nat) :
    ((entries.foldl (answered fate) tables).logicLinkFind lcid).map
        LogicLink.list =
      (tables.logicLinkFind lcid).map fun link =>
        entries.foldl (relistOn lcid) link.list := by
  induction entries generalizing tables with
  | nil => rfl
  | cons entry entries induction =>
    rw [foldl_cons, induction]
    cases lists : listing entry with
    | none =>
      rw [find_answered_unlisted tables fate lists]
      simp only [foldl_cons, relistOn_of_none lists]
    | some listed =>
      obtain ⟨channel, live⟩ := listed
      rw [find_answered tables fate lists, Option.map_map]
      congr 1
      funext link
      simp only [Function.comp_apply, foldl_cons, relistOn_of_listing lists]
      split
      · rw [link.heard_list node lists]
      · rfl

section

variable (fate : Fate) (entries : List DeviceLog) (tables : Tables)

theorem foldl_answered_standing (lcid : Nat) :
    standing lcid (entries.foldl (answered fate) tables).log =
      entries.foldl (relistOn lcid) (standing lcid tables.log) := by
  induction entries generalizing tables with
  | nil => rfl
  | cons entry entries induction =>
    rw [foldl_cons, induction, foldl_cons]
    congr 1
    cases lists : listing entry with
    | none =>
      rw [standing_answered_unlisted tables fate lists, relistOn_of_none lists]
    | some listed =>
      rw [standing_answered tables fate lists, relistOn_of_listing lists]

theorem foldl_answered_keys :
    (entries.foldl (answered fate) tables).links.map LogicLink.lcid =
      tables.links.map LogicLink.lcid := by
  induction entries generalizing tables with
  | nil => rfl
  | cons entry entries induction =>
    rw [foldl_cons, induction]
    cases lists : listing entry with
    | none => rw [(answered_unlisted tables fate lists).1]
    | some listed =>
      obtain ⟨number, rsp, after, _⟩ := answered_hears tables fate lists
      rw [after]
      exact map_modify fun link => link.heard_lcid fate entry

end

/-- The lists are those of the reports, and their channels are those of the
device; every link with a pool has a record. -/
structure Tends (tables : Tables) (channels : List DynChannel)
    (routes : List Nat) : Prop where
  keyed : (tables.links.map LogicLink.lcid).Nodup
  served : ∀ lcid ∈ routes, (tables.logicLinkFind lcid).isSome
  stands : ∀ lcid, Stands (standing lcid tables.log) lcid channels
  current : ∀ lcid link, tables.logicLinkFind lcid = some link →
    link.list = standing lcid tables.log

theorem Tends.listed {tables : Tables} {channels : List DynChannel}
    {routes : List Nat} (tends : tables.Tends channels routes) :
    Listed tables := by
  intro lcid link found
  have same := tends.current lcid link found
  refine ⟨same, ?_⟩
  rw [same]
  exact (tends.stands lcid).distinct

section Tends

variable {device : Device} {event : DeviceEvent} {heard : List DeviceLog}
  {channels : List DynChannel} {tables : Tables} {routes : List Nat}

theorem Tends.mono (tends : tables.Tends channels routes)
    {fewer : List Nat} (among : ∀ lcid ∈ fewer, lcid ∈ routes) :
    tables.Tends channels fewer :=
  { tends with served := fun lcid route => tends.served lcid (among lcid route) }

theorem Tends.answered (tends : tables.Tends device.channels routes)
    (node : fate.channelNode = true) (placed : device.Placed)
    (formed : device.Formed) (sweeps : device.SweepsLink event)
    (releases : Releases heard) (moved : Moved device event heard channels) :
    (heard.foldl (answered fate) tables).Tends channels routes := by
  have lists := foldl_answered_list node heard tables
  constructor
  · rw [foldl_answered_keys]
    exact tends.keyed
  · intro lcid route
    have known := tends.served lcid route
    have same := congrArg Option.isSome (lists lcid)
    rw [Option.isSome_map, Option.isSome_map] at same
    rw [same]
    exact known
  · intro lcid
    rw [foldl_answered_standing]
    exact (tends.stands lcid).step placed formed sweeps releases moved
  · intro lcid link found
    have same := lists lcid
    rw [found] at same
    obtain ⟨before, earlier, list⟩ := Option.map_eq_some_iff.mp same.symm
    rw [foldl_answered_standing, ← tends.current lcid before earlier]
    exact list.symm

variable (tends : tables.Tends channels routes)
include tends

theorem Tends.linkDown (lcid : Nat) : (tables.logicLinkDel lcid).Tends channels
      (routes.filter fun other => other ≠ lcid) := by
  constructor
  · exact tends.keyed.sublist (remove_sublist.map _)
  · intro other route
    obtain ⟨routed, differs⟩ := mem_filter.mp route
    have known := tends.served other routed
    have kept : (tables.logicLinkDel lcid).logicLinkFind other =
        tables.logicLinkFind other := lookup_remove_ne (by simpa using differs)
    rw [kept]
    exact known
  · exact tends.stands
  · intro other link found
    have differs : other ≠ lcid := by
      rintro rfl
      have none : (tables.logicLinkDel other).logicLinkFind other = none :=
        lookup_remove_self tends.keyed
      rw [none] at found
      cases found
    have kept : (tables.logicLinkDel lcid).logicLinkFind other =
        tables.logicLinkFind other := lookup_remove_ne differs
    rw [kept] at found
    exact tends.current other link found

theorem Tends.linkUp (lcid : Nat)
    (hosted : ∀ channel ∈ channels, channel.lcid ∈ routes) :
    (tables.logicLinkAdd lcid true).Tends channels (lcid :: routes) := by
  unfold logicLinkAdd
  cases found : tables.logicLinkFind lcid with
  | some link =>
    refine { tends with served := ?_ }
    exact forall_mem_cons.mpr ⟨Option.isSome_of_eq_some found, tends.served⟩
  | none =>
    have absent : lookup LogicLink.lcid lcid tables.links = none := found
    -- A link without a record has no pool, and so no channels.
    have idle : standing lcid tables.log = [] := by
      apply eq_nil_iff_forall_not_mem.mpr
      intro entry member
      obtain ⟨channel, listed, key, _⟩ :=
        (tends.stands lcid).hosted entry member
      have known := tends.served channel.lcid (hosted channel listed)
      have here : channel.lcid = lcid := congrArg Prod.fst key
      rw [here, found] at known
      cases known
    have added (other : Nat) :
        logicLinkFind { tables with
          links := tables.links ++ [⟨lcid, slqiLow, []⟩] } other =
            (tables.logicLinkFind other).or
              (if lcid = other then some ⟨lcid, slqiLow, []⟩ else none) :=
      lookup_append tables.links _
    constructor
    · exact nodup_append_singleton tends.keyed (lookup_eq_none.mp absent)
    · intro other route
      simp only [if_true]
      rw [added]
      rcases mem_cons.mp route with rfl | earlier
      · simp
      · simp [tends.served other earlier]
    · exact tends.stands
    · intro other link located
      simp only [if_true] at located
      rw [added] at located
      rcases Option.or_eq_some_iff.mp located with before | ⟨_, fresh⟩
      · exact tends.current other link before
      · split at fresh
        · next same =>
            cases fresh
            subst same
            exact idle.symm
        · cases fresh

/-- Reports of requests that came to nothing tell nothing of the lists. -/
theorem Tends.report (input : Input) :
    (System.report (System.refusal input) tables).Tends channels routes := by
  have silent (lcid : Nat) (list : List TransChannel) :
      (System.refusal input).foldl (told lcid) list = list := by
    cases input with
    | create params cap nodeAllocated fate => simp [System.refusal, told]
    | destroy lcid tcid fate => rfl
    | _ => rfl
  have same (lcid : Nat) :
      standing lcid (System.report (System.refusal input) tables).log =
        standing lcid tables.log := by
    unfold standing System.report
    rw [foldl_append, silent]
  constructor
  · exact tends.keyed
  · exact tends.served
  · intro lcid
    rw [same]
    exact tends.stands lcid
  · intro lcid link found
    rw [same]
    exact tends.current lcid link found

end Tends

end Tables

structure TopSlqi (list : List TransChannel) (slqi : UInt8) : Prop where
  bound : ∀ channel ∈ list, channel.slqi ≠ slqiMax → channel.slqi ≤ slqi
  reached : (∃ channel ∈ list, channel.slqi ≠ slqiMax ∧
    channel.slqi = slqi) ∨ slqi = slqiLow

/-- The recorded slqi is the greatest of those that are listed, unless the new
parameters were refused. -/
def Current (fate : Fate) (before after : LogicLink) : Prop :=
  ∃ slqi, TopSlqi after.list slqi ∧ (after.slqi = slqi ∨
      after.slqi = before.slqi ∧ (fate.updated = false ∨ slqiMax ≤ slqi))

theorem turn_maxSlqi (start : UInt8) (channel : TransChannel) :
    let next := if channel.slqi = slqiMax then start
      else if start < channel.slqi then channel.slqi
      else start
    start ≤ next ∧ (channel.slqi ≠ slqiMax → channel.slqi ≤ next) ∧
      (next = start ∨ channel.slqi ≠ slqiMax ∧ channel.slqi = next) := by
  by_cases invalid : channel.slqi = slqiMax
  · simp [invalid]
  · by_cases greater : start < channel.slqi
    · simp [invalid, greater, UInt8.le_of_lt greater]
    · simp [invalid, greater, UInt8.not_lt.mp greater]

theorem foldl_maxSlqi (list : List TransChannel) (start : UInt8) :
    let top := list.foldl (fun slqi channel =>
      if channel.slqi = slqiMax then slqi
      else if slqi < channel.slqi then channel.slqi
      else slqi) start
    start ≤ top ∧
      (∀ channel ∈ list, channel.slqi ≠ slqiMax → channel.slqi ≤ top) ∧
      ((∃ channel ∈ list, channel.slqi ≠ slqiMax ∧ channel.slqi = top) ∨
        top = start) := by
  induction list generalizing start with
  | nil => simp
  | cons channel list induction =>
    rw [foldl_cons]
    obtain ⟨grows, covers, chosen⟩ := turn_maxSlqi start channel
    obtain ⟨above, bound, reached⟩ := induction
      (if channel.slqi = slqiMax then start
        else if start < channel.slqi then channel.slqi else start)
    refine ⟨UInt8.le_trans grows above, ?_, ?_⟩
    · exact forall_mem_cons.mpr ⟨
        fun valid => UInt8.le_trans (covers valid) above, bound⟩
    · rcases reached with ⟨other, later, found⟩ | same
      · exact .inl ⟨other, .tail _ later, found⟩
      · rw [same]
        rcases chosen with start | ⟨valid, here⟩
        · exact .inr start
        · exact .inl ⟨channel, by simp, valid, here⟩

theorem topSlqi_maxSlqi (list : List TransChannel) :
    TopSlqi list (maxSlqi list) := by
  obtain ⟨_, bound, reached⟩ := foldl_maxSlqi list slqiLow
  exact ⟨bound, reached⟩

namespace LogicLink

variable {link : LogicLink} {fate : Fate} {entry : DeviceLog}

theorem current_heard (chosen : chooses fate entry = true) :
    Current fate link (link.heard fate entry) := by
  cases lists : listing entry with
  | none => simp [chooses, lists] at chosen
  | some listed =>
    obtain ⟨channel, live⟩ := listed
    rw [heard_of_listing link fate lists, if_pos chosen]
    refine ⟨_, topSlqi_maxSlqi _, ?_⟩
    unfold recomputed
    split
    · exact .inl rfl
    case isFalse refused =>
      refine .inr ⟨relisted_slqi _ _ _ _, ?_⟩
      rcases not_and_or.mp refused with large | refused
      · exact .inr (UInt8.not_lt.mp large)
      · exact .inl (by simpa using refused)

theorem slqi_heard (chosen : chooses fate entry = false) :
    (link.heard fate entry).slqi = link.slqi := by
  cases lists : listing entry with
  | none => simp [heard, lists]
  | some listed =>
    obtain ⟨channel, live⟩ := listed
    rw [heard_of_listing link fate lists, chosen]
    exact relisted_slqi _ _ _ _

end LogicLink

namespace Tables

/-- The recorded slqis of the links that choose follow their lists, those of the
other links are kept, and new parameters are asked for only where the link
chooses and they differ. -/
structure Follow (fate : Fate) (picks : Nat → Prop) (tables after : Tables) :
    Prop where
  chosen : ∀ lcid before next, tables.logicLinkFind lcid = some before →
    after.logicLinkFind lcid = some next → picks lcid → Current fate before next
  kept : ∀ lcid before next, tables.logicLinkFind lcid = some before →
    after.logicLinkFind lcid = some next → ¬ picks lcid →
      next.slqi = before.slqi
  asked : ∃ added, after.log = tables.log ++ added ∧
    ∀ lcid slqi, .updateReq lcid slqi ∈ added →
      picks lcid ∧ ∃ before next, tables.logicLinkFind lcid = some before ∧
        after.logicLinkFind lcid = some next ∧
          TopSlqi next.list slqi ∧ before.slqi ≠ slqi

structure Quiet (tables after : Tables) : Prop where
  found : ∀ lcid before next, tables.logicLinkFind lcid = some before →
    after.logicLinkFind lcid = some next → next = before
  asked : ∃ added, after.log = tables.log ++ added ∧
    ∀ lcid slqi, .updateReq lcid slqi ∉ added

section Follow

variable {fate : Fate} {picks : Nat → Prop} {tables after final : Tables}
  {entry : DeviceLog} {channel : DynChannel} {live : Bool}

theorem Quiet.of_links (links : after.links = tables.links)
    {added : List QosmLog} (log : after.log = tables.log ++ added)
    (silent : ∀ lcid slqi, .updateReq lcid slqi ∉ added) :
    Quiet tables after where
  found := by
    intro lcid before next earlier later
    unfold logicLinkFind at earlier later
    rw [links, earlier] at later
    exact (Option.some.inj later).symm
  asked := ⟨added, log, silent⟩

theorem Quiet.follow (quiet : Quiet tables after)
    (none : ∀ lcid, picks lcid → after.logicLinkFind lcid = none) :
    Follow fate picks tables after where
  chosen := by
    intro lcid before next _ later picked
    rw [none lcid picked] at later
    cases later
  kept := by
    intro lcid before next earlier later _
    rw [quiet.found lcid before next earlier later]
  asked := by
    obtain ⟨added, log, silent⟩ := quiet.asked
    exact ⟨added, log, fun lcid slqi member =>
      absurd member (silent lcid slqi)⟩

theorem Follow.congr {others : Nat → Prop}
    (follow : Follow fate picks tables after)
    (same : ∀ lcid, picks lcid ↔ others lcid) :
    Follow fate others tables after := by
  have equal : picks = others := funext fun lcid => propext (same lcid)
  exact equal ▸ follow

theorem Follow.quiet (follow : Follow fate picks tables after)
    (kept : ∀ lcid link, after.logicLinkFind lcid = some link →
      final.logicLinkFind lcid = some link)
    (known : ∀ lcid before next, tables.logicLinkFind lcid = some before →
      final.logicLinkFind lcid = some next →
        after.logicLinkFind lcid = some next)
    {more : List QosmLog} (log : final.log = after.log ++ more)
    (silent : ∀ lcid slqi, .updateReq lcid slqi ∉ more) :
    Follow fate picks tables final := by
  obtain ⟨added, logged, asked⟩ := follow.asked
  constructor
  · intro lcid before next earlier later
    exact follow.chosen lcid before next earlier
      (known lcid before next earlier later)
  · intro lcid before next earlier later
    exact follow.kept lcid before next earlier
      (known lcid before next earlier later)
  · refine ⟨added ++ more, by rw [log, logged, append_assoc], ?_⟩
    intro lcid slqi member
    rcases mem_append.mp member with first | second
    · obtain ⟨picked, before, next, earlier, later, top, differs⟩ :=
        asked lcid slqi first
      exact ⟨picked, before, next, earlier, kept lcid next later, top, differs⟩
    · exact absurd second (silent lcid slqi)

theorem follow_answered (tables : Tables) (fate : Fate)
    (lists : listing entry = some (channel, live)) :
    Follow fate
      (fun lcid => channel.lcid = lcid ∧ chooses fate entry = true) tables
      (tables.answered fate entry) := by
  have find (lcid : Nat) := @find_answered lcid entry channel live tables fate
    lists
  constructor
  · rintro lcid before next earlier later ⟨here, chosen⟩
    rw [find, earlier, Option.map_some, if_pos here] at later
    cases later
    exact LogicLink.current_heard chosen
  · intro lcid before next earlier later other
    rw [find, earlier, Option.map_some] at later
    cases later
    split
    case isTrue here =>
      apply LogicLink.slqi_heard
      simpa [here] using other
    case isFalse => rfl
  · obtain ⟨number, rsp, after, _⟩ := answered_hears tables fate lists
    refine ⟨tables.requests fate entry ++ [QosmLog.status rsp], ?_, ?_⟩
    · rw [after]
      exact append_assoc _ _ _
    · intro lcid slqi member
      have asked : .updateReq lcid slqi ∈ tables.requests fate entry := by
        simpa using member
      unfold requests at asked
      simp only [lists] at asked
      split at asked
      case isFalse => cases asked
      case isTrue chosen =>
        cases found : tables.logicLinkFind channel.lcid with
        | none =>
          rw [found] at asked
          cases asked
        | some before =>
          rw [found, Option.map_some, Option.getD_some] at asked
          unfold LogicLink.asks at asked
          split at asked
          case isFalse => cases asked
          case isTrue differs =>
            obtain ⟨lcids, slqis⟩ : lcid = before.lcid ∧ slqi = _ := by
              simpa using asked
            have named : before.lcid = channel.lcid := lookup_key found
            have here : channel.lcid = lcid := named.symm.trans lcids.symm
            subst here
            have heard := before.heard_of_listing fate lists
            rw [if_pos chosen] at heard
            refine ⟨⟨rfl, chosen⟩, before, before.heard fate entry, found,
              ?_, ?_, ?_⟩
            · rw [find, found, Option.map_some, if_pos rfl]
            · rw [heard, LogicLink.recomputed_list, slqis]
              exact topSlqi_maxSlqi _
            · rw [slqis]
              simpa using differs.1

theorem quiet_answered (tables : Tables) (fate : Fate)
    (absent : ∀ channel live, listing entry = some (channel, live) →
      tables.logicLinkFind channel.lcid = none) :
    (tables.answered fate entry).links = tables.links ∧
      ∃ added, (tables.answered fate entry).log = tables.log ++ added ∧
        ∀ lcid slqi, .updateReq lcid slqi ∉ added := by
  cases lists : listing entry with
  | none =>
    obtain ⟨links, added, log, _, silent⟩ :=
      answered_unlisted tables fate lists
    exact ⟨links, added, log, silent⟩
  | some listed =>
    obtain ⟨channel, live⟩ := listed
    obtain ⟨number, rsp, after, _⟩ := answered_hears tables fate lists
    rw [relisted_absent lists (absent channel live lists)] at after
    rw [after]
    exact ⟨rfl, [.status rsp], rfl, by simp⟩

theorem quiet_foldl_answered (fate : Fate) (entries : List DeviceLog)
    (tables : Tables) (absent : ∀ entry ∈ entries, ∀ channel live,
      listing entry = some (channel, live) →
        tables.logicLinkFind channel.lcid = none) :
    (entries.foldl (answered fate) tables).links = tables.links ∧
      ∃ added, (entries.foldl (answered fate) tables).log =
          tables.log ++ added ∧
        ∀ lcid slqi, .updateReq lcid slqi ∉ added := by
  induction entries generalizing tables with
  | nil => exact ⟨rfl, [], by simp⟩
  | cons entry entries induction =>
    obtain ⟨links, added, log, silent⟩ := quiet_answered tables fate
      (absent entry (by simp))
    have later : ∀ other ∈ entries, ∀ channel live,
        listing other = some (channel, live) →
          (tables.answered fate entry).logicLinkFind channel.lcid =
            none := by
      intro other member channel live lists
      unfold logicLinkFind
      rw [links]
      exact absent other (mem_cons_of_mem entry member) channel live lists
    obtain ⟨same, more, logged, quiet⟩ := induction _ later
    refine ⟨same.trans links, added ++ more, ?_, ?_⟩
    · rw [foldl_cons, logged, log, append_assoc]
    · intro lcid slqi member
      rcases mem_append.mp member with first | second
      · exact silent lcid slqi first
      · exact quiet lcid slqi second

end Follow

end Tables

namespace System

variable {system : System} {event : Event}

def Relists (system : System) (event : Event) (lcid : Nat) (entry : DeviceLog) : Prop :=
  ∃ deviceEvent, system.forwarded event.input = some deviceEvent ∧
    entry ∈ answers system.device deviceEvent ∧
    ∃ channel live, listing entry = some (channel, live) ∧ channel.lcid = lcid

def Chooses (system : System) (event : Event) (lcid : Nat) : Prop :=
  ∃ entry, system.Relists event lcid entry ∧ chooses event.fate entry = true

def added (system : System) (event : Event) : List QosmLog :=
  (system.step event).tables.log.drop system.tables.log.length

/-- The recorded slqi follows the list when the parameters are chosen, and new
parameters are asked for only if they differ. -/
structure Follows (system : System) (event : Event) : Prop where
  chosen : ∀ lcid before after, system.tables.logicLinkFind lcid = some before →
      (system.step event).tables.logicLinkFind lcid = some after →
        system.Chooses event lcid → Current event.fate before after
  kept : ∀ lcid before after, system.tables.logicLinkFind lcid = some before →
      (system.step event).tables.logicLinkFind lcid = some after →
        ¬ system.Chooses event lcid → after.slqi = before.slqi
  asked : ∀ lcid slqi, .updateReq lcid slqi ∈ system.added event →
    system.Chooses event lcid ∧
      ∃ before after, system.tables.logicLinkFind lcid = some before ∧
        (system.step event).tables.logicLinkFind lcid = some after ∧
          TopSlqi after.list slqi ∧ before.slqi ≠ slqi

/-- The recorded slqi follows the list upon every answer that changes it. -/
def Tracks (system : System) (event : Event) : Prop :=
  ∀ lcid before after, system.tables.logicLinkFind lcid = some before →
    (system.step event).tables.logicLinkFind lcid = some after →
      (∃ entry, system.Relists event lcid entry) →
        Current event.fate before after

structure Clean (system : System) (event : Event) : Prop where
  linkNode : event.fate.linkNode = true
  channelNode : event.fate.channelNode = true
  answered : ∀ deviceEvent, system.forwarded event.input = some deviceEvent →
    system.device.SweepsLink deviceEvent ∧
      Releases (answers system.device deviceEvent)

theorem step_of_none (forwarded : system.forwarded event.input = none) :
    system.step event =
      { system with
        tables := report (refusal event.input) system.tables } := by
  simp [step, forwarded]

variable {deviceEvent : DeviceEvent} {heard : List DeviceLog} {tables : Tables}

theorem step_of_some
    (forwarded : system.forwarded event.input = some deviceEvent) :
    (system.step event).device = system.device.step deviceEvent ∧
      ((system.step event).tables = system.handled event.fate deviceEvent ∨
        (system.step event).tables = report (refusal event.input)
          (system.handled event.fate deviceEvent)) := by
  simp only [step, forwarded]
  refine ⟨trivial, ?_⟩
  split
  · exact .inr rfl
  · exact .inl rfl

structure Tended (system : System) : Prop where
  placed : system.device.Placed
  formed : system.device.Formed
  routes : (routed system.device).Nodup
  tends : system.tables.Tends system.device.channels (routed system.device)

theorem tended_init (identifier : UInt8) : (init identifier).Tended where
  placed := ⟨nodup_nil, nofun, nofun⟩
  formed := formed_init identifier
  routes := nodup_nil
  tends :=
    { keyed := nodup_nil
      served := nofun
      stands := fun _ => ⟨nofun, nodup_nil⟩
      current := nofun }

theorem nodup_routed_step (tended : system.Tended) (deviceEvent : DeviceEvent) :
    (routed (system.device.step deviceEvent)).Nodup := by
  cases deviceEvent with
  | linkUp lcid allocated => exact nodup_routed_linkUp tended.routes _ _
  | linkDown lcid allocated =>
    rw [Device.step, routed_linkDown tended.formed tended.routes]
    exact tended.routes.filter _
  | _ =>
    rw [routed_step tended.formed (by simp) (by simp)]
    exact tended.routes

theorem Tended.handled (tended : system.Tended) {fate : Fate}
    (linkNode : fate.linkNode = true) (channelNode : fate.channelNode = true)
    (sweeps : system.device.SweepsLink deviceEvent)
    (releases : Releases (answers system.device deviceEvent)) :
    (system.handled fate deviceEvent).Tends
      (system.device.step deviceEvent).channels
      (routed (system.device.step deviceEvent)) := by
  have moved := Moved.of_step tended.formed deviceEvent
  have answered : Releases
      ((answers system.device deviceEvent).filter loud) := by
    intro channel result member
    exact releases channel result (mem_filter.mp member).1
  unfold System.handled
  rw [foldl_answered_loud]
  cases deviceEvent with
  | linkUp lcid allocated =>
    have tends := tended.tends.answered channelNode tended.placed
      tended.formed sweeps answered moved
    have hosted : ∀ channel ∈ (system.device.linkUp lcid allocated).channels,
        channel.lcid ∈ routed system.device := by
      intro channel member
      exact routed_of_channel tended.placed member
    have up := tends.linkUp lcid hosted
    apply (linkNode ▸ up).mono
    intro other route
    rcases routed_linkUp system.device lcid allocated route with
      earlier | same
    · exact .tail _ earlier
    · exact same ▸ mem_cons_self
  | linkDown lcid allocated =>
    have down := tended.tends.linkDown lcid
    have tends := down.answered channelNode tended.placed
      tended.formed sweeps answered moved
    rw [Device.step, routed_linkDown tended.formed tended.routes]
    exact tends
  | _ =>
    have tends := tended.tends.answered channelNode tended.placed
      tended.formed sweeps answered moved
    rw [routed_step tended.formed (by simp) (by simp)]
    exact tends

theorem Tended.step (tended : system.Tended) (clean : system.Clean event) :
    (system.step event).Tended := by
  cases forwarded : system.forwarded event.input with
  | none =>
    rw [step_of_none forwarded]
    exact { tended with tends := tended.tends.report event.input }
  | some deviceEvent =>
    obtain ⟨sweeps, releases⟩ := clean.answered deviceEvent forwarded
    obtain ⟨device, tables⟩ := step_of_some forwarded
    have tends := tended.handled clean.linkNode clean.channelNode sweeps
      releases
    constructor <;> rw [device]
    · exact tended.placed.step tended.formed sweeps
    · exact tended.formed.step deviceEvent
    · exact nodup_routed_step tended deviceEvent
    · rcases tables with handled | reported
      · rw [handled]
        exact tends
      · rw [reported]
        exact tends.report event.input

theorem loud_of_listing {entry : DeviceLog} {channel : DynChannel}
    {live : Bool} (lists : listing entry = some (channel, live)) :
    loud entry = true := by
  cases entry with
  | sent | moved | timedOut | establishAccepted | releaseAccepted => cases lists
  | _ => rfl

/-- The links whose parameters the answers make the QoS manager choose. -/
def picks (fate : Fate) (heard : List DeviceLog) (lcid : Nat) : Prop :=
  ∃ entry ∈ heard, (∃ channel live, listing entry = some (channel, live) ∧
    channel.lcid = lcid) ∧ chooses fate entry = true

theorem chooses_iff
    (forwarded : system.forwarded event.input = some deviceEvent) (lcid : Nat) :
    system.Chooses event lcid ↔ picks event.fate
      ((answers system.device deviceEvent).filter loud) lcid := by
  constructor
  · rintro ⟨entry, ⟨other, again, member, channel, live, lists, here⟩, chosen⟩
    rw [forwarded] at again
    cases again
    exact ⟨entry, mem_filter.mpr ⟨member, loud_of_listing lists⟩,
      ⟨channel, live, lists, here⟩, chosen⟩
  · rintro ⟨entry, member, ⟨channel, live, lists, here⟩, chosen⟩
    exact ⟨entry, ⟨deviceEvent, forwarded, (mem_filter.mp member).1,
      channel, live, lists, here⟩, chosen⟩

theorem heard_few {device : Device} {channels : List DynChannel}
    (moved : Moved device deviceEvent heard channels)
    (up : ∀ lcid allocated, deviceEvent ≠ .linkDown lcid allocated) :
    heard = [] ∨ ∃ entry, heard = [entry] := by
  cases moved with
  | nothing | unreleased => exact .inl rfl
  | @linkDown lcid allocated => exact absurd rfl (up lcid allocated)
  | _ => exact .inr ⟨_, rfl⟩

theorem follow_heard (tables : Tables) (fate : Fate)
    (few : heard = [] ∨ ∃ entry, heard = [entry]) :
    Tables.Follow fate (picks fate heard) tables
      (heard.foldl (answered fate) tables) ∧
      ∀ lcid, (heard.foldl (answered fate) tables).logicLinkFind lcid =
        none → tables.logicLinkFind lcid = none := by
  have idle {after : Tables} (links : after.links = tables.links)
      {added : List QosmLog} (log : after.log = tables.log ++ added)
      (silent : ∀ lcid slqi, .updateReq lcid slqi ∉ added)
      (unpicked : ∀ lcid, ¬ picks fate heard lcid) :
      Tables.Follow fate (picks fate heard) tables after ∧
        ∀ lcid, after.logicLinkFind lcid = none →
          tables.logicLinkFind lcid = none := by
    constructor
    · apply (Tables.Quiet.of_links links log silent).follow
      intro lcid picked
      exact absurd picked (unpicked lcid)
    · intro lcid lost
      unfold logicLinkFind at lost ⊢
      rwa [links] at lost
  rcases few with rfl | ⟨entry, rfl⟩
  · exact idle rfl (append_nil _).symm (by simp) (by simp [picks])
  · rw [foldl_cons, foldl_nil]
    cases lists : listing entry with
    | none =>
      obtain ⟨links, added, log, _, silent⟩ :=
        answered_unlisted tables fate lists
      exact idle links log silent (by simp [picks, lists])
    | some listed =>
      obtain ⟨channel, live⟩ := listed
      constructor
      · apply (follow_answered tables fate lists).congr
        intro lcid
        constructor
        · rintro ⟨here, chosen⟩
          exact ⟨entry, by simp, ⟨channel, live, lists, here⟩, chosen⟩
        · rintro ⟨other, member, ⟨_, _, again, here⟩, chosen⟩
          rw [mem_singleton.mp member] at again chosen
          rw [lists] at again
          cases again
          exact ⟨here, chosen⟩
      · intro lcid lost
        rw [find_answered tables fate lists, Option.map_eq_none_iff] at lost
        exact lost

theorem find_logicLinkAdd {lcid other : Nat} {link : LogicLink}
    (allocated : Bool) (found : tables.logicLinkFind other = some link) :
    (tables.logicLinkAdd lcid allocated).logicLinkFind other = some link := by
  unfold logicLinkAdd
  split
  · exact found
  · split
    · show lookup _ _ (tables.links ++ _) = _
      rw [lookup_append_list]
      exact Option.or_eq_some_iff.mpr (.inl found)
    · exact found

theorem logicLinkAdd_log (tables : Tables) (lcid : Nat) (allocated : Bool) :
    (tables.logicLinkAdd lcid allocated).log = tables.log := by
  unfold logicLinkAdd
  split
  · rfl
  · split <;> rfl

structure Keyed (system : System) : Prop where
  formed : system.device.Formed
  keyed : (system.tables.links.map LogicLink.lcid).Nodup

theorem follow_linkDown (keyed : system.Keyed) (fate : Fate) (lcid : Nat)
    (allocated : Bool) :
    Tables.Follow fate (picks fate ((answers system.device
        (.linkDown lcid allocated)).filter loud)) system.tables
      (system.handled fate (.linkDown lcid allocated)) := by
  rw [Moved.linkDown_heard keyed.formed]
  have handled : system.handled fate (.linkDown lcid allocated) =
      (if allocated then
        (system.device.channels.filter fun channel =>
          channel.lcid = lcid).map Device.disconnectReport
      else []).foldl (answered fate)
        (system.tables.logicLinkDel lcid) := by
    unfold System.handled
    rw [foldl_answered_loud, Moved.linkDown_heard keyed.formed]
    rfl
  generalize reports : (if allocated then
      (system.device.channels.filter fun channel =>
        channel.lcid = lcid).map Device.disconnectReport
    else []) = heard at handled ⊢
  have here : ∀ entry ∈ heard, ∀ channel live,
      listing entry = some (channel, live) → channel.lcid = lcid := by
    intro entry member channel live lists
    rw [← reports] at member
    split at member
    · obtain ⟨other, among, rfl⟩ := mem_map.mp member
      rw [listing_disconnectReport] at lists
      split at lists <;> cases lists
      · simpa using (mem_filter.mp among).2
    · cases member
  have gone : (system.tables.logicLinkDel lcid).logicLinkFind lcid = none :=
    lookup_remove_self keyed.keyed
  obtain ⟨links, added, log, silent⟩ := quiet_foldl_answered fate heard
    (system.tables.logicLinkDel lcid)
    (fun entry member channel live lists => by
      rw [here entry member channel live lists]
      exact gone)
  have same (other : Nat) :
      (system.handled fate (.linkDown lcid allocated)).logicLinkFind other =
        (system.tables.logicLinkDel lcid).logicLinkFind other := by
    unfold logicLinkFind
    rw [handled, links]
  have quiet : Tables.Quiet system.tables
      (system.handled fate (.linkDown lcid allocated)) := by
    constructor
    · intro other before next earlier later
      rw [same] at later
      have differs : other ≠ lcid := by
        rintro rfl
        rw [gone] at later
        cases later
      have kept : (system.tables.logicLinkDel lcid).logicLinkFind other =
          system.tables.logicLinkFind other := lookup_remove_ne differs
      rw [kept, earlier] at later
      exact (Option.some.inj later).symm
    · exact ⟨added, handled ▸ log, silent⟩
  apply quiet.follow
  rintro other ⟨entry, member, ⟨channel, live, lists, rfl⟩, _⟩
  rw [same, here entry member channel live lists]
  exact gone

theorem follow_handled (keyed : system.Keyed) (fate : Fate)
    (deviceEvent : DeviceEvent) :
    Tables.Follow fate
      (picks fate ((answers system.device deviceEvent).filter loud))
      system.tables (system.handled fate deviceEvent) := by
  have moved := Moved.of_step keyed.formed deviceEvent
  cases deviceEvent with
  | linkDown lcid allocated => exact follow_linkDown keyed fate lcid allocated
  | linkUp lcid allocated =>
    obtain ⟨follow, lost⟩ := follow_heard system.tables fate
      (heard_few moved (by simp))
    unfold System.handled
    rw [foldl_answered_loud]
    have kept {tables : Tables} {other : Nat} {link : LogicLink}
        (found : tables.logicLinkFind other = some link) :=
      @find_logicLinkAdd tables lcid other link fate.linkNode found
    have log := (logicLinkAdd_log (((answers system.device
      (.linkUp lcid allocated)).filter loud).foldl (answered fate)
        system.tables) lcid fate.linkNode).trans (append_nil _).symm
    apply follow.quiet (fun _ _ found => kept found) _ log (by simp)
    intro other before next earlier later
    cases found : logicLinkFind
        (((answers system.device (.linkUp lcid allocated)).filter
          loud).foldl (answered fate) system.tables) other with
    | none =>
      rw [lost other found] at earlier
      cases earlier
    | some link =>
      rw [kept found] at later
      exact later
  | _ =>
    obtain ⟨follow, _⟩ := follow_heard system.tables fate
      (heard_few moved (by simp))
    unfold System.handled
    rw [foldl_answered_loud]
    exact follow

theorem silent_refusal (input : Input) (lcid : Nat) (slqi : UInt8) :
    .updateReq lcid slqi ∉ refusal input := by
  cases input with
  | create | destroy => simp [refusal]
  | _ => simp [refusal]

theorem follow_step (keyed : system.Keyed) (event : Event) :
    Tables.Follow event.fate (system.Chooses event) system.tables
      (system.step event).tables := by
  cases forwarded : system.forwarded event.input with
  | none =>
    rw [step_of_none forwarded]
    have quiet : Tables.Quiet system.tables
        (report (refusal event.input) system.tables) :=
      Tables.Quiet.of_links rfl rfl (silent_refusal event.input)
    apply quiet.follow
    rintro lcid ⟨entry, ⟨deviceEvent, again, _⟩, _⟩
    rw [forwarded] at again
    cases again
  | some deviceEvent =>
    have follow := (follow_handled keyed event.fate deviceEvent).congr
      fun lcid => (chooses_iff forwarded lcid).symm
    rcases (step_of_some forwarded).2 with handled | reported
    · rw [handled]
      exact follow
    · rw [reported]
      exact follow.quiet (fun _ _ found => found)
        (fun _ _ _ _ later => later) rfl (silent_refusal event.input)

theorem follows_of_keyed (keyed : system.Keyed) (event : Event) :
    system.Follows event := by
  have follow := follow_step keyed event
  obtain ⟨added, log, asked⟩ := follow.asked
  refine ⟨follow.chosen, follow.kept, ?_⟩
  intro lcid slqi member
  unfold System.added at member
  rw [log, drop_left] at member
  exact asked lcid slqi member

theorem nodup_logicLinkAdd (unique : (tables.links.map LogicLink.lcid).Nodup)
    (lcid : Nat) (allocated : Bool) :
    ((tables.logicLinkAdd lcid allocated).links.map LogicLink.lcid).Nodup := by
  unfold logicLinkAdd
  cases found : tables.logicLinkFind lcid with
  | some link => exact unique
  | none =>
    cases allocated with
    | false => exact unique
    | true => exact nodup_append_singleton unique (lookup_eq_none.mp found)

theorem keys_handled (keyed : system.Keyed) (fate : Fate)
    (deviceEvent : DeviceEvent) :
    ((system.handled fate deviceEvent).links.map LogicLink.lcid).Nodup := by
  have answered {tables : Tables}
      (unique : (tables.links.map LogicLink.lcid).Nodup) :
      ((((answers system.device deviceEvent).foldl (answered fate)
        tables)).links.map LogicLink.lcid).Nodup := by
    rw [foldl_answered_keys]
    exact unique
  cases deviceEvent with
  | linkUp lcid allocated =>
    exact nodup_logicLinkAdd (answered keyed.keyed) lcid fate.linkNode
  | linkDown lcid allocated =>
    exact answered (keyed.keyed.sublist (remove_sublist.map _))
  | _ => exact answered keyed.keyed

theorem Keyed.step (keyed : system.Keyed) (event : Event) :
    (system.step event).Keyed := by
  cases forwarded : system.forwarded event.input with
  | none =>
    rw [step_of_none forwarded]
    exact ⟨keyed.formed, keyed.keyed⟩
  | some deviceEvent =>
    obtain ⟨device, tables⟩ := step_of_some forwarded
    constructor
    · rw [device]
      exact keyed.formed.step deviceEvent
    · have keys := keys_handled keyed event.fate deviceEvent
      rcases tables with handled | reported
      · rw [handled]
        exact keys
      · rw [reported]
        exact keys

/-- In a run in which memory can be had and no release is answered by failure,
every link lists its established channels.  In every run the recorded slqi of a
link is the greatest of those that are listed whenever it was chosen. -/
theorem listed_and_followed (identifier : UInt8) (events : List Event) :
    (Meets step Clean (init identifier) events →
      Always step (fun system => Listed system.tables) (init identifier)
        events) ∧
      Meets step Follows (init identifier) events := by
  constructor
  · intro clean
    exact always_of_meets (fun _ tended => tended.tends.listed)
      (fun _ event tended clean => Tended.step tended clean)
      (tended_init identifier) clean
  · have all : Meets step (fun _ _ => True) (init identifier) events :=
      meets_of_forall fun _ _ => trivial
    apply all.imp (fun _ event keyed _ => Keyed.step keyed event)
      (fun _ event keyed _ => follows_of_keyed keyed event)
    exact ⟨formed_init identifier, nodup_nil⟩

theorem releases_of_all {answers : List DeviceLog} (all : (answers.all fun
      | .releaseRsp _ result =>
        decide (result = rspSuccess ∨ result = rspTimeout)
      | _ => true) = true) : Releases answers := by
  intro channel result member
  exact of_decide_eq_true (all_eq_true.mp all _ member)

def requestedChannel : List Event :=
  [{ input := .linkUp 1 true },
    { input := .create ⟨1, 5, 6, 1, 0, 0⟩ (some ⟨0, 0⟩) true
        ⟨true, true, true⟩ },
    { input := .recv 1 (.connectRsp 1 128 129 0)
        ⟨true, true, true, ⟨true, true, true⟩⟩ }]

theorem listed_requestedChannel :
    Always step (fun system => Listed system.tables) (init 0) requestedChannel ∧
      Meets step Follows (init 0) requestedChannel := by
  have followed := listed_and_followed 0 requestedChannel
  refine ⟨followed.1 ⟨?_, ?_, ?_, trivial⟩, followed.2⟩
  all_goals
    refine ⟨rfl, rfl, ?_⟩
    rintro deviceEvent ⟨⟩
    exact ⟨trivial, releases_of_all (by decide)⟩

def acceptedChannel : List Event :=
  [{ input := .linkUp 1 true },
    { input := .recv 1 (.connectReq 1 128 1 0 ⟨0, 32768, 5, 6⟩)
        ⟨true, true, true, ⟨true, true, true⟩⟩ }]

/-- The channel of the peer is listed, and the recorded slqi stays at zero. -/
theorem tracks_acceptedChannel :
    ¬ Meets step Tracks (init 0) acceptedChannel := by
  intro meets
  have current := meets.2.1 1 ⟨1, 0, []⟩ ⟨1, 0, [⟨128, 6, 5, 1⟩]⟩ (by decide)
    (by decide)
    ⟨.statusIndication ⟨0, 1, 128, 128, .activated,
        ⟨0, 0, 1, 0, 0, ⟨0, 32768, 6, 5⟩⟩⟩ true indicationNormal,
      _, rfl, by decide, _, true, rfl, rfl⟩
  obtain ⟨slqi, top, same | ⟨_, refused | large⟩⟩ := current
  · have bound := top.bound ⟨128, 6, 5, 1⟩ (by simp) (by decide)
    rw [← same] at bound
    exact absurd bound (by decide)
  · cases refused
  · rcases top.reached with ⟨channel, listed, _, reached⟩ | low
    · rw [mem_singleton.mp listed] at reached
      rw [← reached] at large
      exact absurd large (by decide)
    · rw [low] at large
      exact absurd large (by decide)

end System

end NearLink.Qosm
