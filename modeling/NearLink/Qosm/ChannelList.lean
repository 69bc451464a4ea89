import NearLink.Cm.Completion
import NearLink.Qosm.ChannelMoves

/-!
# The channels that are listed

The list of a link holds the channels that the QoS manager reported established
and has not reported released.  Two listed channels have different tcids, since
each of them is a channel of the device.
-/

namespace NearLink.Qosm

open Keyed Transition Cm List

def entryOf (channel : DynChannel) : TransChannel :=
  ⟨channel.localTcid, channel.params.config.srcPort,
    channel.params.config.dstPort, channel.params.slqi⟩

def listing : DeviceLog → Option (DynChannel × Bool)
  | .establishRsp channel result =>
    if result = rspSuccess then some (channel, true) else none
  | .releaseRsp channel result =>
    if result = rspSuccess ∨ result = rspTimeout then some (channel, false)
    else none
  | .statusIndication channel _ result =>
    if result = indicationNormal then some (channel, true)
    else if result = indicationDisconnected then some (channel, false)
    else none
  | _ => none

/-- The answer makes the QoS manager choose the parameters of its link. -/
def settles : DeviceLog → Bool
  | .establishRsp channel _ => channel.params.frameType ≠ radioFrameType4
  | .releaseRsp channel _ => channel.params.frameType ≠ radioFrameType4
  | _ => false

/-- The answer changes a list and makes the QoS manager choose the parameters of
its link. -/
def chooses (fate : Fate) (entry : DeviceLog) : Bool :=
  match listing entry with
  | none => false
  | some (_, live) => settles entry && (! live || fate.channelNode)

def relist (channel : DynChannel) (live : Bool) (list : List TransChannel) :
    List TransChannel :=
  if live then entryOf channel :: list
  else remove TransChannel.tcid channel.localTcid list

def told (lcid : Nat) (list : List TransChannel) :
    QosmLog → List TransChannel
  | .status rsp =>
    if rsp.lcid = lcid then
      match rsp.status with
      | .established => ⟨rsp.tcid, rsp.srcPort, rsp.dstPort, rsp.slqi⟩ :: list
      | .released => remove TransChannel.tcid rsp.tcid list
      | _ => list
    else list
  | _ => list

def standing (lcid : Nat) (log : List QosmLog) : List TransChannel :=
  log.foldl (told lcid) []

@[simp] theorem standing_concat (lcid : Nat) (log : List QosmLog)
    (entry : QosmLog) :
    standing lcid (log ++ [entry]) = told lcid (standing lcid log) entry := by
  simp [standing]

namespace LogicLink

variable (link : LogicLink) {channel : DynChannel} {live : Bool}

def recomputed (updated : Bool) : LogicLink :=
  if maxSlqi link.list < slqiMax ∧ updated = true then
    { link with slqi := maxSlqi link.list }
  else link

def asks : List QosmLog :=
  if link.slqi ≠ maxSlqi link.list ∧ maxSlqi link.list < slqiMax then
    [.updateReq link.lcid (maxSlqi link.list)]
  else []

def relisted (fate : Fate) (channel : DynChannel) (live : Bool) : LogicLink :=
  if live = true ∧ fate.channelNode = false then link
  else { link with list := relist channel live link.list }

def heard (fate : Fate) (entry : DeviceLog) : LogicLink :=
  match listing entry with
  | none => link
  | some (channel, live) =>
    if chooses fate entry then
      (link.relisted fate channel live).recomputed fate.updated
    else link.relisted fate channel live

@[simp] theorem recomputed_lcid (updated : Bool) :
    (link.recomputed updated).lcid = link.lcid := by
  unfold recomputed
  split <;> rfl

@[simp] theorem recomputed_list (updated : Bool) :
    (link.recomputed updated).list = link.list := by
  unfold recomputed
  split <;> rfl

section

variable (fate : Fate) (channel : DynChannel) (live : Bool)

@[simp] theorem relisted_lcid
    : (link.relisted fate channel live).lcid = link.lcid := by
  unfold relisted
  split <;> rfl

@[simp] theorem relisted_slqi
    : (link.relisted fate channel live).slqi = link.slqi := by
  unfold relisted
  split <;> rfl

end

theorem heard_of_listing {entry : DeviceLog} (fate : Fate)
    (lists : listing entry = some (channel, live)) : link.heard fate entry =
      if chooses fate entry = true then
        (link.relisted fate channel live).recomputed fate.updated
      else link.relisted fate channel live := by
  simp only [heard, lists]

@[simp] theorem heard_lcid (fate : Fate) (entry : DeviceLog) :
    (link.heard fate entry).lcid = link.lcid := by
  cases lists : listing entry with
  | none => simp only [heard, lists]
  | some listed =>
    rw [heard_of_listing link fate lists]
    split <;> simp

theorem heard_list {fate : Fate} {entry : DeviceLog}
    (node : fate.channelNode = true)
    (lists : listing entry = some (channel, live)) :
    (link.heard fate entry).list = relist channel live link.list := by
  have list : (link.relisted fate channel live).list =
      relist channel live link.list := by
    simp [relisted, node]
  rw [heard_of_listing link fate lists]
  split
  · rw [recomputed_list, list]
  · exact list

end LogicLink

namespace Tables

variable {tables : Tables} {lcid other : Nat} {rsp : TransChannelRspParams}
  {channel : DynChannel}

def asked (tables : Tables) (lcid : Nat) : List QosmLog :=
  match tables.logicLinkFind lcid with
  | none => []
  | some link => link.asks

theorem updateConnParams_eq (updated : Bool) :
    tables.updateConnParams lcid updated =
      { tables with
        links := modify LogicLink.lcid lcid
          (fun link => link.recomputed updated) tables.links
        log := tables.log ++ tables.asked lcid } := by
  unfold updateConnParams asked
  cases found : tables.logicLinkFind lcid with
  | none =>
    have absent : lookup LogicLink.lcid lcid tables.links = none := found
    simp [modify_absent absent]
  | some link =>
    have located : lookup LogicLink.lcid lcid tables.links = some link :=
      found
    have named := lookup_key located
    -- Only the record that was found is changed.
    have only {first next : LogicLink → LogicLink}
        (same : first link = next link) :
        modify LogicLink.lcid lcid first tables.links =
          modify LogicLink.lcid lcid next tables.links := by
      apply modify_congr
      intro record again
      rw [located] at again
      cases again
      exact same
    have kept {updated : Bool} (same : link.recomputed updated = link) :
        modify LogicLink.lcid lcid (fun link => link.recomputed updated)
          tables.links = tables.links := by
      apply modify_of_lookup
      intro record again
      rw [located] at again
      cases again
      exact same
    by_cases current : link.slqi = maxSlqi link.list
    · have same : link.recomputed updated = link := by
        unfold LogicLink.recomputed
        rw [← current]
        split <;> rfl
      simp [current, kept same, LogicLink.asks]
    · dsimp only
      rw [if_neg current]
      unfold updateConnParamsInner
      by_cases small : maxSlqi link.list < slqiMax
      · have asks : link.asks = [.updateReq lcid (maxSlqi link.list)] := by
          simp [LogicLink.asks, current, small, named]
        cases updated with
        | false =>
          have same : link.recomputed false = link := by
            simp [LogicLink.recomputed]
          simp [small, kept same, asks, note]
        | true =>
          have same : link.recomputed true =
              { link with slqi := maxSlqi link.list } := by
            simp [LogicLink.recomputed, small]
          have changed := @only (fun link => link.recomputed true)
            (fun record => { record with slqi := maxSlqi link.list }) same
          simp [small, changed, asks, note, changeLink]
      · have same : link.recomputed updated = link := by
          simp [LogicLink.recomputed, small]
        simp [small, kept same, LogicLink.asks]

theorem updateConnParams_changeLink {change : LogicLink → LogicLink}
    (keeps : ∀ link, (change link).lcid = link.lcid) (updated : Bool) :
    (tables.changeLink lcid change).updateConnParams lcid updated =
      { tables with
        links := modify LogicLink.lcid lcid
          (fun link => (change link).recomputed updated) tables.links
        log := tables.log ++ ((tables.logicLinkFind lcid).map fun link =>
            (change link).asks).getD [] } := by
  have asked : (tables.changeLink lcid change).asked lcid =
      ((tables.logicLinkFind lcid).map fun link =>
        (change link).asks).getD [] := by
    have found : (tables.changeLink lcid change).logicLinkFind lcid =
        (tables.logicLinkFind lcid).map change := lookup_modify_self keeps
    unfold Tables.asked
    rw [found]
    cases tables.logicLinkFind lcid <;> rfl
  rw [updateConnParams_eq, asked]
  unfold changeLink
  rw [modify_modify keeps]
  rfl

theorem changeLink_absent {change : LogicLink → LogicLink}
    (absent : tables.logicLinkFind lcid = none) :
    tables.changeLink lcid change = tables := by
  unfold changeLink
  rw [modify_absent absent]

theorem changeLink_id : tables.changeLink lcid (fun link => link) = tables := by
  unfold changeLink
  rw [modify_eq_self fun _ _ => rfl]

theorem transChannelAdd_eq (fate : Fate)
    (entry : TransChannel.mk rsp.tcid rsp.srcPort rsp.dstPort rsp.slqi =
      entryOf channel) : tables.transChannelAdd lcid rsp fate.channelNode =
      (tables.changeLink lcid fun link => link.relisted fate channel true,
        (tables.logicLinkFind lcid).isSome && fate.channelNode) := by
  unfold transChannelAdd
  cases found : tables.logicLinkFind lcid with
  | none => simp [changeLink_absent found]
  | some link =>
    cases node : fate.channelNode with
    | false => simp [LogicLink.relisted, node, changeLink_id]
    | true => simp [LogicLink.relisted, relist, node, entry]

theorem transChannelDel_eq (fate : Fate) (tcid : rsp.tcid = channel.localTcid) :
    tables.transChannelDel lcid rsp =
      (tables.changeLink lcid fun link => link.relisted fate channel false,
        (tables.logicLinkFind lcid).isSome) := by
  unfold transChannelDel
  cases found : tables.logicLinkFind lcid with
  | none => simp [changeLink_absent found]
  | some link => simp [LogicLink.relisted, relist, tcid]

def requests (tables : Tables) (fate : Fate) (entry : DeviceLog) :
    List QosmLog :=
  match listing entry with
  | none => []
  | some (channel, live) =>
    if chooses fate entry = true then
      ((tables.logicLinkFind channel.lcid).map fun link =>
        (link.relisted fate channel live).asks).getD []
    else []

def relisted (tables : Tables) (fate : Fate) (entry : DeviceLog) (lcid : Nat) : Tables :=
  { tables with
    links := modify LogicLink.lcid lcid (fun link => link.heard fate entry)
      tables.links
    log := tables.log ++ tables.requests fate entry }

section Relisted

variable {fate : Fate} {entry : DeviceLog} {channel : DynChannel} {live : Bool}
  (lists : listing entry = some (channel, live))
include lists

theorem relisted_of_chooses (chosen : chooses fate entry = true) :
    (tables.changeLink channel.lcid fun link =>
        link.relisted fate channel live).updateConnParams channel.lcid
          fate.updated = tables.relisted fate entry channel.lcid := by
  have heard (link : LogicLink) : link.heard fate entry =
      (link.relisted fate channel live).recomputed fate.updated := by
    rw [LogicLink.heard_of_listing link fate lists, if_pos chosen]
  rw [updateConnParams_changeLink fun link => link.relisted_lcid _ _ _]
  simp only [relisted, requests, lists, chosen, if_true, heard]

theorem relisted_of_not_chooses (chosen : chooses fate entry = false) :
    (tables.changeLink channel.lcid fun link =>
        link.relisted fate channel live) =
      tables.relisted fate entry channel.lcid := by
  have heard (link : LogicLink) : link.heard fate entry =
      link.relisted fate channel live := by
    rw [LogicLink.heard_of_listing link fate lists, chosen]
    rfl
  simp [changeLink, relisted, requests, lists, chosen, heard]

theorem relisted_absent (absent : tables.logicLinkFind channel.lcid = none) :
    tables.relisted fate entry channel.lcid = tables := by
  have none : lookup LogicLink.lcid channel.lcid tables.links = none := absent
  simp [relisted, requests, lists, absent, modify_absent none]

end Relisted

structure Tells (rsp : TransChannelRspParams) (channel : DynChannel)
    (live : Bool) : Prop where
  lcid : rsp.lcid = channel.lcid
  status : rsp.status = if live then .established else .released
  tcid : rsp.tcid = channel.localTcid
  entry : live = true →
    TransChannel.mk rsp.tcid rsp.srcPort rsp.dstPort rsp.slqi = entryOf channel

/-- What the QoS manager makes of an answer about a channel, apart from its
numbers. -/
def Hears (tables : Tables) (fate : Fate) (entry : DeviceLog)
    (channel : DynChannel) (live : Bool) (after : Tables) : Prop :=
  ∃ number rsp, after =
      { tables.relisted fate entry channel.lcid with number }.note
        (.status rsp) ∧
    Tells rsp channel live

section Hears

variable {fate : Fate} {entry : DeviceLog} {channel : DynChannel} {live : Bool}
  {result : UInt8}

section

variable (tables : Tables) (fate : Fate)

section

variable (channel : DynChannel)

theorem establishRspCbk_hears :
    tables.Hears fate (.establishRsp channel rspSuccess) channel true
      (tables.establishRspCbk fate channel rspSuccess) := by
  have lists : listing (.establishRsp channel rspSuccess) =
      some (channel, true) := rfl
  refine Exists.intro tables.number (Exists.intro _
    (And.intro (congrArg₂ note ?handled rfl) ⟨rfl, rfl, rfl, fun _ => rfl⟩))
  rw [if_pos rfl, transChannelAdd_eq fate rfl]
  cases found : tables.logicLinkFind channel.lcid with
  | none =>
    rw [relisted_absent lists found]
    exact changeLink_absent found
  | some link =>
    cases node : fate.channelNode with
    | false =>
      apply relisted_of_not_chooses lists
      simp [chooses, lists, node]
    | true =>
      show (if channel.params.frameType ≠ radioFrameType4 then
          Tables.updateConnParams _ channel.lcid fate.updated
        else _) = tables.relisted fate _ channel.lcid
      split
      case isTrue type =>
        apply relisted_of_chooses lists
        simp [chooses, lists, settles, type, node]
      case isFalse type =>
        apply relisted_of_not_chooses lists
        simp [chooses, lists, settles, not_not.mp type]

theorem releaseRspCbk_hears
    (released : result = rspSuccess ∨ result = rspTimeout) :
    tables.Hears fate (.releaseRsp channel result) channel false
      (tables.releaseRspCbk fate channel result) := by
  have lists : listing (.releaseRsp channel result) =
      some (channel, false) := if_pos released
  refine Exists.intro tables.number (Exists.intro _
    (And.intro (congrArg₂ note ?handled rfl)
      ⟨rfl, by simp [released], rfl, nofun⟩))
  rw [if_pos released, transChannelDel_eq fate rfl]
  cases found : tables.logicLinkFind channel.lcid with
  | none =>
    rw [relisted_absent lists found]
    exact changeLink_absent found
  | some link =>
    show (if channel.params.frameType ≠ radioFrameType4 then
        Tables.updateConnParams _ channel.lcid fate.updated
      else _) = tables.relisted fate _ channel.lcid
    split
    case isTrue type =>
      apply relisted_of_chooses lists
      simp [chooses, lists, settles, type]
    case isFalse type =>
      apply relisted_of_not_chooses lists
      simp [chooses, lists, settles, not_not.mp type]

theorem statusIndicationCbk_hears (added : Bool) {live : Bool}
    (lists : listing (.statusIndication channel added result) =
      some (channel, live)) :
    tables.Hears fate (.statusIndication channel added result) channel live
      (tables.statusIndicationCbk fate channel result) := by
  have chosen : chooses fate (.statusIndication channel added result) =
      false := by
    simp [chooses, lists, settles]
  have relisted := @relisted_of_not_chooses tables _ _ _ _ lists chosen
  unfold statusIndicationCbk
  by_cases normal : result = indicationNormal
  · rw [listing, if_pos normal] at lists
    cases lists
    rw [if_pos normal, transChannelAdd_eq fate rfl, relisted]
    exact ⟨_, _, rfl, rfl, rfl, rfl, fun _ => rfl⟩
  · rw [if_neg normal]
    by_cases ended : result = indicationDisconnected
    · rw [listing, if_neg normal, if_pos ended] at lists
      cases lists
      rw [if_pos ended, transChannelDel_eq fate rfl, relisted]
      exact ⟨_, _, rfl, rfl, rfl, rfl, nofun⟩
    · rw [listing, if_neg normal, if_neg ended] at lists
      cases lists

end

theorem answered_hears (lists : listing entry = some (channel, live)) :
    tables.Hears fate entry channel live (tables.answered fate entry) := by
  cases entry with
  | establishRsp answered result =>
    rw [listing] at lists
    split at lists
    case isTrue success =>
      cases lists
      subst success
      exact establishRspCbk_hears tables fate channel
    case isFalse => cases lists
  | releaseRsp answered result =>
    rw [listing] at lists
    split at lists
    case isTrue released =>
      cases lists
      exact releaseRspCbk_hears tables fate channel released
    case isFalse => cases lists
  | statusIndication answered added result =>
    have same : answered = channel := by
      rw [listing] at lists
      split at lists
      · exact congrArg Prod.fst (Option.some.inj lists)
      · split at lists
        · exact congrArg Prod.fst (Option.some.inj lists)
        · cases lists
    subst same
    exact statusIndicationCbk_hears tables fate answered added lists
  | _ => cases lists

theorem answered_unlisted (lists : listing entry = none) :
    (tables.answered fate entry).links = tables.links ∧
      ∃ reports, (tables.answered fate entry).log = tables.log ++ reports ∧
        (∀ lcid list, reports.foldl (told lcid) list = list) ∧
        ∀ lcid slqi, .updateReq lcid slqi ∉ reports := by
  cases entry with
  | establishRsp answered result =>
    rw [listing] at lists
    split at lists
    case isTrue => cases lists
    case isFalse failed =>
      simp only [Tables.answered, establishRspCbk, if_neg failed]
      exact ⟨rfl, [_], rfl, by simp [told], by simp⟩
  | releaseRsp answered result =>
    rw [listing] at lists
    split at lists
    case isTrue => cases lists
    case isFalse failed =>
      simp only [Tables.answered, releaseRspCbk, if_neg failed]
      exact ⟨rfl, [_], rfl, by simp [told], by simp⟩
  | statusIndication answered added result =>
    rw [listing] at lists
    split at lists
    · cases lists
    case isFalse unknown =>
      split at lists
      · cases lists
      case isFalse ended =>
        simp [Tables.answered, statusIndicationCbk, unknown, ended]
  | _ => exact ⟨rfl, [], by simp [Tables.answered]⟩

theorem find_answered (lists : listing entry = some (channel, live)) :
    (tables.answered fate entry).logicLinkFind other =
      (tables.logicLinkFind other).map fun link =>
        if channel.lcid = other then link.heard fate entry else link := by
  obtain ⟨number, rsp, after, _⟩ := answered_hears tables fate lists
  have keeps (link : LogicLink) : (link.heard fate entry).lcid = link.lcid :=
    link.heard_lcid fate entry
  rw [after]
  by_cases same : channel.lcid = other
  · subst same
    simp only [if_true]
    exact lookup_modify_self keeps
  · simp only [same, if_false, Option.map_id']
    exact lookup_modify_ne keeps (Ne.symm same)

theorem find_answered_unlisted (lists : listing entry = none) :
    (tables.answered fate entry).logicLinkFind other =
      tables.logicLinkFind other := by
  unfold logicLinkFind
  rw [(answered_unlisted tables fate lists).1]

theorem told_requests (entry : DeviceLog) (lcid : Nat)
    (list : List TransChannel) :
    (tables.requests fate entry).foldl (told lcid) list = list := by
  have asks (link : LogicLink) : link.asks.foldl (told lcid) list = list := by
    unfold LogicLink.asks
    split <;> rfl
  unfold requests
  split
  · rfl
  · split
    next channel live _ _ =>
      cases tables.logicLinkFind channel.lcid with
      | none => rfl
      | some link => exact asks _
    · rfl

end

theorem Tells.told {rsp : TransChannelRspParams}
    (tells : Tells rsp channel live) (lcid : Nat) (list : List TransChannel) :
    told lcid list (.status rsp) =
      if channel.lcid = lcid then relist channel live list else list := by
  unfold NearLink.Qosm.told
  dsimp only
  rw [tells.lcid, tells.status]
  cases live with
  | true => simp [relist, tells.entry rfl]
  | false => simp [relist, tells.tcid]

theorem standing_answered (tables : Tables) (fate : Fate)
    (lists : listing entry = some (channel, live)) (lcid : Nat) :
    standing lcid (tables.answered fate entry).log =
      if channel.lcid = lcid then
        relist channel live (standing lcid tables.log)
      else standing lcid tables.log := by
  obtain ⟨number, rsp, after, tells⟩ := answered_hears tables fate lists
  have log : (tables.answered fate entry).log =
      (tables.log ++ tables.requests fate entry) ++ [QosmLog.status rsp] := by
    rw [after]
    rfl
  rw [log, standing_concat, tells.told]
  unfold standing
  rw [foldl_append, told_requests]

theorem standing_answered_unlisted (tables : Tables) (fate : Fate)
    (lists : listing entry = none) (lcid : Nat) :
    standing lcid (tables.answered fate entry).log =
      standing lcid tables.log := by
  obtain ⟨_, reports, log, silent, _⟩ := answered_unlisted tables fate lists
  unfold standing
  rw [log, foldl_append, silent]

end Hears

end Tables

/-- Every link lists the channels that were reported established and not
released since, each of them once. -/
def Listed (tables : Tables) : Prop :=
  ∀ lcid link, tables.logicLinkFind lcid = some link →
    link.list = standing lcid tables.log ∧
      (link.list.map TransChannel.tcid).Nodup

structure Stands (list : List TransChannel) (lcid : Nat)
    (channels : List DynChannel) : Prop where
  hosted : ∀ entry ∈ list, ∃ channel ∈ channels,
    channel.localKey = (lcid, entry.tcid) ∧ channel.state ≠ .activating
  distinct : (list.map TransChannel.tcid).Nodup

namespace Stands

variable {list : List TransChannel} {lcid : Nat}
  {channels after : List DynChannel} {channel : DynChannel}

theorem mono (stands : Stands list lcid channels)
    (kept : ∀ channel ∈ channels, channel.lcid = lcid →
      channel.state ≠ .activating →
      ∃ next ∈ after, next.localKey = channel.localKey ∧
        next.state ≠ .activating) : Stands list lcid after where
  hosted := by
    intro entry member
    obtain ⟨channel, listed, key, state⟩ := stands.hosted entry member
    have here : channel.lcid = lcid := congrArg Prod.fst key
    obtain ⟨next, again, same, settled⟩ := kept channel listed here state
    exact ⟨next, again, same.trans key, settled⟩
  distinct := stands.distinct

theorem added (stands : Stands list channel.lcid channels)
    (fresh : ∀ other ∈ channels, other.state ≠ .activating →
      other.localKey ≠ channel.localKey)
    (kept : ∀ other ∈ channels, other.state ≠ .activating → other ∈ after)
    {next : DynChannel} (member : next ∈ after)
    (key : next.localKey = channel.localKey)
    (state : next.state ≠ .activating) :
    Stands (relist channel true list) channel.lcid after where
  hosted := by
    refine forall_mem_cons.mpr ⟨⟨next, member, key, state⟩,
      fun entry earlier => ?_⟩
    obtain ⟨other, among, same, settled⟩ := stands.hosted entry earlier
    exact ⟨other, kept other among settled, same, settled⟩
  distinct := by
    show ((entryOf channel :: list).map TransChannel.tcid).Nodup
    rw [map_cons, nodup_cons]
    refine ⟨?_, stands.distinct⟩
    intro taken
    obtain ⟨entry, earlier, same⟩ := mem_map.mp taken
    obtain ⟨other, among, key, settled⟩ := stands.hosted entry earlier
    apply fresh other among settled
    rw [key, same]
    rfl

theorem dropped (stands : Stands list channel.lcid channels)
    (distinct : (channels.map DynChannel.serial).Nodup)
    (member : channel ∈ channels) :
    Stands (relist channel false list) channel.lcid
      (remove DynChannel.serial channel.serial channels) := by
  have rest : relist channel false list =
      list.filter fun entry => entry.tcid ≠ channel.localTcid :=
    remove_eq_filter stands.distinct
  rw [rest]
  constructor
  · intro entry listed
    obtain ⟨earlier, differs⟩ := mem_filter.mp listed
    obtain ⟨other, among, key, settled⟩ := stands.hosted entry earlier
    refine ⟨other, (mem_remove distinct).mpr ⟨among, ?_⟩, key, settled⟩
    intro serial
    have same := inj_on_of_nodup_map distinct among member serial
    subst same
    have tcid : other.localTcid = entry.tcid := congrArg Prod.snd key
    simp [tcid] at differs
  · exact stands.distinct.sublist (filter_sublist.map _)

section

variable (stands : Stands list lcid channels)
  (distinct : (channels.map DynChannel.serial).Nodup)
include stands distinct

theorem elsewhere
    (apart : ∀ other ∈ channels, other.serial = channel.serial →
      other.lcid ≠ lcid ∨ other.state = .activating) :
    Stands list lcid (remove DynChannel.serial channel.serial channels) := by
  apply stands.mono
  intro other among here settled
  refine ⟨other, (mem_remove distinct).mpr ⟨among, ?_⟩, rfl, settled⟩
  intro serial
  rcases apart other among serial with elsewhere | activating
  · exact elsewhere here
  · exact settled activating

theorem changed {change : DynChannel → DynChannel}
    (keeps : ∀ node, (change node).localKey = node.localKey)
    (settles : ∀ node, (change node).state ≠ .activating) {serial : Nat} :
    Stands list lcid (modify DynChannel.serial serial change channels) := by
  apply stands.mono
  intro other among _ settled
  by_cases same : other.serial = serial
  · refine ⟨change other, ?_, keeps other, settles other⟩
    exact (mem_modify distinct).mpr (.inr ⟨other, among, same, rfl⟩)
  · refine ⟨other, ?_, rfl, settled⟩
    exact (mem_modify distinct).mpr (.inl ⟨among, same⟩)

end

end Stands

def relistOn (lcid : Nat) (list : List TransChannel) (entry : DeviceLog) :
    List TransChannel :=
  match listing entry with
  | none => list
  | some (channel, live) =>
    if channel.lcid = lcid then relist channel live list else list

def Releases (answers : List DeviceLog) : Prop :=
  ∀ channel result, .releaseRsp channel result ∈ answers →
    result = rspSuccess ∨ result = rspTimeout

variable {list : List TransChannel} {lcid : Nat} {listed : List DynChannel}

theorem relistOn_of_listing {entry : DeviceLog} {channel : DynChannel}
    {live : Bool} (lists : listing entry = some (channel, live)) :
    relistOn lcid list entry =
      if channel.lcid = lcid then relist channel live list else list := by
  simp only [relistOn, lists]

theorem listing_disconnectReport (channel : DynChannel) :
    listing (Device.disconnectReport channel) =
      if channel.state = .activating then none else some (channel, false) := by
  unfold Device.disconnectReport
  split <;> rfl

theorem mem_swept (here : ∀ channel ∈ listed, channel.lcid = lcid)
    (distinct : (list.map TransChannel.tcid).Nodup) {entry : TransChannel}
    (member : entry ∈ (listed.map Device.disconnectReport).foldl
      (relistOn lcid) list) :
    entry ∈ list ∧ ∀ channel ∈ listed, channel.state ≠ .activating →
      channel.localTcid ≠ entry.tcid := by
  induction listed generalizing list with
  | nil => exact ⟨member, nofun⟩
  | cons channel listed induction =>
    have later := fun other among =>
      here other (mem_cons_of_mem channel among)
    rw [map_cons, foldl_cons, relistOn, listing_disconnectReport] at member
    by_cases activating : channel.state = .activating
    · rw [if_pos activating] at member
      obtain ⟨kept, apart⟩ := induction later distinct member
      refine ⟨kept, ?_⟩
      exact forall_mem_cons.mpr ⟨fun settled => absurd activating settled,
        apart⟩
    · rw [if_neg activating] at member
      dsimp only at member
      rw [if_pos (here channel (by simp))] at member
      have rest : relist channel false list =
          list.filter fun entry => entry.tcid ≠ channel.localTcid :=
        remove_eq_filter distinct
      rw [rest] at member
      obtain ⟨kept, apart⟩ := induction later
        (distinct.sublist (filter_sublist.map _)) member
      obtain ⟨earlier, differs⟩ := mem_filter.mp kept
      refine ⟨earlier, ?_⟩
      refine forall_mem_cons.mpr ⟨?_, apart⟩
      intro settled
      simpa using Ne.symm (of_decide_eq_true differs)

theorem foldl_relistOn_elsewhere
    (apart : ∀ channel ∈ listed, channel.lcid ≠ lcid)
    (list : List TransChannel) :
    (listed.map Device.disconnectReport).foldl (relistOn lcid) list =
      list := by
  induction listed with
  | nil => rfl
  | cons channel listed induction =>
    have later := fun other among =>
      apart other (mem_cons_of_mem channel among)
    have same : relistOn lcid list (Device.disconnectReport channel) =
        list := by
      rw [relistOn, listing_disconnectReport]
      by_cases activating : channel.state = .activating
      · rw [if_pos activating]
      · rw [if_neg activating]
        exact if_neg (apart channel (by simp))
    rw [map_cons, foldl_cons, same, induction later]

section Step

variable {device : Device} {event : DeviceEvent} {heard : List DeviceLog}
  {channels : List DynChannel} {lcid : Nat} {list : List TransChannel}
  {channel : DynChannel}

theorem fresh_of_freeTcid (placed : device.Placed) {unicast : Bool}
    (free : device.freeTcid channel.lcid unicast = some channel.localTcid)
    (other : DynChannel) (among : other ∈ device.channels) :
    other.localKey ≠ channel.localKey := by
  intro same
  obtain ⟨_, _, pool, located, unused⟩ := Device.freeTcid_some free
  obtain ⟨lcids, tcids⟩ := Prod.mk.inj same
  have used := placed.marked other among
  rw [lcids, tcids] at used
  unfold Device.usedOf at used
  rw [located] at used
  exact unused used

variable (stands : Stands list lcid device.channels)
include stands

theorem Stands.freed (formed : device.Formed)
    (member : channel ∈ device.channels) {entry : DeviceLog}
    (lists : listing entry = some (channel, false)) :
    Stands (relistOn lcid list entry) lcid
      (remove DynChannel.serial channel.serial device.channels) := by
  rw [relistOn_of_listing lists]
  split
  case isTrue here =>
    subst here
    exact stands.dropped formed.distinct member
  case isFalse apart =>
    apply stands.elsewhere formed.distinct
    intro other among serial
    have same := inj_on_of_nodup_map formed.distinct among member serial
    rw [same]
    exact .inl apart

theorem Stands.opened (state : channel.state ≠ .activating)
    (fresh : ∀ other ∈ device.channels, other.state ≠ .activating →
      other.localKey ≠ channel.localKey)
    (kept : ∀ other ∈ device.channels, other.state ≠ .activating →
      other ∈ channels) (member : channel ∈ channels) {entry : DeviceLog}
    (lists : listing entry = some (channel, true)) :
    Stands (relistOn lcid list entry) lcid channels := by
  rw [relistOn_of_listing lists]
  split
  case isTrue here =>
    subst here
    exact stands.added fresh kept member rfl state
  case isFalse apart =>
    apply stands.mono
    intro other among _ settled
    exact ⟨other, kept other among settled, rfl, settled⟩

theorem Stands.swept {down : Nat} {allocated : Bool}
    (sweeps : device.SweepsLink (.linkDown down allocated)) :
    Stands ((if allocated then
        (device.channels.filter fun channel =>
          channel.lcid = down).map Device.disconnectReport
      else []).foldl (relistOn lcid) list) lcid
      (if allocated then
        device.channels.filter fun channel => channel.lcid ≠ down
      else device.channels) := by
  cases allocated with
  | false => exact stands
  | true =>
    simp only [if_true]
    by_cases here : down = lcid
    · subst here
      have none (entry : TransChannel) : entry ∉
          ((device.channels.filter fun channel =>
            channel.lcid = down).map Device.disconnectReport).foldl
              (relistOn down) list := by
        intro member
        obtain ⟨listed, apart⟩ := mem_swept (by simp) stands.distinct member
        obtain ⟨channel, among, key, settled⟩ := stands.hosted entry listed
        obtain ⟨lcids, tcids⟩ := Prod.mk.inj key
        exact apart channel (mem_filter.mpr ⟨among, by simpa⟩) settled
          tcids
      rw [eq_nil_iff_forall_not_mem.mpr none]
      exact ⟨nofun, nodup_nil⟩
    · have apart : ∀ channel ∈ device.channels.filter (fun channel =>
          channel.lcid = down), channel.lcid ≠ lcid := by
        intro channel member same
        have named : channel.lcid = down := by
          simpa using (mem_filter.mp member).2
        exact here (named.symm.trans same)
      rw [foldl_relistOn_elsewhere apart]
      apply stands.mono
      intro other among lcids settled
      refine ⟨other, mem_filter.mpr ⟨among, ?_⟩, rfl, settled⟩
      simpa [lcids] using Ne.symm here

theorem Stands.step (placed : device.Placed) (formed : device.Formed)
    (sweeps : device.SweepsLink event) (releases : Releases heard)
    (moved : Moved device event heard channels) :
    Stands (heard.foldl (relistOn lcid) list) lcid channels := by
  cases moved with
  | nothing => exact stands
  | @requested event channel serial state free =>
    apply stands.mono
    intro other among _ settled
    exact ⟨other, mem_append_left _ among, rfl, settled⟩
  | @established event channel dstTcid establishes =>
    obtain ⟨member, activating, _⟩ := Device.establishes_spec establishes
    rw [foldl_cons, foldl_nil]
    refine stands.opened (by simp) ?_ ?_ ?_ rfl
    · intro other among settled same
      have equal := inj_on_of_nodup_map placed.locals among member same
      subst equal
      exact settled activating
    · intro other among settled
      refine (mem_modify formed.distinct).mpr (.inl ⟨among, ?_⟩)
      intro serial
      have equal :=
        inj_on_of_nodup_map formed.distinct among member serial
      subst equal
      exact settled activating
    · exact (mem_modify formed.distinct).mpr (.inr ⟨channel, member, rfl, rfl⟩)
  | @refused event channel result member activating failed =>
    have lists : listing (.establishRsp channel result) = none :=
      if_neg failed
    simp only [foldl_cons, foldl_nil, relistOn, lists]
    apply stands.elsewhere formed.distinct
    intro other among serial
    have same := inj_on_of_nodup_map formed.distinct among member serial
    rw [same]
    exact .inr activating
  | @releasing | @unreleased =>
    apply stands.changed formed.distinct
    · intro node
      rfl
    · intro node
      simp
  | @released event channel result member =>
    have answered := releases channel result (by simp)
    exact stands.freed formed member (if_pos answered)
  | @accepted event channel unicast serial state free =>
    rw [foldl_cons, foldl_nil]
    refine stands.opened (by simp [state]) ?_ ?_ (by simp) rfl
    · intro other among _
      exact fresh_of_freeTcid placed free other among
    · intro other among _
      exact mem_append_left _ among
  | @disconnected event channel member =>
    have lists : listing
        (.statusIndication channel false indicationDisconnected) =
          some (channel, false) := rfl
    exact stands.freed formed member lists
  | @linkDown down allocated => exact stands.swept sweeps

end Step

end NearLink.Qosm
