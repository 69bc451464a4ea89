import NearLink.Qosm.TransChannel

/-!
# Counting the channels of each link

One entry for each link that has channels, and the total of all entries.
-/

namespace NearLink.Qosm

open Keyed

namespace ChannelNum

variable {number : ChannelNum} {lcid : Nat} {allocated : Bool} {num : UInt16}
  {total : UInt32}

def numberOf (lcid : Nat) (number : ChannelNum) : Nat :=
  ((lookup ChannelNumNode.lcid lcid number.nodes).map fun node =>
    node.channelNum.toNat).getD 0

structure Sound (number : ChannelNum) : Prop where
  keys : (number.nodes.map ChannelNumNode.lcid).Nodup
  positive : ∀ node ∈ number.nodes, 0 < node.channelNum
  sum : number.channelTotalNum.toNat =
    (number.nodes.map fun node => node.channelNum.toNat).sum

/-- One more channel of the link can be counted: neither counter is at its
limit, and a link without an entry can be given one. -/
structure HasRoom (number : ChannelNum) (lcid : Nat) (allocated : Bool) :
    Prop where
  total : number.channelTotalNum.toNat + 1 < 2 ^ 32
  entry : number.numberOf lcid + 1 < 2 ^ 16
  memory : number.numberOf lcid = 0 → allocated = true

theorem sound_empty : ({} : ChannelNum).Sound :=
  ⟨List.nodup_nil, nofun, rfl⟩

theorem numberOf_of_lookup {node : ChannelNumNode}
    (found : lookup ChannelNumNode.lcid lcid number.nodes = some node) :
    number.numberOf lcid = node.channelNum.toNat := by
  simp [numberOf, found]

theorem numberOf_of_absent
    (absent : lookup ChannelNumNode.lcid lcid number.nodes = none) :
    number.numberOf lcid = 0 := by
  simp [numberOf, absent]

theorem numberOf_lt (number : ChannelNum) (lcid : Nat) :
    number.numberOf lcid < 2 ^ 16 := by
  unfold numberOf
  cases lookup ChannelNumNode.lcid lcid number.nodes with
  | none => decide
  | some node => exact node.channelNum.toNat_lt

theorem total_lt (number : ChannelNum) :
    number.channelTotalNum.toNat < 2 ^ 32 :=
  number.channelTotalNum.toNat_lt

theorem Sound.absent (sound : number.Sound) (zero : number.numberOf lcid = 0) :
    lookup ChannelNumNode.lcid lcid number.nodes = none := by
  cases found : lookup ChannelNumNode.lcid lcid number.nodes with
  | none => rfl
  | some node =>
    have positive := sound.positive node (lookup_mem found)
    rw [numberOf_of_lookup found] at zero
    have larger : 0 < node.channelNum.toNat :=
      UInt16.lt_iff_toNat_lt.mp positive
    omega

theorem Sound.found (sound : number.Sound)
    (counted : number.numberOf lcid ≠ 0) :
    ∃ node, lookup ChannelNumNode.lcid lcid number.nodes = some node ∧
      node.channelNum.toNat = number.numberOf lcid ∧
      0 < node.channelNum := by
  cases found : lookup ChannelNumNode.lcid lcid number.nodes with
  | none => exact absurd (numberOf_of_absent found) counted
  | some node =>
    exact ⟨node, rfl, (numberOf_of_lookup found).symm,
      sound.positive node (lookup_mem found)⟩

theorem Sound.le_total (sound : number.Sound) (lcid : Nat) :
    number.numberOf lcid ≤ number.channelTotalNum.toNat := by
  by_cases zero : number.numberOf lcid = 0
  · omega
  · obtain ⟨node, found, value, _⟩ := sound.found zero
    have split := sum_remove (fun node => node.channelNum.toNat) found
    have total := sound.sum
    omega

section Changes

variable {node : ChannelNumNode}

theorem keeps_lcid (change : UInt16 → UInt16) (node : ChannelNumNode) :
    ChannelNumNode.lcid
        { node with channelNum := change node.channelNum } = node.lcid := rfl

theorem numberOf_modify
    (found : lookup ChannelNumNode.lcid lcid number.nodes = some node)
    (change : UInt16 → UInt16) (total : UInt32) (other : Nat) :
    numberOf other
        { nodes := modify ChannelNumNode.lcid lcid
            (fun node => { node with channelNum := change node.channelNum })
            number.nodes
          channelTotalNum := total } =
      if other = lcid then (change node.channelNum).toNat
      else number.numberOf other := by
  unfold numberOf
  split
  case isTrue same =>
    rw [same, lookup_modify_self (keeps_lcid change), found]
    rfl
  case isFalse differs => rw [lookup_modify_ne (keeps_lcid change) differs]

theorem numberOf_remove (keys : (number.nodes.map ChannelNumNode.lcid).Nodup)
    (total : UInt32) (other : Nat) :
    numberOf other
        { nodes := remove ChannelNumNode.lcid lcid number.nodes
          channelTotalNum := total } =
      if other = lcid then 0 else number.numberOf other := by
  unfold numberOf
  split
  case isTrue same =>
    rw [same, lookup_remove_self keys]
    rfl
  case isFalse differs => rw [lookup_remove_ne differs]

section

variable (sound : number.Sound)
  (found : lookup ChannelNumNode.lcid lcid number.nodes = some node)
include sound found

theorem Sound.modify (change : UInt16 → UInt16) (total : UInt32)
    (positive : 0 < change node.channelNum)
    (moved : total.toNat + node.channelNum.toNat =
      number.channelTotalNum.toNat + (change node.channelNum).toNat) :
    Sound
      { nodes := Keyed.modify ChannelNumNode.lcid lcid
          (fun node => { node with channelNum := change node.channelNum })
          number.nodes
        channelTotalNum := total } where
  keys := by
    rw [map_modify (keeps_lcid change)]
    exact sound.keys
  positive := by
    intro other member
    rcases (mem_modify sound.keys).mp member with
      ⟨earlier, _⟩ | ⟨record, earlier, named, rfl⟩
    · exact sound.positive other earlier
    · have same := lookup_of_mem sound.keys earlier
      rw [named, found] at same
      cases same
      exact positive
  sum := by
    have split := sum_modify (fun node => node.channelNum.toNat)
      (fun node => { node with channelNum := change node.channelNum }) found
    have whole := sound.sum
    dsimp only at split ⊢
    omega

theorem Sound.remove (total : UInt32)
    (moved : total.toNat + node.channelNum.toNat = number.channelTotalNum.toNat)
    :
    Sound
      { nodes := Keyed.remove ChannelNumNode.lcid lcid number.nodes
        channelTotalNum := total } where
  keys := sound.keys.sublist (remove_sublist.map _)
  positive := fun other member =>
    sound.positive other (remove_sublist.subset member)
  sum := by
    have split := sum_remove (fun node => node.channelNum.toNat) found
    have whole := sound.sum
    dsimp only at split ⊢
    omega

end

end Changes

theorem toNat_add_one (room : num.toNat + 1 < 2 ^ 16) :
    (num + 1).toNat = num.toNat + 1 := by
  exact Nat.mod_eq_of_lt room

theorem total_add_one (room : total.toNat + 1 < 2 ^ 32) :
    (total + 1).toNat = total.toNat + 1 := by
  exact Nat.mod_eq_of_lt room

theorem toNat_sub_one (positive : 0 < num) :
    (num - 1).toNat + 1 = num.toNat := by
  have larger : 0 < num.toNat := UInt16.lt_iff_toNat_lt.mp positive
  have least : (1 : UInt16) ≤ num := UInt16.le_iff_toNat_le.mpr larger
  rw [UInt16.toNat_sub_of_le _ _ least]
  exact Nat.sub_add_cancel larger

theorem total_sub_one (positive : 0 < total.toNat) :
    (total - 1).toNat + 1 = total.toNat := by
  have least : (1 : UInt32) ≤ total := UInt32.le_iff_toNat_le.mpr positive
  rw [UInt32.toNat_sub_of_le _ _ least]
  exact Nat.sub_add_cancel positive

variable (sound : number.Sound)
include sound

theorem Sound.increase (room : number.HasRoom lcid allocated) :
    (number.increase lcid allocated).Sound ∧
      (number.increase lcid allocated).channelTotalNum.toNat =
        number.channelTotalNum.toNat + 1 ∧
      ∀ other, (number.increase lcid allocated).numberOf other =
        number.numberOf other + if other = lcid then 1 else 0 := by
  have total := total_add_one room.total
  unfold ChannelNum.increase
  cases found : lookup ChannelNumNode.lcid lcid number.nodes with
  | some node =>
    have value := numberOf_of_lookup found
    have next : (node.channelNum + 1).toNat = node.channelNum.toNat + 1 :=
      toNat_add_one (value ▸ room.entry)
    refine ⟨sound.modify found (· + 1) _ ?_ ?_, total, ?_⟩
    · rw [UInt16.lt_iff_toNat_lt, next]
      exact Nat.succ_pos _
    · omega
    · intro other
      rw [numberOf_modify found (· + 1)]
      split
      case isTrue same => rw [next, same, value]
      case isFalse => rfl
  | none =>
    have absent := numberOf_of_absent found
    rw [if_pos (room.memory absent)]
    refine ⟨⟨?_, ?_, ?_⟩, total, ?_⟩
    · apply nodup_append_singleton sound.keys
      exact lookup_eq_none.mp found
    · exact List.forall_mem_append.mpr ⟨sound.positive,
        List.forall_mem_singleton.mpr ((by decide : (0 : UInt16) < 1))⟩
    · rw [total, sound.sum]
      simp
    · intro other
      unfold numberOf
      rw [lookup_append]
      by_cases same : other = lcid
      · subst same
        simp [found]
      · simp [same, Ne.symm same]

theorem Sound.hasRoom
    (total : (number.increase lcid allocated).channelTotalNum.toNat =
      number.channelTotalNum.toNat + 1)
    (entry : (number.increase lcid allocated).numberOf lcid =
      number.numberOf lcid + 1) : number.HasRoom lcid allocated where
  total := total ▸ total_lt _
  entry := entry ▸ numberOf_lt _ lcid
  memory := by
    intro zero
    by_contra unallocated
    simp [ChannelNum.increase, sound.absent zero, unallocated] at total

theorem Sound.decrease_zero (zero : number.numberOf lcid = 0) :
    number.decrease lcid = number := by
  simp [ChannelNum.decrease, sound.absent zero]

theorem Sound.decrease (counted : number.numberOf lcid ≠ 0) :
    (number.decrease lcid).Sound ∧
      (number.decrease lcid).channelTotalNum.toNat + 1 =
        number.channelTotalNum.toNat ∧
      ∀ other, (number.decrease lcid).numberOf other +
        (if other = lcid then 1 else 0) = number.numberOf other := by
  obtain ⟨node, found, value, positive⟩ := sound.found counted
  have whole := sound.le_total lcid
  have total : (number.channelTotalNum - 1).toNat + 1 =
      number.channelTotalNum.toNat := total_sub_one (by omega)
  have less := toNat_sub_one positive
  unfold ChannelNum.decrease
  simp only [found, positive, if_true]
  split
  case isTrue last =>
    have single : node.channelNum.toNat = 1 := by
      rw [last] at less
      simpa using less.symm
    rw [remove_modify (keeps_lcid (· - 1))]
    refine ⟨sound.remove found _ (by omega), total, ?_⟩
    intro other
    rw [numberOf_remove sound.keys]
    split
    case isTrue same =>
      rw [same]
      omega
    case isFalse => rfl
  case isFalse more =>
    refine ⟨sound.modify found (· - 1) _ ?_ ?_, total, ?_⟩
    · rw [UInt16.lt_iff_toNat_lt]
      by_contra zero
      apply more
      rw [← UInt16.toNat_inj]
      simpa using zero
    · omega
    · intro other
      rw [numberOf_modify found (· - 1)]
      split
      case isTrue same =>
        rw [same]
        omega
      case isFalse => rfl

theorem Sound.clear (lcid : Nat) : (number.clear lcid).Sound ∧
      (number.clear lcid).channelTotalNum.toNat + number.numberOf lcid =
        number.channelTotalNum.toNat ∧
      ∀ other, (number.clear lcid).numberOf other =
        if other = lcid then 0 else number.numberOf other := by
  have whole := sound.le_total lcid
  unfold ChannelNum.clear
  cases found : lookup ChannelNumNode.lcid lcid number.nodes with
  | none =>
    have absent := numberOf_of_absent found
    refine ⟨sound, by rw [absent]; rfl, ?_⟩
    intro other
    by_cases same : other = lcid
    · rw [if_pos same, same]
      exact absent
    · rw [if_neg same]
  | some node =>
    have value := numberOf_of_lookup found
    have width : node.channelNum.toUInt32.toNat = node.channelNum.toNat := by
      simp
    have total : (if node.channelNum.toUInt32 < number.channelTotalNum then
          number.channelTotalNum - node.channelNum.toUInt32
        else 0).toNat + node.channelNum.toNat =
        number.channelTotalNum.toNat := by
      split
      case isTrue less =>
        have below := UInt32.le_of_lt less
        rw [UInt32.toNat_sub_of_le _ _ below, width]
        omega
      case isFalse most =>
        have bound : number.channelTotalNum.toNat ≤
            node.channelNum.toUInt32.toNat :=
          UInt32.le_iff_toNat_le.mp (UInt32.not_lt.mp most)
        simp only [UInt32.toNat_zero]
        omega
    refine ⟨sound.remove found _ total, by rw [value]; exact total, ?_⟩
    exact numberOf_remove sound.keys _

end ChannelNum

end NearLink.Qosm
