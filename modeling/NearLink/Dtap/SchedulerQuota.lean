import NearLink.Dtap.SchedulerFormed
import Mathlib.Algebra.BigOperators.Ring.List
import Mathlib.Algebra.Order.BigOperators.Group.List

/-!
# Shares of the buffers

`DTAP_AllocLcidQuota` divides the buffers that are left over among the links by
the method of the largest remainders.  A round always finds a link to raise:
the remainders of the links that are not raised sum up to more than nothing
while buffers are left.
-/

namespace NearLink.Dtap

namespace Scheduler

open Keyed List

variable {pool total rounds : Nat} {nodes : List BufferNode}
  {node : BufferNode}

def share (pool total : Nat) (node : BufferNode) : Nat :=
  pool * node.queuedPktCnt / total

def remainder (pool total : Nat) (node : BufferNode) : Nat :=
  pool * node.queuedPktCnt % total

def extra (pool total : Nat) (node : BufferNode) : Nat :=
  node.quota - minBufferNum - share pool total node

def bonusPool (apBufferNum : Nat) (nodes : List BufferNode) : Nat :=
  apBufferNum - nodes.length * minBufferNum

def truncated (pool total : Nat) (nodes : List BufferNode) :
    List BufferNode :=
  nodes.map fun node =>
    { node with
      quota := (minBufferNum + floorBonus pool total node) % 2 ^ 8 }

/-- The number of rounds, an 8-bit difference of an 8-bit sum. -/
def remaining (pool total : Nat) (nodes : List BufferNode) : Nat :=
  (pool + 2 ^ 8 - (nodes.map (floorBonus pool total)).sum % 2 ^ 8) % 2 ^ 8

theorem allocLcidQuota_eq (apBufferNum total : Nat) (nodes : List BufferNode) :
    allocLcidQuota apBufferNum total nodes =
      (raiseMaxFracNode (bonusPool apBufferNum nodes) total)^[remaining
        (bonusPool apBufferNum nodes) total nodes]
        (truncated (bonusPool apBufferNum nodes) total nodes) := by
  have pooled : (if apBufferNum > nodes.length * minBufferNum then
      apBufferNum - nodes.length * minBufferNum else 0) =
      bonusPool apBufferNum nodes := by
    unfold bonusPool
    split <;> omega
  unfold allocLcidQuota
  dsimp only
  rw [pooled]
  rfl

theorem sum_share_remainder (nodes : List BufferNode) :
    total * (nodes.map (share pool total)).sum +
        (nodes.map (remainder pool total)).sum =
      pool * calcTotalQueuedPktCnt nodes := by
  induction nodes with
  | nil => rfl
  | cons node nodes induction =>
    have divided : total * share pool total node +
        remainder pool total node = pool * node.queuedPktCnt :=
      Nat.div_add_mod _ _
    unfold calcTotalQueuedPktCnt at induction ⊢
    simp only [map_cons, sum_cons, Nat.mul_add]
    omega

/-- The numbers of an allocation that has raised a link in each of its rounds,
always one with the largest remainder of those left. -/
structure Rounded (pool total rounds : Nat) (nodes : List BufferNode) :
    Prop where
  unique : (nodes.map BufferNode.lcid).Nodup
  totals : calcTotalQueuedPktCnt nodes = total
  exact : ∀ node ∈ nodes, node.quota = minBufferNum + share pool total node ∨
    node.quota = minBufferNum + share pool total node + 1 ∧
      0 < remainder pool total node
  counted : (nodes.map (extra pool total)).sum = rounds
  fair : ∀ node ∈ nodes, ∀ other ∈ nodes, extra pool total node = 1 →
    extra pool total other = 0 →
    remainder pool total other ≤ remainder pool total node

theorem Rounded.remainder_le (positive : 0 < total)
    (rounded : Rounded pool total rounds nodes) (member : node ∈ nodes)
    (none : ∀ other ∈ nodes, extra pool total other = 0 →
      remainder pool total other = 0) :
    remainder pool total node ≤ total * extra pool total node := by
  have below : remainder pool total node < total := Nat.mod_lt _ positive
  rcases rounded.exact node member with plain | ⟨raised, -⟩
  · have level : extra pool total node = 0 := by
      unfold extra
      omega
    rw [none node member level]
    exact Nat.zero_le _
  · have above : extra pool total node = 1 := by
      unfold extra
      omega
    rw [above, Nat.mul_one]
    exact Nat.le_of_lt below

theorem Rounded.exists_left (rounded : Rounded pool total rounds nodes)
    (positive : 0 < total)
    (left : rounds + (nodes.map (share pool total)).sum < pool) :
    ∃ node ∈ nodes, extra pool total node = 0 ∧
      0 < remainder pool total node := by
  by_contra exhausted
  have none : ∀ node ∈ nodes, extra pool total node = 0 →
      remainder pool total node = 0 := by
    intro node member level
    by_contra some
    exact exhausted ⟨node, member, level, Nat.pos_of_ne_zero some⟩
  have bounded : (nodes.map (remainder pool total)).sum ≤
      total * (nodes.map (extra pool total)).sum := by
    rw [← sum_map_mul_left]
    exact sum_le_sum fun node member =>
      rounded.remainder_le positive member none
  have divided := @sum_share_remainder pool total nodes
  rw [rounded.totals] at divided
  rw [rounded.counted] at bounded
  have whole : pool * total ≤
      total * (rounds + (nodes.map (share pool total)).sum) := by
    rw [Nat.mul_add]
    omega
  rw [Nat.mul_comm] at whole
  exact absurd (Nat.le_of_mul_le_mul_left whole positive) (Nat.not_le.mpr left)

/-- The loop keeps what it has, or ends with a link that is not raised and has
the largest remainder. -/
theorem maxFracNode_spec (maxFrac : Nat) (maxNode : Option Nat)
    (plain : ∀ node ∈ nodes, floorBonus pool total node =
      share pool total node) :
    maxFracNode pool total maxFrac maxNode nodes = maxNode ∧
        (∀ node ∈ nodes, extra pool total node = 0 →
          remainder pool total node ≤ maxFrac) ∨
      ∃ node ∈ nodes,
        maxFracNode pool total maxFrac maxNode nodes = some node.lcid ∧
        extra pool total node = 0 ∧ maxFrac < remainder pool total node ∧
        ∀ other ∈ nodes, extra pool total other = 0 →
          remainder pool total other ≤ remainder pool total node := by
  induction nodes generalizing maxFrac maxNode with
  | nil => exact .inl ⟨rfl, nofun⟩
  | cons node nodes induction =>
    have rest := fun maxFrac maxNode => induction maxFrac maxNode
      fun other member => plain other (.tail _ member)
    have raised : node.quota - minBufferNum > floorBonus pool total node ↔
        extra pool total node ≠ 0 := by
      rw [plain node (by simp)]
      unfold extra
      omega
    unfold maxFracNode
    dsimp only
    split
    case isTrue skipped =>
      have notLevel := raised.mp skipped
      rcases rest maxFrac maxNode with ⟨same, small⟩ |
        ⟨found, member, same, level, above, largest⟩
      · exact .inl ⟨same, forall_mem_cons.mpr
          ⟨fun level => absurd level notLevel, small⟩⟩
      · exact .inr ⟨found, .tail _ member, same, level, above,
          forall_mem_cons.mpr ⟨fun level => absurd level notLevel, largest⟩⟩
    case isFalse taken =>
      have level : extra pool total node = 0 :=
        not_not.mp fun some => taken (raised.mpr some)
      split
      case isTrue larger =>
        rcases rest (remainder pool total node) (some node.lcid) with
          ⟨same, small⟩ | ⟨found, member, same, foundLevel, above, largest⟩
        · exact .inr ⟨node, by simp, same, level, larger,
            forall_mem_cons.mpr ⟨fun _ => le_rfl, small⟩⟩
        · exact .inr ⟨found, .tail _ member, same, foundLevel,
            Nat.lt_trans larger above,
            forall_mem_cons.mpr ⟨fun _ => Nat.le_of_lt above, largest⟩⟩
      case isFalse notLarger =>
        have notLarger : remainder pool total node ≤ maxFrac :=
          Nat.not_lt.mp notLarger
        rcases rest maxFrac maxNode with ⟨same, small⟩ |
          ⟨found, member, same, foundLevel, above, largest⟩
        · exact .inl ⟨same, forall_mem_cons.mpr ⟨fun _ => notLarger, small⟩⟩
        · have below := Nat.le_trans notLarger (Nat.le_of_lt above)
          exact .inr ⟨found, .tail _ member, same, foundLevel, above,
            forall_mem_cons.mpr ⟨fun _ => below, largest⟩⟩

theorem share_le (within : node.queuedPktCnt ≤ total) :
    share pool total node ≤ pool :=
  Nat.div_le_of_le_mul (by
    rw [Nat.mul_comm total]
    exact Nat.mul_le_mul_left pool within)

theorem Rounded.queued_le (rounded : Rounded pool total rounds nodes)
    (member : node ∈ nodes) : node.queuedPktCnt ≤ total := by
  rw [← rounded.totals]
  exact single_le_sum (fun _ _ => Nat.zero_le _) _ (mem_map_of_mem member)

theorem share_lt (within : node.queuedPktCnt ≤ total)
    (left : 0 < remainder pool total node) : share pool total node < pool := by
  have divided : total * share pool total node + remainder pool total node =
      pool * node.queuedPktCnt := Nat.div_add_mod _ _
  have bounded := Nat.mul_le_mul_left pool within
  have below : total * share pool total node < total * pool := by
    rw [Nat.mul_comm total pool]
    omega
  exact Nat.lt_of_mul_lt_mul_left below

theorem floorBonus_eq (small : pool ≤ 254)
    (within : node.queuedPktCnt ≤ total) :
    floorBonus pool total node = share pool total node :=
  Nat.mod_eq_of_lt (by
    have bounded := @share_le pool total node within
    unfold share at bounded
    omega)

theorem Rounded.raise (rounded : Rounded pool total rounds nodes)
    (positive : 0 < total) (small : pool ≤ 254)
    (left : rounds + (nodes.map (share pool total)).sum < pool) :
    Rounded pool total (rounds + 1) (raiseMaxFracNode pool total nodes) ∧
      ((raiseMaxFracNode pool total nodes).map (share pool total)).sum =
        (nodes.map (share pool total)).sum := by
  rcases @maxFracNode_spec pool total nodes 0 none fun node member =>
      floorBonus_eq small (rounded.queued_le member) with
    ⟨-, none⟩ | ⟨found, member, chosen, level, some, largest⟩
  · obtain ⟨node, member, level, some⟩ := rounded.exists_left positive left
    exact absurd (none node member level) (Nat.not_le.mpr some)
  have located := lookup_of_mem rounded.unique member
  have within := rounded.queued_le member
  have below := share_lt within some
  have plain : found.quota = minBufferNum + share pool total found := by
    rcases rounded.exact found member with plain | ⟨raised, -⟩
    · exact plain
    · unfold extra at level
      omega
  have next : (found.quota + 1) % 2 ^ 8 =
      minBufferNum + share pool total found + 1 := by
    unfold minBufferNum at plain ⊢
    omega
  have raised : extra pool total
      { found with quota := (found.quota + 1) % 2 ^ 8 } = 1 := by
    rw [next]
    change minBufferNum + share pool total found + 1 - minBufferNum -
      share pool total found = 1
    omega
  unfold raiseMaxFracNode
  rw [chosen]
  refine ⟨⟨?_, ?_, ?_, ?_, ?_⟩, ?_⟩
  · rw [map_modify]
    · exact rounded.unique
    · exact fun _ => rfl
  · unfold calcTotalQueuedPktCnt
    rw [map_modify]
    · exact rounded.totals
    · exact fun _ => rfl
  · refine forall_modify rounded.exact fun record here => .inr ⟨?_, ?_⟩
    · cases here.symm.trans located
      exact next
    · cases here.symm.trans located
      exact some
  · have summed := sum_modify (extra pool total)
      (fun node => { node with quota := (node.quota + 1) % 2 ^ 8 }) located
    rw [level, raised, rounded.counted] at summed
    exact summed
  · intro node among other also above otherLevel
    rcases (mem_modify rounded.unique).mp also with ⟨old, -⟩ |
      ⟨record, old, here, rfl⟩
    · rcases (mem_modify rounded.unique).mp among with ⟨earlier, -⟩ |
        ⟨record, earlier, here, rfl⟩
      · exact rounded.fair node earlier other old above otherLevel
      · cases (here ▸ lookup_of_mem rounded.unique earlier).symm.trans located
        exact largest other old otherLevel
    · cases (here ▸ lookup_of_mem rounded.unique old).symm.trans located
      rw [raised] at otherLevel
      exact absurd otherLevel (by decide)
  · rw [map_modify]
    exact fun _ => rfl

theorem rounded_truncated (unique : (nodes.map BufferNode.lcid).Nodup)
    (small : pool ≤ 254) (totals : calcTotalQueuedPktCnt nodes = total) :
    Rounded pool total 0 (truncated pool total nodes) := by
  have plain : ∀ node ∈ truncated pool total nodes,
      node.quota = minBufferNum + share pool total node := by
    refine forall_mem_map.mpr fun given among => ?_
    have within : given.queuedPktCnt ≤ total := by
      rw [← totals]
      exact single_le_sum (fun _ _ => Nat.zero_le _) _ (mem_map_of_mem among)
    have bounded := @share_le pool total given within
    rw [floorBonus_eq small within]
    refine Nat.mod_eq_of_lt ?_
    unfold minBufferNum
    omega
  have level : ∀ node ∈ truncated pool total nodes,
      extra pool total node = 0 := by
    intro node member
    have quota := plain node member
    unfold extra
    omega
  refine ⟨?_, ?_, fun node member => .inl (plain node member), ?_, ?_⟩
  · unfold truncated
    rw [map_map]
    exact unique
  · unfold calcTotalQueuedPktCnt truncated
    rw [map_map]
    exact totals
  · rw [map_congr_left level]
    simp
  · intro node among other _ raised _
    rw [level node among] at raised
    cases raised

theorem remaining_eq (small : pool ≤ 254) (positive : 0 < total)
    (totals : calcTotalQueuedPktCnt nodes = total) :
    remaining pool total nodes + (nodes.map (share pool total)).sum = pool := by
  have divided := @sum_share_remainder pool total nodes
  rw [totals] at divided
  have below : (nodes.map (share pool total)).sum ≤ pool := by
    refine Nat.le_of_mul_le_mul_left ?_ positive
    rw [Nat.mul_comm total pool]
    omega
  have exact : nodes.map (floorBonus pool total) =
      nodes.map (share pool total) := by
    apply map_congr_left
    intro node member
    refine floorBonus_eq small ?_
    rw [← totals]
    exact single_le_sum (fun _ _ => Nat.zero_le _) _ (mem_map_of_mem member)
  unfold remaining
  rw [exact]
  omega

theorem rounded_rounds (unique : (nodes.map BufferNode.lcid).Nodup)
    (small : pool ≤ 254) (positive : 0 < total)
    (totals : calcTotalQueuedPktCnt nodes = total)
    (within : rounds ≤ remaining pool total nodes) :
    Rounded pool total rounds
        ((raiseMaxFracNode pool total)^[rounds] (truncated pool total nodes)) ∧
      (((raiseMaxFracNode pool total)^[rounds]
        (truncated pool total nodes)).map (share pool total)).sum =
        (nodes.map (share pool total)).sum := by
  induction rounds with
  | zero =>
    refine ⟨rounded_truncated unique small totals, ?_⟩
    unfold truncated
    rw [Function.iterate_zero, id, map_map]
    rfl
  | succ rounds induction =>
    obtain ⟨rounded, shares⟩ := induction (Nat.le_of_succ_le within)
    have whole := remaining_eq small positive totals
    obtain ⟨raised, same⟩ := rounded.raise positive small (by omega)
    rw [Function.iterate_succ_apply']
    exact ⟨raised, same.trans shares⟩

/-- The buffers beyond the guaranteed ones are shared out completely, in
proportion to the queued packets, and the largest remainders are rounded up. -/
structure Apportioned (pool total : Nat) (nodes : List BufferNode) : Prop where
  whole : (nodes.map fun node => node.quota - minBufferNum).sum = pool
  rounded : ∀ node ∈ nodes, node.quota = minBufferNum + share pool total node ∨
      node.quota = minBufferNum + share pool total node + 1
  idle : ∀ node ∈ nodes, node.queuedPktCnt = 0 → node.quota = minBufferNum
  fair : ∀ node ∈ nodes, ∀ other ∈ nodes,
    remainder pool total node < remainder pool total other →
    node.quota = minBufferNum + share pool total node + 1 →
    other.quota = minBufferNum + share pool total other + 1

structure Unwrapped (pool total : Nat) (nodes : List BufferNode) : Prop where
  bonus : ∀ node ∈ nodes, floorBonus pool total node = share pool total node
  sumBonus : (nodes.map (share pool total)).sum < 2 ^ 8
  rem : remaining pool total nodes + (nodes.map (share pool total)).sum = pool
  quota : ∀ rounds ≤ remaining pool total nodes,
    ∀ node ∈ (raiseMaxFracNode pool total)^[rounds]
      (truncated pool total nodes),
    node.quota < 2 ^ 8 ∧ (node.quota = minBufferNum + share pool total node ∨
        node.quota = minBufferNum + share pool total node + 1)

theorem Rounded.apportioned (rounded : Rounded pool total rounds nodes)
    (filled : rounds + (nodes.map (share pool total)).sum = pool) :
    Apportioned pool total nodes where
  whole := by
    have split : ∀ node ∈ nodes, node.quota - minBufferNum =
        extra pool total node + share pool total node := by
      intro node member
      unfold extra
      rcases rounded.exact node member with plain | ⟨raised, -⟩ <;> omega
    rw [map_congr_left split, sum_map_add, rounded.counted, filled]
  rounded node member :=
    (rounded.exact node member).imp_right And.left
  idle node member none := by
    have empty : share pool total node = 0 := by
      unfold share
      rw [none, Nat.mul_zero, Nat.zero_div]
    rcases rounded.exact node member with plain | ⟨-, some⟩
    · rw [plain, empty, Nat.add_zero]
    · unfold remainder at some
      rw [none, Nat.mul_zero, Nat.zero_mod] at some
      exact absurd some (Nat.lt_irrefl 0)
  fair node member other among smaller raised := by
    rcases rounded.exact other among with plain | ⟨raisedOther, -⟩
    · have above : extra pool total node = 1 := by
        unfold extra
        omega
      have level : extra pool total other = 0 := by
        unfold extra
        omega
      have larger := rounded.fair node member other among above level
      exact absurd smaller (Nat.not_lt.mpr larger)
    · exact raisedOther

theorem Rounded.quota_lt (rounded : Rounded pool total rounds nodes)
    (small : pool ≤ 254) (member : node ∈ nodes) : node.quota < 2 ^ 8 := by
  have within := rounded.queued_le member
  rcases rounded.exact node member with plain | ⟨raised, some⟩
  · have bounded := @share_le pool total node within
    unfold minBufferNum at plain
    omega
  · have below := share_lt within some
    unfold minBufferNum at raised
    omega

/-- `DTAP_AllocLcidQuota` on the links of the scheduler. -/
theorem allocLcidQuota_apportioned (apBufferNum : Nat)
    (nodes : List BufferNode) (byte : apBufferNum ≤ 255)
    (unique : (nodes.map BufferNode.lcid).Nodup)
    (queued : calcTotalQueuedPktCnt nodes ≠ 0) :
    let total := calcTotalQueuedPktCnt nodes
    let pool := bonusPool apBufferNum nodes
    Apportioned pool total (allocLcidQuota apBufferNum total nodes) ∧
      (allocLcidQuota apBufferNum total nodes).map withoutQuota =
        nodes.map withoutQuota ∧
      Unwrapped pool total nodes := by
  intro total pool
  have positive : 0 < total := Nat.pos_of_ne_zero queued
  have small : pool ≤ 254 := by
    have some : 0 < nodes.length := by
      refine length_pos_of_ne_nil fun empty => queued ?_
      rw [empty]
      rfl
    unfold pool bonusPool minBufferNum
    omega
  have whole := @remaining_eq pool total nodes small positive rfl
  have rounds := fun rounds within =>
    @rounded_rounds pool total rounds nodes unique small positive rfl within
  refine ⟨?_, allocLcidQuota_withoutQuota _ _ _, ?_, by omega, whole, ?_⟩
  · obtain ⟨rounded, shares⟩ := rounds _ (le_rfl)
    rw [allocLcidQuota_eq]
    exact rounded.apportioned (by
      rw [shares]
      exact whole)
  · exact fun node member => floorBonus_eq small
      (single_le_sum (fun _ _ => Nat.zero_le _) _ (mem_map_of_mem member))
  · intro count within node member
    obtain ⟨rounded, -⟩ := rounds count within
    exact ⟨rounded.quota_lt small member,
      (rounded.exact node member).imp_right And.left⟩

theorem allocLcidQuota_three :
    let nodes : List BufferNode :=
      [⟨1, 0, 0, 5⟩, ⟨2, 0, 0, 0⟩, ⟨3, 0, 0, 2⟩]
    Apportioned 5 7 (allocLcidQuota 8 7 nodes) ∧
      (allocLcidQuota 8 7 nodes).map withoutQuota = nodes.map withoutQuota ∧
      Unwrapped 5 7 nodes :=
  allocLcidQuota_apportioned 8 [⟨1, 0, 0, 5⟩, ⟨2, 0, 0, 0⟩, ⟨3, 0, 0, 2⟩]
    (by decide) (by decide) (by decide)

end Scheduler

end NearLink.Dtap
