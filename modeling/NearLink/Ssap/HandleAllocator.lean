import NearLink.Ssap.RegistryRun

/-!
# The handle allocator

Runs of `SSAP_HandleAllocate` and `SSAP_HandleRelease` in which a caller
releases what it was given.  The array of blocks can grow.
-/

namespace NearLink.Ssap

open Intervals Registry Transition List

/-- The free blocks, and the ranges that are handed out. -/
structure HandleAllocator where
  blocks : List Interval
  given : List Interval

inductive HandleCall where
  | allocate (size : Nat)
  /-- Of the range at an index of those that are handed out. -/
  | release (index : Nat)

namespace HandleAllocator

/-- `SSAP_InitHandleAllocator` -/
def initial : HandleAllocator := ⟨[⟨handleMin, handleMax⟩], []⟩

def step (allocator : HandleAllocator) : HandleCall → HandleAllocator
  | .allocate size =>
    match handleAllocate size allocator.blocks with
    | none => allocator
    | some (range, rest) => ⟨rest, range :: allocator.given⟩
  | .release index =>
    match allocator.given[index]? with
    | none => allocator
    | some range =>
      ⟨handleRelease range allocator.blocks, allocator.given.eraseIdx index⟩

/-- Every handle is in one block or in one range, and in no two. -/
structure Partitioned (allocator : HandleAllocator) : Prop where
  separate : Separate allocator.blocks
  proper : ∀ range ∈ allocator.given, range.first ≤ range.last
  disjoint : allocator.given.Pairwise fun left right =>
    ∀ handle, ¬ (left.Holds handle ∧ right.Holds handle)
  apart : ∀ handle,
    ¬ (Covers allocator.given handle ∧ Covers allocator.blocks handle)
  whole : ∀ handle,
    Covers allocator.blocks handle ∨ Covers allocator.given handle ↔
      handleMin ≤ handle ∧ handle ≤ handleMax

theorem initial_partitioned : initial.Partitioned where
  separate := separate_cons.mpr ⟨by decide, by simp, .nil⟩
  proper := by simp [initial]
  disjoint := .nil
  apart := by simp [initial]
  whole := by simp [initial, Interval.Holds]

variable {allocator : HandleAllocator} {range : Interval} {size : Nat}
  {blocks rest : List Interval}

section

variable (partitioned : allocator.Partitioned)
include partitioned

theorem Partitioned.inside : ∀ block ∈ allocator.blocks,
    handleMin ≤ block.first ∧ block.last ≤ handleMax :=
  blocks_inside partitioned.separate partitioned.whole

theorem Partitioned.allocate
    (found : handleAllocate size allocator.blocks = some (range, rest)) :
    range.last + 1 = range.first + size ∧
      HandleAllocator.Partitioned ⟨rest, range :: allocator.given⟩ := by
  unfold handleAllocate at found
  split_ifs at found with none large
  obtain ⟨fits, separate, covers, apart⟩ := firstFit_spec partitioned.separate
    (blocks_bounded partitioned.inside) (by omega) found
  refine ⟨fits, separate, ?_, ?_, ?_, ?_⟩
  · exact forall_mem_cons.mpr ⟨by omega, partitioned.proper⟩
  · refine pairwise_cons.mpr ⟨?_, partitioned.disjoint⟩
    rintro other member handle ⟨inside, held⟩
    exact partitioned.apart handle
      ⟨⟨other, member, held⟩, (covers handle).mpr (.inl inside)⟩
  · rintro handle ⟨held, free⟩
    rcases covers_cons.mp held with own | other
    · exact apart handle ⟨own, free⟩
    · exact partitioned.apart handle ⟨other, (covers handle).mpr (.inr free)⟩
  · intro handle
    rw [← partitioned.whole handle, covers handle, covers_cons]
    tauto

theorem Partitioned.release {index : Nat}
    (found : allocator.given[index]? = some range) :
    HandleAllocator.Partitioned ⟨handleRelease range allocator.blocks,
      allocator.given.eraseIdx index⟩ := by
  obtain ⟨inside, rfl⟩ := List.getElem?_eq_some_iff.mp found
  have moved := getElem_cons_eraseIdx_perm inside
  generalize allocator.given[index] = range at moved
  generalize allocator.given.eraseIdx index = others at moved
  have covered : ∀ handle, Covers allocator.given handle ↔
      range.Holds handle ∨ Covers others handle := by
    intro handle
    rw [← covers_cons]
    exact exists_congr fun _ => and_congr_left' moved.mem_iff.symm
  have proper := forall_mem_cons.mp fun other member =>
    partitioned.proper other (moved.mem_iff.mp member)
  have disjoint := pairwise_cons.mp ((moved.pairwise_iff
    fun {left right} apart handle both => apart handle both.symm).mpr
      partitioned.disjoint)
  obtain ⟨separate, covers⟩ := handleRelease_spec partitioned.separate proper.1
    fun handle both => partitioned.apart handle
      ⟨(covered handle).mpr (.inl both.1), both.2⟩
  refine ⟨separate, proper.2, disjoint.2, ?_, ?_⟩
  · rintro handle ⟨held, free⟩
    rcases (covers handle).mp free with old | new
    · exact partitioned.apart handle ⟨(covered handle).mpr (.inr held), old⟩
    · obtain ⟨other, member, inside⟩ := held
      exact disjoint.1 other member handle ⟨new, inside⟩
  · intro handle
    rw [← partitioned.whole handle, covers handle, covered handle, or_assoc]

theorem Partitioned.step (call : HandleCall) :
    (allocator.step call).Partitioned := by
  cases call with
  | allocate size =>
    unfold HandleAllocator.step
    dsimp only
    split
    · exact partitioned
    next found => exact (partitioned.allocate found).2
  | release index =>
    unfold HandleAllocator.step
    dsimp only
    split
    · exact partitioned
    next found => exact partitioned.release found

end

theorem firstFit_range (proper : ∀ block ∈ blocks, block.first ≤ block.last)
    (bounded : ∀ block ∈ blocks, 0 < block.first ∧
      block.last < handleModulus) :
    (firstFit size blocks).map Prod.fst = (blocks.find? fun block =>
      size ≤ block.last - block.first + 1).map fun block =>
        ⟨block.first, block.first + size - 1⟩ := by
  induction blocks with
  | nil => rfl
  | cons block blocks induction =>
    obtain ⟨ordered, proper⟩ := forall_mem_cons.mp proper
    obtain ⟨⟨positive, small⟩, bounded⟩ := forall_mem_cons.mp bounded
    have blockSize : (block.last + handleModulus - block.first + 1) %
        handleModulus = block.last - block.first + 1 := by
      unfold handleModulus at small ⊢
      omega
    unfold firstFit
    dsimp only
    rw [blockSize, find?_cons]
    by_cases fits : size ≤ block.last - block.first + 1
    · have lastEq : (block.first + size - 1) % handleModulus =
          block.first + size - 1 := Nat.mod_eq_of_lt (by omega)
      rw [lastEq, decide_eq_true fits]
      split_ifs
      · rfl
      · rfl
      · omega
    · rw [decide_eq_false fits, if_neg (by omega), if_neg (by omega),
        Option.map_map]
      exact induction proper bounded

theorem partitioned_of_run (calls : List HandleCall) (size : Nat) :
    let allocator := run step initial calls
    allocator.Partitioned ∧
      (handleAllocate size allocator.blocks).map Prod.fst =
        if size = 0 then none
        else (allocator.blocks.find? fun block =>
          size ≤ block.last - block.first + 1).map fun block =>
            ⟨block.first, block.first + size - 1⟩ := by
  intro allocator
  have partitioned : allocator.Partitioned :=
    run_invariant_of_step (fun _ call kept => kept.step call)
      initial_partitioned calls
  have served := @firstFit_range size _ partitioned.separate.proper
    (blocks_bounded partitioned.inside)
  refine ⟨partitioned, ?_⟩
  unfold handleAllocate
  split_ifs with none large
  · rfl
  · rw [find?_eq_none.mpr]
    · rfl
    intro block member
    have inside := partitioned.inside block member
    simp only [decide_eq_true_eq]
    omega
  · exact served

end HandleAllocator

end NearLink.Ssap
