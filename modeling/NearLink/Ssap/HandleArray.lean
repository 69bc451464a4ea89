import Mathlib.Data.List.TakeWhile
import Mathlib.Order.Bounds.Defs
import NearLink.Ssap.HandleAllocator

/-!
# The array of free blocks

The allocator with the array that holds its blocks: `capacity` is what
`SSAP_HandleAllocator_S` records, `room` the number of blocks the array has
memory for.  A growth that finds no memory doubles `capacity` all the same.
-/

namespace NearLink.Ssap

open Intervals Registry Transition List

structure HandleArray where
  allocator : HandleAllocator
  capacity : Nat
  room : Nat

inductive ArrayCall where
  | allocate (size : Nat)
  /-- Of the range at an index of those that are handed out; a growth finds
  memory or not. -/
  | release (index : Nat) (memory : Bool)

namespace HandleArray

/-- `SSAP_HANDLE_DEFAULT_CAPACITY` -/
def defaultCapacity : Nat := 10

/-- `SSAP_InitHandleAllocator` -/
def initial : HandleArray := ⟨.initial, defaultCapacity, defaultCapacity⟩

/-- `SSAP_HandleAllocatorGrow` -/
def grow (memory : Bool) (array : HandleArray) : HandleArray :=
  { array with
    capacity := 2 * array.capacity
    room := if memory then 2 * array.capacity else array.room }

/-- The release gives up: the array is full and does not grow. -/
def Refuses (array : HandleArray) (memory : Bool) : Prop :=
  array.allocator.blocks.length = array.capacity ∧ memory = false

instance (array : HandleArray) (memory : Bool) :
    Decidable (array.Refuses memory) :=
  inferInstanceAs (Decidable (_ ∧ _))

def step (array : HandleArray) : ArrayCall → HandleArray
  | .allocate size =>
    { array with allocator := array.allocator.step (.allocate size) }
  | .release index memory =>
    match array.allocator.given[index]? with
    | none => array
    | some _ =>
      let grown :=
        if array.allocator.blocks.length = array.capacity then array.grow memory
        else array
      if array.Refuses memory then grown
      else { grown with allocator := array.allocator.step (.release index) }

def Free (array : HandleArray) (handle : Nat) : Prop :=
  handleMin ≤ handle ∧ handle ≤ handleMax ∧
    ¬ Covers array.allocator.given handle

/-- The blocks are the free handles, in as few blocks as can be. -/
structure Exact (array : HandleArray) : Prop where
  separate : Separate array.allocator.blocks
  loose : Loose array.allocator.blocks
  free : ∀ handle, Covers array.allocator.blocks handle ↔ array.Free handle
  fits : array.allocator.blocks.length ≤ array.room
  whole : array.allocator.given = [] → array.allocator.blocks = [⟨handleMin, handleMax⟩]

/-- From this handle on so many are free. -/
def Has (array : HandleArray) (size first : Nat) : Prop :=
  ∀ handle, first ≤ handle → handle < first + size → array.Free handle

/-- An allocation is given the lowest free handles, if there are so many in a
row, and a release that gives up changes no block. -/
def Serves (array : HandleArray) : ArrayCall → Prop
  | .allocate size =>
    match handleAllocate size array.allocator.blocks with
    | some (range, _) => 0 < size ∧ range.last + 1 = range.first + size ∧
        IsLeast {first | array.Has size first} range.first
    | none => ∀ first, 0 < size → ¬ array.Has size first
  | .release index memory => array.Refuses memory →
      (array.step (.release index memory)).allocator = array.allocator

/-- A range that is released above all blocks does not follow the last one
directly, and a full array is one that the allocator takes to be full. -/
def Prudent (array : HandleArray) : ArrayCall → Prop
  | .allocate _ => True
  | .release index memory => ∀ range,
      array.allocator.given[index]? = some range → ¬ array.Refuses memory →
      ((∀ block ∈ array.allocator.blocks, block.first < range.first) →
        ∀ block ∈ array.allocator.blocks, block.last + 1 ≠ range.first) ∧
      (array.allocator.blocks.length = array.room → array.capacity = array.room)

variable {blocks rest before after : List Interval} {range : Interval}
  {size : Nat} {array : HandleArray}

theorem firstFit_last (found : firstFit size blocks = some (range, rest)) :
    rest.length ≤ blocks.length ∧
      ∀ block ∈ rest, ∃ old ∈ blocks, old.last = block.last := by
  induction blocks generalizing rest with
  | nil => cases found
  | cons head blocks induction =>
    unfold firstFit at found
    dsimp only at found
    split at found
    · cases found
      exact ⟨le_rfl, by grind⟩
    · split at found
      · cases found
        exact ⟨by simp, by grind⟩
      · obtain ⟨⟨inner, others⟩, located, same⟩ := Option.map_eq_some_iff.mp found
        cases same
        obtain ⟨fewer, lasts⟩ := induction located
        exact ⟨Nat.succ_le_succ fewer, by grind⟩

theorem mergeLeft_last (separate : Separate (before ++ range :: after)) :
    (mergeLeft before range).2.last = range.last ∧
      (mergeLeft before range).1.length ≤ before.length ∧
      ∀ block ∈ (mergeLeft before range).1,
        block ∈ before ∧ block.last + 1 ≠ range.first := by
  unfold mergeLeft
  rcases eq_nil_or_concat before with rfl | ⟨others, left, rfl⟩
  · exact ⟨rfl, le_rfl, nofun⟩
  rw [concat_eq_append] at separate ⊢
  rw [getLast?_concat]
  obtain ⟨lower, _, below⟩ := separate_append.mp separate
  obtain ⟨_, last, earlier⟩ := separate_append.mp lower
  have follows := below left (by simp) range (by simp)
  have proper := last.proper left (by simp)
  dsimp only
  split
  · rw [dropLast_concat]
    exact ⟨rfl, by simp, by grind⟩
  · exact ⟨rfl, le_rfl, by grind⟩

/-- Where the blocks end after a release. -/
theorem handleRelease_last (separate : Separate blocks)
    (proper : range.first ≤ range.last)
    (apart : ∀ handle, ¬ (range.Holds handle ∧ Covers blocks handle))
    (placed : (∀ block ∈ blocks, block.first < range.first) →
      ∀ block ∈ blocks, block.last + 1 ≠ range.first) :
    (handleRelease range blocks).length ≤ blocks.length + 1 ∧
      ∀ block ∈ handleRelease range blocks,
        (block.last = range.last ∧ ¬ Covers blocks (range.last + 1)) ∨
        ∃ old ∈ blocks, old.last = block.last ∧ old.last + 1 ≠ range.first := by
  have inserted := separate.insert proper apart
  have whole := takeWhile_append_dropWhile
    (p := fun block : Interval => decide (block.first < range.first))
    (l := blocks)
  have before_lt : ∀ block ∈ blocks.takeWhile
      (fun block => block.first < range.first), block.first < range.first :=
    fun block member => by simpa using mem_takeWhile_imp member
  unfold handleRelease
  rw [if_pos proper]
  generalize blocks.takeWhile (fun block => block.first < range.first) =
    before at inserted whole before_lt ⊢
  generalize blocks.dropWhile (fun block => block.first < range.first) =
    after at inserted whole ⊢
  obtain ⟨_, upper, below⟩ := separate_append.mp inserted
  obtain ⟨_, above, beyond⟩ := separate_cons.mp upper
  cases after with
  | nil =>
    rw [append_nil] at whole
    subst whole
    refine ⟨by simp, fun block member => ?_⟩
    rcases mem_append.mp member with old | same
    · exact .inr ⟨block, old, rfl, placed before_lt block old⟩
    · refine .inl ⟨by rw [mem_singleton.mp same], ?_⟩
      rintro ⟨other, held, _, ends⟩
      have := below other held range (by simp)
      omega
  | cons right after =>
    obtain ⟨last, fewer, kept⟩ := mergeLeft_last inserted
    have later : ∀ block ∈ right :: after, block.last + 1 ≠ range.first := by
      have := upper.proper
      grind
    rw [← whole]
    dsimp only
    split
    · refine ⟨by simp; omega, fun block member => .inr ?_⟩
      grind
    next touch =>
      refine ⟨by simp; omega, fun block member => ?_⟩
      rcases mem_append.mp member with low | high
      · grind
      · rcases mem_cons.mp high with rfl | high
        · refine .inl ⟨last, ?_⟩
          rintro ⟨other, held, begins, ends⟩
          obtain ⟨ordered, gap, _⟩ := separate_cons.mp beyond
          have near := above right (by simp)
          have low := below other
          have far := gap other
          grind
        · exact .inr ⟨block, by simp [high], rfl, later block high⟩

theorem loose_handleRelease (separate : Separate blocks) (loose : Loose blocks)
    (proper : range.first ≤ range.last)
    (apart : ∀ handle, ¬ (range.Holds handle ∧ Covers blocks handle))
    (lasts : ∀ block ∈ handleRelease range blocks,
      (block.last = range.last ∧ ¬ Covers blocks (range.last + 1)) ∨
      ∃ old ∈ blocks, old.last = block.last ∧ old.last + 1 ≠ range.first) :
    Loose (handleRelease range blocks) := by
  intro block member covered
  have released := (handleRelease_spec separate proper apart).2 (block.last + 1)
  rcases lasts block member with ⟨ends, clear⟩ | ⟨old, listed, ends, gap⟩
  · rw [ends] at released covered
    rcases released.mp covered with held | ⟨_, upper⟩
    · exact clear held
    · omega
  · rw [← ends] at released covered
    rcases released.mp covered with held | ⟨lower, upper⟩
    · exact loose old listed held
    · -- The old block would reach into the range.
      exact apart old.last ⟨⟨by omega, by omega⟩, old, listed,
        separate.proper old listed, le_rfl⟩

/-- What every call keeps. -/
structure Sound (array : HandleArray) : Prop where
  partitioned : array.allocator.Partitioned
  loose : Loose array.allocator.blocks
  fits : array.allocator.blocks.length ≤ array.room
  positive : 0 < array.capacity

theorem initial_sound : initial.Sound :=
  ⟨HandleAllocator.initial_partitioned, loose_singleton _, by decide, by decide⟩

section

variable (sound : array.Sound)
include sound

theorem Sound.free (handle : Nat) :
    Covers array.allocator.blocks handle ↔ array.Free handle := by
  have whole := sound.partitioned.whole handle
  have apart := sound.partitioned.apart handle
  unfold Free
  tauto

theorem Sound.exact : array.Exact where
  separate := sound.partitioned.separate
  loose := sound.loose
  free := sound.free
  fits := sound.fits
  whole none := sound.loose.eq_singleton sound.partitioned.separate (by decide)
    fun handle => by simp [sound.free handle, Free, none]

theorem Sound.allocate (size : Nat) :
    (array.step (.allocate size)).Sound := by
  have partitioned := sound.partitioned.step (.allocate size)
  unfold step HandleAllocator.step at *
  dsimp only at *
  cases found : handleAllocate size array.allocator.blocks with
  | none => exact { sound with }
  | some pair =>
    obtain ⟨range, rest⟩ := pair
    rw [found] at partitioned
    obtain ⟨some, fit⟩ : 0 < size ∧
        firstFit size array.allocator.blocks = some (range, rest) := by
      unfold handleAllocate at found
      split_ifs at found with none
      exact ⟨Nat.pos_of_ne_zero none, found⟩
    obtain ⟨fewer, lasts⟩ := firstFit_last fit
    have loose : Loose rest := by
      intro block member covered
      obtain ⟨old, listed, same⟩ := lasts block member
      refine sound.loose old listed ?_
      rw [same]
      obtain ⟨_, _, divided, _⟩ := firstFit_spec sound.partitioned.separate
        (blocks_bounded sound.partitioned.inside) some fit
      exact (divided _).mpr (.inr covered)
    exact ⟨partitioned, loose, fewer.trans sound.fits, sound.positive⟩

theorem Sound.release {index : Nat} {memory : Bool}
    (prudent : array.Prudent (.release index memory)) :
    (array.step (.release index memory)).Sound := by
  have partitioned := sound.partitioned.step (.release index)
  have positive := sound.positive
  unfold step
  dsimp only
  cases found : array.allocator.given[index]? with
  | none => exact sound
  | some range =>
    dsimp only
    by_cases refuses : array.Refuses memory
    · rw [if_pos refuses, if_pos refuses.1]
      refine ⟨sound.partitioned, sound.loose, ?_, ?_⟩
      · simpa [grow, refuses.2] using sound.fits
      · simp only [grow]
        omega
    · obtain ⟨placed, known⟩ := prudent range found refuses
      have given := mem_of_getElem? found
      have proper := sound.partitioned.proper range given
      have apart : ∀ handle, ¬ (range.Holds handle ∧
          Covers array.allocator.blocks handle) := fun handle both =>
        sound.partitioned.apart handle ⟨⟨range, given, both.1⟩, both.2⟩
      obtain ⟨longer, lasts⟩ := handleRelease_last
        sound.partitioned.separate proper apart placed
      have loose := loose_handleRelease sound.partitioned.separate sound.loose
        proper apart lasts
      have fits := sound.fits
      rw [if_neg refuses]
      have released : array.allocator.step (.release index) =
          ⟨handleRelease range array.allocator.blocks,
            array.allocator.given.eraseIdx index⟩ := by
        simp only [HandleAllocator.step, found]
      rw [released] at partitioned ⊢
      split
      next full =>
        have grows : memory = true := by
          by_contra kept
          exact refuses ⟨full, by simpa using kept⟩
        refine ⟨partitioned, loose, longer.trans ?_, ?_⟩
        · simp only [grow, grows, if_true]
          omega
        · simp only [grow]
          omega
      next room =>
        refine ⟨partitioned, loose, longer.trans ?_, positive⟩
        dsimp only
        omega

theorem Sound.serves_allocate : array.Serves (.allocate size) := by
  have inside := sound.partitioned.inside
  have separate := sound.partitioned.separate
  have within : ∀ first, 0 < size → array.Has size first →
      ∃ block ∈ array.allocator.blocks,
        block.first ≤ first ∧ first + size ≤ block.last + 1 :=
    fun first some has => sound.loose.exists_interval some
      fun handle lower upper => (sound.free handle).mpr (has handle lower upper)
  have served := @HandleAllocator.firstFit_range size _ separate.proper
    (blocks_bounded inside)
  unfold Serves
  dsimp only
  cases found : handleAllocate size array.allocator.blocks with
  | none =>
    intro first some has
    obtain ⟨block, member, begins, ends⟩ := within first some has
    have place := inside block member
    unfold handleAllocate at found
    rw [if_neg (by omega), if_neg (by omega)] at found
    rw [found] at served
    have small := find?_eq_none.mp (Option.map_eq_none_iff.mp served.symm) block
      member
    simp only [decide_eq_true_eq] at small
    omega
  | some pair =>
    obtain ⟨range, rest⟩ := pair
    unfold handleAllocate at found
    split_ifs at found with none large
    rw [found] at served
    obtain ⟨block, listed, same⟩ := Option.map_eq_some_iff.mp served.symm
    cases same
    obtain ⟨large, before, after, parts, small⟩ :=
      find?_eq_some_iff_append.mp listed
    rw [decide_eq_true_eq] at large
    have member : block ∈ array.allocator.blocks := mem_of_find?_eq_some listed
    have proper := separate.proper block member
    refine ⟨by omega, by dsimp only; omega, ?_, ?_⟩
    · intro handle lower upper
      exact (sound.free handle).mp
        ⟨block, member, lower, by dsimp only at upper; omega⟩
    · intro first has
      obtain ⟨other, held, begins, ends⟩ := within first (by omega) has
      rw [parts] at held separate
      have least := small other
      have gap := (separate_cons.mp (separate_append.mp separate).2.1).2.1 other
      grind

theorem Sound.serves (call : ArrayCall) : array.Serves call := by
  cases call with
  | allocate size => exact sound.serves_allocate
  | release index memory =>
    intro refuses
    unfold step
    dsimp only
    cases array.allocator.given[index]? with
    | none => rfl
    | some range =>
      rw [if_pos refuses, if_pos refuses.1]
      rfl

theorem Sound.step (call : ArrayCall) (prudent : array.Prudent call) :
    (array.step call).Sound := by
  cases call with
  | allocate size => exact sound.allocate size
  | release index memory => exact sound.release prudent

end

/-- In a run of prudent calls the blocks are the free handles throughout, and
every call is served. -/
theorem exact_of_prudent (calls : List ArrayCall)
    (prudent : Meets step Prudent initial calls) :
    Always step Exact initial calls ∧ Meets step Serves initial calls := by
  have preserved : ∀ array call, Sound array → Prudent array call →
      Sound (step array call) :=
    fun _ call sound prudent => sound.step call prudent
  constructor
  · exact always_of_meets (fun _ sound => Sound.exact sound) preserved
      initial_sound prudent
  · exact prudent.imp preserved (fun _ call sound _ => sound.serves call)
      initial_sound

def fragments : List ArrayCall :=
  [.allocate 3, .allocate 5, .release 1 true, .release 0 true]

theorem exact_fragments : Meets step Prudent initial fragments ∧
    Always step Exact initial fragments ∧
    Meets step Serves initial fragments := by
  have prudent : Meets step Prudent initial fragments := by
    refine ⟨trivial, trivial, ?_, ?_, trivial⟩
    · rintro range ⟨⟩ _
      exact ⟨by decide, by decide⟩
    · rintro range ⟨⟩ _
      exact ⟨by decide, by decide⟩
  exact ⟨prudent, exact_of_prudent fragments prudent⟩

/-- Everything is handed out and released again, and two blocks are left. -/
theorem exact_fails :
    ¬ ∀ calls, Always step Exact initial calls ∧ Meets step Serves initial calls := by
  intro all
  have last := (all [.allocate 3, .allocate 65517, .release 1 true,
    .release 0 true]).1.2.2.2.2
  exact absurd (congrArg length (last.whole rfl)) (by decide)

end HandleArray

end NearLink.Ssap
