import Mathlib.Algebra.Order.Ring.Nat
import Mathlib.Data.List.Pairwise

/-!
# Selective repeat over lossy links

A sender numbers items by their positions in a stream and keeps at most
`window` of them unacknowledged.  Items and acknowledgements travel over two
links that keep the order of what they do not lose.  The counters of both ends
and the positions in flight are all that matters for the question whether a
receiver can tell an old item from a new one by a residue of its position: the
answer is the invariant below, one lemma for each action.
-/

namespace NearLink.SelectiveRepeat

open List Nat

/-- The counters of both ends and the positions in flight, the next to arrive
first. -/
structure State where
  sent : Nat := 0
  /-- oldest item without an acknowledgement, as the sender knows it -/
  acked : Nat := 0
  expected : Nat := 0
  highest : Nat := 0
  data : List Nat := []
  /-- acknowledgements in flight: each names the item expected next -/
  acks : List Nat := []

structure Invariant (window : Nat) (state : State) : Prop where
  acked_le : state.acked ≤ state.expected
  expected_le : state.expected ≤ state.highest
  highest_le : state.highest ≤ state.sent
  sent_le : state.sent ≤ state.acked + window
  /-- what is in flight is neither new nor older than a window -/
  data_range : ∀ item ∈ state.data,
    item < state.sent ∧ state.highest ≤ item + window
  /-- an item sent later is less than a window behind one sent before -/
  data_order : state.data.Pairwise fun earlier later =>
    earlier < later + window
  acks_range : ∀ ack ∈ state.acks, state.acked ≤ ack ∧ ack ≤ state.expected
  acks_order : state.acks.Pairwise (· ≤ ·)

namespace Invariant

variable {window : Nat} {state : State}

theorem initial (window : Nat) : Invariant window {} :=
  { acked_le := le_rfl
    expected_le := le_rfl
    highest_le := le_rfl
    sent_le := zero_le _
    data_range := by simp
    data_order := .nil
    acks_range := by simp
    acks_order := .nil }

variable (holds : Invariant window state) {rest : List Nat} {item ack : Nat}
include holds

theorem extend {count : Nat} (room : state.sent + count ≤ state.acked +
      window) :
    Invariant window { state with sent := state.sent + count } :=
  { holds with
    highest_le := le_trans holds.highest_le (le_add_right _ _)
    sent_le := room
    data_range := by
      intro item member
      obtain ⟨known, recent⟩ := holds.data_range item member
      exact ⟨lt_of_lt_of_le known (le_add_right _ _), recent⟩ }

/-- Put unacknowledged items on the link, first or repeated copies. -/
theorem emit {items : List Nat}
    (pending : ∀ item ∈ items, state.acked ≤ item ∧ item < state.sent) :
    Invariant window { state with data := state.data ++ items } := by
  have highest := holds.highest_le
  have room := holds.sent_le
  refine { holds with data_range := ?_, data_order := ?_ }
  · refine forall_mem_append.mpr ⟨holds.data_range, fun item new => ?_⟩
    have range := pending item new
    change item < state.sent ∧ state.highest ≤ item + window
    omega
  · apply pairwise_append.mpr
    refine ⟨holds.data_order, ?_, ?_⟩
    · apply pairwise_of_forall_mem_list
      intro earlier inEarlier later inLater
      have earlierRange := pending earlier inEarlier
      have laterRange := pending later inLater
      omega
    · intro earlier inFlight later inItems
      have known := (holds.data_range earlier inFlight).1
      have range := pending later inItems
      omega

theorem lose {data acks : List Nat} (dataKept : data.Sublist state.data)
    (acksKept : acks.Sublist state.acks) :
    Invariant window { state with data := data, acks := acks } :=
  { holds with
    data_range := fun item member =>
      holds.data_range item (dataKept.subset member)
    data_order := holds.data_order.sublist dataKept
    acks_range := fun ack member =>
      holds.acks_range ack (acksKept.subset member)
    acks_order := holds.acks_order.sublist acksKept }

theorem receive {later : Nat} (arrival : state.data = item :: rest)
    (raised : state.expected ≤ later)
    (bound : later ≤ max state.highest (item + 1)) :
    Invariant window { state with
      expected := later
      highest := max state.highest (item + 1)
      data := rest } := by
  have order := holds.data_order
  have range := holds.data_range
  rw [arrival] at order range
  have ordered := pairwise_cons.mp order
  have head := range item mem_cons_self
  have acked := holds.acked_le
  have highest := holds.highest_le
  refine
    { holds with
      acked_le := by
        change state.acked ≤ later
        omega
      expected_le := bound
      highest_le := by
        change max state.highest (item + 1) ≤ state.sent
        omega
      data_range := ?_
      data_order := ordered.2
      acks_range := ?_ }
  · intro other member
    obtain ⟨known, recent⟩ := range other (.tail _ member)
    have behind := ordered.1 other member
    change other < state.sent ∧ max state.highest (item + 1) ≤ other + window
    omega
  · intro ack member
    obtain ⟨lower, upper⟩ := holds.acks_range ack member
    exact ⟨lower, le_trans upper raised⟩

/-- Any item in flight lies within a window of the one expected next, on
either side. -/
theorem near (member : item ∈ state.data) :
    item < state.expected + window ∧ state.expected ≤ item + window := by
  obtain ⟨known, recent⟩ := holds.data_range item member
  have acked := holds.acked_le
  have expected := holds.expected_le
  have room := holds.sent_le
  omega

theorem answer (count : Nat) : Invariant window { state with
      acks := state.acks ++ List.replicate count state.expected } := by
  refine { holds with acks_range := ?_, acks_order := ?_ }
  · refine forall_mem_append.mpr ⟨holds.acks_range, fun ack new => ?_⟩
    rw [eq_of_mem_replicate new]
    exact ⟨holds.acked_le, le_rfl⟩
  · apply pairwise_append.mpr
    refine ⟨holds.acks_order, ?_, ?_⟩
    · apply pairwise_of_forall_mem_list
      intro earlier inEarlier later inLater
      have same : earlier = later :=
        (eq_of_mem_replicate inEarlier).trans (eq_of_mem_replicate inLater).symm
      exact le_of_eq same
    · intro earlier inFlight later inNew
      rw [eq_of_mem_replicate inNew]
      exact (holds.acks_range earlier inFlight).2

theorem acknowledge (arrival : state.acks = ack :: rest) :
    Invariant window { state with acked := ack, acks := rest } := by
  have order := holds.acks_order
  have range := holds.acks_range
  rw [arrival] at order range
  have ordered := pairwise_cons.mp order
  have head := range ack mem_cons_self
  have room := holds.sent_le
  refine
    { holds with
      acked_le := head.2
      sent_le := ?_
      acks_range := ?_
      acks_order := ordered.2 }
  · change state.sent ≤ ack + window
    omega
  · intro other member
    exact ⟨ordered.1 other member, (range other (.tail _ member)).2⟩

theorem ack_range (member : ack ∈ state.acks) :
    state.acked ≤ ack ∧ ack ≤ state.sent := by
  obtain ⟨lower, upper⟩ := holds.acks_range ack member
  have expected := holds.expected_le
  have highest := holds.highest_le
  omega

end Invariant

section Link

variable {Buff : Type*} {stray : Buff → Prop} {carries : Nat → Buff → Prop}
  {buffs kept : List Buff} {positions : List Nat}

inductive OnLink (stray : Buff → Prop) (carries : Nat → Buff → Prop) :
    List Buff → List Nat → Prop where
  | nil : OnLink stray carries [] []
  | item {position : Nat} {buff : Buff} {buffs : List Buff}
      {positions : List Nat} (carried : carries position buff)
      (rest : OnLink stray carries buffs positions) :
      OnLink stray carries (buff :: buffs) (position :: positions)
  | stray {buff : Buff} {buffs : List Buff} {positions : List Nat}
      (foreign : stray buff) (rest : OnLink stray carries buffs positions) :
      OnLink stray carries (buff :: buffs) positions

namespace OnLink

theorem append (link : OnLink stray carries buffs positions)
    {later : List Buff} {laterPositions : List Nat}
    (behind : OnLink stray carries later laterPositions) :
    OnLink stray carries (buffs ++ later) (positions ++ laterPositions) := by
  induction link with
  | nil => exact behind
  | item carried rest induction => exact .item carried induction
  | stray foreign rest induction => exact .stray foreign induction

theorem mono {wider : Nat → Buff → Prop}
    (included : ∀ position buff, carries position buff → wider position buff)
    (link : OnLink stray carries buffs positions) :
    OnLink stray wider buffs positions := by
  induction link with
  | nil => exact .nil
  | item carried rest induction => exact .item (included _ _ carried) induction
  | stray foreign rest induction => exact .stray foreign induction

theorem lose (link : OnLink stray carries buffs positions)
    (sublist : kept.Sublist buffs) :
    ∃ remaining, remaining.Sublist positions ∧
      OnLink stray carries kept remaining := by
  induction link generalizing kept with
  | nil =>
    rw [sublist_nil.mp sublist]
    exact ⟨[], .slnil, .nil⟩
  | item carried rest induction =>
    cases sublist with
    | cons _ tail =>
      obtain ⟨remaining, fewer, linked⟩ := induction tail
      exact ⟨remaining, fewer.cons _, linked⟩
    | cons_cons _ tail =>
      obtain ⟨remaining, fewer, linked⟩ := induction tail
      exact ⟨_, fewer.cons_cons _, .item carried linked⟩
  | stray foreign rest induction =>
    cases sublist with
    | cons _ tail => exact induction tail
    | cons_cons _ tail =>
      obtain ⟨remaining, fewer, linked⟩ := induction tail
      exact ⟨remaining, fewer, .stray foreign linked⟩

theorem of_forall (stray : Buff → Prop) {range : Nat → Prop}
    (carried : ∀ buff ∈ buffs, ∃ position, range position ∧
      carries position buff) :
    ∃ positions, (∀ position ∈ positions, range position) ∧
      positions.length = buffs.length ∧
      OnLink stray carries buffs positions := by
  induction buffs with
  | nil => exact ⟨[], nofun, rfl, .nil⟩
  | cons buff buffs induction =>
    obtain ⟨position, inRange, head⟩ := carried buff mem_cons_self
    obtain ⟨positions, ranges, length, linked⟩ := induction
      fun other member => carried other (.tail _ member)
    refine ⟨position :: positions, ?_, by simp [length], .item head linked⟩
    exact forall_mem_cons.mpr ⟨inRange, ranges⟩

end OnLink

end Link

end NearLink.SelectiveRepeat
