import NearLink.Matching

/-!
# The search for a byte string

`BuildLpsTable` and `KmpSearch` of `devd_report_parse.c`.  A length is that of
the list; an access out of bounds, or a loop that has not ended, is `none`.
-/

namespace NearLink.Devd

open Matching List

structure LpsCursor where
  len : Nat := 0
  i : Nat := 1
  lps : List Nat

def store (lps : List Nat) (index value : Nat) : Option (List Nat) :=
  if index < lps.length then some (lps.set index value) else none

/-- One round of the loop of `BuildLpsTable`. -/
def lpsRound (pattern : List UInt8) (cursor : LpsCursor) :
    Option (LpsCursor ⊕ List Nat) :=
  let { len, i, lps } := cursor
  if i < pattern.length then do
    if (← pattern[i]?) = (← pattern[len]?) then
      return .inl ⟨len + 1, i + 1, ← store lps i (len + 1)⟩
    else if len ≠ 0 then
      return .inl ⟨← lps[len - 1]?, i, lps⟩
    else
      return .inl ⟨len, i + 1, ← store lps i 0⟩
  else some (.inr lps)

def buildLpsTable (fuel : Nat) (pattern : List UInt8) (lps : List Nat) :
    Option (List Nat) :=
  if pattern = [] then some lps
  else do
    loop (lpsRound pattern) fuel { lps := ← store lps 0 0 }

def noPos : Int := -1

/-- The conversion of a `size_t` to `int`. -/
def toInt (position : Nat) : Int :=
  (BitVec.ofNat 32 position).toInt

structure SearchCursor where
  i : Nat
  j : Nat := 0

/-- The round of the loop of `KmpSearch` from the test `j == patternLen` on. -/
def searchAdjust (data pattern : List UInt8) (lps : List Nat)
    (cursor : SearchCursor) : Option (SearchCursor ⊕ Int) :=
  let { i, j } := cursor
  if j = pattern.length then some (.inr (toInt (i - j)))
  else if i < data.length then do
    if (← pattern[j]?) ≠ (← data[i]?) then
      if j ≠ 0 then return .inl ⟨i, ← lps[j - 1]?⟩
      else return .inl ⟨i + 1, j⟩
    else return .inl cursor
  else some (.inl cursor)

def searchRound (data pattern : List UInt8) (lps : List Nat)
    (cursor : SearchCursor) : Option (SearchCursor ⊕ Int) :=
  let { i, j } := cursor
  if i < data.length then do
    searchAdjust data pattern lps <|
      if (← pattern[j]?) = (← data[i]?) then ⟨i + 1, j + 1⟩ else cursor
  else some (.inr noPos)

/-- `allocated` is the answer of `SDF_MemZalloc` for the table. -/
def kmpSearch (fuel : Nat) (allocated : Bool) (data pattern : List UInt8)
    (startPos : Nat) : Option Int :=
  if pattern = [] then some 0
  else if data.length < pattern.length then some noPos
  else if data.length ≤ startPos then some noPos
  else if !allocated then some noPos
  else do
    let lps ← buildLpsTable fuel pattern (replicate pattern.length 0)
    loop (searchRound data pattern lps) fuel { i := startPos }

def LpsTable (pattern : List UInt8) (filled : Nat) (lps : List Nat) : Prop :=
  lps.length = pattern.length ∧ ∀ index < filled, ∃ border,
    lps[index]? = some border ∧ LongestBorder pattern (index + 1) border

variable {pattern data : List UInt8} {lps : List Nat} {index value : Nat}

theorem LpsTable.store (table : LpsTable pattern index lps)
    (within : index < pattern.length)
    (longest : LongestBorder pattern (index + 1) value) :
    ∃ next, store lps index value = some next ∧
      LpsTable pattern (index + 1) next := by
  have inside : index < lps.length := table.1 ▸ within
  refine ⟨lps.set index value, if_pos inside, by simpa using table.1,
    fun other less => ?_⟩
  rcases Nat.lt_succ_iff_lt_or_eq.mp less with before | rfl
  · rw [getElem?_set_ne (by omega)]
    exact table.2 other before
  · exact ⟨value, getElem?_set_self inside, longest⟩

/-- No start before `i - len` can agree up to and with `i`. -/
structure LpsTracks (pattern : List UInt8) (len i : Nat) (lps : List Nat) :
    Prop where
  proper : len < i
  within : i ≤ pattern.length
  table : LpsTable pattern i lps
  agree : Agree pattern pattern (i - len) len
  first : ∀ start, 1 ≤ start → start ≤ i →
    Agree pattern pattern start (i + 1 - start) → i - len ≤ start

def LpsCursor.variant (pattern : List UInt8) (cursor : LpsCursor) : Nat :=
  2 * (pattern.length - cursor.i) + cursor.len

theorem longest_of_first {i length : Nat} (within : i < pattern.length)
    (border : Border pattern (i + 1) length)
    (first : ∀ start, 1 ≤ start → start ≤ i →
      Agree pattern pattern start (i + 1 - start) → i + 1 - length ≤ start) :
    LongestBorder pattern (i + 1) length := by
  refine ⟨border, fun other found => ?_⟩
  obtain ⟨less, agree⟩ := (border_iff (by omega)).mp found
  by_contra longer
  have := first (i + 1 - other) (by omega) (by omega)
    (by rwa [show i + 1 - (i + 1 - other) = other by omega])
  omega

theorem lpsRound_tracks (cursor : LpsCursor)
    (tracks : LpsTracks pattern cursor.len cursor.i cursor.lps) :
    (∃ next, lpsRound pattern cursor = some (.inl next) ∧
      LpsTracks pattern next.len next.i next.lps ∧
        next.variant pattern < cursor.variant pattern) ∨
    ∃ lps, lpsRound pattern cursor = some (.inr lps) ∧
      LpsTable pattern pattern.length lps := by
  obtain ⟨len, i, lps⟩ := cursor
  obtain ⟨proper, within, table, agree, first⟩ := tracks
  dsimp only at *
  by_cases inside : i < pattern.length
  swap
  · exact .inr ⟨lps, by simp [lpsRound, inside],
      show i = pattern.length by omega ▸ table⟩
  have next := getElem?_eq_getElem inside
  have shown := getElem?_eq_getElem (proper.trans inside)
  by_cases same : pattern[i] = pattern[len]
  · have longer : Agree pattern pattern (i - len) (len + 1) :=
      agree.extend (by rw [Nat.sub_add_cancel proper.le, next, shown, same])
    have border : Border pattern (i + 1) (len + 1) :=
      (border_iff (by omega)).mpr ⟨by omega, by simpa using longer⟩
    obtain ⟨filled, stored, table⟩ := table.store inside
      (longest_of_first inside border fun start one le found => by
        simpa using first start one le found)
    have tracks : LpsTracks pattern (len + 1) (i + 1) filled := by
      refine ⟨by omega, inside, table, by simpa using longer,
        fun start one le found => ?_⟩
      by_contra before
      have := first start one (by omega) (found.mono (by omega))
      omega
    exact .inl ⟨⟨len + 1, i + 1, filled⟩,
      by simp [lpsRound, inside, shown, same, stored], tracks,
      by simp only [LpsCursor.variant]; omega⟩
  have beyond {start : ℕ} (one : 1 ≤ start) (le : start ≤ i)
      (found : Agree pattern pattern start (i + 1 - start)) :
      i - len < start := by
    refine (first start one le found).lt_of_ne ?_
    rintro rfl
    have entry := found len (by omega)
    rw [Nat.sub_add_cancel proper.le, next, shown] at entry
    exact same (Option.some.inj entry).symm
  by_cases zero : len = 0
  · subst zero
    have none : LongestBorder pattern (i + 1) 0 :=
      longest_of_first inside (by simp [Border]) fun start one le found =>
        beyond one le found
    obtain ⟨filled, stored, table⟩ := table.store inside none
    have tracks : LpsTracks pattern 0 (i + 1) filled := by
      refine ⟨by omega, inside, table, fun index small => by omega,
        fun start one le found => ?_⟩
      by_contra before
      have := beyond one (by omega) (found.mono (by omega))
      omega
    exact .inl ⟨⟨0, i + 1, filled⟩,
      by simp [lpsRound, inside, shown, same, stored], tracks,
      by simp only [LpsCursor.variant]; omega⟩
  · obtain ⟨border, read, longest⟩ := table.2 (len - 1) (by omega)
    rw [Nat.sub_add_cancel (by omega)] at longest
    obtain ⟨agree, moves⟩ := retreat longest (by omega) proper.le agree
    have less : border < len := longest.1.1
    have tracks : LpsTracks pattern border i lps :=
      ⟨less.trans proper, within, table, agree, fun start one le found =>
        moves start (beyond one le found) le (found.mono (by omega))⟩
    exact .inl ⟨⟨border, i, lps⟩,
      by simp [lpsRound, inside, shown, same, zero, read], tracks,
      by simpa [LpsCursor.variant] using less⟩

theorem buildLpsTable_table {fuel : Nat} (enough : 2 * pattern.length ≤ fuel)
    (nonempty : pattern ≠ []) (sized : lps.length = pattern.length) :
    ∃ table, buildLpsTable fuel pattern lps = some table ∧
      LpsTable pattern pattern.length table := by
  have some : 0 < pattern.length := length_pos_iff.mpr nonempty
  obtain ⟨first, stored, table⟩ :=
    (show LpsTable pattern 0 lps from ⟨sized, by simp⟩).store some
      (show LongestBorder pattern 1 0 from
        ⟨by simp [Border], fun border found => by have := found.1; omega⟩)
  have tracks : LpsTracks pattern 0 1 first :=
    ⟨by omega, some, table, fun index small => by omega, fun start one _ _ =>
      one⟩
  obtain ⟨filled, built, table⟩ := @loop_returns _ _ _ _
    (LpsCursor.variant pattern) _ lpsRound_tracks fuel { lps := first } tracks
    (by simp only [LpsCursor.variant]; omega)
  exact ⟨filled, by simp [buildLpsTable, nonempty, stored, built], table⟩

/-- No occurrence starts before `i - j`. -/
structure SearchTracks (data pattern : List UInt8) (startPos i j : Nat) :
    Prop where
  proper : j < pattern.length
  after : startPos + j ≤ i
  within : i ≤ data.length
  agree : Agree pattern data (i - j) j
  first : ∀ start, startPos ≤ start → pattern <+: data.drop start →
    i - j ≤ start

def SearchCursor.variant (data : List UInt8) (cursor : SearchCursor) : Nat :=
  2 * (data.length - cursor.i) + cursor.j

variable {startPos i j : Nat}

theorem searchAdjust_tracks (table : LpsTable pattern pattern.length lps)
    (tracks : SearchTracks data pattern startPos i j) :
    ∃ next, searchAdjust data pattern lps ⟨i, j⟩ = some (.inl next) ∧
      SearchTracks data pattern startPos next.i next.j ∧
      (next.variant data < 2 * (data.length - i) + j ∨
        next = ⟨i, j⟩ ∧ (i < data.length → pattern[j]? = data[i]?)) := by
  obtain ⟨proper, after, within, agree, first⟩ := tracks
  have shown := getElem?_eq_getElem proper
  by_cases inside : i < data.length
  swap
  · exact ⟨⟨i, j⟩, by simp [searchAdjust, proper.ne, inside], ⟨proper, after,
      within, agree, first⟩, .inr ⟨rfl, fun less => absurd less inside⟩⟩
  have next := getElem?_eq_getElem inside
  by_cases same : pattern[j] = data[i]
  · exact ⟨⟨i, j⟩, by simp [searchAdjust, proper.ne, inside, shown, same],
      ⟨proper, after, within, agree, first⟩,
      .inr ⟨rfl, fun _ => by rw [shown, next, same]⟩⟩
  have beyond {start : ℕ} (le : startPos ≤ start)
      (found : pattern <+: data.drop start) : i - j < start := by
    refine (first start le found).lt_of_ne ?_
    rintro rfl
    have entry := agree_whole.mpr found j proper
    rw [Nat.sub_add_cancel (by omega), next, shown] at entry
    exact same (Option.some.inj entry)
  by_cases zero : j = 0
  · subst zero
    have tracks : SearchTracks data pattern startPos (i + 1) 0 :=
      ⟨proper, by omega, inside, fun index small => by omega,
        fun start le found => beyond le found⟩
    exact ⟨⟨i + 1, 0⟩, by simp [searchAdjust, proper.ne, inside, shown, same],
      tracks, .inl (by simp only [SearchCursor.variant]; omega)⟩
  · obtain ⟨border, read, longest⟩ := table.2 (j - 1) (by omega)
    rw [Nat.sub_add_cancel (by omega)] at longest
    obtain ⟨agree, moves⟩ := retreat longest proper.le (by omega) agree
    have less : border < j := longest.1.1
    have tracks : SearchTracks data pattern startPos i border := by
      refine ⟨less.trans proper, by omega, within, agree,
        fun start le found => ?_⟩
      by_contra before
      have later := beyond le found
      exact before (moves start later (by omega)
        ((agree_whole.mpr found).mono (by omega)))
    exact ⟨⟨i, border⟩,
      by simp [searchAdjust, proper.ne, inside, shown, same, zero, read],
      tracks, .inl (by simpa [SearchCursor.variant] using less)⟩

/-- The least position from `startPos` on at which `pattern` occurs, converted
as the source converts it. -/
def Answers (data pattern : List UInt8) (startPos : Nat) (result : Int) : Prop :=
  (∃ position, IsLeast
      {position | startPos ≤ position ∧ pattern <+: data.drop position}
      position ∧ result = toInt position) ∨
  (∀ position, startPos ≤ position → ¬ pattern <+: data.drop position) ∧
    result = noPos

theorem searchRound_tracks (table : LpsTable pattern pattern.length lps)
    (cursor : SearchCursor)
    (tracks : SearchTracks data pattern startPos cursor.i cursor.j) :
    (∃ next, searchRound data pattern lps cursor = some (.inl next) ∧
      SearchTracks data pattern startPos next.i next.j ∧
        next.variant data < cursor.variant data) ∨
    ∃ result, searchRound data pattern lps cursor = some (.inr result) ∧
      Answers data pattern startPos result := by
  obtain ⟨i, j⟩ := cursor
  have ⟨proper, after, within, agree, first⟩ := tracks
  dsimp only at *
  by_cases inside : i < data.length
  swap
  · refine .inr ⟨noPos, by simp [searchRound, inside], .inr ⟨?_, rfl⟩⟩
    intro position le found
    have fits := found.length_le
    have := first position le found
    rw [length_drop] at fits
    omega
  have shown := getElem?_eq_getElem proper
  have next := getElem?_eq_getElem inside
  by_cases same : pattern[j] = data[i]
  · have round : searchRound data pattern lps ⟨i, j⟩ =
        searchAdjust data pattern lps ⟨i + 1, j + 1⟩ := by
      simp [searchRound, inside, shown, same]
    have longer : Agree pattern data (i - j) (j + 1) :=
      agree.extend (by rw [Nat.sub_add_cancel (by omega), shown, next, same])
    rw [round]
    by_cases whole : j + 1 = pattern.length
    · refine .inr ⟨toInt (i - j), by simp [searchAdjust, whole.symm],
        .inl ⟨i - j, ⟨⟨by omega, agree_whole.mp (whole ▸ longer)⟩, ?_⟩, rfl⟩⟩
      exact fun start found => first start found.1 found.2
    · have tracks : SearchTracks data pattern startPos (i + 1) (j + 1) :=
        ⟨by omega, by omega, inside, by simpa using longer,
          by simpa using first⟩
      obtain ⟨next, goes, tracks, less⟩ := searchAdjust_tracks table tracks
      refine .inl ⟨next, goes, tracks, ?_⟩
      rcases less with less | ⟨rfl, -⟩ <;>
        simp only [SearchCursor.variant] at * <;> omega
  · have round : searchRound data pattern lps ⟨i, j⟩ =
        searchAdjust data pattern lps ⟨i, j⟩ := by
      simp [searchRound, inside, shown, same]
    obtain ⟨next, goes, tracks, less | ⟨-, agree⟩⟩ :=
      searchAdjust_tracks table tracks
    · exact .inl ⟨next, by rw [round, goes], tracks, less⟩
    · simp_all

theorem toInt_eq {position : Nat} (small : position < 2 ^ 31) :
    toInt position = position := by
  rw [toInt, BitVec.toInt_eq_toNat_of_lt] <;>
    rw [BitVec.toNat_ofNat, Nat.mod_eq_of_lt (by omega)]
  omega

theorem kmpSearch_answers {fuel : Nat} (nonempty : pattern ≠ [])
    (enough : 2 * (data.length + pattern.length) < fuel) :
    ∃ result, kmpSearch fuel true data pattern startPos = some result ∧
      Answers data pattern startPos result := by
  have some : 0 < pattern.length := length_pos_iff.mpr nonempty
  have absent (none : ∀ position, startPos ≤ position →
      position + pattern.length ≤ data.length → False) :
      Answers data pattern startPos noPos := by
    refine .inr ⟨fun position le found => none position le ?_, rfl⟩
    have fits := found.length_le
    rw [length_drop] at fits
    omega
  by_cases short : data.length < pattern.length
  · exact ⟨noPos, by simp [kmpSearch, nonempty, short], absent (by omega)⟩
  by_cases late : data.length ≤ startPos
  · exact ⟨noPos, by simp [kmpSearch, nonempty, late], absent (by omega)⟩
  obtain ⟨lps, built, table⟩ := @buildLpsTable_table pattern
    (replicate pattern.length 0) fuel (by omega) nonempty length_replicate
  have tracks : SearchTracks data pattern startPos startPos 0 :=
    ⟨some, le_rfl, by omega, fun index small => by omega, fun start le _ => le⟩
  obtain ⟨result, found, answers⟩ := @loop_returns _ _ _ _
    (SearchCursor.variant data) _ (searchRound_tracks table) fuel
    { i := startPos } tracks (by simp only [SearchCursor.variant]; omega)
  exact ⟨result, by simp [kmpSearch, nonempty, short, late, built, found],
    answers⟩

theorem kmpSearch_least (data pattern : List UInt8) (startPos : Nat)
    (nonempty : pattern ≠ []) :
    ∃ enough, ∀ fuel ≥ enough,
      (∃ lps, buildLpsTable fuel pattern (replicate pattern.length 0) =
          some lps ∧ lps.length = pattern.length ∧
        ∀ i < pattern.length, ∃ longest, lps[i]? = some longest ∧
          IsGreatest {k | k < i + 1 ∧
            pattern.take k <:+ pattern.take (i + 1)} longest) ∧
      ∃ result, kmpSearch fuel true data pattern startPos = some result ∧
        Answers data pattern startPos result ∧
        (data.length ≤ 2 ^ 31 → ∀ position,
          IsLeast {p | startPos ≤ p ∧ pattern <+: data.drop p} position →
            result = position) := by
  refine ⟨2 * (data.length + pattern.length) + 1, fun fuel enough => ?_⟩
  obtain ⟨result, returned, answers⟩ :=
    @kmpSearch_answers pattern data startPos fuel nonempty enough
  refine ⟨buildLpsTable_table (by omega) nonempty (length_replicate ..), result,
    returned, answers, fun small position least => ?_⟩
  have fits := least.1.2.length_le
  rw [length_drop] at fits
  have some : 0 < pattern.length := length_pos_iff.mpr nonempty
  rcases answers with ⟨other, found, rfl⟩ | ⟨none, -⟩
  · rw [found.unique least, toInt_eq (by omega)]
  · exact absurd least.1.2 (none position least.1.1)

theorem kmpSearch_least_middle :
    kmpSearch 20 true [1, 2, 1, 2, 1, 3] [1, 2, 1, 3] 0 = some 2 ∧
      ∃ enough, ∀ fuel ≥ enough, ∃ result,
        kmpSearch fuel true [1, 2, 1, 2, 1, 3] [1, 2, 1, 3] 0 = some result ∧
          Answers [1, 2, 1, 2, 1, 3] [1, 2, 1, 3] 0 result := by
  refine ⟨by decide, ?_⟩
  obtain ⟨enough, holds⟩ :=
    kmpSearch_least [1, 2, 1, 2, 1, 3] [1, 2, 1, 3] 0 (by decide)
  refine ⟨enough, fun fuel le => ?_⟩
  obtain ⟨-, result, found, answers, -⟩ := holds fuel le
  exact ⟨result, found, answers⟩

end NearLink.Devd
