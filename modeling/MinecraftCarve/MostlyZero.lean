import MinecraftCarve.SectorForms
import MinecraftCarve.SectorTests
import MinecraftCarve.OffsetTable

/-! `is_mostly_zero` next to the table tests. It looks at the first byte of each word,
which is zero in every entry that `has_offsets` lets pass and never zero in a time after
1970, so that it is blind for tables of offsets and exact for tables of timestamps. -/

namespace MinecraftCarve.MostlyZero
open SectorWords Sector SectorForms SectorTests OffsetTable

/-- A test of four bytes that is a test of the number they stand for. -/
theorem countWords_eq {passes : Byte → Byte → Byte → Byte → Bool} {test : Nat → Bool}
    (same : ∀ b0 b1 b2 b3 : Byte, passes b0 b1 b2 b3 =
      test (((b0.toNat * 256 + b1.toNat) * 256 + b2.toNat) * 256 + b3.toNat)) (buffer : List Byte) :
    countWords passes buffer = (bigEndianWords buffer).countP test := by
  fun_induction bigEndianWords buffer with
  | case1 b0 b1 b2 b3 rest ih => rw [countWords, List.countP_cons, ih, same]
  | case2 short notFour =>
    rw [countWords]
    · rfl
    · exact notFour

theorem byte_nonzero (byte : Byte) : (byte != 0) = decide (byte.toNat ≠ 0) := by
  rw [Bool.eq_iff_iff]
  simp [BitVec.toNat_eq]

theorem nonzeroFirst_eq (buffer : List Byte) :
    nonzeroFirst buffer = (bigEndianWords buffer).countP (fun word => 0x1000000 ≤ word) := by
  apply countWords_eq
  intro b0 b1 b2 b3
  have bounds : b1.toNat < 256 ∧ b2.toNat < 256 ∧ b3.toNat < 256 := ⟨b1.isLt, b2.isLt, b3.isLt⟩
  rw [byte_nonzero, decide_eq_decide]
  omega

theorem nonzeroWords_eq (buffer : List Byte) :
    nonzeroWords buffer = (bigEndianWords buffer).countP (fun word => word ≠ 0) := by
  apply countWords_eq
  intro b0 b1 b2 b3
  simp only [byte_nonzero, ← Bool.decide_or, decide_eq_decide]
  omega

theorem bigEndianWords_length (buffer : List Byte) :
    (bigEndianWords buffer).length = buffer.length / 4 := by
  rw [← bufU32_toNat, List.length_map, bufU32_length]

/-- No entry of an accepted table has a nonzero first byte. -/
theorem offsets_nonzeroFirst {buffer : List Byte} (accepted : hasOffsets buffer = true) :
    nonzeroFirst buffer = 0 := by
  rw [nonzeroFirst_eq, List.countP_eq_zero]
  intro word member
  have reasonable := ((hasOffsets_iff buffer).mp accepted).reasonable word member
  simp only [decide_eq_true_eq]
  omega

/-- Every time that is not zero has one, if the window begins late enough. -/
theorem timestamps_nonzeroFirst {buffer : List Byte} {minTime maxTime : Word}
    (late : 0x1000000 ≤ minTime.toNat) (accepted : hasTimestamps buffer minTime maxTime = true) :
    nonzeroFirst buffer = nonzeroWords buffer := by
  obtain ⟨_, window⟩ := (hasTimestamps_iff buffer minTime maxTime).mp accepted
  rw [nonzeroFirst_eq, nonzeroWords_eq]
  apply List.countP_congr
  intro word member
  simp only [decide_eq_true_eq]
  constructor
  · intro large
    omega
  · intro nonzero
    exact late.trans (window word member nonzero).1

/-- Every table of offsets is mostly zero to `is_mostly_zero`, however full it is; of a
table of timestamps it says so exactly if fewer than ten of its words are nonzero. -/
theorem tables_mostly_zero (buffer : List Byte) :
    (hasOffsets buffer = true → isMostlyZero buffer = true) ∧
      ∀ minTime maxTime : Word, 0x1000000 ≤ minTime.toNat → buffer.length < 2 ^ 33 →
        hasTimestamps buffer minTime maxTime = true →
          (isMostlyZero buffer = true ↔ nonzeroWords buffer < 10) := by
  constructor
  · intro accepted
    rw [isMostlyZero_iff, offsets_nonzeroFirst accepted]
    exact Or.inl (by decide)
  · intro minTime maxTime late short accepted
    have few : nonzeroWords buffer ≤ buffer.length / 4 := by
      rw [nonzeroWords_eq, ← bigEndianWords_length]
      exact List.countP_le_length
    rw [isMostlyZero_iff, timestamps_nonzeroFirst late accepted]
    omega

/-- Twelve chunks of one sector, one behind the other. -/
def rowOfChunks : List Byte := (List.range 12).flatMap (fun index => [0, 0, BitVec.ofNat 8 (2 + index), 1])

theorem rowOfChunks_mostly_zero : nonzeroWords rowOfChunks = 12 ∧ isMostlyZero rowOfChunks = true := by
  have accepted : hasOffsets rowOfChunks = true :=
    (hasOffsets_iff rowOfChunks).mpr ⟨by decide, by unfold NoRepeat; decide, by decide, by decide⟩
  exact ⟨by decide, (tables_mostly_zero rowOfChunks).1 accepted⟩

end MinecraftCarve.MostlyZero
