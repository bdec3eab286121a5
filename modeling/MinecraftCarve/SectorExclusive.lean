import MinecraftCarve.SectorTests
import MinecraftCarve.Time

/-! The sector tests exclude one another. A chunk header's magic word is too large
for an offset table, and both kinds of word are too small for a time stamp as long
as the window starts late enough. -/

namespace MinecraftCarve.SectorExclusive
open SectorWords Sector OffsetTable SectorTests Time

theorem offsets_not_encodedChunk (buffer : List Byte) :
    ¬(hasOffsets buffer = true ∧ hasEncodedChunk buffer = true) := by
  rw [hasOffsets_iff, hasEncodedChunk_iff]
  intro both
  obtain ⟨accepted, length, magic, rest, read, _, marked⟩ := both
  have near := accepted.reasonable magic (by rw [read]; simp)
  omega

/-- A window that starts after the magic word's largest value has no room for it. -/
theorem timestamps_not_encodedChunk (buffer : List Byte) {minTime : Word} (maxTime : Word)
    (late : 0x02789cff < minTime.toNat) :
    ¬(hasTimestamps buffer minTime maxTime = true ∧ hasEncodedChunk buffer = true) := by
  rw [hasTimestamps_iff, hasEncodedChunk_iff]
  intro both
  obtain ⟨⟨_, window⟩, length, magic, rest, read, _, marked⟩ := both
  have inside := window magic (by rw [read]; simp) (by omega)
  omega

theorem timestamps_not_offsets (buffer : List Byte) {minTime : Word} (maxTime : Word)
    (late : 0x02789cff < minTime.toNat) :
    ¬(hasTimestamps buffer minTime maxTime = true ∧ hasOffsets buffer = true) := by
  rw [hasTimestamps_iff, hasOffsets_iff]
  intro both
  obtain ⟨⟨_, window⟩, accepted⟩ := both
  obtain ⟨chunk, held⟩ := List.exists_mem_of_length_pos (show 0 < _ from accepted.populous.trans' (by decide))
  obtain ⟨word, member, positive, _⟩ := mem_present.mp held
  have near := accepted.reasonable word member
  have inside := window word member (by omega)
  omega

/-- Midnight of the default start date lies within a week of its UTC value, so its
32-bit value is past the magic word in every time zone. -/
theorem default_start_late (zone now : Int) (west : -604800 ≤ zone) (east : zone ≤ 604800) :
    ∃ start, parseTime (fixedZone zone now) "2008-01-01" = .ok start ∧
      0x02789cff < (narrow start).toNat := by
  refine ⟨_, parseTime_default _, ?_⟩
  have midnight : (fixedZone zone now).mktime { year := 108, mon := 0, mday := 1 } =
      1199145600 - zone := rfl
  have kept := narrow_toNat (1199145600 - zone)
  rw [midnight]
  omega

theorem sector_tests_exclusive :
    (∀ buffer, ¬(hasOffsets buffer = true ∧ hasEncodedChunk buffer = true)) ∧
    (∀ buffer (minTime maxTime : Word), 0x02789cff < minTime.toNat →
      [hasTimestamps buffer minTime maxTime, hasOffsets buffer, hasEncodedChunk buffer].count true ≤ 1) ∧
    (∀ zone now : Int, -604800 ≤ zone → zone ≤ 604800 →
      ∃ start, parseTime (fixedZone zone now) "2008-01-01" = .ok start ∧
        0x02789cff < (narrow start).toNat) := by
  refine ⟨offsets_not_encodedChunk, ?_, default_start_late⟩
  intro buffer minTime maxTime late
  have first := timestamps_not_offsets buffer maxTime late
  have second := timestamps_not_encodedChunk buffer maxTime late
  have third := offsets_not_encodedChunk buffer
  revert first second third
  cases hasTimestamps buffer minTime maxTime <;> cases hasOffsets buffer <;>
    cases hasEncodedChunk buffer <;> decide

theorem exclusive_at_default_start :
    [hasTimestamps (List.replicate 4096 0x50) 0x47798280 0x60000000,
      hasOffsets (List.replicate 4096 0x50),
      hasEncodedChunk (List.replicate 4096 0x50)].count true ≤ 1 ∧
    ∃ start, parseTime (fixedZone 3600 0) "2008-01-01" = .ok start ∧
      0x02789cff < (narrow start).toNat :=
  ⟨sector_tests_exclusive.2.1 _ _ _ (by decide),
    sector_tests_exclusive.2.2 3600 0 (by decide) (by decide)⟩

end MinecraftCarve.SectorExclusive
