import MinecraftCarve.RegionScan
import MinecraftCarve.OffsetOverlap

/-! Which pairs of sectors are the two tables of a region file. The tests let through
some tables that no region has, with chunks that overlap or with an offset in an entry
without a chunk; all others that they accept are read back from a region. -/

namespace MinecraftCarve.RegionHeader
open SectorWords Sector OffsetTable OffsetOverlap RegionFile RegionScan Library.ExtentPacking
open Library.Records

/-- The entries without a chunk are zero. -/
def Tidy (words : List Nat) : Prop := ∀ word ∈ words, word % 256 = 0 → word = 0

/-- An entry that is empty or that a chunk can have. -/
def Usable (word : Nat) : Prop := 0 < word % 256 → 2 ≤ word / 256 ∧ word / 256 ≤ 0xffff

theorem Usable.reachable {word : Nat} (usable : Usable word) (occupied : 0 < word % 256) :
    word / 256 < 2 ^ 24 := by
  have near := (usable occupied).2
  omega

/-- The beginning of a zlib stream. -/
def zlibStart : List Byte := [0x78, 0x9c]

theorem zlibStart_length : 2 ≤ zlibStart.length := Nat.le_refl 2

theorem zlibStart_fits {length : Nat} (occupied : 0 < length) :
    5 + zlibStart.length ≤ length * BLOCKSIZE := by
  calc
    5 + zlibStart.length ≤ 1 * BLOCKSIZE := by decide
    _ ≤ length * BLOCKSIZE := Nat.mul_le_mul_right BLOCKSIZE occupied

/-- The place of the grid that has an entry, with next to nothing in its chunk. -/
def place (word : Nat) (usable : Usable word) : Option Chunk :=
  if occupied : 0 < word % 256 then
    some {
      offset := word / 256
      length := word % 256
      encoding := 0x02
      data := zlibStart
      pastTables := (usable occupied).1
      reachable := usable.reachable occupied
      occupied := occupied
      countable := Nat.mod_lt word (Nat.succ_pos 255)
      headed := zlibStart_length
      fits := zlibStart_fits occupied }
  else none

theorem slot_place {word : Nat} (usable : Usable word) (tidy : word % 256 = 0 → word = 0) :
    slot (place word usable) = word := by
  unfold place
  split
  · exact Nat.div_add_mod' word 256
  · next absent => exact (tidy (Nat.eq_zero_of_not_pos absent)).symm

/-- A number made of four bytes is written as these bytes. -/
theorem field_number (b0 b1 b2 b3 : Byte) :
    field (((b0.toNat * 256 + b1.toNat) * 256 + b2.toNat) * 256 + b3.toNat) = [b0, b1, b2, b3] := by
  have number : ((b0.toNat * 256 + b1.toNat) * 256 + b2.toNat) * 256 + b3.toNat =
      decode [b3, b2, b1, b0] := by
    simp only [decode, List.foldr_cons, List.foldr_nil]
    omega
  rw [number, field]
  exact congrArg List.reverse (encode_decode [b3, b2, b1, b0])

theorem field_word (word : Word) : field (bswap32 word).toNat = wordBytes word := by
  rw [← loadWord_wordBytes word, bswap32_loadWord_toNat, field_number, wordBytes_loadWord]

theorem fields_words {buffer : List Byte} (whole : buffer.length / 4 * 4 = buffer.length) :
    (bigEndianWords buffer).flatMap field = buffer := by
  have none : trailing buffer = [] := by rw [trailing, whole, List.drop_length]
  have words := words_trailing buffer
  rw [none, List.append_nil] at words
  calc
    (bigEndianWords buffer).flatMap field = (bufU32 buffer).flatMap wordBytes := by
      rw [← bufU32_toNat, List.flatMap_map]
      exact List.flatMap_congr (fun word _ => field_word word)
    _ = buffer := words

section
variable {words : List Nat} (usable : ∀ word ∈ words, Usable word)

/-- The grid that has the entries of a table. -/
def grid : List (Option Chunk) := words.pmap place usable

theorem grid_slots (tidy : Tidy words) : (grid usable).map slot = words := by
  rw [grid, List.map_pmap, List.pmap_eq_self]
  intro word member
  exact slot_place _ (tidy word member)

end

/-- A region with the entries of a table and the words of another sector as its times. -/
theorem exists_region {offsets : BlockBuffer} (times : BlockBuffer)
    (usable : ∀ word ∈ bigEndianWords offsets.bytes, Usable word)
    (tidy : Tidy (bigEndianWords offsets.bytes))
    (apart : (present (bigEndianWords offsets.bytes)).Pairwise Apart) :
    ∃ region : Region, region.offsetTable = offsets.bytes ∧ region.timestampTable = times.bytes := by
  have slots := grid_slots usable tidy
  have whole : ∀ sector : BlockBuffer, sector.bytes.length / 4 * 4 = sector.bytes.length := by
    intro sector
    rw [sector.size]
    rfl
  have count : ∀ sector : BlockBuffer, (bufU32 sector.bytes).length = 1024 := by
    intro sector
    rw [bufU32_length, sector.size]
    rfl
  have square : (grid usable).length = 1024 := by
    rw [← List.length_map slot, slots, ← bufU32_toNat, List.length_map, count]
  have timed : ((bufU32 times.bytes).map bswap32).length = 1024 := by
    rw [List.length_map, count]
  have separate : ((grid usable).reduceOption.map Chunk.extent).Pairwise Apart := by
    rw [← present_slots, slots]
    exact apart
  refine ⟨⟨grid usable, (bufU32 times.bytes).map bswap32, square, timed, separate⟩, ?_, ?_⟩
  · rw [Region.offsetTable, slots, fields_words (whole offsets)]
  · rw [Region.timestampTable, List.map_map]
    change ((bufU32 times.bytes).map (fun word => (bswap32 word).toNat)).flatMap field = _
    rw [bufU32_toNat, fields_words (whole times)]

/-- The two tests accept the tables of a region, and of what they accept all is the
tables of a region but for overlapping chunks and stray offsets. -/
theorem header_exact (config : Config) (offsets times : BlockBuffer) :
    (∃ region : Region, (Noticed region ∧ Dated region config) ∧
        region.offsetTable = offsets.bytes ∧ region.timestampTable = times.bytes) ↔
      (hasOffsets offsets.bytes = true ∧
          hasTimestamps times.bytes config.startTime config.stopTime = true) ∧
        RangesDisjoint (bigEndianWords offsets.bytes) ∧ Tidy (bigEndianWords offsets.bytes) := by
  constructor
  · rintro ⟨region, ⟨noticed, dated⟩, offsetTable, timestampTable⟩
    rw [← offsetTable, ← timestampTable, offsetTable_found, timestampTable_found,
      region.offsetTable_words]
    refine ⟨⟨noticed, dated⟩, ⟨?_, ?_⟩, ?_⟩
    · rw [present_slots]
      exact region.apart
    · rw [present_slots]
      intro extent member
      obtain ⟨chunk, _, rfl⟩ := List.mem_map.mp member
      exact chunk.pastTables
    · intro word member empty
      obtain ⟨place, _, rfl⟩ := List.mem_map.mp member
      cases place with
      | none => rfl
      | some chunk => exact absurd empty chunk.slot_present.ne'
  · rintro ⟨⟨accepted, inWindow⟩, ⟨apart, past⟩, tidy⟩
    have reasonable := ((hasOffsets_iff _).mp accepted).reasonable
    have usable : ∀ word ∈ bigEndianWords offsets.bytes, Usable word := by
      intro word member occupied
      exact ⟨past _ (mem_present.mpr ⟨word, member, occupied, rfl⟩), reasonable word member⟩
    obtain ⟨region, offsetTable, timestampTable⟩ := exists_region times usable tidy apart
    rw [← offsetTable, offsetTable_found] at accepted
    rw [← timestampTable, timestampTable_found] at inWindow
    exact ⟨region, ⟨accepted, inWindow⟩, offsetTable, timestampTable⟩

end MinecraftCarve.RegionHeader
