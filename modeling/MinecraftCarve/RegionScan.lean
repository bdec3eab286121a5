import MinecraftCarve.RegionFile
import MinecraftCarve.OffsetForms
import MinecraftCarve.PartialDump

/-! Finding the pieces of region files. The tests are exact on the sectors that a region
file is made of: of a deleted file whose blocks have not been used again, a scan finds
every table and every beginning of a chunk that meets the limits of the tests, wherever
the blocks have come to lie. -/

namespace MinecraftCarve.RegionScan
open SectorWords Sector OffsetTable SectorTests SectorForms Report ScanReport RegionFile
open Library.Records Library.StickySource

/-- The chunks are enough and near enough for the test of a table of offsets. -/
structure Noticed (region : Region) : Prop where
  four : 4 ≤ region.chunks.length
  near : ∀ chunk ∈ region.chunks, chunk.offset ≤ 0xffff

/-- The region was saved at some time, and always in the window. -/
structure Dated (region : Region) (config : Config) : Prop where
  saved : ∃ time ∈ region.times, time ≠ 0
  inside : ∀ time ∈ region.times, time ≠ 0 →
    config.startTime.toNat ≤ time.toNat ∧ time.toNat ≤ config.stopTime.toNat

/-- The data of the chunk is a zlib stream of the usual compression. -/
structure Deflated (chunk : Chunk) : Prop where
  encoding : chunk.encoding = 0x02
  header : [0x78, 0x9c] <+: chunk.data

/-- An unallocated block of the space still has what a sector of the file had. -/
structure Survives (space : BlockSpace) (file : List Byte) (index blk : Nat) : Prop where
  candidate : blk ∈ space.candidates
  contents : (space.contents blk).bytes = record BLOCKSIZE index file

theorem offsetTable_found (region : Region) :
    hasOffsets region.offsetTable = true ↔ Noticed region := by
  have count : (present (region.grid.map slot)).length = region.chunks.length := by
    rw [present_slots, List.length_map]
    rfl
  rw [hasOffsets_iff, region.offsetTable_words]
  constructor
  · intro accepted
    refine ⟨count ▸ accepted.populous, ?_⟩
    intro chunk member
    have word := accepted.reasonable _ (List.mem_map_of_mem (List.reduceOption_mem_iff.mp member))
    have low : slot (some chunk) / 256 = chunk.offset := congrArg Prod.fst chunk.slot_entry
    rwa [low] at word
  · intro noticed
    apply OffsetForms.WellFormed.accepted
    refine ⟨?_, ?_, count ▸ noticed.four⟩
    · intro word member
      obtain ⟨place, held, rfl⟩ := List.mem_map.mp member
      cases place with
      | none => exact Or.inl rfl
      | some chunk =>
        have low : slot (some chunk) / 256 = chunk.offset := congrArg Prod.fst chunk.slot_entry
        rw [low]
        exact Or.inr ⟨chunk.slot_present, chunk.pastTables,
          noticed.near chunk (List.reduceOption_mem_iff.mpr held)⟩
    · rw [present_slots]
      exact region.apart

theorem timestampTable_found (region : Region) (config : Config) :
    hasTimestamps region.timestampTable config.startTime config.stopTime = true ↔
      Dated region config := by
  have zero : ∀ time : Word, time.toNat ≠ 0 ↔ time ≠ 0 := fun time => (word_eq_zero time).not.symm
  have saved : (∃ time ∈ region.times.map BitVec.toNat, time ≠ 0) ↔ ∃ time ∈ region.times, time ≠ 0 := by
    simp only [List.mem_map, exists_exists_and_eq_and, zero]
  rw [hasTimestamps_iff, region.timestampTable_words, saved, List.forall_mem_map]
  simp only [zero]
  exact ⟨fun both => ⟨both.1, both.2⟩, fun dated => ⟨dated.saved, dated.inside⟩⟩

/-- The first seven bytes of a chunk: the length, the encoding and the zlib header. -/
theorem stored_bytes (chunk : Chunk) : ∃ b0 b1 b2 b3 cmf flg more,
    chunk.data = cmf :: flg :: more ∧
    chunk.stored = b0 :: b1 :: b2 :: b3 :: chunk.encoding :: cmf :: flg :: more ∧
    ((b0.toNat * 256 + b1.toNat) * 256 + b2.toNat) * 256 + b3.toNat ≤ 2 ^ 20 := by
  have headed := chunk.headed
  have fits := chunk.fits
  have sectors : chunk.length * BLOCKSIZE ≤ 255 * BLOCKSIZE :=
    Nat.mul_le_mul_right BLOCKSIZE (Nat.le_of_lt_succ chunk.countable)
  have limit : 255 * BLOCKSIZE ≤ 2 ^ 20 := by decide
  have most : chunk.data.length + 1 ≤ 2 ^ 20 := by omega
  obtain ⟨b0, b1, b2, b3, bytes, reads⟩ := field_bytes (most.trans_lt (by decide))
  rw [Chunk.stored, bytes]
  cases data : chunk.data with
  | nil => exact absurd (data ▸ headed) (by decide)
  | cons cmf rest =>
    cases rest with
    | nil => exact absurd (data ▸ headed) (by simp)
    | cons flg more => exact ⟨b0, b1, b2, b3, cmf, flg, more, rfl, rfl, reads.trans_le most⟩

/-- The sector in which the bytes of a chunk begin. -/
theorem header_found (chunk : Chunk) {sector : List Byte} (full : sector.length = BLOCKSIZE)
    (begins : chunk.stored.take 7 <+: sector) :
    hasEncodedChunk sector = true ↔ Deflated chunk := by
  obtain ⟨b0, b1, b2, b3, cmf, flg, more, data, bytes, short⟩ := stored_bytes chunk
  obtain ⟨rest, rfl⟩ := begins
  rw [bytes] at full ⊢
  have long : 8 ≤ BLOCKSIZE := by decide
  rw [hasEncodedChunk_marked]
  constructor
  · intro header
    obtain ⟨marked, _⟩ := header
    have usual : cmf = 0x78 ∧ flg = 0x9c := ⟨Option.some.inj marked.cmf, Option.some.inj marked.flg⟩
    refine ⟨Option.some.inj marked.comp, more, ?_⟩
    rw [data, usual.1, usual.2]
    rfl
  · intro deflated
    obtain ⟨tail, same⟩ := deflated.header
    rw [data] at same
    obtain ⟨rfl, rfl, _⟩ : 0x78 = cmf ∧ 0x9c = flg ∧ tail = more := by simpa using same
    exact ⟨⟨long.trans_eq full.symm, congrArg some deflated.encoding, rfl, rfl⟩, short⟩

/-- What a run has found of a region file: the tables and the beginnings of chunks that
meet the limits of the tests, and none that do not. -/
structure Carved (region : Region) (space : BlockSpace) (file : List Byte) (config : Config)
    (outcome : Outcome) : Prop where
  ended : outcome.exit = .returned 0
  tables : ∃ report, outcome.cout = text report ∧
    (∀ blk, Survives space file 0 blk → (Line.offsets blk ∈ report ↔ Noticed region)) ∧
    ∀ blk, Survives space file 1 blk → (Line.timestamps blk ∈ report ↔ Dated region config)
  chunks : ∀ chunk ∈ region.chunks, ∀ blk, Survives space file chunk.offset blk →
    (⟨.chunkHeader, blk⟩ ∈ findings outcome.examined ↔ Deflated chunk)

section
variable {region : Region} {file : List Byte} (stores : Stores region file)
include stores

theorem scan_carves {σ : Type*} [BlockReader σ] {space : BlockSpace} {holds : σ → Prop}
    (serves : Serves space holds) {reader : σ} (held : holds reader) (config : Config)
    (memory : BlockBuffer) : Carved region space file config (scan config memory reader) := by
  obtain ⟨ended, examined⟩ := scan_served serves held config memory
  have made : ∀ kind blk, blk ∈ space.candidates →
      (⟨kind, blk⟩ ∈ findings (scan config memory reader).examined ↔
        (space.examination config blk).visit.answer kind = true) := by
    intro kind blk candidate
    exact (mem_findings_served serves held config memory ⟨kind, blk⟩).trans (and_iff_right candidate)
  refine ⟨ended, ⟨_, cout_served serves held config memory, ?_, ?_⟩, ?_⟩
  · intro blk survives
    rw [← examined]
    apply ((table_mem_lines ⟨.offsets, blk⟩ rfl).trans (made _ _ survives.candidate)).trans
    change hasOffsets (space.contents blk).bytes = true ↔ _
    rw [survives.contents, stores.offsets, offsetTable_found]
  · intro blk survives
    rw [← examined]
    apply ((table_mem_lines ⟨.timestamps, blk⟩ rfl).trans (made _ _ survives.candidate)).trans
    change hasTimestamps (space.contents blk).bytes config.startTime config.stopTime = true ↔ _
    rw [survives.contents, stores.timestamps, timestampTable_found]
  · intro chunk member blk survives
    apply (made _ _ survives.candidate).trans
    apply header_found chunk (space.contents blk).size
    rw [survives.contents, record, List.prefix_take_iff]
    exact ⟨(List.take_prefix ..).trans (stores.chunks chunk member),
      (List.length_take_le ..).trans (by decide)⟩

/-- Of a region file whose blocks are free and not used again, wherever they lie on an
ext2 filesystem or in a plain file, `mcarve` finds all that meets the limits of the
tests. -/
theorem region_carved (host : Mcarve.Host) (config : Config) (image : String) :
    (∀ reader : Ext2BlockReader, identifyExt2FS (host.identifyFile image) = true →
      host.ext2fsOpen image = .opened reader.e2fs → reader.e2fs.Quiet →
        Carved region reader.space file config (Mcarve.carve host config image)) ∧
    ∀ (contents : List Byte) (addressable : contents.length < 2 ^ 63),
      identifyExt2FS (host.identifyFile image) = false →
      host.scanFile image = some (steady contents addressable) →
        Carved region (FileBlockReader.space contents) file config
          (Mcarve.carve host config image) := by
  constructor
  · intro reader recognised opened quiet
    rw [Mcarve.carve_image config reader.fourK recognised opened]
    exact scan_carves stores (Ext2BlockReader.serves reader.space) ⟨quiet, rfl⟩ config host.memory
  · intro contents addressable rejected found
    rw [Mcarve.carve_plain config rejected found]
    exact scan_carves stores (FileBlockReader.serves contents)
      (FileBlockReader.steady_ofDevice contents addressable) config host.memory

end

/-- A chunk of one sector. -/
def hut (offset : Nat) (pastTables : 2 ≤ offset) (reachable : offset < 2 ^ 24) : Chunk :=
  ⟨offset, 1, 0x02, [0x78, 0x9c], pastTables, reachable, by decide, by decide, by decide, by decide⟩

/-- A region of four chunks, whose table of timestamps is a block of a small image. -/
def village : Region where
  grid := [some (hut 4 (by decide) (by decide)), some (hut 2 (by decide) (by decide)),
    some (hut 7 (by decide) (by decide)), some (hut 3 (by decide) (by decide))] ++
      List.replicate 1020 none
  times := List.replicate 1024 0x50505050
  square := by rw [List.length_append, List.length_replicate]; rfl
  timed := List.length_replicate
  apart := by
    rw [List.reduceOption_append, List.reduceOption_replicate_none]
    simp [List.reduceOption, hut, Chunk.extent, Library.ExtentPacking.Apart,
      Library.ExtentPacking.Before]

theorem village_carved : Carved village (⟨Dump.fourBlockFs, rfl⟩ : Ext2BlockReader).space
    village.file ⟨0x47798280, 0x60000000⟩
    (Mcarve.carve CarveDump.dumpHost ⟨0x47798280, 0x60000000⟩ "fs.img") :=
  (region_carved village.stores_file CarveDump.dumpHost ⟨0x47798280, 0x60000000⟩ "fs.img").1
    ⟨Dump.fourBlockFs, rfl⟩ CarveDump.dumpHost_recognised rfl Dump.fourBlockFs_quiet

/-! A region file in a dump. -/

end MinecraftCarve.RegionScan
