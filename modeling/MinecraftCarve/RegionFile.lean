import MinecraftCarve.OffsetDeletion
import MinecraftCarve.SectorForms
import MinecraftCarve.BlockReader
import MinecraftCarve.Library.Records
import Mathlib.Data.List.Pairwise
import Mathlib.Data.List.ReduceOption

/-! The region files that the tools look for, after the notes on the Anvil format: a
table of offsets, a table of timestamps and the data of the chunks, all in sectors of
4 kB and with the most significant bytes first. Offsets count from the beginning of the
file, as `has_offsets` takes them. A region carries what its format promises; a file
stores it if tables and chunks are where they belong, whatever lies in between. -/

namespace MinecraftCarve.RegionFile
open SectorWords Sector OffsetTable Library.ExtentPacking Library.Records

/-- A number as four bytes, the first most significant. -/
def field (value : Nat) : List Byte := (encode 4 value).reverse

/-- A chunk: its sectors in the file, its encoding and its encoded data. -/
structure Chunk where
  offset : Nat
  length : Nat
  encoding : Byte
  data : List Byte
  pastTables : 2 ≤ offset
  reachable : offset < 2 ^ 24
  occupied : 0 < length
  countable : length < 256
  headed : 2 ≤ data.length
  fits : 5 + data.length ≤ length * BLOCKSIZE

namespace Chunk

def extent (chunk : Chunk) : Nat × Nat := (chunk.offset, chunk.length)

/-- The sector belongs to the chunk. -/
def Has (chunk : Chunk) (index : Nat) : Prop :=
  chunk.offset ≤ index ∧ index < chunk.offset + chunk.length

instance (chunk : Chunk) (index : Nat) : Decidable (chunk.Has index) :=
  inferInstanceAs (Decidable (_ ∧ _))

/-- The length of what follows, the encoding and the data. -/
def stored (chunk : Chunk) : List Byte := field (chunk.data.length + 1) ++ chunk.encoding :: chunk.data

/-- The bytes of a chunk, with zeros to the end of its last sector. -/
def padded (chunk : Chunk) : List Byte :=
  chunk.stored ++ List.replicate (chunk.length * BLOCKSIZE - chunk.stored.length) 0

end Chunk

/-- The entry of a place of the grid in the table of offsets. -/
def slot : Option Chunk → Nat
  | none => 0
  | some chunk => chunk.offset * 256 + chunk.length

/-- A region of 32 × 32 places with the times at which they were saved. -/
structure Region where
  grid : List (Option Chunk)
  times : List Word
  square : grid.length = 1024
  timed : times.length = 1024
  apart : (grid.reduceOption.map Chunk.extent).Pairwise Apart

namespace Region

def chunks (region : Region) : List Chunk := region.grid.reduceOption

def offsetTable (region : Region) : List Byte := (region.grid.map slot).flatMap field

def timestampTable (region : Region) : List Byte :=
  (region.times.map BitVec.toNat).flatMap field

/-- What a file of the region has in one of its sectors. -/
def sector (region : Region) (index : Nat) : List Byte :=
  if index = 0 then region.offsetTable
  else if index = 1 then region.timestampTable
  else
    (region.chunks.find? (fun chunk => decide (chunk.Has index))).elim (List.replicate BLOCKSIZE 0)
      (fun chunk => record BLOCKSIZE (index - chunk.offset) chunk.padded)

/-- The number of sectors up to the end of the last chunk. -/
def sectors (region : Region) : Nat :=
  region.chunks.foldr (fun chunk others => max (chunk.offset + chunk.length) others) 2

/-- A file of the region with zeros in the sectors of no chunk. -/
def file (region : Region) : List Byte := (List.range region.sectors).flatMap region.sector

end Region

/-- The tables and the chunks of the region are at their places in the file. -/
structure Stores (region : Region) (file : List Byte) : Prop where
  offsets : record BLOCKSIZE 0 file = region.offsetTable
  timestamps : record BLOCKSIZE 1 file = region.timestampTable
  chunks : ∀ chunk ∈ region.chunks, chunk.stored <+: file.drop (chunk.offset * BLOCKSIZE)

/-! The bytes of a table and the words read from them. -/

@[simp] theorem field_length (value : Nat) : (field value).length = 4 := by
  rw [field, List.length_reverse, encode_length]

theorem field_bytes {value : Nat} (small : value < 2 ^ 32) : ∃ b0 b1 b2 b3,
    field value = [b0, b1, b2, b3] ∧
      ((b0.toNat * 256 + b1.toNat) * 256 + b2.toNat) * 256 + b3.toNat = value := by
  refine ⟨_, _, _, _, rfl, ?_⟩
  have decoded : decode (encode 4 value) = value := decode_encode small
  simp only [encode, decode, List.foldr_cons, List.foldr_nil] at decoded
  omega

theorem bigEndianWords_fields {values : List Nat} (small : ∀ value ∈ values, value < 2 ^ 32) :
    bigEndianWords (values.flatMap field) = values := by
  induction values with
  | nil => rfl
  | cons value rest ih =>
    obtain ⟨first, others⟩ := List.forall_mem_cons.mp small
    obtain ⟨b0, b1, b2, b3, bytes, reads⟩ := field_bytes first
    rw [List.flatMap_cons, bytes]
    change _ :: bigEndianWords (rest.flatMap field) = _
    rw [reads, ih others]

theorem Chunk.slot_lt (chunk : Chunk) : chunk.offset * 256 + chunk.length < 2 ^ 32 := by
  have reachable := chunk.reachable
  have countable := chunk.countable
  omega

theorem Chunk.slot_entry (chunk : Chunk) : entry (slot (some chunk)) = chunk.extent := by
  have countable := chunk.countable
  simp only [entry, slot, extent, Prod.mk.injEq]
  omega

theorem Chunk.slot_present (chunk : Chunk) : 0 < slot (some chunk) % 256 := by
  have low := congrArg Prod.snd chunk.slot_entry
  change slot (some chunk) % 256 = chunk.length at low
  rw [low]
  exact chunk.occupied

/-- The present entries of the table are the extents of the chunks. -/
theorem present_slots (grid : List (Option Chunk)) :
    present (grid.map slot) = grid.reduceOption.map Chunk.extent := by
  induction grid with
  | nil => rfl
  | cons place rest ih =>
    rw [List.map_cons, OffsetDeletion.present_cons, ih]
    cases place with
    | none =>
      rw [List.reduceOption_cons_of_none]
      exact if_neg (by decide)
    | some chunk =>
      rw [List.reduceOption_cons_of_some, List.map_cons, if_pos chunk.slot_present, chunk.slot_entry]

theorem slot_small (grid : List (Option Chunk)) : ∀ word ∈ grid.map slot, word < 2 ^ 32 := by
  intro word member
  obtain ⟨place, _, rfl⟩ := List.mem_map.mp member
  cases place with
  | none => exact Nat.two_pow_pos 32
  | some chunk => exact chunk.slot_lt

theorem Region.offsetTable_words (region : Region) :
    bigEndianWords region.offsetTable = region.grid.map slot :=
  bigEndianWords_fields (slot_small region.grid)

theorem Region.timestampTable_words (region : Region) :
    bigEndianWords region.timestampTable = region.times.map BitVec.toNat := by
  apply bigEndianWords_fields
  intro word member
  obtain ⟨time, _, rfl⟩ := List.mem_map.mp member
  exact time.isLt

/-! The file that is written of a region stores it. -/

instance : Std.Symm (fun one another : Chunk => Apart one.extent another.extent) :=
  ⟨fun _ _ => Apart.symm⟩

theorem Chunk.stored_length (chunk : Chunk) : chunk.stored.length = 5 + chunk.data.length := by
  rw [stored, List.length_append, field_length, List.length_cons]
  omega

theorem Chunk.padded_length (chunk : Chunk) : chunk.padded.length = chunk.length * BLOCKSIZE := by
  have fits := chunk.fits
  rw [← chunk.stored_length] at fits
  rw [padded, List.length_append, List.length_replicate]
  exact Nat.add_sub_of_le fits

namespace Region
variable (region : Region)

theorem table_length {values : List Nat} (size : values.length = 1024) :
    (values.flatMap field).length = BLOCKSIZE := by
  rw [flatMap_length (fun value _ => field_length value), size]
  rfl

theorem offsetTable_length : region.offsetTable.length = BLOCKSIZE :=
  table_length (by rw [List.length_map, region.square])

theorem timestampTable_length : region.timestampTable.length = BLOCKSIZE :=
  table_length (by rw [List.length_map, region.timed])

theorem sector_length (index : Nat) : (region.sector index).length = BLOCKSIZE := by
  unfold sector
  by_cases first : index = 0
  · rw [if_pos first, region.offsetTable_length]
  by_cases second : index = 1
  · rw [if_neg first, if_pos second, region.timestampTable_length]
  rw [if_neg first, if_neg second]
  cases found : region.chunks.find? (fun chunk => decide (chunk.Has index)) with
  | none => exact List.length_replicate
  | some chunk =>
    obtain ⟨after, inside⟩ : chunk.Has index := by simpa using List.find?_some found
    have room : (index - chunk.offset) * BLOCKSIZE + BLOCKSIZE ≤ chunk.length * BLOCKSIZE := by
      rw [← Nat.succ_mul]
      exact Nat.mul_le_mul_right BLOCKSIZE (by omega)
    change (record BLOCKSIZE (index - chunk.offset) chunk.padded).length = BLOCKSIZE
    rw [record, List.length_take, List.length_drop, chunk.padded_length]
    omega

theorem sector_chunk {chunk : Chunk} (member : chunk ∈ region.chunks) {index : Nat}
    (inside : index < chunk.length) :
    region.sector (chunk.offset + index) = record BLOCKSIZE index chunk.padded := by
  have past := chunk.pastTables
  have has : chunk.Has (chunk.offset + index) := ⟨Nat.le_add_right .., Nat.add_lt_add_left inside _⟩
  rw [sector, if_neg (by omega), if_neg (by omega)]
  cases found : region.chunks.find? (fun other => decide (other.Has (chunk.offset + index))) with
  | none => exact absurd (decide_eq_true has) (List.find?_eq_none.mp found chunk member)
  | some other =>
    have owns : other.Has (chunk.offset + index) := by simpa using List.find?_some found
    have same : other = chunk := by
      by_contra different
      have apart : region.chunks.Pairwise (fun one another => Apart one.extent another.extent) :=
        List.pairwise_map.mp region.apart
      have separate := apart.forall (List.mem_of_find?_eq_some found) member different
      obtain ⟨starts, ends⟩ := owns
      simp only [Apart, Before, Chunk.extent] at separate
      omega
    subst same
    change record BLOCKSIZE (other.offset + index - other.offset) other.padded = _
    rw [Nat.add_sub_cancel_left]

theorem sectors_bounds : 2 ≤ region.sectors ∧
    ∀ chunk ∈ region.chunks, chunk.offset + chunk.length ≤ region.sectors := by
  unfold sectors
  induction region.chunks with
  | nil => simp
  | cons chunk rest ih =>
    rw [List.foldr_cons, List.forall_mem_cons]
    exact ⟨ih.1.trans (Nat.le_max_right ..), Nat.le_max_left ..,
      fun other member => (ih.2 other member).trans (Nat.le_max_right ..)⟩

theorem file_sector {index : Nat} (inFile : index < region.sectors) :
    record BLOCKSIZE index region.file = region.sector index := by
  rw [file, record_flatMap (fun index _ => region.sector_length index) index (by simpa using inFile),
    List.getElem_range]

/-- The sectors of a chunk in a row are the chunk. -/
theorem sectors_chunk {chunk : Chunk} (member : chunk ∈ region.chunks) :
    ((List.range chunk.length).map (chunk.offset + ·)).flatMap region.sector = chunk.padded := by
  calc
    ((List.range chunk.length).map (chunk.offset + ·)).flatMap region.sector
        = (List.range chunk.length).flatMap (fun index => record BLOCKSIZE index chunk.padded) := by
      rw [List.flatMap_map]
      apply List.flatMap_congr
      intro index inside
      exact region.sector_chunk member (List.mem_range.mp inside)
    _ = chunk.padded := by
      rw [records_append, ← chunk.padded_length, List.take_length]

theorem stores_file : Stores region region.file where
  offsets := by
    rw [region.file_sector (Nat.lt_of_lt_of_le (by decide) region.sectors_bounds.1)]
    exact if_pos rfl
  timestamps := by
    rw [region.file_sector (Nat.lt_of_lt_of_le (by decide) region.sectors_bounds.1)]
    rfl
  chunks := by
    intro chunk member
    obtain ⟨more, total⟩ := Nat.exists_eq_add_of_le (region.sectors_bounds.2 chunk member)
    have front : ((List.range chunk.offset).flatMap region.sector).length = chunk.offset * BLOCKSIZE := by
      rw [flatMap_length (fun index _ => region.sector_length index), List.length_range, Nat.mul_comm]
    rw [file, total, List.range_add, List.range_add, List.append_assoc, List.flatMap_append,
      List.flatMap_append, region.sectors_chunk member, List.drop_left' front, Chunk.padded,
      List.append_assoc]
    exact List.prefix_append ..

end Region

end MinecraftCarve.RegionFile
