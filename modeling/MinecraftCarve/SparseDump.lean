import MinecraftCarve.DumpFiles

/-! The two dump files of a filesystem with 4kB blocks as an encoding of its
unallocated space: the table names the blocks that the data file holds, every other
unallocated block is all zeros. -/

namespace MinecraftCarve.Dump
open SectorWords Library.Records

/-- The entry of a table of 64-bit numbers. -/
def idAt (table : List Byte) (index : Nat) : Nat := decode (record 8 index table)

def blockAt (data : List Byte) (index : Nat) : List Byte := record 4096 index data

structure SparseEncoding (fs : Ext2Filesystem) (table data : List Byte) : Prop where
  sizes : ∃ count, table.length = 8 * count ∧ data.length = 4096 * count
  increasing : ∀ first second, first < second → second < table.length / 8 →
    idAt table first < idAt table second
  recorded : ∀ index < table.length / 8,
    fs.firstDataBlock ≤ idAt table index ∧ idAt table index < fs.blocksCount ∧
      fs.blockIsUsed (idAt table index) = false ∧ blockAt data index = fs.block (idAt table index)
  missing : ∀ blk, fs.firstDataBlock ≤ blk → blk < fs.blocksCount → fs.blockIsUsed blk = false →
    (∀ index < table.length / 8, idAt table index ≠ blk) → ∀ byte ∈ fs.block blk, byte = 0

theorem mem_range {fs : Ext2Filesystem} {blk : Nat} :
    blk ∈ range fs ↔ fs.firstDataBlock ≤ blk ∧ blk < fs.blocksCount := by
  rw [range, List.mem_range'_1]
  omega

theorem mem_dumped {fs : Ext2Filesystem} {blk : Nat} : blk ∈ dumped fs ↔
    (fs.firstDataBlock ≤ blk ∧ blk < fs.blocksCount) ∧ fs.blockIsUsed blk = false ∧
      allZeroes (fs.block blk) = false := by
  rw [dumped, List.mem_filter, mem_range]
  simp [dumps]

theorem dumped_increasing (fs : Ext2Filesystem) :
    (dumped fs).Pairwise (fun first second => first < second) :=
  List.Pairwise.filter _ List.pairwise_lt_range'

theorem blockAt_dataFile {fs : Ext2Filesystem} (fourK : fs.blocksize = 4096) {index : Nat}
    (inRange : index < (dumped fs).length) :
    blockAt (dataFile fs) index = fs.block (dumped fs)[index] := by
  rw [← blockRecord_eq fourK]
  exact record_flatMap (fun blk _ => blockRecord_length fourK blk) index inRange

theorem idFile_entries (fs : Ext2Filesystem) : (idFile fs).length / 8 = (dumped fs).length := by
  rw [idFile_length]
  omega

/-- Every number of a block fits into the 64 bits it is written in. -/
theorem idAt_idFile {fs : Ext2Filesystem} {index : Nat} (inRange : index < (dumped fs).length) :
    idAt (idFile fs) index = (dumped fs)[index] := by
  have entry : record 8 index (idFile fs) = idBytes (dumped fs)[index] :=
    record_flatMap (fun _ _ => encode_length _ _) index inRange
  have bound := (mem_dumped.mp (List.getElem_mem inRange)).1.2
  rw [idAt, entry, idBytes, decode_encode]
  exact bound.trans (fs.blocksCount_lt.trans_eq (by decide))

theorem sparseEncoding {fs : Ext2Filesystem} (fourK : fs.blocksize = 4096) :
    SparseEncoding fs (idFile fs) (dataFile fs) where
  sizes := ⟨(dumped fs).length, idFile_length fs, dataFile_length fourK⟩
  increasing := by
    intro first second ordered inRange
    rw [idFile_entries] at inRange
    rw [idAt_idFile (ordered.trans inRange), idAt_idFile inRange]
    exact List.pairwise_iff_getElem.mp (dumped_increasing fs) first second _ inRange ordered
  recorded := by
    intro index inRange
    rw [idFile_entries] at inRange
    obtain ⟨⟨low, high⟩, free, _⟩ := mem_dumped.mp (List.getElem_mem inRange)
    rw [idAt_idFile inRange]
    exact ⟨low, high, free, blockAt_dataFile fourK inRange⟩
  missing := by
    intro blk low high free absent byte member
    have blank : allZeroes (fs.block blk) = true := by
      by_contra nonzero
      have found : blk ∈ dumped fs := mem_dumped.mpr ⟨⟨low, high⟩, free, by simpa using nonzero⟩
      obtain ⟨index, inRange, entry⟩ := List.getElem_of_mem found
      refine absent index (by rw [idFile_entries]; exact inRange) ?_
      rw [idAt_idFile inRange, entry]
    simpa using List.all_eq_true.mp blank byte member

/-- Every run without I/O errors leaves the same encoding, whichever of the two files it is
asked for, as long as they are different files. -/
theorem dump_lossless (fs : Ext2Filesystem) (quiet : fs.Quiet) (fourK : fs.blocksize = 4096) :
    ∃ table data, SparseEncoding fs table data ∧
      ∀ host argv options, Untroubled host argv options fs → Separate host options →
        (main host argv).ending.exit = .returned 0 ∧
        (options.output ≠ "" → left host options (main host argv) .data = data) ∧
        (options.table ≠ "" → left host options (main host argv) .table = table) := by
  refine ⟨idFile fs, dataFile fs, sparseEncoding fourK, ?_⟩
  intro host argv options untroubled separate
  have recorded := main_recorded host argv
  have success := main_succeeds untroubled quiet fourK.le
  obtain ⟨data, ids⟩ := main_complete untroubled.parsed untroubled.opened success
  exact ⟨success, fun named => (left_data separate recorded named).trans (data named).1,
    fun tabled => (left_table separate recorded tabled).trans (ids tabled).1⟩

theorem fourBlock_lossless : ∃ table data, SparseEncoding fourBlockFs table data ∧
    left (workingHost fourBlockFs) bothOutputs
        (main (workingHost fourBlockFs) ["dump_unused_blocks"]) .data = data ∧
    left (workingHost fourBlockFs) bothOutputs
        (main (workingHost fourBlockFs) ["dump_unused_blocks"]) .table = table := by
  obtain ⟨table, data, encoding, leaves⟩ := dump_lossless fourBlockFs fourBlockFs_quiet rfl
  obtain ⟨_, dataLeft, tableLeft⟩ := leaves _ _ _
    (workingHost_untroubled fourBlockFs ["dump_unused_blocks"]) (workingHost_separate fourBlockFs)
  exact ⟨table, data, encoding, dataLeft (by decide), tableLeft (by decide)⟩

/-- Two outputs in one file encode nothing that is not empty: there are as many numbers in
it as there are records. -/
theorem shared_empty {fs : Ext2Filesystem} {contents : List Byte}
    (encoding : SparseEncoding fs contents contents) : contents = [] := by
  obtain ⟨count, numbers, records⟩ := encoding.sizes
  exact List.length_eq_zero_iff.mp (by omega)

theorem shared_not_lossless :
    Untroubled (sharedHost twoBlockFs) ["dump_unused_blocks"] oneOutput twoBlockFs ∧
      ¬SparseEncoding twoBlockFs
        (left (sharedHost twoBlockFs) oneOutput
          (main (sharedHost twoBlockFs) ["dump_unused_blocks"]) .table)
        (left (sharedHost twoBlockFs) oneOutput
          (main (sharedHost twoBlockFs) ["dump_unused_blocks"]) .data) := by
  refine ⟨sharedHost_untroubled twoBlockFs _, fun encoding => ?_⟩
  have empty := shared_empty encoding
  revert empty
  decide +kernel

end MinecraftCarve.Dump
