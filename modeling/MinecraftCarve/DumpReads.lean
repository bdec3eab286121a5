import MinecraftCarve.DumpEndings
import MinecraftCarve.CarveDump
import MinecraftCarve.ScanErrors

/-! Which blocks a dump reads. A run goes on to the first block at which it looks at an
output that has failed, and as far as it goes it reads what a scan of the filesystem
reads. -/

namespace MinecraftCarve.DumpReads
open SectorWords Library.StickySink Library.Loops Dump DumpRuns DumpEndings

/-- The reads of some blocks, as far as they are free. -/
def transfers (fs : Ext2Filesystem) (blks : List Nat) : List Transfer :=
  (fs.unused blks).map (fun blk => ⟨blk, fs.blocksize, 4096⟩)

def inspections (fs : Ext2Filesystem) (blks : List Nat) : List Inspection :=
  (fs.unused blks).map (fun blk => ⟨blk, blockRecord fs blk⟩)

/-- A block with a record at which the program looks at its outputs, after an error. -/
structure Noticed (mode : Mode) (fs : Ext2Filesystem) (dataOutput idOutput : Sink Byte)
    (before : List Nat) (blk : Nat) : Prop where
  dumped : dumps fs blk = true
  due : blk % 1024 = 0
  bad : (fed mode.writingIds idOutput (idRecords fs (before ++ [blk]))).bad = true ∨
    (fed mode.writingBlocks dataOutput (blockRecords fs (before ++ [blk]))).bad = true

/-- The state after the blocks in `seen`, with what has been recorded of them. -/
structure Tracked (mode : Mode) (fs : Ext2Filesystem) (dataOutput idOutput : Sink Byte)
    (seen : List Nat) (state : State) : Prop where
  passed : Passed mode fs dataOutput idOutput seen state
  reads : state.reads = transfers fs seen
  inspected : state.inspected = inspections fs seen
  unnoticed : ∀ before blk, before ++ [blk] <+: seen → ¬Noticed mode fs dataOutput idOutput before blk

theorem transfers_free {fs : Ext2Filesystem} {blk : Nat} (free : fs.blockIsUsed blk = false)
    (seen : List Nat) :
    transfers fs (seen ++ [blk]) = transfers fs seen ++ [⟨blk, fs.blocksize, 4096⟩] := by
  rw [transfers, Ext2Filesystem.unused_free free, List.map_append]
  rfl

theorem inspections_free {fs : Ext2Filesystem} {blk : Nat} (free : fs.blockIsUsed blk = false)
    (seen : List Nat) :
    inspections fs (seen ++ [blk]) = inspections fs seen ++ [⟨blk, blockRecord fs blk⟩] := by
  rw [inspections, Ext2Filesystem.unused_free free, List.map_append]
  rfl

section
variable {mode : Mode} {fs : Ext2Filesystem} {dataOutput idOutput : Sink Byte}
  {seen : List Nat} {state : State} {blk : Nat}

theorem tracked_start :
    Tracked mode fs dataOutput idOutput [] (State.start fs dataOutput idOutput) where
  passed := passed_start
  reads := rfl
  inspected := rfl
  unnoticed before blk first := absurd (List.prefix_nil.mp first) (by simp)

theorem Tracked.blockIsUsed (tracked : Tracked mode fs dataOutput idOutput seen state) (blk : Nat) :
    state.fs.blockIsUsed blk = fs.blockIsUsed blk := by
  rw [tracked.passed.advanced]
  rfl

/-- One more block without an error that is noticed there. -/
theorem Tracked.unnoticed_snoc (tracked : Tracked mode fs dataOutput idOutput seen state)
    (fresh : ¬Noticed mode fs dataOutput idOutput seen blk) (before : List Nat) (other : Nat)
    (first : before ++ [other] <+: seen ++ [blk]) :
    ¬Noticed mode fs dataOutput idOutput before other := by
  rcases List.prefix_concat_iff.mp first with whole | earlier
  · obtain ⟨rfl, rfl⟩ := List.append_singleton_inj.mp whole
    exact fresh
  · exact tracked.unnoticed before other earlier

theorem Tracked.read_reads (tracked : Tracked mode fs dataOutput idOutput seen state)
    (free : fs.blockIsUsed blk = false) {call : ReadCall Ext2Filesystem (List Byte)}
    (made : call = state.fs.readBlock blk state.blockBuffer 1) :
    (state.read blk call).reads = transfers fs (seen ++ [blk]) := by
  have requested : call.requested = fs.blocksize := by
    rw [made, Ext2Filesystem.readBlock_requested, Ext2Filesystem.transferSize_one,
      tracked.passed.advanced, Ext2Filesystem.advance_blocksize]
  change state.reads ++ [⟨blk, call.requested, state.blockBuffer.length⟩] = _
  rw [requested, tracked.passed.size, tracked.reads, transfers_free free]

theorem Tracked.read_inspected (tracked : Tracked mode fs dataOutput idOutput seen state)
    (free : fs.blockIsUsed blk = false) {call : ReadCall Ext2Filesystem (List Byte)}
    (holds : call.buffer = blockRecord fs blk) :
    ((state.read blk call).inspect blk).inspected = inspections fs (seen ++ [blk]) := by
  change state.inspected ++ [⟨blk, call.buffer⟩] = _
  rw [holds, tracked.inspected, inspections_free free]

theorem Tracked.next {after : State} (tracked : Tracked mode fs dataOutput idOutput seen state)
    (pass : dumpBlock mode blk state = .next after) :
    Tracked mode fs dataOutput idOutput (seen ++ [blk]) after := by
  have passed := tracked.passed.next pass
  have map := tracked.blockIsUsed blk
  rcases dumpBlock_cases mode blk state with
    ⟨used, same⟩ | ⟨free, call, made, ⟨_, _, _, left⟩ | ⟨ok, blank, same⟩ |
      ⟨ok, nonzero, saved, save, ⟨_, _, left⟩ | ⟨unchecked, same⟩⟩⟩
  · cases same.symm.trans pass
    rw [map] at used
    refine ⟨passed, ?_, ?_, ?_⟩
    · rw [transfers, Ext2Filesystem.unused_used used]
      exact tracked.reads
    · rw [inspections, Ext2Filesystem.unused_used used]
      exact tracked.inspected
    · apply tracked.unnoticed_snoc
      intro noticed
      have dumped := noticed.dumped
      simp [dumps, used] at dumped
  · cases left.symm.trans pass
  · cases same.symm.trans pass
    have filled : Filled fs seen blk call.buffer := made ▸ tracked.passed.filled (made ▸ ok)
    rw [map] at free
    refine ⟨passed, tracked.read_reads free made, tracked.read_inspected free filled.holds, ?_⟩
    apply tracked.unnoticed_snoc
    intro noticed
    have dumped := noticed.dumped
    rw [filled.holds, allZeroes_blockRecord] at blank
    simp [dumps, blank] at dumped
  · cases left.symm.trans pass
  · cases same.symm.trans pass
    have filled : Filled fs seen blk call.buffer := made ▸ tracked.passed.filled (made ▸ ok)
    rw [map] at free
    refine ⟨passed, ?_, ?_, ?_⟩
    · rw [save, State.save_eq]
      exact tracked.read_reads free made
    · rw [save, State.save_eq]
      exact tracked.read_inspected free filled.holds
    · apply tracked.unnoticed_snoc
      intro noticed
      apply unchecked
      refine ⟨noticed.due, ?_⟩
      rw [State.bad, passed.ids, passed.data]
      exact Bool.or_eq_true_iff.mpr noticed.bad

/-- The block at which a run is left has been read; it has been looked at only if what
ends the run is an output. -/
theorem Tracked.left {final : State} {ending : Ending}
    (tracked : Tracked mode fs dataOutput idOutput seen state)
    (left : dumpBlock mode blk state = .leave final ending) :
    final.reads = transfers fs (seen ++ [blk]) ∧
      ((ending.exit ≠ .returned 1 ∧ final.inspected = inspections fs seen) ∨
        (ending = writeError mode.argv0 ∧ final.inspected = inspections fs (seen ++ [blk]))) := by
  have map := tracked.blockIsUsed blk
  rcases dumpBlock_cases mode blk state with
    ⟨_, same⟩ | ⟨free, call, made, ⟨failing, _⟩ | ⟨_, _, same⟩ |
      ⟨ok, nonzero, saved, save, ⟨check, bad, same⟩ | ⟨_, same⟩⟩⟩
  · cases same.symm.trans left
  · have reads := tracked.read_reads (map ▸ free) made
    simp only [dumpBlock, free, Bool.false_eq_true, if_false, ← made] at left
    cases status : call.status with
    | ok => exact absurd status failing
    | threw what =>
      rw [status] at left
      cases left
      exact ⟨reads, Or.inl ⟨by simp, tracked.inspected⟩⟩
    | overran =>
      rw [status] at left
      cases left
      exact ⟨reads, Or.inl ⟨by simp, tracked.inspected⟩⟩
  · cases same.symm.trans left
  · cases same.symm.trans left
    have filled : Filled fs seen blk call.buffer := made ▸ tracked.passed.filled (made ▸ ok)
    rw [map] at free
    rw [save, State.save_eq]
    exact ⟨tracked.read_reads free made, Or.inr ⟨rfl, tracked.read_inspected free filled.holds⟩⟩
  · cases same.symm.trans left

end

/-! A dump next to a scan of the same filesystem. -/

/-- A block number with the bytes that a program has of the block. -/
abbrev Seen := Nat × List Byte

def Inspection.seen (inspection : Inspection) : Seen := (inspection.blk, inspection.bytes)

def seenBy (examination : Examination) : Seen := (examination.blk, examination.sector.bytes)

/-- As far as a dump goes it reads and sees what a scan does, and if nothing is wrong but
the filesystem it goes as far and ends in the same way. -/
structure Alongside (dump : Dump.Outcome) (scan : MinecraftCarve.Outcome) : Prop where
  reads : dump.reads <+: scan.reads
  seen : dump.inspected.map Inspection.seen <+: scan.examined.map seenBy
  whole : dump.ending.exit ≠ .returned 1 → dump.reads = scan.reads ∧
    dump.inspected.map Inspection.seen = scan.examined.map seenBy ∧ dump.ending.exit = scan.exit

section
variable {reader : Ext2BlockReader}

theorem candidates_unused (few : reader.e2fs.blocksCount ≤ 400000) :
    reader.space.candidates = reader.e2fs.unused (range reader.e2fs) := by
  have all : min reader.space.count 400000 = reader.e2fs.blocksCount := min_eq_left few
  rw [BlockSpace.candidates, all]
  rfl

theorem transfers_whole (blks : List Nat) :
    transfers reader.e2fs blks = (reader.e2fs.unused blks).map Transfer.whole := by
  rw [transfers, reader.fourK]
  rfl

theorem inspections_seen (config : Config) (blks : List Nat) :
    (inspections reader.e2fs blks).map Inspection.seen =
      ((reader.e2fs.unused blks).map (reader.space.examination config)).map seenBy := by
  rw [inspections, List.map_map, List.map_map]
  apply List.map_congr_left
  intro blk _
  have record : blockRecord reader.e2fs blk = reader.e2fs.block blk := blockRecord_eq reader.fourK blk
  change (blk, blockRecord reader.e2fs blk) = (blk, reader.e2fs.block blk)
  rw [record]

/-- No error comes before calls that are known to be fine. -/
theorem firstError_late {fs : Ext2Filesystem} {count known index : Nat}
    (fine : ∀ before < known, (fs.io (fs.calls + before)).errval = 0)
    (first : ScanErrors.firstError fs count = some index) : known ≤ index := by
  rw [ScanErrors.firstError, List.find?_range_eq_some] at first
  by_contra early
  have errval := first.1
  rw [fine index (not_le.mp early)] at errval
  cases errval

/-- Blocks that can be read without an error are read and seen by a scan. -/
theorem scan_reaches (config : Config) {blks : List Nat}
    (known : reader.e2fs.unused blks <+: reader.space.candidates)
    (fine : ∀ before < (reader.e2fs.unused blks).length,
      (reader.e2fs.io (reader.e2fs.calls + before)).errval = 0) :
    transfers reader.e2fs blks <+: (ScanErrors.predicted config reader).reads ∧
      (inspections reader.e2fs blks).map Inspection.seen <+:
        (ScanErrors.predicted config reader).examined.map seenBy := by
  rw [transfers_whole, inspections_seen config, ScanErrors.predicted]
  cases first : ScanErrors.firstError reader.e2fs reader.space.candidates.length with
  | none => exact ⟨known.map _, (known.map _).map _⟩
  | some index =>
    have late := firstError_late fine first
    have taken := List.prefix_take_iff.mpr ⟨known, late⟩
    have takenNext := List.prefix_take_iff.mpr ⟨known, Nat.le_succ_of_le late⟩
    exact ⟨takenNext.map _, (taken.map _).map _⟩

/-- A dump that has read and seen all that a scan has. -/
theorem alongside_whole {dump : Dump.Outcome} {scan : MinecraftCarve.Outcome}
    (reads : dump.reads = scan.reads)
    (seen : dump.inspected.map Inspection.seen = scan.examined.map seenBy)
    (exit : dump.ending.exit ≠ .returned 1 → dump.ending.exit = scan.exit) : Alongside dump scan where
  reads := reads ▸ List.prefix_refl _
  seen := seen ▸ List.prefix_refl _
  whole other := ⟨reads, seen, exit other⟩

theorem dumpBlocks_alongside (few : reader.e2fs.blocksCount ≤ 400000) (mode : Mode)
    (dataOutput idOutput : Sink Byte) (config : Config) (memory : BlockBuffer) :
    Alongside (dumpBlocks mode reader.e2fs dataOutput idOutput) (scan config memory reader) := by
  have candidates := candidates_unused few
  rw [ScanErrors.scan_predicted]
  rcases dumpBlocks_ends (Tracked mode reader.e2fs dataOutput idOutput)
      (fun _ _ _ _ tracked pass => tracked.next pass) tracked_start with
    ⟨seen, blk, rest, state, final, ending, split, tracked, left, same⟩ | ⟨final, tracked, flushed⟩
  · obtain ⟨free, ways⟩ := tracked.passed.left left
    obtain ⟨reads, seenWays⟩ := tracked.left left
    rw [split, Ext2Filesystem.unused_split free] at candidates
    rw [same]
    rcases ways with ⟨rfl, errval, _⟩ | ⟨_, ⟨tooLong, _⟩, _⟩ | ⟨rfl, checked, _⟩
    · have inspected : final.inspected = inspections reader.e2fs seen := by
        rcases seenWays with ⟨_, inspected⟩ | ⟨other, _⟩
        · exact inspected
        · cases other
      rw [ScanErrors.predicted_cut config candidates tracked.passed.reads errval]
      apply alongside_whole
      · exact reads.trans (by rw [transfers_whole, Ext2Filesystem.unused_free free])
      · exact (congrArg _ inspected).trans (inspections_seen config seen)
      · exact fun _ => rfl
    · rw [reader.fourK] at tooLong
      exact absurd tooLong (by decide)
    · have inspected : final.inspected = inspections reader.e2fs (seen ++ [blk]) := by
        rcases seenWays with ⟨other, _⟩ | ⟨_, inspected⟩
        · exact absurd rfl other
        · exact inspected
      have known : reader.e2fs.unused (seen ++ [blk]) <+: reader.space.candidates := by
        rw [candidates, Ext2Filesystem.unused_free free]
        exact ⟨reader.e2fs.unused rest, (List.append_cons ..).symm⟩
      have reached := scan_reaches config known (by
        rw [Ext2Filesystem.unused_free free, List.length_append]
        exact Ext2Filesystem.fine_snoc tracked.passed.reads checked.fine)
      rw [← reads, ← inspected] at reached
      exact ⟨reached.1, reached.2, fun other => absurd rfl other⟩
  · have fine := tracked.passed.reads
    rw [← candidates] at fine
    rw [ScanErrors.predicted_whole config fine]
    have reads : final.reads = reader.space.candidates.map Transfer.whole := by
      rw [tracked.reads, transfers_whole, candidates]
    have seen : final.inspected.map Inspection.seen =
        (reader.space.candidates.map (reader.space.examination config)).map seenBy := by
      rw [tracked.inspected, inspections_seen config, candidates]
    rcases flushed with ⟨_, same⟩ | ⟨_, same⟩
    · rw [same]
      exact alongside_whole reads seen (fun other => absurd rfl other)
    · rw [same]
      exact alongside_whole reads seen (fun _ => rfl)

end

/-- On a filesystem with 4 kB blocks, no more than a scan looks at, the two programs read
the same blocks in the same order and see the same bytes, whatever the channel answers.
Only a failure of its own outputs stops the dump before the scan. -/
theorem programs_read_alike (dumping : Dump.Host) (argv : List String) (options : Dump.Options)
    (reader : Ext2BlockReader) (few : reader.e2fs.blocksCount ≤ 400000)
    (parsed : dumping.parse argv = .ok options)
    (opened : dumping.ext2fsOpen options.input = .opened reader.e2fs) (carving : Mcarve.Host)
    (config : Config) (image : String)
    (recognised : identifyExt2FS (carving.identifyFile image) = true)
    (openedToo : carving.ext2fsOpen image = .opened reader.e2fs) :
    Alongside (Dump.main dumping argv) (Mcarve.carve carving config image) := by
  rw [Mcarve.carve_image config reader.fourK recognised openedToo]
  rcases main_ways parsed opened with
    ⟨failing, _, ⟨reads, inspected⟩, _⟩ | ⟨_, dataOutput, idOutput, _, _, same⟩
  · refine ⟨?_, ?_, fun other => absurd failing other⟩
    · rw [reads]
      exact List.nil_prefix
    · rw [inspected]
      exact List.nil_prefix
  · rw [same]
    exact dumpBlocks_alongside few _ dataOutput idOutput config carving.memory

theorem failingHost_reads_alike :
    Alongside (Dump.main (failingHost (.failed 0) fourBlockFs) ["dump_unused_blocks"])
      (Mcarve.carve CarveDump.dumpHost ⟨0x47798280, 0x60000000⟩ "fs.img") :=
  programs_read_alike (failingHost (.failed 0) fourBlockFs) ["dump_unused_blocks"] bothOutputs
    ⟨fourBlockFs, rfl⟩ (by decide) rfl rfl CarveDump.dumpHost ⟨0x47798280, 0x60000000⟩ "fs.img"
    CarveDump.dumpHost_recognised rfl

end MinecraftCarve.DumpReads
