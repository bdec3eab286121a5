import MinecraftCarve.CarveDump
import MinecraftCarve.ScanErrors

/-! What is in the allocated blocks of a filesystem has no influence on either program,
whatever errors the channel and the outputs show: two runs side by side. -/

namespace MinecraftCarve.AllocatedBlocks
open SectorWords Library.Loops Library.StickySink

/-- The same filesystem up to the contents of its allocated blocks, and of blocks out
of its range. -/
structure SameUnallocated (first second : Ext2Filesystem) : Prop where
  logBlockSize : first.logBlockSize = second.logBlockSize
  firstDataBlock : first.firstDataBlock = second.firstDataBlock
  blocksCount : first.blocksCount = second.blocksCount
  blockMap : first.blockMap = second.blockMap
  io : first.io = second.io
  calls : first.calls = second.calls
  block : ∀ blk, first.firstDataBlock ≤ blk → blk < first.blocksCount →
    first.blockIsUsed blk = false → first.block blk = second.block blk

/-- Two files that open as the same filesystem in this sense, or fail in the same way. -/
def SameOpening : Opening → Opening → Prop
  | .opened first, .opened second => SameUnallocated first second
  | .openFailed, .openFailed => True
  | .bitmapFailed, .bitmapFailed => True
  | _, _ => False

/-- Both openings fail in one way, or both succeed. -/
theorem SameOpening.ways {opening other : Opening} (same : SameOpening opening other) :
    (opening = other ∧ ∀ fs, opening ≠ .opened fs) ∨ ∃ first second, opening = .opened first ∧
      other = .opened second ∧ SameUnallocated first second := by
  cases opening with
  | openFailed =>
    cases other with
    | openFailed => exact Or.inl ⟨rfl, by simp⟩
    | bitmapFailed => exact same.elim
    | opened fs => exact same.elim
  | bitmapFailed =>
    cases other with
    | openFailed => exact same.elim
    | bitmapFailed => exact Or.inl ⟨rfl, by simp⟩
    | opened fs => exact same.elim
  | opened first =>
    cases other with
    | openFailed => exact same.elim
    | bitmapFailed => exact same.elim
    | opened second => exact Or.inr ⟨first, second, rfl, rfl, same⟩

namespace SameUnallocated
variable {first second : Ext2Filesystem} (same : SameUnallocated first second)
include same

theorem blocksize : first.blocksize = second.blocksize := by
  rw [Ext2Filesystem.blocksize, same.logBlockSize]
  rfl

theorem errval : first.errval = second.errval := by
  rw [Ext2Filesystem.errval, same.io, same.calls]
  rfl

theorem next : SameUnallocated first.next second.next where
  logBlockSize := same.logBlockSize
  firstDataBlock := same.firstDataBlock
  blocksCount := same.blocksCount
  blockMap := same.blockMap
  io := same.io
  calls := congrArg (fun calls => calls + 1) same.calls
  block := same.block

/-- A read of a free block in range answers the same. -/
theorem readBlock {blk : Nat} (low : first.firstDataBlock ≤ blk) (high : blk < first.blocksCount)
    (free : first.blockIsUsed blk = false) (data : List Byte) :
    second.readBlock blk data 1 = { first.readBlock blk data 1 with reader := second.next } := by
  have moved : second.moved blk first.blocksize = first.moved blk first.blocksize := by
    have events : second.io second.calls = first.io first.calls := by rw [same.io, same.calls]
    unfold Ext2Filesystem.moved
    rw [← same.errval, events]
    split
    · have block := same.block blk low high free
      unfold Ext2Filesystem.block at block
      rw [block, ← same.blocksize]
    · rfl
  simp only [Ext2Filesystem.readBlock, Ext2Filesystem.transferSize_one, ← same.blocksize, moved,
    ← same.errval]
  by_cases tooLong : data.length < (first.moved blk first.blocksize).length
  · simp only [if_pos tooLong]
  · by_cases failed : first.errval ≠ 0
    · simp only [if_neg tooLong, if_pos failed]
    · simp only [if_neg tooLong, if_neg failed]

end SameUnallocated

/-! The scan of `mcarve`. -/

theorem predicted_same (config : Config) {reader other : Ext2BlockReader}
    (same : SameUnallocated reader.e2fs other.e2fs) :
    ScanErrors.predicted config reader = ScanErrors.predicted config other := by
  have candidates : reader.space.candidates = other.space.candidates := by
    have allocated : reader.space.allocated = other.space.allocated := same.blockMap
    have first : reader.space.first = other.space.first := same.firstDataBlock
    have count : reader.space.count = other.space.count := same.blocksCount
    rw [BlockSpace.candidates, BlockSpace.candidates, first, count, allocated]
  have examined : ∀ blks, blks <+: reader.space.candidates →
      blks.map (reader.space.examination config) = blks.map (other.space.examination config) := by
    intro blks upTo
    apply List.map_congr_left
    intro blk member
    obtain ⟨low, high, free⟩ := BlockSpace.mem_candidates.mp (upTo.subset member)
    have bytes : (reader.space.contents blk).bytes = (other.space.contents blk).bytes :=
      same.block blk low (high.trans_le (Nat.min_le_left _ _)) free
    rw [BlockSpace.examination, BlockSpace.examination, BlockBuffer.eq_of_bytes bytes]
  have firstError : ScanErrors.firstError reader.e2fs = ScanErrors.firstError other.e2fs := by
    funext count
    rw [ScanErrors.firstError, ScanErrors.firstError, same.io, same.calls]
  rw [ScanErrors.predicted, ScanErrors.predicted, firstError, ← candidates,
    ← examined _ (List.prefix_refl _)]
  cases ScanErrors.firstError other.e2fs reader.space.candidates.length with
  | none => rfl
  | some index => simp only [← examined _ (List.take_prefix index _)]

theorem scan_same (config : Config) (memory : BlockBuffer) {reader other : Ext2BlockReader}
    (same : SameUnallocated reader.e2fs other.e2fs) :
    scan config memory reader = scan config memory other := by
  rw [ScanErrors.scan_predicted, ScanErrors.scan_predicted, predicted_same config same]

/-- The readers of two such files are made or refused alike. -/
theorem construct_same {opening other : Opening} (same : SameOpening opening other) :
    (∃ what, Ext2BlockReader.construct opening = .error what ∧
        Ext2BlockReader.construct other = .error what) ∨
      ∃ reader readerToo, Ext2BlockReader.construct opening = .ok reader ∧
        Ext2BlockReader.construct other = .ok readerToo ∧
        SameUnallocated reader.e2fs readerToo.e2fs := by
  rcases same.ways with ⟨rfl, failed⟩ | ⟨first, second, rfl, rfl, alike⟩
  · cases opening with
    | openFailed => exact Or.inl ⟨_, rfl, rfl⟩
    | bitmapFailed => exact Or.inl ⟨_, rfl, rfl⟩
    | opened fs => exact absurd rfl (failed fs)
  · by_cases fourK : first.blocksize = BLOCKSIZE
    · have fourKToo : second.blocksize = BLOCKSIZE := alike.blocksize.symm.trans fourK
      exact Or.inr ⟨⟨first, fourK⟩, ⟨second, fourKToo⟩, dif_neg (not_not.mpr fourK),
        dif_neg (not_not.mpr fourKToo), alike⟩
    · have otherToo : second.blocksize ≠ BLOCKSIZE := fun fourK' => fourK (alike.blocksize.trans fourK')
      exact Or.inl ⟨_, dif_pos fourK, dif_pos otherToo⟩

theorem carve_same (host : Mcarve.Host) {opens : String → Opening}
    (same : ∀ name, SameOpening (host.ext2fsOpen name) (opens name)) (config : Config)
    (filename : String) : Mcarve.carve { host with ext2fsOpen := opens } config filename =
      Mcarve.carve host config filename := by
  unfold Mcarve.carve
  rcases construct_same (same filename) with
    ⟨what, failed, failedToo⟩ | ⟨reader, readerToo, built, builtToo, alike⟩
  · simp only [failed, failedToo]
  · simp only [built, builtToo, scan_same config host.memory alike]

theorem mcarve_same (host : Mcarve.Host) {opens : String → Opening}
    (same : ∀ name, SameOpening (host.ext2fsOpen name) (opens name)) (argv : List String) :
    Mcarve.main { host with ext2fsOpen := opens } argv = Mcarve.main host argv := by
  cases parsed : host.parse argv with
  | error code => simp only [Mcarve.main, parsed]
  | ok options =>
    have parsedToo : ({ host with ext2fsOpen := opens } : Mcarve.Host).parse argv = .ok options :=
      parsed
    rw [Mcarve.main_parsed parsed, Mcarve.main_parsed parsedToo]
    exact carve_same host same _ _

/-! The loop of `dump_unused_blocks`. -/

/-- Equal states but for the filesystems behind them, which are the same in this sense. -/
structure SameState (blks : List Nat) (one other : Dump.State) : Prop where
  fs : SameUnallocated one.fs other.fs
  range : Dump.range one.fs = blks
  rest : other = { one with fs := other.fs }

theorem save_fs (mode : Dump.Mode) (blk : Nat) (state : Dump.State) (fs : Ext2Filesystem) :
    Dump.State.save { state with fs := fs } mode blk = { state.save mode blk with fs := fs } := by
  obtain ⟨_, writingBlocks, writingIds⟩ := mode
  cases writingBlocks <;> cases writingIds <;> rfl

theorem outcome_fs (state : Dump.State) (fs : Ext2Filesystem) (ending : Dump.Ending) :
    Dump.State.outcome { state with fs := fs } ending = state.outcome ending := by
  obtain ⟨exit, cerr⟩ := ending
  cases exit <;> rfl

theorem dumpBlock_same (mode : Dump.Mode) {blks : List Nat} {blk : Nat} (member : blk ∈ blks)
    {one other : Dump.State} (same : SameState blks one other) :
    Flow.Related (SameState blks) (Dump.dumpBlock mode blk one)
      (Dump.dumpBlock mode blk other) := by
  obtain ⟨fs, rfl, rest⟩ := same
  obtain ⟨low, high⟩ := Dump.mem_range.mp member
  rw [rest]
  generalize other.fs = second at fs
  have map : second.blockIsUsed blk = one.fs.blockIsUsed blk := congrFun fs.blockMap.symm blk
  simp only [Dump.dumpBlock, map]
  cases used : one.fs.blockIsUsed blk with
  | true => exact ⟨fs, rfl, rfl⟩
  | false =>
    have answer := fs.readBlock low high used one.blockBuffer
    have reader := one.fs.readBlock_reader blk one.blockBuffer 1
    simp only [Bool.false_eq_true, if_false, answer]
    generalize one.fs.readBlock blk one.blockBuffer 1 = call at reader
    have next : SameUnallocated call.reader second.next := reader ▸ fs.next
    have inRange : Dump.range call.reader = Dump.range one.fs := by rw [reader]; rfl
    cases call.status with
    | threw what => exact ⟨⟨next, inRange, rfl⟩, rfl⟩
    | overran => exact ⟨⟨next, inRange, rfl⟩, rfl⟩
    | ok =>
      have saved : SameState (Dump.range one.fs) (((one.read blk call).inspect blk).save mode blk)
          ({ (one.read blk call).inspect blk with fs := second.next }.save mode blk) := by
        rw [save_fs mode blk ((one.read blk call).inspect blk) second.next, Dump.State.save_eq]
        exact ⟨next, inRange, rfl⟩
      have bad : ({ (one.read blk call).inspect blk with fs := second.next }.save mode blk).bad =
          (((one.read blk call).inspect blk).save mode blk).bad := by
        rw [save_fs mode blk ((one.read blk call).inspect blk) second.next]
        rfl
      change Flow.Related _ (if Dump.allZeroes call.buffer = true then _ else _)
        (if Dump.allZeroes call.buffer = true then _ else _)
      split
      · exact ⟨next, inRange, rfl⟩
      · change Flow.Related _ (if blk % 1024 = 0 ∧ _ then _ else _)
          (if blk % 1024 = 0 ∧
            ({ (one.read blk call).inspect blk with fs := second.next }.save mode blk).bad = true
            then _ else _)
        rw [bad]
        split
        · exact ⟨saved, rfl⟩
        · exact saved

theorem dumpBlocks_same (mode : Dump.Mode) {first second : Ext2Filesystem}
    (same : SameUnallocated first second) (dataOutput idOutput : Sink Byte) :
    Dump.dumpBlocks mode second dataOutput idOutput =
      Dump.dumpBlocks mode first dataOutput idOutput := by
  have range : Dump.range second = Dump.range first := by
    rw [Dump.range, Dump.range, same.firstDataBlock, same.blocksCount]
  have both := run_related (Dump.range first)
    (fun blk member _ _ related => dumpBlock_same mode member related)
    (⟨same, rfl, rfl⟩ : SameState (Dump.range first) (Dump.State.start first dataOutput idOutput)
      (Dump.State.start second dataOutput idOutput))
  unfold Dump.dumpBlocks
  rw [range]
  cases finish : run (Dump.dumpBlock mode) (Dump.range first)
      (Dump.State.start first dataOutput idOutput) with
  | next one =>
    cases finishToo : run (Dump.dumpBlock mode) (Dump.range first)
        (Dump.State.start second dataOutput idOutput) with
    | next other =>
      rw [finish, finishToo] at both
      rw [both.rest]
      rfl
    | leave other why =>
      rw [finish, finishToo] at both
      exact both.elim
  | leave one ending =>
    cases finishToo : run (Dump.dumpBlock mode) (Dump.range first)
        (Dump.State.start second dataOutput idOutput) with
    | next other =>
      rw [finish, finishToo] at both
      exact both.elim
    | leave other why =>
      rw [finish, finishToo] at both
      obtain ⟨related, rfl⟩ := both
      rw [related.rest]
      exact outcome_fs one other.fs ending

theorem dump_same (host : Dump.Host) {opens : String → Opening}
    (same : ∀ name, SameOpening (host.ext2fsOpen name) (opens name)) (argv : List String) :
    Dump.main { host with ext2fsOpen := opens } argv = Dump.main host argv := by
  simp only [Dump.main]
  cases host.parse argv with
  | error code => rfl
  | ok options =>
    simp only
    split
    · rfl
    · rcases (same options.input).ways with ⟨alike, _⟩ | ⟨first, second, opened, openedToo, alike⟩
      · rw [alike]
      · simp only [opened, openedToo, Ext2Filesystem.construct, dumpBlocks_same _ alike]

/-- Neither what `mcarve` does nor what `dump_unused_blocks` does depends on what the
allocated blocks of a filesystem hold: exit, output, reads and files stay the same. -/
theorem allocated_without_influence (carving : Mcarve.Host) (dumping : Dump.Host)
    (opens dumpOpens : String → Opening)
    (same : ∀ name, SameOpening (carving.ext2fsOpen name) (opens name))
    (dumpSame : ∀ name, SameOpening (dumping.ext2fsOpen name) (dumpOpens name))
    (argv : List String) :
    Mcarve.main { carving with ext2fsOpen := opens } argv = Mcarve.main carving argv ∧
      Dump.main { dumping with ext2fsOpen := dumpOpens } argv = Dump.main dumping argv :=
  ⟨mcarve_same carving same argv, dump_same dumping dumpSame argv⟩

/-- Two blocks, of which the first is allocated and holds a byte of no concern. -/
def maskedFs (masked : Byte) : Ext2Filesystem :=
  Ext2Filesystem.ofImage 2 0 2 (fun blk => blk == 0)
    (fun index => if index < 4096 then masked else 0x50)

theorem maskedFs_same (one other : Byte) : SameUnallocated (maskedFs one) (maskedFs other) := by
  refine ⟨rfl, rfl, rfl, rfl, rfl, rfl, ?_⟩
  intro blk _ _ free
  have behind : 1 ≤ blk := by
    have different : (blk == 0) = false := free
    have notFirst : blk ≠ 0 := by simpa using different
    omega
  have size : ∀ masked, (maskedFs masked).blocksize = 4096 := fun _ => rfl
  have image : ∀ masked index, (maskedFs masked).image (blk * 4096 + index) = 0x50 :=
    fun masked index => if_neg (by omega)
  rw [Ext2Filesystem.block, Ext2Filesystem.block, Ext2Filesystem.bytes, Ext2Filesystem.bytes,
    size, size]
  simp only [image]

def maskedCarving (masked : Byte) : Mcarve.Host :=
  { CarveDump.dumpHost with
    parse := fun _ => .ok ⟨"fs.img", none, none⟩
    ext2fsOpen := fun _ => .opened (maskedFs masked) }

theorem masked_without_influence :
    Mcarve.main (maskedCarving 2) ["fs.img"] = Mcarve.main (maskedCarving 1) ["fs.img"] ∧
      Dump.main (Dump.workingHost (maskedFs 2)) ["fs.img"] =
        Dump.main (Dump.workingHost (maskedFs 1)) ["fs.img"] :=
  allocated_without_influence (maskedCarving 1) (Dump.workingHost (maskedFs 1))
    (fun _ => .opened (maskedFs 2)) (fun _ => .opened (maskedFs 2))
    (fun _ => maskedFs_same 1 2) (fun _ => maskedFs_same 1 2) ["fs.img"]

end MinecraftCarve.AllocatedBlocks
