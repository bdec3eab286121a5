import MinecraftCarve.Mcarve
import MinecraftCarve.DumpFiles

/-! Whether reads from a filesystem fill the buffers they go to. `mcarve` refuses
filesystems without 4kB blocks, `dump_unused_blocks` takes any, so the two programs
together are exact for a filesystem just when its blocks have 4kB. -/

namespace MinecraftCarve.BufferSizes
open SectorWords Library.Loops Library.StickySink

/-- Every run of `mcarve` on the filesystem reads whole buffers and examines blocks as
they are, or refuses the filesystem before it reads. -/
structure McarveExact (fs : Ext2Filesystem) (outcome : Outcome) : Prop where
  transfers : ∀ transfer ∈ outcome.reads, transfer.requested = transfer.capacity
  contents : ∀ examination ∈ outcome.examined, examination.sector.bytes = fs.block examination.blk
  refused : fs.blocksize ≠ BLOCKSIZE → outcome.Failed ∧ outcome.reads = []

/-- The same of `dump_unused_blocks`, for the blocks it tests and the records that it
gives to its data output. -/
structure DumpExact (fs : Ext2Filesystem) (outcome : Dump.Outcome) : Prop where
  transfers : ∀ transfer ∈ outcome.reads, transfer.requested = transfer.capacity
  contents : ∀ inspection ∈ outcome.inspected, inspection.bytes = fs.block inspection.blk
  written : ∃ records : List Dump.Inspection, records.Sublist outcome.inspected ∧
    outcome.dataOutput.accepted = records.flatMap Dump.Inspection.bytes
  refused : fs.blocksize ≠ 4096 →
    outcome.ending.exit ≠ .returned 0 ∧ outcome.reads = [] ∧ outcome.dataOutput.accepted = []

/-- Every run of either program on a file that opens as the filesystem is exact. -/
def Exact (fs : Ext2Filesystem) : Prop :=
  (∀ (host : Mcarve.Host) argv options, host.parse argv = .ok options →
    identifyExt2FS (host.identifyFile options.file) = true →
    host.ext2fsOpen options.file = .opened fs → McarveExact fs (Mcarve.main host argv)) ∧
  ∀ (host : Dump.Host) argv options, host.parse argv = .ok options →
    host.ext2fsOpen options.input = .opened fs → DumpExact fs (Dump.main host argv)

/-! The scan of `mcarve`. -/

structure ScanSound (fs : Ext2Filesystem) (scan : Scan Ext2BlockReader) : Prop where
  block : scan.reader.e2fs.block = fs.block
  transfers : ∀ transfer ∈ scan.reads, transfer.requested = transfer.capacity
  contents : ∀ examination ∈ scan.examined, examination.sector.bytes = fs.block examination.blk

theorem ScanSound.read {fs : Ext2Filesystem} {scan : Scan Ext2BlockReader}
    (sound : ScanSound fs scan) (blk : Nat) :
    ScanSound fs (scan.read blk (BlockReader.readBlock scan.reader blk scan.sectorBuffer)) := by
  refine ⟨sound.block, ?_, sound.contents⟩
  intro transfer member
  rcases List.mem_append.mp member with old | new
  · exact sound.transfers transfer old
  · rw [List.mem_singleton.mp new]
    change (scan.reader.e2fs.readBlock blk scan.sectorBuffer.bytes 1).requested = BLOCKSIZE
    rw [Ext2Filesystem.readBlock_requested, Ext2Filesystem.transferSize_one]
    exact scan.reader.fourK

theorem scanBlock_sound {fs : Ext2Filesystem} (config : Config) (blk : Nat)
    (scan : Scan Ext2BlockReader) (sound : ScanSound fs scan) :
    ScanSound fs (scanBlock config blk scan).state := by
  rcases scanBlock_cases config blk scan with
    ⟨_, pass⟩ | ⟨_, call, rfl, ⟨ok, pass⟩ | ⟨_, _, _, pass⟩⟩
  · rw [pass]
    exact sound
  · rw [pass]
    obtain ⟨block, transfers, contents⟩ := sound.read blk
    refine ⟨block, transfers, ?_⟩
    intro examination member
    rcases List.mem_append.mp member with old | new
    · exact contents examination old
    · rw [List.mem_singleton.mp new]
      rcases scan.reader.readBlock_cases blk scan.sectorBuffer with ⟨_, _, filled⟩ | ⟨threw, _⟩
      · rw [sound.block] at filled
        exact filled
      · exact absurd (ok.symm.trans threw) (by simp)
  · rw [pass]
    exact sound.read blk

theorem scan_sound (config : Config) (memory : BlockBuffer) (reader : Ext2BlockReader) :
    (∀ transfer ∈ (scan config memory reader).reads, transfer.requested = transfer.capacity) ∧
      ∀ examination ∈ (scan config memory reader).examined,
        examination.sector.bytes = reader.e2fs.block examination.blk := by
  have start : ScanSound reader.e2fs (Scan.start memory reader) :=
    ⟨rfl, by simp [Scan.start], by simp [Scan.start]⟩
  have sound := run_preserves (scanBlock_sound config) (scanned reader) _ start
  obtain ⟨examined, reads⟩ := scan_records config memory reader
  rw [examined, reads]
  exact ⟨sound.transfers, sound.contents⟩

theorem mcarve_exact {host : Mcarve.Host} {argv : List String} {options : Mcarve.Options}
    {fs : Ext2Filesystem} (parsed : host.parse argv = .ok options)
    (identified : identifyExt2FS (host.identifyFile options.file) = true)
    (opened : host.ext2fsOpen options.file = .opened fs) :
    McarveExact fs (Mcarve.main host argv) := by
  rw [Mcarve.main_parsed parsed]
  by_cases fourK : fs.blocksize = BLOCKSIZE
  · rw [Mcarve.carve_image _ fourK identified opened]
    obtain ⟨transfers, contents⟩ := scan_sound (Mcarve.defaultConfig host.clock) host.memory ⟨fs, fourK⟩
    exact ⟨transfers, contents, fun different => absurd fourK different⟩
  · have refused : Ext2BlockReader.construct (.opened fs) =
        .error "This ext2/3/4 filesystem does not have 4kB blocks" := dif_pos fourK
    have failed : Mcarve.carve host (Mcarve.defaultConfig host.clock) options.file =
        Mcarve.failed (.terminated "This ext2/3/4 filesystem does not have 4kB blocks") := by
      unfold Mcarve.carve
      rw [identified, opened, refused]
      rfl
    rw [failed]
    exact ⟨by simp [Mcarve.failed], by simp [Mcarve.failed],
      fun _ => ⟨⟨by simp [Mcarve.failed], rfl⟩, rfl⟩⟩

/-! The loop of `dump_unused_blocks` over 4kB blocks. -/

structure DumpSound (fs : Ext2Filesystem) (state : Dump.State) : Prop where
  block : state.fs.block = fs.block
  fourK : state.fs.blocksize = 4096
  size : state.blockBuffer.length = 4096
  transfers : ∀ transfer ∈ state.reads, transfer.requested = transfer.capacity
  contents : ∀ inspection ∈ state.inspected, inspection.bytes = fs.block inspection.blk
  written : ∃ records : List Dump.Inspection, records.Sublist state.inspected ∧
    state.dataOutput.accepted = records.flatMap Dump.Inspection.bytes

section
variable {fs : Ext2Filesystem} {state : Dump.State}

theorem DumpSound.read (sound : DumpSound fs state) (blk : Nat) :
    DumpSound fs (state.read blk (state.fs.readBlock blk state.blockBuffer 1)) := by
  refine ⟨?_, ?_, ?_, ?_, sound.contents, sound.written⟩
  · simp [Dump.State.read, sound.block]
  · simp [Dump.State.read, sound.fourK]
  · simp [Dump.State.read, sound.size]
  · intro transfer member
    rcases List.mem_append.mp member with old | new
    · exact sound.transfers transfer old
    · rw [List.mem_singleton.mp new, Ext2Filesystem.readBlock_requested,
        Ext2Filesystem.transferSize_one]
      exact sound.fourK.trans sound.size.symm

theorem DumpSound.inspect (sound : DumpSound fs state) {blk : Nat}
    (holds : state.blockBuffer = fs.block blk) : DumpSound fs (state.inspect blk) := by
  refine ⟨sound.block, sound.fourK, sound.size, sound.transfers, ?_, ?_⟩
  · intro inspection member
    rcases List.mem_append.mp member with old | new
    · exact sound.contents inspection old
    · rw [List.mem_singleton.mp new]
      exact holds
  · obtain ⟨records, sublist, accepted⟩ := sound.written
    exact ⟨records, sublist.trans (List.sublist_append_left _ _), accepted⟩

/-- What is written is the record that was tested just before. -/
theorem inspect_save_sound (sound : DumpSound fs state) {blk : Nat}
    (holds : state.blockBuffer = fs.block blk) (mode : Dump.Mode) :
    DumpSound fs ((state.inspect blk).save mode blk) := by
  have inspected := sound.inspect holds
  rw [Dump.State.save_eq]
  refine ⟨inspected.block, inspected.fourK, inspected.size, inspected.transfers,
    inspected.contents, ?_⟩
  obtain ⟨records, sublist, accepted⟩ := sound.written
  have kept : ∃ chosen : List Dump.Inspection, chosen.Sublist (state.inspect blk).inspected ∧
      state.dataOutput.accepted = chosen.flatMap Dump.Inspection.bytes :=
    ⟨records, sublist.trans (List.sublist_append_left _ _), accepted⟩
  cases mode.writingBlocks with
  | false => exact kept
  | true =>
    rcases Sink.write_accepted state.dataOutput state.blockBuffer with same | more
    · simpa [same, Dump.State.inspect] using kept
    · refine ⟨records ++ [⟨blk, state.blockBuffer⟩], sublist.append (List.Sublist.refl _), ?_⟩
      rw [List.flatMap_append, List.flatMap_singleton, ← accepted]
      exact more

theorem dumpBlock_sound (mode : Dump.Mode) (blk : Nat) (state : Dump.State)
    (sound : DumpSound fs state) : DumpSound fs (Dump.dumpBlock mode blk state).state := by
  have read := sound.read blk
  have holds : (state.fs.readBlock blk state.blockBuffer 1).status = .ok →
      (state.fs.readBlock blk state.blockBuffer 1).buffer = fs.block blk := by
    intro ok
    rcases state.fs.readBlock_cases blk state.blockBuffer with
      ⟨_, _, _, filled⟩ | ⟨threw, _⟩ | ⟨overran, _⟩
    · rw [filled, sound.block, sound.fourK, ← sound.size, List.drop_length, List.append_nil]
    · exact absurd (ok.symm.trans threw) (by simp)
    · exact absurd (ok.symm.trans overran) (by simp)
  rcases Dump.dumpBlock_cases mode blk state with
    ⟨_, pass⟩ | ⟨_, call, rfl, ⟨_, _, _, pass⟩ | ⟨ok, _, pass⟩ |
      ⟨ok, _, saved, rfl, ⟨_, _, pass⟩ | ⟨_, pass⟩⟩⟩
  · rw [pass]
    exact sound
  · rw [pass]
    exact read
  · rw [pass]
    exact read.inspect (holds ok)
  · rw [pass]
    exact inspect_save_sound read (holds ok) mode
  · rw [pass]
    exact inspect_save_sound read (holds ok) mode

theorem dumpBlocks_sound (mode : Dump.Mode) (fourK : fs.blocksize = 4096)
    {dataOutput idOutput : Sink Byte} (empty : dataOutput.accepted = []) :
    DumpExact fs (Dump.dumpBlocks mode fs dataOutput idOutput) := by
  have start : DumpSound fs (Dump.State.start fs dataOutput idOutput) :=
    ⟨rfl, fourK, List.length_replicate, fun _ member => absurd member List.not_mem_nil,
      fun _ member => absurd member List.not_mem_nil, [], List.Sublist.refl _, empty⟩
  have sound := run_preserves (dumpBlock_sound mode) (Dump.range fs) _ start
  obtain ⟨final, rfl, reads, inspected, accepted⟩ :=
    Dump.dumpBlocks_records mode fs dataOutput idOutput
  refine ⟨?_, ?_, ?_, fun different => absurd fourK different⟩
  · rw [reads]
    exact sound.transfers
  · rw [inspected]
    exact sound.contents
  · rw [inspected, accepted]
    exact sound.written

theorem dump_exact (fourK : fs.blocksize = 4096) {host : Dump.Host} {argv : List String}
    {options : Dump.Options} (parsed : host.parse argv = .ok options)
    (opened : host.ext2fsOpen options.input = .opened fs) : DumpExact fs (Dump.main host argv) := by
  rcases Dump.main_cases parsed opened with
    ⟨_, inspected, reads, accepted⟩ | ⟨dataOutput, idOutput, data, _, same⟩
  · refine ⟨by simp [reads], by simp [inspected], ⟨[], List.nil_sublist _, accepted⟩, ?_⟩
    exact fun different => absurd fourK different
  · rw [same]
    exact dumpBlocks_sound _ fourK (Dump.openOutput_empty data).1

end

/-! A filesystem with other blocks is not refused. -/

theorem dumpBlock_reads_free (mode : Dump.Mode) {blk : Nat} {state : Dump.State}
    (free : state.fs.blockIsUsed blk = false) :
    (Dump.dumpBlock mode blk state).state.reads ≠ [] := by
  have read : ∀ call, (state.read blk call).reads ≠ [] := fun call => by simp [Dump.State.read]
  rcases Dump.dumpBlock_cases mode blk state with
    ⟨used, _⟩ | ⟨_, call, _, ⟨_, _, _, pass⟩ | ⟨_, _, pass⟩ |
      ⟨_, _, saved, save, ⟨_, _, pass⟩ | ⟨_, pass⟩⟩⟩
  · cases free.symm.trans used
  · rw [pass]
    exact read call
  · rw [pass]
    exact read call
  all_goals
    rw [pass, save, Dump.State.save_eq]
    exact read call

theorem dumpBlock_reads (mode : Dump.Mode) (blk : Nat) (state : Dump.State)
    (earlier : state.reads ≠ []) : (Dump.dumpBlock mode blk state).state.reads ≠ [] := by
  cases used : state.fs.blockIsUsed blk with
  | true =>
    have pass : Dump.dumpBlock mode blk state = .next state := if_pos used
    rw [pass]
    exact earlier
  | false => exact dumpBlock_reads_free mode used

/-- A run that has not read anything has not done anything. -/
theorem run_reads_or_idle (mode : Dump.Mode) (blks : List Nat) (state : Dump.State) :
    (run (Dump.dumpBlock mode) blks state).state.reads ≠ [] ∨
      run (Dump.dumpBlock mode) blks state = .next state := by
  induction blks with
  | nil => exact Or.inr rfl
  | cons blk rest ih =>
    cases used : state.fs.blockIsUsed blk with
    | true =>
      have pass : Dump.dumpBlock mode blk state = .next state := if_pos used
      rw [run_cons_next pass]
      exact ih
    | false =>
      have first := dumpBlock_reads_free mode used
      left
      cases pass : Dump.dumpBlock mode blk state with
      | next after =>
        rw [pass] at first
        rw [run_cons_next pass]
        exact run_preserves (dumpBlock_reads mode) rest after first
      | leave after ending =>
        rw [pass] at first
        rw [run_cons_leave pass]
        exact first

theorem dump_not_refused (fs : Ext2Filesystem) :
    ¬((Dump.main (Dump.workingHost fs) ["dump_unused_blocks"]).ending.exit ≠ .returned 0 ∧
      (Dump.main (Dump.workingHost fs) ["dump_unused_blocks"]).reads = []) := by
  intro refused
  obtain ⟨failing, unread⟩ := refused
  let mode : Dump.Mode := ⟨"dump_unused_blocks", true, true⟩
  let output : Sink Byte := Sink.opened (fun _ => .done 0)
  have same : Dump.main (Dump.workingHost fs) ["dump_unused_blocks"] =
      Dump.dumpBlocks mode fs output output := rfl
  rw [same] at failing unread
  obtain ⟨final, rfl, reads, _⟩ := Dump.dumpBlocks_records mode fs output output
  rw [reads] at unread
  have idle := (run_reads_or_idle mode (Dump.range fs) (Dump.State.start fs output output)).resolve_left
    (not_not.mpr unread)
  apply failing
  rw [Dump.dumpBlocks, idle]
  rfl

/-- Both programs are exact on a filesystem if and only if its blocks have 4kB. -/
theorem exact_iff_fourK (fs : Ext2Filesystem) : Exact fs ↔ fs.blocksize = 4096 := by
  constructor
  · intro exact_reads
    obtain ⟨_, dump⟩ := exact_reads
    by_contra different
    obtain ⟨failing, unread, _⟩ := (dump (Dump.workingHost fs) ["dump_unused_blocks"]
      Dump.bothOutputs rfl rfl).refused different
    exact dump_not_refused fs ⟨failing, unread⟩
  · intro fourK
    exact ⟨fun _ _ _ parsed identified opened => mcarve_exact parsed identified opened,
      fun _ _ _ parsed opened => dump_exact fourK parsed opened⟩

/-- A filesystem with 1kB blocks, one of them and not empty. -/
def oneKilobyteFs : Ext2Filesystem :=
  Ext2Filesystem.ofImage 0 1 2 (fun _ => false) (fun _ => 0x50)

/-- The dump succeeds, with a record of four times the size of the block. -/
theorem oneKilobyte_dumped :
    (Dump.main (Dump.workingHost oneKilobyteFs) ["dump_unused_blocks"]).ending.exit =
        .returned 0 ∧
      (oneKilobyteFs.block 1).length = 1024 ∧
      (Dump.main (Dump.workingHost oneKilobyteFs) ["dump_unused_blocks"]).dataOutput.file =
        oneKilobyteFs.block 1 ++ List.replicate 3072 0 ∧
      ¬Exact oneKilobyteFs := by
  have untroubled := Dump.workingHost_untroubled oneKilobyteFs ["dump_unused_blocks"]
  have success := Dump.main_succeeds untroubled (Ext2Filesystem.ofImage_quiet _ _ _ _ _) (by decide)
  have written := ((Dump.main_complete untroubled.parsed untroubled.opened success).1
    (by decide)).1
  refine ⟨success, oneKilobyteFs.block_length 1, ?_, ?_⟩
  · have one : Dump.dumped oneKilobyteFs = [1] := by decide +kernel
    rw [written, Dump.dataFile, one, List.flatMap_singleton, Dump.blockRecord, Dump.padding]
    rfl
  · intro exact_reads
    obtain ⟨_, dump⟩ := exact_reads
    have refused := (dump (Dump.workingHost oneKilobyteFs) ["dump_unused_blocks"]
      Dump.bothOutputs rfl rfl).refused (by decide)
    exact refused.1 success

end MinecraftCarve.BufferSizes
