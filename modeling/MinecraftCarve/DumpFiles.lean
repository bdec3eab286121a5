import MinecraftCarve.DumpOutputs

/-! What the dump files of a filesystem should hold, and that the program leaves
exactly that in them whenever it reports success and they are files of their own. -/

namespace MinecraftCarve.Dump
open SectorWords Library.StickySink Library.Loops Library.Records

/-- Unallocated and not all zeros. -/
def dumps (fs : Ext2Filesystem) (blk : Nat) : Bool :=
  !fs.blockIsUsed blk && !allZeroes (fs.block blk)

def dumped (fs : Ext2Filesystem) : List Nat := (range fs).filter (dumps fs)

/-- A block shorter than the buffer is followed by the zeros the buffer began with. -/
def padding (fs : Ext2Filesystem) : List Byte := List.replicate (4096 - fs.blocksize) 0

def blockRecord (fs : Ext2Filesystem) (blk : Nat) : List Byte := fs.block blk ++ padding fs

def dataFile (fs : Ext2Filesystem) : List Byte := (dumped fs).flatMap (blockRecord fs)

def idFile (fs : Ext2Filesystem) : List Byte := (dumped fs).flatMap idBytes

theorem allZeroes_blockRecord (fs : Ext2Filesystem) (blk : Nat) :
    allZeroes (blockRecord fs blk) = allZeroes (fs.block blk) := by
  simp [allZeroes, blockRecord, padding]

section
variable {fs : Ext2Filesystem} (fourK : fs.blocksize = 4096)
include fourK

theorem blockRecord_eq (blk : Nat) : blockRecord fs blk = fs.block blk := by
  rw [blockRecord, padding, fourK]
  exact List.append_nil _

theorem blockRecord_length (blk : Nat) : (blockRecord fs blk).length = 4096 := by
  rw [blockRecord_eq fourK, fs.block_length, fourK]

theorem dataFile_length : (dataFile fs).length = 4096 * (dumped fs).length :=
  flatMap_length (fun blk _ => blockRecord_length fourK blk)

end

theorem idFile_length (fs : Ext2Filesystem) : (idFile fs).length = 8 * (dumped fs).length :=
  flatMap_length (fun _ _ => encode_length _ _)

/-- One of the two streams: it carries its data, or it was never opened. -/
def Output (writing : Bool) (device : Nat → SinkEvent) (data : List Byte) (sink : Sink Byte) : Prop :=
  if writing then sink.Carries device data else sink = Sink.unopened

/-- What holds after the blocks in `seen`, as long as the loop has not been left. -/
structure Tracks (mode : Mode) (dataDevice idDevice : Nat → SinkEvent) (fs : Ext2Filesystem)
    (seen : List Nat) (state : State) : Prop where
  block : state.fs.block = fs.block
  used : state.fs.blockIsUsed = fs.blockIsUsed
  blocksize : state.fs.blocksize = fs.blocksize
  size : state.blockBuffer.length = 4096
  rest : state.blockBuffer.drop fs.blocksize = padding fs
  data : Output mode.writingBlocks dataDevice
    ((seen.filter (dumps fs)).flatMap (blockRecord fs)) state.dataOutput
  ids : Output mode.writingIds idDevice ((seen.filter (dumps fs)).flatMap idBytes) state.idOutput

section
variable {mode : Mode} {dataDevice idDevice : Nat → SinkEvent} {fs : Ext2Filesystem}
  {seen : List Nat} {state : State} {blk : Nat}

/-- A read that returns has put the block's record into the buffer. -/
theorem Tracks.read (tracks : Tracks mode dataDevice idDevice fs seen state)
    (ok : (state.fs.readBlock blk state.blockBuffer 1).status = .ok) :
    (state.fs.readBlock blk state.blockBuffer 1).buffer = blockRecord fs blk ∧
      fs.blocksize ≤ 4096 := by
  rcases state.fs.readBlock_cases blk state.blockBuffer with
    ⟨_, _, fits, filled⟩ | ⟨threw, _⟩ | ⟨overran, _⟩
  · rw [tracks.blocksize, tracks.size] at fits
    rw [tracks.blocksize, tracks.rest, tracks.block] at filled
    exact ⟨filled, fits⟩
  · exact absurd (ok.symm.trans threw) (by simp)
  · exact absurd (ok.symm.trans overran) (by simp)

theorem Output.write {writing : Bool} {device : Nat → SinkEvent} {data : List Byte}
    {sink : Sink Byte} (output : Output writing device data sink) (more : List Byte) :
    Output writing device (data ++ more) (if writing then sink.write more else sink) := by
  cases writing with
  | false => exact output
  | true => exact Sink.Carries.write output more

theorem State.save_eq (mode : Mode) (state : State) (blk : Nat) :
    state.save mode blk = { state with
      idOutput := if mode.writingIds then state.idOutput.write (idBytes blk) else state.idOutput
      dataOutput := if mode.writingBlocks then state.dataOutput.write state.blockBuffer
        else state.dataOutput
      sent := (state.save mode blk).sent } := by
  obtain ⟨_, writingBlocks, writingIds⟩ := mode
  cases writingBlocks <;> cases writingIds <;> rfl

/-- The buffer takes the block, everything else is as before the read. -/
theorem Tracks.inspect (tracks : Tracks mode dataDevice idDevice fs seen state)
    {call : ReadCall Ext2Filesystem (List Byte)}
    (made : call = state.fs.readBlock blk state.blockBuffer 1) (ok : call.status = .ok) :
    Tracks mode dataDevice idDevice fs seen ((state.read blk call).inspect blk) ∧
      ((state.read blk call).inspect blk).blockBuffer = blockRecord fs blk := by
  subst made
  obtain ⟨filled, fits⟩ := tracks.read ok
  refine ⟨⟨?_, ?_, ?_, ?_, ?_, tracks.data, tracks.ids⟩, filled⟩
  · simp [State.inspect, State.read, tracks.block]
  · simp [State.inspect, State.read, tracks.used]
  · simp [State.inspect, State.read, tracks.blocksize]
  · simp [State.inspect, State.read, tracks.size]
  · change (state.fs.readBlock blk state.blockBuffer 1).buffer.drop fs.blocksize = padding fs
    rw [filled, blockRecord, List.drop_left' (fs.block_length blk)]

theorem Tracks.skip (tracks : Tracks mode dataDevice idDevice fs seen state)
    (nothing : dumps fs blk = false) : Tracks mode dataDevice idDevice fs (seen ++ [blk]) state := by
  have same : (seen ++ [blk]).filter (dumps fs) = seen.filter (dumps fs) := by
    simp [List.filter_append, nothing]
  exact ⟨tracks.block, tracks.used, tracks.blocksize, tracks.size, tracks.rest,
    by rw [same]; exact tracks.data, by rw [same]; exact tracks.ids⟩

theorem Tracks.save (tracks : Tracks mode dataDevice idDevice fs seen state)
    (buffer : state.blockBuffer = blockRecord fs blk) (dump : dumps fs blk = true) :
    Tracks mode dataDevice idDevice fs (seen ++ [blk]) (state.save mode blk) := by
  have more : (seen ++ [blk]).filter (dumps fs) = seen.filter (dumps fs) ++ [blk] := by
    simp [List.filter_append, dump]
  rw [State.save_eq]
  refine ⟨tracks.block, tracks.used, tracks.blocksize, tracks.size, tracks.rest, ?_, ?_⟩
  · rw [more, List.flatMap_append, List.flatMap_singleton, ← buffer]
    exact tracks.data.write state.blockBuffer
  · rw [more, List.flatMap_append, List.flatMap_singleton]
    exact tracks.ids.write (idBytes blk)

/-- One pass that goes on extends the files by the block's record, or by nothing. -/
theorem dumpBlock_tracks {after : State} (tracks : Tracks mode dataDevice idDevice fs seen state)
    (pass : dumpBlock mode blk state = .next after) :
    Tracks mode dataDevice idDevice fs (seen ++ [blk]) after := by
  rcases dumpBlock_cases mode blk state with
    ⟨used, same⟩ | ⟨free, call, made, ⟨_, _, _, left⟩ | ⟨ok, blank, same⟩ |
      ⟨ok, filled, saved, save, ⟨_, _, left⟩ | ⟨_, same⟩⟩⟩
  · cases same.symm.trans pass
    rw [tracks.used] at used
    exact tracks.skip (by simp [dumps, used])
  · cases left.symm.trans pass
  · cases same.symm.trans pass
    obtain ⟨inspected, buffer⟩ := tracks.inspect made ok
    have zero : allZeroes (blockRecord fs blk) = true := buffer ▸ blank
    rw [allZeroes_blockRecord] at zero
    exact inspected.skip (by simp [dumps, zero])
  · cases left.symm.trans pass
  · cases same.symm.trans pass
    obtain ⟨inspected, buffer⟩ := tracks.inspect made ok
    have nonzero : allZeroes (blockRecord fs blk) = false := buffer ▸ filled
    rw [allZeroes_blockRecord] at nonzero
    rw [tracks.used] at free
    rw [save]
    exact inspected.save buffer (by simp [dumps, free, nonzero])

theorem tracks_start {dataOutput idOutput : Sink Byte}
    (data : Output mode.writingBlocks dataDevice [] dataOutput)
    (ids : Output mode.writingIds idDevice [] idOutput) :
    Tracks mode dataDevice idDevice fs [] (State.start fs dataOutput idOutput) :=
  ⟨rfl, rfl, rfl, List.length_replicate, List.drop_replicate, data, ids⟩

theorem run_tracks {dataOutput idOutput : Sink Byte} {final : State}
    (data : Output mode.writingBlocks dataDevice [] dataOutput)
    (ids : Output mode.writingIds idDevice [] idOutput)
    (finish : run (dumpBlock mode) (range fs) (State.start fs dataOutput idOutput) = .next final) :
    Tracks mode dataDevice idDevice fs (range fs) final :=
  run_invariant (fun _ _ _ _ tracks pass => dumpBlock_tracks tracks pass) (range fs)
    (tracks_start data ids) finish

/-- What a flush that shows no failure has done for one of the two streams. -/
theorem Output.flush {writing : Bool} {device : Nat → SinkEvent} {data : List Byte}
    {sink : Sink Byte} (output : Output writing device data sink) (good : sink.flush.bad = false)
    (asked : writing = true) :
    sink.flush.file = data ∧ ∀ index < sink.flush.used, (device index).Done := by
  rw [Output, if_pos asked] at output
  exact Sink.Carries.flush output good

/-- An output that the flush has brought up to date has nothing left to close. -/
theorem Output.close {writing : Bool} {device : Nat → SinkEvent} {data : List Byte}
    {sink : Sink Byte} (output : Output writing device data sink) (good : sink.flush.bad = false) :
    sink.flush.close = sink.flush := by
  cases writing with
  | false =>
    have unopened : sink = Sink.unopened := output
    rw [unopened]
    rfl
  | true =>
    have carries : sink.Carries device data := output
    have complete := (Sink.flush_good carries.isOpen good).2.2.1
    exact Sink.close_complete good (complete.trans (Sink.flush_accepted sink).symm)

/-- A run that reports success has completed the files it was asked for. -/
theorem dumpBlocks_complete {dataOutput idOutput : Sink Byte}
    (data : Output mode.writingBlocks dataDevice [] dataOutput)
    (ids : Output mode.writingIds idDevice [] idOutput)
    (success : (dumpBlocks mode fs dataOutput idOutput).ending.exit = .returned 0) :
    (mode.writingBlocks = true → (dumpBlocks mode fs dataOutput idOutput).dataOutput.file =
        dataFile fs ∧ ∀ index < (dumpBlocks mode fs dataOutput idOutput).dataOutput.used,
          (dataDevice index).Done) ∧
      (mode.writingIds = true → (dumpBlocks mode fs dataOutput idOutput).idOutput.file =
        idFile fs ∧ ∀ index < (dumpBlocks mode fs dataOutput idOutput).idOutput.used,
          (idDevice index).Done) := by
  rcases dumpBlocks_cases mode fs dataOutput idOutput with
    ⟨_, _, _, failing, same⟩ | ⟨final, finish, ⟨_, same⟩ | ⟨good, same⟩⟩
  · rw [same] at success
    exact absurd success failing
  · rw [same] at success
    exact absurd success (by simp [State.outcome, writeError])
  · have tracks := run_tracks data ids finish
    obtain ⟨idGood, dataGood⟩ := Bool.or_eq_false_iff.mp good
    have dataLast : (dumpBlocks mode fs dataOutput idOutput).dataOutput = final.dataOutput.flush := by
      rw [same]
      exact tracks.data.close dataGood
    have idsLast : (dumpBlocks mode fs dataOutput idOutput).idOutput = final.idOutput.flush := by
      rw [same]
      exact tracks.ids.close idGood
    rw [dataLast, idsLast]
    exact ⟨tracks.data.flush dataGood, tracks.ids.flush idGood⟩

theorem Output.write_good {writing : Bool} {device : Nat → SinkEvent} {data : List Byte}
    {sink : Sink Byte} (output : Output writing device data sink) (good : sink.bad = false)
    (reliable : ∀ index, (device index).Done) (more : List Byte) :
    (if writing then sink.write more else sink).bad = false := by
  cases writing with
  | false => exact good
  | true =>
    have carries : sink.Carries device data := output
    exact Sink.write_never_fails more carries.isOpen good (carries.device ▸ reliable)

theorem Output.flush_good {writing : Bool} {device : Nat → SinkEvent} {data : List Byte}
    {sink : Sink Byte} (output : Output writing device data sink) (good : sink.bad = false)
    (reliable : ∀ index, (device index).Done) : sink.flush.bad = false := by
  cases writing with
  | false =>
    have unopened : sink = Sink.unopened := output
    rw [unopened]
    rfl
  | true =>
    have carries : sink.Carries device data := output
    exact Sink.flush_never_fails good (carries.device ▸ reliable)

/-- Without read or write errors every pass goes on. -/
theorem dumpBlock_passes (blk : Nat) (tracks : Tracks mode dataDevice idDevice fs seen state)
    (quiet : state.fs.Quiet) (good : state.bad = false) (fits : fs.blocksize ≤ 4096)
    (dataReliable : ∀ index, (dataDevice index).Done) (idReliable : ∀ index, (idDevice index).Done) :
    ∃ after, dumpBlock mode blk state = .next after ∧ after.fs.Quiet ∧ after.bad = false := by
  obtain ⟨idGood, dataGood⟩ := Bool.or_eq_false_iff.mp good
  rcases dumpBlock_cases mode blk state with
    ⟨_, pass⟩ | ⟨_, call, made, ⟨threw, _⟩ | ⟨_, _, pass⟩ | ⟨ok, _, saved, save, ended⟩⟩
  · exact ⟨_, pass, quiet, good⟩
  · rw [made] at threw
    have enough : state.fs.blocksize ≤ state.blockBuffer.length := by
      rw [tracks.blocksize, tracks.size]
      exact fits
    exact absurd (Ext2Filesystem.readBlock_quiet blk quiet enough).1 threw
  · refine ⟨_, pass, ?_, good⟩
    rw [made]
    simpa [State.inspect, State.read] using Ext2Filesystem.next_quiet quiet
  · obtain ⟨inspected, buffer⟩ := tracks.inspect made ok
    rw [State.save_eq] at save
    have savedGood : saved.bad = false := by
      rw [save]
      exact Bool.or_eq_false_iff.mpr ⟨inspected.ids.write_good idGood idReliable _,
        inspected.data.write_good dataGood dataReliable _⟩
    rcases ended with ⟨_, bad, _⟩ | ⟨_, pass⟩
    · cases savedGood.symm.trans bad
    · refine ⟨saved, pass, ?_, savedGood⟩
      rw [save, made]
      simpa [State.inspect, State.read] using Ext2Filesystem.next_quiet quiet

/-- Without read or write errors the program reports success. -/
theorem dumpBlocks_succeeds {dataOutput idOutput : Sink Byte}
    (data : Output mode.writingBlocks dataDevice [] dataOutput)
    (ids : Output mode.writingIds idDevice [] idOutput)
    (quiet : fs.Quiet) (fits : fs.blocksize ≤ 4096)
    (good : (State.start fs dataOutput idOutput).bad = false)
    (dataReliable : ∀ index, (dataDevice index).Done) (idReliable : ∀ index, (idDevice index).Done) :
    (dumpBlocks mode fs dataOutput idOutput).ending.exit = .returned 0 := by
  obtain ⟨final, finish, tracks, _, finalGood⟩ := run_total
    (fun seen (state : State) => Tracks mode dataDevice idDevice fs seen state ∧
      state.fs.Quiet ∧ state.bad = false) (range fs)
    (by
      intro seen blk state _ held
      obtain ⟨tracks, quiet, good⟩ := held
      obtain ⟨after, pass, afterQuiet, afterGood⟩ :=
        dumpBlock_passes blk tracks quiet good fits dataReliable idReliable
      exact ⟨after, pass, dumpBlock_tracks tracks pass, afterQuiet, afterGood⟩)
    ⟨tracks_start data ids, quiet, good⟩
  obtain ⟨idGood, dataGood⟩ := Bool.or_eq_false_iff.mp finalGood
  have flushed : final.flush.bad = false := Bool.or_eq_false_iff.mpr
    ⟨tracks.ids.flush_good idGood idReliable, tracks.data.flush_good dataGood dataReliable⟩
  rcases dumpBlocks_cases mode fs dataOutput idOutput with
    ⟨_, _, left, _⟩ | ⟨other, same, ⟨bad, _⟩ | ⟨_, result⟩⟩
  · cases finish.symm.trans left
  · cases finish.symm.trans same
    cases flushed.symm.trans bad
  · rw [result]
    rfl

end

/-- The device behind an output, where it could be opened. -/
def deviceOf (file : Option (Nat → SinkEvent)) : Nat → SinkEvent := file.getD (fun _ => .done 0)

theorem openOutput_output {open_file : String → Option (Nat → SinkEvent)} {name : String}
    {sink : Sink Byte} (opened : openOutput open_file name = some sink) :
    Output (name != "") (deviceOf (open_file name)) [] sink ∧ sink.bad = false := by
  unfold openOutput at opened
  by_cases unnamed : name = ""
  · rw [if_pos unnamed] at opened
    cases opened
    subst unnamed
    exact ⟨rfl, rfl⟩
  · rw [if_neg unnamed] at opened
    obtain ⟨device, found, rfl⟩ := Option.map_eq_some_iff.mp opened
    have named : (name != "") = true := by simpa using unnamed
    refine ⟨?_, rfl⟩
    rw [Output, if_pos named, found]
    exact Sink.carries_opened device

def modeOf (argv : List String) (options : Options) : Mode :=
  ⟨argv.headD "", options.output != "", options.table != ""⟩

/-- Nothing was read or written. -/
def Outcome.Untouched (outcome : Outcome) : Prop :=
  outcome.inspected = [] ∧ outcome.reads = [] ∧ outcome.dataOutput.accepted = []

/-- With the filesystem open, `main` fails at its outputs or goes on to the blocks. -/
theorem main_cases {host : Host} {argv : List String} {options : Options} {fs : Ext2Filesystem}
    (parsed : host.parse argv = .ok options) (opened : host.ext2fsOpen options.input = .opened fs) :
    ((main host argv).ending.exit = .returned 1 ∧ (main host argv).Untouched) ∨
      ∃ dataOutput idOutput, openOutput host.dataFile options.output = some dataOutput ∧
        openOutput host.idFile options.table = some idOutput ∧
        main host argv = dumpBlocks (modeOf argv options) fs dataOutput idOutput := by
  simp only [main, parsed, opened, Ext2Filesystem.construct]
  by_cases nothing : options.output = "" ∧ options.table = ""
  · rw [if_pos nothing]
    exact Or.inl ⟨rfl, rfl, rfl, rfl⟩
  · rw [if_neg nothing]
    cases data : openOutput host.dataFile options.output with
    | none => exact Or.inl ⟨rfl, rfl, rfl, rfl⟩
    | some dataOutput =>
      cases ids : openOutput host.idFile options.table with
      | none => exact Or.inl ⟨rfl, rfl, rfl, (openOutput_empty data).1⟩
      | some idOutput => exact Or.inr ⟨dataOutput, idOutput, rfl, rfl, rfl⟩

theorem main_complete {host : Host} {argv : List String} {options : Options}
    {fs : Ext2Filesystem} (parsed : host.parse argv = .ok options)
    (opened : host.ext2fsOpen options.input = .opened fs)
    (success : (main host argv).ending.exit = .returned 0) :
    (options.output ≠ "" → (main host argv).dataOutput.file = dataFile fs ∧
        ∀ index < (main host argv).dataOutput.used,
          (deviceOf (host.dataFile options.output) index).Done) ∧
      (options.table ≠ "" → (main host argv).idOutput.file = idFile fs ∧
        ∀ index < (main host argv).idOutput.used,
          (deviceOf (host.idFile options.table) index).Done) := by
  rcases main_cases parsed opened with ⟨failing, _⟩ | ⟨dataOutput, idOutput, data, ids, same⟩
  · rw [failing] at success
    exact absurd success (by simp)
  · rw [same] at success ⊢
    obtain ⟨dataComplete, idComplete⟩ := dumpBlocks_complete (openOutput_output data).1
      (openOutput_output ids).1 success
    exact ⟨fun named => dataComplete (by simpa [modeOf] using named),
      fun named => idComplete (by simpa [modeOf] using named)⟩

/-- The file can be opened, and no write or flush on it fails. -/
def Reliable (file : Option (Nat → SinkEvent)) : Prop :=
  ∃ device, file = some device ∧ ∀ index, (device index).Done

/-- The filesystem opens, an output is asked for, and the outputs that are asked for can be
opened and written. -/
structure Untroubled (host : Host) (argv : List String) (options : Options)
    (fs : Ext2Filesystem) : Prop where
  parsed : host.parse argv = .ok options
  opened : host.ext2fsOpen options.input = .opened fs
  requested : options.output ≠ "" ∨ options.table ≠ ""
  data : options.output ≠ "" → Reliable (host.dataFile options.output)
  ids : options.table ≠ "" → Reliable (host.idFile options.table)

theorem openOutput_reliable {open_file : String → Option (Nat → SinkEvent)} {name : String}
    (reliable : name ≠ "" → Reliable (open_file name)) : ∃ sink device,
      openOutput open_file name = some sink ∧ Output (name != "") device [] sink ∧
      sink.bad = false ∧ ∀ index, (device index).Done := by
  unfold openOutput
  by_cases unnamed : name = ""
  · subst unnamed
    exact ⟨Sink.unopened, fun _ => .done 0, if_pos rfl, rfl, rfl, fun _ => trivial⟩
  · obtain ⟨device, found, fine⟩ := reliable unnamed
    have named : (name != "") = true := by simpa using unnamed
    refine ⟨Sink.opened device, device, ?_, ?_, rfl, fine⟩
    · rw [if_neg unnamed, found]
      rfl
    · rw [Output, if_pos named]
      exact Sink.carries_opened device

theorem main_succeeds {host : Host} {argv : List String} {options : Options}
    {fs : Ext2Filesystem} (untroubled : Untroubled host argv options fs) (quiet : fs.Quiet)
    (fits : fs.blocksize ≤ 4096) : (main host argv).ending.exit = .returned 0 := by
  obtain ⟨dataOutput, dataDevice, data, dataStarts, dataGood, dataFine⟩ :=
    openOutput_reliable untroubled.data
  obtain ⟨idOutput, idDevice, ids, idStarts, idGood, idFine⟩ := openOutput_reliable untroubled.ids
  have asked : ¬(options.output = "" ∧ options.table = "") := by
    intro neither
    obtain ⟨noOutput, noTable⟩ := neither
    rcases untroubled.requested with output | table
    · exact output noOutput
    · exact table noTable
  have same : main host argv = dumpBlocks (modeOf argv options) fs dataOutput idOutput := by
    simp only [main, untroubled.parsed, untroubled.opened, Ext2Filesystem.construct, if_neg asked,
      data, ids]
    rfl
  rw [same]
  exact dumpBlocks_succeeds dataStarts idStarts quiet fits
    (Bool.or_eq_false_iff.mpr ⟨idGood, dataGood⟩) dataFine idFine

def bothOutputs : Options := ⟨"fs.img", "blocks", "ids"⟩

/-- A machine on which no write fails, with both outputs asked for. -/
def workingHost (fs : Ext2Filesystem) : Host where
  parse _ := .ok bothOutputs
  fileOf name := if name = "fs.img" then 0 else if name = "blocks" then 1 else 2
  ext2fsOpen _ := .opened fs
  dataFile _ := some (fun _ => .done 0)
  idFile _ := some (fun _ => .done 0)

theorem workingHost_untroubled (fs : Ext2Filesystem) (argv : List String) :
    Untroubled (workingHost fs) argv bothOutputs fs where
  parsed := rfl
  opened := rfl
  requested := Or.inl (by decide)
  data _ := ⟨_, rfl, fun _ => trivial⟩
  ids _ := ⟨_, rfl, fun _ => trivial⟩

theorem workingHost_separate (fs : Ext2Filesystem) : Separate (workingHost fs) bothOutputs where
  outputs _ _ := (by decide : ¬(1 = 2))
  data _ := (by decide : ¬(1 = 0))
  table _ := (by decide : ¬(2 = 0))

theorem workingHost_complete {fs : Ext2Filesystem} (quiet : fs.Quiet) (fits : fs.blocksize ≤ 4096)
    (argv : List String) :
    left (workingHost fs) bothOutputs (main (workingHost fs) argv) .data = dataFile fs ∧
      left (workingHost fs) bothOutputs (main (workingHost fs) argv) .table = idFile fs := by
  have untroubled := workingHost_untroubled fs argv
  have recorded := main_recorded (workingHost fs) argv
  obtain ⟨data, ids⟩ := main_complete untroubled.parsed untroubled.opened
    (main_succeeds untroubled quiet fits)
  exact ⟨(left_data (workingHost_separate fs) recorded (by decide)).trans (data (by decide)).1,
    (left_table (workingHost_separate fs) recorded (by decide)).trans (ids (by decide)).1⟩

/-- Success means that every record of each output that is asked for has been written and
flushed, and that the files hold just these if they are different files. A failure of
any write or flush on either stream means that there is no success. -/
theorem success_only_if_complete (host : Host) (argv : List String) (options : Options)
    (fs : Ext2Filesystem) (parsed : host.parse argv = .ok options)
    (opened : host.ext2fsOpen options.input = .opened fs) :
    ((main host argv).ending.exit = .returned 0 →
      (options.output ≠ "" → (main host argv).dataOutput.file = dataFile fs ∧
        (Separate host options → left host options (main host argv) .data = dataFile fs)) ∧
      (options.table ≠ "" → (main host argv).idOutput.file = idFile fs ∧
        (Separate host options → left host options (main host argv) .table = idFile fs))) ∧
    (∀ device index, options.output ≠ "" → host.dataFile options.output = some device →
      index < (main host argv).dataOutput.used → ¬(device index).Done →
      (main host argv).ending.exit ≠ .returned 0) ∧
    (∀ device index, options.table ≠ "" → host.idFile options.table = some device →
      index < (main host argv).idOutput.used → ¬(device index).Done →
      (main host argv).ending.exit ≠ .returned 0) := by
  have recorded := main_recorded host argv
  refine ⟨?_, ?_, ?_⟩
  · intro success
    obtain ⟨data, ids⟩ := main_complete parsed opened success
    constructor
    · intro named
      exact ⟨(data named).1, fun separate => (left_data separate recorded named).trans (data named).1⟩
    · intro tabled
      exact ⟨(ids tabled).1, fun separate => (left_table separate recorded tabled).trans (ids tabled).1⟩
  · intro device index named found early failure success
    have fine := ((main_complete parsed opened success).1 named).2 index early
    rw [found] at fine
    exact failure fine
  · intro device index named found early failure success
    have fine := ((main_complete parsed opened success).2 named).2 index early
    rw [found] at fine
    exact failure fine

/-- Four blocks: one in use, an empty one, the first sector of a chunk, and a full one. -/
def fourBlockFs : Ext2Filesystem :=
  Ext2Filesystem.ofImage 2 0 4 (fun blk => blk == 0) (fun index =>
    if index / 4096 = 1 then 0
    else if index / 4096 = 2 then [0, 0, 0, 9, 2, 0x78, 0x9c].getD (index % 4096) 0
    else 0x50)

theorem fourBlockFs_quiet : fourBlockFs.Quiet := Ext2Filesystem.ofImage_quiet _ _ _ _ _

theorem fourBlockFs_dumped : dumped fourBlockFs = [2, 3] := by decide +kernel

theorem fourBlock_complete :
    left (workingHost fourBlockFs) bothOutputs (main (workingHost fourBlockFs) ["dump_unused_blocks"])
        .data = dataFile fourBlockFs ∧
      left (workingHost fourBlockFs) bothOutputs
        (main (workingHost fourBlockFs) ["dump_unused_blocks"]) .table = idFile fourBlockFs := by
  have success := main_succeeds (workingHost_untroubled fourBlockFs ["dump_unused_blocks"])
    fourBlockFs_quiet (by decide)
  obtain ⟨data, ids⟩ := (success_only_if_complete (workingHost fourBlockFs) ["dump_unused_blocks"]
    bothOutputs fourBlockFs rfl rfl).1 success
  exact ⟨(data (by decide)).2 (workingHost_separate _), (ids (by decide)).2 (workingHost_separate _)⟩

/-- Two blocks: one in use and the first sector of a chunk. -/
def twoBlockFs : Ext2Filesystem :=
  Ext2Filesystem.ofImage 2 0 2 (fun blk => blk == 0)
    (fun index => [0, 0, 0, 9, 2, 0x78, 0x9c].getD (index % 4096) 0)

theorem twoBlockFs_quiet : twoBlockFs.Quiet := Ext2Filesystem.ofImage_quiet _ _ _ _ _

theorem twoBlockFs_dumped : dumped twoBlockFs = [1] := by decide +kernel

/-- Both outputs under one name. -/
def oneOutput : Options := ⟨"fs.img", "out", "out"⟩

/-- The same machine, asked for both outputs in one file. The block is written through. -/
def sharedHost (fs : Ext2Filesystem) : Host :=
  { workingHost fs with
    parse := fun _ => .ok oneOutput
    dataFile := fun _ => some (fun _ => .done 4096) }

theorem sharedHost_untroubled (fs : Ext2Filesystem) (argv : List String) :
    Untroubled (sharedHost fs) argv oneOutput fs where
  parsed := rfl
  opened := rfl
  requested := Or.inl (by decide)
  data _ := ⟨_, rfl, fun _ => trivial⟩
  ids _ := ⟨_, rfl, fun _ => trivial⟩

/-- In one file the outputs are not both complete, and the program succeeds. -/
theorem shared_incomplete :
    (main (sharedHost twoBlockFs) ["dump_unused_blocks"]).ending.exit = .returned 0 ∧
      ¬(left (sharedHost twoBlockFs) oneOutput
          (main (sharedHost twoBlockFs) ["dump_unused_blocks"]) .data = dataFile twoBlockFs ∧
        left (sharedHost twoBlockFs) oneOutput
          (main (sharedHost twoBlockFs) ["dump_unused_blocks"]) .table = idFile twoBlockFs) := by
  refine ⟨main_succeeds (sharedHost_untroubled twoBlockFs _) twoBlockFs_quiet (by decide), ?_⟩
  rintro ⟨data, ids⟩
  have same : dataFile twoBlockFs = idFile twoBlockFs := data.symm.trans ids
  have lengths := congrArg List.length same
  rw [dataFile_length rfl, idFile_length, twoBlockFs_dumped] at lengths
  exact absurd lengths (by decide)

end MinecraftCarve.Dump
