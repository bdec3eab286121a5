import MinecraftCarve.DumpFiles

/-! Where a run of `dump_unused_blocks` ends and what it leaves in its files, whatever
the filesystem and the two outputs answer. The state of a run is a function of the
blocks passed, so that every way out of the loop shows what came before it. -/

namespace MinecraftCarve.DumpRuns
open SectorWords Library.StickySink Library.Loops Library.Records Dump

def blockRecords (fs : Ext2Filesystem) (blks : List Nat) : List (List Byte) :=
  (blks.filter (dumps fs)).map (blockRecord fs)

def idRecords (fs : Ext2Filesystem) (blks : List Nat) : List (List Byte) :=
  (blks.filter (dumps fs)).map idBytes

/-- An output after some records, if it is written at all. -/
def fed (writing : Bool) (sink : Sink Byte) (records : List (List Byte)) : Sink Byte :=
  if writing then sink.feed records else sink

/-- The state after the blocks in `seen`, as long as the loop has not been left. -/
structure Passed (mode : Mode) (fs : Ext2Filesystem) (dataOutput idOutput : Sink Byte)
    (seen : List Nat) (state : State) : Prop where
  advanced : state.fs = fs.advance (fs.unused seen).length
  size : state.blockBuffer.length = 4096
  rest : state.blockBuffer.drop fs.blocksize = padding fs
  data : state.dataOutput = fed mode.writingBlocks dataOutput (blockRecords fs seen)
  ids : state.idOutput = fed mode.writingIds idOutput (idRecords fs seen)
  reads : ∀ index < (fs.unused seen).length, (fs.io (fs.calls + index)).errval = 0
  fits : fs.unused seen ≠ [] → fs.blocksize ≤ 4096

theorem fed_snoc (writing : Bool) (sink : Sink Byte) (records : List (List Byte))
    (record : List Byte) : fed writing sink (records ++ [record]) =
      if writing then (fed writing sink records).write record else fed writing sink records := by
  cases writing with
  | false => rfl
  | true => exact Sink.feed_append sink records [record]

section
variable {mode : Mode} {fs : Ext2Filesystem} {dataOutput idOutput : Sink Byte}
  {seen : List Nat} {state : State} {blk : Nat}

theorem passed_start : Passed mode fs dataOutput idOutput [] (State.start fs dataOutput idOutput) where
  advanced := rfl
  size := List.length_replicate
  rest := List.drop_replicate
  data := by cases writing : mode.writingBlocks <;> rfl
  ids := by cases writing : mode.writingIds <;> rfl
  reads index early := absurd early (Nat.not_lt_zero index)
  fits none := absurd rfl none

/-- A block without a record leaves the outputs as they are. -/
theorem records_skip (fs : Ext2Filesystem) (seen : List Nat) (blk : Nat)
    (nothing : dumps fs blk = false) :
    blockRecords fs (seen ++ [blk]) = blockRecords fs seen ∧
      idRecords fs (seen ++ [blk]) = idRecords fs seen := by
  have same : (seen ++ [blk]).filter (dumps fs) = seen.filter (dumps fs) := by
    simp [List.filter_append, nothing]
  exact ⟨congrArg (List.map (blockRecord fs)) same, congrArg (List.map idBytes) same⟩

theorem records_snoc (seen : List Nat) (dump : dumps fs blk = true) :
    blockRecords fs (seen ++ [blk]) = blockRecords fs seen ++ [blockRecord fs blk] ∧
      idRecords fs (seen ++ [blk]) = idRecords fs seen ++ [idBytes blk] := by
  have more : (seen ++ [blk]).filter (dumps fs) = seen.filter (dumps fs) ++ [blk] := by
    simp [List.filter_append, dump]
  simp [blockRecords, idRecords, more]

theorem Passed.used (passed : Passed mode fs dataOutput idOutput seen state)
    (used : fs.blockIsUsed blk = true) : Passed mode fs dataOutput idOutput (seen ++ [blk]) state := by
  obtain ⟨sameBlocks, sameIds⟩ := records_skip fs seen blk (by
    simp [dumps, used])
  refine ⟨?_, passed.size, passed.rest, ?_, ?_, ?_, ?_⟩
  · rw [Ext2Filesystem.unused_used used]
    exact passed.advanced
  · rw [sameBlocks]
    exact passed.data
  · rw [sameIds]
    exact passed.ids
  · rw [Ext2Filesystem.unused_used used]
    exact passed.reads
  · rw [Ext2Filesystem.unused_used used]
    exact passed.fits

/-- A read that returns was not in error, and its block is in the buffer. -/
structure Filled (fs : Ext2Filesystem) (seen : List Nat) (blk : Nat) (buffer : List Byte) : Prop where
  holds : buffer = blockRecord fs blk
  fine : (fs.io (fs.calls + (fs.unused seen).length)).errval = 0
  fits : fs.blocksize ≤ 4096

theorem Passed.filled (passed : Passed mode fs dataOutput idOutput seen state)
    (ok : (state.fs.readBlock blk state.blockBuffer 1).status = .ok) :
    Filled fs seen blk (state.fs.readBlock blk state.blockBuffer 1).buffer := by
  rcases state.fs.readBlock_cases blk state.blockBuffer with
    ⟨_, fine, fits, filled⟩ | ⟨threw, _⟩ | ⟨overran, _⟩
  · rw [passed.advanced, Ext2Filesystem.advance_errval] at fine
    rw [passed.advanced, Ext2Filesystem.advance_blocksize, passed.size] at fits
    have holds : state.fs.block blk ++ state.blockBuffer.drop state.fs.blocksize =
        blockRecord fs blk := by
      rw [passed.advanced, Ext2Filesystem.advance_block, Ext2Filesystem.advance_blocksize, passed.rest]
      rfl
    exact ⟨filled.trans holds, fine, fits⟩
  · exact absurd (ok.symm.trans threw) (by simp)
  · exact absurd (ok.symm.trans overran) (by simp)

/-- What a read that returns makes of the state, but for the outputs. -/
theorem Passed.inspect (passed : Passed mode fs dataOutput idOutput seen state)
    (free : fs.blockIsUsed blk = false) {call : ReadCall Ext2Filesystem (List Byte)}
    (made : call = state.fs.readBlock blk state.blockBuffer 1)
    (filled : Filled fs seen blk call.buffer) {after : State}
    (fsAfter : after.fs = call.reader) (bufferAfter : after.blockBuffer = call.buffer)
    (data : after.dataOutput = fed mode.writingBlocks dataOutput (blockRecords fs (seen ++ [blk])))
    (ids : after.idOutput = fed mode.writingIds idOutput (idRecords fs (seen ++ [blk]))) :
    Passed mode fs dataOutput idOutput (seen ++ [blk]) after := by
  have size : call.buffer.length = 4096 := by
    rw [made, Ext2Filesystem.readBlock_length]
    exact passed.size
  refine ⟨?_, bufferAfter ▸ size, ?_, data, ids, ?_, fun _ => filled.fits⟩
  · rw [fsAfter, made, Ext2Filesystem.readBlock_reader, passed.advanced, Ext2Filesystem.unused_free free,
      List.length_append]
    rfl
  · rw [bufferAfter, filled.holds, blockRecord, List.drop_left' (fs.block_length blk)]
  · rw [Ext2Filesystem.unused_free free, List.length_append]
    exact Ext2Filesystem.fine_snoc passed.reads filled.fine

/-- The outputs after a block that has a record. -/
theorem Passed.saved (passed : Passed mode fs dataOutput idOutput seen state)
    (dump : dumps fs blk = true) {call : ReadCall Ext2Filesystem (List Byte)}
    (holds : call.buffer = blockRecord fs blk) :
    (((state.read blk call).inspect blk).save mode blk).dataOutput =
        fed mode.writingBlocks dataOutput (blockRecords fs (seen ++ [blk])) ∧
      (((state.read blk call).inspect blk).save mode blk).idOutput =
        fed mode.writingIds idOutput (idRecords fs (seen ++ [blk])) := by
  obtain ⟨moreBlocks, moreIds⟩ := records_snoc seen dump
  rw [State.save_eq, moreBlocks, moreIds, fed_snoc, fed_snoc, ← passed.data, ← passed.ids, ← holds]
  exact ⟨rfl, rfl⟩

/-- A pass that goes on extends what has been passed. -/
theorem Passed.next {after : State} (passed : Passed mode fs dataOutput idOutput seen state)
    (pass : dumpBlock mode blk state = .next after) :
    Passed mode fs dataOutput idOutput (seen ++ [blk]) after := by
  have map : state.fs.blockIsUsed blk = fs.blockIsUsed blk := by rw [passed.advanced]; rfl
  rcases dumpBlock_cases mode blk state with
    ⟨used, same⟩ | ⟨free, call, made, ⟨_, _, _, left⟩ | ⟨ok, blank, same⟩ |
      ⟨ok, nonzero, saved, save, ⟨_, _, left⟩ | ⟨_, same⟩⟩⟩
  · cases same.symm.trans pass
    exact passed.used (map ▸ used)
  · cases left.symm.trans pass
  · cases same.symm.trans pass
    have filled : Filled fs seen blk call.buffer := made ▸ passed.filled (made ▸ ok)
    rw [filled.holds, allZeroes_blockRecord] at blank
    obtain ⟨sameBlocks, sameIds⟩ := records_skip fs seen blk (by
      simp [dumps, blank])
    refine passed.inspect (map ▸ free) made filled rfl rfl ?_ ?_
    · rw [sameBlocks]
      exact passed.data
    · rw [sameIds]
      exact passed.ids
  · cases left.symm.trans pass
  · cases same.symm.trans pass
    have filled : Filled fs seen blk call.buffer := made ▸ passed.filled (made ▸ ok)
    rw [filled.holds, allZeroes_blockRecord] at nonzero
    have dump : dumps fs blk = true := by simp [dumps, map ▸ free, nonzero]
    obtain ⟨data, ids⟩ := passed.saved dump filled.holds
    rw [save]
    refine passed.inspect (map ▸ free) made filled ?_ ?_ data ids
    · rw [State.save_eq]
      rfl
    · rw [State.save_eq]
      rfl

/-- Both outputs after the records of some blocks. -/
def Holding (mode : Mode) (fs : Ext2Filesystem) (dataOutput idOutput : Sink Byte)
    (blks : List Nat) (state : State) : Prop :=
  state.dataOutput = fed mode.writingBlocks dataOutput (blockRecords fs blks) ∧
    state.idOutput = fed mode.writingIds idOutput (idRecords fs blks)

theorem Passed.holding (passed : Passed mode fs dataOutput idOutput seen state) :
    Holding mode fs dataOutput idOutput seen state := ⟨passed.data, passed.ids⟩

/-- What some call for a block moves does not fit into the buffer of 4096 bytes. -/
def Overruns (fs : Ext2Filesystem) (call : Nat) : Prop :=
  4096 < fs.blocksize ∧ ((fs.io (fs.calls + call)).errval = 0 ∨
    4096 < (fs.io (fs.calls + call)).scribble.length)

theorem Passed.overran_iff (passed : Passed mode fs dataOutput idOutput seen state) (blk : Nat) :
    (state.fs.readBlock blk state.blockBuffer 1).status = .overran ↔
      Overruns fs (fs.unused seen).length := by
  rw [Ext2Filesystem.readBlock_overran_iff, passed.size, passed.advanced]
  rfl

/-- A block with a record at which the program looks at its outputs and finds an error. -/
structure Checked (fs : Ext2Filesystem) (seen : List Nat) (blk : Nat) (final : State) : Prop where
  fine : (fs.io (fs.calls + (fs.unused seen).length)).errval = 0
  fits : fs.blocksize ≤ 4096
  dumped : dumps fs blk = true
  due : blk % 1024 = 0
  bad : final.bad = true

/-- The three ways out of the loop at a block. -/
theorem Passed.left {final : State} {ending : Ending}
    (passed : Passed mode fs dataOutput idOutput seen state)
    (left : dumpBlock mode blk state = .leave final ending) :
    fs.blockIsUsed blk = false ∧
      ((ending = ⟨.terminated "Could not read block", ""⟩ ∧
          (fs.io (fs.calls + (fs.unused seen).length)).errval ≠ 0 ∧
          ¬Overruns fs (fs.unused seen).length ∧
          Holding mode fs dataOutput idOutput seen final) ∨
        (ending = ⟨.undefined, ""⟩ ∧ Overruns fs (fs.unused seen).length ∧
          Holding mode fs dataOutput idOutput seen final) ∨
        (ending = writeError mode.argv0 ∧ Checked fs seen blk final ∧
          Holding mode fs dataOutput idOutput (seen ++ [blk]) final)) := by
  have map : state.fs.blockIsUsed blk = fs.blockIsUsed blk := by rw [passed.advanced]; rfl
  have overran := passed.overran_iff blk
  rcases dumpBlock_cases mode blk state with
    ⟨_, same⟩ | ⟨free, call, made, ⟨failing, _⟩ | ⟨_, _, same⟩ |
      ⟨ok, nonzero, saved, save, ⟨check, bad, same⟩ | ⟨_, same⟩⟩⟩
  · cases same.symm.trans left
  · refine ⟨map ▸ free, ?_⟩
    simp only [dumpBlock, free, Bool.false_eq_true, if_false] at left
    rcases state.fs.readBlock_cases blk state.blockBuffer with
      ⟨ok, _⟩ | ⟨threw, errval⟩ | ⟨past, _⟩
    · rw [← made] at ok
      exact absurd ok failing
    · rw [threw] at left
      cases left
      rw [threw] at overran
      rw [passed.advanced] at errval
      exact Or.inl ⟨rfl, errval, fun past => absurd (overran.mpr past) (by simp), passed.holding⟩
    · rw [past] at left
      cases left
      exact Or.inr (Or.inl ⟨rfl, overran.mp past, passed.holding⟩)
  · cases same.symm.trans left
  · cases same.symm.trans left
    have filled : Filled fs seen blk call.buffer := made ▸ passed.filled (made ▸ ok)
    rw [filled.holds, allZeroes_blockRecord] at nonzero
    have dump : dumps fs blk = true := by simp [dumps, map ▸ free, nonzero]
    refine ⟨map ▸ free, Or.inr (Or.inr ⟨rfl, ⟨filled.fine, filled.fits, dump, check, bad⟩, ?_⟩)⟩
    rw [save]
    exact passed.saved dump filled.holds
  · cases same.symm.trans left

/-- A run is left at some block, or it passes all of them and flushes its outputs. What
every pass keeps holds at that point. -/
theorem dumpBlocks_ends (invariant : List Nat → State → Prop)
    (step : ∀ seen blk state after, invariant seen state →
      dumpBlock mode blk state = .next after → invariant (seen ++ [blk]) after)
    (start : invariant [] (State.start fs dataOutput idOutput)) :
    (∃ seen blk rest state final ending, range fs = seen ++ blk :: rest ∧
        invariant seen state ∧ dumpBlock mode blk state = .leave final ending ∧
        dumpBlocks mode fs dataOutput idOutput = final.outcome ending) ∨
      ∃ final, invariant (range fs) final ∧
        ((final.flush.bad = true ∧ dumpBlocks mode fs dataOutput idOutput =
            final.flush.outcome (writeError mode.argv0)) ∨
          (final.flush.bad = false ∧ dumpBlocks mode fs dataOutput idOutput =
            final.flush.outcome ⟨.returned 0, ""⟩)) := by
  have ends := run_ends invariant step (range fs) start
  rcases dumpBlocks_cases mode fs dataOutput idOutput with
    ⟨other, why, finish, _, same⟩ | ⟨other, finish, outcome⟩
  · rcases ends with
      ⟨final, finished, _⟩ | ⟨seen, blk, rest, state, final, ending, split, passed, left, run_left⟩
    · cases finish.symm.trans finished
    · cases finish.symm.trans run_left
      exact Or.inl ⟨seen, blk, rest, state, _, _, split, passed, left, same⟩
  · rcases ends with
      ⟨final, finished, passed⟩ | ⟨seen, blk, rest, state, final, ending, split, passed, left, run_left⟩
    · cases finish.symm.trans finished
      exact Or.inr ⟨_, passed, outcome⟩
    · cases finish.symm.trans run_left

theorem dumpBlocks_ways (mode : Mode) (fs : Ext2Filesystem) (dataOutput idOutput : Sink Byte) :
    (∃ seen blk rest state final ending, range fs = seen ++ blk :: rest ∧
        Passed mode fs dataOutput idOutput seen state ∧
        dumpBlock mode blk state = .leave final ending ∧
        dumpBlocks mode fs dataOutput idOutput = final.outcome ending) ∨
      ∃ final, Passed mode fs dataOutput idOutput (range fs) final ∧
        ((final.flush.bad = true ∧ dumpBlocks mode fs dataOutput idOutput =
            final.flush.outcome (writeError mode.argv0)) ∨
          (final.flush.bad = false ∧ dumpBlocks mode fs dataOutput idOutput =
            final.flush.outcome ⟨.returned 0, ""⟩)) :=
  dumpBlocks_ends (Passed mode fs dataOutput idOutput) (fun _ _ _ _ passed pass => passed.next pass)
    passed_start

/-! What a stream has brought to its file by the end of a run. -/

/-- A stream at the end, with the flush and the close if the run has come to them. -/
def Ends (writing : Bool) (sink : Sink Byte) (records : List (List Byte)) (last : Sink Byte) : Prop :=
  ∃ written, (written = fed writing sink records ∨ written = (fed writing sink records).flush) ∧
    (last = written.close ∨ last = written)

theorem records_prefix (fs : Ext2Filesystem) {blks whole : List Nat} (first : blks <+: whole) :
    blockRecords fs blks <+: blockRecords fs whole ∧ idRecords fs blks <+: idRecords fs whole :=
  ⟨(first.filter _).map _, (first.filter _).map _⟩

/-- The end of the program closes its outputs or leaves them as they are. -/
theorem outcome_ends {state : State} {blocks numbers : List (List Byte)}
    (data : state.dataOutput = fed mode.writingBlocks dataOutput blocks ∨
      state.dataOutput = (fed mode.writingBlocks dataOutput blocks).flush)
    (ids : state.idOutput = fed mode.writingIds idOutput numbers ∨
      state.idOutput = (fed mode.writingIds idOutput numbers).flush) (ending : Ending) :
    Ends mode.writingBlocks dataOutput blocks (state.outcome ending).dataOutput ∧
      Ends mode.writingIds idOutput numbers (state.outcome ending).idOutput := by
  rcases state.atEnd_outputs ending.exit with ⟨dataLast, idsLast⟩ | ⟨dataLast, idsLast⟩
  · exact ⟨⟨_, data, Or.inl dataLast⟩, ⟨_, ids, Or.inl idsLast⟩⟩
  · exact ⟨⟨_, data, Or.inr dataLast⟩, ⟨_, ids, Or.inr idsLast⟩⟩

theorem Holding.ends {final : State} {blks : List Nat}
    (holding : Holding mode fs dataOutput idOutput blks final) (ending : Ending) :
    Ends mode.writingBlocks dataOutput (blockRecords fs blks) (final.outcome ending).dataOutput ∧
      Ends mode.writingIds idOutput (idRecords fs blks) (final.outcome ending).idOutput :=
  outcome_ends (Or.inl holding.1) (Or.inl holding.2) ending

end

/-- An output at the end of a run that should have brought `whole` to its file. -/
structure Delivered (file : Option (Nat → SinkEvent)) (name : String) (whole : List Byte)
    (last : Sink Byte) : Prop where
  accepted : last.accepted <+: whole
  remains : ∀ device, file = some device → Remains device whole last.file
  nothing : name = "" ∨ file = none → last.file = []

theorem delivered_empty {file : Option (Nat → SinkEvent)} {name : String} {whole : List Byte}
    {last : Sink Byte} (empty : last.accepted = [] ∧ last.file = []) :
    Delivered file name whole last where
  accepted := empty.1 ▸ List.nil_prefix
  remains _ _ := ⟨[], [], empty.2, List.nil_prefix, List.nil_infix, fun _ => rfl⟩
  nothing _ := empty.2

/-- Neither the flush nor the close does anything to a stream that was never opened. -/
theorem ends_unopened {records : List (List Byte)} {last : Sink Byte}
    (ends : Ends false Sink.unopened records last) : last = Sink.unopened := by
  obtain ⟨written, flushed, closed⟩ := ends
  have same : written = Sink.unopened := by
    rcases flushed with rfl | rfl <;> rfl
  subst same
  rcases closed with rfl | rfl <;> rfl

theorem flatten_begins {β : Type*} {records whole : List (List β)} (first : records <+: whole) :
    records.flatten <+: whole.flatten := by
  obtain ⟨rest, rfl⟩ := first
  rw [List.flatten_append]
  exact List.prefix_append _ _

theorem ends_opened {device : Nat → SinkEvent} {records whole : List (List Byte)}
    {last : Sink Byte} (ends : Ends true (Sink.opened device) records last)
    (first : records <+: whole) :
    last.accepted <+: whole.flatten ∧ Remains device whole.flatten last.file := by
  obtain ⟨written, flushed, closed⟩ := ends
  have fresh : (Sink.opened device : Sink Byte).Within whole.flatten :=
    Sink.within_fresh rfl rfl rfl rfl
  have given : ((Sink.opened device).feed records).Within whole.flatten :=
    fresh.feed records (flatten_begins first)
  have within : written.Within whole.flatten ∧ written.device = device := by
    rcases flushed with rfl | rfl
    · exact ⟨given, Sink.feed_device _ _⟩
    · exact ⟨given.flush, (Sink.flush_device _).trans (Sink.feed_device _ _)⟩
  rw [← within.2]
  rcases closed with rfl | rfl
  · rw [Sink.close_accepted]
    exact ⟨within.1.accepted, within.1.close⟩
  · exact ⟨within.1.accepted, within.1.remains⟩

theorem Ends.delivered {open_file : String → Option (Nat → SinkEvent)} {name : String}
    {sink last : Sink Byte} {records whole : List (List Byte)}
    (ends : Ends (name != "") sink records last) (opened : openOutput open_file name = some sink)
    (first : records <+: whole) : Delivered (open_file name) name whole.flatten last := by
  rcases openOutput_cases opened with ⟨rfl, rfl⟩ | ⟨named, device, found, rfl⟩
  · exact delivered_empty (ends_unopened ends ▸ ⟨rfl, rfl⟩)
  · have writing : (name != "") = true := by simpa using named
    rw [writing] at ends
    obtain ⟨accepted, remains⟩ := ends_opened ends first
    refine ⟨accepted, ?_, ?_⟩
    · intro other foundToo
      obtain rfl : device = other := Option.some.inj (found.symm.trans foundToo)
      exact remains
    · rintro (unnamed | unopened)
      · exact absurd unnamed named
      · cases found.symm.trans unopened

/-- Nothing has been read. -/
def Idle (outcome : Dump.Outcome) : Prop := outcome.reads = [] ∧ outcome.inspected = []

/-- Nothing has been written. -/
structure Unwritten (outcome : Dump.Outcome) : Prop where
  data : outcome.dataOutput.accepted = [] ∧ outcome.dataOutput.file = []
  ids : outcome.idOutput.accepted = [] ∧ outcome.idOutput.file = []

/-- With the filesystem open, `main` reports what is missing or goes on to the blocks. -/
theorem main_ways {host : Host} {argv : List String} {options : Options} {fs : Ext2Filesystem}
    (parsed : host.parse argv = .ok options) (opened : host.ext2fsOpen options.input = .opened fs) :
    ((main host argv).ending.exit = .returned 1 ∧ Unwritten (main host argv) ∧
        Idle (main host argv) ∧
        ((options.output = "" ∧ options.table = "") ∨
          openOutput host.dataFile options.output = none ∨
          openOutput host.idFile options.table = none)) ∨
      ((options.output ≠ "" ∨ options.table ≠ "") ∧ ∃ dataOutput idOutput,
        openOutput host.dataFile options.output = some dataOutput ∧
        openOutput host.idFile options.table = some idOutput ∧
        main host argv = dumpBlocks (modeOf argv options) fs dataOutput idOutput) := by
  simp only [main, parsed, opened, Ext2Filesystem.construct]
  by_cases neither : options.output = "" ∧ options.table = ""
  · rw [if_pos neither]
    exact Or.inl ⟨rfl, ⟨⟨rfl, rfl⟩, ⟨rfl, rfl⟩⟩, ⟨rfl, rfl⟩, Or.inl neither⟩
  · rw [if_neg neither]
    cases data : openOutput host.dataFile options.output with
    | none =>
      exact Or.inl ⟨rfl, ⟨⟨rfl, rfl⟩, ⟨rfl, rfl⟩⟩, ⟨rfl, rfl⟩, Or.inr (Or.inl rfl)⟩
    | some dataOutput =>
      cases ids : openOutput host.idFile options.table with
      | none =>
        exact Or.inl ⟨rfl, ⟨openOutput_empty data, ⟨rfl, rfl⟩⟩, ⟨rfl, rfl⟩, Or.inr (Or.inr rfl)⟩
      | some idOutput =>
        refine Or.inr ⟨?_, dataOutput, idOutput, rfl, rfl, rfl⟩
        by_cases unnamed : options.output = ""
        · exact Or.inr (fun untabled => neither ⟨unnamed, untabled⟩)
        · exact Or.inl unnamed

section
variable {host : Host} {argv : List String} {options : Options} {fs : Ext2Filesystem}
  (parsed : host.parse argv = .ok options) (opened : host.ext2fsOpen options.input = .opened fs)
include parsed opened

end

/-- The failures of the device of an output last, if it has one. -/
def FailuresLast (file : Option (Nat → SinkEvent)) : Prop :=
  ∀ device, file = some device → Lasting device

theorem Delivered.truncated {file : Option (Nat → SinkEvent)} {name : String} {whole : List Byte}
    {last : Sink Byte} (delivered : Delivered file name whole last) (lasting : FailuresLast file) :
    last.file <+: whole := by
  cases found : file with
  | none => exact delivered.nothing (Or.inr found) ▸ List.nil_prefix
  | some device => exact (delivered.remains device found).truncated (lasting device found)

/-- A machine on which the first record of the data file stays in the buffer, and the
write of the second one fails in the middle. -/
def failingHost (later : SinkEvent) (fs : Ext2Filesystem) : Host :=
  { workingHost fs with
    dataFile := fun _ => some (fun
      | 0 => .done 0
      | 1 => .failed 5000
      | _ => later) }

end MinecraftCarve.DumpRuns
