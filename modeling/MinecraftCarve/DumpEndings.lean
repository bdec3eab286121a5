import MinecraftCarve.DumpRuns

/-! When `dump_unused_blocks` reports success and when it writes past its buffer, both
exactly: in terms of the answers of the filesystem and of the two outputs alone. -/

namespace MinecraftCarve.DumpEndings
open SectorWords Library.StickySink Library.Loops Dump DumpRuns

/-- An output takes `count` records and the flush behind them, if it is asked for. -/
def Delivers (file : Option (Nat → SinkEvent)) (name : String) (count : Nat) : Prop :=
  name ≠ "" → ∃ device, file = some device ∧ ∀ index ≤ count, (device index).Done

theorem delivers_iff {open_file : String → Option (Nat → SinkEvent)} {name : String}
    {sink : Sink Byte} (opened : openOutput open_file name = some sink) (records : List (List Byte)) :
    (fed (name != "") sink records).flush.bad = false ↔
      Delivers (open_file name) name records.length := by
  rcases openOutput_cases opened with ⟨rfl, rfl⟩ | ⟨named, device, found, rfl⟩
  · exact iff_of_true rfl (fun named => absurd rfl named)
  · have writing : (name != "") = true := by simpa using named
    rw [fed, if_pos writing, Sink.feed_flush_good_iff]
    constructor
    · exact fun all _ => ⟨device, found, all⟩
    · intro delivers
      obtain ⟨other, same, all⟩ := delivers named
      cases found.symm.trans same
      exact all

/-- An output that shows a failure shows it to the end. -/
theorem fed_bad {writing : Bool} {sink : Sink Byte} {records whole : List (List Byte)}
    (first : records <+: whole) (bad : (fed writing sink records).bad = true) :
    (fed writing sink whole).flush.bad = true := by
  obtain ⟨rest, rfl⟩ := first
  cases writing with
  | false =>
    have same : sink.flush = sink := if_pos bad
    change sink.flush.bad = true
    rw [same]
    exact bad
  | true =>
    change (sink.feed (records ++ rest)).flush.bad = true
    have failed : (sink.feed records).bad = true := bad
    have same : (sink.feed records).flush = sink.feed records := if_pos failed
    rw [Sink.feed_append, Sink.feed_bad failed, same]
    exact failed

theorem records_length (fs : Ext2Filesystem) :
    (blockRecords fs (range fs)).length = (dumped fs).length ∧
      (idRecords fs (range fs)).length = (dumped fs).length :=
  ⟨List.length_map .., List.length_map ..⟩

/-- Every read of an unallocated block comes back without an error. -/
def ReadsFine (fs : Ext2Filesystem) : Prop :=
  ∀ index < (fs.unused (range fs)).length, (fs.io (fs.calls + index)).errval = 0

/-- What it takes for the dump to succeed. -/
structure Succeeds (host : Host) (options : Options) (fs : Ext2Filesystem) : Prop where
  requested : options.output ≠ "" ∨ options.table ≠ ""
  reads : ReadsFine fs
  fits : fs.unused (range fs) ≠ [] → fs.blocksize ≤ 4096
  data : Delivers (host.dataFile options.output) options.output (dumped fs).length
  ids : Delivers (host.idFile options.table) options.table (dumped fs).length

theorem openOutput_delivered {open_file : String → Option (Nat → SinkEvent)} {name : String}
    {count : Nat} (delivers : Delivers (open_file name) name count) :
    openOutput open_file name ≠ none := by
  unfold openOutput
  by_cases unnamed : name = ""
  · rw [if_pos unnamed]
    simp
  · obtain ⟨device, found, _⟩ := delivers unnamed
    rw [if_neg unnamed, found]
    simp

/-- A block at which a run stops counts among the unallocated ones. -/
theorem unused_before {fs : Ext2Filesystem} {seen rest : List Nat} {blk : Nat}
    (split : range fs = seen ++ blk :: rest) (free : fs.blockIsUsed blk = false) :
    (fs.unused seen).length < (fs.unused (range fs)).length ∧ fs.unused (range fs) ≠ [] := by
  rw [split, Ext2Filesystem.unused_split free]
  refine ⟨?_, by simp⟩
  rw [List.length_append, List.length_cons]
  omega

section
variable {fs : Ext2Filesystem} {mode : Mode} {dataOutput idOutput : Sink Byte}

/-- A run over the blocks succeeds just when it reads all it has to and its outputs
take all they are given. -/
theorem dumpBlocks_succeeds_iff (mode : Mode) (fs : Ext2Filesystem) (dataOutput idOutput : Sink Byte) :
    (dumpBlocks mode fs dataOutput idOutput).ending.exit = .returned 0 ↔
      ReadsFine fs ∧ (fs.unused (range fs) ≠ [] → fs.blocksize ≤ 4096) ∧
        (fed mode.writingBlocks dataOutput (blockRecords fs (range fs))).flush.bad = false ∧
        (fed mode.writingIds idOutput (idRecords fs (range fs))).flush.bad = false := by
  rcases dumpBlocks_ways mode fs dataOutput idOutput with
    ⟨seen, blk, rest, state, final, ending, split, passed, left, same⟩ |
      ⟨final, passed, ⟨bad, same⟩ | ⟨good, same⟩⟩
  · have failing : (dumpBlocks mode fs dataOutput idOutput).ending.exit ≠ .returned 0 := by
      rw [same]
      exact dumpBlock_left left
    refine iff_of_false failing ?_
    rintro ⟨reads, fits, dataGood, idsGood⟩
    obtain ⟨free, ways⟩ := passed.left left
    obtain ⟨early, nonempty⟩ := unused_before split free
    rcases ways with ⟨_, errval, _⟩ | ⟨_, ⟨tooLong, _⟩, _⟩ | ⟨_, checked, data, ids⟩
    · exact errval (reads _ early)
    · have bound := fits nonempty
      omega
    · have upTo : seen ++ [blk] <+: range fs := ⟨rest, by rw [split, ← List.append_cons]⟩
      obtain ⟨blocks, numbers⟩ := records_prefix fs upTo
      rcases Bool.or_eq_true_iff.mp checked.bad with idBad | dataBad
      · rw [ids] at idBad
        exact absurd (fed_bad numbers idBad) (by rw [idsGood]; simp)
      · rw [data] at dataBad
        exact absurd (fed_bad blocks dataBad) (by rw [dataGood]; simp)
  · rw [same]
    refine iff_of_false (by simp [State.outcome, writeError]) ?_
    rintro ⟨_, _, dataGood, idsGood⟩
    rw [← passed.data] at dataGood
    rw [← passed.ids] at idsGood
    have fine : final.flush.bad = false := Bool.or_eq_false_iff.mpr ⟨idsGood, dataGood⟩
    cases fine.symm.trans bad
  · obtain ⟨idsGood, dataGood⟩ := Bool.or_eq_false_iff.mp good
    rw [same]
    refine iff_of_true rfl ⟨passed.reads, passed.fits, ?_, ?_⟩
    · rw [← passed.data]
      exact dataGood
    · rw [← passed.ids]
      exact idsGood

/-- The buffer is overrun by the first read of all or never. -/
theorem dumpBlocks_overruns_iff (mode : Mode) (fs : Ext2Filesystem) (dataOutput idOutput : Sink Byte) :
    (dumpBlocks mode fs dataOutput idOutput).ending.exit = .undefined ↔
      fs.unused (range fs) ≠ [] ∧ Overruns fs 0 := by
  rcases dumpBlocks_ways mode fs dataOutput idOutput with
    ⟨seen, blk, rest, state, final, ending, split, passed, left, same⟩ | ⟨final, passed, flushed⟩
  · obtain ⟨free, ways⟩ := passed.left left
    obtain ⟨_, nonempty⟩ := unused_before split free
    have first : 4096 < fs.blocksize → (fs.unused seen).length = 0 := by
      intro tooLong
      by_contra some_read
      have bound := passed.fits (fun none => some_read (by rw [none]; rfl))
      omega
    rw [same]
    rcases ways with ⟨rfl, _, room, _⟩ | ⟨rfl, past, _⟩ | ⟨rfl, checked, _⟩
    · refine iff_of_false (by simp [State.outcome]) ?_
      rintro ⟨_, past⟩
      rw [first past.1] at room
      exact room past
    · rw [first past.1] at past
      exact iff_of_true rfl ⟨nonempty, past⟩
    · refine iff_of_false (by simp [State.outcome, writeError]) ?_
      rintro ⟨_, tooLong, _⟩
      have fits := checked.fits
      omega
  · have returned : (dumpBlocks mode fs dataOutput idOutput).ending.exit ≠ .undefined := by
      rcases flushed with ⟨_, same⟩ | ⟨_, same⟩
      · rw [same]
        simp [State.outcome, writeError]
      · rw [same]
        simp [State.outcome]
    refine iff_of_false returned ?_
    rintro ⟨nonempty, tooLong, _⟩
    have bound := passed.fits nonempty
    omega

end

/-- The dump reports success if and only if an output is asked for, the blocks fit the
buffer, no read of an unallocated block is in error, and each output asked for opens
and takes every record and the flush. -/
theorem success_iff (host : Host) (argv : List String) (options : Options) (fs : Ext2Filesystem)
    (parsed : host.parse argv = .ok options) (opened : host.ext2fsOpen options.input = .opened fs) :
    (main host argv).ending.exit = .returned 0 ↔ Succeeds host options fs := by
  rcases main_ways parsed opened with
    ⟨failing, _, _, missing⟩ | ⟨requested, dataOutput, idOutput, data, ids, same⟩
  · refine iff_of_false (by rw [failing]; simp) ?_
    intro succeeds
    rcases missing with ⟨unnamed, untabled⟩ | noData | noIds
    · rcases succeeds.requested with named | tabled
      · exact named unnamed
      · exact tabled untabled
    · exact openOutput_delivered succeeds.data noData
    · exact openOutput_delivered succeeds.ids noIds
  · obtain ⟨blockCount, idCount⟩ := records_length fs
    have dataGood := delivers_iff data (blockRecords fs (range fs))
    have idsGood := delivers_iff ids (idRecords fs (range fs))
    rw [blockCount] at dataGood
    rw [idCount] at idsGood
    rw [same, dumpBlocks_succeeds_iff]
    constructor
    · rintro ⟨reads, fits, dataFine, idsFine⟩
      exact ⟨requested, reads, fits, dataGood.mp dataFine, idsGood.mp idsFine⟩
    · intro succeeds
      exact ⟨succeeds.reads, succeeds.fits, dataGood.mpr succeeds.data, idsGood.mpr succeeds.ids⟩

theorem fourBlock_success_iff :
    (main (workingHost fourBlockFs) ["dump_unused_blocks"]).ending.exit = .returned 0 ↔
      Succeeds (workingHost fourBlockFs) bothOutputs fourBlockFs :=
  success_iff (workingHost fourBlockFs) ["dump_unused_blocks"] bothOutputs fourBlockFs rfl rfl

/-- The dump writes past its buffer if and only if it comes to the blocks at all, some
block is unallocated, blocks are longer than 4096 bytes, and the first read succeeds or
fails only after it has moved more than 4096 bytes. -/
theorem overrun_iff (host : Host) (argv : List String) (options : Options) (fs : Ext2Filesystem)
    (parsed : host.parse argv = .ok options) (opened : host.ext2fsOpen options.input = .opened fs) :
    (main host argv).ending.exit = .undefined ↔
      (options.output ≠ "" ∨ options.table ≠ "") ∧
        (options.output ≠ "" → host.dataFile options.output ≠ none) ∧
        (options.table ≠ "" → host.idFile options.table ≠ none) ∧
        fs.unused (range fs) ≠ [] ∧ Overruns fs 0 := by
  have openOutput_none : ∀ (open_file : String → Option (Nat → SinkEvent)) name,
      openOutput open_file name = none ↔ name ≠ "" ∧ open_file name = none := by
    intro open_file name
    unfold openOutput
    by_cases unnamed : name = ""
    · simp [unnamed]
    · simp [unnamed]
  rcases main_ways parsed opened with
    ⟨failing, _, _, missing⟩ | ⟨requested, dataOutput, idOutput, data, ids, same⟩
  · refine iff_of_false (by rw [failing]; simp) ?_
    rintro ⟨requested, dataOpens, idsOpen, _⟩
    rcases missing with ⟨unnamed, untabled⟩ | noData | noIds
    · rcases requested with named | tabled
      · exact named unnamed
      · exact tabled untabled
    · obtain ⟨named, none⟩ := (openOutput_none _ _).mp noData
      exact dataOpens named none
    · obtain ⟨tabled, none⟩ := (openOutput_none _ _).mp noIds
      exact idsOpen tabled none
  · have opens : ∀ {open_file : String → Option (Nat → SinkEvent)} {name : String} {sink},
        openOutput open_file name = some sink → name ≠ "" → open_file name ≠ none := by
      intro open_file name sink found named none
      cases found.symm.trans ((openOutput_none _ _).mpr ⟨named, none⟩)
    rw [same, dumpBlocks_overruns_iff]
    constructor
    · rintro ⟨nonempty, past⟩
      exact ⟨requested, opens data, opens ids, nonempty, past⟩
    · rintro ⟨_, _, _, nonempty, past⟩
      exact ⟨nonempty, past⟩

/-- A filesystem with blocks of 8kB, of which one is free. -/
def eightKilobyteFs : Ext2Filesystem :=
  Ext2Filesystem.ofImage 3 0 1 (fun _ => false) (fun _ => 0)

theorem eightKilobyte_overrun :
    (main (workingHost eightKilobyteFs) ["dump_unused_blocks"]).ending.exit = .undefined :=
  (overrun_iff (workingHost eightKilobyteFs) ["dump_unused_blocks"] bothOutputs eightKilobyteFs
    rfl rfl).mpr ⟨Or.inl (by decide), fun _ => by simp [workingHost], fun _ => by simp [workingHost],
      by decide, by decide, Or.inl rfl⟩

end MinecraftCarve.DumpEndings
