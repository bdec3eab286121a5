import MinecraftCarve.ScanReport

/-! A scan over a filesystem on whose channel reads may fail. The first call that comes
back with an error decides where the scan breaks off, and with it the whole outcome. -/

namespace MinecraftCarve.ScanErrors
open SectorWords Report ScanReport Library.Loops

/-- The first of `count` calls that comes back with an error. -/
def firstError (fs : Ext2Filesystem) (count : Nat) : Option Nat :=
  (List.range count).find? (fun index => (fs.io (fs.calls + index)).errval != 0)

/-- What is printed before a scan breaks off: the line of a group may have been begun. -/
def begun (examined : List Examination) : String :=
  ((examined.map Examination.visit).foldl Printer.visit Printer.empty).cout

/-- The outcome of a scan, by the blocks to be examined and the errors of the channel. -/
def predicted (config : Config) (reader : Ext2BlockReader) : Outcome :=
  let blks := reader.space.candidates
  match firstError reader.e2fs blks.length with
  | none =>
    let examined := blks.map (reader.space.examination config)
    ⟨.returned 0, text (lines (findings examined)), examined, blks.map Transfer.whole⟩
  | some index =>
    let examined := (blks.take index).map (reader.space.examination config)
    ⟨.terminated "Could not read block", begun examined, examined,
      (blks.take (index + 1)).map Transfer.whole⟩

/-- The state after the blocks in `seen`, as long as the loop has not been left. -/
structure Passed (config : Config) (reader : Ext2BlockReader) (seen : List Nat)
    (scan : Scan Ext2BlockReader) : Prop where
  advanced : scan.reader.e2fs = reader.e2fs.advance (reader.e2fs.unused seen).length
  examined : scan.examined = (reader.e2fs.unused seen).map (reader.space.examination config)
  reads : scan.reads = (reader.e2fs.unused seen).map Transfer.whole
  fine : ∀ index < (reader.e2fs.unused seen).length,
    (reader.e2fs.io (reader.e2fs.calls + index)).errval = 0

theorem read_reads (scan : Scan Ext2BlockReader) (blk : Nat) :
    (scan.read blk (BlockReader.readBlock scan.reader blk scan.sectorBuffer)).reads =
      scan.reads ++ [Transfer.whole blk] := by
  have requested : (scan.reader.e2fs.readBlock blk scan.sectorBuffer.bytes 1).requested =
      BLOCKSIZE := by
    rw [Ext2Filesystem.readBlock_requested, Ext2Filesystem.transferSize_one]
    exact scan.reader.fourK
  exact congrArg (fun size => scan.reads ++ [(⟨blk, size, BLOCKSIZE⟩ : Transfer)]) requested

section
variable {config : Config} {reader : Ext2BlockReader} {seen : List Nat}
  {scan : Scan Ext2BlockReader} {blk : Nat}

theorem Passed.allocated (passed : Passed config reader seen scan) (blk : Nat) :
    BlockReader.isAllocated scan.reader blk = reader.e2fs.blockIsUsed blk := by
  change scan.reader.e2fs.blockIsUsed blk = _
  rw [passed.advanced]
  rfl

/-- The read of the next free block gives it, or throws on the next call's error. -/
theorem Passed.read_cases (passed : Passed config reader seen scan) (blk : Nat) :
    ((BlockReader.readBlock scan.reader blk scan.sectorBuffer).status = .ok ∧
        (reader.e2fs.io (reader.e2fs.calls + (reader.e2fs.unused seen).length)).errval = 0 ∧
        (BlockReader.readBlock scan.reader blk scan.sectorBuffer).buffer =
          reader.space.contents blk) ∨
      ((BlockReader.readBlock scan.reader blk scan.sectorBuffer).status =
          .threw "Could not read block" ∧
        (reader.e2fs.io (reader.e2fs.calls + (reader.e2fs.unused seen).length)).errval ≠ 0) := by
  have errval : scan.reader.e2fs.errval =
      (reader.e2fs.io (reader.e2fs.calls + (reader.e2fs.unused seen).length)).errval := by
    rw [passed.advanced, Ext2Filesystem.advance_errval]
  rcases scan.reader.readBlock_cases blk scan.sectorBuffer with ⟨ok, fine, filled⟩ | ⟨threw, failed⟩
  · rw [passed.advanced, Ext2Filesystem.advance_block] at filled
    exact Or.inl ⟨ok, errval ▸ fine, BlockBuffer.eq_of_bytes filled⟩
  · exact Or.inr ⟨threw, errval ▸ failed⟩

theorem Passed.next {after : Scan Ext2BlockReader} (passed : Passed config reader seen scan)
    (pass : scanBlock config blk scan = .next after) :
    Passed config reader (seen ++ [blk]) after := by
  have answer := passed.allocated blk
  rcases scanBlock_cases config blk scan with
    ⟨used, same⟩ | ⟨free, call, made, ⟨ok, same⟩ | ⟨_, _, _, left⟩⟩
  · cases same.symm.trans pass
    rw [answer] at used
    have kept := Ext2Filesystem.unused_used used seen
    refine ⟨?_, ?_, ?_, ?_⟩
    all_goals rw [kept]
    · exact passed.advanced
    · exact passed.examined
    · exact passed.reads
    · exact passed.fine
  · cases same.symm.trans pass
    rw [answer] at free
    have more := Ext2Filesystem.unused_free free seen
    rcases passed.read_cases blk with ⟨_, fine, filled⟩ | ⟨threw, _⟩
    · refine ⟨?_, ?_, ?_, ?_⟩
      all_goals rw [more]
      · rw [made, List.length_append]
        change scan.reader.e2fs.next = _
        rw [passed.advanced]
        rfl
      · rw [made, filled, List.map_append, ← passed.examined]
        rfl
      · rw [List.map_append, ← passed.reads, made]
        exact read_reads scan blk
      · rw [List.length_append]
        exact Ext2Filesystem.fine_snoc passed.fine fine
    · rw [made] at ok
      exact absurd (ok.symm.trans threw) (by simp)
  · cases left.symm.trans pass

/-- The loop is only left by the exception of a failing read. -/
theorem Passed.left {final : Scan Ext2BlockReader} {exit : Exit}
    (passed : Passed config reader seen scan)
    (left : scanBlock config blk scan = .leave final exit) :
    reader.e2fs.blockIsUsed blk = false ∧
      (reader.e2fs.io (reader.e2fs.calls + (reader.e2fs.unused seen).length)).errval ≠ 0 ∧
      exit = .terminated "Could not read block" ∧ final.examined = scan.examined ∧
      final.reads = scan.reads ++ [Transfer.whole blk] := by
  have answer := passed.allocated blk
  rcases scanBlock_cases config blk scan with
    ⟨_, same⟩ | ⟨free, call, made, ⟨_, same⟩ | ⟨failed, _, _, _⟩⟩
  · cases same.symm.trans left
  · cases same.symm.trans left
  · rcases passed.read_cases blk with ⟨ok, _⟩ | ⟨threw, errval⟩
    · rw [made] at failed
      exact absurd ok failed
    · simp only [scanBlock, free, Bool.false_eq_true, if_false, threw] at left
      cases left
      exact ⟨answer ▸ free, errval, rfl, rfl, read_reads scan blk⟩

end

theorem passed_start (config : Config) (memory : BlockBuffer) (reader : Ext2BlockReader) :
    Passed config reader [] (Scan.start memory reader) :=
  ⟨rfl, rfl, rfl, fun index early => absurd early (Nat.not_lt_zero index)⟩

theorem unused_scanned (reader : Ext2BlockReader) :
    reader.e2fs.unused (scanned reader) = reader.space.candidates := by
  have limit : maxBlk reader = min reader.space.count 400000 := by
    change (if 400000 < reader.space.count then 400000 else reader.space.count) = _
    split <;> omega
  rw [scanned, limit]
  rfl

theorem firstError_none {fs : Ext2Filesystem} {count : Nat} :
    firstError fs count = none ↔ ∀ index < count, (fs.io (fs.calls + index)).errval = 0 := by
  simp [firstError]

theorem firstError_some {fs : Ext2Filesystem} {count index : Nat} (early : index < count)
    (errval : (fs.io (fs.calls + index)).errval ≠ 0)
    (fine : ∀ before < index, (fs.io (fs.calls + before)).errval = 0) :
    firstError fs count = some index := by
  rw [firstError, List.find?_range_eq_some]
  exact ⟨by simpa using errval, List.mem_range.mpr early, fun before earlier => by
    simpa using fine before earlier⟩

theorem predicted_whole (config : Config) {reader : Ext2BlockReader}
    (fine : ∀ index < reader.space.candidates.length,
      (reader.e2fs.io (reader.e2fs.calls + index)).errval = 0) :
    predicted config reader =
      ⟨.returned 0,
        text (lines (findings (reader.space.candidates.map (reader.space.examination config)))),
        reader.space.candidates.map (reader.space.examination config),
        reader.space.candidates.map Transfer.whole⟩ := by
  rw [predicted, firstError_none.mpr fine]

/-- The outcome if the read of `blk` is the first to come back with an error. -/
theorem predicted_cut (config : Config) {reader : Ext2BlockReader} {read rest : List Nat} {blk : Nat}
    (candidates : reader.space.candidates = read ++ blk :: rest)
    (fine : ∀ index < read.length, (reader.e2fs.io (reader.e2fs.calls + index)).errval = 0)
    (errval : (reader.e2fs.io (reader.e2fs.calls + read.length)).errval ≠ 0) :
    predicted config reader =
      ⟨.terminated "Could not read block", begun (read.map (reader.space.examination config)),
        read.map (reader.space.examination config), (read ++ [blk]).map Transfer.whole⟩ := by
  have early : read.length < reader.space.candidates.length := by
    rw [candidates, List.length_append, List.length_cons]
    omega
  have taken : reader.space.candidates.take read.length = read := by rw [candidates, List.take_left]
  have takenNext : reader.space.candidates.take (read.length + 1) = read ++ [blk] := by
    rw [candidates, List.append_cons, List.take_left' (by simp)]
  simp only [predicted, firstError_some early errval fine, taken, takenNext]

/-- Whatever the channel answers, the outcome is the predicted one: the blocks before the
first error are examined as they are, and only an error keeps a scan from its end. -/
theorem scan_predicted (config : Config) (memory : BlockBuffer) (reader : Ext2BlockReader) :
    scan config memory reader = predicted config reader := by
  have ends := run_ends (fun seen scan => Passed config reader seen scan)
    (fun _ _ _ _ passed pass => passed.next pass) (scanned reader)
    (passed_start config memory reader)
  have recorded := run_recorded config memory reader (scanned reader)
  rcases ends with
    ⟨final, finish, passed⟩ | ⟨seen, blk, rest, state, final, exit, split, passed, left, run_left⟩
  · rw [finish] at recorded
    rw [List.nil_append] at passed
    obtain ⟨_, examined, reads, fine⟩ := passed
    rw [unused_scanned] at examined reads fine
    have printed : final.printer =
        (final.examined.map Examination.visit).foldl Printer.visit Printer.empty := recorded.printed
    have cout : final.printer.endGroup.cout = text (lines (findings final.examined)) := by
      rw [printed]
      exact congrArg Printer.cout (printVisits_eq (final.examined.map Examination.visit))
    have outcome : scan config memory reader =
        ⟨.returned 0, final.printer.endGroup.cout, final.examined, final.reads⟩ := by
      rw [scan, finish]
      rfl
    rw [outcome, predicted_whole config fine, cout, examined, reads]
  · rw [run_left] at recorded
    obtain ⟨free, errval, rfl, examined, reads⟩ := passed.left left
    rw [List.nil_append] at passed errval
    have candidates : reader.space.candidates =
        reader.e2fs.unused seen ++ blk :: reader.e2fs.unused rest := by
      rw [← unused_scanned, split, Ext2Filesystem.unused_split free]
    have cout : final.printer.cout = begun final.examined := congrArg Printer.cout recorded.printed
    have outcome : scan config memory reader = ⟨.terminated "Could not read block",
        final.printer.cout, final.examined, final.reads⟩ := by
      rw [scan, run_left]
      rfl
    rw [outcome, predicted_cut config candidates passed.fine errval, cout, examined, reads,
      passed.examined, passed.reads, List.map_append]
    rfl

/-! The beginning of a scan that would have ended. -/

theorem begun_prefix {examined whole : List Examination} (first : examined <+: whole) :
    (begun examined).toList <+: (text (lines (findings whole))).toList := by
  obtain ⟨rest, rfl⟩ := first
  have printed : (printVisits ((examined ++ rest).map Examination.visit)).cout =
      text (lines (findings (examined ++ rest))) :=
    congrArg Printer.cout (printVisits_eq ((examined ++ rest).map Examination.visit))
  rw [← printed, printVisits, List.map_append, List.foldl_append]
  exact (visits_grow _ _).trans (endGroup_grows _)

/-- The filesystem on a channel without errors. -/
def quieted (reader : Ext2BlockReader) : Ext2BlockReader :=
  ⟨{ reader.e2fs with io := fun _ => ⟨0, []⟩ }, reader.fourK⟩

theorem quieted_space (reader : Ext2BlockReader) : (quieted reader).space = reader.space := rfl

/-- Errors of the channel cost a scan its end and nothing else: what it examines and what
it prints are the beginning of what it would have without them, up to the block at
which the first error comes. -/
structure CutShort (reader : Ext2BlockReader) (outcome whole : Outcome) : Prop where
  exit : outcome.exit =
    match firstError reader.e2fs reader.space.candidates.length with
    | none => .returned 0
    | some _ => .terminated "Could not read block"
  examined : outcome.examined = whole.examined.take
    ((firstError reader.e2fs reader.space.candidates.length).getD reader.space.candidates.length)
  reads : outcome.reads <+: whole.reads ∧
    (outcome.exit ≠ .returned 0 → outcome.reads.length = outcome.examined.length + 1)
  cout : outcome.cout.toList <+: whole.cout.toList
  ended : outcome.exit = .returned 0 → outcome = whole
  whole : whole.exit = .returned 0

theorem scan_cut_short (config : Config) (memory : BlockBuffer) (reader : Ext2BlockReader) :
    CutShort reader (scan config memory reader) (scan config memory (quieted reader)) := by
  have noError : firstError (quieted reader).e2fs reader.space.candidates.length = none :=
    firstError_none.mpr (fun _ _ => rfl)
  rw [scan_predicted, scan_predicted, predicted, predicted, quieted_space, noError]
  cases first : firstError reader.e2fs reader.space.candidates.length with
  | none =>
    refine ⟨by rw [first], ?_, ⟨List.prefix_refl _, fun failed => absurd rfl failed⟩,
      List.prefix_refl _, fun _ => rfl, rfl⟩
    rw [first, Option.getD_none, List.take_of_length_le (List.length_map ..).le]
  | some index =>
    have taken : (reader.space.candidates.take index).map (reader.space.examination config) =
        (reader.space.candidates.map (reader.space.examination config)).take index :=
      List.map_take
    have early : index < reader.space.candidates.length := by
      rw [firstError, List.find?_range_eq_some] at first
      exact List.mem_range.mp first.2.1
    refine ⟨by rw [first], ?_, ⟨(List.take_prefix _ _).map _, ?_⟩, ?_, ?_, rfl⟩
    · rw [first]
      exact taken
    · intro _
      simp only [List.length_map, List.length_take]
      omega
    · exact begun_prefix (taken ▸ List.take_prefix _ _)
    · intro ended
      cases ended

end MinecraftCarve.ScanErrors
