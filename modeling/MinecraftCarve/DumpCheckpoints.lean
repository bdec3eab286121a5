import MinecraftCarve.DumpReads

/-! How far a dump goes on after a failed write. It looks at its outputs only at blocks
with a record whose number is a multiple of 1024, so that is where it gives up. -/

namespace MinecraftCarve.DumpCheckpoints
open SectorWords Library.StickySink Library.Loops Dump DumpRuns DumpEndings DumpReads

/-- The blocks of the loop up to one of them. -/
def upTo (fs : Ext2Filesystem) (blk : Nat) : List Nat :=
  (range fs).filter (fun other => decide (other ≤ blk))

/-- An output that was asked for has not carried out one of its first writes. -/
def Refuses (file : Option (Nat → SinkEvent)) (name : String) (count : Nat) : Prop :=
  name ≠ "" ∧ ∃ device, file = some device ∧ ∃ index < count, ¬(device index).Done

/-- A block at which the dump gives up: with one of the records so far, a write failed. -/
structure Checkpoint (host : Host) (options : Options) (fs : Ext2Filesystem) (blk : Nat) : Prop where
  dumped : blk ∈ dumped fs
  due : blk % 1024 = 0
  refused :
    Refuses (host.idFile options.table) options.table ((upTo fs blk).filter (dumps fs)).length ∨
      Refuses (host.dataFile options.output) options.output ((upTo fs blk).filter (dumps fs)).length

theorem fed_bad_iff {open_file : String → Option (Nat → SinkEvent)} {name : String}
    {sink : Sink Byte} (opened : openOutput open_file name = some sink) (records : List (List Byte)) :
    (fed (name != "") sink records).bad = true ↔ Refuses (open_file name) name records.length := by
  rcases openOutput_cases opened with ⟨rfl, rfl⟩ | ⟨named, device, found, rfl⟩
  · exact iff_of_false Bool.false_ne_true (fun refuses => refuses.1 rfl)
  · have writing : (name != "") = true := by simpa using named
    have good := Sink.feed_good_iff (rfl : (Sink.opened device : Sink Byte).isOpen = true) rfl records
    rw [fed, if_pos writing, ← Bool.not_eq_false, good]
    constructor
    · intro refused
      obtain ⟨index, failed⟩ := not_forall.mp refused
      obtain ⟨early, failed⟩ := Classical.not_imp.mp failed
      rw [Sink.opened, Nat.zero_add] at failed
      exact ⟨named, device, found, index, early, failed⟩
    · rintro ⟨_, other, same, index, early, failed⟩ all
      cases found.symm.trans same
      have done := all index early
      rw [Sink.opened, Nat.zero_add] at done
      exact failed done

section
variable {fs : Ext2Filesystem} {seen rest : List Nat} {blk : Nat}

/-- The numbers go up, so the blocks up to one are those that come before it. -/
theorem upTo_split (split : range fs = seen ++ blk :: rest) : upTo fs blk = seen ++ [blk] := by
  have increasing : (seen ++ blk :: rest).Pairwise (fun first second => first < second) := by
    rw [← split]
    exact List.pairwise_lt_range'
  obtain ⟨_, behind, across⟩ := List.pairwise_append.mp increasing
  have before : ∀ other ∈ seen, decide (other ≤ blk) = true := by
    intro other member
    have less := across other member blk (List.mem_cons_self ..)
    simpa using less.le
  have after : ∀ other ∈ rest, ¬decide (other ≤ blk) = true := by
    intro other member
    have less := (List.pairwise_cons.mp behind).1 other member
    simpa using less
  rw [upTo, split, List.filter_append, List.filter_cons_of_pos (by simp),
    List.filter_eq_self.mpr before, List.filter_eq_nil_iff.mpr after]

end

section
variable {host : Host} {argv : List String} {options : Options} {fs : Ext2Filesystem}
  {dataOutput idOutput : Sink Byte} (data : openOutput host.dataFile options.output = some dataOutput)
  (ids : openOutput host.idFile options.table = some idOutput)
include data ids

theorem noticed_iff {seen rest : List Nat} {blk : Nat} (split : range fs = seen ++ blk :: rest) :
    Noticed (modeOf argv options) fs dataOutput idOutput seen blk ↔
      Checkpoint host options fs blk := by
  have inRange : blk ∈ range fs := by
    rw [split]
    simp
  have blocks := fed_bad_iff data (blockRecords fs (seen ++ [blk]))
  have numbers := fed_bad_iff ids (idRecords fs (seen ++ [blk]))
  rw [blockRecords, List.length_map, ← upTo_split split] at blocks
  rw [idRecords, List.length_map, ← upTo_split split] at numbers
  constructor
  · rintro ⟨dumps, due, bad⟩
    rw [← upTo_split split] at bad
    exact ⟨List.mem_filter.mpr ⟨inRange, dumps⟩, due, bad.imp numbers.mp blocks.mp⟩
  · rintro ⟨dumped, due, refused⟩
    refine ⟨(List.mem_filter.mp dumped).2, due, ?_⟩
    rw [← upTo_split split]
    exact refused.imp numbers.mpr blocks.mpr

/-- What has been passed has no checkpoint in it. -/
theorem tracked_no_checkpoint {seen rest : List Nat} {state : State} (split : range fs = seen ++ rest)
    (tracked : Tracked (modeOf argv options) fs dataOutput idOutput seen state) :
    ∀ blk ∈ seen, ¬Checkpoint host options fs blk := by
  intro blk member checkpoint
  obtain ⟨before, after, rfl⟩ := List.append_of_mem member
  refine tracked.unnoticed before blk ⟨after, by simp⟩ ?_
  rw [List.append_assoc, List.cons_append] at split
  exact (noticed_iff data ids split).mpr checkpoint

theorem first_checkpoint {seen rest : List Nat} {blk : Nat} {state : State}
    (split : range fs = seen ++ blk :: rest)
    (tracked : Tracked (modeOf argv options) fs dataOutput idOutput seen state) :
    ∀ earlier < blk, ¬Checkpoint host options fs earlier := by
  intro earlier less other
  have member : earlier ∈ upTo fs blk :=
    List.mem_filter.mpr ⟨(List.mem_filter.mp other.dumped).1, by simpa using less.le⟩
  rw [upTo_split split] at member
  rcases List.mem_append.mp member with passed | last
  · exact tracked_no_checkpoint data ids split tracked earlier passed other
  · exact less.ne (List.mem_singleton.mp last)

end

/-- A dump of a filesystem that is in order reads the free blocks up to its first
checkpoint and says that there was a write error, or it has no checkpoint and reads all. -/
theorem gives_up_at_checkpoint (host : Host) (argv : List String) (options : Options)
    (fs : Ext2Filesystem) (parsed : host.parse argv = .ok options)
    (opened : host.ext2fsOpen options.input = .opened fs) (fine : ReadsFine fs)
    (fits : fs.blocksize ≤ 4096) (requested : options.output ≠ "" ∨ options.table ≠ "")
    (dataOpens : openOutput host.dataFile options.output ≠ none)
    (idsOpen : openOutput host.idFile options.table ≠ none) :
    (∃ blk, Checkpoint host options fs blk ∧
        (∀ earlier < blk, ¬Checkpoint host options fs earlier) ∧
        (main host argv).ending = writeError (argv.headD "") ∧
        (main host argv).reads = transfers fs (upTo fs blk)) ∨
      (∀ blk, ¬Checkpoint host options fs blk) ∧
        (main host argv).reads = transfers fs (range fs) := by
  rcases main_ways parsed opened with
    ⟨_, _, _, ⟨unnamed, untabled⟩ | noData | noIds⟩ | ⟨_, dataOutput, idOutput, data, ids, same⟩
  · rcases requested with named | tabled
    · exact absurd unnamed named
    · exact absurd untabled tabled
  · exact absurd noData dataOpens
  · exact absurd noIds idsOpen
  rw [same]
  rcases dumpBlocks_ends (Tracked (modeOf argv options) fs dataOutput idOutput)
      (fun _ _ _ _ tracked pass => tracked.next pass) tracked_start with
    ⟨seen, blk, rest, state, final, ending, split, tracked, left, outcome⟩ | ⟨final, tracked, flushed⟩
  · obtain ⟨free, ways⟩ := tracked.passed.left left
    have early := (unused_before split free).1
    rw [outcome]
    rcases ways with ⟨_, errval, _⟩ | ⟨_, ⟨tooLong, _⟩, _⟩ | ⟨rfl, checked, blocks, numbers⟩
    · exact absurd (fine _ early) errval
    · exact absurd fits (Nat.not_le_of_lt tooLong)
    · have bad := Bool.or_eq_true_iff.mp checked.bad
      rw [blocks, numbers] at bad
      have checkpoint := (noticed_iff data ids split).mp ⟨checked.dumped, checked.due, bad⟩
      refine Or.inl ⟨blk, checkpoint, first_checkpoint data ids split tracked, rfl, ?_⟩
      rw [upTo_split split]
      exact (tracked.left left).1
  · have none : ∀ blk, ¬Checkpoint host options fs blk := by
      intro blk checkpoint
      have split : range fs = range fs ++ [] := (List.append_nil _).symm
      exact tracked_no_checkpoint data ids split tracked blk (List.mem_filter.mp checkpoint.dumped).1
        checkpoint
    refine Or.inr ⟨none, ?_⟩
    rcases flushed with ⟨_, outcome⟩ | ⟨_, outcome⟩
    · rw [outcome]
      exact tracked.reads
    · rw [outcome]
      exact tracked.reads

/-- The same four blocks, then some that are in use and some that are free. -/
def wideFs : Ext2Filesystem :=
  Ext2Filesystem.ofImage 2 0 2048 (fun blk => blk == 0 || 4 ≤ blk && blk < 1024)
    (fun index => if index / 4096 = 1 then 0 else 0x50)

theorem wideFs_quiet : wideFs.Quiet := Ext2Filesystem.ofImage_quiet _ _ _ _ _

theorem failingHost_gives_up :
    (∃ blk, Checkpoint (failingHost (.failed 0) wideFs) bothOutputs wideFs blk ∧
        (∀ earlier < blk, ¬Checkpoint (failingHost (.failed 0) wideFs) bothOutputs wideFs earlier) ∧
        (main (failingHost (.failed 0) wideFs) ["dump_unused_blocks"]).ending =
          writeError "dump_unused_blocks" ∧
        (main (failingHost (.failed 0) wideFs) ["dump_unused_blocks"]).reads =
          transfers wideFs (upTo wideFs blk)) ∨
      (∀ blk, ¬Checkpoint (failingHost (.failed 0) wideFs) bothOutputs wideFs blk) ∧
        (main (failingHost (.failed 0) wideFs) ["dump_unused_blocks"]).reads =
          transfers wideFs (range wideFs) :=
  gives_up_at_checkpoint (failingHost (.failed 0) wideFs) ["dump_unused_blocks"] bothOutputs wideFs
    rfl rfl (fun index _ => wideFs_quiet _) (by decide) (Or.inl (by decide)) (by decide) (by decide)

end MinecraftCarve.DumpCheckpoints
