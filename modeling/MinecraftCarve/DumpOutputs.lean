import MinecraftCarve.Dump

/-! What the streams of a dump have brought to their files. A file that only one of them
leads to holds what that stream has sent, a file of both holds what each of them has
left of the other's. -/

namespace MinecraftCarve.Dump
open SectorWords Library.StickySink Library.Loops

theorem written_snoc (ours : Destination → Bool) (sent : List Sent) (piece : Sent) :
    written ours (sent ++ [piece]) =
      if ours piece.1 then Piece.put (written ours sent) piece.2 else written ours sent := by
  cases mine : ours piece.1 with
  | true => simp [written, List.filter_append, mine]
  | false => simp [written, List.filter_append, mine]

/-- The pieces of each stream make up what it has brought to its file. -/
structure State.Recorded (state : State) : Prop where
  data : written (fun other => other == .data) state.sent = state.dataOutput.file
  ids : written (fun other => other == .table) state.sent = state.idOutput.file

/-- As long as the streams are not closed. -/
structure State.Kept (state : State) : Prop where
  recorded : state.Recorded
  data : state.dataOutput.Behind
  ids : state.idOutput.Behind

section
variable {state : State} {operation : Sink Byte → Sink Byte}

theorem State.Recorded.onTable (recorded : state.Recorded)
    (grows : state.idOutput.file <+: (operation state.idOutput).file) :
    (state.onTable operation).Recorded where
  data := (written_snoc _ _ _).trans recorded.data
  ids := by
    refine (written_snoc _ _ _).trans ?_
    rw [recorded.ids]
    exact Piece.put_between grows

theorem State.Recorded.onData (recorded : state.Recorded)
    (grows : state.dataOutput.file <+: (operation state.dataOutput).file) :
    (state.onData operation).Recorded where
  data := by
    refine (written_snoc _ _ _).trans ?_
    rw [recorded.data]
    exact Piece.put_between grows
  ids := (written_snoc _ _ _).trans recorded.ids

theorem State.Kept.onTable (kept : state.Kept) (next : (operation state.idOutput).Behind ∧
    state.idOutput.file <+: (operation state.idOutput).file) : (state.onTable operation).Kept :=
  ⟨kept.recorded.onTable next.2, kept.data, next.1⟩

theorem State.Kept.onData (kept : state.Kept) (next : (operation state.dataOutput).Behind ∧
    state.dataOutput.file <+: (operation state.dataOutput).file) : (state.onData operation).Kept :=
  ⟨kept.recorded.onData next.2, next.1, kept.ids⟩

theorem State.Kept.inspect (kept : state.Kept) (blk : Nat)
    (call : ReadCall Ext2Filesystem (List Byte)) : ((state.read blk call).inspect blk).Kept :=
  ⟨⟨kept.recorded.data, kept.recorded.ids⟩, kept.data, kept.ids⟩

theorem State.Kept.save (kept : state.Kept) (mode : Mode) (blk : Nat) :
    (state.save mode blk).Kept := by
  have ids : (state.writeId mode.writingIds blk).Kept := by
    unfold State.writeId
    split
    · exact kept.onTable (kept.ids.write _)
    · exact kept
  unfold State.save State.writeBlock
  split
  · exact ids.onData (ids.data.write _)
  · exact ids

theorem State.Kept.flush (kept : state.Kept) : state.flush.Kept := by
  have ids : (state.onTable Sink.flush).Kept := kept.onTable kept.ids.flush
  exact ids.onData ids.data.flush

theorem State.Recorded.close (recorded : state.Recorded) : state.close.Recorded :=
  (recorded.onTable (Sink.close_grows _)).onData (Sink.close_grows _)

theorem State.Recorded.atEnd (recorded : state.Recorded) (exit : Exit) :
    (state.atEnd exit).Recorded := by
  cases exit with
  | returned code => exact recorded.close
  | terminated what => exact recorded
  | undefined => exact recorded

theorem dumpBlock_kept (mode : Mode) (blk : Nat) (state : State) (kept : state.Kept) :
    (dumpBlock mode blk state).state.Kept := by
  rcases dumpBlock_cases mode blk state with
    ⟨_, pass⟩ | ⟨_, call, _, ⟨_, _, _, pass⟩ | ⟨_, _, pass⟩ |
      ⟨_, _, saved, save, ⟨_, _, pass⟩ | ⟨_, pass⟩⟩⟩
  · rw [pass]
    exact kept
  · rw [pass]
    exact ⟨⟨kept.recorded.data, kept.recorded.ids⟩, kept.data, kept.ids⟩
  · rw [pass]
    exact kept.inspect blk call
  · rw [pass, save]
    exact (kept.inspect blk call).save mode blk
  · rw [pass, save]
    exact (kept.inspect blk call).save mode blk

end

/-- The outcome of a run shows what each stream has brought to its file. -/
structure Outcome.Recorded (outcome : Outcome) : Prop where
  data : written (fun other => other == .data) outcome.sent = outcome.dataOutput.file
  ids : written (fun other => other == .table) outcome.sent = outcome.idOutput.file

theorem State.Kept.outcome {state : State} (kept : state.Kept) (ending : Ending) :
    (state.outcome ending).Recorded :=
  have last := kept.recorded.atEnd ending.exit
  ⟨last.data, last.ids⟩

theorem dumpBlocks_recorded (mode : Mode) (fs : Ext2Filesystem) {dataOutput idOutput : Sink Byte}
    (data : dataOutput.file = []) (ids : idOutput.file = []) :
    (dumpBlocks mode fs dataOutput idOutput).Recorded := by
  have dataBehind : dataOutput.Behind := by
    intro _
    rw [data]
    exact List.nil_prefix
  have idsBehind : idOutput.Behind := by
    intro _
    rw [ids]
    exact List.nil_prefix
  have start : (State.start fs dataOutput idOutput).Kept :=
    ⟨⟨data.symm, ids.symm⟩, dataBehind, idsBehind⟩
  have kept := run_preserves (dumpBlock_kept mode) (range fs) _ start
  rcases dumpBlocks_cases mode fs dataOutput idOutput with
    ⟨final, ending, finish, _, same⟩ | ⟨final, finish, ⟨_, same⟩ | ⟨_, same⟩⟩
  · rw [finish] at kept
    rw [same]
    exact kept.outcome ending
  · rw [finish] at kept
    rw [same]
    exact kept.flush.outcome _
  · rw [finish] at kept
    rw [same]
    exact kept.flush.outcome _

theorem openOutput_cases {open_file : String → Option (Nat → SinkEvent)} {name : String}
    {sink : Sink Byte} (opened : openOutput open_file name = some sink) :
    (name = "" ∧ sink = Sink.unopened) ∨
      (name ≠ "" ∧ ∃ device, open_file name = some device ∧ sink = Sink.opened device) := by
  unfold openOutput at opened
  by_cases unnamed : name = ""
  · rw [if_pos unnamed] at opened
    cases opened
    exact Or.inl ⟨unnamed, rfl⟩
  · rw [if_neg unnamed] at opened
    obtain ⟨device, found, rfl⟩ := Option.map_eq_some_iff.mp opened
    exact Or.inr ⟨unnamed, device, found, rfl⟩

theorem openOutput_empty {open_file : String → Option (Nat → SinkEvent)} {name : String}
    {sink : Sink Byte} (opened : openOutput open_file name = some sink) :
    sink.accepted = [] ∧ sink.file = [] := by
  rcases openOutput_cases opened with ⟨_, rfl⟩ | ⟨_, device, _, rfl⟩
  · exact ⟨rfl, rfl⟩
  · exact ⟨rfl, rfl⟩

theorem main_recorded (host : Host) (argv : List String) : (main host argv).Recorded := by
  unfold main
  split
  next => exact ⟨rfl, rfl⟩
  next =>
    split
    next => exact ⟨rfl, rfl⟩
    next =>
      split
      next => exact ⟨rfl, rfl⟩
      next fs _ =>
        split
        next => exact ⟨rfl, rfl⟩
        next dataOutput data =>
          split
          next => exact ⟨(openOutput_empty data).2.symm, rfl⟩
          next idOutput ids =>
            exact dumpBlocks_recorded _ fs (openOutput_empty data).2 (openOutput_empty ids).2

section
variable {host : Host} {options : Options} (separate : Separate host options)
include separate

/-- An output that shares its file with nothing has in it what its stream has sent. -/
theorem left_data {outcome : Outcome} (recorded : outcome.Recorded) (named : options.output ≠ "") :
    left host options outcome .data = outcome.dataOutput.file := by
  rw [← recorded.data, left]
  congr 1
  funext other
  cases other with
  | data => simpa [Destination.name] using named
  | table =>
    change (options.output != "" && options.table != "" &&
      host.fileOf options.table == host.fileOf options.output) = false
    by_cases tabled : options.table = ""
    · simp [tabled]
    · simpa [named, tabled] using (separate.outputs named tabled).symm

theorem left_table {outcome : Outcome} (recorded : outcome.Recorded) (tabled : options.table ≠ "") :
    left host options outcome .table = outcome.idOutput.file := by
  rw [← recorded.ids, left]
  congr 1
  funext other
  cases other with
  | table => simpa [Destination.name] using tabled
  | data =>
    change (options.table != "" && options.output != "" &&
      host.fileOf options.output == host.fileOf options.table) = false
    by_cases named : options.output = ""
    · simp [named]
    · simpa [named, tabled] using separate.outputs named tabled

end

end MinecraftCarve.Dump
