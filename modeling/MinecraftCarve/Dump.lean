import MinecraftCarve.Scan
import MinecraftCarve.Library.StickySink
import MinecraftCarve.Library.Records

/-! `main` of `dump_unused_blocks.cpp`. The two outputs are streams of their own, to two
files or to one; beside them a run keeps what they brought to their files, the blocks it
tested and the reads it asked for. -/

namespace MinecraftCarve.Dump
open SectorWords Library.StickySink Library.Loops Library.Records

structure Options where
  input : String
  output : String
  table : String
  deriving DecidableEq, Repr

/-- What the machine answers. -/
structure Host where
  /-- The options, or the exit code of `app.exit`. -/
  parse : List String → Except Nat Options
  /-- Which file a name leads to. -/
  fileOf : String → Nat
  ext2fsOpen : String → Opening
  dataFile : String → Option (Nat → SinkEvent)
  idFile : String → Option (Nat → SinkEvent)

/-- A block as the program has it in its buffer. -/
structure Inspection where
  blk : Nat
  bytes : List Byte

/-- The two streams. -/
inductive Destination where
  | data
  | table
  deriving DecidableEq, Repr

/-- A piece of a file, with the stream that brought it. -/
abbrev Sent := Destination × Piece Byte

structure State where
  fs : Ext2Filesystem
  blockBuffer : List Byte
  dataOutput : Sink Byte
  idOutput : Sink Byte
  sent : List Sent
  inspected : List Inspection
  reads : List Transfer

/-- How the program ends, with what it says on the error stream. -/
structure Ending where
  exit : Exit
  cerr : String
  deriving DecidableEq, Repr

structure Outcome where
  ending : Ending
  dataOutput : Sink Byte
  idOutput : Sink Byte
  sent : List Sent
  inspected : List Inspection
  reads : List Transfer

/-- The bytes of a `uint64_t` as they lie in memory. -/
def idBytes (blk : Nat) : List Byte := encode 8 blk

def allZeroes (buffer : List Byte) : Bool := buffer.all (fun c => c == 0)

def State.read (state : State) (blk : Nat) (call : ReadCall Ext2Filesystem (List Byte)) : State :=
  { state with
    fs := call.reader
    blockBuffer := call.buffer
    reads := state.reads ++ [⟨blk, call.requested, state.blockBuffer.length⟩] }

def State.inspect (state : State) (blk : Nat) : State :=
  { state with inspected := state.inspected ++ [⟨blk, state.blockBuffer⟩] }

/-- An operation on the stream of numbers. -/
def State.onTable (state : State) (operation : Sink Byte → Sink Byte) : State :=
  { state with
    idOutput := operation state.idOutput
    sent := state.sent ++ [(.table, Piece.between state.idOutput (operation state.idOutput))] }

/-- An operation on the stream of blocks. -/
def State.onData (state : State) (operation : Sink Byte → Sink Byte) : State :=
  { state with
    dataOutput := operation state.dataOutput
    sent := state.sent ++ [(.data, Piece.between state.dataOutput (operation state.dataOutput))] }

def State.writeId (state : State) (writingIds : Bool) (blk : Nat) : State :=
  if writingIds then state.onTable (fun sink => sink.write (idBytes blk)) else state

def State.writeBlock (state : State) (writingBlocks : Bool) : State :=
  if writingBlocks then state.onData (fun sink => sink.write state.blockBuffer) else state

def State.bad (state : State) : Bool := state.idOutput.bad || state.dataOutput.bad

def writeError (argv0 : String) : Ending := ⟨.returned 1, argv0 ++ ": Write error\n"⟩

/-- Which outputs are written, and the name the program was called by. -/
structure Mode where
  argv0 : String
  writingBlocks : Bool
  writingIds : Bool

def State.save (state : State) (mode : Mode) (blk : Nat) : State :=
  (state.writeId mode.writingIds blk).writeBlock mode.writingBlocks

def dumpBlock (mode : Mode) (blk : Nat) (state : State) : Flow State Ending :=
  if state.fs.blockIsUsed blk then .next state
  else
    let call := state.fs.readBlock blk state.blockBuffer 1
    let state := state.read blk call
    match call.status with
    | .threw what => .leave state ⟨.terminated what, ""⟩
    | .overran => .leave state ⟨.undefined, ""⟩
    | .ok =>
      let state := state.inspect blk
      if allZeroes state.blockBuffer then .next state
      else
        let state := state.save mode blk
        if blk % 1024 = 0 ∧ state.bad = true then .leave state (writeError mode.argv0)
        else .next state

def State.start (fs : Ext2Filesystem) (dataOutput idOutput : Sink Byte) : State :=
  ⟨fs, List.replicate 4096 0, dataOutput, idOutput, [], [], []⟩

def State.flush (state : State) : State := (state.onTable Sink.flush).onData Sink.flush

/-- The streams at the end of `main`, the last one first. -/
def State.close (state : State) : State := (state.onTable Sink.close).onData Sink.close

/-- An exception that nothing catches ends the program without closing anything. -/
def State.atEnd (state : State) (exit : Exit) : State :=
  match exit with
  | .returned _ => state.close
  | _ => state

def State.outcome (state : State) (ending : Ending) : Outcome :=
  let last := state.atEnd ending.exit
  ⟨ending, last.dataOutput, last.idOutput, last.sent, last.inspected, last.reads⟩

/-- The numbers that the loop goes through. -/
def range (fs : Ext2Filesystem) : List Nat :=
  List.range' fs.firstDataBlock (fs.blocksCount - fs.firstDataBlock)

/-- The loop, the final flush and the last look at the streams. -/
def dumpBlocks (mode : Mode) (fs : Ext2Filesystem) (dataOutput idOutput : Sink Byte) : Outcome :=
  match run (dumpBlock mode) (range fs) (State.start fs dataOutput idOutput) with
  | .leave state ending => state.outcome ending
  | .next state =>
    let state := state.flush
    if state.bad then state.outcome (writeError mode.argv0)
    else state.outcome ⟨.returned 0, ""⟩

def failed (ending : Ending) : Outcome := ⟨ending, Sink.unopened, Sink.unopened, [], [], []⟩

/-- An output that was not asked for is a stream that is never opened. -/
def openOutput (open_file : String → Option (Nat → SinkEvent)) (name : String) :
    Option (Sink Byte) :=
  if name = "" then some Sink.unopened else (open_file name).map Sink.opened

def main (host : Host) (argv : List String) : Outcome :=
  let argv0 := argv.headD ""
  match host.parse argv with
  | .error code => failed ⟨.returned code, ""⟩
  | .ok options =>
    if options.output = "" ∧ options.table = "" then
      failed ⟨.returned 1, argv0 ++
        ": You must specify an output mode via --output, --table, or both.\n"⟩
    else
      match Ext2Filesystem.construct (host.ext2fsOpen options.input) with
      | .error what => failed ⟨.terminated what, ""⟩
      | .ok fs =>
        match openOutput host.dataFile options.output with
        | none => failed ⟨.returned 1, argv0 ++ ": Couldn't open block data output file.\n"⟩
        | some dataOutput =>
          match openOutput host.idFile options.table with
          | none =>
            { failed ⟨.returned 1, argv0 ++ ": Couldn't open block id output file.\n"⟩ with
              dataOutput := dataOutput }
          | some idOutput =>
            dumpBlocks ⟨argv0, options.output != "", options.table != ""⟩ fs dataOutput idOutput

/-! The files that a run leaves. -/

def Destination.name (options : Options) : Destination → String
  | .data => options.output
  | .table => options.table

/-- What comes to a file from some of the streams, which they have found empty. -/
def written (ours : Destination → Bool) (sent : List Sent) : List Byte :=
  ((sent.filter (fun piece => ours piece.1)).map Prod.snd).foldl Piece.put []

/-- What a run leaves in the file of an output: opening it has emptied the file, and since then
every stream on it has written at its own position. An output that is not asked for or
cannot be opened leaves nothing. -/
def left (host : Host) (options : Options) (outcome : Outcome) (destination : Destination) :
    List Byte :=
  written (fun other => destination.name options != "" && other.name options != "" &&
    host.fileOf (other.name options) == host.fileOf (destination.name options)) outcome.sent

/-- The outputs that are asked for are different files, and neither is the image that is
read. -/
structure Separate (host : Host) (options : Options) : Prop where
  outputs : options.output ≠ "" → options.table ≠ "" →
    host.fileOf options.output ≠ host.fileOf options.table
  data : options.output ≠ "" → host.fileOf options.output ≠ host.fileOf options.input
  table : options.table ≠ "" → host.fileOf options.table ≠ host.fileOf options.input

/-! What a pass and a run can do. -/

@[simp] theorem State.atEnd_inspected (state : State) (exit : Exit) :
    (state.atEnd exit).inspected = state.inspected := by
  cases exit <;> rfl

@[simp] theorem State.atEnd_reads (state : State) (exit : Exit) :
    (state.atEnd exit).reads = state.reads := by
  cases exit <;> rfl

/-- The outputs are closed or left as they are. -/
theorem State.atEnd_outputs (state : State) (exit : Exit) :
    ((state.atEnd exit).dataOutput = state.dataOutput.close ∧
        (state.atEnd exit).idOutput = state.idOutput.close) ∨
      ((state.atEnd exit).dataOutput = state.dataOutput ∧
        (state.atEnd exit).idOutput = state.idOutput) := by
  cases exit with
  | returned code => exact Or.inl ⟨rfl, rfl⟩
  | terminated what => exact Or.inr ⟨rfl, rfl⟩
  | undefined => exact Or.inr ⟨rfl, rfl⟩

@[simp] theorem State.outcome_inspected (state : State) (ending : Ending) :
    (state.outcome ending).inspected = state.inspected := state.atEnd_inspected ending.exit

@[simp] theorem State.outcome_reads (state : State) (ending : Ending) :
    (state.outcome ending).reads = state.reads := state.atEnd_reads ending.exit

@[simp] theorem State.outcome_accepted (state : State) (ending : Ending) :
    (state.outcome ending).dataOutput.accepted = state.dataOutput.accepted := by
  change (state.atEnd ending.exit).dataOutput.accepted = _
  rcases state.atEnd_outputs ending.exit with ⟨data, _⟩ | ⟨data, _⟩
  · rw [data, Sink.close_accepted]
  · rw [data]

/-- Everything that one pass of the loop can do. -/
theorem dumpBlock_cases (mode : Mode) (blk : Nat) (state : State) :
    (state.fs.blockIsUsed blk = true ∧ dumpBlock mode blk state = .next state) ∨
      (state.fs.blockIsUsed blk = false ∧
        ∃ call, call = state.fs.readBlock blk state.blockBuffer 1 ∧
          ((call.status ≠ .ok ∧ ∃ ending, ending.exit ≠ .returned 0 ∧
              dumpBlock mode blk state = .leave (state.read blk call) ending) ∨
            (call.status = .ok ∧ allZeroes call.buffer = true ∧
              dumpBlock mode blk state = .next ((state.read blk call).inspect blk)) ∨
            (call.status = .ok ∧ allZeroes call.buffer = false ∧
              ∃ after, after = ((state.read blk call).inspect blk).save mode blk ∧
                ((blk % 1024 = 0 ∧ after.bad = true ∧
                    dumpBlock mode blk state = .leave after (writeError mode.argv0)) ∨
                  (¬(blk % 1024 = 0 ∧ after.bad = true) ∧
                    dumpBlock mode blk state = .next after))))) := by
  cases used : state.fs.blockIsUsed blk with
  | true => exact Or.inl ⟨rfl, if_pos used⟩
  | false =>
    refine Or.inr ⟨rfl, _, rfl, ?_⟩
    simp only [dumpBlock, used, Bool.false_eq_true, if_false]
    cases ended : (state.fs.readBlock blk state.blockBuffer 1).status with
    | threw what => exact Or.inl ⟨by simp, _, by simp, rfl⟩
    | overran => exact Or.inl ⟨by simp, _, by simp, rfl⟩
    | ok =>
      right
      cases blank : allZeroes (state.fs.readBlock blk state.blockBuffer 1).buffer with
      | true => exact Or.inl ⟨rfl, rfl, if_pos blank⟩
      | false =>
        refine Or.inr ⟨rfl, rfl, _, rfl, ?_⟩
        have saved : ¬allZeroes ((state.read blk
            (state.fs.readBlock blk state.blockBuffer 1)).inspect blk).blockBuffer = true := by
          rw [Bool.not_eq_true]
          exact blank
        simp only [if_neg saved]
        split
        · next check => exact Or.inl ⟨check.1, check.2, rfl⟩
        · next pass => exact Or.inr ⟨pass, rfl⟩

theorem dumpBlock_left {mode : Mode} {blk : Nat} {state after : State} {ending : Ending}
    (left : dumpBlock mode blk state = .leave after ending) : ending.exit ≠ .returned 0 := by
  rcases dumpBlock_cases mode blk state with
    ⟨_, pass⟩ | ⟨_, call, _, ⟨_, _, failing, pass⟩ | ⟨_, _, pass⟩ |
      ⟨_, _, saved, _, ⟨_, _, pass⟩ | ⟨_, pass⟩⟩⟩
  · cases pass.symm.trans left
  · cases pass.symm.trans left
    exact failing
  · cases pass.symm.trans left
  · cases pass.symm.trans left
    simp [writeError]
  · cases pass.symm.trans left

/-- A run leaves the loop with a failure, or it comes to the final flush. -/
theorem dumpBlocks_cases (mode : Mode) (fs : Ext2Filesystem) (dataOutput idOutput : Sink Byte) :
    (∃ final ending, run (dumpBlock mode) (range fs) (State.start fs dataOutput idOutput) =
        .leave final ending ∧ ending.exit ≠ .returned 0 ∧
        dumpBlocks mode fs dataOutput idOutput = final.outcome ending) ∨
      ∃ final, run (dumpBlock mode) (range fs) (State.start fs dataOutput idOutput) = .next final ∧
        ((final.flush.bad = true ∧ dumpBlocks mode fs dataOutput idOutput =
            final.flush.outcome (writeError mode.argv0)) ∨
          (final.flush.bad = false ∧ dumpBlocks mode fs dataOutput idOutput =
            final.flush.outcome ⟨.returned 0, ""⟩)) := by
  cases finish : run (dumpBlock mode) (range fs) (State.start fs dataOutput idOutput) with
  | leave final ending =>
    have failing := run_left (fun _ ending => ending.exit ≠ .returned 0)
      (fun _ _ _ _ left => dumpBlock_left left) _ finish
    refine Or.inl ⟨final, ending, rfl, failing, ?_⟩
    rw [dumpBlocks, finish]
  | next final =>
    refine Or.inr ⟨final, rfl, ?_⟩
    unfold dumpBlocks
    rw [finish]
    cases bad : final.flush.bad with
    | true => exact Or.inl ⟨rfl, if_pos bad⟩
    | false => exact Or.inr ⟨rfl, if_neg (by simp [bad])⟩

/-- Nothing is recorded and no output accepted after the loop. -/
theorem dumpBlocks_records (mode : Mode) (fs : Ext2Filesystem) (dataOutput idOutput : Sink Byte) :
    ∃ final, final = (run (dumpBlock mode) (range fs) (State.start fs dataOutput idOutput)).state ∧
      (dumpBlocks mode fs dataOutput idOutput).reads = final.reads ∧
      (dumpBlocks mode fs dataOutput idOutput).inspected = final.inspected ∧
      (dumpBlocks mode fs dataOutput idOutput).dataOutput.accepted = final.dataOutput.accepted := by
  rcases dumpBlocks_cases mode fs dataOutput idOutput with
    ⟨final, ending, finish, _, same⟩ | ⟨final, finish, ⟨_, same⟩ | ⟨_, same⟩⟩
  · rw [finish, same]
    exact ⟨final, rfl, by simp, by simp, by simp⟩
  · rw [finish, same]
    refine ⟨final, rfl, by simp [State.flush, State.onData, State.onTable],
      by simp [State.flush, State.onData, State.onTable], ?_⟩
    exact (State.outcome_accepted _ _).trans (Sink.flush_accepted _)
  · rw [finish, same]
    refine ⟨final, rfl, by simp [State.flush, State.onData, State.onTable],
      by simp [State.flush, State.onData, State.onTable], ?_⟩
    exact (State.outcome_accepted _ _).trans (Sink.flush_accepted _)

end MinecraftCarve.Dump
