import MinecraftCarve.BlockReader
import MinecraftCarve.Report
import MinecraftCarve.Sector
import MinecraftCarve.Library.Loops

/-! The scan of `mcarve.cpp`: the loop of `main` over the blocks of a reader. Beside
the text it prints, a run keeps the examinations made and the reads asked for. -/

namespace MinecraftCarve
open SectorWords Sector Report Library.Loops

/-- The part of `config` that the loop reads. -/
structure Config where
  startTime : Word
  stopTime : Word
  deriving DecidableEq

/-- A block put to the three tests, with the window it was tested for. -/
structure Examination where
  blk : Nat
  sector : BlockBuffer
  config : Config

def Examination.visit (examination : Examination) : Visit where
  blk := examination.blk
  timestamps := hasTimestamps examination.sector.bytes examination.config.startTime
    examination.config.stopTime
  offsets := hasOffsets examination.sector.bytes
  encodedChunk := hasEncodedChunk examination.sector.bytes

/-- One read: the bytes asked of the device and the bytes the destination holds. -/
structure Transfer where
  blk : Nat
  requested : Nat
  capacity : Nat
  deriving DecidableEq, Repr

/-- A read of one block into the buffer of the scan. -/
def Transfer.whole (blk : Nat) : Transfer := ⟨blk, BLOCKSIZE, BLOCKSIZE⟩

/-- How a program ends: `main` returns, an exception is not caught, or memory was
written past the end of a buffer and nothing is known of what follows. -/
inductive Exit where
  | returned (code : Nat)
  | terminated (what : String)
  | undefined
  deriving DecidableEq, Repr

structure Outcome where
  exit : Exit
  cout : String
  examined : List Examination
  reads : List Transfer

structure Scan (σ : Type*) where
  reader : σ
  sectorBuffer : BlockBuffer
  printer : Printer
  examined : List Examination
  reads : List Transfer

variable {σ : Type*}

def Scan.read (scan : Scan σ) (blk : Nat) (call : ReadCall σ BlockBuffer) : Scan σ :=
  { scan with
    reader := call.reader
    sectorBuffer := call.buffer
    reads := scan.reads ++ [⟨blk, call.requested, BLOCKSIZE⟩] }

def Scan.examine (scan : Scan σ) (examination : Examination) : Scan σ :=
  { scan with
    printer := scan.printer.visit examination.visit
    examined := scan.examined ++ [examination] }

def Scan.start (memory : BlockBuffer) (reader : σ) : Scan σ :=
  ⟨reader, memory, Printer.empty, [], []⟩

def Scan.outcome (scan : Scan σ) (exit : Exit) : Outcome :=
  ⟨exit, scan.printer.cout, scan.examined, scan.reads⟩

/-- What holds of the scan's records at every moment, whatever the reader does. -/
structure Scan.Recorded (config : Config) (scan : Scan σ) : Prop where
  printed : scan.printer = (scan.examined.map Examination.visit).foldl Printer.visit Printer.empty
  window : ∀ examination ∈ scan.examined, examination.config = config

theorem recorded_start (config : Config) (memory : BlockBuffer) (reader : σ) :
    (Scan.start memory reader).Recorded config :=
  ⟨rfl, fun _ member => absurd member (List.not_mem_nil)⟩

variable [BlockReader σ]

def maxBlk (reader : σ) : Nat :=
  if 400000 < BlockReader.blocksCount reader then 400000 else BlockReader.blocksCount reader

/-- The numbers that the loop goes through. -/
def scanned (reader : σ) : List Nat :=
  List.range' (BlockReader.firstBlknum reader) (maxBlk reader - BlockReader.firstBlknum reader)

def scanBlock (config : Config) (blk : Nat) (scan : Scan σ) : Flow (Scan σ) Exit :=
  if BlockReader.isAllocated scan.reader blk then .next scan
  else
    let call := BlockReader.readBlock scan.reader blk scan.sectorBuffer
    let scan := scan.read blk call
    match call.status with
    | .ok => .next (scan.examine ⟨blk, scan.sectorBuffer, config⟩)
    | .threw what => .leave scan (.terminated what)
    | .overran => .leave scan .undefined

/-- The loop and the line that ends a pending group. The buffer starts with whatever
was in memory. -/
def scan (config : Config) (memory : BlockBuffer) (reader : σ) : Outcome :=
  match run (scanBlock config) (scanned reader) (Scan.start memory reader) with
  | .leave scan exit => scan.outcome exit
  | .next scan => { scan with printer := scan.printer.endGroup }.outcome (.returned 0)

/-- Everything that one pass of the loop can do. -/
theorem scanBlock_cases (config : Config) (blk : Nat) (scan : Scan σ) :
    (BlockReader.isAllocated scan.reader blk = true ∧ scanBlock config blk scan = .next scan) ∨
      (BlockReader.isAllocated scan.reader blk = false ∧
        ∃ call, call = BlockReader.readBlock scan.reader blk scan.sectorBuffer ∧
          ((call.status = .ok ∧ scanBlock config blk scan =
              .next ((scan.read blk call).examine ⟨blk, call.buffer, config⟩)) ∨
            (call.status ≠ .ok ∧ ∃ exit, exit ≠ .returned 0 ∧
              scanBlock config blk scan = .leave (scan.read blk call) exit))) := by
  cases allocated : BlockReader.isAllocated scan.reader blk with
  | true => exact Or.inl ⟨rfl, if_pos allocated⟩
  | false =>
    refine Or.inr ⟨rfl, _, rfl, ?_⟩
    simp only [scanBlock, allocated, Bool.false_eq_true, if_false]
    cases ended : (BlockReader.readBlock scan.reader blk scan.sectorBuffer).status with
    | ok => exact Or.inl ⟨rfl, rfl⟩
    | threw what => exact Or.inr ⟨by simp, _, by simp, rfl⟩
    | overran => exact Or.inr ⟨by simp, _, by simp, rfl⟩

theorem scanBlock_recorded {config : Config} (blk : Nat) (scan : Scan σ)
    (recorded : scan.Recorded config) : (scanBlock config blk scan).state.Recorded config := by
  rcases scanBlock_cases config blk scan with ⟨_, pass⟩ | ⟨_, call, _, ⟨_, pass⟩ | ⟨_, _, _, pass⟩⟩
  · rw [pass]
    exact recorded
  · rw [pass]
    constructor
    · simp [Flow.state, Scan.examine, Scan.read, recorded.printed]
    · intro examination member
      rcases List.mem_append.mp member with old | new
      · exact recorded.window examination old
      · rw [List.mem_singleton.mp new]
  · rw [pass]
    exact ⟨recorded.printed, recorded.window⟩

theorem run_recorded (config : Config) (memory : BlockBuffer) (reader : σ) (blks : List Nat) :
    (run (scanBlock config) blks (Scan.start memory reader)).state.Recorded config :=
  run_preserves scanBlock_recorded blks _ (recorded_start config memory reader)

theorem scan_cases (config : Config) (memory : BlockBuffer) (reader : σ) :
    (∃ final, run (scanBlock config) (scanned reader) (Scan.start memory reader) = .next final ∧
        scan config memory reader =
          { final with printer := final.printer.endGroup }.outcome (.returned 0)) ∨
      (∃ final exit, run (scanBlock config) (scanned reader) (Scan.start memory reader) =
          .leave final exit ∧ exit ≠ .returned 0 ∧
        scan config memory reader = final.outcome exit) := by
  cases finish : run (scanBlock config) (scanned reader) (Scan.start memory reader) with
  | next final =>
    refine Or.inl ⟨final, rfl, ?_⟩
    rw [scan, finish]
  | leave final exit =>
    have failing : exit ≠ .returned 0 := by
      apply run_left (fun _ exit => exit ≠ .returned 0) _ _ finish
      intro blk state after reason left
      rcases scanBlock_cases config blk state with
        ⟨_, pass⟩ | ⟨_, call, _, ⟨_, pass⟩ | ⟨_, exit, failing, pass⟩⟩
      · cases pass.symm.trans left
      · cases pass.symm.trans left
      · cases pass.symm.trans left
        exact failing
    refine Or.inr ⟨final, exit, rfl, failing, ?_⟩
    rw [scan, finish]

/-- Nothing is recorded after the loop. -/
theorem scan_records (config : Config) (memory : BlockBuffer) (reader : σ) :
    (scan config memory reader).examined =
        (run (scanBlock config) (scanned reader) (Scan.start memory reader)).state.examined ∧
      (scan config memory reader).reads =
        (run (scanBlock config) (scanned reader) (Scan.start memory reader)).state.reads := by
  rcases scan_cases config memory reader with ⟨final, finish, same⟩ | ⟨final, exit, finish, _, same⟩
  · rw [same, finish]
    exact ⟨rfl, rfl⟩
  · rw [same, finish]
    exact ⟨rfl, rfl⟩

theorem scan_window (config : Config) (memory : BlockBuffer) (reader : σ) :
    ∀ examination ∈ (scan config memory reader).examined, examination.config = config := by
  rw [(scan_records config memory reader).1]
  exact (run_recorded config memory reader (scanned reader)).window

/-- A run that ends normally has printed exactly what its examinations call for. -/
theorem scan_cout {config : Config} {memory : BlockBuffer} {reader : σ}
    (normal : (scan config memory reader).exit = .returned 0) :
    (scan config memory reader).cout =
      (printVisits ((scan config memory reader).examined.map Examination.visit)).cout := by
  have recorded := run_recorded config memory reader (scanned reader)
  rcases scan_cases config memory reader with ⟨final, finish, same⟩ | ⟨_, _, _, failing, same⟩
  · rw [finish] at recorded
    rw [same]
    exact congrArg (fun printer : Printer => printer.endGroup.cout) recorded.printed
  · rw [same] at normal
    exact absurd normal failing

/-- The counter of the source cannot overflow: the loop has at most 400000 passes. -/
theorem scan_bounded (config : Config) (memory : BlockBuffer) (reader : σ) :
    (scan config memory reader).examined.length ≤ 400000 := by
  have grows : ∀ blk (state : Scan σ), (scanBlock config blk state).state.examined.length ≤
      state.examined.length + 1 := by
    intro blk state
    rcases scanBlock_cases config blk state with
      ⟨_, pass⟩ | ⟨_, call, _, ⟨_, pass⟩ | ⟨_, _, _, pass⟩⟩
    all_goals
      rw [pass]
      simp [Flow.state, Scan.examine, Scan.read]
  have passes : (scanned reader).length ≤ 400000 := by
    rw [scanned, List.length_range', maxBlk]
    split <;> omega
  rw [(scan_records config memory reader).1]
  calc
    (run (scanBlock config) (scanned reader) (Scan.start memory reader)).state.examined.length
        ≤ (Scan.start memory reader).examined.length + (scanned reader).length :=
      run_bounded (fun state : Scan σ => state.examined.length) grows (scanned reader) _
    _ = (scanned reader).length := Nat.zero_add _
    _ ≤ 400000 := passes

/-! The first read of a scan decides whether anything is examined. -/

def firstRead (memory : BlockBuffer) (reader : σ) : Option ReadStatus :=
  ((scanned reader).find? (fun blk => !BlockReader.isAllocated reader blk)).map
    (fun blk => (BlockReader.readBlock reader blk memory).status)

theorem scanBlock_allocated {config : Config} {blk : Nat} {state : Scan σ}
    (allocated : BlockReader.isAllocated state.reader blk = true) :
    scanBlock config blk state = .next state := if_pos allocated

theorem scan_unread {config : Config} {memory : BlockBuffer} {reader : σ}
    (nothing : firstRead memory reader = none) :
    (scan config memory reader).exit = .returned 0 ∧ (scan config memory reader).examined = [] := by
  have idle : ∀ blk ∈ scanned reader, BlockReader.isAllocated reader blk = true := by
    simpa [firstRead] using nothing
  have finish : run (scanBlock config) (scanned reader ++ []) (Scan.start memory reader) =
      run (scanBlock config) [] (Scan.start memory reader) :=
    run_skip (fun blk member => scanBlock_allocated (idle blk member))
  rw [List.append_nil] at finish
  unfold scan
  rw [finish]
  exact ⟨rfl, rfl⟩

/-- The run comes to its first read with nothing examined yet. -/
theorem run_first (config : Config) {memory : BlockBuffer} {reader : σ} {status : ReadStatus}
    (first : firstRead memory reader = some status) : ∃ blk rest,
      BlockReader.isAllocated reader blk = false ∧
      (BlockReader.readBlock reader blk memory).status = status ∧
      run (scanBlock config) (scanned reader) (Scan.start memory reader) =
        run (scanBlock config) (blk :: rest) (Scan.start memory reader) := by
  obtain ⟨blk, found, ended⟩ := Option.map_eq_some_iff.mp first
  obtain ⟨free, idle, rest, split, skipped⟩ := List.find?_eq_some_iff_append.mp found
  refine ⟨blk, rest, by simpa using free, ended, ?_⟩
  rw [split]
  apply run_skip
  intro item member
  have allocated : BlockReader.isAllocated reader item = true := by simpa using skipped item member
  exact scanBlock_allocated allocated

theorem examined_kept (config : Config) (blk : Nat) (state : Scan σ) (some_yet : state.examined ≠ []) :
    (scanBlock config blk state).state.examined ≠ [] := by
  rcases scanBlock_cases config blk state with
    ⟨_, pass⟩ | ⟨_, call, _, ⟨_, pass⟩ | ⟨_, _, _, pass⟩⟩
  · rw [pass]
    exact some_yet
  · rw [pass]
    simp [Flow.state, Scan.examine]
  · rw [pass]
    exact some_yet

theorem scan_read_ok {config : Config} {memory : BlockBuffer} {reader : σ}
    (first : firstRead memory reader = some .ok) : (scan config memory reader).examined ≠ [] := by
  obtain ⟨blk, rest, free, ok, same⟩ := run_first config first
  rcases scanBlock_cases config blk (Scan.start memory reader) with
    ⟨allocated, _⟩ | ⟨_, call, made, ⟨_, pass⟩ | ⟨failed, _⟩⟩
  · cases free.symm.trans allocated
  · rw [run_cons_next pass] at same
    have begun : (((Scan.start memory reader).read blk call).examine
        ⟨blk, call.buffer, config⟩).examined ≠ [] := by simp [Scan.examine]
    rw [(scan_records config memory reader).1, same]
    exact run_preserves (examined_kept config) rest _ begun
  · rw [made] at failed
    exact absurd ok failed

theorem scan_read_failed {config : Config} {memory : BlockBuffer} {reader : σ} {status : ReadStatus}
    (first : firstRead memory reader = some status) (failed : status ≠ .ok) :
    (scan config memory reader).exit ≠ .returned 0 ∧ (scan config memory reader).examined = [] := by
  obtain ⟨blk, rest, free, ended, same⟩ := run_first config first
  rcases scanBlock_cases config blk (Scan.start memory reader) with
    ⟨allocated, _⟩ | ⟨_, call, made, ⟨ok, _⟩ | ⟨_, exit, failing, pass⟩⟩
  · cases free.symm.trans allocated
  · rw [made] at ok
    exact absurd (ended.symm.trans ok) failed
  · unfold scan
    rw [same, run_cons_leave pass]
    exact ⟨failing, rfl⟩

def Outcome.Failed (outcome : Outcome) : Prop :=
  outcome.exit ≠ .returned 0 ∧ outcome.examined = []

/-- What becomes of a scan, by the outcome of its first read. -/
def Outcome.Begins (outcome : Outcome) : Option ReadStatus → Prop
  | none => outcome.exit = .returned 0 ∧ outcome.examined = []
  | some .ok => outcome.examined ≠ []
  | some (.threw _) => outcome.Failed
  | some .overran => outcome.Failed

theorem Outcome.Begins.examined_iff {outcome : Outcome} {first : Option ReadStatus}
    (begins : outcome.Begins first) : outcome.examined ≠ [] ↔ first = some .ok := by
  match first, begins with
  | none, ⟨_, nothing⟩ => simp [nothing]
  | some .ok, examined => exact iff_of_true examined rfl
  | some (.threw what), ⟨_, nothing⟩ => simp [nothing]
  | some .overran, ⟨_, nothing⟩ => simp [nothing]

theorem Outcome.Begins.failed_iff {outcome : Outcome} {first : Option ReadStatus}
    (begins : outcome.Begins first) :
    outcome.Failed ↔ ∃ status, first = some status ∧ status ≠ .ok := by
  match first, begins with
  | none, ⟨ended, _⟩ => simp [Outcome.Failed, ended]
  | some .ok, examined =>
    have read : outcome.examined ≠ [] := examined
    simp [Outcome.Failed, read]
  | some (.threw what), failed => exact iff_of_true failed ⟨_, rfl, by simp⟩
  | some .overran, failed => exact iff_of_true failed ⟨_, rfl, by simp⟩

theorem scan_begins (config : Config) (memory : BlockBuffer) (reader : σ) :
    (scan config memory reader).Begins (firstRead memory reader) := by
  cases first : firstRead memory reader with
  | none => exact scan_unread first
  | some status =>
    cases status with
    | ok => exact scan_read_ok first
    | threw what => exact scan_read_failed first (by simp)
    | overran => exact scan_read_failed first (by simp)

/-! A reader that serves a block space is scanned to the end. -/

/-- The block numbers to be examined: in range, below the limit and not allocated. -/
def BlockSpace.candidates (space : BlockSpace) : List Nat :=
  (List.range' space.first (min space.count 400000 - space.first)).filter
    (fun blk => !space.allocated blk)

def BlockSpace.examination (space : BlockSpace) (config : Config) (blk : Nat) : Examination :=
  ⟨blk, space.contents blk, config⟩

theorem BlockSpace.mem_candidates {space : BlockSpace} {blk : Nat} : blk ∈ space.candidates ↔
    space.first ≤ blk ∧ blk < min space.count 400000 ∧ space.allocated blk = false := by
  rw [candidates, List.mem_filter, List.mem_range'_1]
  simp only [Bool.not_eq_true', and_assoc]
  constructor
  · intro found
    obtain ⟨low, high, free⟩ := found
    exact ⟨low, by omega, free⟩
  · intro found
    obtain ⟨low, high, free⟩ := found
    exact ⟨low, by omega, free⟩

theorem BlockSpace.candidates_increasing (space : BlockSpace) :
    space.candidates.Pairwise (fun first second => first < second) :=
  List.Pairwise.filter _ List.pairwise_lt_range'

section
variable {space : BlockSpace} {holds : σ → Prop} (serves : Serves space holds)
include serves

theorem maxBlk_served {reader : σ} (held : holds reader) : maxBlk reader = min space.count 400000 := by
  rw [maxBlk, serves.blocksCount reader held]
  split <;> omega

theorem scanBlock_served (config : Config) {seen : List Nat} {blk : Nat} {state : Scan σ}
    (inRange : blk < space.count) (held : holds state.reader)
    (examined : state.examined =
      (seen.filter (fun blk => !space.allocated blk)).map (space.examination config)) :
    ∃ after, scanBlock config blk state = .next after ∧ holds after.reader ∧
      after.examined =
        ((seen ++ [blk]).filter (fun blk => !space.allocated blk)).map (space.examination config) := by
  have answer := congrFun (serves.isAllocated _ held) blk
  rcases scanBlock_cases config blk state with
    ⟨allocated, pass⟩ | ⟨free, call, made, ended⟩
  · refine ⟨state, pass, held, ?_⟩
    simp [List.filter_append, examined, ← answer, allocated]
  · obtain ⟨ok, contents, next⟩ := serves.readBlock _ held blk inRange state.sectorBuffer
    rw [← made] at ok contents next
    rcases ended with ⟨_, pass⟩ | ⟨failed, _⟩
    · refine ⟨_, pass, next, ?_⟩
      simp [List.filter_append, Scan.examine, Scan.read, examined, ← answer, free, contents,
        BlockSpace.examination]
    · exact absurd ok failed

/-- A complete scan: every candidate is examined once, in increasing order. -/
theorem scan_served {reader : σ} (held : holds reader) (config : Config) (memory : BlockBuffer) :
    (scan config memory reader).exit = .returned 0 ∧
      (scan config memory reader).examined =
        space.candidates.map (space.examination config) := by
  have same : scanned reader =
      List.range' space.first (min space.count 400000 - space.first) := by
    rw [scanned, serves.firstBlknum reader held, maxBlk_served serves held]
  have start : holds (Scan.start memory reader).reader ∧ (Scan.start memory reader).examined =
      (([] : List Nat).filter (fun blk => !space.allocated blk)).map (space.examination config) :=
    ⟨held, rfl⟩
  obtain ⟨final, finish, _, examined⟩ := run_total
    (fun seen (state : Scan σ) => holds state.reader ∧ state.examined =
      (seen.filter (fun blk => !space.allocated blk)).map (space.examination config))
    (scanned reader)
    (by
      intro seen blk state member invariant
      obtain ⟨held, examined⟩ := invariant
      rw [same, List.mem_range'_1] at member
      exact scanBlock_served serves config (by omega) held examined)
    start
  rw [List.nil_append, same] at examined
  rcases scan_cases config memory reader with ⟨other, same, result⟩ | ⟨_, _, left, _, _⟩
  · cases finish.symm.trans same
    rw [result]
    exact ⟨rfl, examined⟩
  · cases finish.symm.trans left

end

end MinecraftCarve
