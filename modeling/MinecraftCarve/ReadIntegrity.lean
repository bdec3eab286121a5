import MinecraftCarve.BlockReader

/-! Whether a call of `read_block` gives the requested block or an exception, over
every sequence of calls. The filesystem reader always does. The file reader does
exactly as long as the device grants every seek and every full read. -/

namespace MinecraftCarve.ReadIntegrity
open SectorWords Library.StickySource

/-- One call of a run, with the reader as it was before the call. -/
structure Step (σ : Type*) where
  before : σ
  blk : Nat
  call : ReadCall σ BlockBuffer

/-- A run of calls, each with a buffer of the caller's choice, also after exceptions. -/
def steps {σ : Type*} [BlockReader σ] : List (Nat × BlockBuffer) → σ → List (Step σ)
  | [], _ => []
  | (blk, buffer) :: rest, reader =>
    let call := BlockReader.readBlock reader blk buffer
    ⟨reader, blk, call⟩ :: steps rest call.reader

/-- The whole buffer holds the requested block, or the call threw. -/
def Faithful {σ : Type*} (contents : σ → Nat → List Byte) (step : Step σ) : Prop :=
  (step.call.status = .ok ∧ step.call.buffer.bytes = contents step.before step.blk) ∨
    ∃ what, step.call.status = .threw what

/-- What every call does from a state that the calls preserve, every step of a run does. -/
theorem steps_invariant {σ : Type*} [BlockReader σ] {holds : σ → Prop} {good : Step σ → Prop}
    (one : ∀ reader, holds reader → ∀ blk buffer,
      good ⟨reader, blk, BlockReader.readBlock reader blk buffer⟩ ∧
        holds (BlockReader.readBlock reader blk buffer).reader)
    (calls : List (Nat × BlockBuffer)) {reader : σ} (held : holds reader) :
    ∀ step ∈ steps calls reader, good step := by
  induction calls generalizing reader with
  | nil => simp [steps]
  | cons call rest ih =>
    obtain ⟨blk, buffer⟩ := call
    obtain ⟨first, after⟩ := one reader held blk buffer
    exact List.forall_mem_cons.mpr ⟨first, ih after⟩

theorem ext2_steps_faithful (calls : List (Nat × BlockBuffer)) (reader : Ext2BlockReader) :
    ∀ step ∈ steps calls reader, Faithful (fun reader => reader.e2fs.block) step := by
  have everywhere : ∀ reader : Ext2BlockReader, True → ∀ blk buffer,
      Faithful (fun reader => reader.e2fs.block)
        ⟨reader, blk, BlockReader.readBlock reader blk buffer⟩ ∧ True := by
    intro reader _ blk buffer
    refine ⟨?_, trivial⟩
    rcases reader.readBlock_cases blk buffer with ⟨ok, _, filled⟩ | ⟨threw, _⟩
    · exact Or.inl ⟨ok, filled⟩
    · exact Or.inr ⟨_, threw⟩
  exact steps_invariant everywhere calls trivial

/-- The block as it stands in the file at the moment of the transfer. -/
def current (reader : FileBlockReader) (blk : Nat) : List Byte :=
  FileBlockReader.slice (reader.file.device (reader.file.clock + 1)).contents blk

/-- The device grants every call of a run, the first of them at `clock`. -/
def AllGranted (device : Nat → Reading Byte) : Nat → List Nat → Prop
  | _, [] => True
  | clock, blk :: rest =>
    FileBlockReader.Granted device clock blk ∧ AllGranted device (clock + 2) rest

/-- The seek back to the start and the calls in range are all granted. -/
def Served (device : Nat → Reading Byte) (inRange : List Nat) : Prop :=
  inRange = [] ∨ (device 1).seekFails = false ∧ AllGranted device 2 inRange

/-- The reader after a call: its buffer has no part in that. -/
def after (reader : FileBlockReader) (blk : Nat) : FileBlockReader :=
  if reader.totalBlocks ≤ blk then reader
  else { reader with file := ((reader.sought blk).read BLOCKSIZE).1 }

theorem readBlock_after (reader : FileBlockReader) (blk : Nat) (buffer : BlockBuffer) :
    (BlockReader.readBlock reader blk buffer).reader = after reader blk := by
  by_cases beyond : reader.totalBlocks ≤ blk
  · rw [after, if_pos beyond]
    exact congrArg ReadCall.reader (if_pos beyond)
  · rw [after, if_neg beyond]
    exact (FileBlockReader.readBlock_inRange (by omega) buffer).2.2.2

/-- A call is faithful whatever buffer it is given. -/
def FaithfulCall (reader : FileBlockReader) (blk : Nat) : Prop :=
  ∀ buffer, Faithful current ⟨reader, blk, BlockReader.readBlock reader blk buffer⟩

/-- A run over the given block numbers is faithful whatever buffers it is given. -/
def FaithfulRun (blks : List Nat) (reader : FileBlockReader) : Prop :=
  ∀ calls : List (Nat × BlockBuffer), calls.map Prod.fst = blks →
    ∀ step ∈ steps calls reader, Faithful current step

theorem faithfulRun_nil (reader : FileBlockReader) : FaithfulRun [] reader := by
  intro calls shape
  rw [List.map_eq_nil_iff.mp shape]
  simp [steps]

theorem faithfulRun_cons (blk : Nat) (rest : List Nat) (reader : FileBlockReader) :
    FaithfulRun (blk :: rest) reader ↔
      FaithfulCall reader blk ∧ FaithfulRun rest (after reader blk) := by
  constructor
  · intro run
    constructor
    · intro buffer
      exact run ((blk, buffer) :: rest.map (fun blk => (blk, buffer))) (by simp [Function.comp_def])
        _ (List.mem_cons_self ..)
    · intro calls shape step member
      let buffer : BlockBuffer := ⟨List.replicate BLOCKSIZE 0, List.length_replicate⟩
      apply run ((blk, buffer) :: calls) (by rw [List.map_cons, shape])
      apply List.mem_cons_of_mem
      rw [readBlock_after]
      exact member
  · intro both calls shape
    obtain ⟨call, run⟩ := both
    match calls with
    | (first, buffer) :: later =>
      obtain ⟨rfl, laterShape⟩ := List.cons.inj shape
      refine List.forall_mem_cons.mpr ⟨call buffer, ?_⟩
      rw [readBlock_after]
      exact run later laterShape

theorem faithfulCall_outside {reader : FileBlockReader} {blk : Nat}
    (beyond : reader.totalBlocks ≤ blk) : FaithfulCall reader blk := by
  intro buffer
  exact Or.inr ⟨_, congrArg ReadCall.status (if_pos beyond)⟩

/-- A call in range never throws, so it has to bring in the whole block. -/
theorem faithfulCall_inside {reader : FileBlockReader} {blk : Nat}
    (inRange : blk < reader.totalBlocks) :
    FaithfulCall reader blk ↔ reader.file.fail = false ∧
      FileBlockReader.Granted reader.file.device reader.file.clock blk := by
  constructor
  · intro faithful
    have bytes : ∀ buffer : BlockBuffer,
        overlay ((reader.sought blk).read BLOCKSIZE).2 buffer.bytes = current reader blk := by
      intro buffer
      obtain ⟨ok, _, overlaid, _⟩ := FileBlockReader.readBlock_inRange inRange buffer
      rcases faithful buffer with ⟨_, exact⟩ | ⟨what, threw⟩
      · exact overlaid.symm.trans exact
      · exact absurd (ok.symm.trans threw) (by simp)
    have whole : BLOCKSIZE ≤ ((reader.sought blk).read BLOCKSIZE).2.length := by
      have full := full_of_overlay_eq ((filled 0).size.trans (filled 1).size.symm)
        (by simp [filled]) ((bytes (filled 0)).trans (bytes (filled 1)).symm)
      rwa [(filled 0).size] at full
    obtain ⟨good, stops, long⟩ := Source.read_full_inv (by decide) whole
    obtain ⟨sound, granted, position⟩ := Source.seek_good_inv good
    rw [FileBlockReader.offset_eq inRange, Int.toNat_natCast] at position
    have later : (reader.sought blk).now = reader.file.device (reader.file.clock + 1) :=
      Source.seek_now _ _
    rw [later] at stops long
    rw [FileBlockReader.sought, FileBlockReader.offset_eq inRange, position] at long
    exact ⟨sound, granted, stops, long⟩
  · intro both buffer
    obtain ⟨sound, granted⟩ := both
    exact Or.inl ⟨(FileBlockReader.readBlock_inRange inRange buffer).1,
      (FileBlockReader.readBlock_granted sound inRange granted buffer).1⟩

/-- What a granted call leaves behind for the next one. -/
theorem after_granted {reader : FileBlockReader} {blk : Nat} (sound : reader.file.fail = false)
    (inRange : blk < reader.totalBlocks)
    (granted : FileBlockReader.Granted reader.file.device reader.file.clock blk) :
    (after reader blk).file.fail = false ∧ (after reader blk).file.device = reader.file.device ∧
      (after reader blk).file.clock = reader.file.clock + 2 ∧
      (after reader blk).totalBlocks = reader.totalBlocks := by
  have next : after reader blk =
      { reader with file := ((reader.sought blk).read BLOCKSIZE).1 } := if_neg (by omega)
  have good := (FileBlockReader.readBlock_granted sound inRange granted (filled 0)).2
  rw [(FileBlockReader.readBlock_inRange inRange (filled 0)).2.2.2, ← next] at good
  refine ⟨good.sound, ?_, ?_, ?_⟩
  · simp [next, FileBlockReader.sought]
  · simp [next, FileBlockReader.sought]
  · rw [next]

/-- From a stream without failures a run is faithful just when it is granted. -/
theorem faithfulRun_sound (blks : List Nat) {reader : FileBlockReader}
    (sound : reader.file.fail = false) :
    FaithfulRun blks reader ↔ AllGranted reader.file.device reader.file.clock
      (blks.filter (fun blk => blk < reader.totalBlocks)) := by
  induction blks generalizing reader with
  | nil => simp [faithfulRun_nil, AllGranted]
  | cons blk rest ih =>
    rw [faithfulRun_cons]
    by_cases inRange : blk < reader.totalBlocks
    · rw [List.filter_cons_of_pos (by simpa using inRange), AllGranted, faithfulCall_inside inRange,
        and_iff_right sound]
      apply and_congr_right
      intro granted
      obtain ⟨soundAfter, device, clock, total⟩ := after_granted sound inRange granted
      rw [ih soundAfter, device, clock, total]
    · have beyond : reader.totalBlocks ≤ blk := by omega
      rw [List.filter_cons_of_neg (by simpa using inRange), after, if_pos beyond, ih sound]
      exact and_iff_right (faithfulCall_outside beyond)

/-- On a stream that has failed nothing in range can be read any more. -/
theorem faithfulRun_failed (blks : List Nat) {reader : FileBlockReader}
    (failed : reader.file.fail = true) :
    FaithfulRun blks reader ↔ blks.filter (fun blk => blk < reader.totalBlocks) = [] := by
  induction blks with
  | nil => simp [faithfulRun_nil]
  | cons blk rest ih =>
    rw [faithfulRun_cons]
    by_cases inRange : blk < reader.totalBlocks
    · rw [faithfulCall_inside inRange, failed]
      simp [inRange]
    · have beyond : reader.totalBlocks ≤ blk := by omega
      rw [List.filter_cons_of_neg (by simpa using inRange), after, if_pos beyond, ih]
      exact and_iff_right (faithfulCall_outside beyond)

theorem faithfulRun_iff_served (device : Nat → Reading Byte) (blks : List Nat) :
    FaithfulRun blks (FileBlockReader.ofDevice device) ↔ Served device
      (blks.filter (fun blk => blk < (FileBlockReader.ofDevice device).totalBlocks)) := by
  unfold Served
  by_cases idle : blks.filter (fun blk => blk < (FileBlockReader.ofDevice device).totalBlocks) = []
  · cases failed : (FileBlockReader.ofDevice device).file.fail with
    | true => simp [faithfulRun_failed blks failed, idle]
    | false => simp [faithfulRun_sound blks failed, idle, AllGranted]
  · obtain ⟨blk, member⟩ := List.exists_mem_of_ne_nil _ idle
    have inRange : blk < (FileBlockReader.ofDevice device).totalBlocks := by
      simpa using (List.mem_filter.mp member).2
    have rewound := FileBlockReader.ofDevice_fail (Nat.zero_lt_of_lt inRange)
    cases refused : (device 1).seekFails with
    | true =>
      rw [refused] at rewound
      simp [faithfulRun_failed blks rewound, idle]
    | false =>
      rw [refused] at rewound
      simp [faithfulRun_sound blks rewound, idle]

/-- Both readers under every schedule: the one over a filesystem never leaves stale
bytes behind, the one over a file does as soon as a call in range is not granted. -/
theorem reads_faithful_iff (device : Nat → Reading Byte) (blks : List Nat) :
    ((∀ (reader : Ext2BlockReader) (calls : List (Nat × BlockBuffer)),
        ∀ step ∈ steps calls reader, Faithful (fun reader => reader.e2fs.block) step) ∧
      FaithfulRun blks (FileBlockReader.ofDevice device)) ↔
    Served device
      (blks.filter (fun blk => blk < (FileBlockReader.ofDevice device).totalBlocks)) := by
  rw [faithfulRun_iff_served]
  exact and_iff_right (fun reader calls => ext2_steps_faithful calls reader)

/-- A call in range of a file that has become empty returns with the buffer as it was. -/
theorem stale_of_emptied {reader : FileBlockReader} {blk : Nat}
    (inRange : blk < reader.totalBlocks)
    (emptied : (reader.file.device (reader.file.clock + 1)).contents = []) (buffer : BlockBuffer) :
    (BlockReader.readBlock reader blk buffer).status = .ok ∧
      (BlockReader.readBlock reader blk buffer).buffer = buffer ∧ current reader blk = [] := by
  obtain ⟨ok, _, overlaid, _⟩ := FileBlockReader.readBlock_inRange inRange buffer
  have moved : ((reader.sought blk).read BLOCKSIZE).2 = [] := by
    have bound := (reader.sought blk).read_length_le BLOCKSIZE
    rw [FileBlockReader.sought, Source.seek_now, emptied, List.length_nil, Nat.zero_sub] at bound
    exact List.eq_nil_of_length_eq_zero (Nat.le_zero.mp bound)
  rw [moved, overlay_nil] at overlaid
  refine ⟨ok, BlockBuffer.eq_of_bytes overlaid, ?_⟩
  rw [current, emptied, FileBlockReader.slice, List.drop_nil, List.take_nil]

theorem emptied_not_faithful {reader : FileBlockReader} {blk : Nat}
    (inRange : blk < reader.totalBlocks)
    (emptied : (reader.file.device (reader.file.clock + 1)).contents = []) :
    ¬FaithfulCall reader blk := by
  intro faithful
  obtain ⟨ok, stale, gone⟩ := stale_of_emptied inRange emptied (filled 0)
  rcases faithful (filled 0) with ⟨_, exact⟩ | ⟨what, threw⟩
  · have nothing := congrArg List.length (exact.trans gone)
    rw [BlockBuffer.size] at nothing
    exact absurd nothing (by decide)
  · exact absurd (ok.symm.trans threw) (by simp)

/-- A file of one block that is truncated to nothing once the reader is built. -/
def truncated (clock : Nat) : Reading Byte :=
  if clock < 2 then ⟨(filled 0x41).bytes, by rw [(filled 0x41).size]; decide, false, none⟩
  else ⟨[], by decide, false, none⟩

theorem truncated_call_stale :
    (BlockReader.readBlock (FileBlockReader.ofDevice truncated) 0 (filled 0x42)).status = .ok ∧
      (BlockReader.readBlock (FileBlockReader.ofDevice truncated) 0 (filled 0x42)).buffer =
        filled 0x42 ∧
      current (FileBlockReader.ofDevice truncated) 0 = [] ∧
      ¬FaithfulRun [0] (FileBlockReader.ofDevice truncated) := by
  have whole : (truncated 0).contents.length = BLOCKSIZE := (filled 0x41).size
  have inRange : 0 < (FileBlockReader.ofDevice truncated).totalBlocks := by
    rw [FileBlockReader.ofDevice_totalBlocks, whole]
    decide
  have emptied : ((FileBlockReader.ofDevice truncated).file.device
      ((FileBlockReader.ofDevice truncated).file.clock + 1)).contents = [] := by
    rw [FileBlockReader.ofDevice_device, FileBlockReader.ofDevice_clock]
    rfl
  obtain ⟨ok, stale, gone⟩ := stale_of_emptied inRange emptied (filled 0x42)
  refine ⟨ok, stale, gone, ?_⟩
  intro run
  exact emptied_not_faithful inRange emptied ((faithfulRun_cons 0 [] _).mp run).1

end MinecraftCarve.ReadIntegrity
