import MinecraftCarve.ReadIntegrity
import MinecraftCarve.ScanReport

/-! A scan of a plain file on any device. The state of the stream is not looked at, so
the scan always comes to its end; from the first call that the device does not grant,
every block is examined with the bytes that this call has left in the buffer. -/

namespace MinecraftCarve.FileScan
open SectorWords ReadIntegrity Library.Loops Library.StickySource

/-- The constructor's seek back and the call for a block are granted, in a scan that
calls for every block from 0 on. -/
structure Sound (device : Nat → Reading Byte) (blk : Nat) : Prop where
  rewound : (device 1).seekFails = false
  granted : FileBlockReader.Granted device (2 + 2 * blk) blk

/-- A block as it stands in the file when it is read. -/
def fresh (device : Nat → Reading Byte) (blk : Nat) : BlockBuffer :=
  (FileBlockReader.space (device (3 + 2 * blk)).contents).contents blk

/-- What is in the buffer before a block is read, as long as all is granted. -/
def before (memory : BlockBuffer) (device : Nat → Reading Byte) : Nat → BlockBuffer
  | 0 => memory
  | blk + 1 => fresh device blk

/-- The call for block `good` is the first that is not granted. It leaves the beginning
of the block, if anything, over the block before it. -/
structure Broken (memory : BlockBuffer) (device : Nat → Reading Byte) (good : Nat)
    (stale : BlockBuffer) : Prop where
  sound : ∀ blk < good, Sound device blk
  refused : ¬Sound device good
  left : ∃ moved, moved <+: FileBlockReader.slice (device (3 + 2 * good)).contents good ∧
    stale.bytes = overlay moved (before memory device good).bytes

def freshExaminations (config : Config) (device : Nat → Reading Byte) (count : Nat) :
    List Examination :=
  (List.range count).map (fun blk => ⟨blk, fresh device blk, config⟩)

def staleExaminations (config : Config) (stale : BlockBuffer) (good count : Nat) :
    List Examination :=
  (List.range' good (count - good)).map (fun blk => ⟨blk, stale, config⟩)

/-- After `count` blocks that were all granted. -/
structure Granting (config : Config) (memory : BlockBuffer) (device : Nat → Reading Byte)
    (count : Nat) (scan : Scan FileBlockReader) : Prop where
  fail : scan.reader.file.fail = false
  clock : scan.reader.file.clock = 2 + 2 * count
  buffer : scan.sectorBuffer = before memory device count
  sound : ∀ blk < count, Sound device blk
  examined : scan.examined = freshExaminations config device count

/-- After `count` blocks on a stream that has failed, with the first `good` granted. -/
structure Failing (config : Config) (memory : BlockBuffer) (device : Nat → Reading Byte)
    (count : Nat) (scan : Scan FileBlockReader) (good : Nat) : Prop where
  fail : scan.reader.file.fail = true
  early : good ≤ count
  broken : Broken memory device good scan.sectorBuffer
  examined : scan.examined = freshExaminations config device good ++
    staleExaminations config scan.sectorBuffer good count

/-- What holds after `count` blocks of a file with `total` blocks. -/
structure Passed (config : Config) (memory : BlockBuffer) (device : Nat → Reading Byte)
    (total count : Nat) (scan : Scan FileBlockReader) : Prop where
  total : scan.reader.totalBlocks = total
  unchanged : scan.reader.file.device = device
  phase : (device 1).seekFails = false ∧ Granting config memory device count scan ∨
    ∃ good, Failing config memory device count scan good

theorem freshExaminations_succ (config : Config) (device : Nat → Reading Byte) (count : Nat) :
    freshExaminations config device (count + 1) =
      freshExaminations config device count ++ [⟨count, fresh device count, config⟩] := by
  simp [freshExaminations, List.range_succ]

theorem staleExaminations_succ (config : Config) (stale : BlockBuffer) {good count : Nat}
    (early : good ≤ count) : staleExaminations config stale good (count + 1) =
      staleExaminations config stale good count ++ [⟨count, stale, config⟩] := by
  have length : count + 1 - good = (count - good) + 1 := by omega
  have last : good + (count - good) = count := by omega
  rw [staleExaminations, length, List.range'_1_concat, List.map_append, last]
  rfl

theorem fresh_of_granted {device : Nat → Reading Byte} {blk : Nat}
    (granted : FileBlockReader.Granted device (2 + 2 * blk) blk) :
    (fresh device blk).bytes = FileBlockReader.slice (device (3 + 2 * blk)).contents blk := by
  have later : 2 + 2 * blk + 1 = 3 + 2 * blk := by omega
  have long := granted.long
  rw [later] at long
  apply FileBlockReader.space_contents
  have whole := Nat.div_le_div_right (c := BLOCKSIZE) long
  have pieces : (blk * BLOCKSIZE + BLOCKSIZE) / BLOCKSIZE = blk + 1 := by
    rw [← Nat.succ_mul, Nat.mul_div_cancel _ (by decide)]
  omega

section
variable {reader : FileBlockReader} {blk : Nat} (inRange : blk < reader.totalBlocks)
include inRange

/-- A failed stream leaves the buffer as it is. -/
theorem readBlock_failed (failed : reader.file.fail = true) (buffer : BlockBuffer) :
    (reader.readBlock blk buffer).status = .ok ∧
      (reader.readBlock blk buffer).buffer = buffer ∧
      (reader.readBlock blk buffer).reader.file.fail = true := by
  obtain ⟨ok, _, overlaid, next⟩ := FileBlockReader.readBlock_inRange inRange buffer
  obtain ⟨still, nothing⟩ :=
    Source.read_failed (Source.seek_failed failed (FileBlockReader.offset blk)) BLOCKSIZE
  refine ⟨ok, BlockBuffer.eq_of_bytes ?_, ?_⟩
  · rw [overlaid, FileBlockReader.sought, nothing, overlay_nil]
  · rw [next]
    exact still

/-- A call that is not granted fails the stream and leaves part of the block at most. -/
theorem readBlock_refused (sound : reader.file.fail = false)
    (refused : ¬FileBlockReader.Granted reader.file.device reader.file.clock blk)
    (buffer : BlockBuffer) : (reader.readBlock blk buffer).status = .ok ∧
      (reader.readBlock blk buffer).reader.file.fail = true ∧
      ∃ moved, moved <+:
          FileBlockReader.slice (reader.file.device (reader.file.clock + 1)).contents blk ∧
        (reader.readBlock blk buffer).buffer.bytes = overlay moved buffer.bytes := by
  obtain ⟨ok, _, overlaid, next⟩ := FileBlockReader.readBlock_inRange inRange buffer
  have offset := FileBlockReader.offset_eq inRange
  have later : (reader.sought blk).now = reader.file.device (reader.file.clock + 1) :=
    Source.seek_now _ _
  rw [overlaid, next]
  cases denied : reader.file.now.seekFails with
  | true =>
    have failed : (reader.sought blk).fail = true := by
      rw [FileBlockReader.sought, offset, Source.fail_seek, denied, Bool.or_true]
    obtain ⟨still, nothing⟩ := Source.read_failed failed BLOCKSIZE
    exact ⟨ok, still, [], List.nil_prefix, by rw [nothing]⟩
  | false =>
    obtain ⟨_, position⟩ := Source.seek_good sound denied
    rw [← offset] at position
    refine ⟨ok, ?_, _, ?_, rfl⟩
    · by_contra unfailed
      have full := Source.read_sound (Bool.eq_false_iff.mpr unfailed)
      obtain ⟨_, stops, long⟩ := Source.read_full_inv (by decide) full
      rw [later] at stops long
      rw [FileBlockReader.sought, position] at long
      exact refused ⟨denied, stops, long⟩
    · have available : (reader.sought blk).available BLOCKSIZE =
          FileBlockReader.slice (reader.file.device (reader.file.clock + 1)).contents blk := by
        rw [Source.available, later, FileBlockReader.sought, position]
        rfl
      rw [← available]
      exact Source.read_prefix _ _

theorem readBlock_fixed (buffer : BlockBuffer) :
    (reader.readBlock blk buffer).reader.totalBlocks = reader.totalBlocks ∧
      (reader.readBlock blk buffer).reader.file.device = reader.file.device ∧
      (reader.readBlock blk buffer).reader.file.clock = reader.file.clock + 2 := by
  obtain ⟨_, _, _, next⟩ := FileBlockReader.readBlock_inRange inRange buffer
  rw [next]
  exact ⟨rfl, by simp [FileBlockReader.sought], by simp [FileBlockReader.sought]⟩

end

section
variable {config : Config} {memory : BlockBuffer} {device : Nat → Reading Byte}
  {total count : Nat} {scan : Scan FileBlockReader}

/-- A pass over a block in range always goes on and examines what is in the buffer. -/
theorem scanBlock_file (config : Config) (inRange : count < scan.reader.totalBlocks) :
    ∃ after, scanBlock config count scan = .next after ∧
      after.reader = (scan.reader.readBlock count scan.sectorBuffer).reader ∧
      after.sectorBuffer = (scan.reader.readBlock count scan.sectorBuffer).buffer ∧
      after.examined = scan.examined ++
        [⟨count, (scan.reader.readBlock count scan.sectorBuffer).buffer, config⟩] := by
  rcases scanBlock_cases config count scan with
    ⟨allocated, _⟩ | ⟨_, call, made, ⟨_, pass⟩ | ⟨failed, _⟩⟩
  · cases allocated
  · subst made
    exact ⟨_, pass, rfl, rfl, rfl⟩
  · rw [made] at failed
    exact absurd (FileBlockReader.readBlock_inRange inRange scan.sectorBuffer).1 failed

/-- A granted call goes on with the next block, a call that is not granted is the last
one to change the buffer. -/
theorem Granting.next {after : Scan FileBlockReader} (rewound : (device 1).seekFails = false)
    (granting : Granting config memory device count scan)
    (inRange : count < scan.reader.totalBlocks) (unchanged : scan.reader.file.device = device)
    (reader : after.reader = (scan.reader.readBlock count scan.sectorBuffer).reader)
    (buffer : after.sectorBuffer = (scan.reader.readBlock count scan.sectorBuffer).buffer)
    (examined : after.examined = scan.examined ++
      [⟨count, (scan.reader.readBlock count scan.sectorBuffer).buffer, config⟩]) :
    Granting config memory device (count + 1) after ∨
      Failing config memory device (count + 1) after count := by
  have clock := granting.clock
  by_cases granted : FileBlockReader.Granted device (2 + 2 * count) count
  · have called : FileBlockReader.Granted scan.reader.file.device scan.reader.file.clock count := by
      rw [unchanged, clock]
      exact granted
    obtain ⟨bytes, good⟩ :=
      FileBlockReader.readBlock_granted granting.fail inRange called scan.sectorBuffer
    have filled : (scan.reader.readBlock count scan.sectorBuffer).buffer = fresh device count := by
      apply BlockBuffer.eq_of_bytes
      rw [fresh_of_granted granted, bytes, unchanged, clock]
      congr 3
      omega
    left
    refine ⟨reader ▸ good.sound, ?_, buffer.trans filled, ?_, ?_⟩
    · rw [reader, (readBlock_fixed inRange _).2.2, clock]
      omega
    · intro blk earlier
      rcases Nat.lt_succ_iff_lt_or_eq.mp earlier with before | rfl
      · exact granting.sound blk before
      · exact ⟨rewound, granted⟩
    · rw [examined, filled, granting.examined, freshExaminations_succ]
  · have called : ¬FileBlockReader.Granted scan.reader.file.device scan.reader.file.clock count := by
      rw [unchanged, clock]
      exact granted
    obtain ⟨_, failed, moved, upTo, left⟩ :=
      readBlock_refused inRange granting.fail called scan.sectorBuffer
    have moment : 2 + 2 * count + 1 = 3 + 2 * count := by omega
    rw [unchanged, clock, moment] at upTo
    rw [← buffer, granting.buffer] at left
    right
    refine ⟨reader ▸ failed, Nat.le_succ _, ⟨granting.sound, ?_, moved, upTo, left⟩, ?_⟩
    · exact fun sound => granted sound.granted
    · rw [examined, granting.examined, ← buffer, staleExaminations_succ config _ (Nat.le_refl _)]
      simp [staleExaminations]

theorem Failing.next {after : Scan FileBlockReader} {good : Nat}
    (failing : Failing config memory device count scan good)
    (inRange : count < scan.reader.totalBlocks)
    (reader : after.reader = (scan.reader.readBlock count scan.sectorBuffer).reader)
    (buffer : after.sectorBuffer = (scan.reader.readBlock count scan.sectorBuffer).buffer)
    (examined : after.examined = scan.examined ++
      [⟨count, (scan.reader.readBlock count scan.sectorBuffer).buffer, config⟩]) :
    Failing config memory device (count + 1) after good := by
  obtain ⟨_, same, failed⟩ := readBlock_failed inRange failing.fail scan.sectorBuffer
  rw [same] at buffer examined
  refine ⟨reader ▸ failed, Nat.le_succ_of_le failing.early, buffer ▸ failing.broken, ?_⟩
  rw [examined, failing.examined, buffer, staleExaminations_succ config _ failing.early,
    List.append_assoc]

theorem Passed.next (passed : Passed config memory device total count scan)
    (inRange : count < total) : ∃ after, scanBlock config count scan = .next after ∧
      Passed config memory device total (count + 1) after := by
  have inFile : count < scan.reader.totalBlocks := passed.total ▸ inRange
  obtain ⟨after, pass, reader, buffer, examined⟩ := scanBlock_file config inFile
  obtain ⟨total, device, _⟩ := readBlock_fixed inFile scan.sectorBuffer
  refine ⟨after, pass, ?_, ?_, ?_⟩
  · rw [reader, total, passed.total]
  · rw [reader, device, passed.unchanged]
  · rcases passed.phase with ⟨rewound, granting⟩ | ⟨good, failing⟩
    · rcases granting.next rewound inFile passed.unchanged reader buffer examined with
        still | failing
      · exact Or.inl ⟨rewound, still⟩
      · exact Or.inr ⟨count, failing⟩
    · exact Or.inr ⟨good, failing.next inFile reader buffer examined⟩

theorem passed_start (config : Config) (memory : BlockBuffer) {device : Nat → Reading Byte}
    (occupied : 0 < (FileBlockReader.ofDevice device).totalBlocks) :
    Passed config memory device (FileBlockReader.ofDevice device).totalBlocks 0
      (Scan.start memory (FileBlockReader.ofDevice device)) := by
  have fail := FileBlockReader.ofDevice_fail occupied
  refine ⟨rfl, FileBlockReader.ofDevice_device device, ?_⟩
  cases denied : (device 1).seekFails with
  | false =>
    refine Or.inl ⟨rfl, fail.trans denied, FileBlockReader.ofDevice_clock device, rfl, ?_, rfl⟩
    exact fun blk early => absurd early (Nat.not_lt_zero blk)
  | true =>
    refine Or.inr ⟨0, fail.trans denied, Nat.le_refl _, ⟨?_, ?_, [], List.nil_prefix, ?_⟩, rfl⟩
    · exact fun blk early => absurd early (Nat.not_lt_zero blk)
    · intro sound
      cases denied.symm.trans sound.rewound
    · exact (overlay_nil _).symm

end

/-- How a scan of `count` blocks of a file comes out on a device: to its end in any case,
with all blocks as they were when they were read, or from the first call that is not
granted on with the bytes that it left. -/
structure Scanned (config : Config) (memory : BlockBuffer) (device : Nat → Reading Byte)
    (count : Nat) (outcome : Outcome) : Prop where
  ended : outcome.exit = .returned 0
  examined : ((∀ blk < count, Sound device blk) ∧
      outcome.examined = freshExaminations config device count) ∨
    ∃ good < count, ∃ stale, Broken memory device good stale ∧
      outcome.examined = freshExaminations config device good ++
        staleExaminations config stale good count

theorem scanned_file (device : Nat → Reading Byte) : scanned (FileBlockReader.ofDevice device) =
    List.range (min (FileBlockReader.ofDevice device).totalBlocks 400000) := by
  have limit : maxBlk (FileBlockReader.ofDevice device) =
      min (FileBlockReader.ofDevice device).totalBlocks 400000 := by
    change (if 400000 < (FileBlockReader.ofDevice device).totalBlocks then 400000
      else (FileBlockReader.ofDevice device).totalBlocks) = _
    split <;> omega
  rw [scanned, limit, List.range_eq_range']
  rfl

theorem scan_empty (config : Config) (memory : BlockBuffer) {device : Nat → Reading Byte}
    (empty : (FileBlockReader.ofDevice device).totalBlocks = 0) :
    (scan config memory (FileBlockReader.ofDevice device)).exit = .returned 0 ∧
      (scan config memory (FileBlockReader.ofDevice device)).examined = [] := by
  have none : scanned (FileBlockReader.ofDevice device) = [] := by
    rw [scanned_file, empty]
    rfl
  rw [scan, none]
  exact ⟨rfl, rfl⟩

/-- A scan of a file that has blocks passes them all. -/
theorem scan_passed (config : Config) (memory : BlockBuffer) {device : Nat → Reading Byte}
    (occupied : 0 < (FileBlockReader.ofDevice device).totalBlocks) :
    (scan config memory (FileBlockReader.ofDevice device)).exit = .returned 0 ∧
      ∃ final, (scan config memory (FileBlockReader.ofDevice device)).examined = final.examined ∧
        Passed config memory device (FileBlockReader.ofDevice device).totalBlocks
          (min (FileBlockReader.ofDevice device).totalBlocks 400000) final := by
  obtain ⟨final, finish, passed⟩ := run_along
    (fun seen state => Passed config memory device
      (FileBlockReader.ofDevice device).totalBlocks seen.length state)
    (scanned (FileBlockReader.ofDevice device))
    (by
      intro seen blk rest state split passed
      rw [scanned_file] at split
      have place : seen.length < (List.range
          (min (FileBlockReader.ofDevice device).totalBlocks 400000)).length := by
        rw [split, List.length_append, List.length_cons]
        omega
      have number : blk = seen.length := by
        have found := List.getElem_range place
        simp only [split, List.getElem_append_right (Nat.le_refl _), Nat.sub_self,
          List.getElem_cons_zero] at found
        exact found
      rw [List.length_range] at place
      rw [number, List.length_append, List.length_singleton]
      exact passed.next (place.trans_le (Nat.min_le_left _ _)))
    (passed_start config memory occupied)
  rw [scanned_file, List.length_range] at passed
  rw [scan, finish]
  exact ⟨rfl, final, rfl, passed⟩

theorem scan_ended (config : Config) (memory : BlockBuffer) (device : Nat → Reading Byte) :
    (scan config memory (FileBlockReader.ofDevice device)).exit = .returned 0 := by
  rcases Nat.eq_zero_or_pos (FileBlockReader.ofDevice device).totalBlocks with empty | occupied
  · exact (scan_empty config memory empty).1
  · exact (scan_passed config memory occupied).1

/-- No device makes a scan of a plain file fail, or stop early, or say that it was not
granted something. -/
theorem scan_any_device (config : Config) (memory : BlockBuffer) (device : Nat → Reading Byte) :
    Scanned config memory device (min (FileBlockReader.ofDevice device).totalBlocks 400000)
      (scan config memory (FileBlockReader.ofDevice device)) := by
  refine ⟨scan_ended config memory device, ?_⟩
  rcases Nat.eq_zero_or_pos (FileBlockReader.ofDevice device).totalBlocks with empty | occupied
  · rw [empty, (scan_empty config memory empty).2]
    refine Or.inl ⟨?_, rfl⟩
    exact fun blk early => absurd (early.trans_le (Nat.min_le_left _ _)) (Nat.not_lt_zero blk)
  · obtain ⟨_, final, outcome, passed⟩ := scan_passed config memory occupied
    rw [outcome]
    rcases passed.phase with ⟨_, granting⟩ | ⟨good, failing⟩
    · exact Or.inl ⟨granting.sound, granting.examined⟩
    · rcases Nat.lt_or_eq_of_le failing.early with early | rfl
      · exact Or.inr ⟨good, early, _, failing.broken, failing.examined⟩
      · refine Or.inl ⟨failing.broken.sound, ?_⟩
        rw [failing.examined]
        simp [staleExaminations]

end MinecraftCarve.FileScan
