import MinecraftCarve.MappedFile
import MinecraftCarve.ScanReport

/-! What a scan makes of its input depends on the blocks that are to be examined and on
their contents, not on the reader that brings them in nor on anything else in the input. -/

namespace MinecraftCarve.ReaderSubstitution
open SectorWords Report ScanReport MappedFile Library.Loops Library.StickySource

/-- Every read that returns has asked for one whole block. -/
def WholeBlocks (σ : Type*) [BlockReader σ] : Prop :=
  ∀ (reader : σ) (blk : Nat) (buffer : BlockBuffer),
    (BlockReader.readBlock reader blk buffer).status = .ok →
      (BlockReader.readBlock reader blk buffer).requested = BLOCKSIZE

theorem fileReader_wholeBlocks : WholeBlocks FileBlockReader := by
  intro reader blk buffer ok
  by_cases inRange : blk < reader.totalBlocks
  · exact (FileBlockReader.readBlock_inRange inRange buffer).2.1
  · have refused : BlockReader.readBlock reader blk buffer =
        ⟨reader, buffer, 0, .threw ("Block number out of range: " ++ toString blk)⟩ :=
      if_pos (not_lt.mp inRange)
    rw [refused] at ok
    cases ok

theorem mmapReader_wholeBlocks : WholeBlocks MmapBlockReader := by
  intro reader blk buffer ok
  by_cases beyond : reader.totalBlocks ≤ blk
  · have refused : BlockReader.readBlock reader blk buffer =
        ⟨reader, buffer, 0, .threw ("Block number out of range: " ++ toString blk)⟩ :=
      if_pos beyond
    rw [refused] at ok
    cases ok
  · exact congrArg ReadCall.requested (if_neg beyond)

section
variable {σ τ : Type*} [BlockReader σ] [BlockReader τ]

/-- A scan that comes to its end has read the blocks that it examined. -/
theorem scan_reads (whole : WholeBlocks σ) {config : Config} {memory : BlockBuffer} {reader : σ}
    (normal : (scan config memory reader).exit = .returned 0) :
    (scan config memory reader).reads =
      (scan config memory reader).examined.map
        (fun examination => Transfer.whole examination.blk) := by
  have step : ∀ (seen : List Nat) blk (state after : Scan σ), state.reads = state.examined.map
        (fun examination => Transfer.whole examination.blk) →
      scanBlock config blk state = .next after → after.reads = after.examined.map
        (fun examination => Transfer.whole examination.blk) := by
    intro _ blk state after held pass
    rcases scanBlock_cases config blk state with
      ⟨_, same⟩ | ⟨_, call, made, ⟨ok, same⟩ | ⟨_, _, _, left⟩⟩
    · cases same.symm.trans pass
      exact held
    · cases same.symm.trans pass
      have requested : call.requested = BLOCKSIZE := by
        rw [made] at ok ⊢
        exact whole _ _ _ ok
      simp [Scan.examine, Scan.read, held, requested, Transfer.whole]
    · cases left.symm.trans pass
  rcases scan_cases config memory reader with ⟨final, finish, same⟩ | ⟨_, _, _, failing, same⟩
  · rw [same]
    exact @run_invariant _ _ _ _ _ step (scanned reader) [] _ _ rfl finish
  · rw [same] at normal
    exact absurd normal failing

/-- Two readers, each serving its own space, whose candidates and their contents agree. -/
theorem scan_determined {space spaceToo : BlockSpace} {holds : σ → Prop} {holdsToo : τ → Prop}
    (serves : Serves space holds) (servesToo : Serves spaceToo holdsToo) (whole : WholeBlocks σ)
    (wholeToo : WholeBlocks τ) {reader : σ} {readerToo : τ} (held : holds reader)
    (heldToo : holdsToo readerToo) (candidates : space.candidates = spaceToo.candidates)
    (contents : ∀ blk ∈ space.candidates, space.contents blk = spaceToo.contents blk)
    (config : Config) (memory memoryToo : BlockBuffer) :
    scan config memory reader = scan config memoryToo readerToo := by
  obtain ⟨ended, examined⟩ := scan_served serves held config memory
  obtain ⟨endedToo, examinedToo⟩ := scan_served servesToo heldToo config memoryToo
  have same : (scan config memory reader).examined = (scan config memoryToo readerToo).examined := by
    rw [examined, examinedToo, ← candidates]
    apply List.map_congr_left
    intro blk member
    rw [BlockSpace.examination, BlockSpace.examination, contents blk member]
  have cout : (scan config memory reader).cout = (scan config memoryToo readerToo).cout := by
    rw [scan_cout ended, scan_cout endedToo, same]
  have reads : (scan config memory reader).reads = (scan config memoryToo readerToo).reads := by
    rw [scan_reads whole ended, scan_reads wholeToo endedToo, same]
  cases one : scan config memory reader
  cases other : scan config memoryToo readerToo
  rw [one, other] at same cout reads
  rw [one] at ended
  rw [other] at endedToo
  simp only at same cout reads ended endedToo
  rw [same, cout, reads, ended, endedToo]

end

/-- On a file that does not change and can be mapped, a scan through the mapping is the
scan through the stream: in its end, its output, its examinations and its reads. -/
theorem mapping_for_stream (filename : String) (file : RegularFile)
    (granted : (file.mmap file.contents.length).isSome) (config : Config)
    (memory memoryToo : BlockBuffer) :
    ∃ mapped, MmapBlockReader.construct filename (some file.mapped) = .ok mapped ∧
      ∃ streamed, FileBlockReader.construct filename file.device = .ok streamed ∧
        scan config memory mapped = scan config memoryToo streamed := by
  have built := mmap_construct filename file
  obtain ⟨fileData, shown⟩ := Option.isSome_iff_exists.mp granted
  rw [shown] at built
  obtain ⟨mapped, constructed, shows⟩ := built
  refine ⟨mapped, constructed, _, rfl, ?_⟩
  exact scan_determined (MmapBlockReader.serves file.contents) (FileBlockReader.serves file.contents)
    mmapReader_wholeBlocks fileReader_wholeBlocks shows
    (FileBlockReader.steady_ofDevice file.contents file.addressable) rfl (fun _ _ => rfl)
    config memory memoryToo

theorem filledFile_mapping_for_stream :
    ∃ mapped, MmapBlockReader.construct "world.img"
        (some (granting _ (filled_addressable 0x41)).mapped) = .ok mapped ∧
      ∃ streamed, FileBlockReader.construct "world.img"
          (granting _ (filled_addressable 0x41)).device = .ok streamed ∧
        scan ⟨0x47798280, 0x60000000⟩ (filled 0) mapped =
          scan ⟨0x47798280, 0x60000000⟩ (filled 1) streamed :=
  mapping_for_stream "world.img" (granting _ (filled_addressable 0x41))
    (granting_maps (filled_addressable 0x41) (filled_occupied 0x41)) ⟨0x47798280, 0x60000000⟩
    (filled 0) (filled 1)

/-- The blocks of a file that are scanned. -/
def scannedBlocks (contents : List Byte) : Nat := min (contents.length / BLOCKSIZE) 400000

/-- What follows the last scanned block of a file, a part of a block or anything from
block 400000 on, has no influence. -/
theorem tail_without_influence (contents other : List Byte) (addressable : contents.length < 2 ^ 63)
    (addressableToo : other.length < 2 ^ 63)
    (count : scannedBlocks contents = scannedBlocks other)
    (front : contents.take (scannedBlocks contents * BLOCKSIZE) =
      other.take (scannedBlocks contents * BLOCKSIZE))
    (config : Config) (memory memoryToo : BlockBuffer) :
    scan config memory (FileBlockReader.ofDevice (steady contents addressable)) =
      scan config memoryToo (FileBlockReader.ofDevice (steady other addressableToo)) := by
  have candidates : (FileBlockReader.space contents).candidates =
      (FileBlockReader.space other).candidates := by
    have counts : min (FileBlockReader.space contents).count 400000 =
        min (FileBlockReader.space other).count 400000 := count
    rw [BlockSpace.candidates, BlockSpace.candidates, counts]
    rfl
  refine scan_determined (FileBlockReader.serves contents) (FileBlockReader.serves other)
    fileReader_wholeBlocks fileReader_wholeBlocks
    (FileBlockReader.steady_ofDevice contents addressable)
    (FileBlockReader.steady_ofDevice other addressableToo) candidates ?_ config memory memoryToo
  intro blk member
  have below : blk < scannedBlocks contents := (BlockSpace.mem_candidates.mp member).2.1
  have slices : ∀ bytes : List Byte, FileBlockReader.slice bytes blk =
      FileBlockReader.slice (bytes.take (scannedBlocks contents * BLOCKSIZE)) blk := by
    intro bytes
    have room := Nat.mul_le_mul_right BLOCKSIZE (Nat.succ_le_of_lt below)
    rw [Nat.succ_mul] at room
    rw [FileBlockReader.slice, FileBlockReader.slice, List.drop_take, List.take_take,
      Nat.min_eq_left (by omega)]
  apply BlockBuffer.eq_of_bytes
  change overlay (FileBlockReader.slice contents blk) _ = overlay (FileBlockReader.slice other blk) _
  rw [slices contents, slices other, front]

/-- A file of one block, and the same with part of another behind it. -/
def withTail (byte : Byte) : List Byte := (filled byte).bytes ++ [1, 2, 3]

theorem withTail_addressable (byte : Byte) : (withTail byte).length < 2 ^ 63 := by
  rw [withTail, List.length_append, (filled byte).size]
  decide

theorem withTail_scanned :
    scan ⟨0x47798280, 0x60000000⟩ (filled 0)
        (FileBlockReader.ofDevice (steady (filled 0x41).bytes (filled_addressable 0x41))) =
      scan ⟨0x47798280, 0x60000000⟩ (filled 1)
        (FileBlockReader.ofDevice (steady (withTail 0x41) (withTail_addressable 0x41))) := by
  have one : scannedBlocks (filled 0x41).bytes = 1 := by
    rw [scannedBlocks, (filled 0x41).size]
    decide
  have oneToo : scannedBlocks (withTail 0x41) = 1 := by
    rw [scannedBlocks, withTail, List.length_append, (filled 0x41).size]
    decide
  have whole : 1 * BLOCKSIZE = (filled 0x41).bytes.length := by rw [(filled 0x41).size, Nat.one_mul]
  refine tail_without_influence _ _ (filled_addressable 0x41) (withTail_addressable 0x41)
    (one.trans oneToo.symm) ?_ ⟨0x47798280, 0x60000000⟩ (filled 0) (filled 1)
  rw [one, whole, withTail, List.take_left, List.take_length]

end MinecraftCarve.ReaderSubstitution
