import MinecraftCarve.CarveDump
import MinecraftCarve.ReportJoin

/-! An image scanned in two pieces. If the first piece ends with a block, the blocks of
the second follow it, and the report of the whole can be made of the two reports. -/

namespace MinecraftCarve.ImagePieces
open SectorWords Report ScanReport ReportJoin CarveDump Library.StickySource

/-- The number of a block of the second piece in the whole image. -/
def behind (blocks blk : Nat) : Nat := blocks + blk

def moved (blocks : Nat) (examination : Examination) : Examination :=
  { examination with blk := behind blocks examination.blk }

/-- How the scan of an image stands to the scans of its pieces, the first of which has
some number of blocks. -/
structure Joined (blocks : Nat) (one other both : Outcome) : Prop where
  ended : one.exit = .returned 0 ∧ other.exit = .returned 0 ∧ both.exit = .returned 0
  examined : both.examined = one.examined ++ other.examined.map (moved blocks)
  cout : ∃ report reportToo, one.cout = text report ∧ other.cout = text reportToo ∧
    both.cout = text (join report (reportToo.map (renameLine (behind blocks))))

theorem first_contents {first : List Byte} (second : List Byte) {blk : Nat}
    (inFirst : blk < first.length / BLOCKSIZE) :
    (FileBlockReader.space (first ++ second)).contents blk =
      (FileBlockReader.space first).contents blk := by
  have inBoth : blk < (first ++ second).length / BLOCKSIZE :=
    inFirst.trans_le (Nat.div_le_div_right (by simp))
  have inside := FileBlockReader.slice_inside inFirst
  apply BlockBuffer.eq_of_bytes
  rw [FileBlockReader.space_contents inFirst, FileBlockReader.space_contents inBoth,
    FileBlockReader.slice, FileBlockReader.slice, List.drop_append_of_le_length (by omega),
    List.take_append_of_le_length]
  rw [List.length_drop]
  omega

section
variable {first second : List Byte} (whole : BLOCKSIZE ∣ first.length)
include whole

theorem joined_count : (first ++ second).length / BLOCKSIZE =
    first.length / BLOCKSIZE + second.length / BLOCKSIZE := by
  obtain ⟨blocks, size⟩ := whole
  rw [List.length_append, size, Nat.mul_add_div (by decide), Nat.mul_div_cancel_left _ (by decide)]

theorem second_contents (blk : Nat) :
    (FileBlockReader.space (first ++ second)).contents (behind (first.length / BLOCKSIZE) blk) =
      (FileBlockReader.space second).contents blk := by
  have size := Nat.div_mul_cancel whole
  have slices : FileBlockReader.slice (first ++ second) (behind (first.length / BLOCKSIZE) blk) =
      FileBlockReader.slice second blk := by
    rw [FileBlockReader.slice, FileBlockReader.slice, behind, Nat.add_mul, size,
      ← List.drop_drop, List.drop_left]
  apply BlockBuffer.eq_of_bytes
  change overlay (FileBlockReader.slice (first ++ second) _) _ =
    overlay (FileBlockReader.slice second blk) _
  rw [slices]

variable (few : (first ++ second).length / BLOCKSIZE ≤ 400000)
include few

theorem joined_candidates : (FileBlockReader.space (first ++ second)).candidates =
    (FileBlockReader.space first).candidates ++
      (FileBlockReader.space second).candidates.map (behind (first.length / BLOCKSIZE)) := by
  have all : ∀ contents : List Byte, contents.length / BLOCKSIZE ≤ 400000 →
      (FileBlockReader.space contents).candidates = List.range (contents.length / BLOCKSIZE) := by
    intro contents small
    have limit : min (FileBlockReader.space contents).count 400000 = contents.length / BLOCKSIZE :=
      min_eq_left small
    rw [BlockSpace.candidates, limit, List.range_eq_range']
    exact List.filter_eq_self.mpr (fun _ _ => rfl)
  have count : (first ++ second).length / BLOCKSIZE =
      first.length / BLOCKSIZE + second.length / BLOCKSIZE := joined_count whole
  have sum : first.length / BLOCKSIZE + second.length / BLOCKSIZE ≤ 400000 := count ▸ few
  rw [all _ few, all first ((Nat.le_add_right _ _).trans sum),
    all second ((Nat.le_add_left _ _).trans sum), count, List.range_add]
  rfl

theorem joined_examinations (config : Config) :
    (FileBlockReader.space (first ++ second)).candidates.map
        ((FileBlockReader.space (first ++ second)).examination config) =
      (FileBlockReader.space first).candidates.map
          ((FileBlockReader.space first).examination config) ++
        ((FileBlockReader.space second).candidates.map
          ((FileBlockReader.space second).examination config)).map
            (moved (first.length / BLOCKSIZE)) := by
  rw [joined_candidates whole few, List.map_append, List.map_map, List.map_map]
  refine congrArg₂ (fun front rest => front ++ rest) ?_ ?_
  · apply List.map_congr_left
    intro blk member
    have inFirst : blk < first.length / BLOCKSIZE :=
      (BlockSpace.mem_candidates.mp member).2.1.trans_le (Nat.min_le_left _ _)
    rw [BlockSpace.examination, first_contents second inFirst, BlockSpace.examination]
  · apply List.map_congr_left
    intro blk _
    simp only [Function.comp_apply, BlockSpace.examination, second_contents whole, moved]

end

theorem findings_moved (blocks : Nat) (examined : List Examination) :
    findings (examined.map (moved blocks)) = (findings examined).map (renameFinding (behind blocks)) := by
  rw [findings, findings, List.map_map, List.flatMap_map, List.flatMap_map, List.map_flatMap]
  apply List.flatMap_congr
  intro examination _
  exact visit_findings_rename (behind blocks) examination.visit

/-- The scan of an image of two pieces, with as many blocks as a scan looks at, says of
the second what its own scan says, moved, and joins the reports. -/
theorem pieces_scanned (first second : List Byte) (whole : BLOCKSIZE ∣ first.length)
    (few : (first ++ second).length / BLOCKSIZE ≤ 400000) (firstAddressable : first.length < 2 ^ 63)
    (secondAddressable : second.length < 2 ^ 63) (addressable : (first ++ second).length < 2 ^ 63)
    (config : Config) (memory : BlockBuffer) :
    Joined (first.length / BLOCKSIZE)
      (scan config memory (FileBlockReader.ofDevice (steady first firstAddressable)))
      (scan config memory (FileBlockReader.ofDevice (steady second secondAddressable)))
      (scan config memory (FileBlockReader.ofDevice (steady (first ++ second) addressable))) := by
  have scanned := fun (contents : List Byte) (small : contents.length < 2 ^ 63) =>
    scan_served (FileBlockReader.serves contents) (FileBlockReader.steady_ofDevice contents small)
      config memory
  have printed := fun (contents : List Byte) (small : contents.length < 2 ^ 63) =>
    cout_served (FileBlockReader.serves contents) (FileBlockReader.steady_ofDevice contents small)
      config memory
  have examinations := joined_examinations whole few config
  refine ⟨⟨(scanned first _).1, (scanned second _).1, (scanned _ addressable).1⟩, ?_, ?_⟩
  · rw [(scanned first _).2, (scanned second _).2, (scanned _ addressable).2]
    exact examinations
  · refine ⟨_, _, printed first _, printed second _, ?_⟩
    rw [printed _ addressable, examinations, ← lines_rename, ← findings_moved, ← lines_append]
    congr 2
    simp [findings]

/-- An image of two blocks. -/
def twoBlocks : List Byte := (filled 0x41).bytes ++ (filled 0x50).bytes

theorem twoBlocks_length : twoBlocks.length = 8192 := by
  rw [twoBlocks, List.length_append, (filled 0x41).size, (filled 0x50).size]
  rfl

theorem twoBlocks_addressable : twoBlocks.length < 2 ^ 63 := by
  rw [twoBlocks_length]
  decide

theorem twoBlocks_scanned : Joined ((filled 0x41).bytes.length / BLOCKSIZE)
    (scan ⟨0x47798280, 0x60000000⟩ (filled 0)
      (FileBlockReader.ofDevice (steady (filled 0x41).bytes (filled_addressable 0x41))))
    (scan ⟨0x47798280, 0x60000000⟩ (filled 0)
      (FileBlockReader.ofDevice (steady (filled 0x50).bytes (filled_addressable 0x50))))
    (scan ⟨0x47798280, 0x60000000⟩ (filled 0)
      (FileBlockReader.ofDevice (steady twoBlocks twoBlocks_addressable))) := by
  have whole : BLOCKSIZE ∣ (filled 0x41).bytes.length :=
    ⟨1, (filled 0x41).size.trans (Nat.mul_one BLOCKSIZE).symm⟩
  have few : ((filled 0x41).bytes ++ (filled 0x50).bytes).length / BLOCKSIZE ≤ 400000 := by
    rw [List.length_append, (filled 0x41).size, (filled 0x50).size]
    decide
  exact pieces_scanned (filled 0x41).bytes (filled 0x50).bytes whole few (filled_addressable 0x41)
    (filled_addressable 0x50) twoBlocks_addressable ⟨0x47798280, 0x60000000⟩ (filled 0)

end MinecraftCarve.ImagePieces
