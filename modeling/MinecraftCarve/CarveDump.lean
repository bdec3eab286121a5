import MinecraftCarve.SparseDump
import MinecraftCarve.Mcarve
import MinecraftCarve.ReportLines
import MinecraftCarve.ScanReport
import MinecraftCarve.SectorTests

/-! Carving the dump of a filesystem against carving its image. The findings of the
one are those of the other with every block renamed by the table, since blocks that
the dump leaves out give no findings; and grouping commutes with renaming. -/

namespace MinecraftCarve.CarveDump
open SectorWords SectorTests Report ScanReport Library.Runs Library.Records Library.StickySource

def renameFinding (rename : Nat → Nat) (finding : Finding) : Finding :=
  { finding with blk := rename finding.blk }

def renameLine (rename : Nat → Nat) : Line → Line
  | .timestamps blk => .timestamps (rename blk)
  | .offsets blk => .offsets (rename blk)
  | .chunkHeaders blk count => .chunkHeaders (rename blk) count

theorem ofRun_rename (rename : Nat → Nat) (group : List Finding) :
    Line.ofRun (group.map (renameFinding rename)) = (Line.ofRun group).map (renameLine rename) := by
  match group with
  | [] => rfl
  | ⟨.timestamps, blk⟩ :: rest => rfl
  | ⟨.offsets, blk⟩ :: rest => rfl
  | ⟨.chunkHeader, blk⟩ :: rest => simp [Line.ofRun, renameFinding, renameLine]

/-- Renaming the blocks neither splits nor joins a group. -/
theorem lines_rename (rename : Nat → Nat) (findings : List Finding) :
    lines (findings.map (renameFinding rename)) = (lines findings).map (renameLine rename) := by
  have pieces : runs Finding.isHeader (findings.map (renameFinding rename)) =
      (runs Finding.isHeader findings).map (List.map (renameFinding rename)) :=
    runs_map _ (fun _ => rfl) findings
  rw [lines, pieces, List.filterMap_map, lines, List.map_filterMap]
  exact List.filterMap_congr (fun group _ => ofRun_rename rename group)

theorem visit_findings_rename (rename : Nat → Nat) (visit : Visit) :
    { visit with blk := rename visit.blk }.findings =
      visit.findings.map (renameFinding rename) := by
  obtain ⟨blk, timestamps, offsets, encodedChunk⟩ := visit
  cases timestamps <;> cases offsets <;> cases encodedChunk <;> rfl

/-- Items that contribute nothing can be left out. -/
theorem flatMap_filter_idle {α β : Type*} {contribution : α → List β} {kept : α → Bool}
    {items : List α} (idle : ∀ item ∈ items, kept item = false → contribution item = []) :
    (items.filter kept).flatMap contribution = items.flatMap contribution := by
  induction items with
  | nil => rfl
  | cons item rest ih =>
    obtain ⟨first, others⟩ := List.forall_mem_cons.mp idle
    cases keep : kept item with
    | true => rw [List.filter_cons_of_pos keep, List.flatMap_cons, List.flatMap_cons, ih others]
    | false =>
      rw [List.filter_cons_of_neg (by simp [keep]), ih others, List.flatMap_cons, first keep,
        List.nil_append]

/-- The findings of one block with the given contents. -/
def blockFindings (config : Config) (blk : Nat) (sector : BlockBuffer) : List Finding :=
  (Examination.visit ⟨blk, sector, config⟩).findings

theorem blockFindings_rename (config : Config) (rename : Nat → Nat) (blk : Nat)
    (sector : BlockBuffer) : blockFindings config (rename blk) sector =
      (blockFindings config blk sector).map (renameFinding rename) :=
  visit_findings_rename rename (Examination.visit ⟨blk, sector, config⟩)

theorem blank_blockFindings (config : Config) (blk : Nat) {sector : BlockBuffer}
    (blank : Dump.allZeroes sector.bytes = true) : blockFindings config blk sector = [] := by
  have zero : Blank sector.bytes := by
    intro byte member
    simpa using List.all_eq_true.mp blank byte member
  simp [blockFindings, Examination.visit, Visit.findings, blank_not_timestamps zero,
    blank_not_offsets zero, blank_not_encodedChunk zero]

theorem findings_served (space : BlockSpace) (config : Config) (blks : List Nat) :
    findings (blks.map (space.examination config)) =
      blks.flatMap (fun blk => blockFindings config blk (space.contents blk)) := by
  rw [findings, List.map_map, List.flatMap_map]
  rfl

section
variable {reader : Ext2BlockReader}

theorem dump_count : (FileBlockReader.space (Dump.dataFile reader.e2fs)).count =
    (Dump.dumped reader.e2fs).length := by
  change (Dump.dataFile reader.e2fs).length / 4096 = _
  rw [Dump.dataFile_length reader.fourK]
  omega

theorem dump_contents {index : Nat} (inRange : index < (Dump.dumped reader.e2fs).length) :
    (FileBlockReader.space (Dump.dataFile reader.e2fs)).contents index =
      reader.space.contents (Dump.dumped reader.e2fs)[index] := by
  have inSpace : index < (Dump.dataFile reader.e2fs).length / BLOCKSIZE :=
    inRange.trans_eq (dump_count).symm
  apply BlockBuffer.eq_of_bytes
  rw [FileBlockReader.space_contents inSpace]
  exact Dump.blockAt_dataFile reader.fourK inRange

theorem dumped_eq_table : Dump.dumped reader.e2fs =
    (List.range (Dump.dumped reader.e2fs).length).map (Dump.idAt (Dump.idFile reader.e2fs)) := by
  apply List.ext_getElem
  · rw [List.length_map, List.length_range]
  · intro index inRange _
    rw [List.getElem_map, List.getElem_range, Dump.idAt_idFile inRange]

variable (few : reader.e2fs.blocksCount ≤ 400000)
include few

/-- The blocks that are scanned beyond the dumped ones are all zeros. -/
theorem image_findings (config : Config) :
    findings (reader.space.candidates.map (reader.space.examination config)) =
      (Dump.dumped reader.e2fs).flatMap
        (fun blk => blockFindings config blk (reader.space.contents blk)) := by
  have limit : min reader.space.count 400000 = reader.e2fs.blocksCount := min_eq_left few
  have kept : Dump.dumped reader.e2fs =
      reader.space.candidates.filter (fun blk => !Dump.allZeroes (reader.e2fs.block blk)) := by
    rw [BlockSpace.candidates, limit, List.filter_filter]
    apply List.filter_congr
    intro blk _
    exact Bool.and_comm _ _
  have idle : ∀ blk ∈ reader.space.candidates, (!Dump.allZeroes (reader.e2fs.block blk)) = false →
      blockFindings config blk (reader.space.contents blk) = [] := by
    intro blk _ zero
    have blank : Dump.allZeroes (reader.e2fs.block blk) = true := by simpa using zero
    exact blank_blockFindings config blk blank
  calc
    findings (reader.space.candidates.map (reader.space.examination config))
        = reader.space.candidates.flatMap
            (fun blk => blockFindings config blk (reader.space.contents blk)) :=
      findings_served reader.space config reader.space.candidates
    _ = (reader.space.candidates.filter (fun blk => !Dump.allZeroes (reader.e2fs.block blk))).flatMap
          (fun blk => blockFindings config blk (reader.space.contents blk)) :=
      (flatMap_filter_idle idle).symm
    _ = (Dump.dumped reader.e2fs).flatMap
          (fun blk => blockFindings config blk (reader.space.contents blk)) := by rw [kept]

theorem dumped_few : (Dump.dumped reader.e2fs).length ≤ 400000 := by
  have filtered := List.length_filter_le (Dump.dumps reader.e2fs) (Dump.range reader.e2fs)
  rw [Dump.range, List.length_range'] at filtered
  rw [Dump.dumped, Dump.range]
  omega

/-- All records of the data file are scanned. -/
theorem dump_candidates : (FileBlockReader.space (Dump.dataFile reader.e2fs)).candidates =
    List.range (Dump.dumped reader.e2fs).length := by
  rw [BlockSpace.candidates, dump_count, min_eq_left (dumped_few few), List.range_eq_range']
  exact List.filter_eq_self.mpr (fun _ _ => rfl)

/-- The findings of the image are those of the dump, renamed by the table. -/
theorem findings_renamed (config : Config) :
    findings (reader.space.candidates.map (reader.space.examination config)) =
      (findings ((FileBlockReader.space (Dump.dataFile reader.e2fs)).candidates.map
        ((FileBlockReader.space (Dump.dataFile reader.e2fs)).examination config))).map
          (renameFinding (Dump.idAt (Dump.idFile reader.e2fs))) := by
  have record : ∀ index ∈ List.range (Dump.dumped reader.e2fs).length,
      blockFindings config (Dump.idAt (Dump.idFile reader.e2fs) index)
          (reader.space.contents (Dump.idAt (Dump.idFile reader.e2fs) index)) =
        (blockFindings config index
          ((FileBlockReader.space (Dump.dataFile reader.e2fs)).contents index)).map
            (renameFinding (Dump.idAt (Dump.idFile reader.e2fs))) := by
    intro index member
    have inRange := List.mem_range.mp member
    rw [dump_contents inRange, ← blockFindings_rename, Dump.idAt_idFile inRange]
  rw [findings_served (FileBlockReader.space _), dump_candidates few, List.map_flatMap]
  calc
    findings (reader.space.candidates.map (reader.space.examination config))
        = (Dump.dumped reader.e2fs).flatMap
            (fun blk => blockFindings config blk (reader.space.contents blk)) :=
      image_findings few config
    _ = ((List.range (Dump.dumped reader.e2fs).length).map
          (Dump.idAt (Dump.idFile reader.e2fs))).flatMap
            (fun blk => blockFindings config blk (reader.space.contents blk)) := by
      rw [← dumped_eq_table]
    _ = _ := by
      rw [List.flatMap_map]
      exact List.flatMap_congr record

end

theorem steady_congr {first second : List Byte} (same : first = second)
    (addressable : second.length < 2 ^ 63) :
    steady first (same ▸ addressable) = steady second addressable := by
  subst same
  rfl

/-- One report for both runs: on the image it has, in the place of the number of each record,
the block that the table gives for it. -/
def Agrees (table : List Byte) (dump image : Outcome) : Prop :=
  ∃ report, dump.exit = .returned 0 ∧ dump.cout = text report ∧
    image.exit = .returned 0 ∧ image.cout = text (report.map (renameLine (Dump.idAt table)))

/-- Carving the data file agrees with carving the image, if the outputs are files of their
own. -/
theorem carve_dump_agrees (fs : Ext2Filesystem) (quiet : fs.Quiet) (fourK : fs.blocksize = 4096)
    (few : fs.blocksCount ≤ 400000) (dumping : Dump.Host) (argv : List String)
    (options : Dump.Options) (untroubled : Dump.Untroubled dumping argv options fs)
    (both : options.output ≠ "" ∧ options.table ≠ "") (separate : Dump.Separate dumping options)
    (carving : Mcarve.Host) (config : Config) (image dump : String)
    (recognised : identifyExt2FS (carving.identifyFile image) = true)
    (opened : carving.ext2fsOpen image = .opened fs)
    (rejected : identifyExt2FS (carving.identifyFile dump) = false)
    (found : ∃ addressable, carving.scanFile dump =
      some (steady (Dump.left dumping options (Dump.main dumping argv) .data) addressable)) :
    Agrees (Dump.left dumping options (Dump.main dumping argv) .table)
      (Mcarve.carve carving config dump) (Mcarve.carve carving config image) := by
  obtain ⟨addressable, scanned⟩ := found
  have success := Dump.main_succeeds untroubled quiet fourK.le
  have recorded := Dump.main_recorded dumping argv
  obtain ⟨data, ids⟩ := Dump.main_complete untroubled.parsed untroubled.opened success
  have written : Dump.left dumping options (Dump.main dumping argv) .data = Dump.dataFile fs :=
    (Dump.left_data separate recorded both.1).trans (data both.1).1
  have table : Dump.left dumping options (Dump.main dumping argv) .table = Dump.idFile fs :=
    (Dump.left_table separate recorded both.2).trans (ids both.2).1
  let reader : Ext2BlockReader := ⟨fs, fourK⟩
  have few : reader.e2fs.blocksCount ≤ 400000 := few
  have held : Ext2BlockReader.Steady reader.space reader := ⟨quiet, rfl⟩
  have small : (Dump.dataFile fs).length < 2 ^ 63 := written ▸ addressable
  rw [steady_congr written small] at scanned
  have dumpServes := FileBlockReader.serves (Dump.dataFile fs)
  have dumpHeld := FileBlockReader.steady_ofDevice (Dump.dataFile fs) small
  have imageServes := Ext2BlockReader.serves reader.space
  have renamed := congrArg lines (findings_renamed few config)
  rw [lines_rename] at renamed
  rw [Mcarve.carve_plain config rejected scanned, Mcarve.carve_image config fourK recognised opened,
    table]
  refine ⟨_, (scan_served dumpServes dumpHeld config carving.memory).1,
    cout_served dumpServes dumpHeld config carving.memory,
    (scan_served imageServes held config carving.memory).1, ?_⟩
  exact (cout_served imageServes held config carving.memory).trans (congrArg text renamed)

/-- The beginning of an image, up to the magic number. -/
def imageStart : List Byte := List.replicate 1080 0 ++ [0x53, 0xef]

theorem imageStart_addressable : imageStart.length < 2 ^ 63 := by decide +kernel

/-- A machine with the image of a filesystem and another file. -/
def carvingHost (fs : Ext2Filesystem) (file : List Byte) (addressable : file.length < 2 ^ 63) :
    Mcarve.Host where
  clock := Time.fixedZone 0 0
  parse _ := .error 0
  identifyFile name :=
    if name = "fs.img" then some (steady imageStart imageStart_addressable)
    else some (steady file addressable)
  ext2fsOpen _ := .opened fs
  scanFile _ := some (steady file addressable)
  memory := filled 0

theorem fourBlock_small : (Dump.dataFile Dump.fourBlockFs).length < 2 ^ 63 := by
  rw [Dump.dataFile_length rfl, Dump.fourBlockFs_dumped]
  decide

/-- The same machine with the dump of the image. -/
def dumpHost : Mcarve.Host :=
  carvingHost Dump.fourBlockFs (Dump.dataFile Dump.fourBlockFs) fourBlock_small

theorem dumpHost_recognised : identifyExt2FS (dumpHost.identifyFile "fs.img") = true := by
  decide +kernel

theorem dumpHost_rejected : identifyExt2FS (dumpHost.identifyFile "blocks") = false := by
  decide +kernel

theorem dumpHost_found : ∃ addressable, dumpHost.scanFile "blocks" =
    some (steady (Dump.left (Dump.workingHost Dump.fourBlockFs) Dump.bothOutputs
      (Dump.main (Dump.workingHost Dump.fourBlockFs) ["dump_unused_blocks"]) .data) addressable) := by
  obtain ⟨written, _⟩ := Dump.workingHost_complete Dump.fourBlockFs_quiet (by decide)
    ["dump_unused_blocks"]
  exact ⟨written ▸ fourBlock_small, congrArg some (steady_congr written fourBlock_small).symm⟩

theorem fourBlock_agrees : Agrees
    (Dump.left (Dump.workingHost Dump.fourBlockFs) Dump.bothOutputs
      (Dump.main (Dump.workingHost Dump.fourBlockFs) ["dump_unused_blocks"]) .table)
    (Mcarve.carve dumpHost ⟨0x47798280, 0x60000000⟩ "blocks")
    (Mcarve.carve dumpHost ⟨0x47798280, 0x60000000⟩ "fs.img") :=
  carve_dump_agrees Dump.fourBlockFs Dump.fourBlockFs_quiet rfl (by decide)
    (Dump.workingHost Dump.fourBlockFs) ["dump_unused_blocks"] Dump.bothOutputs
    (Dump.workingHost_untroubled Dump.fourBlockFs _) ⟨by decide, by decide⟩
    (Dump.workingHost_separate Dump.fourBlockFs) dumpHost ⟨0x47798280, 0x60000000⟩ "fs.img" "blocks"
    dumpHost_recognised rfl dumpHost_rejected dumpHost_found

/-- The one file that both outputs have been written to. -/
def sharedDump : List Byte :=
  Dump.left (Dump.sharedHost Dump.twoBlockFs) Dump.oneOutput
    (Dump.main (Dump.sharedHost Dump.twoBlockFs) ["dump_unused_blocks"]) .data

theorem sharedDump_small : sharedDump.length < 2 ^ 63 := by decide +kernel

def sharedCarving : Mcarve.Host := carvingHost Dump.twoBlockFs sharedDump sharedDump_small

/-- The numbers have overwritten the beginning of the first record. -/
theorem sharedDump_unmarked : findings ((FileBlockReader.space sharedDump).candidates.map
    ((FileBlockReader.space sharedDump).examination ⟨0x47798280, 0x60000000⟩)) = [] := by
  decide +kernel

theorem twoBlock_marked : findings
    ((⟨Dump.twoBlockFs, rfl⟩ : Ext2BlockReader).space.candidates.map
      ((⟨Dump.twoBlockFs, rfl⟩ : Ext2BlockReader).space.examination ⟨0x47798280, 0x60000000⟩)) =
    [⟨.chunkHeader, 1⟩] := by
  rw [image_findings (by decide), Dump.twoBlockFs_dumped]
  decide +kernel

/-- With both outputs in one file a report is lost. -/
theorem shared_disagrees :
    Dump.twoBlockFs.Quiet ∧
      Dump.Untroubled (Dump.sharedHost Dump.twoBlockFs) ["dump_unused_blocks"] Dump.oneOutput
        Dump.twoBlockFs ∧
      identifyExt2FS (sharedCarving.identifyFile "fs.img") = true ∧
      identifyExt2FS (sharedCarving.identifyFile "out") = false ∧
      ¬Agrees (Dump.left (Dump.sharedHost Dump.twoBlockFs) Dump.oneOutput
          (Dump.main (Dump.sharedHost Dump.twoBlockFs) ["dump_unused_blocks"]) .table)
        (Mcarve.carve sharedCarving ⟨0x47798280, 0x60000000⟩ "out")
        (Mcarve.carve sharedCarving ⟨0x47798280, 0x60000000⟩ "fs.img") := by
  have recognised : identifyExt2FS (sharedCarving.identifyFile "fs.img") = true := by
    decide +kernel
  have rejected : identifyExt2FS (sharedCarving.identifyFile "out") = false := by
    decide +kernel
  refine ⟨Dump.twoBlockFs_quiet, Dump.sharedHost_untroubled _ _, recognised, rejected, ?_⟩
  rintro ⟨report, -, dumpText, -, imageText⟩
  let reader : Ext2BlockReader := ⟨Dump.twoBlockFs, rfl⟩
  have held : Ext2BlockReader.Steady reader.space reader := ⟨Dump.twoBlockFs_quiet, rfl⟩
  rw [Mcarve.carve_plain _ rejected rfl, cout_served (FileBlockReader.serves sharedDump)
    (FileBlockReader.steady_ofDevice sharedDump sharedDump_small), sharedDump_unmarked] at dumpText
  obtain rfl : lines [] = report := text_injective dumpText
  rw [Mcarve.carve_image _ reader.fourK recognised rfl,
    cout_served (Ext2BlockReader.serves reader.space) held, twoBlock_marked] at imageText
  have same : lines [⟨.chunkHeader, 1⟩] = [] := text_injective imageText
  exact absurd same (by decide)

end MinecraftCarve.CarveDump
