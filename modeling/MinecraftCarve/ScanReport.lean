import MinecraftCarve.Scan
import MinecraftCarve.ReportLines

/-! What a scan examines and reports. The text of every run that ends normally is a
report of its examinations; a reader that serves a block space is examined at exactly
the unallocated blocks of its range below the limit of the loop. -/

namespace MinecraftCarve.ScanReport
open SectorWords Sector Report

/-- The reports a list of examinations calls for. -/
def findings (examined : List Examination) : List Finding :=
  (examined.map Examination.visit).flatMap Visit.findings

theorem countP_headers (examined : List Examination) : (findings examined).countP Finding.isHeader =
    examined.countP (fun examination => hasEncodedChunk examination.sector.bytes) := by
  rw [findings, countP_findings, List.countP_map]
  rfl

/-- Whatever the three tests answer on the visited blocks, the text is that of
complete lines which account for every finding; and it is the text of each run of
the loop that ends normally. -/
theorem printed_lines_report {σ : Type*} [BlockReader σ] :
    (∀ visits : List Visit, ∃ report,
      printVisits visits = ⟨text report, 0⟩ ∧
      Reports (visits.flatMap Visit.findings) report ∧
      (report.map Line.headerCount).sum = visits.countP (fun visit => visit.encodedChunk)) ∧
    ∀ (config : Config) (memory : BlockBuffer) (reader : σ),
      (scan config memory reader).exit = .returned 0 →
      (scan config memory reader).cout =
        (printVisits ((scan config memory reader).examined.map Examination.visit)).cout := by
  constructor
  · intro visits
    have report := lines_report (visits.flatMap Visit.findings)
    exact ⟨_, printVisits_eq visits, report, report.total.trans (countP_findings visits)⟩
  · intro config memory reader normal
    exact scan_cout normal

/-- The run ended normally after examining the unallocated blocks from the first one
to `bound`, each once and in increasing order, and reported what the tests found. -/
structure ScanExact (space : BlockSpace) (bound : Nat) (config : Config) (outcome : Outcome) :
    Prop where
  ended : outcome.exit = .returned 0
  increasing : (outcome.examined.map Examination.blk).Pairwise (fun first second => first < second)
  range : ∀ blk, blk ∈ outcome.examined.map Examination.blk ↔
    space.first ≤ blk ∧ blk < bound ∧ space.allocated blk = false
  sectors : ∀ examination ∈ outcome.examined,
    examination.sector = space.contents examination.blk ∧ examination.config = config
  report : ∃ report, outcome.cout = text report ∧
    (∀ blk, Line.timestamps blk ∈ report ↔
      (space.first ≤ blk ∧ blk < bound ∧ space.allocated blk = false) ∧
        hasTimestamps (space.contents blk).bytes config.startTime config.stopTime = true) ∧
    (∀ blk, Line.offsets blk ∈ report ↔
      (space.first ≤ blk ∧ blk < bound ∧ space.allocated blk = false) ∧
        hasOffsets (space.contents blk).bytes = true) ∧
    (report.map Line.headerCount).sum =
      (List.range' space.first (bound - space.first)).countP (fun blk =>
        !space.allocated blk && hasEncodedChunk (space.contents blk).bytes)

theorem mem_findings_iff {examined : List Examination} {finding : Finding} :
    finding ∈ findings examined ↔ ∃ examination ∈ examined,
      examination.blk = finding.blk ∧ examination.visit.answer finding.kind = true := by
  simp only [findings, List.flatMap_map, List.mem_flatMap, mem_findings, Examination.visit]

section
variable {σ : Type*} [BlockReader σ] {space : BlockSpace} {holds : σ → Prop}
  (serves : Serves space holds)
include serves

/-- A finding is made of a candidate whose contents pass the test. -/
theorem mem_findings_served {reader : σ} (held : holds reader) (config : Config)
    (memory : BlockBuffer) (finding : Finding) :
    finding ∈ findings (scan config memory reader).examined ↔
      finding.blk ∈ space.candidates ∧
        (space.examination config finding.blk).visit.answer finding.kind = true := by
  rw [mem_findings_iff, (scan_served serves held config memory).2]
  simp [BlockSpace.examination]

theorem cout_served {reader : σ} (held : holds reader) (config : Config) (memory : BlockBuffer) :
    (scan config memory reader).cout =
      text (lines (findings (space.candidates.map (space.examination config)))) := by
  obtain ⟨ended, examined⟩ := scan_served serves held config memory
  rw [scan_cout ended, printVisits_eq, examined]
  rfl

theorem scan_exact {reader : σ} (held : holds reader) (config : Config) (memory : BlockBuffer) :
    ScanExact space (min space.count 400000) config (scan config memory reader) := by
  obtain ⟨ended, examined⟩ := scan_served serves held config memory
  have blks : (scan config memory reader).examined.map Examination.blk = space.candidates := by
    rw [examined, List.map_map]
    exact List.map_id _
  have report := lines_report (findings (scan config memory reader).examined)
  have made := mem_findings_served serves held config memory
  refine ⟨ended, ?_, ?_, ?_, ?_⟩
  · rw [blks]
    exact space.candidates_increasing
  · intro blk
    rw [blks]
    exact BlockSpace.mem_candidates
  · rw [examined]
    exact List.forall_mem_map.mpr (fun blk _ => ⟨rfl, rfl⟩)
  · refine ⟨lines (findings (scan config memory reader).examined), ?_, ?_, ?_, ?_⟩
    · rw [examined]
      exact cout_served serves held config memory
    · intro blk
      rw [← BlockSpace.mem_candidates]
      exact (table_mem_lines ⟨.timestamps, blk⟩ rfl).trans (made _)
    · intro blk
      rw [← BlockSpace.mem_candidates]
      exact (table_mem_lines ⟨.offsets, blk⟩ rfl).trans (made _)
    · calc
        ((lines (findings (scan config memory reader).examined)).map Line.headerCount).sum
            = (findings (scan config memory reader).examined).countP Finding.isHeader := report.total
        _ = space.candidates.countP (fun blk => hasEncodedChunk (space.contents blk).bytes) := by
          rw [countP_headers, examined, List.countP_map]
          rfl
        _ = _ := by
          rw [BlockSpace.candidates, List.countP_filter]
          apply List.countP_congr
          intro blk _
          simp [and_comm]

end

/-- The scan over a filesystem without read errors, and over a file that can be read. -/
theorem scans_exact (config : Config) (memory : BlockBuffer) :
    (∀ reader : Ext2BlockReader, reader.e2fs.Quiet →
      ScanExact reader.space (min reader.space.count 400000) config (scan config memory reader)) ∧
    ∀ (contents : List Byte) (addressable : contents.length < 2 ^ 63),
      ScanExact (FileBlockReader.space contents)
        (min (FileBlockReader.space contents).count 400000) config
        (scan config memory
          (FileBlockReader.ofDevice (Library.StickySource.steady contents addressable))) := by
  constructor
  · intro reader quiet
    exact scan_exact (Ext2BlockReader.serves reader.space) ⟨quiet, rfl⟩ config memory
  · intro contents addressable
    exact scan_exact (FileBlockReader.serves contents)
      (FileBlockReader.steady_ofDevice contents addressable) config memory

/-- A filesystem of four blocks: two are in use, one is empty and one holds timestamps. -/
def mixedReader : Ext2BlockReader :=
  ⟨Ext2Filesystem.ofImage 2 0 4 (fun blk => blk == 0 || blk == 2)
    (fun index => if index / 4096 = 1 then 0 else 0x50), rfl⟩

theorem mixedReader_scan_exact : ScanExact mixedReader.space (min mixedReader.space.count 400000)
    ⟨0x47798280, 0x60000000⟩ (scan ⟨0x47798280, 0x60000000⟩ (filled 0) mixedReader) :=
  (scans_exact ⟨0x47798280, 0x60000000⟩ (filled 0)).1 mixedReader
    (Ext2Filesystem.ofImage_quiet _ _ _ _ _)

/-- A filesystem of 400001 blocks: the last one is free and holds timestamps, all
others are allocated. -/
def lateFs : Ext2Filesystem :=
  Ext2Filesystem.ofImage 2 0 400001 (fun blk => Nat.blt blk 400000) (fun _ => 0x50)

def lateReader : Ext2BlockReader := ⟨lateFs, rfl⟩

def lateWindow : Config := ⟨0x47798280, 0x60000000⟩

theorem lateReader_unexamined : (scan lateWindow (filled 0) lateReader).examined = [] := by
  have held : Ext2BlockReader.Steady lateReader.space lateReader := ⟨Ext2Filesystem.ofImage_quiet _ _ _ _ _, rfl⟩
  have served := scan_served (Ext2BlockReader.serves lateReader.space) held lateWindow (filled 0)
  have none : lateReader.space.candidates = [] := by
    apply List.eq_nil_iff_forall_not_mem.mpr
    intro blk member
    obtain ⟨_, below, free⟩ := BlockSpace.mem_candidates.mp member
    have beyond : ¬blk < 400000 := by
      rw [← Nat.blt_eq]
      exact Bool.eq_false_iff.mp free
    omega
  rw [served.2, none, List.map_nil]

/-- Up to `blocks_count` a scan is not exact: the free block at the end is left out. -/
theorem lateReader_last_left_out :
    400000 < lateReader.space.count ∧ lateReader.space.allocated 400000 = false ∧
      hasTimestamps (lateReader.space.contents 400000).bytes lateWindow.startTime
        lateWindow.stopTime = true ∧
      ¬ScanExact lateReader.space lateReader.space.count lateWindow
        (scan lateWindow (filled 0) lateReader) := by
  refine ⟨by decide, rfl, by decide +kernel, ?_⟩
  intro exact
  have examined := (exact.range 400000).mpr ⟨by decide, by decide, rfl⟩
  rw [lateReader_unexamined] at examined
  exact absurd examined (List.not_mem_nil)

end MinecraftCarve.ScanReport
