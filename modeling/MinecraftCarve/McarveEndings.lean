import MinecraftCarve.FileScan
import MinecraftCarve.ReportOrder
import MinecraftCarve.ScanErrors

/-! How a run of `mcarve` ends, in terms of what the machine answers: a plain file has
only to open, a filesystem has to open, to have blocks of 4 kB and to be read without
an error. -/

namespace MinecraftCarve.McarveEndings
open SectorWords Mcarve

/-- The file can be carved to the end. -/
def Carves (host : Host) (filename : String) : Prop :=
  if identifyExt2FS (host.identifyFile filename) then
    ∃ reader : Ext2BlockReader, host.ext2fsOpen filename = .opened reader.e2fs ∧
      ∀ index < reader.space.candidates.length,
        (reader.e2fs.io (reader.e2fs.calls + index)).errval = 0
  else host.scanFile filename ≠ none

/-- The exceptions of the constructors for filesystems. -/
def refusals : List String :=
  ["Could not open filesystem", "Could not read block bitmap",
    "This ext2/3/4 filesystem does not have 4kB blocks"]

/-- A run succeeds if the file can be carved, or it is ended by an exception: one of its
first steps, with nothing done yet, or a read. -/
structure Ends (host : Host) (filename : String) (outcome : Outcome) : Prop where
  success : outcome.exit = .returned 0 ↔ Carves host filename
  failure : outcome.exit ≠ .returned 0 →
    (∃ what, (what ∈ refusals ∨ what = "Failed to open file: " ++ filename) ∧
        outcome = failed (.terminated what)) ∨
      outcome.exit = .terminated "Could not read block"

/-- A scan of a filesystem ends well if no read is in error, and with the exception of the
first read that is. -/
theorem ext2_ends (config : Config) (memory : BlockBuffer) (reader : Ext2BlockReader) :
    ((scan config memory reader).exit = .returned 0 ↔
        ∀ index < reader.space.candidates.length,
          (reader.e2fs.io (reader.e2fs.calls + index)).errval = 0) ∧
      ((scan config memory reader).exit ≠ .returned 0 →
        (scan config memory reader).exit = .terminated "Could not read block") := by
  rw [ScanErrors.scan_predicted, ← ScanErrors.firstError_none, ScanErrors.predicted]
  cases ScanErrors.firstError reader.e2fs reader.space.candidates.length with
  | none => simp
  | some index => simp

/-- What becomes of the filesystem in a file that was taken for one. -/
theorem construct_cases (opening : Opening) :
    (∃ what ∈ refusals, Ext2BlockReader.construct opening = .error what ∧
        ∀ reader : Ext2BlockReader, opening ≠ .opened reader.e2fs) ∨
      ∃ reader : Ext2BlockReader, opening = .opened reader.e2fs := by
  cases opening with
  | openFailed => exact Or.inl ⟨_, by simp [refusals], rfl, by simp⟩
  | bitmapFailed => exact Or.inl ⟨_, by simp [refusals], rfl, by simp⟩
  | opened fs =>
    by_cases fourK : fs.blocksize = BLOCKSIZE
    · exact Or.inr ⟨⟨fs, fourK⟩, rfl⟩
    · refine Or.inl ⟨_, by simp [refusals], dif_pos fourK, ?_⟩
      rintro reader same
      cases same
      exact fourK reader.fourK

section
variable {host : Host} (config : Config) {filename : String}

/-- The end of a run on a file that was taken for a filesystem. -/
theorem image_ends (recognised : identifyExt2FS (host.identifyFile filename) = true) :
    Ends host filename (carve host config filename) := by
  rcases construct_cases (host.ext2fsOpen filename) with
    ⟨what, listed, built, refused⟩ | ⟨reader, opened⟩
  · have ended : carve host config filename = failed (.terminated what) := by
      simp only [carve, recognised, built, if_true]
    have uncarved : ¬Carves host filename := by
      rw [Carves, if_pos recognised]
      rintro ⟨reader, opened, _⟩
      exact refused reader opened
    rw [ended]
    exact ⟨iff_of_false (by simp [failed]) uncarved, fun _ => Or.inl ⟨what, Or.inl listed, rfl⟩⟩
  · obtain ⟨success, failure⟩ := ext2_ends config host.memory reader
    rw [carve_image config reader.fourK recognised opened]
    refine ⟨success.trans ?_, fun failing => Or.inr (failure failing)⟩
    rw [Carves, if_pos recognised]
    constructor
    · exact fun fine => ⟨reader, opened, fine⟩
    · rintro ⟨other, openedToo, fine⟩
      have same : reader.e2fs = other.e2fs := Opening.opened.inj (opened.symm.trans openedToo)
      obtain ⟨e2fs, fourK⟩ := reader
      cases same
      exact fine

/-- The end of a run on any other file. -/
theorem plain_ends (plain : identifyExt2FS (host.identifyFile filename) = false) :
    Ends host filename (carve host config filename) := by
  have carves : Carves host filename ↔ host.scanFile filename ≠ none := by
    rw [Carves, if_neg (by simp [plain])]
  cases opened : host.scanFile filename with
  | none =>
    have ended : carve host config filename =
        failed (.terminated ("Failed to open file: " ++ filename)) := by
      simp only [carve, plain, opened, Bool.false_eq_true, if_false, FileBlockReader.construct]
    rw [ended]
    refine ⟨iff_of_false (by simp [failed]) ?_, fun _ => Or.inl ⟨_, Or.inr rfl, rfl⟩⟩
    rw [carves, opened]
    simp
  | some device =>
    have ended := FileScan.scan_ended config host.memory device
    rw [carve_plain config plain opened]
    refine ⟨iff_of_true ended ?_, fun failing => absurd ended failing⟩
    rw [carves, opened]
    simp

/-- The end of a run on any file. -/
theorem carve_ends : Ends host filename (carve host config filename) := by
  cases identified : identifyExt2FS (host.identifyFile filename) with
  | true => exact image_ends config identified
  | false => exact plain_ends config identified

end

/-- With an accepted command line a run of `mcarve` reports success if and only if its
file can be carved; no run ends in any other way than these. -/
theorem mcarve_ends (host : Host) (argv : List String) (options : Options)
    (parsed : host.parse argv = .ok options) : Ends host options.file (main host argv) := by
  rw [main_parsed parsed]
  exact carve_ends _

theorem eastern_ends : Ends ReportOrder.easternHost "fs.img"
    (main ReportOrder.easternHost ["mcarve", "fs.img"]) :=
  mcarve_ends ReportOrder.easternHost ["mcarve", "fs.img"] ⟨"fs.img", none, none⟩ rfl

end MinecraftCarve.McarveEndings
