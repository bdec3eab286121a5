import MinecraftCarve.Mcarve
import MinecraftCarve.ScanReport
import MinecraftCarve.SectorTests

/-! Two scans of one input for two windows, side by side. The window decides which blocks
count as timestamps and nothing else: not the course of the scan, not the other tests. -/

namespace MinecraftCarve.WindowScans
open SectorWords Sector Report ScanReport SectorTests Library.Loops

/-- The same examination for another window. -/
def rewindow (config : Config) (examination : Examination) : Examination :=
  { examination with config := config }

/-- A finding that does not depend on the window. -/
def windowless (finding : Finding) : Bool := finding.kind != .timestamps

/-- How the outcome for one window stands to the outcome for another. -/
structure Rewindowed (config other : Config) (outcome outcomeToo : Outcome) : Prop where
  exit : outcomeToo.exit = outcome.exit
  reads : outcomeToo.reads = outcome.reads
  examined : outcomeToo.examined = outcome.examined.map (rewindow other)
  windowless : (findings outcomeToo.examined).filter windowless =
    (findings outcome.examined).filter windowless
  wider : other.startTime ≤ config.startTime → config.stopTime ≤ other.stopTime →
    (findings outcome.examined).Sublist (findings outcomeToo.examined)

theorem hasTimestamps_wider {buffer : List Byte} {config other : Config}
    (start : other.startTime ≤ config.startTime) (stop : config.stopTime ≤ other.stopTime)
    (accepted : hasTimestamps buffer config.startTime config.stopTime = true) :
    hasTimestamps buffer other.startTime other.stopTime = true := by
  rw [hasTimestamps_iff] at accepted ⊢
  obtain ⟨occupied, window⟩ := accepted
  refine ⟨occupied, ?_⟩
  intro time member nonzero
  obtain ⟨low, high⟩ := window time member nonzero
  exact ⟨(BitVec.le_def.mp start).trans low, high.trans (BitVec.le_def.mp stop)⟩

theorem visit_windowless (config : Config) (examination : Examination) :
    (rewindow config examination).visit.findings.filter windowless =
      examination.visit.findings.filter windowless := by
  have alike : ∀ (blk : Nat) (one other offsets encodedChunk : Bool),
      (Visit.findings ⟨blk, one, offsets, encodedChunk⟩).filter windowless =
        (Visit.findings ⟨blk, other, offsets, encodedChunk⟩).filter windowless := by
    intro blk one other offsets encodedChunk
    cases one <;> cases other <;> cases offsets <;> cases encodedChunk <;> rfl
  exact alike ..

theorem visit_wider {examination : Examination} {other : Config}
    (start : other.startTime ≤ examination.config.startTime)
    (stop : examination.config.stopTime ≤ other.stopTime) :
    examination.visit.findings.Sublist (rewindow other examination).visit.findings := by
  have accepted : examination.visit.timestamps = true →
      (rewindow other examination).visit.timestamps = true := hasTimestamps_wider start stop
  refine List.Sublist.append (List.Sublist.append ?_ ?_) ?_
  · cases held : examination.visit.timestamps with
    | false => exact List.nil_sublist _
    | true =>
      rw [accepted held]
      exact List.Sublist.refl _
  · exact List.Sublist.refl _
  · exact List.Sublist.refl _

theorem findings_windowless (config : Config) (examined : List Examination) :
    (findings (examined.map (rewindow config))).filter windowless =
      (findings examined).filter windowless := by
  simp only [findings, List.flatMap_map, List.filter_flatMap]
  exact List.flatMap_congr (fun examination _ => visit_windowless config examination)

theorem findings_wider {config other : Config} (start : other.startTime ≤ config.startTime)
    (stop : config.stopTime ≤ other.stopTime) {examined : List Examination}
    (window : ∀ examination ∈ examined, examination.config = config) :
    (findings examined).Sublist (findings (examined.map (rewindow other))) := by
  induction examined with
  | nil => exact List.Sublist.refl _
  | cons examination rest ih =>
    obtain ⟨rfl, others⟩ := List.forall_mem_cons.mp window
    exact (visit_wider start stop).append (ih others)

section
variable {σ : Type*} [BlockReader σ]

/-- Two scans at the same point, one for each window. -/
structure SameScan (other : Config) (scan scanToo : Scan σ) : Prop where
  reader : scanToo.reader = scan.reader
  sectorBuffer : scanToo.sectorBuffer = scan.sectorBuffer
  reads : scanToo.reads = scan.reads
  examined : scanToo.examined = scan.examined.map (rewindow other)

theorem scanBlock_same (config other : Config) (blk : Nat) {state stateToo : Scan σ}
    (same : SameScan other state stateToo) : Flow.Related (SameScan other)
      (scanBlock config blk state) (scanBlock other blk stateToo) := by
  obtain ⟨reader, sectorBuffer, reads, examined⟩ := same
  simp only [scanBlock, reader, sectorBuffer]
  cases BlockReader.isAllocated state.reader blk with
  | true => exact ⟨reader, sectorBuffer, reads, examined⟩
  | false =>
    simp only [Bool.false_eq_true, if_false]
    generalize BlockReader.readBlock state.reader blk state.sectorBuffer = call
    have readsToo : (stateToo.read blk call).reads = (state.read blk call).reads := by
      simp [Scan.read, reads]
    cases call.status with
    | threw what => exact ⟨⟨rfl, rfl, readsToo, examined⟩, rfl⟩
    | overran => exact ⟨⟨rfl, rfl, readsToo, examined⟩, rfl⟩
    | ok =>
      refine ⟨rfl, rfl, readsToo, ?_⟩
      simp [Scan.examine, Scan.read, examined, rewindow]

theorem scan_rewindowed (config other : Config) (memory : BlockBuffer) (reader : σ) :
    Rewindowed config other (scan config memory reader) (scan other memory reader) := by
  have both := run_related (scanned reader)
    (fun blk _ _ _ related => scanBlock_same config other blk related)
    (⟨rfl, rfl, rfl, rfl⟩ : SameScan other (Scan.start memory reader) (Scan.start memory reader))
  have course : (scan other memory reader).exit = (scan config memory reader).exit ∧
      (scan other memory reader).reads = (scan config memory reader).reads ∧
      (scan other memory reader).examined =
        (scan config memory reader).examined.map (rewindow other) := by
    rcases scan_cases config memory reader with
      ⟨final, finish, same⟩ | ⟨final, exit, finish, _, same⟩ <;>
    rcases scan_cases other memory reader with
      ⟨finalToo, finishToo, sameToo⟩ | ⟨finalToo, exitToo, finishToo, _, sameToo⟩ <;>
    rw [finish, finishToo] at both
    · rw [same, sameToo]
      exact ⟨rfl, both.reads, both.examined⟩
    · exact both.elim
    · exact both.elim
    · rw [same, sameToo]
      exact ⟨both.2.symm, both.1.reads, both.1.examined⟩
  obtain ⟨exit, reads, examined⟩ := course
  refine ⟨exit, reads, examined, ?_, ?_⟩
  · rw [examined]
    exact findings_windowless other _
  · intro start stop
    rw [examined]
    exact findings_wider start stop (scan_window config memory reader)

end

theorem rewindowed_failed (config other : Config) (exit : Exit) :
    Rewindowed config other (Mcarve.failed exit) (Mcarve.failed exit) :=
  ⟨rfl, rfl, rfl, rfl, fun _ _ => List.Sublist.refl _⟩

theorem carve_rewindowed (host : Mcarve.Host) (config other : Config) (filename : String) :
    Rewindowed config other (Mcarve.carve host config filename)
      (Mcarve.carve host other filename) := by
  unfold Mcarve.carve
  split
  · split
    · exact rewindowed_failed config other _
    · exact scan_rewindowed config other host.memory _
  · split
    · exact rewindowed_failed config other _
    · exact scan_rewindowed config other host.memory _

/-- The clock and the zone of the machine only decide which timestamps count. A program
run on another machine reads and examines the same, ends the same and finds the same
but for timestamps; and where its window is wider, it finds all that the other did. -/
theorem clock_governs_timestamps_only (host : Mcarve.Host) (clock : Time.Clock)
    (argv : List String) : Rewindowed (Mcarve.defaultConfig host.clock) (Mcarve.defaultConfig clock)
      (Mcarve.main host argv) (Mcarve.main { host with clock := clock } argv) := by
  cases parsed : host.parse argv with
  | error code =>
    have refused : ∀ clock, Mcarve.main { host with clock := clock } argv =
        Mcarve.failed (.returned code) := by
      intro clock
      simp only [Mcarve.main, Mcarve.defaults, Time.parseTime_default, Mcarve.stopTime,
        beq_self_eq_true, if_true, parsed]
    have own := refused host.clock
    rw [refused clock]
    change Rewindowed _ _ (Mcarve.main { host with clock := host.clock } argv) _
    rw [own]
    exact rewindowed_failed _ _ _
  | ok options =>
    have parsedToo : ({ host with clock := clock } : Mcarve.Host).parse argv = .ok options := parsed
    rw [Mcarve.main_parsed parsed, Mcarve.main_parsed parsedToo]
    exact carve_rewindowed host _ _ options.file

end MinecraftCarve.WindowScans
