import MinecraftCarve.CarveDump
import MinecraftCarve.SectorExclusive

/-! The order of a report. A scan goes up through the blocks, so its lines never go back;
and since a late window leaves room for one answer at most, no block is named twice. -/

namespace MinecraftCarve.ReportOrder
open SectorWords Sector Report ScanReport Library.Loops Library.Runs

/-- The block that a line names, the first one for a group of headers. -/
def named : Line → Nat
  | .timestamps blk => blk
  | .offsets blk => blk
  | .chunkHeaders blk _ => blk

section
variable {σ : Type*} [BlockReader σ]

/-- Whatever the reader does, the blocks are examined in the order of the loop. -/
theorem examined_sublist (config : Config) (memory : BlockBuffer) (reader : σ) :
    ((scan config memory reader).examined.map Examination.blk).Sublist (scanned reader) := by
  have step : ∀ seen blk (state after : Scan σ), (state.examined.map Examination.blk).Sublist seen →
      scanBlock config blk state = .next after →
      (after.examined.map Examination.blk).Sublist (seen ++ [blk]) := by
    intro seen blk state after held pass
    rcases scanBlock_cases config blk state with
      ⟨_, same⟩ | ⟨_, call, _, ⟨_, same⟩ | ⟨_, _, _, left⟩⟩
    · cases same.symm.trans pass
      exact held.trans (List.sublist_append_left _ _)
    · cases same.symm.trans pass
      have more : (((state.read blk call).examine ⟨blk, call.buffer, config⟩).examined.map
          Examination.blk) = state.examined.map Examination.blk ++ [blk] := List.map_append
      rw [more]
      exact held.append (List.Sublist.refl _)
    · cases left.symm.trans pass
  have start : ((Scan.start memory reader).examined.map Examination.blk).Sublist [] :=
    List.Sublist.refl []
  have ends := run_ends (fun seen (state : Scan σ) =>
    (state.examined.map Examination.blk).Sublist seen) step (scanned reader) start
  rw [(scan_records config memory reader).1]
  rcases ends with
    ⟨final, finish, held⟩ | ⟨seen, blk, rest, state, final, exit, split, held, left, run_left⟩
  · rw [finish]
    exact held
  · rw [run_left, split]
    apply List.Sublist.trans _ (List.sublist_append_left seen _)
    rcases scanBlock_cases config blk state with
      ⟨_, same⟩ | ⟨_, call, _, ⟨_, same⟩ | ⟨_, _, _, same⟩⟩
    · cases same.symm.trans left
    · cases same.symm.trans left
    · cases same.symm.trans left
      exact held

theorem examined_increasing (config : Config) (memory : BlockBuffer) (reader : σ) :
    (scan config memory reader).examined.Pairwise (fun first second => first.blk < second.blk) :=
  List.pairwise_map.mp
    (List.Pairwise.sublist (examined_sublist config memory reader) List.pairwise_lt_range')

end

/-- The number of findings of a block is the number of tests that accept it. -/
theorem findings_length (visit : Visit) : visit.findings.length =
    [visit.timestamps, visit.offsets, visit.encodedChunk].count true := by
  obtain ⟨blk, timestamps, offsets, encodedChunk⟩ := visit
  cases timestamps <;> cases offsets <;> cases encodedChunk <;> rfl

/-- One finding at most, if the window begins late enough. -/
theorem findings_alone {examination : Examination}
    (late : 0x02789cff < examination.config.startTime.toNat) :
    examination.visit.findings.length ≤ 1 := by
  have first := SectorExclusive.timestamps_not_offsets examination.sector.bytes
    examination.config.stopTime late
  have second := SectorExclusive.timestamps_not_encodedChunk examination.sector.bytes
    examination.config.stopTime late
  have third := SectorExclusive.offsets_not_encodedChunk examination.sector.bytes
  rw [findings_length]
  revert first second third
  change ¬(examination.visit.timestamps = true ∧ examination.visit.offsets = true) →
    ¬(examination.visit.timestamps = true ∧ examination.visit.encodedChunk = true) →
    ¬(examination.visit.offsets = true ∧ examination.visit.encodedChunk = true) → _
  cases examination.visit.timestamps <;> cases examination.visit.offsets <;>
    cases examination.visit.encodedChunk <;> decide

theorem findings_increasing {examined : List Examination}
    (increasing : examined.Pairwise (fun first second => first.blk < second.blk))
    (alone : ∀ examination ∈ examined, examination.visit.findings.length ≤ 1) :
    (findings examined).Pairwise (fun first second => first.blk < second.blk) := by
  rw [findings, List.flatMap_map, List.pairwise_flatMap]
  constructor
  · intro examination member
    have one := alone examination member
    generalize examination.visit.findings = made at one
    cases made with
    | nil => exact List.Pairwise.nil
    | cons finding rest =>
      obtain rfl := List.eq_nil_of_length_eq_zero (Nat.le_zero.mp (Nat.le_of_succ_le_succ one))
      exact List.pairwise_singleton _ _
  · apply increasing.imp
    intro first second before one oneMember other otherMember
    rw [← (mem_findings first.visit one).mp oneMember |>.1,
      ← (mem_findings second.visit other).mp otherMember |>.1]
    exact before

theorem findings_few {examined : List Examination}
    (alone : ∀ examination ∈ examined, examination.visit.findings.length ≤ 1) :
    (findings examined).length ≤ examined.length := by
  induction examined with
  | nil => exact Nat.le_refl _
  | cons examination rest ih =>
    obtain ⟨one, others⟩ := List.forall_mem_cons.mp alone
    have later := ih others
    change (examination.visit.findings ++ findings rest).length ≤ rest.length + 1
    rw [List.length_append]
    omega

theorem pieces_named (groups : List (List Finding)) :
    ((groups.filterMap Line.ofRun).map named).Sublist (groups.flatten.map Finding.blk) := by
  induction groups with
  | nil => exact List.Sublist.refl _
  | cons group rest ih =>
    cases group with
    | nil => exact ih
    | cons finding others =>
      have shape : ∃ line, Line.ofRun (finding :: others) = some line ∧ named line = finding.blk := by
        obtain ⟨kind, blk⟩ := finding
        cases kind <;> exact ⟨_, rfl, rfl⟩
      obtain ⟨line, shape, names⟩ := shape
      rw [List.filterMap_cons_some shape, List.map_cons, names, List.flatten_cons, List.map_append,
        List.map_cons]
      exact (ih.trans (List.sublist_append_right _ _)).cons_cons _

/-- The lines name blocks with findings, in the order of the findings. -/
theorem lines_named (made : List Finding) :
    ((lines made).map named).Sublist (made.map Finding.blk) := by
  have pieces := pieces_named (runs Finding.isHeader made)
  rw [runs_flatten] at pieces
  exact pieces

/-- No block is found or named twice, and the numbers go up. -/
structure NamedOnce (outcome : Outcome) : Prop where
  found : (findings outcome.examined).Pairwise (fun first second => first.blk < second.blk)
  printed : outcome.exit = .returned 0 → ∃ report, outcome.cout = text report ∧
    (report.map named).Pairwise (fun first second => first < second) ∧
    report.length ≤ outcome.examined.length

theorem scan_text {σ : Type*} [BlockReader σ] {config : Config} {memory : BlockBuffer} {reader : σ}
    (normal : (scan config memory reader).exit = .returned 0) :
    (scan config memory reader).cout =
      text (lines (findings (scan config memory reader).examined)) := by
  rw [scan_cout normal, printVisits_eq]
  rfl

theorem scan_named {σ : Type*} [BlockReader σ] {config : Config}
    (late : 0x02789cff < config.startTime.toNat) (memory : BlockBuffer) (reader : σ) :
    NamedOnce (scan config memory reader) := by
  have alone : ∀ examination ∈ (scan config memory reader).examined,
      examination.visit.findings.length ≤ 1 := by
    intro examination member
    apply findings_alone
    rw [scan_window config memory reader examination member]
    exact late
  have found := findings_increasing (examined_increasing config memory reader) alone
  refine ⟨found, fun normal => ?_⟩
  have order := lines_named (findings (scan config memory reader).examined)
  refine ⟨lines (findings (scan config memory reader).examined), scan_text normal, ?_, ?_⟩
  · exact (List.pairwise_map.mpr found).sublist order
  · calc
      (lines (findings (scan config memory reader).examined)).length
          ≤ (findings (scan config memory reader).examined).length := by
        simpa only [List.length_map] using order.length_le
      _ ≤ (scan config memory reader).examined.length := findings_few alone

theorem failed_named (what : String) : NamedOnce (Mcarve.failed (.terminated what)) :=
  ⟨List.Pairwise.nil, fun normal => nomatch normal⟩

/-- With a clock whose 2008 begins after the magic word of a chunk header, a run of
`mcarve` finds no block twice, and the blocks that its lines name go up. -/
theorem mcarve_names_once (host : Mcarve.Host) (argv : List String) (options : Mcarve.Options)
    (parsed : host.parse argv = .ok options)
    (late : 0x02789cff < (Mcarve.defaultConfig host.clock).startTime.toNat) :
    NamedOnce (Mcarve.main host argv) := by
  rw [Mcarve.main_parsed parsed]
  rcases Mcarve.carve_cases host (Mcarve.defaultConfig host.clock) options.file with
    ⟨what, same⟩ | ⟨reader, _, same⟩ | ⟨device, _, same⟩
  · rw [same]
    exact failed_named what
  · rw [same]
    exact scan_named late host.memory reader
  · rw [same]
    exact scan_named late host.memory _

/-- A machine an hour east of UTC with a small image and its dump. -/
def easternHost : Mcarve.Host :=
  { CarveDump.dumpHost with
    clock := Time.fixedZone 3600 1700000000
    parse := fun argv => .ok ⟨argv.getD 1 "", none, none⟩ }

theorem eastern_names_once : NamedOnce (Mcarve.main easternHost ["mcarve", "fs.img"]) :=
  mcarve_names_once easternHost ["mcarve", "fs.img"] ⟨"fs.img", none, none⟩ rfl (by decide)

end MinecraftCarve.ReportOrder
