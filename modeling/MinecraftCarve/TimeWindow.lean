import MinecraftCarve.Mcarve
import MinecraftCarve.SectorTests

/-! Whether the time window on the command line governs the scan. The window is made
before the command line is parsed, so it does exactly where the options amount to the
defaults or where the input gives the scan nothing to examine. -/

namespace MinecraftCarve.TimeWindow
open SectorWords Time Mcarve Library.StickySource

/-- The start the options ask for, or the documented default. -/
def askedStart (clock : Clock) (options : Options) : Except String Int :=
  parseTime clock (options.start.getD "2008-01-01")

/-- The stop the options ask for, or the current time. -/
def askedStop (clock : Clock) (options : Options) : Except String Int :=
  match options.stop with
  | none => .ok (currentTime clock)
  | some text => parseTime clock text

/-- The options ask for a window that `parse_time` accepts. -/
def Accepted (clock : Clock) (options : Options) (window : Config) : Prop :=
  ∃ start stop, askedStart clock options = .ok start ∧ askedStop clock options = .ok stop ∧
    window = ⟨narrow start, narrow stop⟩

/-- Every block is tested for the window asked for, or else none is and the run fails. -/
structure Governed (clock : Clock) (options : Options) (outcome : Outcome) : Prop where
  accepted : ∀ window, Accepted clock options window →
    ∀ examination ∈ outcome.examined, examination.config = window
  rejected : (∀ window, ¬Accepted clock options window) → outcome.Failed

/-- The first read of the scan of a file: an error if no reader can be made of it. -/
def firstReadOf (host : Host) (filename : String) : Except String (Option ReadStatus) :=
  if identifyExt2FS (host.identifyFile filename) then
    match Ext2BlockReader.construct (host.ext2fsOpen filename) with
    | .error what => .error what
    | .ok reader => .ok (firstRead host.memory reader)
  else
    match FileBlockReader.construct filename (host.scanFile filename) with
    | .error what => .error what
    | .ok reader => .ok (firstRead host.memory reader)

/-- The input has a block to examine: its first unallocated one, which can be read. -/
def Examinable (host : Host) (filename : String) : Prop :=
  firstReadOf host filename = .ok (some .ok)

/-- No reader can be made of the input, or the first read from it fails. -/
def Unreadable (host : Host) (filename : String) : Prop :=
  (∃ what, firstReadOf host filename = .error what) ∨
    ∃ status, firstReadOf host filename = .ok (some status) ∧ status ≠ .ok

/-- Where the defaults and the options cannot be told apart. -/
structure Harmless (host : Host) (options : Options) : Prop where
  accepted : ∀ window, Accepted host.clock options window →
    window = defaultConfig host.clock ∨ ¬Examinable host options.file
  rejected : (∀ window, ¬Accepted host.clock options window) → Unreadable host options.file

theorem carve_begins (host : Host) (config : Config) (filename : String) :
    match firstReadOf host filename with
    | .error _ => (carve host config filename).Failed
    | .ok first => (carve host config filename).Begins first := by
  unfold firstReadOf carve
  by_cases identified : identifyExt2FS (host.identifyFile filename) = true
  · simp only [if_pos identified]
    cases Ext2BlockReader.construct (host.ext2fsOpen filename) with
    | error what => exact ⟨by simp [failed], rfl⟩
    | ok reader => exact scan_begins config host.memory reader
  · simp only [if_neg identified]
    cases FileBlockReader.construct filename (host.scanFile filename) with
    | error what => exact ⟨by simp [failed], rfl⟩
    | ok reader => exact scan_begins config host.memory reader

theorem carve_examined_iff (host : Host) (config : Config) (filename : String) :
    (carve host config filename).examined ≠ [] ↔ Examinable host filename := by
  have begins := carve_begins host config filename
  unfold Examinable
  cases first : firstReadOf host filename with
  | error what =>
    rw [first] at begins
    simp [begins.2]
  | ok read =>
    rw [first] at begins
    rw [begins.examined_iff, Except.ok.injEq]

theorem carve_failed_iff (host : Host) (config : Config) (filename : String) :
    (carve host config filename).Failed ↔ Unreadable host filename := by
  have begins := carve_begins host config filename
  unfold Unreadable
  cases first : firstReadOf host filename with
  | error what =>
    rw [first] at begins
    exact iff_of_true begins (Or.inl ⟨what, rfl⟩)
  | ok read =>
    rw [first] at begins
    rw [begins.failed_iff]
    simp

/-- Every examination of every run is made with the default window. -/
theorem carve_window (host : Host) (config : Config) (filename : String) :
    ∀ examination ∈ (carve host config filename).examined, examination.config = config := by
  rcases carve_cases host config filename with
    ⟨what, same⟩ | ⟨reader, _, same⟩ | ⟨device, _, same⟩
  · rw [same]
    simp [failed]
  · rw [same]
    exact scan_window config host.memory reader
  · rw [same]
    exact scan_window config host.memory _

/-- The options govern the scan only where ignoring them makes no difference. -/
theorem governed_iff_harmless (host : Host) (argv : List String) (options : Options)
    (parsed : host.parse argv = .ok options) :
    Governed host.clock options (main host argv) ↔ Harmless host options := by
  rw [main_parsed parsed]
  have same := carve_window host (defaultConfig host.clock) options.file
  have examined := carve_examined_iff host (defaultConfig host.clock) options.file
  have failing := carve_failed_iff host (defaultConfig host.clock) options.file
  constructor
  · intro governed
    constructor
    · intro window accepted
      by_cases examinable : Examinable host options.file
      · obtain ⟨examination, member⟩ := List.exists_mem_of_ne_nil _ (examined.mpr examinable)
        exact Or.inl ((governed.accepted window accepted _ member).symm.trans (same _ member))
      · exact Or.inr examinable
    · intro rejected
      exact failing.mp (governed.rejected rejected)
  · intro harmless
    constructor
    · intro window accepted examination member
      rcases harmless.accepted window accepted with equal | unexaminable
      · exact (same _ member).trans equal.symm
      · exact absurd (examined.mp (List.ne_nil_of_mem member)) unexaminable
    · intro rejected
      exact failing.mpr (harmless.rejected rejected)

/-- A machine on which a file with one empty block is carved with the given options. -/
def emptyBlockHost (options : Options) : Host where
  clock := fixedZone 0 1735689600
  parse _ := .ok options
  identifyFile _ := some (steady (filled 0).bytes (filled_addressable 0))
  ext2fsOpen _ := .openFailed
  scanFile _ := some (steady (filled 0).bytes (filled_addressable 0))
  memory := filled 0

/-- A start that amounts to the default. -/
def defaultStart : Options := ⟨"world.img", some "2008-01-01", none⟩

/-- With these options the window is the one they ask for. -/
theorem defaultStart_governs : Governed (fixedZone 0 1735689600) defaultStart
    (main (emptyBlockHost defaultStart) ["mcarve", "--start", "2008-01-01", "world.img"]) := by
  apply (governed_iff_harmless (emptyBlockHost defaultStart)
    ["mcarve", "--start", "2008-01-01", "world.img"] defaultStart rfl).mpr
  constructor
  · intro window accepted
    obtain ⟨start, stop, startOk, stopOk, rfl⟩ := accepted
    cases startOk
    cases stopOk
    exact Or.inl rfl
  · intro rejected
    exact absurd ⟨_, _, rfl, rfl, rfl⟩ (rejected _)

theorem emptyBlock_plain :
    identifyExt2FS (some (steady (filled 0).bytes (filled_addressable 0))) = false := by
  decide +kernel

/-- The block is examined, whatever the options say, with the default window. -/
theorem emptyBlock_examined (options : Options) (argv : List String) :
    ∃ examination ∈ (main (emptyBlockHost options) argv).examined,
      examination.config = defaultConfig (fixedZone 0 1735689600) := by
  have parsed : (emptyBlockHost options).parse argv = .ok options := rfl
  have plain : identifyExt2FS ((emptyBlockHost options).identifyFile options.file) = false :=
    emptyBlock_plain
  have found : (emptyBlockHost options).scanFile options.file =
      some (steady (filled 0).bytes (filled_addressable 0)) := rfl
  have served := (scan_served (FileBlockReader.serves (filled 0).bytes)
    (FileBlockReader.steady_ofDevice (filled 0).bytes (filled_addressable 0))
    (defaultConfig (emptyBlockHost options).clock) (emptyBlockHost options).memory).2
  have block : 0 ∈ (FileBlockReader.space (filled 0).bytes).candidates := by
    have one : (FileBlockReader.space (filled 0).bytes).count = 1 := by
      rw [FileBlockReader.space, (filled 0).size]
      decide
    apply BlockSpace.mem_candidates.mpr
    rw [one]
    exact ⟨Nat.le_refl _, by decide, rfl⟩
  rw [main_parsed parsed, carve_plain _ plain found, served]
  exact ⟨_, List.mem_map_of_mem block, rfl⟩

def lateStart : Options := ⟨"world.img", some "2020-01-01", none⟩

/-- The window that these options ask for. -/
def lateStartWindow : Config := ⟨narrow 1577836800, narrow 1735689600⟩

theorem lateStart_accepted : Accepted (fixedZone 0 1735689600) lateStart lateStartWindow :=
  ⟨1577836800, 1735689600, rfl, rfl, rfl⟩

theorem start_option_ignored : ¬Governed (fixedZone 0 1735689600) lateStart
    (main (emptyBlockHost lateStart) ["mcarve", "--start", "2020-01-01", "world.img"]) := by
  intro governed
  obtain ⟨examination, member, ignored⟩ := emptyBlock_examined lateStart
    ["mcarve", "--start", "2020-01-01", "world.img"]
  have asked := governed.accepted _ lateStart_accepted examination member
  have same : lateStartWindow = defaultConfig (fixedZone 0 1735689600) := asked.symm.trans ignored
  exact absurd (congrArg Config.startTime same) (by decide)

end MinecraftCarve.TimeWindow
