import MinecraftCarve.Scan
import MinecraftCarve.Time

/-! `main` of `mcarve.cpp`, in the order of the source: the texts of the time window
are converted before the command line is parsed. What the machine answers, the
command line parser included, is a parameter. -/

namespace MinecraftCarve.Mcarve
open SectorWords Time Library.StickySource Library.Loops

/-- What a successful parse found on the command line. -/
structure Options where
  file : String
  start : Option String
  stop : Option String
  deriving DecidableEq, Repr

structure Host where
  clock : Clock
  /-- The options, or the exit code of `app.exit`. -/
  parse : List String → Except Nat Options
  identifyFile : String → Device
  ext2fsOpen : String → Opening
  scanFile : String → Device
  /-- What `sector_buffer` holds before anything is read into it. -/
  memory : BlockBuffer

/-- The variables of `main` that options are bound to. -/
structure Bound where
  filename : String
  startTimestr : String
  stopTimestr : String

def defaults : Bound := ⟨"", "2008-01-01", "current_time"⟩

/-- Parsing stores the given texts and leaves the other variables as they are. -/
def Options.store (options : Options) (bound : Bound) : Bound where
  filename := options.file
  startTimestr := options.start.getD bound.startTimestr
  stopTimestr := options.stop.getD bound.stopTimestr

def stopTime (clock : Clock) (stopTimestr : String) : Except String Int :=
  if stopTimestr == "current_time" then .ok (currentTime clock) else parseTime clock stopTimestr

def failed (exit : Exit) : Outcome := ⟨exit, "", [], []⟩

/-- The rest of `main`, from the identification of the file on. -/
def carve (host : Host) (config : Config) (filename : String) : Outcome :=
  if identifyExt2FS (host.identifyFile filename) then
    match Ext2BlockReader.construct (host.ext2fsOpen filename) with
    | .error what => failed (.terminated what)
    | .ok reader => scan config host.memory reader
  else
    match FileBlockReader.construct filename (host.scanFile filename) with
    | .error what => failed (.terminated what)
    | .ok reader => scan config host.memory reader

def main (host : Host) (argv : List String) : Outcome :=
  let bound := defaults
  match parseTime host.clock bound.startTimestr with
  | .error what => failed (.terminated what)
  | .ok start =>
    match stopTime host.clock bound.stopTimestr with
    | .error what => failed (.terminated what)
    | .ok stop =>
      let config : Config := ⟨narrow start, narrow stop⟩
      match host.parse argv with
      | .error code => failed (.returned code)
      | .ok options =>
        let bound := options.store bound
        carve host config bound.filename

/-- The window that every run works with. -/
def defaultConfig (clock : Clock) : Config where
  startTime := narrow (clock.mktime { year := 108, mon := 0, mday := 1 })
  stopTime := narrow (currentTime clock)

theorem main_parsed {host : Host} {argv : List String} {options : Options}
    (parsed : host.parse argv = .ok options) :
    main host argv = carve host (defaultConfig host.clock) options.file := by
  simp only [main, defaults, parseTime_default, stopTime, beq_self_eq_true, if_true, parsed]
  rfl

theorem carve_plain {host : Host} {filename : String} {device : Nat → Reading Byte}
    (config : Config) (plain : identifyExt2FS (host.identifyFile filename) = false)
    (found : host.scanFile filename = some device) :
    carve host config filename = scan config host.memory (FileBlockReader.ofDevice device) := by
  unfold carve
  rw [plain, found]
  rfl

theorem carve_image {host : Host} {filename : String} {fs : Ext2Filesystem} (config : Config)
    (fourK : fs.blocksize = BLOCKSIZE)
    (recognised : identifyExt2FS (host.identifyFile filename) = true)
    (opened : host.ext2fsOpen filename = .opened fs) :
    carve host config filename = scan config host.memory (⟨fs, fourK⟩ : Ext2BlockReader) := by
  have built : Ext2BlockReader.construct (.opened fs) = .ok ⟨fs, fourK⟩ :=
    dif_neg (not_not.mpr fourK)
  unfold carve
  rw [recognised, opened, built]
  rfl

/-- The kind of reader that `main` makes of the file, if it can make one. -/
theorem carve_cases (host : Host) (config : Config) (filename : String) :
    (∃ what, carve host config filename = failed (.terminated what)) ∨
      (∃ reader : Ext2BlockReader,
        Ext2BlockReader.construct (host.ext2fsOpen filename) = .ok reader ∧
        carve host config filename = scan config host.memory reader) ∨
      (∃ device, host.scanFile filename = some device ∧
        carve host config filename =
          scan config host.memory (FileBlockReader.ofDevice device)) := by
  unfold carve
  by_cases identified : identifyExt2FS (host.identifyFile filename) = true
  · rw [if_pos identified]
    cases opened : Ext2BlockReader.construct (host.ext2fsOpen filename) with
    | error what => exact Or.inl ⟨what, rfl⟩
    | ok reader => exact Or.inr (Or.inl ⟨reader, rfl, rfl⟩)
  · rw [if_neg identified]
    cases opened : host.scanFile filename with
    | none => exact Or.inl ⟨_, rfl⟩
    | some device => exact Or.inr (Or.inr ⟨device, rfl, rfl⟩)

end MinecraftCarve.Mcarve
