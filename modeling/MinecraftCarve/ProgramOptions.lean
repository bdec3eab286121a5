import MinecraftCarve.CommandLineVerdict
import MinecraftCarve.McarveEndings
import MinecraftCarve.Dump

/-! The options of the two programs, and their runs from the words of the command line
on. -/

namespace MinecraftCarve.ProgramOptions
open SectorWords CommandLine CommandLineGrammar CommandLineItems CommandLineVerdict Library.Loops

/-- The flag that every `CLI::App` has. -/
def helpFlag : Opt := addFlag ['h'] ["help".toList] .none

def verboseFlag : Opt := addFlag ['v'] ["verbose".toList] .bool

def carveFile : Opt :=
  { addOption ['f'] ["file".toList] "file".toList with required := true, existing := true }

def startOption : Opt := addOption [] ["start".toList] []

def stopOption : Opt := addOption [] ["stop".toList] []

def carveApp : App := ⟨[helpFlag, carveFile, startOption, stopOption, verboseFlag], helpFlag⟩

def dumpInput : Opt :=
  { addOption ['i'] ["input".toList] "input".toList with required := true, existing := true }

def outputOption : Opt := addOption ['o'] ["output".toList] []

def tableOption : Opt := addOption ['t'] ["table".toList] []

def dumpApp : App := ⟨[helpFlag, dumpInput, outputOption, tableOption, verboseFlag], helpFlag⟩

def stored : Option Value → Option String
  | some (.string text) => some (String.ofList text)
  | _ => none

/-- What a successful parse leaves in the variables of `mcarve`. -/
def carveOptions (bound : Bound) : Mcarve.Options where
  file := (stored (bound carveFile)).getD ""
  start := stored (bound startOption)
  stop := stored (bound stopOption)

def dumpOptions (bound : Bound) : Dump.Options where
  input := (stored (bound dumpInput)).getD ""
  output := (stored (bound outputOption)).getD ""
  table := (stored (bound tableOption)).getD ""

def carveParse (checkPath : Text → PathType) (argv : List String) :
    Except ParseError Mcarve.Options :=
  (carveApp.parse checkPath (argv.tail.map String.toList)).map carveOptions

def dumpParse (checkPath : Text → PathType) (argv : List String) :
    Except ParseError Dump.Options :=
  (dumpApp.parse checkPath (argv.tail.map String.toList)).map dumpOptions

/-- `CLI11_PARSE`: an error ends the program with its code. -/
def carveReading (host : Mcarve.Host) (checkPath : Text → PathType) : Mcarve.Host :=
  { host with parse := fun argv => (carveParse checkPath argv).mapError ParseError.exitCode }

def dumpReading (host : Dump.Host) (checkPath : Text → PathType) : Dump.Host :=
  { host with parse := fun argv => (dumpParse checkPath argv).mapError ParseError.exitCode }

theorem carve_distinct :
    (helpFlag :: carveFile :: ([startOption, stopOption] ++ [verboseFlag])).Nodup := by decide

theorem carve_names : NamesValid
    ⟨helpFlag :: carveFile :: ([startOption, stopOption] ++ [verboseFlag]), helpFlag⟩ := by
  simp only [NamesValid, List.cons_append, List.nil_append, List.forall_mem_cons]
  exact ⟨⟨rfl, rfl⟩, ⟨rfl, rfl⟩, ⟨rfl, rfl⟩, ⟨rfl, rfl⟩, ⟨rfl, rfl⟩, by simp⟩

theorem carve_fileNamed : carveFile.pname ≠ [] := by decide

theorem carve_texts : ∀ op ∈ [startOption, stopOption], op = addOption op.snames op.lnames [] := by
  decide

theorem verbose_flags : ∀ op ∈ [verboseFlag], op = addFlag op.snames op.lnames .bool := by decide

def carveLayout : Layout where
  help := helpFlag
  file := carveFile
  texts := [startOption, stopOption]
  flags := [verboseFlag]
  distinct := carve_distinct
  namesValid := carve_names
  helpIs := rfl
  fileIs := rfl
  fileNamed := carve_fileNamed
  textsAre := carve_texts
  flagsAre := verbose_flags

theorem dump_distinct :
    (helpFlag :: dumpInput :: ([outputOption, tableOption] ++ [verboseFlag])).Nodup := by decide

theorem dump_names : NamesValid
    ⟨helpFlag :: dumpInput :: ([outputOption, tableOption] ++ [verboseFlag]), helpFlag⟩ := by
  simp only [NamesValid, List.cons_append, List.nil_append, List.forall_mem_cons]
  exact ⟨⟨rfl, rfl⟩, ⟨rfl, rfl⟩, ⟨rfl, rfl⟩, ⟨rfl, rfl⟩, ⟨rfl, rfl⟩, by simp⟩

theorem dump_fileNamed : dumpInput.pname ≠ [] := by decide

theorem dump_texts : ∀ op ∈ [outputOption, tableOption], op = addOption op.snames op.lnames [] := by
  decide

def dumpLayout : Layout where
  help := helpFlag
  file := dumpInput
  texts := [outputOption, tableOption]
  flags := [verboseFlag]
  distinct := dump_distinct
  namesValid := dump_names
  helpIs := rfl
  fileIs := rfl
  fileNamed := dump_fileNamed
  textsAre := dump_texts
  flagsAre := verbose_flags

theorem stored_head (texts : List Text) :
    stored (texts.head?.map .string) = texts.head?.map String.ofList := by
  cases texts <;> rfl

/-- A program that looks at the file and the texts only accepts what is accepted, and takes
what is given there. -/
theorem parse_map_iff {α : Type} {layout : Layout} {f : Bound → α} {g : List Item → Text → α}
    (looks : ∀ {bound : Bound} {items : List Item} {path : Text},
      bound layout.file = some (.string path) →
      (∀ op ∈ layout.texts, bound op = (values op items).head?.map .string) →
      f bound = g items path)
    (checkPath : Text → PathType) (words : List Text) (result : α) :
    (layout.app.parse checkPath words).map f = .ok result ↔
      ∃ items path, Complete layout.app items words ∧ Accepted layout checkPath items path ∧
        result = g items path := by
  constructor
  · intro parsed
    cases run : layout.app.parse checkPath words with
    | error error =>
      rw [run] at parsed
      cases parsed
    | ok bound =>
      rw [run] at parsed
      obtain rfl := Except.ok.inj parsed
      obtain ⟨items, path, complete, accepted, file, texts⟩ := parse_ok run
      exact ⟨items, path, complete, accepted, looks file texts⟩
  · rintro ⟨items, path, complete, accepted, rfl⟩
    obtain ⟨bound, run, file, texts⟩ := process_accepted accepted
    rw [parse_complete checkPath complete, run]
    exact congrArg Except.ok (looks file texts)

theorem carveOptions_of {bound : Bound} {items : List Item} {path : Text}
    (file : bound carveLayout.file = some (.string path))
    (texts : ∀ op ∈ carveLayout.texts, bound op = (values op items).head?.map .string) :
    carveOptions bound = ⟨String.ofList path, (values startOption items).head?.map String.ofList,
      (values stopOption items).head?.map String.ofList⟩ := by
  have file' : bound carveFile = some (.string path) := file
  unfold carveOptions
  rw [file', texts startOption (by simp [carveLayout]), texts stopOption (by simp [carveLayout]),
    stored_head, stored_head]
  rfl

theorem dumpOptions_of {bound : Bound} {items : List Item} {path : Text}
    (file : bound dumpLayout.file = some (.string path))
    (texts : ∀ op ∈ dumpLayout.texts, bound op = (values op items).head?.map .string) :
    dumpOptions bound = ⟨String.ofList path,
      ((values outputOption items).head?.map String.ofList).getD "",
      ((values tableOption items).head?.map String.ofList).getD ""⟩ := by
  have file' : bound dumpInput = some (.string path) := file
  unfold dumpOptions
  rw [file', texts outputOption (by simp [dumpLayout]), texts tableOption (by simp [dumpLayout]),
    stored_head, stored_head]
  rfl

/-- The programs accept a command line exactly if it can be read as one existing file, known
options with one value each, and flags that say yes or no, and they take the values that
are written there, in whatever order and spelling. -/
theorem options_exact (checkPath : Text → PathType) (argv0 : String) (words : List String) :
    (∀ options, carveParse checkPath (argv0 :: words) = .ok options ↔
      ∃ items, Complete carveApp items (words.map String.toList) ∧
        Accepted carveLayout checkPath items options.file.toList ∧
        options.start = (values startOption items).head?.map String.ofList ∧
        options.stop = (values stopOption items).head?.map String.ofList) ∧
    ∀ options, dumpParse checkPath (argv0 :: words) = .ok options ↔
      ∃ items, Complete dumpApp items (words.map String.toList) ∧
        Accepted dumpLayout checkPath items options.input.toList ∧
        options.output = ((values outputOption items).head?.map String.ofList).getD "" ∧
        options.table = ((values tableOption items).head?.map String.ofList).getD "" := by
  constructor
  · intro options
    refine (parse_map_iff carveOptions_of checkPath _ options).trans ⟨?_, ?_⟩
    · rintro ⟨items, path, complete, accepted, rfl⟩
      exact ⟨items, complete, by rw [String.toList_ofList]; exact accepted, rfl, rfl⟩
    · rintro ⟨items, complete, accepted, start, stop⟩
      refine ⟨items, options.file.toList, complete, accepted, ?_⟩
      rw [String.ofList_toList, ← start, ← stop]
  · intro options
    refine (parse_map_iff dumpOptions_of checkPath _ options).trans ⟨?_, ?_⟩
    · rintro ⟨items, path, complete, accepted, rfl⟩
      exact ⟨items, complete, by rw [String.toList_ofList]; exact accepted, rfl, rfl⟩
    · rintro ⟨items, complete, accepted, output, table⟩
      refine ⟨items, options.input.toList, complete, accepted, ?_⟩
      rw [String.ofList_toList, ← output, ← table]

/-- `-vf w.img` is `-v -f w.img`. -/
example : Complete carveApp [.given verboseFlag "true".toList, .given carveFile "w.img".toList]
    ["-vf".toList, "w.img".toList] :=
  ⟨false, .item (.bundled rfl rfl (by decide)) (.item (.next (.short rfl) rfl) (.done _ _))⟩

/-- A command line has one reading, which the parser goes on with, or the name of one option
is left at its end, which the parser complains about; and never both. -/
structure ReadOnce (app : App) (words : List Text) : Prop where
  one : Xor (∃! items, Complete app items words) (∃! op, Dangling app op words)
  complete : ∀ checkPath items, Complete app items words →
    app.parse checkPath words = app.process checkPath (absorbed app items)
  dangling : ∀ checkPath op, Dangling app op words →
    app.parse checkPath words = .error (.typedAtLeast op.getName 1 op.getTypeName)

theorem Layout.readOnce (layout : Layout) (words : List Text) : ReadOnce layout.app words where
  one := one_reading_or_dangling layout.names words
  complete checkPath _ complete := parse_complete checkPath complete
  dangling checkPath _ dangling := parse_dangling checkPath dangling

/-- Every command line of either program is read once. -/
theorem one_reading (words : List Text) : ReadOnce carveApp words ∧ ReadOnce dumpApp words :=
  ⟨Layout.readOnce carveLayout words, Layout.readOnce dumpLayout words⟩

/-! The statuses of the programs. -/

section
variable {checkPath : Text → PathType} {argv0 : String} {words : List String}

theorem carveReading_failed (host : Mcarve.Host) {error : ParseError}
    (failed : carveParse checkPath (argv0 :: words) = .error error) :
    (Mcarve.main (carveReading host checkPath) (argv0 :: words)).exit =
      .returned error.exitCode := by
  have parsed : (carveReading host checkPath).parse (argv0 :: words) = .error error.exitCode := by
    simp only [carveReading, failed]
    rfl
  simp only [Mcarve.main, Mcarve.defaults, Time.parseTime_default, Mcarve.stopTime,
    beq_self_eq_true, if_true, parsed]
  rfl

/-- A run on an accepted command line returns nothing but 0, and that if the file can be
carved. -/
theorem carveReading_parsed (host : Mcarve.Host) {options : Mcarve.Options}
    (parsed : carveParse checkPath (argv0 :: words) = .ok options) (code : Nat) :
    (Mcarve.main (carveReading host checkPath) (argv0 :: words)).exit = .returned code ↔
      code = 0 ∧ McarveEndings.Carves host options.file := by
  have read : (carveReading host checkPath).parse (argv0 :: words) = .ok options := by
    simp only [carveReading, parsed]
    rfl
  have ends : McarveEndings.Ends host options.file
      (Mcarve.main (carveReading host checkPath) (argv0 :: words)) := by
    rw [Mcarve.main_parsed read]
    exact McarveEndings.carve_ends (Mcarve.defaultConfig host.clock)
  constructor
  · intro returned
    by_cases success : code = 0
    · exact ⟨success, ends.success.mp (success ▸ returned)⟩
    · have failing : (Mcarve.main (carveReading host checkPath) (argv0 :: words)).exit ≠
          .returned 0 := by
        rw [returned]
        exact fun same => success (Exit.returned.inj same)
      rcases ends.failure failing with ⟨what, -, outcome⟩ | terminated
      · rw [outcome] at returned
        cases returned
      · rw [terminated] at returned
        cases returned
  · rintro ⟨rfl, carves⟩
    exact ends.success.mpr carves

/-- A pass of the loop gives up with status 1 or without one. -/
theorem dumpBlock_status {mode : Dump.Mode} {blk : Nat} {state after : Dump.State}
    {ending : Dump.Ending} (left : Dump.dumpBlock mode blk state = .leave after ending) :
    ∀ code, ending.exit = .returned code → code = 1 := by
  intro code returned
  simp only [Dump.dumpBlock] at left
  split at left
  next => cases left
  next =>
    split at left
    next =>
      cases left
      cases returned
    next =>
      cases left
      cases returned
    next =>
      split at left
      next => cases left
      next =>
        split at left
        next =>
          cases left
          exact (Exit.returned.inj returned).symm
        next => cases left

theorem dumpBlocks_status (mode : Dump.Mode) (fs : Ext2Filesystem)
    (dataOutput idOutput : Library.StickySink.Sink Byte) (code : Nat)
    (returned : (Dump.dumpBlocks mode fs dataOutput idOutput).ending.exit = .returned code) :
    code ≤ 1 := by
  rcases Dump.dumpBlocks_cases mode fs dataOutput idOutput with
    ⟨final, ending, finish, -, same⟩ | ⟨final, -, ⟨-, same⟩ | ⟨-, same⟩⟩
  · have status := run_left (fun _ ending => ∀ code, ending.exit = .returned code → code = 1)
      (fun _ _ _ _ left => dumpBlock_status left) _ finish
    rw [same] at returned
    exact Nat.le_of_eq (status code returned)
  · rw [same] at returned
    exact Nat.le_of_eq (Exit.returned.inj returned).symm
  · rw [same] at returned
    exact Exit.returned.inj returned ▸ Nat.zero_le 1

theorem dumpReading_failed (host : Dump.Host) {error : ParseError}
    (failed : dumpParse checkPath (argv0 :: words) = .error error) :
    (Dump.main (dumpReading host checkPath) (argv0 :: words)).ending.exit =
      .returned error.exitCode := by
  have parsed : (dumpReading host checkPath).parse (argv0 :: words) = .error error.exitCode := by
    simp only [dumpReading, failed]
    rfl
  unfold Dump.main
  simp only [parsed]
  rfl

/-- A run on an accepted command line returns no status but 0 and 1. -/
theorem dumpReading_parsed (host : Dump.Host) {options : Dump.Options}
    (parsed : dumpParse checkPath (argv0 :: words) = .ok options) {code : Nat}
    (returned : (Dump.main (dumpReading host checkPath) (argv0 :: words)).ending.exit =
      .returned code) : code ≤ 1 := by
  have read : (dumpReading host checkPath).parse (argv0 :: words) = .ok options := by
    simp only [dumpReading, parsed]
    rfl
  unfold Dump.main at returned
  simp only [read] at returned
  split at returned
  next => exact Nat.le_of_eq (Exit.returned.inj returned).symm
  next =>
    split at returned
    next => cases returned
    next =>
      split at returned
      next => exact Nat.le_of_eq (Exit.returned.inj returned).symm
      next =>
        split at returned
        next => exact Nat.le_of_eq (Exit.returned.inj returned).symm
        next => exact dumpBlocks_status _ _ _ _ code returned

end

/-- Whatever a program makes of what is stored, it ends early exactly with a complaint. -/
theorem parse_map_failed_iff {α : Type} (layout : Layout) (f : Bound → α)
    (checkPath : Text → PathType) (words : List Text) (code : Nat) :
    (∃ error, (layout.app.parse checkPath words).map f = .error error ∧ error.exitCode = code) ↔
      Complained layout checkPath words code := by
  rw [← parse_error_iff]
  cases layout.app.parse checkPath words with
  | error error => simp [Except.map]
  | ok bound => simp [Except.map]

/-- `mcarve` returns the code of a complaint, or 0 for a file that it carves. -/
theorem carve_returns_iff (host : Mcarve.Host) (checkPath : Text → PathType) (argv0 : String)
    (words : List String) (code : Nat) :
    (Mcarve.main (carveReading host checkPath) (argv0 :: words)).exit = .returned code ↔
      Complained carveLayout checkPath (words.map String.toList) code ∨
        (code = 0 ∧ ∃ items path, Complete carveApp items (words.map String.toList) ∧
          Accepted carveLayout checkPath items path ∧
          McarveEndings.Carves host (String.ofList path)) := by
  have complains : (∃ error, carveParse checkPath (argv0 :: words) = .error error ∧
      error.exitCode = code) ↔ _ :=
    parse_map_failed_iff carveLayout carveOptions checkPath (words.map String.toList) code
  have acceptance := parse_map_iff carveOptions_of checkPath (words.map String.toList)
  rw [← complains]
  cases parsed : carveParse checkPath (argv0 :: words) with
  | error error =>
    rw [carveReading_failed host parsed]
    constructor
    · intro same
      exact Or.inl ⟨error, rfl, Exit.returned.inj same⟩
    · rintro (⟨error', same, exit⟩ | ⟨-, items, path, complete, accepted, -⟩)
      · rw [Except.error.inj same, exit]
      · have accepts := (acceptance _).mpr ⟨items, path, complete, accepted, rfl⟩
        exact absurd (parsed.symm.trans accepts) (by simp)
  | ok options =>
    rw [carveReading_parsed host parsed]
    obtain ⟨items, path, complete, accepted, same⟩ := (acceptance options).mp parsed
    constructor
    · rintro ⟨success, carves⟩
      rw [same] at carves
      exact Or.inr ⟨success, items, path, complete, accepted, carves⟩
    · rintro (⟨error, failed, -⟩ | ⟨success, items', path', complete', accepted', carves⟩)
      · cases failed
      · have accepts := (acceptance _).mpr ⟨items', path', complete', accepted', rfl⟩
        have sameOptions := Except.ok.inj (parsed.symm.trans accepts)
        exact ⟨success, by rw [sameOptions]; exact carves⟩

/-- A status of `dump_unused_blocks` above 1 is the code of a complaint. -/
theorem dump_returns_iff (host : Dump.Host) (checkPath : Text → PathType) (argv0 : String)
    (words : List String) (code : Nat) :
    (Dump.main (dumpReading host checkPath) (argv0 :: words)).ending.exit =
        .returned (code + 2) ↔
      Complained dumpLayout checkPath (words.map String.toList) (code + 2) := by
  have complains : (∃ error, dumpParse checkPath (argv0 :: words) = .error error ∧
      error.exitCode = code + 2) ↔ _ :=
    parse_map_failed_iff dumpLayout dumpOptions checkPath (words.map String.toList) (code + 2)
  rw [← complains]
  cases parsed : dumpParse checkPath (argv0 :: words) with
  | error error =>
    rw [dumpReading_failed host parsed]
    constructor
    · exact fun same => ⟨error, rfl, Exit.returned.inj same⟩
    · rintro ⟨error', same, exit⟩
      rw [Except.error.inj same, exit]
  | ok options =>
    constructor
    · intro returned
      exact absurd (dumpReading_parsed host parsed returned) (by omega)
    · rintro ⟨error, failed, -⟩
      cases failed

/-- Which statuses the programs return for a command line: `mcarve` returns 0 for a call for
help and for a file that it carves, and otherwise only the code of a complaint about the
command line; `dump_unused_blocks` returns nothing above 1 but such a code. -/
theorem statuses_exact (checkPath : Text → PathType) (argv0 : String) (words : List String)
    (code : Nat) :
    (∀ host : Mcarve.Host,
      (Mcarve.main (carveReading host checkPath) (argv0 :: words)).exit = .returned code ↔
        Complained carveLayout checkPath (words.map String.toList) code ∨
          (code = 0 ∧ ∃ items path, Complete carveApp items (words.map String.toList) ∧
            Accepted carveLayout checkPath items path ∧
            McarveEndings.Carves host (String.ofList path))) ∧
    ∀ host : Dump.Host,
      (Dump.main (dumpReading host checkPath) (argv0 :: words)).ending.exit =
          .returned (code + 2) ↔
        Complained dumpLayout checkPath (words.map String.toList) (code + 2) :=
  ⟨fun host => carve_returns_iff host checkPath argv0 words code,
    fun host => dump_returns_iff host checkPath argv0 words code⟩

end MinecraftCarve.ProgramOptions
