import MinecraftCarve.CommandLineCallbacks
import MinecraftCarve.CommandLineItems

/-! What becomes of a command line that is read to its end: the first complaint there is
about its items, or what is stored if there is none. -/

namespace MinecraftCarve.CommandLineVerdict
open CommandLine CommandLineGrammar CommandLineCallbacks CommandLineItems

/-! What can be wrong with the values, in the order in which it is found out. -/

/-- Something that counts as the file is none. -/
def NotAFile (layout : Layout) (checkPath : Text → PathType) (items : List Item) : Prop :=
  ∃ path ∈ takenPaths layout.file items, checkPath path ≠ .file

/-- An option for one text has two. -/
def Repeated (layout : Layout) (items : List Item) : Prop :=
  1 < (takenPaths layout.file items).length ∨ ∃ op ∈ layout.texts, 1 < (values op items).length

/-- The last value of a flag says neither yes nor no. -/
def Unreadable (layout : Layout) (items : List Item) : Prop :=
  ∃ op ∈ layout.flags, ∃ last ∈ (values op items).getLast?, lexicalCast last = none

structure Fine (layout : Layout) (checkPath : Text → PathType) (items : List Item) : Prop where
  file : ¬NotAFile layout checkPath items
  once : ¬Repeated layout items
  readable : ¬Unreadable layout items

/-- The first complaint about the items, by the code it ends the program with. -/
inductive Complaint (layout : Layout) (checkPath : Text → PathType) (items : List Item) :
    Nat → Prop
  | notAFile (bad : NotAFile layout checkPath items) : Complaint layout checkPath items 105
  | repeated (file : ¬NotAFile layout checkPath items) (twice : Repeated layout items) :
      Complaint layout checkPath items 114
  | unreadable (file : ¬NotAFile layout checkPath items) (once : ¬Repeated layout items)
      (bad : Unreadable layout items) : Complaint layout checkPath items 104
  | help (fine : Fine layout checkPath items) (asked : values layout.help items ≠ []) :
      Complaint layout checkPath items 0
  | missing (fine : Fine layout checkPath items) (notAsked : values layout.help items = [])
      (missing : takenPaths layout.file items = []) : Complaint layout checkPath items 106
  | leftOver (fine : Fine layout checkPath items) (notAsked : values layout.help items = [])
      (given : takenPaths layout.file items ≠ []) (left : LeftOver layout.file items) :
      Complaint layout checkPath items 109

/-- A command line that nothing is wrong with, for a file. -/
structure Accepted (layout : Layout) (checkPath : Text → PathType) (items : List Item)
    (path : Text) : Prop where
  file : paths layout.file items = [path]
  isFile : checkPath path = .file
  known : ∀ long word, .unknown long word ∉ items
  notAsked : values layout.help items = []
  once : ∀ op ∈ layout.texts, (values op items).length ≤ 1
  readable : ∀ op ∈ layout.flags, ∀ last ∈ (values op items).getLast?, lexicalCast last ≠ none

/-! The callbacks of an application of this layout. -/

variable {layout : Layout} {checkPath : Text → PathType} {results : List Text} {items : List Item}

theorem validate_file : layout.file.validateResults checkPath results = none ↔
    ∀ path ∈ results, checkPath path = .file := by
  have existing : layout.file.existing = true := by rw [layout.fileIs]
  unfold Opt.validateResults
  rw [if_pos existing, Option.map_eq_none_iff, List.findSome?_eq_none_iff]
  simp only [existingFileValidator_none]

theorem file_fails (bad : ∃ path ∈ results, checkPath path ≠ .file) :
    ∃ error, layout.file.runCallback checkPath results = .error error ∧ error.exitCode = 105 := by
  cases validated : layout.file.validateResults checkPath results with
  | none =>
    obtain ⟨path, member, notFile⟩ := bad
    exact absurd (validate_file.mp validated path member) notFile
  | some error =>
    obtain ⟨msg, rfl⟩ := validateResults_about validated
    exact ⟨_, runCallback_invalid validated, rfl⟩

theorem file_forText (layout : Layout) : ForText layout.file := by
  rw [layout.fileIs]
  exact ⟨rfl, rfl, rfl⟩

theorem text_fine (checkPath : Text → PathType) {op : Opt} (text : op ∈ layout.texts)
    (results : List Text) : ForText op ∧ op.validateResults checkPath results = none := by
  rw [layout.textsAre op text]
  exact ⟨⟨rfl, rfl, rfl⟩, rfl⟩

/-- Help is asked for whatever value the flag has. -/
theorem help_fine (given : results ≠ []) :
    ∃ value, layout.help.runCallback checkPath results = .ok value := by
  obtain ⟨sent, -, ran⟩ := runCallback_flag checkPath layout.help layout.helpIs results.dropLast
    (results.getLast given)
  rw [List.dropLast_concat_getLast] at ran
  refine ⟨none, ran.trans ?_⟩
  unfold Opt.store
  rw [layout.helpIs]
  rfl

/-- A flag is stored by its last value, if that can be read. -/
theorem flag_store (checkPath : Text → PathType) {op : Opt} (flag : op ∈ layout.flags) {last : Text}
    (ends : results.getLast? = some last) :
    (∀ value, lexicalCast last = some value →
        op.runCallback checkPath results = .ok (some (.bool value))) ∧
      (lexicalCast last = none →
        op.runCallback checkPath results = .error (.conversionError op.getName results)) := by
  obtain ⟨before, rfl⟩ := List.getLast?_eq_some_iff.mp ends
  obtain ⟨sent, head, ran⟩ := runCallback_flag checkPath op (layout.flagsAre op flag) before last
  have callback : op.callback = .bool := by rw [layout.flagsAre op flag]; rfl
  rw [ran]
  unfold Opt.store
  rw [callback, head]
  constructor
  · intro value read
    simp only [read]
  · intro unread
    simp only [unread]

theorem results_text {op : Opt} (text : op ∈ layout.texts) :
    (absorbed layout.app items).results op = values op items :=
  absorbed_other (Layout.ne_file (List.mem_append_left _ text)) items

theorem results_flag {op : Opt} (flag : op ∈ layout.flags) :
    (absorbed layout.app items).results op = values op items :=
  absorbed_other (Layout.ne_file (List.mem_append_right _ flag)) items

theorem help_passes : Passes checkPath (absorbed layout.app items) layout.help :=
  fun given => help_fine given

theorem file_graded (allFiles : ¬NotAFile layout checkPath items) :
    (¬1 < (takenPaths layout.file items).length ∧
        Passes checkPath (absorbed layout.app items) layout.file) ∨
      (1 < (takenPaths layout.file items).length ∧
        FailsWith checkPath (absorbed layout.app items) 114 layout.file) := by
  rw [← absorbed_file]
  refine text_graded (file_forText layout) (validate_file.mpr fun path member => ?_)
  by_contra notFile
  rw [absorbed_file] at member
  exact allFiles ⟨path, member, notFile⟩

theorem textOption_graded {op : Opt} (text : op ∈ layout.texts) :
    (¬1 < (values op items).length ∧ Passes checkPath (absorbed layout.app items) op) ∨
      (1 < (values op items).length ∧
        FailsWith checkPath (absorbed layout.app items) 114 op) := by
  rw [← results_text text]
  obtain ⟨forText, valid⟩ := text_fine checkPath text _
  exact text_graded forText valid

theorem flag_graded {op : Opt} (flag : op ∈ layout.flags) :
    ((∀ last ∈ (values op items).getLast?, lexicalCast last ≠ none) ∧
        Passes checkPath (absorbed layout.app items) op) ∨
      ((∃ last ∈ (values op items).getLast?, lexicalCast last = none) ∧
        FailsWith checkPath (absorbed layout.app items) 104 op) := by
  unfold Passes FailsWith
  rw [results_flag flag]
  cases ends : (values op items).getLast? with
  | none =>
    refine Or.inl ⟨by simp, fun given => ?_⟩
    exact absurd (List.getLast?_eq_none_iff.mp ends) given
  | some last =>
    have given : values op items ≠ [] := by
      intro empty
      rw [empty] at ends
      cases ends
    obtain ⟨readable, unreadable⟩ := flag_store checkPath flag ends
    cases read : lexicalCast last with
    | none => exact Or.inr ⟨⟨last, rfl, read⟩, given, _, unreadable read, rfl⟩
    | some value =>
      refine Or.inl ⟨?_, fun _ => ⟨_, readable value read⟩⟩
      rintro last' same
      obtain rfl := Option.some.inj same
      rw [read]
      simp

/-! The verdict. -/

theorem Fine.passes (fine : Fine layout checkPath items) :
    ∀ op ∈ layout.app.options, Passes checkPath (absorbed layout.app items) op := by
  intro op member
  rcases List.mem_cons.mp member with rfl | member
  · exact help_passes
  rcases List.mem_cons.mp member with rfl | member
  · rcases file_graded fine.file with ⟨-, passes⟩ | ⟨twice, -⟩
    · exact passes
    · exact absurd (Or.inl twice) fine.once
  rcases List.mem_append.mp member with text | flag
  · rcases textOption_graded text with ⟨-, passes⟩ | ⟨twice, -⟩
    · exact passes
    · exact absurd (Or.inr ⟨op, text, twice⟩) fine.once
  · rcases flag_graded flag with ⟨-, passes⟩ | ⟨unread, -⟩
    · exact passes
    · exact absurd ⟨op, flag, unread⟩ fine.readable

/-- A failing callback is what the command line ends with. -/
theorem process_failed {code : Nat} {before group later : List Opt}
    (options : layout.app.options = before ++ (group ++ later))
    (fine : ∀ op ∈ before, Passes checkPath (absorbed layout.app items) op)
    (graded : ∀ op ∈ group, Passes checkPath (absorbed layout.app items) op ∨
      FailsWith checkPath (absorbed layout.app items) code op)
    (bad : ∃ op ∈ group, FailsWith checkPath (absorbed layout.app items) code op) :
    ∃ error, layout.app.process checkPath (absorbed layout.app items) = .error error ∧
      error.exitCode = code := by
  obtain ⟨error, run, exit⟩ := processCallbacks_code later (fun _ => none) fine graded bad
  refine ⟨error, ?_, exit⟩
  unfold App.process
  rw [options, run]

theorem processRequirements_file (parsed : Parsed) :
    layout.app.processRequirements parsed =
      if parsed.results layout.file = [] then some (.requiredError layout.file.getName)
      else none := by
  have helpFree : layout.help.required = false := by rw [layout.helpIs]; rfl
  have fileRequired : layout.file.required = true := by rw [layout.fileIs]
  have others : (layout.texts ++ layout.flags).find?
      (fun op => op.required && parsed.results op = []) = none := by
    refine List.find?_eq_none.mpr fun op member => ?_
    have free : op.required = false := by
      rcases List.mem_append.mp member with text | flag
      · rw [layout.textsAre op text]; rfl
      · rw [layout.flagsAre op flag]; rfl
    simp [free]
  unfold App.processRequirements Layout.app
  rw [List.find?_cons_of_neg (by simp [helpFree])]
  by_cases empty : parsed.results layout.file = []
  · rw [List.find?_cons_of_pos (by simp [fileRequired, empty]), if_pos empty]
    rfl
  · rw [List.find?_cons_of_neg (by simp [empty]), others, if_neg empty]
    rfl

/-- What follows the callbacks, on the items. -/
theorem process_stored {bound : Bound}
    (stored : processCallbacks checkPath (absorbed layout.app items) layout.app.options
      (fun _ => none) = .ok bound) :
    layout.app.process checkPath (absorbed layout.app items) =
      if values layout.help items ≠ [] then .error .callForHelp
      else if takenPaths layout.file items = [] then .error (.requiredError layout.file.getName)
      else if (absorbed layout.app items).missing.countP
          (fun word => word.1 != .positionalMark) = 0 then .ok bound
      else .error (.extrasError ((absorbed layout.app items).missing.map Prod.snd)) := by
  have help : (absorbed layout.app items).results layout.app.help = values layout.help items :=
    absorbed_other Layout.help_ne_file items
  unfold App.process
  simp only [stored, App.processHelpFlags, help, processRequirements_file, absorbed_file,
    Parsed.processExtras]
  by_cases asked : values layout.help items ≠ []
  · rw [if_pos asked, if_neg asked]
  · rw [if_neg asked, if_pos (not_not.mp asked)]
    by_cases missing : takenPaths layout.file items = []
    · rw [if_pos missing, if_pos missing]
    · rw [if_neg missing, if_neg missing]
      by_cases nothing : (absorbed layout.app items).missing.countP
          (fun word => word.1 != .positionalMark) = 0
      · rw [if_pos nothing, if_pos nothing]
      · rw [if_neg nothing, if_neg nothing]

theorem Fine.stored (fine : Fine layout checkPath items) :
    ∃ bound : Bound,
      processCallbacks checkPath (absorbed layout.app items) layout.app.options
        (fun _ => none) = .ok bound ∧
      (∀ op ∈ layout.app.options, ∀ value, (absorbed layout.app items).results op ≠ [] →
        op.runCallback checkPath ((absorbed layout.app items).results op) = .ok value →
        bound op = value) ∧
      ∀ op, (absorbed layout.app items).results op = [] → bound op = none := by
  obtain ⟨bound, run, stores, keeps⟩ := processCallbacks_ok (fun _ => none) fine.passes
  exact ⟨bound, run, stores, fun op empty => keeps op (Or.inr empty)⟩

/-- A complaint is what the parser ends with. -/
theorem process_complaint {code : Nat} (complaint : Complaint layout checkPath items code) :
    ∃ error, layout.app.process checkPath (absorbed layout.app items) = .error error ∧
      error.exitCode = code := by
  cases complaint with
  | notAFile bad =>
    have fails : FailsWith checkPath (absorbed layout.app items) 105 layout.file := by
      unfold FailsWith
      rw [absorbed_file]
      refine ⟨?_, file_fails bad⟩
      obtain ⟨path, member, -⟩ := bad
      exact List.ne_nil_of_mem member
    have options : layout.app.options =
      [layout.help] ++ ([layout.file] ++ (layout.texts ++ layout.flags)) := rfl
    refine process_failed options ?_ ?_ ⟨layout.file, List.mem_singleton_self _, fails⟩
    · exact fun op member => List.mem_singleton.mp member ▸ help_passes
    · exact fun op member => Or.inr (List.mem_singleton.mp member ▸ fails)
  | repeated file twice =>
    have options : layout.app.options =
      [layout.help] ++ ((layout.file :: layout.texts) ++ layout.flags) := rfl
    refine process_failed options ?_ ?_ ?_
    · exact fun op member => List.mem_singleton.mp member ▸ help_passes
    · intro op member
      rcases List.mem_cons.mp member with rfl | text
      · exact (file_graded file).imp And.right And.right
      · exact (textOption_graded text).imp And.right And.right
    · rcases twice with files | ⟨op, text, values⟩
      · exact ⟨layout.file, List.mem_cons_self,
          ((file_graded file).resolve_left fun once => once.1 files).2⟩
      · exact ⟨op, List.mem_cons_of_mem _ text,
          ((textOption_graded text).resolve_left fun once => once.1 values).2⟩
  | unreadable file once bad =>
    have options : layout.app.options =
        (layout.help :: layout.file :: layout.texts) ++ (layout.flags ++ []) := by
      rw [List.append_nil]
      rfl
    refine process_failed options ?_ ?_ ?_
    · intro op member
      rcases List.mem_cons.mp member with rfl | member
      · exact help_passes
      rcases List.mem_cons.mp member with rfl | text
      · exact ((file_graded file).resolve_right fun twice => once (Or.inl twice.1)).2
      · refine ((textOption_graded text).resolve_right fun twice => ?_).2
        exact once (Or.inr ⟨op, text, twice.1⟩)
    · exact fun op flag => (flag_graded flag).imp And.right And.right
    · obtain ⟨op, flag, last, ends, unread⟩ := bad
      refine ⟨op, flag, ((flag_graded flag).resolve_left fun readable => ?_).2⟩
      exact readable.1 last ends unread
  | help fine asked =>
    obtain ⟨bound, stored, -⟩ := fine.stored
    rw [process_stored stored, if_pos asked]
    exact ⟨_, rfl, rfl⟩
  | missing fine notAsked missing =>
    obtain ⟨bound, stored, -⟩ := fine.stored
    rw [process_stored stored, if_neg (not_not.mpr notAsked), if_pos missing]
    exact ⟨_, rfl, rfl⟩
  | leftOver fine notAsked given left =>
    obtain ⟨bound, stored, -⟩ := fine.stored
    rw [process_stored stored, if_neg (not_not.mpr notAsked), if_neg given,
      if_neg fun none => (missing_none items).mp none left]
    exact ⟨_, rfl, rfl⟩

theorem accepted_iff {path : Text} : Accepted layout checkPath items path ↔
    Fine layout checkPath items ∧ values layout.help items = [] ∧
      takenPaths layout.file items = [path] ∧ ¬LeftOver layout.file items := by
  constructor
  · intro accepted
    obtain ⟨all, nothing⟩ := taken_one (by rw [accepted.file]; exact Nat.le_refl 1) accepted.known
    rw [accepted.file] at all
    refine ⟨⟨?_, ?_, ?_⟩, accepted.notAsked, all, nothing⟩
    · rintro ⟨path', member, notFile⟩
      rw [all] at member
      exact notFile (List.mem_singleton.mp member ▸ accepted.isFile)
    · rintro (files | ⟨op, text, twice⟩)
      · rw [all] at files
        exact absurd files (Nat.lt_irrefl 1)
      · exact absurd (accepted.once op text) (Nat.not_le.mpr twice)
    · rintro ⟨op, flag, last, ends, unread⟩
      exact accepted.readable op flag last ends unread
  · rintro ⟨fine, notAsked, taken, nothing⟩
    obtain ⟨all, known⟩ := taken_all nothing
    refine ⟨by rw [← all, taken], ?_, known, notAsked, ?_, ?_⟩
    · by_contra notFile
      exact fine.file ⟨path, by rw [taken]; exact List.mem_singleton_self path, notFile⟩
    · exact fun op text => Nat.not_lt.mp fun twice => fine.once (Or.inr ⟨op, text, twice⟩)
    · exact fun op flag last ends unread => fine.readable ⟨op, flag, last, ends, unread⟩

/-- Every reading is complained of or accepted. -/
theorem complaint_or_accepted (layout : Layout) (checkPath : Text → PathType) (items : List Item) :
    (∃ code, Complaint layout checkPath items code) ∨
      ∃ path, Accepted layout checkPath items path := by
  by_cases file : NotAFile layout checkPath items
  · exact Or.inl ⟨_, .notAFile file⟩
  by_cases twice : Repeated layout items
  · exact Or.inl ⟨_, .repeated file twice⟩
  by_cases unreadable : Unreadable layout items
  · exact Or.inl ⟨_, .unreadable file twice unreadable⟩
  have fine : Fine layout checkPath items := ⟨file, twice, unreadable⟩
  by_cases asked : values layout.help items = []
  · by_cases missing : takenPaths layout.file items = []
    · exact Or.inl ⟨_, .missing fine asked missing⟩
    · by_cases left : LeftOver layout.file items
      · exact Or.inl ⟨_, .leftOver fine asked missing left⟩
      · obtain ⟨path, one⟩ := one_of missing fun more => twice (Or.inl more)
        exact Or.inr ⟨path, accepted_iff.mpr ⟨fine, asked, one, left⟩⟩
  · exact Or.inl ⟨_, .help fine asked⟩

theorem text_stored {op : Opt} (text : op ∈ layout.texts) (once : (values op items).length ≤ 1)
    {bound : Bound}
    (stores : ∀ value, (absorbed layout.app items).results op ≠ [] →
      op.runCallback checkPath ((absorbed layout.app items).results op) = .ok value →
      bound op = value)
    (keeps : (absorbed layout.app items).results op = [] → bound op = none) :
    bound op = (values op items).head?.map .string := by
  rw [results_text text] at stores keeps
  by_cases empty : values op items = []
  · rw [keeps empty, empty]
    rfl
  · obtain ⟨value, one⟩ := one_of empty (Nat.not_lt.mpr once)
    rw [one] at stores ⊢
    obtain ⟨forText, valid⟩ := text_fine checkPath text [value]
    exact stores _ (List.cons_ne_nil _ _) (runCallback_text forText valid)

/-- What is stored of a command line that is accepted. -/
theorem process_accepted {path : Text} (accepted : Accepted layout checkPath items path) :
    ∃ bound, layout.app.process checkPath (absorbed layout.app items) = .ok bound ∧
      bound layout.file = some (.string path) ∧
      ∀ op ∈ layout.texts, bound op = (values op items).head?.map .string := by
  obtain ⟨fine, notAsked, taken, nothing⟩ := accepted_iff.mp accepted
  obtain ⟨bound, stored, stores, keeps⟩ := fine.stored
  refine ⟨bound, ?_, ?_, ?_⟩
  · rw [process_stored stored, if_neg (not_not.mpr notAsked), if_neg (by rw [taken]; simp),
      if_pos ((missing_none items).mpr nothing)]
  · refine stores layout.file (by simp [Layout.app]) _ ?_ ?_
    · rw [absorbed_file, taken]
      exact List.cons_ne_nil _ _
    · rw [absorbed_file, taken]
      refine runCallback_text (file_forText layout) (validate_file.mpr ?_)
      simpa using accepted.isFile
  · intro op text
    exact text_stored text (accepted.once op text)
      (stores op (by simp [Layout.app, text])) (keeps op)

/-! The parser as a whole. -/

theorem parse_complete (checkPath : Text → PathType) {words : List Text}
    (complete : Complete layout.app items words) :
    layout.app.parse checkPath words = layout.app.process checkPath (absorbed layout.app items) := by
  unfold App.parse
  rw [parseArgs_complete layout.names complete]

theorem parse_dangling (checkPath : Text → PathType) {op : Opt} {words : List Text}
    (dangling : Dangling layout.app op words) :
    layout.app.parse checkPath words =
      .error (.typedAtLeast op.getName 1 op.getTypeName) := by
  unfold App.parse
  rw [parseArgs_dangling layout.names dangling]

/-- What is wrong with a command line: the value of the last option is missing, or there is
a complaint about what is read. -/
def Complained (layout : Layout) (checkPath : Text → PathType) (words : List Text) (code : Nat) :
    Prop :=
  (code = 114 ∧ ∃ op, Dangling layout.app op words) ∨
    ∃ items, Complete layout.app items words ∧ Complaint layout checkPath items code

theorem parse_error_iff (layout : Layout) (checkPath : Text → PathType) (words : List Text)
    (code : Nat) :
    (∃ error, layout.app.parse checkPath words = .error error ∧ error.exitCode = code) ↔
      Complained layout checkPath words code := by
  constructor
  · rintro ⟨error, failed, rfl⟩
    rcases complete_or_dangling layout.names words with ⟨items, complete⟩ | ⟨op, dangling⟩
    · rw [parse_complete checkPath complete] at failed
      rcases complaint_or_accepted layout checkPath items with
        ⟨code, complaint⟩ | ⟨path, accepted⟩
      · obtain ⟨error', run, exit⟩ := process_complaint complaint
        rw [run] at failed
        obtain rfl := Except.error.inj failed
        exact Or.inr ⟨items, complete, exit ▸ complaint⟩
      · obtain ⟨bound, run, -⟩ := process_accepted accepted
        rw [run] at failed
        cases failed
    · rw [parse_dangling checkPath dangling] at failed
      obtain rfl := Except.error.inj failed
      exact Or.inl ⟨rfl, op, dangling⟩
  · rintro (⟨rfl, op, dangling⟩ | ⟨items, complete, complaint⟩)
    · exact ⟨_, parse_dangling checkPath dangling, rfl⟩
    · rw [parse_complete checkPath complete]
      exact process_complaint complaint

/-- What is parsed has a reading that is accepted, and is what that reading says. -/
theorem parse_ok {words : List Text} {bound : Bound}
    (parsed : layout.app.parse checkPath words = .ok bound) :
    ∃ items path, Complete layout.app items words ∧ Accepted layout checkPath items path ∧
      bound layout.file = some (.string path) ∧
      ∀ op ∈ layout.texts, bound op = (values op items).head?.map .string := by
  rcases complete_or_dangling layout.names words with ⟨items, complete⟩ | ⟨op, dangling⟩
  · rw [parse_complete checkPath complete] at parsed
    rcases complaint_or_accepted layout checkPath items with
      ⟨code, complaint⟩ | ⟨path, accepted⟩
    · obtain ⟨error, run, -⟩ := process_complaint complaint
      rw [run] at parsed
      cases parsed
    · obtain ⟨bound', run, stored⟩ := process_accepted accepted
      rw [run] at parsed
      obtain rfl := Except.ok.inj parsed
      exact ⟨items, path, complete, accepted, stored⟩
  · rw [parse_dangling checkPath dangling] at parsed
    cases parsed

/-- An error is a call for help, lists what is left over, or names an option of the
application; none is of the kind that should not be seen. -/
theorem parse_about {words : List Text} {error : ParseError}
    (failed : layout.app.parse checkPath words = .error error) :
    error = .callForHelp ∨ (∃ args, error = .extrasError args) ∨
      ∃ op ∈ layout.app.options, error.about = some op.getName := by
  rcases complete_or_dangling layout.names words with ⟨items, complete⟩ | ⟨op, dangling⟩
  · rw [parse_complete checkPath complete] at failed
    exact process_about failed
  · rw [parse_dangling checkPath dangling] at failed
    obtain rfl := Except.error.inj failed
    obtain ⟨items, word, -, named, -⟩ := dangling
    exact Or.inr (Or.inr ⟨op, named.member, rfl⟩)

end MinecraftCarve.CommandLineVerdict
