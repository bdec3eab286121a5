import MinecraftCarve.DateText

/-! The part of `CLI11.hpp` that the two programs use: an application without
subcommands, whose options take either no value (flags) or exactly one. What the file
system says of a path is a parameter. -/

namespace MinecraftCarve.CommandLine
open Time DateText

abbrev Text := List Char

/-- `path_type`, as `check_path` tells them apart. -/
inductive PathType
  | nonexistent
  | file
  | directory
  deriving DecidableEq, Repr

/-- The two policies in use: the one of flags and the one of options with a value. -/
inductive MultiOptionPolicy
  | takeLast
  | throw
  deriving DecidableEq, Repr

/-- The callback of an option: the help flag has none. -/
inductive Callback
  | none
  | string
  | bool
  deriving DecidableEq, Repr

/-- An option as `add_option` and `add_flag` leave it. Its types have size one, and it
expects no item if it is like a flag, and one item if not. -/
structure Opt where
  snames : List Char
  lnames : List Text
  pname : Text
  flagLike : Bool
  policy : MultiOptionPolicy
  callback : Callback
  required : Bool := false
  existing : Bool := false
  deriving DecidableEq, Repr

def addOption (snames : List Char) (lnames : List Text) (pname : Text) : Opt where
  snames := snames
  lnames := lnames
  pname := pname
  flagLike := false
  policy := .throw
  callback := .string

def addFlag (snames : List Char) (lnames : List Text) (callback : Callback) : Opt where
  snames := snames
  lnames := lnames
  pname := []
  flagLike := true
  policy := .takeLast
  callback := callback

def Opt.itemsExpected (op : Opt) : Nat := if op.flagLike then 0 else 1

/-- The long name, else the short one, else the positional one. -/
def Opt.getName (op : Opt) : Text :=
  match op.lnames, op.snames with
  | name :: _, _ => '-' :: '-' :: name
  | [], c :: _ => ['-', c]
  | [], [] => op.pname

def Opt.getTypeName (op : Opt) : String :=
  (if op.callback = .string then "TEXT" else "") ++ (if op.existing then ":FILE" else "")

/-- What parsing throws. -/
inductive ParseError
  | callForHelp
  | conversionError (name : Text) (results : List Text)
  | validationError (name msg : Text)
  | requiredError (name : Text)
  | extrasError (args : List Text)
  | typedAtLeast (name : Text) (num : Nat) (type : String)
  | atLeast (name : Text) (num received : Nat)
  | atMost (name : Text) (num received : Nat)
  | horribleError (msg : Text)
  deriving DecidableEq, Repr

/-- `ExitCodes`, which `app.exit` returns. -/
def ParseError.exitCode : ParseError → Nat
  | .callForHelp => 0
  | .conversionError _ _ => 104
  | .validationError _ _ => 105
  | .requiredError _ => 106
  | .extrasError _ => 109
  | .horribleError _ => 112
  | .typedAtLeast _ _ _ | .atLeast _ _ _ | .atMost _ _ _ => 114

/-- The option that an error is about, if it is about one. -/
def ParseError.about : ParseError → Option Text
  | .conversionError name _ | .validationError name _ | .requiredError name
  | .typedAtLeast name _ _ | .atLeast name _ _ | .atMost name _ _ => some name
  | .callForHelp | .extrasError _ | .horribleError _ => none

def join (delim : String) (texts : List Text) : String :=
  delim.intercalate (texts.map String.ofList)

def ParseError.what : ParseError → String
  | .callForHelp => "This should be caught in your main function, see examples"
  | .conversionError name results =>
    "Could not convert: " ++ String.ofList name ++ " = " ++ join "," results
  | .validationError name msg => String.ofList name ++ ": " ++ String.ofList msg
  | .requiredError name => String.ofList name ++ " is required"
  | .extrasError args =>
    (if 1 < args.length then "The following arguments were not expected: "
      else "The following argument was not expected: ") ++ join " " args.reverse
  | .typedAtLeast name num type =>
    String.ofList name ++ ": " ++ toString num ++ " required " ++ type ++ " missing"
  | .atLeast name num received =>
    String.ofList name ++ ": At least " ++ toString num ++ " required but received " ++
      toString received
  | .atMost name num received =>
    String.ofList name ++ ": At Most " ++ toString num ++ " required but received " ++
      toString received
  | .horribleError msg => String.ofList msg

/-! Taking words apart. -/

def validFirstChar (c : Char) : Bool := c != '-' && c != '!' && c != ' ' && c != '\n'

def splitShort : Text → Option (Char × Text)
  | dash :: c :: rest =>
    if dash = '-' ∧ validFirstChar c = true then some (c, rest) else none
  | _ => none

def splitLong : Text → Option (Text × Text)
  | dash :: dash' :: c :: rest =>
    if dash = '-' ∧ dash' = '-' ∧ validFirstChar c = true then
      some ((c :: rest).takeWhile (fun c => c != '='),
        ((c :: rest).dropWhile (fun c => c != '=')).drop 1)
    else none
  | _ => none

inductive Classifier
  | none
  | positionalMark
  | short
  | long
  deriving DecidableEq, Repr

/-- The options in the order they were added, all different, and which one asks for help. -/
structure App where
  options : List Opt
  help : Opt

def App.findShort (app : App) (c : Char) : Option Opt :=
  app.options.find? (fun op => op.snames.contains c)

def App.findLong (app : App) (name : Text) : Option Opt :=
  app.options.find? (fun op => op.lnames.contains name)

def App.recognize (app : App) (current : Text) : Classifier :=
  if current = ['-', '-'] then .positionalMark
  else
    match splitLong current with
    | some _ => .long
    | none =>
      match splitShort current with
      | some (c, _) => if c.isDigit ∧ app.findShort c = none then .none else .short
      | none => .none

/-- What parsing has found so far: the results of each option, the words that went
nowhere, and whether a `--` was passed. -/
structure Parsed where
  results : Opt → List Text
  missing : List (Classifier × Text)
  positionalOnly : Bool

def Parsed.start : Parsed := ⟨fun _ => [], [], false⟩

def Parsed.addResult (parsed : Parsed) (op : Opt) (result : Text) : Parsed :=
  { parsed with results := Function.update parsed.results op (parsed.results op ++ [result]) }

def Parsed.moveToMissing (parsed : Parsed) (classifier : Classifier) (word : Text) : Parsed :=
  { parsed with missing := parsed.missing ++ [(classifier, word)] }

def Parsed.mark (parsed : Parsed) : Parsed :=
  ({ parsed with positionalOnly := true } : Parsed).moveToMissing .positionalMark ['-', '-']

def getFlagValue (inputValue : Text) : Text :=
  if inputValue = [] ∨ inputValue = "{}".toList then "true".toList else inputValue

/-- What `_parse_arg` does with the option it found: a flag leaves the rest of a short
word behind as a word of its own, any other option takes one value from where it can. -/
def Parsed.collect (parsed : Parsed) (op : Opt) (value rest : Text) (args : List Text) :
    Except ParseError (Parsed × List Text) :=
  if op.flagLike then
    .ok (parsed.addResult op (getFlagValue value), if rest = [] then args else ('-' :: rest) :: args)
  else if value ≠ [] then .ok (parsed.addResult op value, args)
  else if rest ≠ [] then .ok (parsed.addResult op rest, args)
  else
    match args with
    | [] => .error (.typedAtLeast op.getName 1 op.getTypeName)
    | next :: args => .ok (parsed.addResult op next, args)

def App.parseLong (app : App) (parsed : Parsed) (current name value : Text) (args : List Text) :
    Except ParseError (Parsed × List Text) :=
  match app.findLong name with
  | none => .ok (parsed.moveToMissing .long current, args)
  | some op => parsed.collect op value [] args

def App.parseShort (app : App) (parsed : Parsed) (current : Text) (c : Char) (rest : Text)
    (args : List Text) : Except ParseError (Parsed × List Text) :=
  match app.findShort c with
  | none => .ok (parsed.moveToMissing .short current, args)
  | some op => parsed.collect op [] rest args

def App.parsePositional (app : App) (parsed : Parsed) (positional : Text) : Parsed :=
  match app.options.find? (fun op =>
      op.pname ≠ [] && decide ((parsed.results op).length < op.itemsExpected)) with
  | some op => parsed.addResult op positional
  | none => parsed.moveToMissing .none positional

/-- One pass of the loop, with `_parse_arg` under the two classifiers that reach it. -/
def App.parseSingle (app : App) (parsed : Parsed) (current : Text) (args : List Text) :
    Except ParseError (Parsed × List Text) :=
  match if parsed.positionalOnly then .none else app.recognize current with
  | .positionalMark => .ok (parsed.mark, args)
  | .long =>
    match splitLong current with
    | some (name, value) => app.parseLong parsed current name value args
    | none => .error (.horribleError
        ("Long parsed but missing (you should not see this):".toList ++ current))
  | .short =>
    match splitShort current with
    | some (c, rest) => app.parseShort parsed current c rest args
    | none => .error (.horribleError "Short parsed but missing! You should not see this".toList)
  | .none => .ok (app.parsePositional parsed current, args)

/-! A pass either takes words away or puts back a shorter one. -/

/-- The length of the words, each with its end. -/
def size (args : List Text) : Nat := (args.map (fun word => word.length + 1)).sum

@[simp] theorem size_cons (word : Text) (args : List Text) :
    size (word :: args) = word.length + 1 + size args := rfl

theorem splitShort_some {word : Text} {c : Char} {rest : Text} :
    splitShort word = some (c, rest) ↔ word = '-' :: c :: rest ∧ validFirstChar c = true := by
  constructor
  · intro split
    unfold splitShort at split
    split at split
    next dash c' rest' =>
      split at split
      next valid =>
        obtain ⟨rfl, rfl⟩ := Prod.mk.inj (Option.some.inj split)
        exact ⟨by rw [valid.1], valid.2⟩
      next => cases split
    next => cases split
  · rintro ⟨rfl, valid⟩
    exact if_pos ⟨rfl, valid⟩

theorem collect_size {parsed after : Parsed} {op : Opt} {value rest : Text}
    {args left : List Text} (taken : parsed.collect op value rest args = .ok (after, left)) :
    size left ≤ size args + if rest = [] then 0 else rest.length + 2 := by
  unfold Parsed.collect at taken
  split at taken
  next =>
    obtain ⟨-, rfl⟩ := Prod.mk.inj (Except.ok.inj taken)
    by_cases noRest : rest = []
    · rw [if_pos noRest, if_pos noRest]
      exact Nat.le_refl _
    · rw [if_neg noRest, if_neg noRest, size_cons, List.length_cons]
      omega
  next =>
    split at taken
    next =>
      obtain ⟨-, rfl⟩ := Prod.mk.inj (Except.ok.inj taken)
      exact Nat.le_add_right _ _
    next =>
      split at taken
      next =>
        obtain ⟨-, rfl⟩ := Prod.mk.inj (Except.ok.inj taken)
        exact Nat.le_add_right _ _
      next =>
        split at taken
        next => cases taken
        next next args =>
          obtain ⟨-, rfl⟩ := Prod.mk.inj (Except.ok.inj taken)
          rw [size_cons]
          omega

theorem parseSingle_size {app : App} {parsed after : Parsed} {current : Text}
    {args left : List Text}
    (single : app.parseSingle parsed current args = .ok (after, left)) :
    size left < size (current :: args) := by
  rw [size_cons]
  unfold App.parseSingle at single
  split at single
  next =>
    obtain ⟨-, rfl⟩ := Prod.mk.inj (Except.ok.inj single)
    omega
  next =>
    split at single
    next name value _ =>
      unfold App.parseLong at single
      split at single
      next =>
        obtain ⟨-, rfl⟩ := Prod.mk.inj (Except.ok.inj single)
        omega
      next =>
        have bound := collect_size single
        rw [if_pos rfl] at bound
        omega
    next => cases single
  next =>
    split at single
    next c rest splitting =>
      obtain ⟨rfl, -⟩ := splitShort_some.mp splitting
      unfold App.parseShort at single
      split at single
      next =>
        obtain ⟨-, rfl⟩ := Prod.mk.inj (Except.ok.inj single)
        omega
      next =>
        have bound := collect_size single
        simp only [List.length_cons]
        split at bound <;> omega
    next => cases single
  next =>
    obtain ⟨-, rfl⟩ := Prod.mk.inj (Except.ok.inj single)
    omega

/-- The loop of `_parse`. -/
def App.parseArgs (app : App) (parsed : Parsed) : List Text → Except ParseError Parsed
  | [] => .ok parsed
  | current :: args =>
    match _ : app.parseSingle parsed current args with
    | .error error => .error error
    | .ok (after, left) => app.parseArgs after left
termination_by args => size args
decreasing_by exact parseSingle_size ‹_›

/-! Conversion of a flag's value. -/

inductive FlagError
  | invalidArgument
  | outOfRange
  deriving DecidableEq, Repr

/-- `std::stoll`: blanks, a sign, and as many digits as follow. -/
def stoll (text : Text) : Except FlagError Int :=
  let text := text.dropWhile isSpace
  let digits :=
    (if text.head? = some '-' ∨ text.head? = some '+' then text.drop 1 else text).takeWhile
      Char.isDigit
  let value : Int := if text.head? = some '-' then -(numeral digits) else numeral digits
  if digits = [] then .error .invalidArgument
  else if -2 ^ 63 ≤ value ∧ value < 2 ^ 63 then .ok value
  else .error .outOfRange

def toFlagValue (val : Text) : Except FlagError Int :=
  if val = "true".toList then .ok 1
  else if val = "false".toList then .ok (-1)
  else
    match val.map Char.toLower with
    | [c] =>
      if '1' ≤ c ∧ c ≤ '9' then .ok (digit c)
      else if c ∈ ['0', 'f', 'n', '-'] then .ok (-1)
      else if c ∈ ['t', 'y', '+'] then .ok 1
      else .error .invalidArgument
    | val =>
      if val ∈ ["true".toList, "on".toList, "yes".toList, "enable".toList] then .ok 1
      else if val ∈ ["false".toList, "off".toList, "no".toList, "disable".toList] then .ok (-1)
      else stoll val

/-- `lexical_cast` to a `bool`: of a number too large only the sign counts. -/
def lexicalCast (input : Text) : Option Bool :=
  match toFlagValue input with
  | .ok out => some (decide (0 < out))
  | .error .invalidArgument => none
  | .error .outOfRange => some (input.head? != some '-')

/-! What follows the loop: callbacks, help, required options, words left over. -/

/-- What `ExistingFile` complains of. -/
def existingFileValidator (checkPath : Text → PathType) (filename : Text) : Option Text :=
  match checkPath filename with
  | .nonexistent => some ("File does not exist: ".toList ++ filename)
  | .directory => some ("File is actually a directory: ".toList ++ filename)
  | .file => none

def Opt.validateResults (op : Opt) (checkPath : Text → PathType) (results : List Text) :
    Option ParseError :=
  if op.existing then
    (results.findSome? (existingFileValidator checkPath)).map (.validationError op.getName)
  else none

def Opt.reduceResults (op : Opt) (original : List Text) : Except ParseError (List Text) :=
  let num := max op.itemsExpected 1
  match op.policy with
  | .takeLast =>
    let trimSize := min num original.length
    .ok (if original.length ≠ trimSize then original.drop (original.length - trimSize) else [])
  | .throw =>
    if original.length < num then .error (.atLeast op.getName num original.length)
    else if num < original.length then .error (.atMost op.getName num original.length)
    else .ok []

/-- An empty container is marked by a second item, which no callback here looks at. -/
def Opt.markEmpty (op : Opt) (original out : List Text) : List Text :=
  let shown := if out = [] then original else out
  if shown = ["{}".toList] ∧ 0 < op.itemsExpected then ["{}".toList, "%%".toList] else out

/-- What a callback stores in the variable it is bound to. -/
inductive Value
  | string (text : Text)
  | bool (value : Bool)
  deriving DecidableEq, Repr

def Opt.sendResults (op : Opt) (results out : List Text) : List Text :=
  let procResults := op.markEmpty results out
  if procResults = [] then results else procResults

/-- The callback itself: it stores the first of the results it is sent. -/
def Opt.store (op : Opt) (results sendResults : List Text) : Except ParseError (Option Value) :=
  match op.callback with
  | .none => .ok none
  | .string => .ok (some (.string (sendResults.headD [])))
  | .bool =>
    match lexicalCast (sendResults.headD []) with
    | some value => .ok (some (.bool value))
    | none => .error (.conversionError op.getName results)

def Opt.runCallback (op : Opt) (checkPath : Text → PathType) (results : List Text) :
    Except ParseError (Option Value) :=
  match op.validateResults checkPath results with
  | some error => .error error
  | none =>
    match op.reduceResults results with
    | .error error => .error error
    | .ok out => op.store results (op.sendResults results out)

/-- The variables that the options are bound to, as far as parsing stored into them. -/
abbrev Bound := Opt → Option Value

def processCallbacks (checkPath : Text → PathType) (parsed : Parsed) :
    List Opt → Bound → Except ParseError Bound
  | [], bound => .ok bound
  | op :: options, bound =>
    if parsed.results op = [] then processCallbacks checkPath parsed options bound
    else
      match op.runCallback checkPath (parsed.results op) with
      | .error error => .error error
      | .ok value => processCallbacks checkPath parsed options (Function.update bound op value)

def App.processHelpFlags (app : App) (parsed : Parsed) : Option ParseError :=
  if parsed.results app.help = [] then none else some .callForHelp

def App.processRequirements (app : App) (parsed : Parsed) : Option ParseError :=
  (app.options.find? (fun op => op.required && parsed.results op = [])).map
    (fun op => .requiredError op.getName)

def Parsed.processExtras (parsed : Parsed) : Option ParseError :=
  if (parsed.missing.countP (fun word => word.1 != .positionalMark)) = 0 then none
  else some (.extrasError (parsed.missing.map Prod.snd))

/-- `_process` and `_process_extras`, which end the parse of the words. -/
def App.process (app : App) (checkPath : Text → PathType) (parsed : Parsed) :
    Except ParseError Bound :=
  match processCallbacks checkPath parsed app.options (fun _ => none) with
  | .error error => .error error
  | .ok bound =>
    match app.processHelpFlags parsed, app.processRequirements parsed, parsed.processExtras with
    | some error, _, _ => .error error
    | none, some error, _ => .error error
    | none, none, some error => .error error
    | none, none, none => .ok bound

/-- `App::parse` on the words after the program's name. -/
def App.parse (app : App) (checkPath : Text → PathType) (args : List Text) :
    Except ParseError Bound :=
  match app.parseArgs .start args with
  | .error error => .error error
  | .ok parsed => app.process checkPath parsed

end MinecraftCarve.CommandLine
