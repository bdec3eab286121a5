import MinecraftCarve.CommandLine

/-! What the words of a command line say, written down apart from the parser, and that
the parser reads them so. An option may be spelled by any of its names, with its value
in the same word or in the next, and a flag may have another word glued to it. -/

namespace MinecraftCarve.CommandLineGrammar
open CommandLine

/-- What one piece of a command line says. -/
inductive Item
  | given (op : Opt) (value : Text)
  | positional (value : Text)
  | mark
  | unknown (long : Bool) (word : Text)
  deriving DecidableEq

/-- A long name that is taken for one, and in which no value begins. -/
def validName (name : Text) : Bool :=
  name.head?.any validFirstChar && name.all (fun c => c != '=')

def NamesValid (app : App) : Prop :=
  ∀ op ∈ app.options, op.snames.all validFirstChar = true ∧ op.lnames.all validName = true

/-- A word that cannot be taken for an option: no dash in front, nothing after it, a
character after it that no name begins with, or a digit that is not a name. -/
def Bare (app : App) (word : Text) : Prop :=
  ∀ c more, word = '-' :: c :: more →
    c = '!' ∨ c = ' ' ∨ c = '\n' ∨
      (c = '-' ∧ ∃ d rest, more = d :: rest ∧ (d = '-' ∨ d = '!' ∨ d = ' ' ∨ d = '\n')) ∨
      (c.isDigit = true ∧ app.findShort c = none)

/-- A word that is an option's name and nothing more. -/
inductive Named (app : App) : Text → Opt → Prop
  | short {c : Char} {op : Opt} (found : app.findShort c = some op) : Named app ['-', c] op
  | long {name : Text} {op : Opt} (found : app.findLong name = some op) :
      Named app ('-' :: '-' :: name) op
  | longEmpty {name : Text} {op : Opt} (found : app.findLong name = some op) :
      Named app ('-' :: '-' :: (name ++ ['='])) op

/-- The item that the words begin with, and the words after it. The first argument says
whether a `--` was passed. -/
inductive Reads (app : App) : Bool → List Text → Item → List Text → Prop
  | next {word value : Text} {op : Opt} {args : List Text} (named : Named app word op)
      (takes : op.flagLike = false) :
      Reads app false (word :: value :: args) (.given op value) args
  | glued {c : Char} {value : Text} {op : Opt} {args : List Text}
      (found : app.findShort c = some op) (takes : op.flagLike = false) (nonempty : value ≠ []) :
      Reads app false (('-' :: c :: value) :: args) (.given op value) args
  | assigned {name value : Text} {op : Opt} {args : List Text}
      (found : app.findLong name = some op) (takes : op.flagLike = false) (nonempty : value ≠ []) :
      Reads app false (('-' :: '-' :: (name ++ '=' :: value)) :: args) (.given op value) args
  | flag {word : Text} {op : Opt} {args : List Text} (named : Named app word op)
      (flagLike : op.flagLike = true) :
      Reads app false (word :: args) (.given op "true".toList) args
  | flagAssigned {name value : Text} {op : Opt} {args : List Text}
      (found : app.findLong name = some op) (flagLike : op.flagLike = true) (nonempty : value ≠ []) :
      Reads app false (('-' :: '-' :: (name ++ '=' :: value)) :: args)
        (.given op (getFlagValue value)) args
  -- what follows the flag's letter is read again with a dash of its own
  | bundled {c : Char} {more : Text} {op : Opt} {args : List Text}
      (found : app.findShort c = some op) (flagLike : op.flagLike = true) (nonempty : more ≠ []) :
      Reads app false (('-' :: c :: more) :: args) (.given op "true".toList) (('-' :: more) :: args)
  | mark {args : List Text} : Reads app false (['-', '-'] :: args) .mark args
  | bare {word : Text} {args : List Text} (bare : Bare app word) :
      Reads app false (word :: args) (.positional word) args
  | afterMark {word : Text} {args : List Text} :
      Reads app true (word :: args) (.positional word) args
  | unknownShort {c : Char} {more : Text} {args : List Text} (valid : validFirstChar c = true)
      (absent : app.findShort c = none) (notDigit : c.isDigit = false) :
      Reads app false (('-' :: c :: more) :: args) (.unknown false ('-' :: c :: more)) args
  | unknownLong {c : Char} {more : Text} {args : List Text} (valid : validFirstChar c = true)
      (absent : app.findLong ((c :: more).takeWhile (fun c => c != '=')) = none) :
      Reads app false (('-' :: '-' :: c :: more) :: args)
        (.unknown true ('-' :: '-' :: c :: more)) args

/-- Whether a `--` was passed, after one more item. -/
def passed (only : Bool) (item : Item) : Bool := only || decide (item = .mark)

/-- The words begin with these items in a row, and then others follow. -/
inductive Renders (app : App) : Bool → List Item → List Text → Bool → List Text → Prop
  | done (only : Bool) (words : List Text) : Renders app only [] words only words
  | item {only ends : Bool} {item : Item} {items : List Item} {words rest left : List Text}
      (first : Reads app only words item rest)
      (others : Renders app (passed only item) items rest ends left) :
      Renders app only (item :: items) words ends left

/-- All the words are accounted for. -/
def Complete (app : App) (items : List Item) (words : List Text) : Prop :=
  ∃ ends, Renders app false items words ends []

/-- The words end in the name of an option that needs a value. -/
def Dangling (app : App) (op : Opt) (words : List Text) : Prop :=
  ∃ items word, Renders app false items words false [word] ∧ Named app word op ∧
    op.flagLike = false

/-- What an item does to the results. -/
def absorb (app : App) (parsed : Parsed) : Item → Parsed
  | .given op value => parsed.addResult op value
  | .positional value => app.parsePositional parsed value
  | .mark => parsed.mark
  | .unknown long word => parsed.moveToMissing (if long then .long else .short) word

/-! The classification of a word. -/

theorem validFirstChar_iff {c : Char} :
    validFirstChar c = true ↔ c ≠ '-' ∧ c ≠ '!' ∧ c ≠ ' ' ∧ c ≠ '\n' := by
  simp only [validFirstChar, Bool.and_eq_true, bne_iff_ne, and_assoc]

theorem splitLong_some {word name value : Text} :
    splitLong word = some (name, value) ↔
      ∃ c more, word = '-' :: '-' :: c :: more ∧ validFirstChar c = true ∧
        name = (c :: more).takeWhile (fun c => c != '=') ∧
        value = ((c :: more).dropWhile (fun c => c != '=')).drop 1 := by
  constructor
  · intro split
    unfold splitLong at split
    split at split
    next dash dash' c more =>
      split at split
      next valid =>
        obtain ⟨rfl, rfl⟩ := Prod.mk.inj (Option.some.inj split)
        exact ⟨c, more, by rw [valid.1, valid.2.1], valid.2.2, rfl, rfl⟩
      next => cases split
    next => cases split
  · rintro ⟨c, more, rfl, valid, rfl, rfl⟩
    exact if_pos ⟨rfl, rfl, valid⟩

theorem splitLong_none {word : Text} :
    splitLong word = none ↔
      ∀ c more, word = '-' :: '-' :: c :: more → validFirstChar c = false := by
  constructor
  · rintro none c more rfl
    cases valid : validFirstChar c with
    | false => rfl
    | true => rw [splitLong_some.mpr ⟨c, more, rfl, valid, rfl, rfl⟩] at none; cases none
  · intro invalid
    cases split : splitLong word with
    | none => rfl
    | some parts =>
      obtain ⟨c, more, rfl, valid, -⟩ := splitLong_some.mp split
      rw [invalid c more rfl] at valid
      cases valid

variable {app : App}

theorem recognize_long {word name value : Text} (split : splitLong word = some (name, value)) :
    app.recognize word = .long := by
  obtain ⟨c, more, rfl, -⟩ := splitLong_some.mp split
  unfold App.recognize
  rw [if_neg (by simp), split]

theorem recognize_short {c : Char} {more : Text} (valid : validFirstChar c = true) :
    app.recognize ('-' :: c :: more) =
      if c.isDigit = true ∧ app.findShort c = none then .none else .short := by
  obtain ⟨notDash, -⟩ := validFirstChar_iff.mp valid
  have noLong : splitLong ('-' :: c :: more) = none := by
    refine splitLong_none.mpr fun d rest same => ?_
    exact absurd (List.cons.inj (List.cons.inj same).2).1 notDash
  unfold App.recognize
  rw [if_neg (by simp [notDash]), noLong, splitShort_some.mpr ⟨rfl, valid⟩]

/-- A word without a part that could name an option is none of the other kinds. -/
theorem recognize_other {word : Text} (notMark : word ≠ ['-', '-'])
    (noLong : splitLong word = none) (noShort : splitShort word = none) :
    app.recognize word = .none := by
  unfold App.recognize
  rw [if_neg notMark, noLong, noShort]

theorem not_validFirstChar {c : Char} (invalid : validFirstChar c ≠ true) :
    c = '-' ∨ c = '!' ∨ c = ' ' ∨ c = '\n' := by
  by_contra other
  simp only [not_or] at other
  exact invalid (validFirstChar_iff.mpr other)

/-- After two dashes a bare word goes on with a character that no name begins with. -/
theorem Bare.dashes {more : Text} (bare : Bare app ('-' :: '-' :: more)) :
    ∃ d rest, more = d :: rest ∧ validFirstChar d = false := by
  rcases bare '-' more rfl with bang | space | newline | ⟨-, d, rest, rfl, invalid⟩ | ⟨digit, -⟩
  · exact absurd bang (by decide)
  · exact absurd space (by decide)
  · exact absurd newline (by decide)
  · refine ⟨d, rest, rfl, ?_⟩
    rcases invalid with rfl | rfl | rfl | rfl <;> rfl
  · exact absurd digit (by decide)

theorem recognize_bare {word : Text} : app.recognize word = .none ↔ Bare app word := by
  constructor
  · rintro recognized c more rfl
    by_cases valid : validFirstChar c = true
    · rw [recognize_short valid] at recognized
      split at recognized
      next digit => exact Or.inr (Or.inr (Or.inr (Or.inr digit)))
      next => cases recognized
    · rcases not_validFirstChar valid with rfl | rfl | rfl | rfl
      · refine Or.inr (Or.inr (Or.inr (Or.inl ⟨rfl, ?_⟩)))
        cases more with
        | nil => cases recognized
        | cons d rest =>
          refine ⟨d, rest, rfl, not_validFirstChar fun validToo => ?_⟩
          rw [recognize_long (splitLong_some.mpr ⟨d, rest, rfl, validToo, rfl, rfl⟩)] at recognized
          cases recognized
      · exact Or.inl rfl
      · exact Or.inr (Or.inl rfl)
      · exact Or.inr (Or.inr (Or.inl rfl))
  · intro bare
    have notMark : word ≠ ['-', '-'] := by
      rintro rfl
      obtain ⟨d, rest, impossible, -⟩ := bare.dashes
      cases impossible
    have noLong : splitLong word = none := by
      refine splitLong_none.mpr ?_
      rintro c more rfl
      obtain ⟨d, rest, same, invalid⟩ := bare.dashes
      obtain rfl := (List.cons.inj same).1
      exact invalid
    cases short : splitShort word with
    | none => exact recognize_other notMark noLong short
    | some parts =>
      obtain ⟨c, more⟩ := parts
      obtain ⟨rfl, valid⟩ := splitShort_some.mp short
      obtain ⟨notDash, notBang, notSpace, notNewline⟩ := validFirstChar_iff.mp valid
      rw [recognize_short valid, if_pos]
      have afterDash := bare c more rfl
      simpa only [notDash, notBang, notSpace, notNewline, false_and, false_or] using afterDash

/-- The four kinds of words, as the parser tells them apart. -/
theorem word_cases (app : App) (word : Text) :
    word = ['-', '-'] ∨ (∃ name value, splitLong word = some (name, value)) ∨
      (∃ c more, word = '-' :: c :: more ∧ validFirstChar c = true ∧
        ¬(c.isDigit = true ∧ app.findShort c = none)) ∨ Bare app word := by
  by_cases isMark : word = ['-', '-']
  · exact Or.inl isMark
  cases long : splitLong word with
  | some parts => exact Or.inr (Or.inl ⟨parts.1, parts.2, rfl⟩)
  | none =>
    cases short : splitShort word with
    | none => exact Or.inr (Or.inr (Or.inr (recognize_bare.mp (recognize_other isMark long short))))
    | some parts =>
      obtain ⟨rfl, valid⟩ := splitShort_some.mp short
      by_cases digit : parts.1.isDigit = true ∧ app.findShort parts.1 = none
      · refine Or.inr (Or.inr (Or.inr (recognize_bare.mp ?_)))
        rw [recognize_short valid, if_pos digit]
      · exact Or.inr (Or.inr (Or.inl ⟨parts.1, parts.2, rfl, valid, digit⟩))

/-! Names and what is split off them. -/

theorem validName_begins {name : Text} (valid : validName name = true) :
    ∃ c more, name = c :: more ∧ validFirstChar c = true ∧
      ∀ d ∈ c :: more, (fun c => c != '=') d = true := by
  obtain ⟨first, noEquals⟩ := Bool.and_eq_true_iff.mp valid
  cases name with
  | nil => cases first
  | cons c more => exact ⟨c, more, rfl, first, List.all_eq_true.mp noEquals⟩

theorem splitLong_name {name : Text} (valid : validName name = true) :
    splitLong ('-' :: '-' :: name) = some (name, []) := by
  obtain ⟨c, more, rfl, validFirst, all⟩ := validName_begins valid
  exact splitLong_some.mpr ⟨c, more, rfl, validFirst, (List.takeWhile_eq_self_iff.mpr all).symm,
    by rw [List.dropWhile_eq_nil_iff.mpr all]; rfl⟩

theorem splitLong_assigned {name : Text} (value : Text) (valid : validName name = true) :
    splitLong ('-' :: '-' :: (name ++ '=' :: value)) = some (name, value) := by
  obtain ⟨c, more, rfl, validFirst, all⟩ := validName_begins valid
  refine splitLong_some.mpr ⟨c, more ++ '=' :: value, rfl, validFirst, ?_, ?_⟩
  · rw [← List.cons_append, List.takeWhile_append_of_pos all]
    simp
  · rw [← List.cons_append, List.dropWhile_append_of_pos all]
    simp

/-- What is split is a name by itself, or a name, an equals sign and a value. -/
theorem splitLong_forms {word name value : Text} (split : splitLong word = some (name, value)) :
    (word = '-' :: '-' :: name ∧ value = []) ∨ word = '-' :: '-' :: (name ++ '=' :: value) := by
  obtain ⟨c, more, rfl, -, rfl, rfl⟩ := splitLong_some.mp split
  have whole := List.takeWhile_append_dropWhile (p := fun c => c != '=') (l := c :: more)
  cases tail : (c :: more).dropWhile (fun c => c != '=') with
  | nil =>
    rw [tail, List.append_nil] at whole
    exact Or.inl ⟨by rw [whole], rfl⟩
  | cons d rest =>
    have stopped : ¬(d != '=') = true := by
      have first := List.head?_dropWhile_not (fun c => c != '=') (c :: more)
      rw [tail] at first
      simpa using first
    obtain rfl : d = '=' := by simpa using stopped
    rw [tail] at whole
    exact Or.inr (by rw [List.drop_one, List.tail_cons, whole])

theorem findShort_valid (names : NamesValid app) {c : Char} {op : Opt}
    (found : app.findShort c = some op) : validFirstChar c = true := by
  have member := List.mem_of_find?_eq_some found
  have named := List.find?_some found
  exact List.all_eq_true.mp (names op member).1 c (List.contains_iff_mem.mp named)

theorem findLong_valid (names : NamesValid app) {name : Text} {op : Opt}
    (found : app.findLong name = some op) : validName name = true := by
  have member := List.mem_of_find?_eq_some found
  have named := List.find?_some found
  exact List.all_eq_true.mp (names op member).2 name (List.contains_iff_mem.mp named)

theorem Named.member {word : Text} {op : Opt} (named : Named app word op) : op ∈ app.options := by
  cases named with
  | short found => exact List.mem_of_find?_eq_some found
  | long found => exact List.mem_of_find?_eq_some found
  | longEmpty found => exact List.mem_of_find?_eq_some found

/-! One pass of the loop on each kind of word. -/

variable {parsed after : Parsed} {args left : List Text}

theorem parseSingle_mark (unmarked : parsed.positionalOnly = false) :
    app.parseSingle parsed ['-', '-'] args = .ok (parsed.mark, args) := by
  unfold App.parseSingle
  rw [unmarked]
  rfl

theorem parseSingle_long {word name value : Text} (unmarked : parsed.positionalOnly = false)
    (split : splitLong word = some (name, value)) :
    app.parseSingle parsed word args = app.parseLong parsed word name value args := by
  unfold App.parseSingle
  simp only [unmarked, Bool.false_eq_true, if_false, recognize_long split, split]

theorem parseSingle_short {c : Char} {more : Text} (unmarked : parsed.positionalOnly = false)
    (valid : validFirstChar c = true) (option : ¬(c.isDigit = true ∧ app.findShort c = none)) :
    app.parseSingle parsed ('-' :: c :: more) args =
      app.parseShort parsed ('-' :: c :: more) c more args := by
  unfold App.parseSingle
  simp only [unmarked, Bool.false_eq_true, if_false, recognize_short valid, if_neg option,
    splitShort_some.mpr ⟨rfl, valid⟩]

theorem parseSingle_positional {word : Text}
    (bare : parsed.positionalOnly = true ∨ Bare app word) :
    app.parseSingle parsed word args = .ok (app.parsePositional parsed word, args) := by
  unfold App.parseSingle
  cases only : parsed.positionalOnly with
  | true => rfl
  | false =>
    have recognized : app.recognize word = .none :=
      recognize_bare.mpr (bare.resolve_left (by rw [only]; exact Bool.false_ne_true))
    simp only [Bool.false_eq_true, if_false, recognized]

theorem collect_flag {op : Opt} {value rest : Text} (flagLike : op.flagLike = true) :
    parsed.collect op value rest args = .ok (parsed.addResult op (getFlagValue value),
      if rest = [] then args else ('-' :: rest) :: args) := if_pos flagLike

theorem collect_value {op : Opt} {value rest : Text} (takes : op.flagLike = false)
    (nonempty : value ≠ []) :
    parsed.collect op value rest args = .ok (parsed.addResult op value, args) := by
  unfold Parsed.collect
  rw [takes, if_neg Bool.false_ne_true, if_pos nonempty]

theorem collect_rest {op : Opt} {rest : Text} (takes : op.flagLike = false)
    (nonempty : rest ≠ []) :
    parsed.collect op [] rest args = .ok (parsed.addResult op rest, args) := by
  unfold Parsed.collect
  rw [takes, if_neg Bool.false_ne_true, if_neg (not_not.mpr rfl), if_pos nonempty]

theorem collect_next {op : Opt} {next : Text} (takes : op.flagLike = false) :
    parsed.collect op [] [] (next :: args) = .ok (parsed.addResult op next, args) := by
  unfold Parsed.collect
  rw [takes, if_neg Bool.false_ne_true, if_neg (not_not.mpr rfl), if_neg (not_not.mpr rfl)]

theorem collect_last {op : Opt} (takes : op.flagLike = false) :
    parsed.collect op [] [] [] = .error (.typedAtLeast op.getName 1 op.getTypeName) := by
  unfold Parsed.collect
  rw [takes, if_neg Bool.false_ne_true, if_neg (not_not.mpr rfl), if_neg (not_not.mpr rfl)]

/-- A word that is an option's name is left to `collect` with nothing to start from. -/
theorem parseSingle_named (names : NamesValid app) {word : Text} {op : Opt}
    (unmarked : parsed.positionalOnly = false) (named : Named app word op) (args : List Text) :
    app.parseSingle parsed word args = parsed.collect op [] [] args := by
  cases named with
  | short found =>
    rw [parseSingle_short unmarked (findShort_valid names found) (by simp [found])]
    simp only [App.parseShort, found]
  | long found =>
    rw [parseSingle_long unmarked (splitLong_name (findLong_valid names found))]
    simp only [App.parseLong, found]
  | longEmpty found =>
    rw [parseSingle_long unmarked (splitLong_assigned [] (findLong_valid names found))]
    simp only [App.parseLong, found]

/-- A word that is an option's name begins an item, unless it needs a value and is the last. -/
theorem named_cases {word : Text} {op : Opt} (named : Named app word op) (args : List Text) :
    (∃ item left, Reads app false (word :: args) item left) ∨
      (args = [] ∧ op.flagLike = false) := by
  cases flagLike : op.flagLike with
  | true => exact Or.inl ⟨_, _, .flag named flagLike⟩
  | false =>
    cases args with
    | nil => exact Or.inr ⟨rfl, rfl⟩
    | cons value args => exact Or.inl ⟨_, _, .next named flagLike⟩

/-- An item is read as it is meant. -/
theorem parseSingle_reads (names : NamesValid app) {word : Text} {item : Item}
    (reads : Reads app parsed.positionalOnly (word :: args) item left) :
    app.parseSingle parsed word args = .ok (absorb app parsed item, left) := by
  generalize onlyIs : parsed.positionalOnly = only at reads
  cases reads with
  | next named takes => rw [parseSingle_named names onlyIs named, collect_next takes]; rfl
  | glued found takes nonempty =>
    rw [parseSingle_short onlyIs (findShort_valid names found) (by simp [found])]
    simp only [App.parseShort, found]
    exact collect_rest takes nonempty
  | assigned found takes nonempty =>
    rw [parseSingle_long onlyIs (splitLong_assigned _ (findLong_valid names found))]
    simp only [App.parseLong, found]
    exact collect_value takes nonempty
  | flag named flagLike => rw [parseSingle_named names onlyIs named, collect_flag flagLike]; rfl
  | flagAssigned found flagLike nonempty =>
    rw [parseSingle_long onlyIs (splitLong_assigned _ (findLong_valid names found))]
    simp only [App.parseLong, found]
    exact collect_flag flagLike
  | bundled found flagLike nonempty =>
    rw [parseSingle_short onlyIs (findShort_valid names found) (by simp [found])]
    simp only [App.parseShort, found]
    rw [collect_flag flagLike, if_neg nonempty]
    rfl
  | mark => exact parseSingle_mark onlyIs
  | bare bare => exact parseSingle_positional (Or.inr bare)
  | afterMark => exact parseSingle_positional (Or.inl onlyIs)
  | unknownShort valid absent notDigit =>
    rw [parseSingle_short onlyIs valid (by simp [notDigit])]
    simp only [App.parseShort, absent]
    rfl
  | unknownLong valid absent =>
    rw [parseSingle_long onlyIs (splitLong_some.mpr ⟨_, _, rfl, valid, rfl, rfl⟩)]
    simp only [App.parseLong, absent]
    rfl

/-- Words begin with an item, or are one name that needs a value. -/
theorem reads_cases (app : App) (only : Bool) (word : Text) (args : List Text) :
    (∃ item left, Reads app only (word :: args) item left) ∨
      (only = false ∧ args = [] ∧ ∃ op, Named app word op ∧ op.flagLike = false) := by
  cases only with
  | true => exact Or.inl ⟨_, _, .afterMark⟩
  | false =>
    rcases word_cases app word with
      rfl | ⟨name, value, split⟩ | ⟨c, more, rfl, valid, option⟩ | bare
    · exact Or.inl ⟨_, _, .mark⟩
    · cases found : app.findLong name with
      | none =>
        obtain ⟨c, more, rfl, valid, rfl, -⟩ := splitLong_some.mp split
        exact Or.inl ⟨_, _, .unknownLong valid found⟩
      | some op =>
        by_cases empty : value = []
        · have named : Named app word op := by
            rcases splitLong_forms split with ⟨rfl, -⟩ | rfl
            · exact .long found
            · exact empty ▸ .longEmpty found
          exact (named_cases named args).imp_right fun last => ⟨rfl, last.1, op, named, last.2⟩
        · obtain rfl := (splitLong_forms split).resolve_left fun both => empty both.2
          cases flagLike : op.flagLike with
          | true => exact Or.inl ⟨_, _, .flagAssigned found flagLike empty⟩
          | false => exact Or.inl ⟨_, _, .assigned found flagLike empty⟩
    · cases found : app.findShort c with
      | none =>
        have notDigit : c.isDigit = false := by
          rw [Bool.eq_false_iff]
          exact fun digit => option ⟨digit, found⟩
        exact Or.inl ⟨_, _, .unknownShort valid found notDigit⟩
      | some op =>
        by_cases empty : more = []
        · have named : Named app ('-' :: c :: more) op := empty ▸ .short found
          exact (named_cases named args).imp_right fun last => ⟨rfl, last.1, op, named, last.2⟩
        · cases flagLike : op.flagLike with
          | true => exact Or.inl ⟨_, _, .bundled found flagLike empty⟩
          | false => exact Or.inl ⟨_, _, .glued found flagLike empty⟩
    · exact Or.inl ⟨_, _, .bare bare⟩

/-! The whole loop. -/

theorem absorb_positionalOnly (app : App) (parsed : Parsed) (item : Item) :
    (absorb app parsed item).positionalOnly = passed parsed.positionalOnly item := by
  cases item with
  | given op value => simp [absorb, passed, Parsed.addResult]
  | positional value =>
    change (app.parsePositional parsed value).positionalOnly = _
    unfold App.parsePositional
    split <;> simp [passed, Parsed.addResult, Parsed.moveToMissing]
  | mark => simp [absorb, passed, Parsed.mark, Parsed.moveToMissing]
  | unknown long word => simp [absorb, passed, Parsed.moveToMissing]

/-- A state to try items on: one result for every option. -/
def probe (only : Bool) : Parsed := ⟨fun _ => [[]], [], only⟩

theorem parseSingle_probe (names : NamesValid app) {only : Bool} {word : Text} {item : Item}
    (reads : Reads app only (word :: args) item left) :
    app.parseSingle (probe only) word args = .ok (absorb app (probe only) item, left) :=
  parseSingle_reads names reads

/-- An item takes words away or leaves a shorter one. -/
theorem reads_size (names : NamesValid app) {only : Bool} {words : List Text} {item : Item}
    (reads : Reads app only words item left) : size left < size words := by
  cases words with
  | nil => cases reads
  | cons word args =>
    exact parseSingle_size (parseSingle_probe names reads)

/-- The loop takes items as they come. -/
theorem parseArgs_renders (names : NamesValid app) {only ends : Bool} {items : List Item}
    {words : List Text} (renders : Renders app only items words ends left) (parsed : Parsed)
    (same : parsed.positionalOnly = only) :
    app.parseArgs parsed words = app.parseArgs (items.foldl (absorb app) parsed) left ∧
      (items.foldl (absorb app) parsed).positionalOnly = ends := by
  induction renders generalizing parsed with
  | done only words => exact ⟨rfl, same⟩
  | @item only ends item items words rest left first others ih =>
    have next : (absorb app parsed item).positionalOnly = passed only item := by
      rw [absorb_positionalOnly, same]
    obtain ⟨run, mark⟩ := ih _ next
    refine ⟨?_, mark⟩
    rw [List.foldl_cons, ← run]
    cases words with
    | nil => cases first
    | cons word args =>
      rw [App.parseArgs]
      have single := parseSingle_reads names (same ▸ first)
      split
      next error failed =>
        rw [single] at failed
        cases failed
      next after left' done =>
        rw [single] at done
        obtain ⟨rfl, rfl⟩ := Prod.mk.inj (Except.ok.inj done)
        rfl

/-- Every command line is accounted for, up to a last name that needs a value. -/
theorem renders_total (names : NamesValid app) (only : Bool) (words : List Text) :
    (∃ items ends, Renders app only items words ends []) ∨
      (∃ items word op, Renders app only items words false [word] ∧ Named app word op ∧
        op.flagLike = false) := by
  cases words with
  | nil => exact Or.inl ⟨[], only, .done only []⟩
  | cons word args =>
    rcases reads_cases app only word args with
      ⟨item, left, reads⟩ | ⟨rfl, rfl, op, named, takes⟩
    · have := reads_size names reads
      rcases renders_total names (passed only item) left with
        ⟨items, ends, others⟩ | ⟨items, last, op, others, named, takes⟩
      · exact Or.inl ⟨item :: items, ends, .item reads others⟩
      · exact Or.inr ⟨item :: items, last, op, .item reads others, named, takes⟩
    · exact Or.inr ⟨[], word, op, .done false [word], named, takes⟩
termination_by size words

/-- What all the items of a command line come to. -/
def absorbed (app : App) (items : List Item) : Parsed := items.foldl (absorb app) .start

theorem parseArgs_complete (names : NamesValid app) {items : List Item} {words : List Text}
    (complete : Complete app items words) :
    app.parseArgs .start words = .ok (absorbed app items) := by
  obtain ⟨ends, renders⟩ := complete
  rw [(parseArgs_renders names renders .start rfl).1, App.parseArgs]
  rfl

theorem parseArgs_dangling (names : NamesValid app) {op : Opt} {words : List Text}
    (dangling : Dangling app op words) :
    app.parseArgs .start words = .error (.typedAtLeast op.getName 1 op.getTypeName) := by
  obtain ⟨items, word, renders, named, takes⟩ := dangling
  obtain ⟨run, unmarked⟩ := parseArgs_renders names renders .start rfl
  rw [run, App.parseArgs]
  have single := parseSingle_named names unmarked named []
  rw [collect_last takes] at single
  split
  next error failed =>
    rw [single] at failed
    rw [Except.error.inj failed]
  next after left' done =>
    rw [single] at done
    cases done

theorem complete_or_dangling (names : NamesValid app) (words : List Text) :
    (∃ items, Complete app items words) ∨ ∃ op, Dangling app op words := by
  rcases renders_total names false words with
    ⟨items, ends, renders⟩ | ⟨items, word, op, renders, named, takes⟩
  · exact Or.inl ⟨items, ends, renders⟩
  · exact Or.inr ⟨op, items, word, renders, named, takes⟩

/-! No command line has two readings: the parser is the same on both, and from a state in
which every option has a result already, its next state tells what item it took. -/

theorem parsePositional_probe (app : App) (only : Bool) (value : Text) :
    app.parsePositional (probe only) value = (probe only).moveToMissing .none value := by
  have none : app.options.find? (fun op => op.pname ≠ [] &&
      decide (((probe only).results op).length < op.itemsExpected)) = none := by
    refine List.find?_eq_none.mpr fun op _ => ?_
    have atMostOne : op.itemsExpected ≤ 1 := by unfold Opt.itemsExpected; split <;> omega
    have notFewer : ¬((probe only).results op).length < op.itemsExpected := by
      change ¬1 < op.itemsExpected
      omega
    simp [notFewer]
  unfold App.parsePositional
  rw [none]

/-- Where an item goes that is no option's. -/
def Item.misses : Item → List (Classifier × Text)
  | .given _ _ => []
  | .positional value => [(.none, value)]
  | .mark => [(.positionalMark, ['-', '-'])]
  | .unknown long word => [(if long then .long else .short, word)]

theorem absorb_probe_missing (app : App) (only : Bool) (item : Item) :
    (absorb app (probe only) item).missing = item.misses := by
  cases item with
  | given op value => rfl
  | positional value =>
    change (app.parsePositional (probe only) value).missing = _
    rw [parsePositional_probe]
    rfl
  | mark => rfl
  | unknown long word => rfl

theorem given_injective {only : Bool} {op op' : Opt} {value value' : Text}
    (same : (probe only).addResult op value = (probe only).addResult op' value') :
    op = op' ∧ value = value' := by
  have atOp := congrFun (congrArg Parsed.results same) op
  simp only [Parsed.addResult, probe, Function.update_self, Function.update_apply] at atOp
  by_cases sameOp : op = op'
  · rw [if_pos sameOp] at atOp
    exact ⟨sameOp, by simpa using atOp⟩
  · rw [if_neg sameOp] at atOp
    simp at atOp

/-- Which item it was, from what it did to the probe. -/
theorem absorb_probe {only : Bool} {item item' : Item}
    (same : absorb app (probe only) item = absorb app (probe only) item') : item = item' := by
  have misses : item.misses = item'.misses := by
    rw [← absorb_probe_missing app only, ← absorb_probe_missing app only, same]
  cases item with
  | given op value =>
    cases item' with
    | given op' value' =>
      obtain ⟨rfl, rfl⟩ := given_injective same
      rfl
    | positional value' => simp [Item.misses] at misses
    | mark => simp [Item.misses] at misses
    | unknown long word => simp [Item.misses] at misses
  | positional value =>
    cases item' with
    | given op' value' => simp [Item.misses] at misses
    | positional value' => simpa [Item.misses] using misses
    | mark => simp [Item.misses] at misses
    | unknown long word => cases long <;> simp [Item.misses] at misses
  | mark =>
    cases item' with
    | given op' value' => simp [Item.misses] at misses
    | positional value' => simp [Item.misses] at misses
    | mark => rfl
    | unknown long word => cases long <;> simp [Item.misses] at misses
  | unknown long word =>
    cases item' with
    | given op' value' => simp [Item.misses] at misses
    | positional value' => cases long <;> simp [Item.misses] at misses
    | mark => cases long <;> simp [Item.misses] at misses
    | unknown long' word' => cases long <;> cases long' <;> simp_all [Item.misses]

theorem reads_unique (names : NamesValid app) {only : Bool} {words left' : List Text}
    {item item' : Item} (reads : Reads app only words item left)
    (reads' : Reads app only words item' left') : item = item' ∧ left = left' := by
  cases words with
  | nil => cases reads
  | cons word args =>
    have single := parseSingle_probe names reads
    rw [parseSingle_probe names reads'] at single
    obtain ⟨same, rfl⟩ := Prod.mk.inj (Except.ok.inj single)
    exact ⟨(absorb_probe same).symm, rfl⟩

theorem named_reads_nothing (names : NamesValid app) {word : Text} {op : Opt} {item : Item}
    (named : Named app word op) (takes : op.flagLike = false)
    (reads : Reads app false [word] item left) : False := by
  have single := parseSingle_probe names reads
  rw [parseSingle_named names rfl named, collect_last takes] at single
  cases single

/-- Two readings that go as far as they can are the same. -/
theorem renders_unique (names : NamesValid app) {only ends ends' : Bool} {items items' : List Item}
    {words left' : List Text} (renders : Renders app only items words ends left)
    (renders' : Renders app only items' words ends' left')
    (stuck : ∀ item rest, ¬Reads app ends left item rest)
    (stuck' : ∀ item rest, ¬Reads app ends' left' item rest) :
    items = items' ∧ ends = ends' ∧ left = left' := by
  induction renders generalizing items' with
  | done only words =>
    cases renders' with
    | done => exact ⟨rfl, rfl, rfl⟩
    | item first others => exact absurd first (stuck _ _)
  | item first others ih =>
    cases renders' with
    | done => exact absurd first (stuck' _ _)
    | item first' others' =>
      obtain ⟨rfl, rfl⟩ := reads_unique names first first'
      obtain ⟨rfl, rfl, rfl⟩ := ih others' stuck
      exact ⟨rfl, rfl, rfl⟩

/-- Each command line has one reading, or else it ends in the name of one option that lacks
its value. -/
theorem one_reading_or_dangling (names : NamesValid app) (words : List Text) :
    Xor (∃! items, Complete app items words) (∃! op, Dangling app op words) := by
  have stuckEmpty : ∀ only item rest, ¬Reads app only [] item rest := by
    intro only item rest reads
    cases reads
  have stuckNamed : ∀ word op, Named app word op → op.flagLike = false →
      ∀ item rest, ¬Reads app false [word] item rest :=
    fun word op named takes item rest reads => named_reads_nothing names named takes reads
  have exclusive : ∀ items op, Complete app items words → ¬Dangling app op words := by
    rintro items op ⟨ends, renders⟩ ⟨items', word, renders', named, takes⟩
    obtain ⟨-, -, impossible⟩ := renders_unique names renders renders' (stuckEmpty ends)
      (stuckNamed word op named takes)
    cases impossible
  rcases complete_or_dangling names words with ⟨items, complete⟩ | ⟨op, dangling⟩
  · refine Or.inl ⟨⟨items, complete, ?_⟩, ?_⟩
    · rintro items' ⟨ends', renders'⟩
      obtain ⟨ends, renders⟩ := complete
      exact (renders_unique names renders' renders (stuckEmpty ends') (stuckEmpty ends)).1
    · rintro ⟨op, dangling, -⟩
      exact exclusive items op complete dangling
  · refine Or.inr ⟨⟨op, dangling, ?_⟩, ?_⟩
    · rintro op' ⟨items', word', renders', named', takes'⟩
      obtain ⟨items, word, renders, named, takes⟩ := dangling
      obtain ⟨-, -, same⟩ := renders_unique names renders' renders
        (stuckNamed word' op' named' takes') (stuckNamed word op named takes)
      obtain rfl := (List.cons.inj same).1
      have unmarked : (probe false).positionalOnly = false := rfl
      have single := parseSingle_named names unmarked named [[]]
      rw [parseSingle_named names unmarked named', collect_next takes, collect_next takes'] at single
      exact (given_injective (Prod.mk.inj (Except.ok.inj single)).1).1
    · rintro ⟨items, complete, -⟩
      exact exclusive items op complete dangling

end MinecraftCarve.CommandLineGrammar
