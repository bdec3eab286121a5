import MinecraftCarve.CommandLineGrammar
import Mathlib.Data.List.Induction

/-! What the items of a command line come to in an application like those of the two
programs: the values each option has, the file, and what is left over. -/

namespace MinecraftCarve.CommandLineItems
open CommandLine CommandLineGrammar

/-- An application like those of the two programs: the help flag, the file, which may be
given without a name, other texts, and flags. -/
structure Layout where
  help : Opt
  file : Opt
  texts : List Opt
  flags : List Opt
  distinct : (help :: file :: (texts ++ flags)).Nodup
  namesValid : NamesValid ⟨help :: file :: (texts ++ flags), help⟩
  helpIs : help = addFlag help.snames help.lnames .none
  fileIs : file =
    { addOption file.snames file.lnames file.pname with required := true, existing := true }
  fileNamed : file.pname ≠ []
  textsAre : ∀ op ∈ texts, op = addOption op.snames op.lnames []
  flagsAre : ∀ op ∈ flags, op = addFlag op.snames op.lnames .bool

def Layout.app (layout : Layout) : App :=
  ⟨layout.help :: layout.file :: (layout.texts ++ layout.flags), layout.help⟩

theorem Layout.names (layout : Layout) : NamesValid layout.app := layout.namesValid

/-- The values that an option is given by one of its names. -/
def values (op : Opt) (items : List Item) : List Text :=
  items.filterMap fun item =>
    match item with
    | .given other value => if other = op then some value else none
    | _ => none

/-- Everything that is given as the file, with a name or without. -/
def paths (file : Opt) (items : List Item) : List Text :=
  items.filterMap fun item =>
    match item with
    | .given op value => if op = file then some value else none
    | .positional value => some value
    | _ => none

/-- A positional counts as the file if nothing does yet. -/
def takePath (file : Opt) (taken : List Text) : Item → List Text
  | .given op value => if op = file then taken ++ [value] else taken
  | .positional value => if taken = [] then [value] else taken
  | _ => taken

def takenPaths (file : Opt) (items : List Item) : List Text := items.foldl (takePath file) []

/-- Whether no option has a use for the item. -/
def Spare (taken : List Text) : Item → Prop
  | .positional _ => taken ≠ []
  | .unknown _ _ => True
  | _ => False

/-- Something is left over. -/
def LeftOver (file : Opt) (items : List Item) : Prop :=
  ∃ before item later, items = before ++ item :: later ∧ Spare (takenPaths file before) item

variable {layout : Layout}

theorem Layout.help_pname : layout.help.pname = [] := by rw [layout.helpIs]; rfl

theorem Layout.pname_other {op : Opt} (member : op ∈ layout.texts ++ layout.flags) :
    op.pname = [] := by
  rcases List.mem_append.mp member with text | flag
  · rw [layout.textsAre op text]; rfl
  · rw [layout.flagsAre op flag]; rfl

theorem Layout.help_ne_file : layout.help ≠ layout.file := by
  have distinct := layout.distinct
  rw [List.nodup_cons] at distinct
  exact fun same => distinct.1 (same ▸ List.mem_cons_self)

theorem Layout.ne_file {op : Opt} (member : op ∈ layout.texts ++ layout.flags) :
    op ≠ layout.file := by
  have distinct := layout.distinct
  rw [List.nodup_cons, List.nodup_cons] at distinct
  exact fun same => distinct.2.1 (same ▸ member)

theorem Layout.file_itemsExpected : layout.file.itemsExpected = 1 := by rw [layout.fileIs]; rfl

/-- The one positional there is belongs to the file. -/
theorem parsePositional_file (parsed : Parsed) (value : Text) :
    layout.app.parsePositional parsed value =
      if parsed.results layout.file = [] then parsed.addResult layout.file value
      else parsed.moveToMissing .none value := by
  have others : (layout.texts ++ layout.flags).find? (fun op =>
      op.pname ≠ [] && decide ((parsed.results op).length < op.itemsExpected)) = none := by
    refine List.find?_eq_none.mpr fun op member => ?_
    simp [Layout.pname_other member]
  unfold App.parsePositional Layout.app
  rw [List.find?_cons_of_neg (by simp [layout.help_pname])]
  by_cases none : parsed.results layout.file = []
  · rw [List.find?_cons_of_pos (by simp [layout.fileNamed, none, Layout.file_itemsExpected]),
      if_pos none]
  · rw [List.find?_cons_of_neg (by simp [none, Layout.file_itemsExpected]), others, if_neg none]

theorem absorbed_append (app : App) (items : List Item) (item : Item) :
    absorbed app (items ++ [item]) = absorb app (absorbed app items) item := by
  simp [absorbed, List.foldl_append]

theorem takenPaths_append (file : Opt) (items : List Item) (item : Item) :
    takenPaths file (items ++ [item]) = takePath file (takenPaths file items) item := by
  simp [takenPaths, List.foldl_append]

theorem addResult_results (parsed : Parsed) (op other : Opt) (result : Text) :
    (parsed.addResult op result).results other =
      if other = op then parsed.results op ++ [result] else parsed.results other := by
  simp [Parsed.addResult, Function.update_apply]

theorem absorbed_file (items : List Item) :
    (absorbed layout.app items).results layout.file = takenPaths layout.file items := by
  induction items using List.reverseRecOn with
  | nil => rfl
  | append_singleton items item ih =>
    rw [absorbed_append, takenPaths_append, ← ih]
    cases item with
    | given op value =>
      change (Parsed.addResult _ op value).results layout.file = _
      rw [addResult_results]
      by_cases same : op = layout.file
      · simp [takePath, same]
      · simp [takePath, same, Ne.symm same]
    | positional value =>
      change (layout.app.parsePositional _ value).results layout.file = _
      rw [parsePositional_file]
      by_cases none : (absorbed layout.app items).results layout.file = []
      · rw [if_pos none, addResult_results, if_pos rfl, none]
        simp [takePath]
      · rw [if_neg none]
        simp [takePath, none, Parsed.moveToMissing]
    | mark => rfl
    | unknown long word => rfl

theorem absorbed_other {op : Opt} (other : op ≠ layout.file) (items : List Item) :
    (absorbed layout.app items).results op = values op items := by
  induction items using List.reverseRecOn with
  | nil => rfl
  | append_singleton items item ih =>
    rw [absorbed_append, values, List.filterMap_append, ← values, ← ih]
    cases item with
    | given chosen value =>
      change (Parsed.addResult _ chosen value).results op = _
      rw [addResult_results]
      by_cases same : op = chosen
      · simp [same]
      · simp [same, Ne.symm same]
    | positional value =>
      change (layout.app.parsePositional _ value).results op = _
      rw [parsePositional_file]
      split
      · rw [addResult_results, if_neg other]
        simp
      · simp [Parsed.moveToMissing]
    | mark => simp [absorb, Parsed.mark, Parsed.moveToMissing]
    | unknown long word => simp [absorb, Parsed.moveToMissing]

/-! Words that are left over. -/

theorem leftOver_append (file : Opt) (items : List Item) (item : Item) :
    LeftOver file (items ++ [item]) ↔ LeftOver file items ∨ Spare (takenPaths file items) item := by
  constructor
  · rintro ⟨before, spare, later, same, isSpare⟩
    rcases List.eq_nil_or_concat later with rfl | ⟨later, last, rfl⟩
    · obtain ⟨rfl, one⟩ := List.append_inj' same rfl
      obtain rfl := (List.cons.inj one).1
      exact Or.inr isSpare
    · rw [List.concat_eq_append, ← List.cons_append, ← List.append_assoc] at same
      obtain ⟨rfl, -⟩ := List.append_inj' same rfl
      exact Or.inl ⟨before, spare, later, rfl, isSpare⟩
  · rintro (⟨before, spare, later, rfl, isSpare⟩ | isSpare)
    · exact ⟨before, spare, later ++ [item], by simp, isSpare⟩
    · exact ⟨items, item, [], rfl, isSpare⟩

/-- What is left over is what the parser has as missing, the mark apart. -/
theorem missing_none (items : List Item) :
    ((absorbed layout.app items).missing.countP (fun word => word.1 != .positionalMark)) = 0 ↔
      ¬LeftOver layout.file items := by
  induction items using List.reverseRecOn with
  | nil => simp [absorbed, Parsed.start, LeftOver]
  | append_singleton items item ih =>
    rw [leftOver_append, not_or, ← ih, absorbed_append]
    cases item with
    | given op value => simp [absorb, Parsed.addResult, Spare]
    | positional value =>
      change (layout.app.parsePositional _ value).missing.countP _ = 0 ↔ _
      rw [parsePositional_file, ← absorbed_file]
      split
      next none => simp [Parsed.addResult, Spare, none]
      next taken => simp [Parsed.moveToMissing, Spare, taken]
    | mark => simp [absorb, Parsed.mark, Parsed.moveToMissing, Spare]
    | unknown long word => cases long <;> simp [absorb, Parsed.moveToMissing, Spare]

variable {items : List Item}

/-- If nothing is left over, everything that is given as the file counts as the file. -/
theorem taken_all (nothing : ¬LeftOver layout.file items) :
    takenPaths layout.file items = paths layout.file items ∧
      ∀ long word, .unknown long word ∉ items := by
  induction items using List.reverseRecOn with
  | nil => exact ⟨rfl, by simp⟩
  | append_singleton items item ih =>
    rw [leftOver_append, not_or] at nothing
    obtain ⟨all, known⟩ := ih nothing.1
    rw [takenPaths_append, paths, List.filterMap_append, ← paths, ← all]
    cases item with
    | given op value =>
      refine ⟨?_, by simpa using known⟩
      by_cases same : op = layout.file
      · simp [takePath, same]
      · simp [takePath, same]
    | positional value =>
      have none : takenPaths layout.file items = [] := not_not.mp nothing.2
      exact ⟨by simp [takePath, none], by simpa using known⟩
    | mark => exact ⟨by simp [takePath], by simpa using known⟩
    | unknown long word => exact absurd trivial nothing.2

/-- Of no more than one path nothing is left over. -/
theorem taken_one (one : (paths layout.file items).length ≤ 1)
    (known : ∀ long word, .unknown long word ∉ items) :
    takenPaths layout.file items = paths layout.file items ∧ ¬LeftOver layout.file items := by
  induction items using List.reverseRecOn with
  | nil => exact ⟨rfl, by simp [LeftOver]⟩
  | append_singleton items item ih =>
    rw [paths, List.filterMap_append, ← paths, List.length_append] at one
    obtain ⟨all, nothing⟩ := ih (by omega) fun long word member =>
      known long word (List.mem_append_left _ member)
    rw [leftOver_append, not_or, takenPaths_append, paths, List.filterMap_append, ← paths, ← all]
    rw [← all] at one
    cases item with
    | given op value =>
      refine ⟨?_, nothing, id⟩
      by_cases same : op = layout.file
      · simp [takePath, same]
      · simp [takePath, same]
    | positional value =>
      have none : takenPaths layout.file items = [] := by
        refine List.length_eq_zero_iff.mp ?_
        simpa using one
      exact ⟨by simp [takePath, none], nothing, fun spare => spare none⟩
    | mark => exact ⟨by simp [takePath], nothing, id⟩
    | unknown long word => exact absurd (by simp) (known long word)

end MinecraftCarve.CommandLineItems
