import MinecraftCarve.CommandLine

/-! Callbacks: what an option makes of its results, and what a row of options comes to. -/

namespace MinecraftCarve.CommandLineCallbacks
open CommandLine

variable {checkPath : Text → PathType} {results : List Text}

theorem existingFileValidator_none {path : Text} :
    existingFileValidator checkPath path = none ↔ checkPath path = .file := by
  unfold existingFileValidator
  cases checkPath path <;> simp

theorem runCallback_ok {op : Opt} {out : List Text}
    (valid : op.validateResults checkPath results = none)
    (reduced : op.reduceResults results = .ok out) :
    op.runCallback checkPath results = op.store results (op.sendResults results out) := by
  unfold Opt.runCallback
  rw [valid]
  simp only [reduced]

theorem runCallback_invalid {op : Opt} {error : ParseError}
    (invalid : op.validateResults checkPath results = some error) :
    op.runCallback checkPath results = .error error := by
  unfold Opt.runCallback
  rw [invalid]

/-- A list cut to its last element. -/
theorem trimmed_head (before : List Text) (last : Text) :
    (let original := before ++ [last]
      let out := if original.length ≠ min (max 0 1) original.length then
        original.drop (original.length - min (max 0 1) original.length) else []
      if out = [] then original else out).headD [] = last := by
  cases before <;> simp

/-- A flag looks at its last result only. -/
theorem runCallback_flag (checkPath : Text → PathType) (op : Opt) {callback : Callback}
    (isFlag : op = addFlag op.snames op.lnames callback) (before : List Text) (last : Text) :
    ∃ sent, sent.headD [] = last ∧
      op.runCallback checkPath (before ++ [last]) = op.store (before ++ [last]) sent := by
  refine ⟨_, trimmed_head before last, ?_⟩
  have valid : op.validateResults checkPath (before ++ [last]) = none := by rw [isFlag]; rfl
  have none : op.itemsExpected = 0 := by rw [isFlag]; rfl
  have policy : op.policy = .takeLast := by rw [isFlag]; rfl
  have reduced : op.reduceResults (before ++ [last]) = .ok
      (if (before ++ [last]).length ≠ min (max 0 1) (before ++ [last]).length then
        (before ++ [last]).drop
          ((before ++ [last]).length - min (max 0 1) (before ++ [last]).length) else []) := by
    unfold Opt.reduceResults
    rw [policy, none]
  rw [runCallback_ok valid reduced]
  unfold Opt.sendResults Opt.markEmpty
  rw [none]
  simp only [Nat.lt_irrefl, and_false, if_false]

/-- An option for one text, as `add_option` makes it for a string. -/
structure ForText (op : Opt) : Prop where
  takes : op.flagLike = false
  policy : op.policy = .throw
  callback : op.callback = .string

theorem runCallback_text {op : Opt} {value : Text} (forText : ForText op)
    (valid : op.validateResults checkPath [value] = none) :
    op.runCallback checkPath [value] = .ok (some (.string value)) := by
  have reduced : op.reduceResults [value] = .ok [] := by
    unfold Opt.reduceResults
    rw [forText.policy]
    simp [Opt.itemsExpected, forText.takes]
  rw [runCallback_ok valid reduced]
  unfold Opt.store Opt.sendResults Opt.markEmpty
  rw [forText.callback]
  by_cases braces : [value] = ["{}".toList] ∧ 0 < op.itemsExpected
  · simp only [if_true, if_pos braces]
    rw [if_neg (by simp), List.headD_cons, (List.cons.inj braces.1).1]
  · simp only [if_true, if_neg braces, List.headD_cons]

theorem runCallback_twice {op : Opt} (forText : ForText op)
    (valid : op.validateResults checkPath results = none) (twice : 1 < results.length) :
    op.runCallback checkPath results = .error (.atMost op.getName 1 results.length) := by
  have reduced : op.reduceResults results = .error (.atMost op.getName 1 results.length) := by
    unfold Opt.reduceResults
    rw [forText.policy]
    have one : max op.itemsExpected 1 = 1 := by simp [Opt.itemsExpected, forText.takes]
    simp only [one]
    rw [if_neg (by omega), if_pos twice]
  unfold Opt.runCallback
  rw [valid]
  simp only [reduced]

/-! All the callbacks. -/

/-- The callback is not run, or does not fail. -/
def Passes (checkPath : Text → PathType) (parsed : Parsed) (op : Opt) : Prop :=
  parsed.results op ≠ [] → ∃ value, op.runCallback checkPath (parsed.results op) = .ok value

/-- The callback fails with this code. -/
def FailsWith (checkPath : Text → PathType) (parsed : Parsed) (code : Nat) (op : Opt) : Prop :=
  parsed.results op ≠ [] ∧ ∃ error,
    op.runCallback checkPath (parsed.results op) = .error error ∧ error.exitCode = code

theorem FailsWith.not_passes {parsed : Parsed} {code : Nat} {op : Opt}
    (fails : FailsWith checkPath parsed code op) : ¬Passes checkPath parsed op := by
  intro passes
  obtain ⟨given, error, failed, -⟩ := fails
  obtain ⟨value, ran⟩ := passes given
  rw [ran] at failed
  cases failed

/-- Options without results keep what is stored, the others store anew. -/
theorem processCallbacks_ok {parsed : Parsed} {options : List Opt} (bound : Bound)
    (fine : ∀ op ∈ options, Passes checkPath parsed op) :
    ∃ after, processCallbacks checkPath parsed options bound = .ok after ∧
      (∀ op ∈ options, ∀ value, parsed.results op ≠ [] →
        op.runCallback checkPath (parsed.results op) = .ok value → after op = value) ∧
      ∀ op, op ∉ options ∨ parsed.results op = [] → after op = bound op := by
  induction options generalizing bound with
  | nil => exact ⟨bound, rfl, by simp, fun op _ => rfl⟩
  | cons op options ih =>
    have rest := fun other member => fine other (List.mem_cons_of_mem op member)
    by_cases empty : parsed.results op = []
    · obtain ⟨after, run, stores, keeps⟩ := ih bound rest
      refine ⟨after, by rw [processCallbacks, if_pos empty, run], ?_, ?_⟩
      · intro other member value given ran
        rcases List.mem_cons.mp member with rfl | member
        · exact absurd empty given
        · exact stores other member value given ran
      · rintro other (absent | noResult)
        · exact keeps other (Or.inl fun member => absent (List.mem_cons_of_mem op member))
        · exact keeps other (Or.inr noResult)
    · obtain ⟨value, ran⟩ := fine op List.mem_cons_self empty
      obtain ⟨after, run, stores, keeps⟩ := ih (Function.update bound op value) rest
      refine ⟨after, by rw [processCallbacks, if_neg empty]; simp only [ran, run], ?_, ?_⟩
      · intro other member value' given ran'
        by_cases later : other ∈ options
        · exact stores other later value' given ran'
        · obtain rfl : other = op := (List.mem_cons.mp member).resolve_right later
          rw [keeps other (Or.inl later), Function.update_self]
          rw [ran] at ran'
          exact Except.ok.inj ran'
      · rintro other (absent | noResult)
        · obtain ⟨notFirst, notLater⟩ := not_or.mp (mt List.mem_cons.mpr absent)
          rw [keeps other (Or.inl notLater), Function.update_of_ne notFirst]
        · have notFirst : other ≠ op := by
            rintro rfl
            exact empty noResult
          rw [keeps other (Or.inr noResult), Function.update_of_ne notFirst]

/-- The first callback that fails is what is thrown. -/
theorem processCallbacks_error {parsed : Parsed} {before later : List Opt} {op : Opt}
    {bound : Bound} {error : ParseError} (fine : ∀ op ∈ before, Passes checkPath parsed op)
    (given : parsed.results op ≠ [])
    (fails : op.runCallback checkPath (parsed.results op) = .error error) :
    processCallbacks checkPath parsed (before ++ op :: later) bound = .error error := by
  induction before generalizing bound with
  | nil =>
    rw [List.nil_append, processCallbacks, if_neg given]
    simp only [fails]
  | cons first before ih =>
    have rest := fun other member => fine other (List.mem_cons_of_mem first member)
    rw [List.cons_append, processCallbacks]
    by_cases empty : parsed.results first = []
    · rw [if_pos empty, ih rest]
    · obtain ⟨value, ran⟩ := fine first List.mem_cons_self empty
      rw [if_neg empty]
      simp only [ran, ih rest]

/-- If nothing before a group of options fails, and all that fails in the group has one code,
that code is the outcome. -/
theorem processCallbacks_code {parsed : Parsed} {before group : List Opt} (later : List Opt)
    (bound : Bound) {code : Nat} (fine : ∀ op ∈ before, Passes checkPath parsed op)
    (graded : ∀ op ∈ group, Passes checkPath parsed op ∨ FailsWith checkPath parsed code op)
    (bad : ∃ op ∈ group, FailsWith checkPath parsed code op) :
    ∃ error, processCallbacks checkPath parsed (before ++ (group ++ later)) bound = .error error ∧
      error.exitCode = code := by
  classical
  obtain ⟨worst, member, fails⟩ := bad
  cases found : group.find? (fun op => decide (¬Passes checkPath parsed op)) with
  | none =>
    have passes := List.find?_eq_none.mp found worst member
    exact absurd (not_not.mp fun failing => passes (decide_eq_true failing)) fails.not_passes
  | some first =>
    obtain ⟨failing, ahead, behind, rfl, others⟩ := List.find?_eq_some_iff_append.mp found
    have notPasses : ¬Passes checkPath parsed first := of_decide_eq_true failing
    obtain ⟨given, error, failed, exit⟩ :=
      (graded first (by simp)).resolve_left notPasses
    refine ⟨error, ?_, exit⟩
    rw [List.append_assoc, List.cons_append, ← List.append_assoc]
    refine processCallbacks_error (fun op earlier => ?_) given failed
    rcases List.mem_append.mp earlier with inBefore | inGroup
    · exact fine op inBefore
    · simpa using others op inGroup

theorem one_of {results : List Text} (given : results ≠ []) (once : ¬1 < results.length) :
    ∃ value, results = [value] := by
  refine List.length_eq_one_iff.mp ?_
  have positive := List.length_pos_iff.mpr given
  omega

/-- An option whose results are valid fails only if there are several. -/
theorem text_graded {parsed : Parsed} {op : Opt} (forText : ForText op)
    (valid : op.validateResults checkPath (parsed.results op) = none) :
    (¬1 < (parsed.results op).length ∧ Passes checkPath parsed op) ∨
      (1 < (parsed.results op).length ∧ FailsWith checkPath parsed 114 op) := by
  by_cases twice : 1 < (parsed.results op).length
  · refine Or.inr ⟨twice, ?_, _, runCallback_twice forText valid twice, rfl⟩
    rintro empty
    rw [empty] at twice
    exact absurd twice (by simp)
  · refine Or.inl ⟨twice, fun given => ?_⟩
    obtain ⟨value, one⟩ := one_of given twice
    rw [one] at valid ⊢
    exact ⟨_, runCallback_text forText valid⟩

/-! Errors name the option they are about. -/

theorem validateResults_about {op : Opt} {error : ParseError}
    (invalid : op.validateResults checkPath results = some error) :
    ∃ msg, error = .validationError op.getName msg := by
  unfold Opt.validateResults at invalid
  split at invalid
  next =>
    obtain ⟨msg, -, rfl⟩ := Option.map_eq_some_iff.mp invalid
    exact ⟨msg, rfl⟩
  next => cases invalid

theorem reduceResults_about {op : Opt} {error : ParseError}
    (failed : op.reduceResults results = .error error) : error.about = some op.getName := by
  simp only [Opt.reduceResults] at failed
  split at failed
  next => cases failed
  next =>
    split at failed
    next => exact Except.error.inj failed ▸ rfl
    next =>
      split at failed
      next => exact Except.error.inj failed ▸ rfl
      next => cases failed

theorem runCallback_about {op : Opt} {error : ParseError}
    (failed : op.runCallback checkPath results = .error error) : error.about = some op.getName := by
  unfold Opt.runCallback at failed
  split at failed
  next invalid =>
    obtain ⟨msg, rfl⟩ := validateResults_about invalid
    exact Except.error.inj failed ▸ rfl
  next =>
    split at failed
    next reduced => exact Except.error.inj failed ▸ reduceResults_about reduced
    next =>
      unfold Opt.store at failed
      split at failed
      next => cases failed
      next => cases failed
      next =>
        split at failed
        next => cases failed
        next => exact Except.error.inj failed ▸ rfl

theorem processCallbacks_about {parsed : Parsed} {options : List Opt} {bound : Bound}
    {error : ParseError}
    (failed : processCallbacks checkPath parsed options bound = .error error) :
    ∃ op ∈ options, error.about = some op.getName := by
  induction options generalizing bound with
  | nil => cases failed
  | cons op options ih =>
    rw [processCallbacks] at failed
    split at failed
    next =>
      obtain ⟨other, member, about⟩ := ih failed
      exact ⟨other, List.mem_cons_of_mem op member, about⟩
    next =>
      split at failed
      next error' thrown =>
        obtain rfl := Except.error.inj failed
        exact ⟨op, List.mem_cons_self, runCallback_about thrown⟩
      next =>
        obtain ⟨other, member, about⟩ := ih failed
        exact ⟨other, List.mem_cons_of_mem op member, about⟩

/-- What stops the processing is a call for help, words left over, or about an option. -/
theorem process_about {app : App} {parsed : Parsed} {error : ParseError}
    (failed : app.process checkPath parsed = .error error) :
    error = .callForHelp ∨ (∃ args, error = .extrasError args) ∨
      ∃ op ∈ app.options, error.about = some op.getName := by
  unfold App.process at failed
  split at failed
  next thrown =>
    obtain rfl := Except.error.inj failed
    exact Or.inr (Or.inr (processCallbacks_about thrown))
  next =>
    split at failed
    next help =>
      obtain rfl := Except.error.inj failed
      unfold App.processHelpFlags at help
      split at help
      next => cases help
      next => exact Or.inl (Option.some.inj help).symm
    next requirement =>
      obtain rfl := Except.error.inj failed
      obtain ⟨op, found, rfl⟩ := Option.map_eq_some_iff.mp requirement
      exact Or.inr (Or.inr ⟨op, List.mem_of_find?_eq_some found, rfl⟩)
    next extras =>
      obtain rfl := Except.error.inj failed
      unfold Parsed.processExtras at extras
      split at extras
      next => cases extras
      next => exact Or.inr (Or.inl ⟨_, (Option.some.inj extras).symm⟩)
    next => cases failed

end MinecraftCarve.CommandLineCallbacks
