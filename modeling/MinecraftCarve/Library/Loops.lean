import Mathlib.Data.List.Basic

/-! A loop over a list whose body may leave early, and its rules. An invariant is
indexed by the items already passed, so that one step lemma about the body gives
the state after any prefix of the run. -/

namespace MinecraftCarve.Library.Loops

/-- How one pass through a body ends. -/
inductive Flow (σ ε : Type*) where
  | next (state : σ)
  | leave (state : σ) (reason : ε)

variable {α σ ε : Type*}

def Flow.state : Flow σ ε → σ
  | .next state => state
  | .leave state _ => state

def run (body : α → σ → Flow σ ε) : List α → σ → Flow σ ε
  | [], state => .next state
  | item :: rest, state =>
    match body item state with
    | .next after => run body rest after
    | .leave after reason => .leave after reason

variable {body : α → σ → Flow σ ε}

theorem run_cons_next {item : α} {rest : List α} {state after : σ}
    (step : body item state = .next after) : run body (item :: rest) state = run body rest after := by
  rw [run, step]

theorem run_cons_leave {item : α} {rest : List α} {state after : σ} {reason : ε}
    (step : body item state = .leave after reason) :
    run body (item :: rest) state = .leave after reason := by
  rw [run, step]

/-- What every pass preserves, whether it goes on or leaves, holds at the end. -/
theorem run_preserves {holds : σ → Prop} (step : ∀ item state, holds state →
    holds (body item state).state) (items : List α) (state : σ) (start : holds state) :
    holds (run body items state).state := by
  induction items generalizing state with
  | nil => exact start
  | cons item rest ih =>
    have first := step item state start
    cases pass : body item state with
    | next after =>
      rw [run_cons_next pass]
      rw [pass] at first
      exact ih after first
    | leave after reason =>
      rw [run_cons_leave pass]
      rw [pass] at first
      exact first

/-- An invariant of the items passed so far, for runs that reach the end. -/
theorem run_invariant {invariant : List α → σ → Prop}
    (step : ∀ seen item state after, invariant seen state → body item state = .next after →
      invariant (seen ++ [item]) after)
    (items : List α) {seen : List α} {state final : σ} (start : invariant seen state)
    (finished : run body items state = .next final) : invariant (seen ++ items) final := by
  induction items generalizing seen state with
  | nil =>
    cases finished
    simpa using start
  | cons item rest ih =>
    cases pass : body item state with
    | next after =>
      rw [run_cons_next pass] at finished
      rw [List.append_cons]
      exact ih (step seen item state after start pass) finished
    | leave after reason =>
      rw [run_cons_leave pass] at finished
      cases finished

/-- What every way of leaving the body has, a run that leaves has. -/
theorem run_left (ends : σ → ε → Prop) (step : ∀ item state after reason,
    body item state = .leave after reason → ends after reason)
    (items : List α) {state final : σ} {reason : ε}
    (left : run body items state = .leave final reason) : ends final reason := by
  induction items generalizing state with
  | nil => cases left
  | cons item rest ih =>
    cases pass : body item state with
    | next after =>
      rw [run_cons_next pass] at left
      exact ih left
    | leave after stop =>
      rw [run_cons_leave pass] at left
      cases left
      exact step item state _ _ pass

/-- What grows by one a pass is bounded by the number of items. -/
theorem run_bounded (size : σ → Nat) (step : ∀ item state, size (body item state).state ≤ size state + 1)
    (items : List α) (state : σ) : size (run body items state).state ≤ size state + items.length := by
  induction items generalizing state with
  | nil => exact Nat.le_refl _
  | cons item rest ih =>
    have first := step item state
    rw [List.length_cons]
    cases pass : body item state with
    | next after =>
      have later := ih after
      rw [pass] at first
      rw [run_cons_next pass]
      simp only [Flow.state] at first
      omega
    | leave after reason =>
      rw [pass] at first
      rw [run_cons_leave pass]
      simp only [Flow.state] at first ⊢
      omega

/-- A body that never leaves under its invariant carries the run to the end. -/
theorem run_total (invariant : List α → σ → Prop) (items : List α)
    (step : ∀ seen item state, item ∈ items → invariant seen state →
      ∃ after, body item state = .next after ∧ invariant (seen ++ [item]) after)
    {seen : List α} {state : σ} (start : invariant seen state) :
    ∃ final, run body items state = .next final ∧ invariant (seen ++ items) final := by
  induction items generalizing seen state with
  | nil => exact ⟨state, rfl, by simpa using start⟩
  | cons item rest ih =>
    obtain ⟨after, pass, held⟩ := step seen item state (List.mem_cons_self ..) start
    obtain ⟨final, finished, done⟩ := ih
      (fun seen item state member => step seen item state (List.mem_cons_of_mem _ member)) held
    refine ⟨final, (run_cons_next pass).trans finished, ?_⟩
    rwa [List.append_cons]

/-- The same where a step depends on the place of its item among the items. -/
theorem run_along (invariant : List α → σ → Prop) (items : List α)
    (step : ∀ seen item rest state, items = seen ++ item :: rest → invariant seen state →
      ∃ after, body item state = .next after ∧ invariant (seen ++ [item]) after)
    {state : σ} (start : invariant [] state) :
    ∃ final, run body items state = .next final ∧ invariant items final := by
  have onward : ∀ (rest seen : List α) (state : σ), items = seen ++ rest → invariant seen state →
      ∃ final, run body rest state = .next final ∧ invariant items final := by
    intro rest
    induction rest with
    | nil =>
      intro seen state split held
      rw [List.append_nil] at split
      exact ⟨state, rfl, split ▸ held⟩
    | cons item rest ih =>
      intro seen state split held
      obtain ⟨after, pass, next⟩ := step seen item rest state split held
      obtain ⟨final, finished, done⟩ := ih (seen ++ [item]) after (by rw [split]; simp) next
      exact ⟨final, (run_cons_next pass).trans finished, done⟩
  exact onward items [] state rfl start

/-- Items that leave the state as it is can be skipped at the start of a run. -/
theorem run_skip {idle rest : List α} {state : σ}
    (skip : ∀ item ∈ idle, body item state = .next state) :
    run body (idle ++ rest) state = run body rest state := by
  induction idle with
  | nil => rfl
  | cons item others ih =>
    rw [List.cons_append, run_cons_next (skip item (List.mem_cons_self ..))]
    exact ih (fun item member => skip item (List.mem_cons_of_mem _ member))

/-- Where a run ends: after all of its items with the invariant kept, or by leaving at
one of them with the invariant of the items before it. -/
theorem run_ends (invariant : List α → σ → Prop)
    (step : ∀ seen item state after, invariant seen state → body item state = .next after →
      invariant (seen ++ [item]) after)
    (items : List α) {seen : List α} {state : σ} (start : invariant seen state) :
    (∃ final, run body items state = .next final ∧ invariant (seen ++ items) final) ∨
      ∃ passed item rest before final reason, items = passed ++ item :: rest ∧
        invariant (seen ++ passed) before ∧ body item before = .leave final reason ∧
        run body items state = .leave final reason := by
  induction items generalizing seen state with
  | nil => exact Or.inl ⟨state, rfl, by simpa using start⟩
  | cons item rest ih =>
    cases pass : body item state with
    | leave final reason =>
      exact Or.inr ⟨[], item, rest, state, final, reason, rfl, by simpa using start, pass,
        run_cons_leave pass⟩
    | next after =>
      rcases ih (step seen item state after start pass) with
        ⟨final, finished, held⟩ | ⟨passed, last, more, before, final, reason, split, held, left, run_left⟩
      · refine Or.inl ⟨final, (run_cons_next pass).trans finished, ?_⟩
        rwa [List.append_cons]
      · refine Or.inr ⟨item :: passed, last, more, before, final, reason, ?_, ?_, left, ?_⟩
        · rw [split, List.cons_append]
        · rwa [List.append_cons]
        · exact (run_cons_next pass).trans run_left

/-! Two loops over the same items, side by side. -/

variable {τ : Type*}

/-- Both go on, or both leave for the same reason, with related states. -/
def Flow.Related (related : σ → τ → Prop) : Flow σ ε → Flow τ ε → Prop
  | .next one, .next other => related one other
  | .leave one reason, .leave other why => related one other ∧ reason = why
  | _, _ => False

/-- Bodies that keep two states related keep two runs related. -/
theorem run_related {first : α → σ → Flow σ ε} {second : α → τ → Flow τ ε}
    {related : σ → τ → Prop} (items : List α)
    (step : ∀ item ∈ items, ∀ one other, related one other →
      Flow.Related related (first item one) (second item other))
    {one : σ} {other : τ} (start : related one other) :
    Flow.Related related (run first items one) (run second items other) := by
  induction items generalizing one other with
  | nil => exact start
  | cons item rest ih =>
    have both := step item (List.mem_cons_self ..) one other start
    cases pass : first item one with
    | next after =>
      cases passToo : second item other with
      | next afterToo =>
        rw [pass, passToo] at both
        rw [run_cons_next pass, run_cons_next passToo]
        exact ih (fun item member => step item (List.mem_cons_of_mem _ member)) both
      | leave afterToo reason =>
        rw [pass, passToo] at both
        exact both.elim
    | leave after reason =>
      cases passToo : second item other with
      | next afterToo =>
        rw [pass, passToo] at both
        exact both.elim
      | leave afterToo why =>
        rw [pass, passToo] at both
        rw [run_cons_leave pass, run_cons_leave passToo]
        exact both

end MinecraftCarve.Library.Loops
