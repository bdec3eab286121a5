import Mathlib.Data.List.DropRight
import Mathlib.Data.List.SplitBy

/-! A list cut into its maximal runs of grouped items, every other item standing
alone. The rules describe the pieces and how the cutting extends to the right,
which is what a single pass over the list needs. -/

namespace MinecraftCarve.Library.Runs

variable {α β : Type*}

def runs (grouped : α → Bool) (items : List α) : List (List α) :=
  items.splitBy (fun first second => grouped first && grouped second)

variable {grouped : α → Bool}

theorem runs_flatten (items : List α) : (runs grouped items).flatten = items :=
  List.flatten_splitBy _ _

theorem runs_nonempty (items : List α) : ∀ group ∈ runs grouped items, group ≠ [] :=
  fun _ member => List.ne_nil_of_mem_splitBy member

private theorem grouped_of_chain {first second : α} {rest : List α}
    (chain : (first :: second :: rest).IsChain (fun one two => (grouped one && grouped two) = true)) :
    ∀ item ∈ first :: second :: rest, grouped item = true := by
  induction rest generalizing first second with
  | nil =>
    have both := (List.isChain_cons_cons.mp chain).1
    rw [Bool.and_eq_true] at both
    simp [both]
  | cons third rest ih =>
    obtain ⟨both, tail⟩ := List.isChain_cons_cons.mp chain
    rw [Bool.and_eq_true] at both
    exact List.forall_mem_cons.mpr ⟨both.1, ih tail⟩

/-- A piece is a lone item that is not grouped or consists of grouped items. -/
theorem runs_shape {items group : List α} (member : group ∈ runs grouped items) :
    (∃ item, group = [item] ∧ grouped item = false) ∨ ∀ item ∈ group, grouped item = true := by
  have chain := List.isChain_of_mem_splitBy member
  match group, runs_nonempty items group member with
  | [item], _ =>
    cases kind : grouped item with
    | false => exact Or.inl ⟨item, rfl, kind⟩
    | true => exact Or.inr (by simp [kind])
  | first :: second :: rest, _ => exact Or.inr (grouped_of_chain chain)

/-- Runs are maximal: two of them never stand side by side. -/
theorem runs_maximal (items : List α) :
    (runs grouped items).IsChain (fun first second =>
      ¬((∀ item ∈ first, grouped item = true) ∧ ∀ item ∈ second, grouped item = true)) := by
  apply (List.isChain_getLast_head_splitBy _ items).imp
  intro first second border grouping
  obtain ⟨firstNonempty, secondNonempty, apart⟩ := border
  obtain ⟨firstAll, secondAll⟩ := grouping
  rw [firstAll _ (List.getLast_mem firstNonempty), secondAll _ (List.head_mem secondNonempty)] at apart
  cases apart

theorem runs_append_alone (items : List α) {item : α} (alone : grouped item = false) :
    runs grouped (items ++ [item]) = runs grouped items ++ [[item]] := by
  rw [runs, List.splitBy_append]
  · rfl
  · intro last _ head member
    obtain rfl : item = head := by simpa using member
    simp [alone]

theorem runs_append_run {items run : List α} (ended : ∀ last ∈ items.getLast?, grouped last = false)
    (together : ∀ item ∈ run, grouped item = true) (nonempty : run ≠ []) :
    runs grouped (items ++ run) = runs grouped items ++ [run] := by
  rw [runs, List.splitBy_append]
  · rw [List.splitBy_of_isChain nonempty]
    · rfl
    · apply List.Pairwise.isChain
      apply List.pairwise_of_forall_mem_list
      intro first firstMember second secondMember
      simp [together first firstMember, together second secondMember]
  · intro last member head _
    simp [ended last member]

/-- Where a run neither ends nor begins, lists are cut apart from each other. -/
theorem runs_append {first second : List α}
    (border : ∀ last ∈ first.getLast?, ∀ head ∈ second.head?, (grouped last && grouped head) = false) :
    runs grouped (first ++ second) = runs grouped first ++ runs grouped second :=
  List.splitBy_append border

theorem runs_run_append {run rest : List α} (together : ∀ item ∈ run, grouped item = true)
    (nonempty : run ≠ []) (begins : ∀ head ∈ rest.head?, grouped head = false) :
    runs grouped (run ++ rest) = run :: runs grouped rest := by
  have alone : runs grouped ([] ++ run) = runs grouped [] ++ [run] :=
    runs_append_run (by simp) together nonempty
  rw [runs_append]
  · exact congrArg (· ++ runs grouped rest) alone
  · intro last _ head member
    rw [begins head member, Bool.and_false]

/-- What comes before the run at the end of a list. -/
theorem exists_last_run (grouped : α → Bool) (items : List α) :
    ∃ closed run, items = closed ++ run ∧ (∀ last ∈ closed.getLast?, grouped last = false) ∧
      ∀ item ∈ run, grouped item = true := by
  refine ⟨items.rdropWhile grouped, items.rtakeWhile grouped,
    List.rdropWhile_append_rtakeWhile.symm, ?_, fun item => List.mem_rtakeWhile_imp⟩
  intro last member
  obtain ⟨nonempty, rfl⟩ := List.mem_getLast?_eq_getLast member
  simpa using List.rdropWhile_last_not grouped items nonempty

/-- What comes behind the run at the beginning of a list. -/
theorem exists_first_run (grouped : α → Bool) (items : List α) :
    ∃ run rest, items = run ++ rest ∧ (∀ item ∈ run, grouped item = true) ∧
      ∀ head ∈ rest.head?, grouped head = false := by
  refine ⟨items.takeWhile grouped, items.dropWhile grouped,
    List.takeWhile_append_dropWhile.symm, fun item => List.mem_takeWhile_imp, ?_⟩
  intro head member
  have stops := List.head?_dropWhile_not grouped items
  rw [Option.mem_def.mp member] at stops
  simpa using stops

theorem runs_map {other : β → Bool} (rename : α → β)
    (same : ∀ item, other (rename item) = grouped item) (items : List α) :
    runs other (items.map rename) = (runs grouped items).map (List.map rename) := by
  rw [runs, List.splitBy_eq_iff]
  refine ⟨?_, ?_, ?_, ?_⟩
  · rw [← List.map_flatten, runs_flatten]
  · intro empty
    obtain ⟨group, member, none⟩ := List.mem_map.mp empty
    exact runs_nonempty items group member (List.map_eq_nil_iff.mp none)
  · intro group member
    obtain ⟨original, held, rfl⟩ := List.mem_map.mp member
    rw [List.isChain_map]
    simpa only [same] using List.isChain_of_mem_splitBy held
  · rw [List.isChain_map]
    apply (List.isChain_getLast_head_splitBy _ items).imp
    intro first second border
    obtain ⟨firstNonempty, secondNonempty, apart⟩ := border
    refine ⟨by simpa using firstNonempty, by simpa using secondNonempty, ?_⟩
    rw [List.getLast_map, List.head_map, same, same]
    exact apart

end MinecraftCarve.Library.Runs
