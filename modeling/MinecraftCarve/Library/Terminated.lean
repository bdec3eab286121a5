import Mathlib.Data.List.Basic

/-! Pieces ended by a stop mark that does not occur inside them can be read back from
their concatenation. -/

namespace MinecraftCarve.Library.Terminated

variable {α : Type*}

/-- The first stop mark splits a list in one way only. -/
theorem split_first {stop : α} {first second restFirst restSecond : List α}
    (firstClean : stop ∉ first) (secondClean : stop ∉ second)
    (same : first ++ stop :: restFirst = second ++ stop :: restSecond) :
    first = second ∧ restFirst = restSecond := by
  induction first generalizing second with
  | nil =>
    cases second with
    | nil => exact ⟨rfl, (List.cons.inj same).2⟩
    | cons item rest =>
      exact absurd (List.mem_cons.mpr (Or.inl (List.cons.inj same).1)) secondClean
  | cons item rest ih =>
    cases second with
    | nil => exact absurd (List.mem_cons.mpr (Or.inl (List.cons.inj same).1.symm)) firstClean
    | cons other others =>
      obtain ⟨rfl, tail⟩ := List.cons.inj same
      obtain ⟨rfl, rests⟩ := ih (fun member => firstClean (List.mem_cons_of_mem _ member))
        (fun member => secondClean (List.mem_cons_of_mem _ member)) tail
      exact ⟨rfl, rests⟩

/-- The concatenation of the pieces, each with its stop mark. -/
def terminated (stop : α) (pieces : List (List α)) : List α :=
  pieces.flatMap (fun piece => piece ++ [stop])

theorem terminated_injective (stop : α) {first second : List (List α)}
    (firstClean : ∀ piece ∈ first, stop ∉ piece) (secondClean : ∀ piece ∈ second, stop ∉ piece)
    (same : terminated stop first = terminated stop second) : first = second := by
  induction first generalizing second with
  | nil =>
    cases second with
    | nil => rfl
    | cons piece rest => simp [terminated] at same
  | cons piece rest ih =>
    cases second with
    | nil => simp [terminated] at same
    | cons other others =>
      simp only [terminated, List.flatMap_cons, List.append_assoc, List.singleton_append] at same
      obtain ⟨rfl, rests⟩ := split_first (firstClean piece (List.mem_cons_self ..))
        (secondClean other (List.mem_cons_self ..)) same
      rw [ih (fun piece member => firstClean piece (List.mem_cons_of_mem _ member))
        (fun piece member => secondClean piece (List.mem_cons_of_mem _ member)) rests]

end MinecraftCarve.Library.Terminated
