import Mathlib.Algebra.BigOperators.Fin

/-! Sums and counts over the positions of a list, against those over its items. -/

namespace MinecraftCarve.Library.Positions

variable {α : Type*}

/-- The positions that pass a test weigh what the items that pass it do. -/
theorem sum_positions (items : List α) (kept : α → Prop) [DecidablePred kept] (weight : α → Nat) :
    ∑ i : Fin items.length with kept items[i], weight items[i] =
      ((items.filter (fun item => kept item)).map weight).sum := by
  rw [Finset.sum_filter]
  calc
    ∑ i : Fin items.length, (if kept items[i] then weight items[i] else 0)
        = (items.map (fun item => if kept item then weight item else 0)).sum :=
      Fin.sum_univ_fun_getElem items (fun item => if kept item then weight item else 0)
    _ = ((items.filter (fun item => kept item)).map weight).sum := by
      induction items with
      | nil => rfl
      | cons item rest ih =>
        rw [List.map_cons, List.sum_cons, ih]
        by_cases keep : kept item
        · simp [keep]
        · simp [keep]

theorem card_positions (items : List α) (kept : α → Prop) [DecidablePred kept] :
    (Finset.univ.filter (fun i : Fin items.length => kept items[i])).card =
      (items.filter (fun item => kept item)).length := by
  rw [Finset.card_eq_sum_ones, sum_positions items kept (fun _ => 1), List.map_const',
    List.sum_replicate, smul_eq_mul, Nat.mul_one]

theorem forall_positions {items : List α} {holds : α → Prop} :
    (∀ item ∈ items, holds item) ↔ ∀ i : Fin items.length, holds items[i] := by
  constructor
  · intro all i
    exact all items[i] (List.getElem_mem i.isLt)
  · intro all item member
    obtain ⟨i, inRange, rfl⟩ := List.getElem_of_mem member
    exact all ⟨i, inRange⟩

/-- A property of all ordered pairs of a list is one of its ordered positions. -/
theorem pairwise_positions {items : List α} {related : α → α → Prop} :
    items.Pairwise related ↔ ∀ i j : Fin items.length, i < j → related items[i] items[j] := by
  rw [List.pairwise_iff_getElem]
  constructor
  · intro all i j ordered
    exact all i j i.isLt j.isLt ordered
  · intro all i j first second ordered
    exact all ⟨i, first⟩ ⟨j, second⟩ ordered

end MinecraftCarve.Library.Positions
