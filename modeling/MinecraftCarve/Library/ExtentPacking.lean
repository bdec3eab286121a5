import Mathlib.Algebra.Order.BigOperators.Group.List
import Mathlib.Algebra.Order.Monoid.Canonical.Defs
import Mathlib.Data.List.Sort

/-! Half-open extents `[start, start + length)` on an ordered line. A layout can
be tested in one pass over the extents in order of their starts, with a running
bound; these lemmas say what such a pass establishes and what it leaves open. -/

namespace MinecraftCarve.Library.ExtentPacking

section Pass
variable {α : Type*} [AddCommMonoid α] [LinearOrder α]

/-- The first extent ends at or before the start of the second. -/
def Before (first second : α × α) : Prop := first.1 + first.2 ≤ second.1

def Apart (first second : α × α) : Prop := Before first second ∨ Before second first

/-- Total length of the extents that start below a point. -/
def below (extents : List (α × α)) (point : α) : α :=
  ((extents.filter (fun extent => extent.1 < point)).map Prod.snd).sum

/-- The running bound of a pass: it grows by the lengths, never by the starts. -/
def FitsFrom : α → List (α × α) → Prop
  | _, [] => True
  | bound, extent :: rest => bound ≤ extent.1 ∧ FitsFrom (bound + extent.2) rest

theorem Apart.symm {first second : α × α} (apart : Apart first second) : Apart second first :=
  Or.symm apart

theorem below_perm {extents other : List (α × α)} (perm : extents.Perm other) (point : α) :
    below extents point = below other point :=
  ((perm.filter _).map _).sum_eq

theorem below_cons (extent : α × α) (rest : List (α × α)) (point : α) :
    below (extent :: rest) point =
      (if extent.1 < point then extent.2 else 0) + below rest point := by
  by_cases lower : extent.1 < point
  · simp [below, lower]
  · simp [below, lower]

theorem below_eq_zero {extents : List (α × α)} {point : α}
    (upper : ∀ extent ∈ extents, point ≤ extent.1) : below extents point = 0 := by
  have none : extents.filter (fun extent => extent.1 < point) = [] := by
    rw [List.filter_eq_nil_iff]
    intro extent member
    simpa using upper extent member
  rw [below, none, List.map_nil, List.sum_nil]

/-- The length below a point splits at any earlier point. -/
theorem below_split (extents : List (α × α)) {low high : α} (ordered : low ≤ high) :
    below extents high =
      below extents low + below (extents.filter (fun extent => low ≤ extent.1)) high := by
  induction extents with
  | nil => simp [below]
  | cons extent rest ih =>
    by_cases lower : extent.1 < low
    · have reached : extent.1 < high := lower.trans_le ordered
      rw [List.filter_cons_of_neg (by simpa using lower), below_cons, below_cons, if_pos lower,
        if_pos reached, ih, add_assoc]
    · rw [List.filter_cons_of_pos (by simpa using lower), below_cons, below_cons, below_cons,
        if_neg lower, ih, zero_add, add_left_comm]

/-- Over extents in strict order of their starts the pass compares each start with
the total length below it. -/
theorem fitsFrom_iff (extents : List (α × α)) (bound : α)
    (ordered : extents.Pairwise (fun first second => first.1 < second.1)) :
    FitsFrom bound extents ↔ ∀ extent ∈ extents, bound + below extents extent.1 ≤ extent.1 := by
  induction extents generalizing bound with
  | nil => simp [FitsFrom]
  | cons head rest ih =>
    rw [List.pairwise_cons] at ordered
    have headBelow : below (head :: rest) head.1 = 0 := by
      apply below_eq_zero
      intro extent member
      rcases List.mem_cons.mp member with rfl | later
      · exact le_rfl
      · exact (ordered.1 extent later).le
    have restBelow : ∀ extent ∈ rest,
        bound + below (head :: rest) extent.1 = bound + head.2 + below rest extent.1 := by
      intro extent member
      rw [below_cons, if_pos (ordered.1 extent member), add_assoc]
    rw [FitsFrom, ih _ ordered.2, List.forall_mem_cons, headBelow, add_zero]
    apply and_congr_right
    intro _
    exact forall₂_congr (fun extent member => by rw [restBelow extent member])

/-- The extents in order of their starts. -/
def byStart (extents : List (α × α)) : List (α × α) :=
  extents.mergeSort (fun first second => first.1 ≤ second.1)

omit [AddCommMonoid α] in
theorem byStart_perm (extents : List (α × α)) : (byStart extents).Perm extents :=
  List.mergeSort_perm _ _

omit [AddCommMonoid α] in
theorem byStart_ordered (extents : List (α × α)) :
    (byStart extents).Pairwise (fun first second => first.1 ≤ second.1) := by
  have sorted : (byStart extents).Pairwise (fun first second => decide (first.1 ≤ second.1)) := by
    apply List.pairwise_mergeSort
    · intro first second third one two
      rw [decide_eq_true_eq] at one two ⊢
      exact one.trans two
    · intro first second
      simpa using le_total first.1 second.1
  exact sorted.imp of_decide_eq_true

end Pass

section Packing
variable {α : Type*} [AddCommMonoid α] [LinearOrder α] [IsOrderedCancelAddMonoid α]
variable {extents : List (α × α)}

theorem Before.lt {first second : α × α} (before : Before first second) (positive : 0 < first.2) :
    first.1 < second.1 :=
  (lt_add_of_pos_right first.1 positive).trans_le before

theorem byStart_before (positive : ∀ extent ∈ extents, 0 < extent.2)
    (apart : extents.Pairwise Apart) : (byStart extents).Pairwise Before := by
  have sortedApart : (byStart extents).Pairwise Apart :=
    apart.perm (byStart_perm extents).symm Apart.symm
  apply (sortedApart.and (byStart_ordered extents)).imp_of_mem
  intro first second _ member both
  rcases both.1 with before | after
  · exact before
  · have reversed := after.lt (positive second ((byStart_perm extents).mem_iff.mp member))
    exact absurd both.2 (not_le_of_gt reversed)

theorem fitsFrom_of_before {base : α} (before : extents.Pairwise Before)
    (start : ∀ extent ∈ extents, base ≤ extent.1) : FitsFrom base extents := by
  induction extents generalizing base with
  | nil => trivial
  | cons head rest ih =>
    rw [List.pairwise_cons] at before
    rw [List.forall_mem_cons] at start
    refine ⟨start.1, ih before.2 ?_⟩
    intro extent member
    exact (add_le_add_left start.1 head.2).trans (before.1 extent member)

/-- Fewer extents leave no less room below a point. -/
theorem below_sublist {kept : List (α × α)} (sublist : kept.Sublist extents)
    (nonnegative : ∀ extent ∈ extents, 0 ≤ extent.2) (point : α) :
    below kept point ≤ below extents point := by
  refine List.Sublist.sum_le_sum ((sublist.filter _).map _) ?_
  intro length member
  obtain ⟨extent, kept, rfl⟩ := List.mem_map.mp member
  exact nonnegative extent (List.mem_filter.mp kept).1

/-- Extents that do not meet are packed no tighter than end to end. -/
theorem add_below_le (base : α) (positive : ∀ extent ∈ extents, 0 < extent.2)
    (apart : extents.Pairwise Apart) (start : ∀ extent ∈ extents, base ≤ extent.1) :
    ∀ extent ∈ extents, base + below extents extent.1 ≤ extent.1 := by
  have perm := byStart_perm extents
  have before := byStart_before positive apart
  have strict : (byStart extents).Pairwise (fun first second => first.1 < second.1) :=
    before.imp_of_mem (fun member _ step => step.lt (positive _ (perm.mem_iff.mp member)))
  have fits := fitsFrom_of_before before (fun extent member => start extent (perm.mem_iff.mp member))
  rw [fitsFrom_iff _ _ strict] at fits
  intro extent member
  rw [← below_perm perm]
  exact fits extent (perm.mem_iff.mpr member)

end Packing

section Lengths
variable {α : Type*} [AddCommMonoid α] [LinearOrder α] [IsOrderedCancelAddMonoid α]
  [CanonicallyOrderedAdd α]
variable {extents : List (α × α)}

omit [IsOrderedCancelAddMonoid α] in
theorem Before.trans {first second third : α × α} (one : Before first second)
    (two : Before second third) : Before first third := by
  have grows : second.1 ≤ second.1 + second.2 := le_self_add
  exact le_trans one (le_trans grows two)

instance : IsTrans (α × α) Before := ⟨fun _ _ _ => Before.trans⟩

theorem add_length_le_below {first second : α × α} (member : first ∈ extents)
    (ordered : first.1 < second.1) :
    below extents first.1 + first.2 ≤ below extents second.1 := by
  rw [below_split extents ordered.le]
  apply add_le_add_right
  apply List.single_le_sum (fun _ _ => zero_le)
  apply List.mem_map_of_mem
  simp [member, ordered]

end Lengths

end MinecraftCarve.Library.ExtentPacking
