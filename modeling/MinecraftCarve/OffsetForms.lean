import MinecraftCarve.OffsetTable
import MinecraftCarve.Library.Positions

/-! The tables that `has_offsets` accepts, word by word, and the well-formed tables
among them. -/

namespace MinecraftCarve.OffsetForms
open SectorWords Sector OffsetTable Library.ExtentPacking Library.Positions

section
variable (words : List Nat)

/-- The sector offset of the entry at a position. -/
def off (i : Fin words.length) : Nat := words[i] / 256

/-- The sector length of the entry at a position, zero for an absent chunk. -/
def len (i : Fin words.length) : Nat := words[i] % 256

/-- The total length of the present chunks that start below a sector. -/
def lengthBelow (point : Nat) : Nat :=
  ∑ j : Fin words.length with 0 < len words j ∧ off words j < point, len words j

structure ClosedForm : Prop where
  near : ∀ i, off words i ≤ 0xffff
  fresh : ¬∃ i j, i < j ∧ 0 < len words i ∧ off words j = off words i
  four : 4 ≤ (Finset.univ.filter (fun i => 0 < len words i)).card
  spaced : ∀ i, 0 < len words i → 2 + lengthBelow words (off words i) ≤ off words i

end

theorem lengthBelow_eq (words : List Nat) (point : Nat) :
    lengthBelow words point = below (present words) point := by
  have kept : (present words).filter (fun chunk => decide (chunk.1 < point)) =
      (words.filter (fun word => decide (0 < word % 256 ∧ word / 256 < point))).map entry := by
    rw [present, List.filter_filter, List.filter_map]
    congr 1
    apply List.filter_congr
    intro word _
    change (decide (word / 256 < point) && decide (0 < word % 256)) = _
    rw [← Bool.decide_and]
    exact decide_eq_decide.mpr and_comm
  calc
    lengthBelow words point
        = ((words.filter (fun word => decide (0 < word % 256 ∧ word / 256 < point))).map
            (fun word => word % 256)).sum :=
      sum_positions words (fun word => 0 < word % 256 ∧ word / 256 < point) (fun word => word % 256)
    _ = below (present words) point := by
      rw [below, kept, List.map_map]
      rfl

theorem card_present (words : List Nat) :
    (Finset.univ.filter (fun i => 0 < len words i)).card = (present words).length := by
  calc
    (Finset.univ.filter (fun i => 0 < len words i)).card
        = (words.filter (fun word => decide (0 < word % 256))).length :=
      card_positions words (fun word => 0 < word % 256)
    _ = (present words).length := by
      rw [present, List.filter_map, List.length_map]
      rfl

theorem noRepeat_positions (words : List Nat) : NoRepeat words ↔
    ¬∃ i j, i < j ∧ 0 < len words i ∧ off words j = off words i := by
  rw [NoRepeat, pairwise_positions]
  simp only [not_exists, not_and]
  rfl

theorem spaced_positions (words : List Nat) :
    (∀ chunk ∈ present words, 2 + below (present words) chunk.1 ≤ chunk.1) ↔
      ∀ i, 0 < len words i → 2 + lengthBelow words (off words i) ≤ off words i := by
  simp only [lengthBelow_eq]
  constructor
  · intro spaced i positive
    exact spaced (entry words[i]) (mem_present.mpr ⟨_, List.getElem_mem i.isLt, positive, rfl⟩)
  · intro spaced chunk held
    obtain ⟨word, member, positive, rfl⟩ := mem_present.mp held
    obtain ⟨i, inRange, rfl⟩ := List.getElem_of_mem member
    exact spaced ⟨i, inRange⟩ positive

theorem accepted_iff_closedForm (words : List Nat) : Accepted words ↔ ClosedForm words := by
  constructor
  · intro accepted
    refine ⟨forall_positions.mp accepted.reasonable, (noRepeat_positions words).mp accepted.noRepeat,
      ?_, (spaced_positions words).mp accepted.spaced⟩
    rw [card_present]
    exact accepted.populous
  · intro form
    refine ⟨forall_positions.mpr form.near, (noRepeat_positions words).mpr form.fresh, ?_,
      (spaced_positions words).mpr form.spaced⟩
    rw [← card_present]
    exact form.four

/-- The verdict on any buffer, in exact integers. -/
theorem hasOffsets_closed_form (buffer : List Byte) :
    hasOffsets buffer = true ↔ ClosedForm (bigEndianWords buffer) :=
  (hasOffsets_iff buffer).trans (accepted_iff_closedForm _)

/-! Well-formed tables. -/

/-- Every word is zero or names a chunk past the header, and the chunks do not meet. -/
structure WellFormed (words : List Nat) : Prop where
  entries : ∀ word ∈ words, word = 0 ∨ 0 < word % 256 ∧ 2 ≤ word / 256 ∧ word / 256 ≤ 0xffff
  disjoint : (present words).Pairwise Apart
  four : 4 ≤ (present words).length

/-- Chunks that do not meet have different offsets, and an absent chunk has offset zero. -/
theorem WellFormed.noRepeat {words : List Nat} (wellFormed : WellFormed words) : NoRepeat words := by
  apply (pairwise_present.mp wellFormed.disjoint).imp_of_mem
  intro earlier later earlierMember laterMember meet positive same
  rcases wellFormed.entries earlier earlierMember with rfl | ⟨_, low, _⟩
  · cases positive
  rcases wellFormed.entries later laterMember with rfl | ⟨laterPositive, _, _⟩
  · omega
  · have separate := meet positive laterPositive
    simp only [Apart, Before, entry] at separate
    omega

theorem WellFormed.accepted {words : List Nat} (wellFormed : WellFormed words) : Accepted words where
  reasonable := by
    intro word member
    rcases wellFormed.entries word member with rfl | ⟨_, _, near⟩
    · decide
    · exact near
  noRepeat := wellFormed.noRepeat
  populous := wellFormed.four
  spaced := by
    apply add_below_le 2 (present_positive words) wellFormed.disjoint
    intro chunk held
    obtain ⟨word, member, positive, rfl⟩ := mem_present.mp held
    rcases wellFormed.entries word member with rfl | ⟨_, low, _⟩
    · cases positive
    · exact low

/-- No well-formed table is missed, in whatever order its chunks lie and whatever room
they leave. -/
theorem wellFormed_hasOffsets (buffer : List Byte)
    (wellFormed : WellFormed (bigEndianWords buffer)) : hasOffsets buffer = true :=
  (hasOffsets_iff buffer).mpr wellFormed.accepted

/-- Four chunks out of order, with an absent one and free sectors between them. -/
def scatteredTable : List Byte :=
  [0, 0, 9, 2, 0, 0, 0, 0, 0, 0, 2, 1, 0, 0, 30, 5, 0, 0, 4, 3]

theorem scatteredTable_hasOffsets : hasOffsets scatteredTable = true := by
  have chunks : present (bigEndianWords scatteredTable) = [(9, 2), (2, 1), (30, 5), (4, 3)] := by
    decide
  apply wellFormed_hasOffsets
  refine ⟨by decide, ?_, by rw [chunks]; decide⟩
  rw [chunks]
  simp [Apart, Before]

end MinecraftCarve.OffsetForms
