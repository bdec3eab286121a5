import MinecraftCarve.OffsetTable

/-! Accepted tables whose chunks overlap. The second loop of `has_offsets` keeps
`2 +` the lengths seen so far and never moves that bound up to the end of a chunk that
starts after a gap. From there on the bound lags behind, and a chunk that starts inside
an earlier one can pass. -/

namespace MinecraftCarve.OffsetOverlap
open SectorWords Sector OffsetTable Library.ExtentPacking

/-- The sector ranges of the present chunks do not meet, and none reaches into the
two header sectors. -/
def RangesDisjoint (words : List Nat) : Prop :=
  (present words).Pairwise Apart ∧ ∀ chunk ∈ present words, 2 ≤ chunk.1

/-- The lengths below a chunk that another one follows come up to its offset: there is no gap
below it. -/
def Packed (words : List Nat) : Prop :=
  ∀ chunk ∈ present words, (∃ later ∈ present words, chunk.1 < later.1) →
    chunk.1 ≤ 2 + below (present words) chunk.1

/-- The first loop or the count rejects the table, or it has no gaps. -/
def RejectedOrPacked (words : List Nat) : Prop :=
  (∃ word ∈ words, 0xffff < word / 256) ∨ ¬NoRepeat words ∨ (present words).length < 4 ∨
    Packed words

/-- Without gaps the bound that a chunk is compared with is the end of the chunk before it. -/
theorem Packed.disjoint {words : List Nat} (packed : Packed words) (accepted : Accepted words) :
    RangesDisjoint words := by
  have apart : ∀ chunk ∈ present words, ∀ later ∈ present words, chunk.1 < later.1 →
      Before chunk later := by
    intro chunk member later laterMember ordered
    have low := packed chunk member ⟨later, laterMember, ordered⟩
    have length := add_length_le_below member ordered
    have spaced := accepted.spaced later laterMember
    change chunk.1 + chunk.2 ≤ later.1
    omega
  constructor
  · apply (present_distinct accepted.noRepeat).imp_of_mem
    intro first second firstMember secondMember different
    rcases lt_or_gt_of_ne different with ordered | ordered
    · exact Or.inl (apart first firstMember second secondMember ordered)
    · exact Or.inr (apart second secondMember first firstMember ordered)
  · intro chunk member
    exact le_trans (Nat.le_add_right 2 _) (accepted.spaced chunk member)

theorem RejectedOrPacked.disjoint {words : List Nat} (plain : RejectedOrPacked words)
    (accepted : Accepted words) : RangesDisjoint words := by
  rcases plain with ⟨word, member, far⟩ | repeated | few | packed
  · exact absurd (accepted.reasonable word member) (Nat.not_le_of_lt far)
  · exact absurd accepted.noRepeat repeated
  · exact absurd accepted.populous (Nat.not_le_of_lt few)
  · exact packed.disjoint accepted

end MinecraftCarve.OffsetOverlap
