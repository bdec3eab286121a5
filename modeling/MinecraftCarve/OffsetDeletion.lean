import MinecraftCarve.OffsetTable

/-! Tables from which chunks have been deleted. An entry that is set to zero makes room
and takes an offset away, so that a table stays a table for `has_offsets` as long as four
of its chunks are left. -/

namespace MinecraftCarve.OffsetDeletion
open SectorWords Sector OffsetTable Library.ExtentPacking

/-- Some of the entries have been set to zero. -/
def Deleted (words left : List Nat) : Prop :=
  List.Forall₂ (fun word remains => remains = word ∨ remains = 0) words left

theorem Deleted.mem {words left : List Nat} (deleted : Deleted words left) :
    ∀ word ∈ left, word ∈ words ∨ word = 0 := by
  induction deleted with
  | nil => simp
  | cons one _ ih =>
    refine List.forall_mem_cons.mpr ⟨?_, fun word member => ?_⟩
    · rcases one with rfl | rfl
      · exact Or.inl (List.mem_cons_self ..)
      · exact Or.inr rfl
    · exact (ih word member).imp_left (List.mem_cons_of_mem _)

theorem present_cons (word : Nat) (words : List Nat) : present (word :: words) =
    if 0 < word % 256 then entry word :: present words else present words := by
  by_cases positive : 0 < word % 256
  · simp [present, entry, positive]
  · simp [present, entry, positive]

/-- The chunks that are left are some of those that were there. -/
theorem Deleted.present {words left : List Nat} (deleted : Deleted words left) :
    (present left).Sublist (present words) := by
  induction deleted with
  | nil => exact List.Sublist.refl _
  | cons one _ ih =>
    rw [present_cons, present_cons]
    rcases one with rfl | rfl
    · split
      · exact ih.cons_cons _
      · exact ih
    · rw [if_neg (by decide)]
      split
      · exact ih.cons _
      · exact ih

/-- No zero entry is in the way where every chunk that is there lies behind the header. -/
theorem Deleted.noRepeat {words left : List Nat} (deleted : Deleted words left)
    (behind : ∀ word ∈ words, 0 < word % 256 → 0 < word / 256) (noRepeat : NoRepeat words) :
    NoRepeat left := by
  induction deleted with
  | nil => exact List.Pairwise.nil
  | cons one rest ih =>
    obtain ⟨fresh, others⟩ := List.pairwise_cons.mp noRepeat
    obtain ⟨first, later⟩ := List.forall_mem_cons.mp behind
    refine List.pairwise_cons.mpr ⟨?_, ih later others⟩
    intro word member positive
    rcases one with rfl | rfl
    · rcases Deleted.mem rest word member with kept | rfl
      · exact fresh word kept positive
      · exact (first positive).ne
    · exact absurd positive (by decide)

theorem Deleted.accepted {words left : List Nat} (deleted : Deleted words left)
    (accepted : Accepted words) (populous : 4 ≤ (OffsetTable.present left).length) :
    Accepted left where
  reasonable := by
    intro word member
    rcases deleted.mem word member with kept | rfl
    · exact accepted.reasonable word kept
    · decide
  noRepeat := by
    refine deleted.noRepeat ?_ accepted.noRepeat
    intro word member positive
    have spaced := accepted.spaced _ (mem_present.mpr ⟨word, member, positive, rfl⟩)
    change 2 + _ ≤ word / 256 at spaced
    omega
  populous := populous
  spaced := by
    intro chunk member
    have spaced := accepted.spaced chunk (deleted.present.subset member)
    have room := below_sublist deleted.present (fun _ _ => Nat.zero_le _) chunk.1
    omega

/-- A sector that is a table of offsets stays one when chunks are deleted from it, as
long as at least four are left. -/
theorem deletion_keeps_table (buffer left : List Byte)
    (deleted : Deleted (bigEndianWords buffer) (bigEndianWords left))
    (table : hasOffsets buffer = true) : hasOffsets left = true ↔
      4 ≤ (OffsetTable.present (bigEndianWords left)).length := by
  rw [hasOffsets_iff] at table ⊢
  exact ⟨Accepted.populous, deleted.accepted table⟩

/-- Five chunks, and what is left when the second is deleted. -/
def fiveChunks : List Byte := [0, 0, 2, 1, 0, 0, 3, 1, 0, 0, 4, 1, 0, 0, 5, 1, 0, 0, 6, 1]

def fourLeft : List Byte := [0, 0, 2, 1, 0, 0, 0, 0, 0, 0, 4, 1, 0, 0, 5, 1, 0, 0, 6, 1]

theorem fourLeft_table : hasOffsets fourLeft = true := by
  have table : hasOffsets fiveChunks = true :=
    (hasOffsets_iff fiveChunks).mpr ⟨by decide, by unfold NoRepeat; decide, by decide, by decide⟩
  have deleted : Deleted (bigEndianWords fiveChunks) (bigEndianWords fourLeft) := by
    refine .cons (Or.inl rfl) (.cons (Or.inr rfl) (.cons (Or.inl rfl) (.cons (Or.inl rfl)
      (.cons (Or.inl rfl) .nil))))
  exact (deletion_keeps_table fiveChunks fourLeft deleted table).mpr (by decide)

end MinecraftCarve.OffsetDeletion
