import MinecraftCarve.OffsetTable

/-! Where the order of a table decides. The first loop of `has_offsets` compares every
word with the chunks before it, also a word of an absent chunk, so an absent chunk that
shares its offset with a present one is rejected after it and passed over before it. -/

namespace MinecraftCarve.OffsetOrder
open SectorWords Sector OffsetTable Library.ExtentPacking

/-- The same words in another order, with the trailing bytes where they were. -/
def Rearranged (buffer other : List Byte) : Prop :=
  (bufU32 other).Perm (bufU32 buffer) ∧ trailing other = trailing buffer

def OrderFree (buffer : List Byte) : Prop :=
  ∀ other, Rearranged buffer other → hasOffsets other = hasOffsets buffer

/-- No absent chunk names the offset of a present one. -/
def AbsentApart (words : List Nat) : Prop :=
  ∀ word ∈ words, word % 256 = 0 → ∀ chunk ∈ present words, chunk.1 ≠ word / 256

/-- The tests that do not look at the order. -/
structure Tested (words : List Nat) : Prop where
  reasonable : ∀ word ∈ words, word / 256 ≤ 0xffff
  distinct : (present words).Pairwise (fun first second => first.1 ≠ second.1)
  populous : 4 ≤ (present words).length
  spaced : ∀ chunk ∈ present words, 2 + below (present words) chunk.1 ≤ chunk.1

/-- Some other test rejects the table, or no absent chunk names the offset of a present
one. -/
def OrderImmaterial (words : List Nat) : Prop :=
  (∃ word ∈ words, 0xffff < word / 256) ∨
    ¬(present words).Pairwise (fun first second => first.1 ≠ second.1) ∨
    (present words).length < 4 ∨
    (∃ chunk ∈ present words, chunk.1 < 2 + below (present words) chunk.1) ∨
    AbsentApart words

theorem orderImmaterial_iff (words : List Nat) :
    OrderImmaterial words ↔ (Tested words → AbsentApart words) := by
  by_cases tested : Tested words
  · have near : ¬∃ word ∈ words, 0xffff < word / 256 := by
      intro far
      obtain ⟨word, member, beyond⟩ := far
      exact not_lt_of_ge (tested.reasonable word member) beyond
    have roomy : ¬∃ chunk ∈ present words, chunk.1 < 2 + below (present words) chunk.1 := by
      intro tight
      obtain ⟨chunk, held, low⟩ := tight
      exact not_lt_of_ge (tested.spaced chunk held) low
    have many : ¬(present words).length < 4 := not_lt_of_ge tested.populous
    simp [OrderImmaterial, near, tested.distinct, many, roomy, tested]
  · refine iff_of_true ?_ (fun passed => absurd passed tested)
    by_contra material
    simp only [OrderImmaterial, not_or, not_exists, not_and, not_lt, not_not] at material
    obtain ⟨reasonable, distinct, populous, spaced, _⟩ := material
    exact tested ⟨reasonable, distinct, populous, spaced⟩

theorem present_perm {words other : List Nat} (perm : words.Perm other) :
    (present words).Perm (present other) :=
  (perm.map entry).filter _

theorem Tested.perm {words other : List Nat} (perm : words.Perm other) (tested : Tested words) :
    Tested other where
  reasonable word member := tested.reasonable word (perm.mem_iff.mpr member)
  distinct := tested.distinct.perm (present_perm perm) (fun different same => different same.symm)
  populous := tested.populous.trans_eq (present_perm perm).length_eq
  spaced := by
    intro chunk held
    rw [← below_perm (present_perm perm)]
    exact tested.spaced chunk ((present_perm perm).mem_iff.mpr held)

theorem AbsentApart.perm {words other : List Nat} (perm : words.Perm other)
    (apart : AbsentApart words) : AbsentApart other := by
  intro word member absent chunk held
  exact apart word (perm.mem_iff.mpr member) absent chunk ((present_perm perm).mem_iff.mpr held)

theorem accepted_iff_tested (words : List Nat) : Accepted words ↔ Tested words ∧ NoRepeat words := by
  constructor
  · intro accepted
    exact ⟨⟨accepted.reasonable, present_distinct accepted.noRepeat, accepted.populous,
      accepted.spaced⟩, accepted.noRepeat⟩
  · intro both
    obtain ⟨tested, noRepeat⟩ := both
    exact ⟨tested.reasonable, noRepeat, tested.populous, tested.spaced⟩

/-- Apart from absent chunks a repeat is one between two present chunks. -/
theorem noRepeat_of_apart {words : List Nat} (apart : AbsentApart words)
    (distinct : (present words).Pairwise (fun first second => first.1 ≠ second.1)) :
    NoRepeat words := by
  apply (pairwise_present.mp distinct).imp_of_mem
  intro earlier later earlierMember laterMember different positive same
  rcases Nat.eq_zero_or_pos (later % 256) with absent | laterPositive
  · exact apart later laterMember absent (entry earlier)
      (mem_present.mpr ⟨earlier, earlierMember, positive, rfl⟩) same.symm
  · exact different positive laterPositive same.symm

/-- Where no absent chunk interferes, any order of the table is accepted with it. -/
theorem accepted_perm {words other : List Nat} (perm : words.Perm other)
    (apart : Tested words → AbsentApart words) (accepted : Accepted words) : Accepted other := by
  have tested := ((accepted_iff_tested words).mp accepted).1
  have moved := tested.perm perm
  exact (accepted_iff_tested other).mpr
    ⟨moved, noRepeat_of_apart ((apart tested).perm perm) moved.distinct⟩

/-! The two orders that tell an absent chunk's offset apart. -/

/-- The words of absent chunks. -/
def absentWords (words : List Nat) : List Nat := words.filter (fun word => word % 256 == 0)

def presentWords (words : List Nat) : List Nat := words.filter (fun word => !(word % 256 == 0))

def absentFirst (words : List Nat) : List Nat := absentWords words ++ presentWords words

def absentLast (words : List Nat) : List Nat := presentWords words ++ absentWords words

theorem absentFirst_perm (words : List Nat) : (absentFirst words).Perm words :=
  List.filter_append_perm _ words

theorem absentLast_perm (words : List Nat) : (absentLast words).Perm words :=
  List.perm_append_comm.trans (List.filter_append_perm _ words)

theorem mem_absentWords {words : List Nat} {word : Nat} :
    word ∈ absentWords words ↔ word ∈ words ∧ word % 256 = 0 := by
  rw [absentWords, List.mem_filter, beq_iff_eq]

theorem mem_presentWords {words : List Nat} {word : Nat} :
    word ∈ presentWords words ↔ word ∈ words ∧ 0 < word % 256 := by
  rw [presentWords, List.mem_filter, Bool.not_eq_true', beq_eq_false_iff_ne, Nat.pos_iff_ne_zero]

/-- Behind the absent words there is nothing before an entry that can repeat it but
present chunks. -/
theorem absentFirst_noRepeat {words : List Nat}
    (distinct : (present words).Pairwise (fun first second => first.1 ≠ second.1)) :
    NoRepeat (absentFirst words) := by
  rw [NoRepeat, absentFirst, List.pairwise_append]
  refine ⟨?_, ?_, ?_⟩
  · apply List.pairwise_of_forall_mem_list
    intro earlier member _ _ positive
    have absent := (mem_absentWords.mp member).2
    omega
  · apply ((pairwise_present.mp distinct).filter _).imp_of_mem
    intro earlier later _ laterMember different positive same
    exact different positive (mem_presentWords.mp laterMember).2 same.symm
  · intro earlier member _ _ positive
    have absent := (mem_absentWords.mp member).2
    omega

theorem absentLast_repeats {words : List Nat} (shared : ¬AbsentApart words) :
    ¬NoRepeat (absentLast words) := by
  intro noRepeat
  rw [NoRepeat, absentLast, List.pairwise_append] at noRepeat
  apply shared
  intro word member absent chunk held same
  obtain ⟨earlier, earlierMember, positive, rfl⟩ := mem_present.mp held
  exact noRepeat.2.2 earlier (mem_presentWords.mpr ⟨earlierMember, positive⟩) word
    (mem_absentWords.mpr ⟨member, absent⟩) positive same.symm

/-- Every order of the numbers is that of some buffer with the same words. -/
theorem exists_rearranged {buffer : List Byte} {words : List Nat}
    (perm : words.Perm (bigEndianWords buffer)) :
    ∃ other, Rearranged buffer other ∧ bigEndianWords other = words := by
  rw [← bufU32_toNat] at perm
  have lifted : Relation.Comp (fun first second : List _ => first = second.map
      (fun word => (bswap32 word).toNat)) List.Perm words (bufU32 buffer) := by
    rw [List.eq_map_comp_perm]
    exact perm
  obtain ⟨order, rfl, moved⟩ := lifted
  have short := trailing_length buffer
  refine ⟨order.flatMap wordBytes ++ trailing buffer, ⟨?_, trailing_words order short⟩, ?_⟩
  · rw [bufU32_words order short]
    exact moved
  · rw [← bufU32_toNat, bufU32_words order short]

theorem rearranged_perm {buffer other : List Byte} (rearranged : Rearranged buffer other) :
    (bigEndianWords other).Perm (bigEndianWords buffer) := by
  rw [← bufU32_toNat, ← bufU32_toNat]
  exact rearranged.1.map _

/-- The verdict is the same for every order of the words just when order is immaterial. -/
theorem orderFree_iff_immaterial (buffer : List Byte) :
    OrderFree buffer ↔ OrderImmaterial (bigEndianWords buffer) := by
  rw [orderImmaterial_iff]
  constructor
  · intro free tested
    by_contra shared
    obtain ⟨before, beforeRearranged, beforeWords⟩ :=
      exists_rearranged (absentFirst_perm (bigEndianWords buffer))
    obtain ⟨behind, behindRearranged, behindWords⟩ :=
      exists_rearranged (absentLast_perm (bigEndianWords buffer))
    have accepted : hasOffsets before = true := by
      rw [hasOffsets_iff, beforeWords, accepted_iff_tested]
      exact ⟨tested.perm (absentFirst_perm _).symm, absentFirst_noRepeat tested.distinct⟩
    have rejected : hasOffsets behind ≠ true := by
      rw [Ne, hasOffsets_iff, behindWords]
      exact fun accepted => absentLast_repeats shared accepted.noRepeat
    apply rejected
    rw [free behind behindRearranged, ← free before beforeRearranged]
    exact accepted
  · intro apart other rearranged
    have perm := rearranged_perm rearranged
    rw [Bool.eq_iff_iff, hasOffsets_iff, hasOffsets_iff]
    constructor
    · apply accepted_perm perm
      intro tested
      exact (apart (tested.perm perm)).perm perm.symm
    · exact accepted_perm perm.symm apart

/-- A table whose first word names the offset of its second without a length. -/
def absentBefore : List Byte :=
  [0, 0, 2, 0, 0, 0, 2, 1, 0, 0, 3, 1, 0, 0, 4, 1, 0, 0, 5, 1] ++ List.replicate 4076 0

/-- The same with that word moved behind the present chunks. -/
def absentBehind : List Byte :=
  [0, 0, 2, 1, 0, 0, 3, 1, 0, 0, 4, 1, 0, 0, 5, 1, 0, 0, 2, 0] ++ List.replicate 4076 0

theorem absentBefore_order : hasOffsets absentBefore = true ∧ hasOffsets absentBehind = false ∧
    ¬OrderFree absentBefore := by
  have accepted : hasOffsets absentBefore = true := by decide +kernel
  have rejected : hasOffsets absentBehind = false := by decide +kernel
  refine ⟨accepted, rejected, ?_⟩
  intro free
  have moved : Rearranged absentBefore absentBehind := ⟨by decide +kernel, by decide +kernel⟩
  rw [free absentBehind moved, accepted] at rejected
  cases rejected

end MinecraftCarve.OffsetOrder
