import MinecraftCarve.Ext2Filesystem
import MinecraftCarve.Library.Records

/-! The size check of the vector overload of `read_block`. It compares the size with a
product of two 32-bit numbers, so it is exact where that product does not wrap. -/

namespace MinecraftCarve.VectorRead
open SectorWords Ext2Filesystem Library.Records Library.StickySource

/-- The call throws, and neither the channel nor the vector is touched. -/
structure Refused (fs : Ext2Filesystem) (data : List Byte)
    (call : ReadCall Ext2Filesystem (List Byte)) : Prop where
  threw : ∃ what, call.status = .threw what
  idle : call.reader = fs
  untouched : call.buffer = data

/-- The request is for the whole vector, whose size is exact and whose count survives
the conversion to a signed number. -/
structure Exact (fs : Ext2Filesystem) (data : List Byte) (count : Word)
    (call : ReadCall Ext2Filesystem (List Byte)) : Prop where
  size : data.length = count.toNat * fs.blocksize
  unchanged : count.toInt = count.toNat
  whole : call.requested = data.length

/-- The size check stops a call or passes on what it has checked. -/
def Checked (fs : Ext2Filesystem) (blk : Nat) (data : List Byte) (count : Word) : Prop :=
  Refused fs data (fs.readBlockVector blk data count) ∨
    Exact fs data count (fs.readBlockVector blk data count)

/-- The product fits, or its low 32 bits are not the size of the vector either. -/
def Representable (fs : Ext2Filesystem) (data : List Byte) (count : Word) : Prop :=
  count.toNat * fs.blocksize < 2 ^ 32 ∨ data.length ≠ count.toNat * fs.blocksize % 2 ^ 32

theorem blocksize_ge (fs : Ext2Filesystem) : 1024 ≤ fs.blocksize :=
  Nat.le_mul_of_pos_right 1024 (Nat.two_pow_pos _)

theorem product_toNat (fs : Ext2Filesystem) (count : Word) :
    (count * BitVec.ofNat 32 fs.blocksize).toNat = count.toNat * fs.blocksize % 2 ^ 32 := by
  rw [BitVec.toNat_mul, BitVec.toNat_ofNat, Nat.mul_mod_mod]

/-- With blocks of at least 1 kB a product below 4 GiB has a count below 2^22. -/
theorem count_lt {fs : Ext2Filesystem} {count : Word}
    (fits : count.toNat * fs.blocksize < 2 ^ 32) : count.toNat < 2 ^ 22 := by
  have least := Nat.mul_le_mul_left count.toNat (blocksize_ge fs)
  omega

theorem readBlockVector_refused {fs : Ext2Filesystem} {data : List Byte} {count : Word}
    (different : data.length ≠ count.toNat * fs.blocksize % 2 ^ 32) (blk : Nat) :
    Refused fs data (fs.readBlockVector blk data count) := by
  rw [← product_toNat] at different
  rw [readBlockVector, if_pos different]
  exact ⟨⟨_, rfl⟩, rfl, rfl⟩

theorem readBlockVector_passed {fs : Ext2Filesystem} {data : List Byte} {count : Word}
    (same : data.length = count.toNat * fs.blocksize % 2 ^ 32) (blk : Nat) :
    fs.readBlockVector blk data count = fs.readBlock blk data count := by
  rw [← product_toNat] at same
  rw [readBlockVector, if_neg (not_not.mpr same)]

/-- A call that reaches the channel uses up one of its answers. -/
theorem readBlock_not_refused (fs : Ext2Filesystem) (blk : Nat) (data : List Byte) (count : Word) :
    ¬Refused fs data (fs.readBlock blk data count) := by
  intro refused
  have idle := congrArg Ext2Filesystem.calls refused.idle
  rw [readBlock_reader] at idle
  exact Nat.succ_ne_self _ idle

theorem readBlock_exact {fs : Ext2Filesystem} {data : List Byte} {count : Word}
    (size : data.length = count.toNat * fs.blocksize) (small : count.toNat < 2 ^ 31) (blk : Nat) :
    Exact fs data count (fs.readBlock blk data count) := by
  have unchanged : count.toInt = count.toNat := BitVec.toInt_eq_toNat_of_lt (by omega)
  refine ⟨size, unchanged, ?_⟩
  rw [readBlock_requested, transferSize, if_neg (by omega), size]

/-- The check is exact unless the product wraps to the size of the vector. -/
theorem checked_iff_representable (fs : Ext2Filesystem) (blk : Nat) (data : List Byte)
    (count : Word) : Checked fs blk data count ↔ Representable fs data count := by
  by_cases same : data.length = count.toNat * fs.blocksize % 2 ^ 32
  · rw [Checked, readBlockVector_passed same, Representable]
    constructor
    · intro checked
      rcases checked with refused | exact
      · exact absurd refused (readBlock_not_refused fs blk data count)
      · left
        rw [← exact.size, same]
        exact Nat.mod_lt _ (by decide)
    · intro representable
      have fits : count.toNat * fs.blocksize < 2 ^ 32 :=
        representable.resolve_right (not_not.mpr same)
      have small := count_lt fits
      rw [Nat.mod_eq_of_lt fits] at same
      exact Or.inr (readBlock_exact same (by omega) blk)
  · exact iff_of_true (Or.inl (readBlockVector_refused same blk)) (Or.inr same)

/-- An image with blocks of 1 kB. -/
def oneKilobyte : Ext2Filesystem := ofImage 0 1 2 (fun _ => false) (fun _ => 0)

/-- A count of 2^22 + 1 wraps to one block: a vector of 1 kB passes for 4 GiB and more. -/
theorem wrappedCount_requested :
    (oneKilobyte.readBlockVector 1 (List.replicate 1024 0) 0x400001).requested = 2 ^ 32 + 1024 ∧
      ¬Checked oneKilobyte 1 (List.replicate 1024 0) 0x400001 := by
  have size : (List.replicate 1024 (0 : Byte)).length = 1024 := List.length_replicate
  have same : (List.replicate 1024 (0 : Byte)).length =
      (0x400001 : Word).toNat * oneKilobyte.blocksize % 2 ^ 32 := by
    rw [size]
    decide
  have passed := readBlockVector_passed same 1
  constructor
  · rw [passed, readBlock_requested]
    decide
  · intro checked
    rw [Checked, passed] at checked
    rcases checked with refused | exact
    · exact readBlock_not_refused _ _ _ _ refused
    · exact absurd (size.symm.trans exact.size) (by decide)

/-! Several blocks in one call, next to the calls for each of them. -/

theorem bytes_add (fs : Ext2Filesystem) (blk front behind : Nat) :
    fs.bytes blk (front + behind) = fs.bytes blk front ++
      (List.range behind).map (fun index => fs.image (blk * fs.blocksize + (front + index))) := by
  rw [bytes, bytes, List.range_add, List.map_append, List.map_map]
  rfl

theorem bytes_blocks (fs : Ext2Filesystem) (blk count : Nat) :
    fs.bytes blk (count * fs.blocksize) =
      (List.range count).flatMap (fun index => fs.block (blk + index)) := by
  induction count with
  | zero =>
    rw [Nat.zero_mul]
    rfl
  | succ count ih =>
    have last : (List.range fs.blocksize).map
          (fun index => fs.image (blk * fs.blocksize + (count * fs.blocksize + index))) =
        fs.block (blk + count) := by
      apply List.map_congr_left
      intro index _
      rw [Nat.add_mul, Nat.add_assoc]
    rw [Nat.succ_mul, bytes_add, ih, last, List.range_succ, List.flatMap_append]
    exact congrArg _ (List.append_nil _).symm

/-- A call for several blocks returns just when the vector has their size and the channel
has no error, and then it has done what a call for each of them would do in its place. -/
structure ReadsBlocks (fs : Ext2Filesystem) (blk : Nat) (data : List Byte) (count : Word)
    (call : ReadCall Ext2Filesystem (List Byte)) : Prop where
  returns : call.status = .ok ↔ data.length = count.toNat * fs.blocksize ∧ fs.errval = 0
  inside : call.status ≠ .overran ∧ call.buffer.length = data.length
  blocks : call.status = .ok →
    call.buffer = (List.range count.toNat).flatMap (fun index => fs.block (blk + index))
  singly : call.status = .ok → ∀ index < count.toNat, ∀ piece : List Byte,
    piece.length = fs.blocksize → (fs.readBlockVector (blk + index) piece 1).status = .ok ∧
      (fs.readBlockVector (blk + index) piece 1).buffer = record fs.blocksize index call.buffer

/-- What a call does whose vector has the exact size. -/
theorem readBlock_whole {fs : Ext2Filesystem} {data : List Byte} {count : Word}
    (size : data.length = count.toNat * fs.blocksize) (small : count.toNat < 2 ^ 31) (blk : Nat) :
    (fs.readBlock blk data count).status ≠ .overran ∧
      ((fs.readBlock blk data count).status = .ok ↔ fs.errval = 0) ∧
      (fs.errval = 0 →
        (fs.readBlock blk data count).buffer = fs.bytes blk (count.toNat * fs.blocksize)) := by
  have transfer : fs.transferSize count = data.length := by
    rw [← readBlock_requested fs blk data count]
    exact (readBlock_exact size small blk).whole
  have fits : ¬data.length < (fs.moved blk data.length).length :=
    Nat.not_lt_of_le (fs.moved_length_le blk _)
  simp only [readBlock, transfer, if_neg fits]
  by_cases fine : fs.errval = 0
  · have moved := moved_fine blk data.length fine
    simp only [fine, ne_eq, not_true_eq_false, if_false, moved, ← size]
    exact ⟨by simp, by simp, fun _ => overlay_full (fs.bytes_length blk _)⟩
  · simp [fine]

theorem vector_reads_blocks (fs : Ext2Filesystem) (blk : Nat) (data : List Byte) (count : Word)
    (fits : count.toNat * fs.blocksize < 2 ^ 32) :
    ReadsBlocks fs blk data count (fs.readBlockVector blk data count) := by
  by_cases size : data.length = count.toNat * fs.blocksize
  · have small : count.toNat < 2 ^ 31 := (count_lt fits).trans (by decide)
    obtain ⟨inside, returns, filled⟩ := readBlock_whole size small blk
    rw [readBlockVector_passed (size.trans (Nat.mod_eq_of_lt fits).symm)]
    rw [bytes_blocks] at filled
    refine ⟨by simp [returns, size], ⟨inside, readBlock_length ..⟩, fun ok => filled (returns.mp ok), ?_⟩
    intro ok index inRange piece pieceSize
    have fine := returns.mp ok
    have one : piece.length = (1 : Word).toNat * fs.blocksize := pieceSize.trans (Nat.one_mul _).symm
    have oneFits : (1 : Word).toNat * fs.blocksize < 2 ^ 32 := by
      have least := Nat.mul_le_mul_right fs.blocksize (Nat.one_le_of_lt inRange)
      exact least.trans_lt fits
    obtain ⟨_, returnsOne, filledOne⟩ := readBlock_whole one (by decide) (blk + index)
    rw [readBlockVector_passed (one.trans (Nat.mod_eq_of_lt oneFits).symm), filled fine, filledOne fine]
    refine ⟨returnsOne.mpr fine, ?_⟩
    have sizes : ∀ index ∈ List.range count.toNat, (fs.block (blk + index)).length = fs.blocksize :=
      fun index _ => fs.block_length _
    rw [record_flatMap sizes index (by simpa using inRange), List.getElem_range, block]
    exact congrArg _ (Nat.one_mul _)
  · have different : data.length ≠ count.toNat * fs.blocksize % 2 ^ 32 := by
      rwa [Nat.mod_eq_of_lt fits]
    have refused := readBlockVector_refused different blk
    obtain ⟨what, threw⟩ := refused.threw
    refine ⟨?_, ⟨?_, ?_⟩, ?_, ?_⟩
    · rw [threw]
      exact iff_of_false (by simp) (fun both => size both.1)
    · rw [threw]
      simp
    · rw [refused.untouched]
    · intro ok
      cases threw.symm.trans ok
    · intro ok
      cases threw.symm.trans ok

theorem oneKilobyte_reads_blocks : ReadsBlocks oneKilobyte 1 (List.replicate 2048 0) 2
    (oneKilobyte.readBlockVector 1 (List.replicate 2048 0) 2) :=
  vector_reads_blocks oneKilobyte 1 (List.replicate 2048 0) 2 (by decide)

end MinecraftCarve.VectorRead
