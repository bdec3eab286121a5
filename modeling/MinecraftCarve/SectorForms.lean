import MinecraftCarve.SectorTests
import Mathlib.Data.List.Count

/-! Exact forms of the sector tests other than `has_offsets`, in terms of the bytes:
the window test, the header test against what a chunk can begin with, and the count
of nonzero words. -/

namespace MinecraftCarve.SectorForms
open SectorWords Sector SectorTests

/-- The window test looks at the nonzero words and at nothing else. -/
theorem hasTimestamps_window (buffer : List Byte) (minTime maxTime : Word) :
    (hasTimestamps buffer minTime maxTime = true ↔
      (∃ time ∈ bigEndianWords buffer, time ≠ 0) ∧ ∀ time ∈ bigEndianWords buffer, time ≠ 0 →
        minTime.toNat ≤ time ∧ time ≤ maxTime.toNat) ∧
    ∀ other : List Byte,
      hasTimestamps (buffer.take (buffer.length / 4 * 4) ++ other.take 3) minTime maxTime =
        hasTimestamps buffer minTime maxTime := by
  refine ⟨hasTimestamps_iff buffer minTime maxTime, ?_⟩
  intro other
  have short : (other.take 3).length < 4 := by
    rw [List.length_take]
    omega
  rw [hasTimestamps, bufU32_trailing buffer short]
  rfl

/-! The first block of a chunk. -/

/-- The number in the first four bytes, the first of them most significant. -/
def dataLength : List Byte → Nat
  | b0 :: b1 :: b2 :: b3 :: _ =>
      ((b0.toNat * 256 + b1.toNat) * 256 + b2.toNat) * 256 + b3.toNat
  | _ => 0

/-- Compression type ZLIB and the two zlib bytes behind a full length field. -/
structure Marked (buffer : List Byte) : Prop where
  long : 8 ≤ buffer.length
  comp : buffer[4]? = some 0x02
  cmf : buffer[5]? = some 0x78
  flg : buffer[6]? = some 0x9c

/-- A header that a stored chunk can have: its length covers the three bytes, stays
below 1 MiB, and fits with the length field into 255 sectors. -/
structure BeginsChunk (buffer : List Byte) : Prop extends Marked buffer where
  covers : 3 ≤ dataLength buffer
  upperBits : dataLength buffer < 2 ^ 20
  fits : 4 + dataLength buffer ≤ 255 * 4096

/-- A length that no chunk has and that the limit lets through. -/
def Overlooked (length : Nat) : Prop := length < 3 ∨ 255 * 4096 < 4 + length ∧ length ≤ 2 ^ 20

theorem magic_iff (comp cmf flg last : Byte) :
    (((comp.toNat * 256 + cmf.toNat) * 256 + flg.toNat) * 256 + last.toNat) / 256 = 0x02789c ↔
      comp = 0x02 ∧ cmf = 0x78 ∧ flg = 0x9c := by
  have compBound := comp.isLt
  have cmfBound := cmf.isLt
  have flgBound := flg.isLt
  have lastBound := last.isLt
  rw [BitVec.toNat_eq, BitVec.toNat_eq, BitVec.toNat_eq]
  change _ ↔ comp.toNat = 0x02 ∧ cmf.toNat = 0x78 ∧ flg.toNat = 0x9c
  omega

/-- The header test in terms of the bytes. -/
theorem hasEncodedChunk_marked (buffer : List Byte) :
    hasEncodedChunk buffer = true ↔ Marked buffer ∧ dataLength buffer ≤ 2 ^ 20 := by
  rw [hasEncodedChunk_iff]
  match buffer with
  | b0 :: b1 :: b2 :: b3 :: b4 :: b5 :: b6 :: b7 :: rest =>
    have marked : Marked (b0 :: b1 :: b2 :: b3 :: b4 :: b5 :: b6 :: b7 :: rest) ↔
        b4 = 0x02 ∧ b5 = 0x78 ∧ b6 = 0x9c := by
      constructor
      · intro header
        exact ⟨Option.some.inj header.comp, Option.some.inj header.cmf, Option.some.inj header.flg⟩
      · intro bytes
        obtain ⟨rfl, rfl, rfl⟩ := bytes
        exact ⟨Nat.le_add_left _ _, rfl, rfl, rfl⟩
    rw [marked, ← magic_iff b4 b5 b6 b7, and_comm]
    constructor
    · intro header
      obtain ⟨_, _, _, read, limit, magic⟩ := header
      obtain ⟨rfl, rfl, rfl⟩ : _ ∧ _ ∧ _ := by
        simpa only [bigEndianWords, List.cons.injEq] using read
      exact ⟨limit, magic⟩
    · intro header
      exact ⟨_, _, _, rfl, header⟩
  | [] | [_] | [_, _] | [_, _, _] | [_, _, _, _] | [_, _, _, _, _] | [_, _, _, _, _, _]
  | [_, _, _, _, _, _, _] =>
    refine iff_of_false (by simp [bigEndianWords]) ?_
    intro header
    exact absurd header.1.long (by simp)

/-- The header test is exact apart from lengths below the three bytes and above 255
sectors. -/
theorem hasEncodedChunk_exact_iff (buffer : List Byte) :
    (hasEncodedChunk buffer = true ↔ BeginsChunk buffer) ↔
      ¬(Marked buffer ∧ Overlooked (dataLength buffer)) := by
  have begins : BeginsChunk buffer ↔ Marked buffer ∧ 3 ≤ dataLength buffer ∧
      dataLength buffer < 2 ^ 20 ∧ 4 + dataLength buffer ≤ 255 * 4096 := by
    constructor
    · intro chunk
      exact ⟨chunk.toMarked, chunk.covers, chunk.upperBits, chunk.fits⟩
    · intro header
      obtain ⟨marked, covers, upperBits, fits⟩ := header
      exact ⟨marked, covers, upperBits, fits⟩
  rw [hasEncodedChunk_marked, begins, Overlooked]
  by_cases marked : Marked buffer
  · simp only [marked, true_and]
    omega
  · simp [marked]

/-- Chunk data of 1 MiB: the length has one of its upper twelve bits set. -/
def mebibyteHeader : List Byte := [0x00, 0x10, 0x00, 0x00, 0x02, 0x78, 0x9c, 0x00]

theorem mebibyteHeader_accepted : hasEncodedChunk mebibyteHeader = true ∧
    dataLength mebibyteHeader = 2 ^ 20 ∧ ¬BeginsChunk mebibyteHeader := by
  refine ⟨by decide, by decide, ?_⟩
  intro chunk
  exact absurd chunk.upperBits (by decide)

/-! The count of nonzero words. -/

/-- How many aligned words have four bytes that pass a test. -/
def countWords (passes : Byte → Byte → Byte → Byte → Bool) : List Byte → Nat
  | b0 :: b1 :: b2 :: b3 :: rest =>
      countWords passes rest + if passes b0 b1 b2 b3 then 1 else 0
  | _ => 0

/-- The words with a nonzero byte. -/
def nonzeroWords (buffer : List Byte) : Nat :=
  countWords (fun b0 b1 b2 b3 => b0 != 0 || b1 != 0 || b2 != 0 || b3 != 0) buffer

/-- The words whose first byte is nonzero. -/
def nonzeroFirst (buffer : List Byte) : Nat :=
  countWords (fun b0 _ _ _ => b0 != 0) buffer

theorem countP_bufU32 (passes : Word → Bool) (buffer : List Byte) :
    (bufU32 buffer).countP passes =
      countWords (fun b0 b1 b2 b3 => passes (loadWord b0 b1 b2 b3)) buffer := by
  fun_induction bufU32 buffer with
  | case1 b0 b1 b2 b3 rest ih => rw [List.countP_cons, countWords, ih]
  | case2 short notFour =>
    rw [countWords]
    · rfl
    · exact notFour

theorem countWords_le {passes others : Byte → Byte → Byte → Byte → Bool}
    (weaker : ∀ b0 b1 b2 b3, passes b0 b1 b2 b3 = true → others b0 b1 b2 b3 = true)
    (buffer : List Byte) : countWords passes buffer ≤ countWords others buffer := by
  fun_induction countWords passes buffer with
  | case1 b0 b1 b2 b3 rest ih =>
    rw [countWords]
    apply Nat.add_le_add ih
    by_cases passed : passes b0 b1 b2 b3 = true
    · rw [if_pos passed, if_pos (weaker _ _ _ _ passed)]
    · rw [if_neg passed]
      exact Nat.zero_le _
  | case2 short notFour => exact Nat.zero_le _

theorem nonzeroFirst_le (buffer : List Byte) : nonzeroFirst buffer ≤ nonzeroWords buffer := by
  apply countWords_le
  intro b0 b1 b2 b3 first
  rw [first]
  rfl

/-- The lambda sees the first byte of a word, and the count keeps its low 32 bits. -/
theorem isMostlyZero_iff (buffer : List Byte) :
    isMostlyZero buffer = true ↔
      nonzeroFirst buffer % 2 ^ 32 < 10 ∨ 2 ^ 31 ≤ nonzeroFirst buffer % 2 ^ 32 := by
  have low : ∀ b0 b1 b2 b3, (loadWord b0 b1 b2 b3).setWidth 8 = b0 :=
    fun _ _ _ _ => BitVec.setWidth_append_eq_right
  have counted : (bufU32 buffer).countP (fun x => x.setWidth 8 != (0 : Byte)) =
      nonzeroFirst buffer := by
    rw [countP_bufU32, nonzeroFirst]
    simp only [low]
  simp only [isMostlyZero, counted, decide_eq_true_eq, BitVec.toInt_eq_toNat_cond,
    BitVec.toNat_ofNat]
  split <;> omega

/-- The count is right just when words are counted by their first byte alone. -/
theorem isMostlyZero_exact_iff (buffer : List Byte) :
    (isMostlyZero buffer = true ↔ nonzeroWords buffer < 10) ↔
      nonzeroWords buffer < 10 ∨
        10 ≤ nonzeroFirst buffer % 2 ^ 32 ∧ nonzeroFirst buffer % 2 ^ 32 < 2 ^ 31 := by
  have fewer := nonzeroFirst_le buffer
  rw [isMostlyZero_iff]
  omega

/-- A full sector of words that end in a nonzero byte. -/
def lastBytes : List Byte := (List.replicate 1024 [0, 0, 0, 1]).flatten

theorem lastBytes_mostly_zero : isMostlyZero lastBytes = true ∧
    nonzeroWords lastBytes = 1024 ∧
    ¬(isMostlyZero lastBytes = true ↔ nonzeroWords lastBytes < 10) := by
  have accepted : isMostlyZero lastBytes = true := by decide +kernel
  have full : nonzeroWords lastBytes = 1024 := by decide +kernel
  refine ⟨accepted, full, ?_⟩
  rw [full]
  exact fun exact => absurd (exact.mp accepted) (by decide)

end MinecraftCarve.SectorForms
