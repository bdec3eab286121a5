import Mathlib.Data.List.Basic
import Mathlib.Tactic.Ring

/-! Byte buffers seen as aligned 32-bit words. The sector tests read the host's
little-endian words and swap them; the values they compare are the big-endian
numbers that the Anvil format stores. -/

namespace MinecraftCarve.SectorWords

abbrev Byte := BitVec 8
abbrev Word := BitVec 32

/-- One `uint32_t` as the host loads it, first byte least significant. -/
def loadWord (b0 b1 b2 b3 : Byte) : Word := b3 ++ b2 ++ b1 ++ b0

/-- `__builtin_bswap32`. -/
def bswap32 (x : Word) : Word :=
  x.extractLsb' 0 8 ++ x.extractLsb' 8 8 ++ x.extractLsb' 16 8 ++ x.extractLsb' 24 8

/-- The span `buf_u32`: bytes past the last full word are not part of it. -/
def bufU32 : List Byte → List Word
  | b0 :: b1 :: b2 :: b3 :: rest => loadWord b0 b1 b2 b3 :: bufU32 rest
  | _ => []

/-- The aligned words of a buffer as big-endian numbers. -/
def bigEndianWords : List Byte → List Nat
  | b0 :: b1 :: b2 :: b3 :: rest =>
      (((b0.toNat * 256 + b1.toNat) * 256 + b2.toNat) * 256 + b3.toNat) :: bigEndianWords rest
  | _ => []

theorem toNat_append_byte {bits : Nat} (front : BitVec bits) (last : Byte) :
    (front ++ last).toNat = front.toNat * 256 + last.toNat := by
  have digits := Nat.shiftLeft_add_eq_or_of_lt last.isLt front.toNat
  rw [BitVec.toNat_append, ← digits, Nat.shiftLeft_eq]

/-- The bytes of a word in memory. -/
def wordBytes (word : Word) : List Byte :=
  [word.extractLsb' 0 8, word.extractLsb' 8 8, word.extractLsb' 16 8, word.extractLsb' 24 8]

theorem wordBytes_loadWord (b0 b1 b2 b3 : Byte) : wordBytes (loadWord b0 b1 b2 b3) = [b0, b1, b2, b3] := by
  have first : (loadWord b0 b1 b2 b3).extractLsb' 0 8 = b0 :=
    BitVec.extractLsb'_append_eq_right
  have second : (loadWord b0 b1 b2 b3).extractLsb' 8 8 = b1 := by
    ext i h
    simp [loadWord]
    grind
  have third : (loadWord b0 b1 b2 b3).extractLsb' 16 8 = b2 := by
    ext i h
    simp [loadWord]
    grind
  have fourth : (loadWord b0 b1 b2 b3).extractLsb' 24 8 = b3 := by
    ext i h
    simp [loadWord]
    grind
  rw [wordBytes, first, second, third, fourth]

theorem loadWord_wordBytes (word : Word) :
    loadWord (word.extractLsb' 0 8) (word.extractLsb' 8 8) (word.extractLsb' 16 8)
      (word.extractLsb' 24 8) = word := by
  ext i h
  simp [loadWord]
  grind

theorem bswap32_loadWord (b0 b1 b2 b3 : Byte) :
    bswap32 (loadWord b0 b1 b2 b3) = b0 ++ b1 ++ b2 ++ b3 := by
  obtain ⟨first, second, third, fourth⟩ : _ ∧ _ ∧ _ ∧ _ := by
    simpa only [wordBytes, List.cons.injEq, and_true] using wordBytes_loadWord b0 b1 b2 b3
  rw [bswap32, first, second, third, fourth]

theorem bswap32_loadWord_toNat (b0 b1 b2 b3 : Byte) :
    (bswap32 (loadWord b0 b1 b2 b3)).toNat =
      ((b0.toNat * 256 + b1.toNat) * 256 + b2.toNat) * 256 + b3.toNat := by
  rw [bswap32_loadWord]
  exact (toNat_append_byte _ _).trans (by rw [toNat_append_byte, toNat_append_byte])

theorem bufU32_toNat (buffer : List Byte) :
    (bufU32 buffer).map (fun word => (bswap32 word).toNat) = bigEndianWords buffer := by
  fun_induction bufU32 buffer with
  | case1 b0 b1 b2 b3 rest ih =>
    rw [List.map_cons, bigEndianWords, bswap32_loadWord_toNat, ih]
  | case2 short notFour =>
    rw [bigEndianWords]
    · rfl
    · exact notFour

theorem bigEndianWords_lt (buffer : List Byte) : ∀ word ∈ bigEndianWords buffer, word < 2 ^ 32 := by
  rw [← bufU32_toNat]
  intro word member
  obtain ⟨loaded, _, rfl⟩ := List.mem_map.mp member
  exact (bswap32 loaded).isLt

theorem bufU32_length (buffer : List Byte) : (bufU32 buffer).length = buffer.length / 4 := by
  fun_induction bufU32 buffer with
  | case1 b0 b1 b2 b3 rest ih =>
    simp only [List.length_cons, ih]
    omega
  | case2 short notFour =>
    match short, notFour with
    | [], _ => rfl
    | [_], _ => simp
    | [_, _], _ => simp
    | [_, _, _], _ => simp
    | b0 :: b1 :: b2 :: b3 :: rest, notFour => exact absurd rfl (notFour b0 b1 b2 b3 rest)

/-! A buffer is its words and fewer than four bytes more. -/

def trailing (buffer : List Byte) : List Byte := buffer.drop (buffer.length / 4 * 4)

theorem trailing_length (buffer : List Byte) : (trailing buffer).length < 4 := by
  rw [trailing, List.length_drop]
  omega

theorem flatMap_wordBytes_length (words : List Word) :
    (words.flatMap wordBytes).length = 4 * words.length := by
  induction words with
  | nil => rfl
  | cons word rest ih =>
    rw [List.flatMap_cons, List.length_append, ih, List.length_cons]
    exact (Nat.add_comm _ _).trans (Nat.mul_succ _ _).symm

theorem bufU32_short {buffer : List Byte} (short : buffer.length < 4) : bufU32 buffer = [] := by
  apply List.eq_nil_of_length_eq_zero
  rw [bufU32_length]
  omega

theorem bufU32_words (words : List Word) {rest : List Byte} (short : rest.length < 4) :
    bufU32 (words.flatMap wordBytes ++ rest) = words := by
  induction words with
  | nil => exact bufU32_short short
  | cons word others ih =>
    rw [List.flatMap_cons, List.append_assoc]
    change loadWord _ _ _ _ :: bufU32 (others.flatMap wordBytes ++ rest) = word :: others
    rw [loadWord_wordBytes, ih]

theorem trailing_words (words : List Word) {rest : List Byte} (short : rest.length < 4) :
    trailing (words.flatMap wordBytes ++ rest) = rest := by
  have whole : (words.flatMap wordBytes ++ rest).length / 4 * 4 = (words.flatMap wordBytes).length := by
    rw [List.length_append, flatMap_wordBytes_length]
    omega
  rw [trailing, whole, List.drop_left]

/-- Nothing of a buffer is lost between its words and its trailing bytes. -/
theorem words_trailing (buffer : List Byte) :
    (bufU32 buffer).flatMap wordBytes ++ trailing buffer = buffer := by
  fun_induction bufU32 buffer with
  | case1 b0 b1 b2 b3 rest ih =>
    have later : trailing (b0 :: b1 :: b2 :: b3 :: rest) = trailing rest := by
      have whole : (rest.length + 4) / 4 * 4 = rest.length / 4 * 4 + 4 := by omega
      change (b0 :: b1 :: b2 :: b3 :: rest).drop ((rest.length + 4) / 4 * 4) = _
      rw [whole]
      rfl
    rw [later, List.flatMap_cons, wordBytes_loadWord, List.append_assoc, ih]
    rfl
  | case2 short notFour =>
    have few : short.length / 4 = 0 := by
      rw [← bufU32_length, bufU32]
      · rfl
      · exact notFour
    rw [trailing, few]
    rfl

/-- The words do not show the trailing bytes, nor others in their place. -/
theorem bufU32_trailing (buffer : List Byte) {rest : List Byte} (short : rest.length < 4) :
    bufU32 (buffer.take (buffer.length / 4 * 4) ++ rest) = bufU32 buffer := by
  have whole : (bufU32 buffer).flatMap wordBytes = buffer.take (buffer.length / 4 * 4) := by
    apply List.append_cancel_right
    rw [words_trailing]
    exact (List.take_append_drop _ buffer).symm
  rw [← whole, bufU32_words _ short]

/-! The two fields of a swapped offset-table word. -/

theorem low_byte_toNat (field : Word) : ((field &&& (0xff : Word)).setWidth 8).toNat = field.toNat % 256 := by
  have low : (field &&& (0xff : Word)).toNat = field.toNat % 256 := by
    rw [BitVec.toNat_and]
    exact Nat.and_two_pow_sub_one_eq_mod field.toNat 8
  rw [BitVec.toNat_setWidth, low]
  omega

theorem high_bits_toNat (field : Word) : (field >>> 8).toNat = field.toNat / 256 := by
  rw [BitVec.toNat_ushiftRight, Nat.shiftRight_eq_div_pow]

theorem mask_high_bits (field : Word) : field &&& (0xFFFFFF00 : Word) = (field >>> 8) <<< 8 := by
  have mask : (0xFFFFFF00 : Word) = BitVec.allOnes 32 <<< 8 := by decide
  rw [mask]
  ext i h
  simp only [BitVec.getElem_and, BitVec.getElem_shiftLeft, BitVec.getElem_allOnes,
    BitVec.getElem_ushiftRight]
  by_cases low : i < 8
  · simp [low]
  · simp [low, BitVec.getLsbD_eq_getElem h, show 8 + (i - 8) = i by omega]

theorem masked_toNat (field : Word) :
    (field &&& (0xFFFFFF00 : Word)).toNat = field.toNat / 256 * 256 := by
  have bound := field.isLt
  rw [mask_high_bits, BitVec.toNat_shiftLeft, high_bits_toNat, Nat.shiftLeft_eq]
  omega

theorem word_eq_zero (word : Word) : word = 0 ↔ word.toNat = 0 := BitVec.toNat_eq

end MinecraftCarve.SectorWords
