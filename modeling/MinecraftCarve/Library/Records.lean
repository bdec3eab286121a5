import Mathlib.Tactic.Linarith

/-! Files of records of one size, and numbers as little-endian records. A file made
by writing an encoding of each item in turn gives every encoding back by position. -/

namespace MinecraftCarve.Library.Records

variable {α β : Type*}

/-- The record at a position of a file. -/
def record (size index : Nat) (file : List β) : List β := (file.drop (index * size)).take size

theorem flatMap_length {encode : α → List β} {size : Nat} {items : List α}
    (sizes : ∀ item ∈ items, (encode item).length = size) :
    (items.flatMap encode).length = size * items.length := by
  induction items with
  | nil => rfl
  | cons item rest ih =>
    obtain ⟨first, others⟩ := List.forall_mem_cons.mp sizes
    rw [List.flatMap_cons, List.length_append, first, ih others, List.length_cons]
    exact (Nat.add_comm _ _).trans (Nat.mul_succ _ _).symm

theorem record_flatMap {encode : α → List β} {size : Nat} {items : List α}
    (sizes : ∀ item ∈ items, (encode item).length = size) (index : Nat)
    (inRange : index < items.length) :
    record size index (items.flatMap encode) = encode items[index] := by
  induction items generalizing index with
  | nil => exact absurd inRange (Nat.not_lt_zero index)
  | cons item rest ih =>
    obtain ⟨first, others⟩ := List.forall_mem_cons.mp sizes
    cases index with
    | zero =>
      rw [record, Nat.zero_mul, List.drop_zero, List.flatMap_cons, ← first, List.take_left']
      · rfl
      · rfl
    | succ index =>
      rw [List.getElem_cons_succ, ← ih others index (Nat.lt_of_succ_lt_succ inRange), record, record,
        List.flatMap_cons, Nat.succ_mul, Nat.add_comm, ← List.drop_drop, ← first, List.drop_left']
      rfl

/-- Records in a row are the beginning of the file. -/
theorem records_append (size count : Nat) (file : List β) :
    (List.range count).flatMap (fun index => record size index file) = file.take (count * size) := by
  induction count with
  | zero => rw [Nat.zero_mul, List.take_zero, List.range_zero, List.flatMap_nil]
  | succ count ih =>
    rw [List.range_succ, List.flatMap_append, ih, List.flatMap_singleton, Nat.succ_mul, List.take_add]
    rfl

/-- The `width` lowest bytes of a number, the lowest first. -/
def encode : Nat → Nat → List (BitVec 8)
  | 0, _ => []
  | width + 1, value => BitVec.ofNat 8 value :: encode width (value / 256)

def decode (bytes : List (BitVec 8)) : Nat :=
  bytes.foldr (fun byte rest => byte.toNat + 256 * rest) 0

@[simp] theorem encode_length (width value : Nat) : (encode width value).length = width := by
  induction width generalizing value with
  | zero => rfl
  | succ width ih => rw [encode, List.length_cons, ih]

theorem decode_encode {width value : Nat} (fits : value < 256 ^ width) :
    decode (encode width value) = value := by
  induction width generalizing value with
  | zero =>
    rw [Nat.pow_zero] at fits
    exact (Nat.lt_one_iff.mp fits).symm
  | succ width ih =>
    have rest : value / 256 < 256 ^ width := by
      rw [Nat.div_lt_iff_lt_mul (by decide), ← Nat.pow_succ]
      exact fits
    change (BitVec.ofNat 8 value).toNat + 256 * decode (encode width (value / 256)) = value
    rw [ih rest, BitVec.toNat_ofNat]
    exact Nat.mod_add_div value 256

theorem encode_decode (bytes : List (BitVec 8)) : encode bytes.length (decode bytes) = bytes := by
  induction bytes with
  | nil => rfl
  | cons byte rest ih =>
    have bound := byte.isLt
    have low : BitVec.ofNat 8 (byte.toNat + 256 * decode rest) = byte := by
      apply BitVec.eq_of_toNat_eq
      rw [BitVec.toNat_ofNat]
      omega
    have high : (byte.toNat + 256 * decode rest) / 256 = decode rest := by omega
    change BitVec.ofNat 8 (byte.toNat + 256 * decode rest) ::
      encode rest.length ((byte.toNat + 256 * decode rest) / 256) = byte :: rest
    rw [low, high, ih]

end MinecraftCarve.Library.Records
