import MinecraftCarve.SectorWords
import Mathlib.Tactic.Linarith

/-! The four sector tests of `sector.cpp`, for buffers of any length. A loop
that may leave early with `return false` is a fold in `Option`. -/

namespace MinecraftCarve.Sector
open SectorWords

/-- The lambda's parameter is a `uint8_t`, so each word is cut to its low byte,
and the count is narrowed to an `int`. -/
def isMostlyZero (buffer : List Byte) : Bool :=
  let threshold : Int := 10
  let count := (bufU32 buffer).countP (fun x => x.setWidth 8 != (0 : Byte))
  let nonzeroCount : Int := (BitVec.ofNat 32 count).toInt
  decide (nonzeroCount < threshold)

def timestampStep (minTime maxTime bits word : Word) : Option Word :=
  let timestamp := bswap32 word
  if timestamp ≠ (0 : Word) ∧ (timestamp < minTime ∨ maxTime < timestamp) then none
  else some (bits ||| timestamp)

def hasTimestamps (buffer : List Byte) (minTime maxTime : Word) : Bool :=
  match (bufU32 buffer).foldlM (timestampStep minTime maxTime) 0 with
  | none => false
  | some bits => bits != (0 : Word)

/-- The variables that the first loop of `has_offsets` carries. -/
structure OffsetScan where
  chunkLength : Std.TreeMap Word Byte
  offsetCount : Word

def OffsetScan.empty : OffsetScan := ⟨∅, 0⟩

def fieldLength (field : Word) : Byte := (field &&& (0xff : Word)).setWidth 8

def fieldOffset (field : Word) : Word := field >>> 8

def offsetStep (scan : OffsetScan) (word : Word) : Option OffsetScan :=
  let length := fieldLength (bswap32 word)
  let offset := fieldOffset (bswap32 word)
  if (0xffff : Word) < offset then none
  else if scan.chunkLength.contains offset then none
  else if (0 : Byte) < length then
    some ⟨scan.chunkLength.insert offset length, scan.offsetCount + 1⟩
  else some scan

def boundStep (minAllowedOffset : Word) (chunk : Word × Byte) : Option Word :=
  if (0 : Byte) < chunk.2 ∧ chunk.1 < minAllowedOffset then none
  else some (minAllowedOffset + chunk.2.setWidth 32)

def hasOffsets (buffer : List Byte) : Bool :=
  match (bufU32 buffer).foldlM offsetStep OffsetScan.empty with
  | none => false
  | some scan =>
    if scan.offsetCount < (4 : Word) then false
    else (scan.chunkLength.toList.foldlM boundStep 2).isSome

/-- `MAX_DATA_LENGTH`: maximum possible encoded chunk length. -/
def maxDataLength : Word := (1 : Word) <<< 20

/-- Compression type ZLIB, then the zlib bytes CMF and FLG. -/
def compCmfFlg : Word := 0x02789c00

def hasEncodedChunk (buffer : List Byte) : Bool :=
  if short : buffer.length < 8 then false
  else
    have words : 1 < (bufU32 buffer).length := by rw [bufU32_length]; omega
    let dataLength := bswap32 (bufU32 buffer)[0]
    if maxDataLength < dataLength then false
    else bswap32 (bufU32 buffer)[1] &&& (0xFFFFFF00 : Word) == compCmfFlg

theorem fieldLength_toNat (field : Word) : (fieldLength field).toNat = field.toNat % 256 :=
  low_byte_toNat field

theorem fieldOffset_toNat (field : Word) : (fieldOffset field).toNat = field.toNat / 256 :=
  high_bits_toNat field

end MinecraftCarve.Sector
