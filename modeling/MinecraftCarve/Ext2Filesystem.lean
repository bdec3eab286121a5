import MinecraftCarve.SectorWords
import MinecraftCarve.Library.StickySource

/-! `ext2filesystem.cpp` over the parts of `libext2fs` that it calls. The library is
a parameter: what it has read of a filesystem, the image behind it, and one event
for each call of `io_channel_read_blk64`. -/

namespace MinecraftCarve
open SectorWords Library.StickySource

abbrev Stream := Source Byte

/-- What one opening of a file finds, or nothing where it cannot be opened. -/
abbrev Device := Option (Nat → Reading Byte)

def identifyExt2FS (device : Device) : Bool :=
  match device with
  | none => false
  | some device =>
    let file : Stream := (Source.opened device).seek 1080
    if file.fail then false
    else
      let (file, buffer) := file.read 2
      if file.fail then false else buffer == [0x53, 0xef]

/-- One answer of `io_channel_read_blk64`: its error code and what a failing call has
moved into the caller's memory. -/
structure IoEvent where
  errval : Int
  scribble : List Byte

/-- `ext2_filsys` with its superblock, block bitmap and channel. -/
structure Ext2Filesystem where
  logBlockSize : Nat
  firstDataBlock : Nat
  blocksCount : Nat
  blockMap : Nat → Bool
  image : Nat → Byte
  io : Nat → IoEvent
  calls : Nat
  logBlockSize_le : logBlockSize ≤ 6
  firstDataBlock_lt : firstDataBlock < 2 ^ 32
  blocksCount_lt : blocksCount < 2 ^ 64

/-- What `ext2fs_open` and `ext2fs_read_block_bitmap` make of a file. -/
inductive Opening where
  | openFailed
  | bitmapFailed
  | opened (fs : Ext2Filesystem)

/-- How a read ends: normally, with an exception, or by writing past the destination. -/
inductive ReadStatus where
  | ok
  | threw (what : String)
  | overran
  deriving DecidableEq, Repr

/-- The outcome of one `read_block`, with the bytes it asked the device for. -/
structure ReadCall (σ β : Type*) where
  reader : σ
  buffer : β
  requested : Nat
  status : ReadStatus

namespace Ext2Filesystem

def construct : Opening → Except String Ext2Filesystem
  | .openFailed => .error "Could not open filesystem"
  | .bitmapFailed => .error "Could not read block bitmap"
  | .opened fs => .ok fs

def blocksize (fs : Ext2Filesystem) : Nat := 1024 * 2 ^ fs.logBlockSize

def blockIsUsed (fs : Ext2Filesystem) (blk : Nat) : Bool := fs.blockMap blk

/-- The image from the start of a block on. -/
def bytes (fs : Ext2Filesystem) (blk size : Nat) : List Byte :=
  (List.range size).map (fun index => fs.image (blk * fs.blocksize + index))

def block (fs : Ext2Filesystem) (blk : Nat) : List Byte := fs.bytes blk fs.blocksize

/-- The I/O layer takes the count as a signed number: blocks, or bytes if negative. -/
def transferSize (fs : Ext2Filesystem) (count : Word) : Nat :=
  if count.toInt < 0 then count.toInt.natAbs else count.toNat * fs.blocksize

def next (fs : Ext2Filesystem) : Ext2Filesystem := { fs with calls := fs.calls + 1 }

def errval (fs : Ext2Filesystem) : Int := (fs.io fs.calls).errval

/-- What the next call of `io_channel_read_blk64` puts into the caller's memory. -/
def moved (fs : Ext2Filesystem) (blk size : Nat) : List Byte :=
  if fs.errval = 0 then fs.bytes blk size else (fs.io fs.calls).scribble.take size

/-- `read_block` into raw memory, which holds `data.length` bytes. -/
def readBlock (fs : Ext2Filesystem) (blk : Nat) (data : List Byte) (count : Word) :
    ReadCall Ext2Filesystem (List Byte) :=
  let size := fs.transferSize count
  let moved := fs.moved blk size
  if data.length < moved.length then ⟨fs.next, data, size, .overran⟩
  else if fs.errval ≠ 0 then
    ⟨fs.next, overlay moved data, size, .threw "Could not read block"⟩
  else ⟨fs.next, overlay moved data, size, .ok⟩

/-- `read_block` into a vector, whose size is compared with a 32-bit product. -/
def readBlockVector (fs : Ext2Filesystem) (blk : Nat) (data : List Byte) (count : Word) :
    ReadCall Ext2Filesystem (List Byte) :=
  if data.length ≠ (count * BitVec.ofNat 32 fs.blocksize).toNat then
    ⟨fs, data, 0, .threw "Incorrect buffer size in Ext2Filesystem::read_block"⟩
  else fs.readBlock blk data count

/-- A channel on which no read fails. -/
def Quiet (fs : Ext2Filesystem) : Prop := ∀ call, (fs.io call).errval = 0

/-- A filesystem of the given shape on a channel without errors; block sizes end at 64kB. -/
def ofImage (logBlockSize : Nat) (firstDataBlock : BitVec 32) (blocksCount : BitVec 64)
    (blockMap : Nat → Bool) (image : Nat → Byte) : Ext2Filesystem where
  logBlockSize := min logBlockSize 6
  firstDataBlock := firstDataBlock.toNat
  blocksCount := blocksCount.toNat
  blockMap := blockMap
  image := image
  io _ := ⟨0, []⟩
  calls := 0
  logBlockSize_le := Nat.min_le_right _ _
  firstDataBlock_lt := firstDataBlock.isLt
  blocksCount_lt := blocksCount.isLt

theorem ofImage_quiet (logBlockSize : Nat) (firstDataBlock : BitVec 32) (blocksCount : BitVec 64)
    (blockMap : Nat → Bool) (image : Nat → Byte) :
    (ofImage logBlockSize firstDataBlock blocksCount blockMap image).Quiet := fun _ => rfl

@[simp] theorem next_blocksize (fs : Ext2Filesystem) : fs.next.blocksize = fs.blocksize := rfl
@[simp] theorem next_blockIsUsed (fs : Ext2Filesystem) : fs.next.blockIsUsed = fs.blockIsUsed := rfl
@[simp] theorem next_block (fs : Ext2Filesystem) : fs.next.block = fs.block := rfl

/-- The filesystem after some more calls of `io_channel_read_blk64`. -/
def advance (fs : Ext2Filesystem) (count : Nat) : Ext2Filesystem :=
  { fs with calls := fs.calls + count }

@[simp] theorem advance_zero (fs : Ext2Filesystem) : fs.advance 0 = fs := rfl
@[simp] theorem advance_next (fs : Ext2Filesystem) (count : Nat) :
    (fs.advance count).next = fs.advance (count + 1) := rfl
@[simp] theorem advance_blocksize (fs : Ext2Filesystem) (count : Nat) :
    (fs.advance count).blocksize = fs.blocksize := rfl
@[simp] theorem advance_blockIsUsed (fs : Ext2Filesystem) (count : Nat) :
    (fs.advance count).blockIsUsed = fs.blockIsUsed := rfl
@[simp] theorem advance_block (fs : Ext2Filesystem) (count : Nat) :
    (fs.advance count).block = fs.block := rfl
@[simp] theorem advance_errval (fs : Ext2Filesystem) (count : Nat) :
    (fs.advance count).errval = (fs.io (fs.calls + count)).errval := rfl

/-- The unallocated ones of some blocks, which are the ones that both programs read. -/
def unused (fs : Ext2Filesystem) (blks : List Nat) : List Nat :=
  blks.filter (fun blk => !fs.blockIsUsed blk)

theorem unused_free {fs : Ext2Filesystem} {blk : Nat} (free : fs.blockIsUsed blk = false)
    (seen : List Nat) : fs.unused (seen ++ [blk]) = fs.unused seen ++ [blk] := by
  simp [unused, List.filter_append, free]

theorem unused_used {fs : Ext2Filesystem} {blk : Nat} (used : fs.blockIsUsed blk = true)
    (seen : List Nat) : fs.unused (seen ++ [blk]) = fs.unused seen := by
  simp [unused, List.filter_append, used]

/-- A free block among others, with those before it. -/
theorem unused_split {fs : Ext2Filesystem} {blk : Nat} (free : fs.blockIsUsed blk = false)
    (seen rest : List Nat) :
    fs.unused (seen ++ blk :: rest) = fs.unused seen ++ blk :: fs.unused rest := by
  simp [unused, List.filter_append, free]

/-- Calls without errors before one more without an error. -/
theorem fine_snoc {fs : Ext2Filesystem} {count : Nat}
    (fine : ∀ index < count, (fs.io (fs.calls + index)).errval = 0)
    (last : (fs.io (fs.calls + count)).errval = 0) :
    ∀ index < count + 1, (fs.io (fs.calls + index)).errval = 0 := by
  intro index early
  rcases Nat.lt_succ_iff_lt_or_eq.mp early with earlier | rfl
  · exact fine index earlier
  · exact last

theorem next_quiet {fs : Ext2Filesystem} (quiet : fs.Quiet) : fs.next.Quiet := quiet

@[simp] theorem bytes_length (fs : Ext2Filesystem) (blk size : Nat) :
    (fs.bytes blk size).length = size := by
  rw [bytes, List.length_map, List.length_range]

@[simp] theorem block_length (fs : Ext2Filesystem) (blk : Nat) :
    (fs.block blk).length = fs.blocksize := fs.bytes_length blk _

@[simp] theorem transferSize_one (fs : Ext2Filesystem) : fs.transferSize 1 = fs.blocksize := by
  have positive : ¬(1 : Word).toInt < 0 := by decide
  rw [transferSize, if_neg positive]
  exact Nat.one_mul _

@[simp] theorem readBlock_reader (fs : Ext2Filesystem) (blk : Nat) (data : List Byte)
    (count : Word) : (fs.readBlock blk data count).reader = fs.next := by
  simp only [readBlock]
  split
  · rfl
  split <;> rfl

@[simp] theorem readBlock_requested (fs : Ext2Filesystem) (blk : Nat) (data : List Byte)
    (count : Word) : (fs.readBlock blk data count).requested = fs.transferSize count := by
  simp only [readBlock]
  split
  · rfl
  split <;> rfl

@[simp] theorem readBlock_length (fs : Ext2Filesystem) (blk : Nat) (data : List Byte)
    (count : Word) : (fs.readBlock blk data count).buffer.length = data.length := by
  simp only [readBlock]
  split
  · rfl
  split <;> exact overlay_length _ _

theorem moved_length_le (fs : Ext2Filesystem) (blk size : Nat) :
    (fs.moved blk size).length ≤ size := by
  unfold moved
  split
  · exact (fs.bytes_length blk size).le
  · rw [List.length_take]
    omega

theorem moved_fine {fs : Ext2Filesystem} (blk size : Nat) (fine : fs.errval = 0) :
    fs.moved blk size = fs.bytes blk size := if_pos fine

/-- Everything that a read of one block can do. -/
theorem readBlock_cases (fs : Ext2Filesystem) (blk : Nat) (data : List Byte) :
    ((fs.readBlock blk data 1).status = .ok ∧ fs.errval = 0 ∧ fs.blocksize ≤ data.length ∧
        (fs.readBlock blk data 1).buffer = fs.block blk ++ data.drop fs.blocksize) ∨
      ((fs.readBlock blk data 1).status = .threw "Could not read block" ∧ fs.errval ≠ 0) ∨
      ((fs.readBlock blk data 1).status = .overran ∧ data.length < fs.blocksize) := by
  have bound := fs.moved_length_le blk fs.blocksize
  simp only [readBlock, transferSize_one]
  by_cases tooLong : data.length < (fs.moved blk fs.blocksize).length
  · rw [if_pos tooLong]
    exact Or.inr (Or.inr ⟨rfl, by omega⟩)
  · rw [if_neg tooLong]
    by_cases fine : fs.errval = 0
    · have whole : fs.moved blk fs.blocksize = fs.block blk := moved_fine blk _ fine
      rw [whole, block_length] at tooLong
      rw [if_neg (not_not.mpr fine), whole]
      refine Or.inl ⟨rfl, fine, by omega, ?_⟩
      rw [overlay, block_length, List.take_of_length_le (by rw [block_length]; omega)]
    · rw [if_pos fine]
      exact Or.inr (Or.inl ⟨rfl, fine⟩)

/-- A read of one block goes past its destination just when what it moves does not fit. -/
theorem readBlock_overran_iff (fs : Ext2Filesystem) (blk : Nat) (data : List Byte) :
    (fs.readBlock blk data 1).status = .overran ↔
      data.length < fs.blocksize ∧
        (fs.errval = 0 ∨ data.length < (fs.io fs.calls).scribble.length) := by
  have moved : (fs.moved blk fs.blocksize).length =
      if fs.errval = 0 then fs.blocksize
      else min fs.blocksize (fs.io fs.calls).scribble.length := by
    unfold Ext2Filesystem.moved
    split
    · exact fs.bytes_length blk _
    · exact List.length_take
  simp only [readBlock, transferSize_one]
  by_cases tooLong : data.length < (fs.moved blk fs.blocksize).length
  · rw [if_pos tooLong]
    rw [moved] at tooLong
    refine iff_of_true rfl ?_
    split at tooLong
    · next fine => exact ⟨tooLong, Or.inl fine⟩
    · exact ⟨by omega, Or.inr (by omega)⟩
  · rw [if_neg tooLong]
    rw [moved] at tooLong
    refine iff_of_false (by split <;> simp) ?_
    rintro ⟨short, fine | scribbled⟩
    · rw [if_pos fine] at tooLong
      exact tooLong short
    · split at tooLong <;> omega

/-- A quiet channel fills any destination that holds a block. -/
theorem readBlock_quiet {fs : Ext2Filesystem} (blk : Nat) {data : List Byte} (quiet : fs.Quiet)
    (fits : fs.blocksize ≤ data.length) :
    (fs.readBlock blk data 1).status = .ok ∧
      (fs.readBlock blk data 1).buffer = fs.block blk ++ data.drop fs.blocksize := by
  rcases fs.readBlock_cases blk data with ⟨ok, _, _, filled⟩ | ⟨_, failed⟩ | ⟨_, short⟩
  · exact ⟨ok, filled⟩
  · exact absurd (quiet fs.calls) failed
  · omega

end Ext2Filesystem

end MinecraftCarve
